import Mathlib.Data.Fintype.Sum
import Mathlib.Tactic.DeriveFintype
import QubershipAirflow.Library.TaskGraph

/-! The wiring of `DR_SYNC_DAG_V2`: a chain that stops Hive and prepares the host, for
every folder a branch between two copies that `post_update` joins, and `start_hive`
behind all of them. Airflow refuses a DAG with two tasks of one id, so a folder
stands for its position in `folder_list`. -/
namespace QubershipAirflow.DrSync

open TaskGraph

inductive DagTask (folderList : List String) where
  | findCorrectSshHost
  | stopHive
  | doKinit
  | copyPgHiveDatabase
  | copyPgAirflowDatabase
  | verifyState (folder : Fin folderList.length)
  | initializeFolder (folder : Fin folderList.length)
  | updateFolder (folder : Fin folderList.length)
  | postUpdate (folder : Fin folderList.length)
  | startHive
  deriving DecidableEq, Fintype

namespace DagTask

variable {folderList : List String}

def triggerRule : DagTask folderList → TriggerRule
  | findCorrectSshHost | stopHive | postUpdate _ | startHive => .noneFailedMinOneSuccess
  | _ => .allSuccess

def upstream : DagTask folderList → List (DagTask folderList)
  | findCorrectSshHost => []
  | stopHive => [findCorrectSshHost]
  | doKinit => [stopHive]
  | copyPgHiveDatabase => [stopHive]
  | copyPgAirflowDatabase => []
  | verifyState _ => [doKinit]
  | initializeFolder folder => [verifyState folder]
  | updateFolder folder => [verifyState folder]
  | postUpdate folder => [initializeFolder folder, updateFolder folder]
  | startHive => (List.finRange folderList.length).map postUpdate ++ [copyPgHiveDatabase]

/-- `check_folder_state` returns the id of one copy task of its folder. -/
def choices : DagTask folderList → List (DagTask folderList)
  | verifyState folder => [initializeFolder folder, updateFolder folder]
  | _ => []

def depth : DagTask folderList → Nat
  | findCorrectSshHost | copyPgAirflowDatabase => 0
  | stopHive => 1
  | doKinit | copyPgHiveDatabase => 2
  | verifyState _ => 3
  | initializeFolder _ | updateFolder _ => 4
  | postUpdate _ => 5
  | startHive => 6

end DagTask

def drSyncDag (folderList : List String) : Graph (DagTask folderList) where
  upstream := DagTask.upstream
  rule := DagTask.triggerRule
  choices := DagTask.choices
  choices_upstream := by
    intro task choice hmem
    cases task <;> simp [DagTask.choices] at hmem
    rcases hmem with rfl | rfl <;> simp [DagTask.upstream]
  rank := DagTask.depth
  upstream_lt := by
    intro task other hmem
    cases task <;> simp [DagTask.upstream] at hmem
    case startHive =>
      rcases hmem with ⟨folder, rfl⟩ | rfl <;> simp [DagTask.depth]
    case postUpdate => rcases hmem with rfl | rfl <;> simp [DagTask.depth]
    all_goals subst hmem; simp [DagTask.depth]

section StartHive

variable {folderList : List String} {run : DagRun (DagTask folderList)}

theorem passedOver_copy {task : DagTask folderList}
    (h : (drSyncDag folderList).PassedOver run task) :
    ∃ folder, (task = .initializeFolder folder ∨ task = .updateFolder folder) ∧
      run.states (.verifyState folder) = .success ∧
      run.picked (.verifyState folder) ≠ some task := by
  obtain ⟨brancher, hchoice, hsuccess, hpick⟩ := h
  cases brancher <;> simp [drSyncDag, DagTask.choices] at hchoice
  case verifyState folder => exact ⟨folder, hchoice, hsuccess, hpick⟩

variable (hrun : Runs.Reaches (drSyncDag folderList).step DagRun.initial run)
include hrun

theorem chain_not_skipped :
    run.states .stopHive ≠ .skipped ∧ run.states .copyPgHiveDatabase ≠ .skipped ∧
      ∀ folder, run.states (.verifyState folder) ≠ .skipped := by
  have hjust := (drSyncDag folderList).justified hrun
  have hunder : ∀ {task other : DagTask folderList},
      (drSyncDag folderList).upstream task = [other] →
      (∀ folder, task ≠ .initializeFolder folder ∧ task ≠ .updateFolder folder) →
      run.states other ≠ .skipped → run.states task ≠ .skipped := by
    intro task other hupstream hcopy hother
    refine (hjust task).not_skipped (fun hover => ?_) (by simp [hupstream, hother])
    obtain ⟨folder, hfolder, -⟩ := passedOver_copy hover
    exact hfolder.elim (hcopy folder).1 (hcopy folder).2
  have hhost : run.states .findCorrectSshHost ≠ .skipped := by
    refine (hjust _).not_skipped (fun hover => ?_) (by simp [drSyncDag, DagTask.upstream])
    obtain ⟨folder, hfolder, -⟩ := passedOver_copy hover
    simp at hfolder
  have hstop : run.states .stopHive ≠ .skipped := hunder rfl (by simp) hhost
  have hkinit : run.states .doKinit ≠ .skipped := hunder rfl (by simp) hstop
  exact ⟨hstop, hunder rfl (by simp) hstop, fun folder => hunder rfl (by simp) hkinit⟩

omit hrun in
theorem copy_upstream {folder : Fin folderList.length} {copy : DagTask folderList}
    (hcopy : copy ∈ DagTask.choices (.verifyState folder)) :
    DagTask.upstream copy = [.verifyState folder] ∧
      ∀ owner, copy = .initializeFolder owner ∨ copy = .updateFolder owner → owner = folder := by
  simp only [DagTask.choices, List.mem_cons, List.not_mem_nil, or_false] at hcopy
  rcases hcopy with rfl | rfl <;> simp [DagTask.upstream, eq_comm]

/-- The branch follows one copy, so the join of the two is not skipped. -/
theorem postUpdate_not_skipped (folder : Fin folderList.length) :
    run.states (.postUpdate folder) ≠ .skipped := by
  have hjust := (drSyncDag folderList).justified hrun
  have hverify := (chain_not_skipped hrun).2.2 folder
  have hover : ¬ (drSyncDag folderList).PassedOver run (.postUpdate folder) := by
    intro hover
    obtain ⟨other, hother, -⟩ := passedOver_copy hover
    simp at hother
  have hskips : ∀ copy ∈ DagTask.choices (.verifyState folder), run.states copy = .skipped →
      run.states (.verifyState folder) = .success ∧
        run.picked (.verifyState folder) ≠ some copy := by
    intro copy hcopy hskipped
    rcases (hjust copy).skipped hskipped with hpassed | ⟨⟨other, hmem, hother⟩, -⟩
    · obtain ⟨owner, howner, hpick⟩ := passedOver_copy hpassed
      obtain rfl := (copy_upstream hcopy).2 owner howner
      exact hpick
    · simp only [drSyncDag, (copy_upstream hcopy).1, List.mem_singleton] at hmem
      exact absurd (hmem ▸ hother) hverify
  by_cases hinit : run.states (.initializeFolder folder) = .skipped
  · by_cases hupdate : run.states (.updateFolder folder) = .skipped
    · obtain ⟨hsuccess, hnotInit⟩ := hskips _ (by simp [DagTask.choices]) hinit
      obtain ⟨-, hnotUpdate⟩ := hskips _ (by simp [DagTask.choices]) hupdate
      have hpick := (hjust (.verifyState folder)).picked hsuccess
      cases hpicked : run.picked (.verifyState folder) <;>
        simp_all [Graph.mayPick, drSyncDag, DagTask.choices]
    · have hmem : .updateFolder folder ∈ (drSyncDag folderList).upstream (.postUpdate folder) := by
        simp [drSyncDag, DagTask.upstream]
      exact (hjust _).join_not_skipped rfl hover hmem hupdate
  · have hmem : .initializeFolder folder ∈
        (drSyncDag folderList).upstream (.postUpdate folder) := by
      simp [drSyncDag, DagTask.upstream]
    exact (hjust _).join_not_skipped rfl hover hmem hinit

theorem postUpdate_after_copy {folder : Fin folderList.length}
    (hran : run.executed (.postUpdate folder)) :
    ∃ copy, run.picked (.verifyState folder) = some copy ∧ run.states copy = .success := by
  have hjust := (drSyncDag folderList).justified hrun
  obtain ⟨copy, hmem, hsuccess⟩ := ((hjust _).ran hran).2 (by simp [drSyncDag, DagTask.upstream])
  have hchoice : copy ∈ (drSyncDag folderList).choices (.verifyState folder) := by
    simpa [drSyncDag, DagTask.upstream, DagTask.choices] using hmem
  have hverify : run.states (.verifyState folder) = .success :=
    (hjust copy).upstream_success (by simp [DagRun.executed, hsuccess, TaskState.isExecuted])
      ((drSyncDag folderList).choices_upstream _ _ hchoice) ((chain_not_skipped hrun).2.2 folder)
  refine ⟨copy, by_contra fun hpick => ?_, hsuccess⟩
  rcases (hjust copy).notRun ⟨_, hchoice, hverify, hpick⟩ with hstate | hstate <;>
    simp [hsuccess] at hstate

omit hrun in
theorem drSync_reaches_complete (run : DagRun (DagTask folderList)) :
    ∃ finish, Runs.Reaches (drSyncDag folderList).step run finish ∧ finish.Complete :=
  (drSyncDag folderList).reaches_complete run

theorem start_hive_executed_iff (hcomplete : run.Complete) :
    run.executed .startHive ↔
      run.states .copyPgHiveDatabase = .success ∧
        ∀ folder : Fin folderList.length,
          (∃ copy, run.picked (.verifyState folder) = some copy ∧
            run.states copy = .success) ∧
          run.states (.postUpdate folder) = .success := by
  have hjust := (drSyncDag folderList).justified hrun
  have hupstream : ∀ task, task ∈ (drSyncDag folderList).upstream .startHive ↔
      (∃ folder, .postUpdate folder = task) ∨ task = .copyPgHiveDatabase := by
    simp [drSyncDag, DagTask.upstream]
  constructor
  · intro hran
    have hsuccess : ∀ task, task ∈ (drSyncDag folderList).upstream .startHive →
        run.states task ≠ .skipped → run.states task = .success :=
      fun task hmem => (hjust _).upstream_success hran hmem
    refine ⟨hsuccess _ ((hupstream _).mpr (.inr rfl)) (chain_not_skipped hrun).2.1,
      fun folder => ?_⟩
    have hpost := hsuccess _ ((hupstream _).mpr (.inl ⟨folder, rfl⟩))
      (postUpdate_not_skipped hrun folder)
    exact ⟨postUpdate_after_copy hrun
      (by simp [DagRun.executed, hpost, TaskState.isExecuted]), hpost⟩
  · rintro ⟨hcopy, hfolders⟩
    refine (hjust _).executed (hcomplete _) ?_ ?_
    · refine (hjust _).join_not_skipped rfl (fun hover => ?_)
        ((hupstream .copyPgHiveDatabase).mpr (.inr rfl)) (by simp [hcopy])
      obtain ⟨folder, hfolder, -⟩ := passedOver_copy hover
      simp at hfolder
    · intro task hmem
      rcases (hupstream task).mp hmem with ⟨folder, rfl⟩ | rfl
      · simp [(hfolders folder).2, TaskState.isFailure]
      · simp [hcopy, TaskState.isFailure]

omit hrun in
/-- Two folders: one is copied for the first time, and one is updated. -/
theorem two_folders_start_hive :
    ∃ run : DagRun (DagTask ["/data", "/logs"]),
      Runs.Reaches (drSyncDag ["/data", "/logs"]).step DagRun.initial run ∧ run.Complete ∧
      run.executed .startHive := by
  obtain ⟨run, hrun, hcheck⟩ := Runs.exists_of_replay (drSyncDag ["/data", "/logs"]).step
    DagRun.initial
    [.succeed .findCorrectSshHost none, .succeed .stopHive none, .succeed .doKinit none,
      .succeed (.verifyState 0) (some (.initializeFolder 0)),
      .succeed (.verifyState 1) (some (.updateFolder 1)), .fail .copyPgAirflowDatabase,
      .succeed (.updateFolder 1) none, .succeed (.initializeFolder 0) none,
      .succeed .copyPgHiveDatabase none, .succeed (.postUpdate 0) none,
      .succeed (.postUpdate 1) none, .succeed .startHive none]
    (fun run => (∀ task, run.states task ≠ .none) ∧
      run.states .copyPgHiveDatabase = .success ∧
      (run.picked (.verifyState 0) = some (.initializeFolder 0) ∧
        run.states (.initializeFolder 0) = .success ∧ run.states (.postUpdate 0) = .success) ∧
      run.picked (.verifyState 1) = some (.updateFolder 1) ∧
        run.states (.updateFolder 1) = .success ∧ run.states (.postUpdate 1) = .success)
    (by decide +kernel)
  simp only [decide_eq_true_eq] at hcheck
  obtain ⟨hcomplete, hcopied, ⟨hpicked, hcopy, hpost⟩, hpicked', hcopy', hpost'⟩ := hcheck
  refine ⟨run, hrun, hcomplete, (start_hive_executed_iff hrun hcomplete).mpr ⟨hcopied, ?_⟩⟩
  intro folder
  match folder with
  | 0 => exact ⟨⟨_, hpicked, hcopy⟩, hpost⟩
  | 1 => exact ⟨⟨_, hpicked', hcopy'⟩, hpost'⟩

end StartHive

end QubershipAirflow.DrSync
