import QubershipAirflow.DrSync.SyncRuns

/-! What the wiring of `DR_SYNC_DAG_V2` keeps true in every history of its runs. -/
namespace QubershipAirflow.DrSync

open Programs TaskGraph Runs

variable {folderList : List String}

namespace SyncState

variable {state next : SyncState folderList}

theorem finish_eq_some {task : DagTask folderList} {ending : Ending (DagTask folderList)} :
    state.finish task ending = some next ↔
      ∃ live, (drSyncDag folderList).finish state.live task ending = some live ∧
        { state with live := live } = next := by
  simp only [finish, Option.map_eq_some_iff]

theorem callHdfs_eq_some {folder : Fin folderList.length} {α : Type} {work : Option (Task α)}
    {task : DagTask folderList} {keep : Task α → task.Work} :
    state.callHdfs folder work task keep = some next ↔
      ∃ program rest sites, work = some program ∧
        program.advance hdfs (state.sites folder) = some (rest, sites) ∧
        { state.setSites folder sites with
          live := state.live.put task (some (keep rest)) } = next := by
  simp only [callHdfs, Option.bind_eq_some_iff, Option.map_eq_some_iff, Prod.exists]
  constructor
  · rintro ⟨program, hwork, rest, sites, hadvance, hnext⟩
    exact ⟨program, rest, sites, hwork, hadvance, hnext⟩
  · rintro ⟨program, rest, sites, hwork, hadvance, hnext⟩
    exact ⟨program, hwork, rest, sites, hadvance, hnext⟩

theorem callAmbari_eq_some {answer : AmbariAnswer} {work : Option (HiveTask Unit)}
    {task : DagTask folderList} {keep : HiveTask Unit → task.Work} :
    state.callAmbari answer work task keep = some next ↔
      ∃ program op rest, work = some program ∧ program.answer answer = some (op, rest) ∧
        { state with
          ambari := state.ambari ++ [⟨op, answer⟩]
          live := state.live.put task (some (keep rest)) } = next := by
  simp only [callAmbari, Option.bind_eq_some_iff, Option.map_eq_some_iff, Prod.exists]
  constructor
  · rintro ⟨program, hwork, op, rest, hanswer, hnext⟩
    exact ⟨program, op, rest, hwork, hanswer, hnext⟩
  · rintro ⟨program, op, rest, hwork, hanswer, hnext⟩
    exact ⟨program, hwork, op, rest, hanswer, hnext⟩

theorem orphan_eq_some {folder : Fin folderList.length} {target : Location} {tree : Tree} :
    state.orphan folder target tree = some next ↔ (folder, target) ∈ state.orphans ∧
      ∃ sites, (state.sites folder).copied target tree = some sites ∧
        state.setSites folder sites = next := by
  simp only [orphan, Option.ite_none_right_eq_some, Option.map_eq_some_iff]

theorem written {move : SyncMove folderList} (h : state.step move = some next)
    (hmove : move.isWrite = true) : ∃ stored, next = { state with stored := stored } := by
  cases move with
  | orphan folder target tree =>
    obtain ⟨-, sites, -, rfl⟩ := orphan_eq_some.1 h
    exact ⟨_, rfl⟩
  | spread folder sites =>
    simp only [step] at h
    split_ifs at h
    cases h
    exact ⟨_, rfl⟩
  | users folder content =>
    simp only [step] at h
    split_ifs at h
    cases h
    exact ⟨_, rfl⟩
  | _ => cases hmove

inductive Advances (state next : SyncState folderList) : Prop where
  | reset (hover : state.live.Over) (hlive : next.live = .initial)
      (hpushed : next.pushed = fun _ => none)
  | stays (hlive : next.live = state.live) (hpushed : next.pushed = state.pushed)
  | moves (hmoves : (drSyncDag folderList).Moves state.live next.live)
      (hverify : ∀ folder, next.live.run.states (.verifyState folder) = .success →
        state.live.run.states (.verifyState folder) = .success)
      (hpushed : next.pushed = state.pushed)
  | chose (folder : Fin folderList.length) (branch : Branch)
      (hfinish : (drSyncDag folderList).finish state.live (.verifyState folder)
        (.success (some (branch.copyTask folder))) = some next.live)
      (hpushed : next.pushed = Function.update state.pushed folder (some branch))

theorem finish_advances {before : SyncState folderList} {task : DagTask folderList}
    {ending : Ending (DagTask folderList)} (hlive : before.live = state.live)
    (hpushed : before.pushed = state.pushed) (h : before.finish task ending = some next)
    (hending : (∀ folder, task ≠ .verifyState folder) ∨ ending = .failure) :
    Advances state next := by
  obtain ⟨live, hfinish, rfl⟩ := finish_eq_some.1 h
  rw [hlive] at hfinish
  refine .moves (.finish task ending hfinish) (fun folder hsuccess => ?_) hpushed
  obtain ⟨-, run, hstep, hlive⟩ := Graph.finish_eq_some.1 hfinish
  subst hlive
  refine Graph.success_of_step hstep (fun pick hpick => ?_) hsuccess
  rcases hending with hother | rfl
  · cases ending with
    | success other =>
      cases hpick
      exact hother folder rfl
    | failure => cases hpick
  · cases hpick

theorem callHdfs_advances {folder : Fin folderList.length} {α : Type} {work : Option (Task α)}
    {task : DagTask folderList} {keep : Task α → task.Work}
    (hwork : work.isSome → state.live.Running task)
    (h : state.callHdfs folder work task keep = some next) : Advances state next := by
  obtain ⟨program, rest, sites, rfl, -, rfl⟩ := callHdfs_eq_some.1 h
  exact .moves (.work task _ (hwork rfl)) (fun _ h => h) rfl

theorem callAmbari_advances {answer : AmbariAnswer} {work : Option (HiveTask Unit)}
    {task : DagTask folderList} {keep : HiveTask Unit → task.Work}
    (hwork : work.isSome → state.live.Running task)
    (h : state.callAmbari answer work task keep = some next) : Advances state next := by
  obtain ⟨program, op, rest, rfl, -, rfl⟩ := callAmbari_eq_some.1 h
  exact .moves (.work task _ (hwork rfl)) (fun _ h => h) rfl

theorem ended_advances {task : DagTask folderList} (h : state.ended task = some next) :
    Advances state next := by
  cases task with
  | verifyState folder =>
    simp only [ended] at h
    split at h
    · rename_i branch hwork
      obtain ⟨live, hfinish, rfl⟩ := finish_eq_some.1 h
      exact .chose folder branch hfinish rfl
    · exact finish_advances (by rfl) (by rfl) h (.inr rfl)
    · cases h
  | postUpdate folder =>
    simp only [ended] at h
    split at h
    · exact finish_advances (by rfl) (by rfl) h (.inl (by simp))
    · exact finish_advances (by rfl) (by rfl) h (.inr rfl)
    · cases h
  | stopHive =>
    simp only [ended] at h
    split at h
    · exact finish_advances rfl rfl h (.inl (by simp))
    · exact finish_advances rfl rfl h (.inr rfl)
    · cases h
  | startHive =>
    simp only [ended] at h
    split at h
    · exact finish_advances rfl rfl h (.inl (by simp))
    · exact finish_advances rfl rfl h (.inr rfl)
    · cases h
  | _ => cases h

theorem call_advances {task : DagTask folderList} (h : state.call task = some next) :
    Advances state next := by
  cases task with
  | verifyState folder => exact callHdfs_advances id h
  | postUpdate folder => exact callHdfs_advances id h
  | _ => cases h

theorem answered_advances {answer : AmbariAnswer} {task : DagTask folderList}
    (h : state.answered answer task = some next) : Advances state next := by
  cases task with
  | stopHive => exact callAmbari_advances id h
  | startHive => exact callAmbari_advances id h
  | _ => cases h

theorem distcp_eq_some {folder : Fin folderList.length} {tree : Tree} {succeeded : Bool} :
    state.distcp folder tree succeeded = some next ↔
      ∃ branch sites, state.pushed folder = some branch ∧
        (state.sites folder).copied branch.targetFolder tree = some sites ∧
        (if succeeded then
            (state.setSites folder sites).finish (branch.copyTask folder) (.success none)
          else (((state.setSites folder sites).abandon (branch.copyTask folder)).record folder
            (.failed .hdfs)).finish (branch.copyTask folder) .failure) = some next := by
  simp only [distcp, Option.bind_eq_bind, Option.bind_eq_some_iff]
  constructor
  · rintro ⟨branch, hpushed, sites, hcopied, h⟩
    exact ⟨branch, sites, hpushed, hcopied, h⟩
  · rintro ⟨branch, sites, hpushed, hcopied, h⟩
    exact ⟨branch, hpushed, sites, hcopied, h⟩

theorem copyTask_ne_verifyState (branch : Branch) (folder other : Fin folderList.length) :
    branch.copyTask folder ≠ .verifyState other := by
  cases branch <;> simp [Branch.copyTask]

theorem lost_advances {task : DagTask folderList} (h : state.lost task = some next) :
    Advances state next := by
  unfold lost at h
  split at h
  · exact finish_advances (by rfl) (by rfl) h (.inr rfl)
  · exact finish_advances rfl rfl h (.inr rfl)

theorem step_advances {move : SyncMove folderList} (h : state.step move = some next) :
    Advances state next := by
  cases move with
  | begin task =>
    obtain ⟨live, hstart, rfl⟩ := Option.map_eq_some_iff.1 h
    refine .moves (.start task _ hstart) (fun folder hsuccess => ?_) rfl
    obtain ⟨-, -, -, rfl⟩ := Graph.start_eq_some.1 hstart
    exact hsuccess
  | call task => exact call_advances h
  | answered task answer => exact answered_advances h
  | ended task => exact ended_advances h
  | plain task =>
    simp only [step] at h
    split_ifs at h with hplain
    refine finish_advances rfl rfl h (.inl ?_)
    rintro folder rfl
    cases hplain
  | distcp folder tree succeeded =>
    obtain ⟨branch, sites, -, -, hfinish⟩ := distcp_eq_some.1 h
    cases succeeded with
    | true =>
      exact finish_advances (by rfl) (by rfl) hfinish
        (.inl (copyTask_ne_verifyState branch folder))
    | false => exact finish_advances (by rfl) (by rfl) hfinish (.inr rfl)
  | lost task => exact lost_advances h
  | pass task =>
    obtain ⟨live, hpass, rfl⟩ := Option.map_eq_some_iff.1 h
    refine .moves (.pass task hpass) (fun folder hsuccess => ?_) rfl
    obtain ⟨run, hstep, rfl⟩ := Graph.pass_eq_some.1 hpass
    exact Graph.success_of_step hstep (by simp) hsuccess
  | orphan | spread | users =>
    obtain ⟨stored, rfl⟩ := written h rfl
    exact .stays rfl rfl
  | nextRun =>
    simp only [step] at h
    split_ifs at h with hover
    cases h
    refine .reset ⟨hover.1, fun task hrunning => ?_⟩ rfl rfl
    have hidle := hover.2 task
    rw [Option.isNone_iff_eq_none] at hidle
    simp [Live.Running, hidle] at hrunning

structure Wired (state : SyncState folderList) : Prop where
  reached : Reaches (drSyncDag folderList).step DagRun.initial state.live.run
  sound : (drSyncDag folderList).Sound state.live
  chosen : ∀ folder branch, state.pushed folder = some branch →
    state.live.run.states (.verifyState folder) = .success ∧
      state.live.run.picked (.verifyState folder) = some (branch.copyTask folder)
  pushed : ∀ folder, state.live.run.states (.verifyState folder) = .success →
    (state.pushed folder).isSome

theorem Wired.of_initial (hlive : state.live = .initial) (hpushed : state.pushed = fun _ => none) :
    Wired state where
  reached := by rw [hlive]; exact .refl _
  sound := by rw [hlive]; exact Graph.Sound.initial
  chosen := by simp [hpushed]
  pushed := by simp [hlive, Live.initial, DagRun.initial]

theorem chosen_of_finish {live after : Live (DagTask folderList) DagTask.Work}
    {task : DagTask folderList} {pick : Option (DagTask folderList)}
    (h : (drSyncDag folderList).finish live task (.success pick) = some after) :
    after.run.states task = .success ∧ after.run.picked task = pick := by
  obtain ⟨-, run, hstep, rfl⟩ := Graph.finish_eq_some.1 h
  simp only [Ending.action, Graph.step] at hstep
  split_ifs at hstep
  cases hstep
  simp [Graph.succeed]

theorem Wired.step {move : SyncMove folderList} (h : Wired state)
    (hstep : state.step move = some next) : Wired next := by
  cases step_advances hstep with
  | reset _ hlive hpushed => exact .of_initial hlive hpushed
  | stays hlive hpushed =>
    refine ⟨?_, ?_, ?_, ?_⟩
    · rw [hlive]
      exact h.reached
    · rw [hlive]
      exact h.sound
    · rw [hlive, hpushed]
      exact h.chosen
    · rw [hlive, hpushed]
      exact h.pushed
  | moves hmoves hverify hpushed =>
    refine ⟨h.reached.trans hmoves.reaches, h.sound.moves hmoves, ?_, ?_⟩
    · intro folder branch hbranch
      rw [hpushed] at hbranch
      obtain ⟨hsuccess, hpicked⟩ := h.chosen folder branch hbranch
      obtain ⟨hstates, hpick⟩ := hmoves.extends (.verifyState folder) (by simp [hsuccess])
      exact ⟨hstates.trans hsuccess, hpick.trans hpicked⟩
    · intro folder hsuccess
      rw [hpushed]
      exact h.pushed folder (hverify folder hsuccess)
  | chose folder branch hfinish hpushed =>
    have hmoves : (drSyncDag folderList).Moves state.live next.live := .finish _ _ hfinish
    refine ⟨h.reached.trans hmoves.reaches, h.sound.moves hmoves, ?_, ?_⟩
    · intro other found hfound
      rw [hpushed] at hfound
      by_cases hself : other = folder
      · subst hself
        rw [Function.update_self] at hfound
        cases hfound
        exact chosen_of_finish hfinish
      · rw [Function.update_of_ne hself] at hfound
        obtain ⟨hsuccess, hpicked⟩ := h.chosen other found hfound
        obtain ⟨hstates, hpick⟩ := hmoves.extends (.verifyState other) (by simp [hsuccess])
        exact ⟨hstates.trans hsuccess, hpick.trans hpicked⟩
    · intro other hsuccess
      rw [hpushed]
      by_cases hself : other = folder
      · subst hself
        simp
      · rw [Function.update_of_ne hself]
        obtain ⟨-, run, hrun, hlive⟩ := Graph.finish_eq_some.1 hfinish
        rw [← hlive] at hsuccess
        exact h.pushed other (Graph.success_of_step hrun (by simp [Ending.action, Ne.symm hself])
          hsuccess)

theorem Wired.justified (h : Wired state) (task : DagTask folderList) :
    (drSyncDag folderList).Justified state.live.run task :=
  (drSyncDag folderList).justified h.reached task

section Folders

variable {folder : Fin folderList.length} {branch : Branch} {copy : DagTask folderList}

theorem copyTask_mem (branch : Branch) (folder : Fin folderList.length) :
    branch.copyTask folder ∈ DagTask.choices (.verifyState folder) := by
  cases branch <;> simp [Branch.copyTask, DagTask.choices]

theorem copy_upstream_eq (hcopy : copy ∈ DagTask.choices (.verifyState folder)) :
    (drSyncDag folderList).upstream copy = [.verifyState folder] := (copy_upstream hcopy).1

theorem postUpdate_upstream (folder : Fin folderList.length) :
    (drSyncDag folderList).upstream (.postUpdate folder) =
      DagTask.choices (.verifyState folder) := rfl

theorem Wired.idle (h : Wired state) {task : DagTask folderList}
    (hdecided : state.live.run.states task ≠ .none) : state.live.working task = none := by
  by_contra hworking
  exact hdecided (h.sound task (Option.isSome_iff_ne_none.2 hworking)).1

theorem Wired.unpushed (h : Wired state)
    (hnone : state.live.run.states (.verifyState folder) = .none) :
    state.pushed folder = none := by
  cases hpushed : state.pushed folder with
  | none => rfl
  | some branch =>
    obtain ⟨hsuccess, -⟩ := h.chosen folder branch hpushed
    rw [hnone] at hsuccess
    cases hsuccess

theorem Wired.undecided (h : Wired state)
    (hnone : state.live.run.states (.verifyState folder) = .none) :
    (∀ copy ∈ DagTask.choices (.verifyState folder), state.live.run.states copy = .none) ∧
      state.live.run.states (.postUpdate folder) = .none := by
  have hcopies : ∀ copy ∈ DagTask.choices (.verifyState folder),
      state.live.run.states copy = .none := by
    intro copy hcopy
    have hupstream := copy_upstream_eq hcopy
    exact (h.justified copy).undecided (by simp [hupstream]) (by simp [hupstream, hnone])
  refine ⟨hcopies, (h.justified _).undecided ?_ hcopies⟩
  simp [drSyncDag, DagTask.upstream]

theorem Wired.pushed_of_copy (h : Wired state)
    (hcopy : copy ∈ DagTask.choices (.verifyState folder))
    (hverify : state.live.run.states (.verifyState folder) = .success)
    (hnot : state.live.run.states copy ≠ .skipped ∧
      state.live.run.states copy ≠ .upstreamFailed) :
    ∃ branch, state.pushed folder = some branch ∧ branch.copyTask folder = copy := by
  obtain ⟨branch, hbranch⟩ := Option.isSome_iff_exists.1 (h.pushed folder hverify)
  obtain ⟨-, hpicked⟩ := h.chosen folder branch hbranch
  refine ⟨branch, hbranch, by_contra fun hne => ?_⟩
  have hover : (drSyncDag folderList).PassedOver state.live.run copy :=
    ⟨.verifyState folder, hcopy, hverify, by rw [hpicked]; simpa using hne⟩
  exact ((h.justified copy).notRun hover).elim hnot.1 hnot.2

theorem Wired.verify_success (h : Wired state)
    (hcopy : copy ∈ DagTask.choices (.verifyState folder))
    (hran : state.live.run.executed copy ∨ state.live.Running copy) :
    state.live.run.states (.verifyState folder) = .success := by
  have hupstream := copy_upstream_eq hcopy
  have hsome : (drSyncDag folderList).upstream copy ≠ [] := by simp [hupstream]
  obtain ⟨other, hmem, hother⟩ := hran.elim (fun hran => ((h.justified copy).ran hran).2 hsome)
    fun hrunning => h.sound.upstream_success hrunning hsome
  rw [hupstream, List.mem_singleton] at hmem
  rwa [hmem] at hother

theorem Wired.pushed_of_running (h : Wired state)
    (hcopy : copy ∈ DagTask.choices (.verifyState folder)) (hrunning : state.live.Running copy) :
    ∃ branch, state.pushed folder = some branch ∧ branch.copyTask folder = copy := by
  refine h.pushed_of_copy hcopy (h.verify_success hcopy (.inr hrunning)) ?_
  simp [(h.sound copy hrunning).1]

theorem Wired.copied (h : Wired state)
    (hverdict : (drSyncDag folderList).verdict state.live.run (.postUpdate folder) = .run) :
    ∃ branch, state.pushed folder = some branch ∧
      state.live.run.states (branch.copyTask folder) = .success := by
  obtain ⟨copy, hcopy, hsuccess⟩ := ((drSyncDag folderList).verdict_run hverdict).2
    (by simp [drSyncDag, DagTask.upstream])
  rw [postUpdate_upstream] at hcopy
  have hran : state.live.run.executed copy := by
    simp [DagRun.executed, hsuccess, TaskState.isExecuted]
  obtain ⟨branch, hbranch, rfl⟩ := h.pushed_of_copy hcopy (h.verify_success hcopy (.inl hran))
    (by simp [hsuccess])
  exact ⟨branch, hbranch, hsuccess⟩

theorem Wired.copy_not_passed (h : Wired state) (hpushed : state.pushed folder = some branch) :
    state.live.run.states (branch.copyTask folder) ≠ .skipped ∧
      state.live.run.states (branch.copyTask folder) ≠ .upstreamFailed := by
  obtain ⟨hverify, hpicked⟩ := h.chosen folder branch hpushed
  have hmem := copyTask_mem branch folder
  have hjust := h.justified (branch.copyTask folder)
  constructor
  · refine hjust.not_skipped (fun hover => ?_) (by simp [copy_upstream_eq hmem, hverify])
    obtain ⟨owner, howner, -, hother⟩ := passedOver_copy hover
    obtain rfl := (copy_upstream hmem).2 owner howner
    exact hother hpicked
  · intro hfailed
    obtain ⟨other, hother, hfails⟩ := hjust.failed hfailed
    rw [copy_upstream_eq hmem, List.mem_singleton] at hother
    rw [hother, hverify] at hfails
    cases hfails

theorem Wired.post_not_failed (h : Wired state) (hpushed : state.pushed folder = some branch)
    (hcopy : (state.live.run.states (branch.copyTask folder)).isFailure = false) :
    state.live.run.states (.postUpdate folder) ≠ .upstreamFailed := by
  obtain ⟨hverify, hpicked⟩ := h.chosen folder branch hpushed
  intro hfailed
  obtain ⟨other, hother, hfails⟩ := (h.justified (.postUpdate folder)).failed hfailed
  rw [postUpdate_upstream] at hother
  have hne : other ≠ branch.copyTask folder := by
    rintro rfl
    rw [hcopy] at hfails
    cases hfails
  have hover : (drSyncDag folderList).PassedOver state.live.run other :=
    ⟨.verifyState folder, hother, hverify, by rw [hpicked]; simpa using Ne.symm hne⟩
  rcases (h.justified other).notRun hover with hskipped | hpassed
  · rw [hskipped] at hfails
    cases hfails
  · obtain ⟨before, hbefore, hfails⟩ := (h.justified other).failed hpassed
    rw [copy_upstream_eq hother, List.mem_singleton] at hbefore
    rw [hbefore, hverify] at hfails
    cases hfails

theorem Wired.post_undecided (h : Wired state) (hpushed : state.pushed folder = some branch)
    (hnone : state.live.run.states (branch.copyTask folder) = .none) :
    state.live.run.states (.postUpdate folder) = .none := by
  have hran : ¬ state.live.run.executed (.postUpdate folder) := fun hran => by
    simpa [hnone] using ((h.justified _).ran hran).1 _ (copyTask_mem branch folder)
  cases hstate : state.live.run.states (.postUpdate folder) with
  | none => rfl
  | success => simp [DagRun.executed, hstate, TaskState.isExecuted] at hran
  | failed => simp [DagRun.executed, hstate, TaskState.isExecuted] at hran
  | skipped => exact absurd hstate (postUpdate_not_skipped h.reached folder)
  | upstreamFailed =>
    exact absurd hstate (h.post_not_failed hpushed (by rw [hnone]; rfl))

theorem post_of_running (hw : Wired state) {task : DagTask folderList}
    (hrunning : state.live.Running task) (hfolder : task.folder? = some folder) :
    state.live.run.states (.postUpdate folder) = .none := by
  have hcopies : task ∈ DagTask.choices (.verifyState folder) →
      state.live.run.states (.postUpdate folder) = .none := by
    intro hmem
    obtain ⟨branch, hbranch, rfl⟩ := hw.pushed_of_running hmem hrunning
    exact hw.post_undecided hbranch (hw.sound _ hrunning).1
  cases task with
  | verifyState own =>
    cases hfolder
    exact (hw.undecided (hw.sound _ hrunning).1).2
  | postUpdate own =>
    cases hfolder
    exact (hw.sound _ hrunning).1
  | initializeFolder own =>
    cases hfolder
    exact hcopies (by simp [DagTask.choices])
  | updateFolder own =>
    cases hfolder
    exact hcopies (by simp [DagTask.choices])
  | _ => cases hfolder

/-- Hive runs, or is brought up, only behind the database copy and all validations. -/
theorem behind_validations (hw : Wired state)
    (h : state.live.Running .startHive ∨ state.live.run.executed .startHive) :
    state.live.run.states .copyPgHiveDatabase = .success ∧
      ∀ folder, state.live.run.states (.postUpdate folder) = .success := by
  have hupstream : ∀ task ∈ (drSyncDag folderList).upstream .startHive,
      state.live.run.states task = .success ∨ state.live.run.states task = .skipped :=
    fun task hmem => h.elim (fun hrunning => hw.sound.upstream hrunning hmem)
      fun hran => ((hw.justified _).ran hran).1 task hmem
  refine ⟨(hupstream _ (by simp [drSyncDag, DagTask.upstream])).resolve_right
    (chain_not_skipped hw.reached).2.1, fun folder => ?_⟩
  exact (hupstream _ (by simp [drSyncDag, DagTask.upstream])).resolve_right
    (postUpdate_not_skipped hw.reached folder)

end Folders

end SyncState

end QubershipAirflow.DrSync
