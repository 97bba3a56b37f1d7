import QubershipAirflow.DrSync.SyncInvariants

/-! What the runs of `DR_SYNC_DAG_V2` do to one folder is a history of that folder alone:
the trigger rules let its tasks work one after the other, and the tasks of other folders
do not touch it where its directory is separate from theirs. -/
namespace QubershipAirflow.DrSync

open Programs TaskGraph Runs

variable {folderList : List String}

namespace SyncState

def checking (state : SyncState folderList) (folder : Fin folderList.length) :
    Option (Task Branch) :=
  state.live.working (.verifyState folder)

def validating (state : SyncState folderList) (folder : Fin folderList.length) :
    Option (Task Unit) :=
  state.live.working (.postUpdate folder)

/-- Where an attempt stands, from the work of its tasks and from the pushed values with the
states of the copy and of the validation. -/
def phaseOf (checking : Option (Task Branch)) (validating : Option (Task Unit))
    (pushed : Option (Branch × TaskState × TaskState)) (outcome : Option Outcome) : Phase :=
  match checking, validating, pushed with
  | some task, _, _ => .checking task
  | none, some task, _ => .validating task
  | none, none, some (branch, .none, _) => .copying branch
  | none, none, some (_, .success, .none) => .validating validateDistcpSuccessful
  | none, none, _ => .idle outcome

def phase (state : SyncState folderList) (folder : Fin folderList.length) : Phase :=
  phaseOf (state.checking folder) (state.validating folder)
    ((state.pushed folder).map fun branch =>
      (branch, state.live.run.states (branch.copyTask folder),
        state.live.run.states (.postUpdate folder)))
    (state.outcomes folder)

def folderState (state : SyncState folderList) (folder : Fin folderList.length) : State :=
  ⟨state.sites folder, state.phase folder⟩

variable {state next : SyncState folderList} {folder : Fin folderList.length}

section Phases

theorem phase_checking {task : Task Branch} (h : state.checking folder = some task) :
    state.phase folder = .checking task := by
  simp only [phase, phaseOf, h]

variable (hverify : state.checking folder = none)
include hverify

theorem phase_validating {task : Task Unit} (h : state.validating folder = some task) :
    state.phase folder = .validating task := by
  simp only [phase, phaseOf, hverify, h]

variable (hpost : state.validating folder = none)
include hpost

theorem phase_unpushed (h : state.pushed folder = none) :
    state.phase folder = .idle (state.outcomes folder) := by
  simp only [phase, phaseOf, hverify, hpost, h, Option.map_none]

variable {branch : Branch} (hpushed : state.pushed folder = some branch)
include hpushed

theorem phase_copying (h : state.live.run.states (branch.copyTask folder) = .none) :
    state.phase folder = .copying branch := by
  simp only [phase, phaseOf, hverify, hpost, hpushed, Option.map_some, h]

theorem phase_copied (h : state.live.run.states (branch.copyTask folder) = .success)
    (hnone : state.live.run.states (.postUpdate folder) = .none) :
    state.phase folder = .validating validateDistcpSuccessful := by
  simp only [phase, phaseOf, hverify, hpost, hpushed, Option.map_some, h, hnone]

theorem phase_over (h : state.live.run.states (branch.copyTask folder) ≠ .none)
    (hdone : state.live.run.states (branch.copyTask folder) = .success →
      state.live.run.states (.postUpdate folder) ≠ .none) :
    state.phase folder = .idle (state.outcomes folder) := by
  unfold phase
  rw [hverify, hpost, hpushed, Option.map_some]
  cases hcopy : state.live.run.states (branch.copyTask folder) with
  | none => exact absurd hcopy h
  | success =>
    cases hstate : state.live.run.states (.postUpdate folder) with
    | none => exact absurd hstate (hdone hcopy)
    | _ => rfl
  | _ => rfl

end Phases

structure SameFor (folder : Fin folderList.length) (state next : SyncState folderList) :
    Prop where
  sites : next.sites folder = state.sites folder
  pushed : next.pushed folder = state.pushed folder
  outcomes : next.outcomes folder = state.outcomes folder
  checking : next.checking folder = state.checking folder
  validating : next.validating folder = state.validating folder
  states : ∀ branch, state.pushed folder = some branch →
    next.live.run.states (branch.copyTask folder) =
        state.live.run.states (branch.copyTask folder) ∧
      next.live.run.states (.postUpdate folder) = state.live.run.states (.postUpdate folder)

theorem SameFor.folderState (h : SameFor folder state next) :
    next.folderState folder = state.folderState folder := by
  unfold SyncState.folderState phase
  rw [h.sites, h.checking, h.validating, h.pushed, h.outcomes]
  cases hpushed : state.pushed folder with
  | none => rfl
  | some branch =>
    obtain ⟨hcopy, hpost⟩ := h.states branch hpushed
    rw [Option.map_some, Option.map_some, hcopy, hpost]

theorem copyTask_folder (branch : Branch) (folder : Fin folderList.length) :
    (branch.copyTask folder).folder? = some folder := by
  cases branch <;> rfl

theorem choices_folder {task choice : DagTask folderList}
    (h : choice ∈ (drSyncDag folderList).choices task) : choice.folder? = task.folder? := by
  cases task <;> simp [drSyncDag, DagTask.choices] at h
  rcases h with rfl | rfl <;> rfl

theorem put_working {live : Live (DagTask folderList) DagTask.Work}
    {task other : DagTask folderList} {work : Option task.Work}
    (hother : task.folder? ≠ other.folder?) :
    (live.put task work).working other = live.working other := by
  refine Live.put_working_ne _ _ ?_
  rintro rfl
  exact hother rfl

theorem step_states {run after : DagRun (DagTask folderList)}
    {action : Action (DagTask folderList)} {other : DagTask folderList}
    (h : (drSyncDag folderList).step run action = some after)
    (hother : action.task.folder? ≠ other.folder?) :
    after.states other = run.states other := by
  refine Graph.states_other h ?_ fun hchoice => ?_
  · rintro rfl
    exact hother rfl
  · exact hother (choices_folder hchoice).symm

theorem sameFor_put {task : DagTask folderList} {work : Option task.Work}
    (hlive : next.live = state.live.put task work)
    (hsites : next.sites folder = state.sites folder)
    (hpushed : next.pushed folder = state.pushed folder)
    (houtcomes : next.outcomes folder = state.outcomes folder)
    (hother : task.folder? ≠ some folder) : SameFor folder state next := by
  refine ⟨hsites, hpushed, houtcomes, ?_, ?_, fun _ _ => by simp [hlive]⟩
  · unfold checking
    rw [hlive, put_working (by exact hother)]
  · unfold validating
    rw [hlive, put_working (by exact hother)]

theorem sameFor_finish {task : DagTask folderList} {ending : Ending (DagTask folderList)}
    {before : SyncState folderList} (h : before.finish task ending = some next)
    (hlive : before.live = state.live) (hother : task.folder? ≠ some folder)
    (hsites : before.sites folder = state.sites folder)
    (hpushed : before.pushed folder = state.pushed folder)
    (houtcomes : before.outcomes folder = state.outcomes folder) :
    SameFor folder state next := by
  obtain ⟨live, hfinish, rfl⟩ := finish_eq_some.1 h
  rw [hlive] at hfinish
  obtain ⟨-, run, hstep, rfl⟩ := Graph.finish_eq_some.1 hfinish
  have htask : (ending.action task).task = task := by cases ending <;> rfl
  refine ⟨hsites, hpushed, houtcomes, put_working hother, put_working hother, fun branch _ => ?_⟩
  exact ⟨step_states hstep (by rw [htask, copyTask_folder]; exact hother),
    step_states hstep (by rw [htask]; exact hother)⟩

/-- A copy that succeeds has done what `distcp` promises, and none goes on without its task. -/
def exact (state : SyncState folderList) : SyncMove folderList → Bool
  | .distcp folder tree true =>
      match state.pushed folder with
      | some branch => decide (branch.exact (state.sites folder) tree)
      | none => true
  | .orphan .. => false
  | _ => true

inductive Follows (exact : Bool) (before after : State) : Prop where
  | same (h : after = before)
  | move (move : Move) (h : before.step move = some after)
      (hexact : exact = true → before.exact move = true)

theorem Follows.of_phases {exact : Bool} {before after : Phase} (move : Move)
    (hbefore : state.phase folder = before) (hafter : next.phase folder = after)
    (h : (⟨state.sites folder, before⟩ : State).step move = some ⟨next.sites folder, after⟩)
    (hother : ∀ tree, move ≠ .distcp tree true) :
    Follows exact (state.folderState folder) (next.folderState folder) := by
  subst hbefore hafter
  refine .move move h fun _ => ?_
  unfold State.exact
  split
  · exact absurd rfl (hother _)
  · rfl

theorem Follows.of_phase {exact : Bool} {phase : Phase}
    (hsites : next.sites folder = state.sites folder) (hbefore : state.phase folder = phase)
    (hafter : next.phase folder = phase) :
    Follows exact (state.folderState folder) (next.folderState folder) := by
  refine .same ?_
  unfold SyncState.folderState
  rw [hsites, hbefore, hafter]

theorem Follows.of_sameFor {exact : Bool} (h : SameFor folder state next) :
    Follows exact (state.folderState folder) (next.folderState folder) :=
  .same h.folderState

section Moves

variable {exact : Bool}

theorem checking_eq_none (hw : Wired state)
    (h : state.live.run.states (.verifyState folder) ≠ .none) : state.checking folder = none :=
  hw.idle h

theorem validating_eq_none (hw : Wired state)
    (h : state.live.run.states (.verifyState folder) = .none) :
    state.validating folder = none := by
  by_contra hworking
  have hverdict := (hw.sound (.postUpdate folder) (Option.isSome_iff_ne_none.2 hworking)).2
  obtain ⟨branch, hpushed, -⟩ := hw.copied hverdict
  rw [hw.unpushed h] at hpushed
  cases hpushed

theorem validating_eq_none_of_pushed (hw : Wired state) {branch : Branch}
    (hpushed : state.pushed folder = some branch)
    (hcopy : state.live.run.states (branch.copyTask folder) ≠ .success) :
    state.validating folder = none := by
  by_contra hworking
  have hverdict := (hw.sound (.postUpdate folder) (Option.isSome_iff_ne_none.2 hworking)).2
  obtain ⟨found, hfound, hsuccess⟩ := hw.copied hverdict
  rw [hpushed] at hfound
  cases hfound
  exact hcopy hsuccess

theorem phase_waiting (hw : Wired state)
    (hverify : state.live.run.states (.verifyState folder) = .none)
    (hchecking : state.checking folder = none) :
    state.phase folder = .idle (state.outcomes folder) :=
  phase_unpushed hchecking (validating_eq_none hw hverify) (hw.unpushed hverify)

theorem follows_begin (hw : Wired state) {task : DagTask folderList}
    (h : state.step (.begin task) = some next) :
    Follows exact (state.folderState folder) (next.folderState folder) := by
  obtain ⟨live, hstart, rfl⟩ := Option.map_eq_some_iff.1 h
  obtain ⟨hnone, hverdict, hidle, rfl⟩ := Graph.start_eq_some.1 hstart
  by_cases hfolder : task.folder? = some folder
  · cases task with
    | verifyState own =>
      cases hfolder
      exact .of_phases .start (phase_waiting hw hnone hidle)
        (phase_checking (Live.put_working_self ..)) rfl (by simp)
    | postUpdate own =>
      cases hfolder
      obtain ⟨branch, hpushed, hsuccess⟩ := hw.copied hverdict
      have hverify : state.checking folder = none := by
        refine checking_eq_none hw ?_
        simp [(hw.chosen folder branch hpushed).1]
      have hchecking : (state.live.put (.postUpdate folder) (some (DagTask.body _))).working
          (.verifyState folder) = none :=
        (Live.put_working_ne _ _ (by simp)).trans hverify
      exact .of_phase rfl (phase_copied hverify hidle hpushed hsuccess hnone)
        (phase_validating (by exact hchecking) (Live.put_working_self ..))
    | initializeFolder own =>
      exact .of_sameFor ⟨rfl, rfl, rfl, Live.put_working_ne _ _ (by simp),
        Live.put_working_ne _ _ (by simp), fun _ _ => ⟨rfl, rfl⟩⟩
    | updateFolder own =>
      exact .of_sameFor ⟨rfl, rfl, rfl, Live.put_working_ne _ _ (by simp),
        Live.put_working_ne _ _ (by simp), fun _ _ => ⟨rfl, rfl⟩⟩
    | _ => cases hfolder
  · exact .of_sameFor (sameFor_put rfl rfl rfl rfl hfolder)

theorem validating_behind (hw : Wired state) {task : Task Unit}
    (hwork : state.validating folder = some task) :
    state.checking folder = none ∧ ∃ branch, state.pushed folder = some branch ∧
      state.live.run.states (branch.copyTask folder) = .success := by
  have hverdict := (hw.sound (.postUpdate folder) (Option.isSome_of_eq_some hwork)).2
  obtain ⟨branch, hpushed, hsuccess⟩ := hw.copied hverdict
  refine ⟨checking_eq_none hw ?_, branch, hpushed, hsuccess⟩
  simp [(hw.chosen folder branch hpushed).1]

theorem follows_callHdfs (hsep : Separate folder) {own : Fin folderList.length} {α : Type}
    {work : Option (Task α)} {task : DagTask folderList} {keep : Task α → task.Work}
    (h : state.callHdfs own work task keep = some next) (htask : task.folder? = some own)
    (hown : own ≠ folder) :
    Follows exact (state.folderState folder) (next.folderState folder) := by
  obtain ⟨program, rest, sites, -, -, rfl⟩ := callHdfs_eq_some.1 h
  exact .of_sameFor (sameFor_put rfl (sites_setSites_of_ne state (hsep.directory_ne hown) sites)
    rfl rfl (by rw [htask]; simpa using hown))

theorem follows_call (hsep : Separate folder) (hw : Wired state) {task : DagTask folderList}
    (h : state.step (.call task) = some next) :
    Follows exact (state.folderState folder) (next.folderState folder) := by
  cases task with
  | verifyState own =>
    by_cases hown : own = folder
    · subst hown
      obtain ⟨program, rest, sites, hwork, hadvance, rfl⟩ := callHdfs_eq_some.1 h
      refine .of_phases .call (phase_checking hwork)
        (phase_checking (Live.put_working_self ..)) ?_ (by simp)
      rw [State.step, Phase.call, hadvance]
      exact congrArg (fun found => some (State.mk found (.checking rest)))
        (sites_setSites state own sites).symm
    · exact follows_callHdfs hsep h rfl hown
  | postUpdate own =>
    by_cases hown : own = folder
    · subst hown
      obtain ⟨program, rest, sites, hwork, hadvance, rfl⟩ := callHdfs_eq_some.1 h
      obtain ⟨hchecking, -⟩ := validating_behind hw hwork
      have hstill : (state.live.put (.postUpdate own) (some rest)).working
          (.verifyState own) = none :=
        (Live.put_working_ne _ _ (by simp)).trans hchecking
      refine .of_phases .call (phase_validating hchecking hwork)
        (phase_validating (by exact hstill) (Live.put_working_self ..)) ?_ (by simp)
      rw [State.step, Phase.call, hadvance]
      exact congrArg (fun found => some (State.mk found (.validating rest)))
        (sites_setSites state own sites).symm
    · exact follows_callHdfs hsep h rfl hown
  | _ => cases h

theorem follows_answered {answer : AmbariAnswer} {task : DagTask folderList}
    (h : state.step (.answered task answer) = some next) :
    Follows exact (state.folderState folder) (next.folderState folder) := by
  cases task with
  | stopHive =>
    obtain ⟨program, op, rest, hwork, hanswer, rfl⟩ := callAmbari_eq_some.1 h
    exact .of_sameFor (sameFor_put rfl rfl rfl rfl (by simp [DagTask.folder?]))
  | startHive =>
    obtain ⟨program, op, rest, hwork, hanswer, rfl⟩ := callAmbari_eq_some.1 h
    exact .of_sameFor (sameFor_put rfl rfl rfl rfl (by simp [DagTask.folder?]))
  | _ => cases h

theorem finished {live after : Live (DagTask folderList) DagTask.Work}
    {task : DagTask folderList} {ending : Ending (DagTask folderList)}
    (h : (drSyncDag folderList).finish live task ending = some after) :
    after.working task = none ∧ (∀ other, other ≠ task →
      after.working other = live.working other ∧
        (other ∉ (drSyncDag folderList).choices task →
          after.run.states other = live.run.states other)) ∧
      after.run.states task = (match ending with
        | .success _ => .success
        | .failure => .failed) := by
  obtain ⟨-, run, hstep, rfl⟩ := Graph.finish_eq_some.1 h
  refine ⟨Live.put_working_self .., fun other hother => ⟨Live.put_working_ne _ _ hother,
    fun hchoice => ?_⟩, ?_⟩
  · refine Graph.states_other hstep ?_ ?_ <;> cases ending <;> assumption
  · cases ending <;> simp only [Ending.action, Graph.step] at hstep <;> split_ifs at hstep <;>
      cases hstep <;> simp [Graph.succeed, DagRun.set]

section Endings

variable {before : SyncState folderList} (hw : Wired state) (hlive : before.live = state.live)
include hw hlive

theorem phase_of_choice {branch : Branch}
    (h : before.finish (.verifyState folder) (.success (some (branch.copyTask folder))) =
      some next)
    (hrunning : state.live.Running (.verifyState folder))
    (hpushed : before.pushed folder = some branch) : next.phase folder = .copying branch := by
  obtain ⟨live, hfinish, rfl⟩ := finish_eq_some.1 h
  rw [hlive] at hfinish
  obtain ⟨hchecking, hothers, -⟩ := finished hfinish
  have hnone := (hw.sound _ hrunning).1
  have hvalidating : live.working (.postUpdate folder) = none :=
    (hothers _ (by simp)).1.trans (validating_eq_none hw hnone)
  refine phase_copying (by exact hchecking) (by exact hvalidating) hpushed ?_
  obtain ⟨-, run, hstep, rfl⟩ := Graph.finish_eq_some.1 hfinish
  exact (Graph.states_pick (copyTask_ne_verifyState branch folder folder) hstep).trans
    ((hw.undecided hnone).1 _ (copyTask_mem branch folder))

theorem phase_of_refusal (h : before.finish (.verifyState folder) .failure = some next)
    (hrunning : state.live.Running (.verifyState folder))
    (hpushed : before.pushed folder = state.pushed folder) :
    next.phase folder = .idle (before.outcomes folder) := by
  obtain ⟨live, hfinish, rfl⟩ := finish_eq_some.1 h
  rw [hlive] at hfinish
  obtain ⟨hchecking, hothers, -⟩ := finished hfinish
  have hnone := (hw.sound _ hrunning).1
  have hvalidating : live.working (.postUpdate folder) = none :=
    (hothers _ (by simp)).1.trans (validating_eq_none hw hnone)
  exact phase_unpushed hchecking hvalidating (hpushed.trans (hw.unpushed hnone))

theorem phase_of_validation {ending : Ending (DagTask folderList)}
    (h : before.finish (.postUpdate folder) ending = some next)
    (hrunning : state.live.Running (.postUpdate folder))
    (hpushed : before.pushed folder = state.pushed folder) :
    next.phase folder = .idle (before.outcomes folder) := by
  obtain ⟨live, hfinish, rfl⟩ := finish_eq_some.1 h
  rw [hlive] at hfinish
  obtain ⟨hvalidating, hothers, hpost⟩ := finished hfinish
  obtain ⟨task, htask⟩ := Option.isSome_iff_exists.1 hrunning
  obtain ⟨hchecking, branch, hbranch, hsuccess⟩ := validating_behind hw htask
  have hcopy : live.run.states (branch.copyTask folder) = .success := by
    refine ((hothers _ ?_).2 (by simp [drSyncDag, DagTask.choices])).trans hsuccess
    cases branch <;> simp [Branch.copyTask]
  refine phase_over ((hothers _ (by simp)).1.trans hchecking) hvalidating
    (hpushed.trans hbranch) (by simp [hcopy]) fun _ => ?_
  rw [hpost]
  cases ending <;> simp

theorem phase_of_copy {branch : Branch} {ending : Ending (DagTask folderList)}
    (h : before.finish (branch.copyTask folder) ending = some next)
    (hbranch : state.pushed folder = some branch)
    (hrunning : state.live.Running (branch.copyTask folder))
    (hpushed : before.pushed folder = state.pushed folder) :
    next.phase folder = (match ending with
      | .success _ => .validating validateDistcpSuccessful
      | .failure => .idle (before.outcomes folder)) := by
  obtain ⟨live, hfinish, rfl⟩ := finish_eq_some.1 h
  rw [hlive] at hfinish
  obtain ⟨-, hothers, hcopy⟩ := finished hfinish
  have hnone := (hw.sound _ hrunning).1
  have hverify := (hw.chosen folder branch hbranch).1
  have hchecking : live.working (.verifyState folder) = none :=
    (hothers _ (copyTask_ne_verifyState branch folder folder).symm).1.trans
      (checking_eq_none hw (by simp [hverify]))
  have hne : (.postUpdate folder : DagTask folderList) ≠ branch.copyTask folder := by
    cases branch <;> simp [Branch.copyTask]
  have hvalidating : live.working (.postUpdate folder) = none :=
    (hothers _ hne).1.trans (validating_eq_none_of_pushed hw hbranch (by simp [hnone]))
  have hpost : live.run.states (.postUpdate folder) = .none := by
    refine ((hothers _ hne).2 ?_).trans (hw.post_undecided hbranch hnone)
    cases branch <;> simp [Branch.copyTask, drSyncDag, DagTask.choices]
  cases ending with
  | success pick => exact phase_copied hchecking hvalidating (hpushed.trans hbranch) hcopy hpost
  | failure =>
    exact phase_over hchecking hvalidating (hpushed.trans hbranch) (by simp [hcopy])
      (by simp [hcopy])

end Endings

theorem finish_sites {before : SyncState folderList} {task : DagTask folderList}
    {ending : Ending (DagTask folderList)} (h : before.finish task ending = some next) :
    next.sites = before.sites ∧ next.outcomes = before.outcomes := by
  obtain ⟨live, -, rfl⟩ := finish_eq_some.1 h
  exact ⟨rfl, rfl⟩

theorem record_outcomes (state : SyncState folderList) (folder : Fin folderList.length)
    (outcome : Outcome) : (state.record folder outcome).outcomes folder = some outcome :=
  Function.update_self ..

theorem follows_ended_verify (hw : Wired state) {own : Fin folderList.length}
    (h : state.ended (.verifyState own) = some next) :
    Follows exact (state.folderState folder) (next.folderState folder) := by
  simp only [ended] at h
  split at h
  · rename_i branch hwork
    by_cases hown : own = folder
    · subst hown
      refine .of_phases .next (phase_checking hwork)
        (phase_of_choice hw (by rfl) h (Option.isSome_of_eq_some hwork)
          (Function.update_self ..)) ?_ (by simp)
      rw [(finish_sites h).1]
      rfl
    · exact .of_sameFor (sameFor_finish h (by rfl) (by simpa [DagTask.folder?] using hown) rfl
        (Function.update_of_ne (Ne.symm hown) ..) rfl)
  · rename_i failure hwork
    by_cases hown : own = folder
    · subst hown
      refine .of_phases .next (phase_checking hwork)
        (phase_of_refusal hw (by rfl) h (Option.isSome_of_eq_some hwork) rfl) ?_ (by simp)
      rw [(finish_sites h).1, record_outcomes]
      rfl
    · exact .of_sameFor (sameFor_finish h (by rfl) (by simpa [DagTask.folder?] using hown) rfl rfl
        (Function.update_of_ne (Ne.symm hown) ..))
  · cases h

theorem follows_ended_post (hw : Wired state) {own : Fin folderList.length}
    (h : state.ended (.postUpdate own) = some next) :
    Follows exact (state.folderState folder) (next.folderState folder) := by
  have hends : ∀ {outcome ending} {task : Task Unit}, state.validating own = some task →
      (state.record own outcome).finish (.postUpdate own) ending = some next →
      (Phase.validating task).next = some (.idle (some outcome)) →
      Follows exact (state.folderState folder) (next.folderState folder) := by
    intro outcome ending task hwork hfinish hnext
    by_cases hown : own = folder
    · subst hown
      refine .of_phases .next (phase_validating (validating_behind hw hwork).1 hwork)
        (phase_of_validation hw (by rfl) hfinish (Option.isSome_of_eq_some hwork) rfl) ?_ (by simp)
      rw [(finish_sites hfinish).1, record_outcomes]
      simp only [State.step, hnext]
      rfl
    · exact .of_sameFor (sameFor_finish hfinish (by rfl) (by simpa [DagTask.folder?] using hown) rfl
        rfl (Function.update_of_ne (Ne.symm hown) ..))
  simp only [ended] at h
  split at h
  · rename_i hwork
    exact hends hwork h rfl
  · rename_i failure hwork
    exact hends hwork h rfl
  · cases h

theorem follows_finish {task : DagTask folderList} {ending : Ending (DagTask folderList)}
    (h : state.finish task ending = some next) (htask : task.folder? = none) :
    Follows exact (state.folderState folder) (next.folderState folder) :=
  .of_sameFor (sameFor_finish h rfl (by simp [htask]) rfl rfl rfl)

theorem follows_ended (hw : Wired state) {task : DagTask folderList}
    (h : state.step (.ended task) = some next) :
    Follows exact (state.folderState folder) (next.folderState folder) := by
  change state.ended task = some next at h
  cases task with
  | verifyState own => exact follows_ended_verify hw h
  | postUpdate own => exact follows_ended_post hw h
  | stopHive =>
    simp only [ended] at h
    split at h
    · exact follows_finish h rfl
    · exact follows_finish h rfl
    · cases h
  | startHive =>
    simp only [ended] at h
    split at h
    · exact follows_finish h rfl
    · exact follows_finish h rfl
    · cases h
  | _ => cases h

theorem running_of_finish {before : SyncState folderList} {task : DagTask folderList}
    {ending : Ending (DagTask folderList)} (h : before.finish task ending = some next)
    (hlive : before.live = state.live) : state.live.Running task := by
  obtain ⟨live, hfinish, -⟩ := finish_eq_some.1 h
  rw [hlive] at hfinish
  exact (Graph.finish_eq_some.1 hfinish).1

theorem phase_of_running_copy (hw : Wired state) {branch : Branch}
    (hbranch : state.pushed folder = some branch)
    (hrunning : state.live.Running (branch.copyTask folder)) :
    state.phase folder = .copying branch := by
  have hnone := (hw.sound _ hrunning).1
  refine phase_copying (checking_eq_none hw ?_)
    (validating_eq_none_of_pushed hw hbranch (by simp [hnone])) hbranch hnone
  simp [(hw.chosen folder branch hbranch).1]

theorem follows_distcp (hsep : Separate folder) (hw : Wired state)
    {own : Fin folderList.length} {tree : Tree} {succeeded : Bool}
    (h : state.step (.distcp own tree succeeded) = some next)
    (hexact : exact = true → state.exact (.distcp own tree succeeded) = true) :
    Follows exact (state.folderState folder) (next.folderState folder) := by
  obtain ⟨branch, sites, hbranch, hcopied, hfinish⟩ := distcp_eq_some.1 h
  by_cases hown : own = folder
  · subst hown
    cases succeeded with
    | true =>
      have hrunning := running_of_finish hfinish (by rfl)
      have hphase := phase_of_running_copy hw hbranch hrunning
      have hafter := phase_of_copy hw (by rfl) hfinish hbranch hrunning rfl
      refine .move (.distcp tree true) ?_ fun htrue => ?_
      · simp [SyncState.folderState, State.step, hphase, hafter, hcopied,
          (finish_sites hfinish).1, sites_setSites]
      · have hpromise := hexact htrue
        simp only [SyncState.exact, hbranch] at hpromise
        simpa only [SyncState.folderState, State.exact, hphase] using hpromise
    | false =>
      have hrunning := running_of_finish hfinish (by rfl)
      have hphase := phase_of_running_copy hw hbranch hrunning
      have hafter := phase_of_copy hw (by rfl) hfinish hbranch hrunning rfl
      rw [record_outcomes] at hafter
      refine .of_phases (.distcp tree false) hphase hafter ?_ (by simp)
      have hsites : next.sites own = sites :=
        (congrFun (finish_sites hfinish).1 own).trans (sites_setSites state own sites)
      simp [State.step, hcopied, hsites]
  · have hother : (branch.copyTask own).folder? ≠ some folder := by
      rw [copyTask_folder]
      simpa using hown
    have hsites := sites_setSites_of_ne state (hsep.directory_ne hown) sites
    cases succeeded with
    | true => exact .of_sameFor (sameFor_finish hfinish (by rfl) hother hsites rfl rfl)
    | false =>
      exact .of_sameFor (sameFor_finish hfinish (by rfl) hother hsites rfl
        (Function.update_of_ne (Ne.symm hown) ..))

theorem follows_lost (hw : Wired state) {task : DagTask folderList}
    (h : state.step (.lost task) = some next) :
    Follows exact (state.folderState folder) (next.folderState folder) := by
  change state.lost task = some next at h
  unfold lost at h
  split at h
  · rename_i own htask
    by_cases hown : own = folder
    · subst hown
      have hrunning : state.live.Running task := running_of_finish h (by rfl)
      obtain ⟨work, hwork⟩ := Option.isSome_iff_exists.1 hrunning
      have hfails : ∀ phase : Phase, state.phase own = phase →
          phase.fail = some (.idle (some (.failed .hdfs))) →
          next.phase own = .idle ((state.record own (.failed .hdfs)).outcomes own) →
          Follows exact (state.folderState own) (next.folderState own) := by
        intro phase hbefore hfail hafter
        rw [record_outcomes] at hafter
        refine .of_phases .fail hbefore hafter ?_ (by simp)
        rw [(finish_sites h).1]
        simp only [State.step, hfail]
        rfl
      have hcopies : task ∈ DagTask.choices (.verifyState own) →
          Follows exact (state.folderState own) (next.folderState own) := by
        intro hcopy
        obtain ⟨branch, hbranch, rfl⟩ := hw.pushed_of_running hcopy hrunning
        exact hfails _ (phase_of_running_copy hw hbranch hrunning) rfl
          (phase_of_copy hw (by rfl) h hbranch hrunning rfl)
      cases task with
      | verifyState _ =>
        cases htask
        exact hfails _ (phase_checking hwork) rfl (phase_of_refusal hw (by rfl) h hrunning rfl)
      | postUpdate _ =>
        cases htask
        exact hfails _ (phase_validating (validating_behind hw hwork).1 hwork) rfl
          (phase_of_validation hw (by rfl) h hrunning rfl)
      | initializeFolder _ =>
        cases htask
        exact hcopies (by simp [DagTask.choices])
      | updateFolder _ =>
        cases htask
        exact hcopies (by simp [DagTask.choices])
      | _ => cases htask
    · exact .of_sameFor (sameFor_finish h (by rfl) (by rw [htask]; simpa using hown) rfl rfl
        (Function.update_of_ne (Ne.symm hown) ..))
  · rename_i htask
    exact follows_finish h htask

theorem follows_pass (hw : Wired state) {task : DagTask folderList}
    (h : state.step (.pass task) = some next) :
    Follows exact (state.folderState folder) (next.folderState folder) := by
  have hw' := hw.step h
  obtain ⟨live, hpass, rfl⟩ := Option.map_eq_some_iff.1 h
  obtain ⟨run, hstep, rfl⟩ := Graph.pass_eq_some.1 hpass
  obtain ⟨hnone, hpassed⟩ := Graph.states_propagate hstep
  have hidle : state.live.working task = none := by
    by_contra hworking
    have hverdict := (hw.sound _ (Option.isSome_iff_ne_none.2 hworking)).2
    simp [Graph.step, hnone, hverdict] at hstep
  have hcopies : task ∈ DagTask.choices (.verifyState folder) →
      Follows exact (state.folderState folder)
        (SyncState.folderState { state with live := ⟨run, state.live.working⟩ } folder) := by
    refine fun hmem => .of_sameFor ⟨rfl, rfl, rfl, rfl, rfl, fun branch hbranch => ⟨?_, ?_⟩⟩
    · refine Graph.states_other hstep (fun hself => ?_) ?_
      · obtain ⟨hskipped, hfailed⟩ := hw'.copy_not_passed hbranch
        rw [hself] at hskipped hfailed
        exact hpassed.elim hfailed hskipped
      · simp only [DagTask.choices, List.mem_cons, List.not_mem_nil, or_false] at hmem
        rcases hmem with rfl | rfl <;> simp [Action.task, drSyncDag, DagTask.choices]
    · simp only [DagTask.choices, List.mem_cons, List.not_mem_nil, or_false] at hmem
      rcases hmem with rfl | rfl <;>
        exact Graph.states_other hstep (by simp [Action.task])
          (by simp [Action.task, drSyncDag, DagTask.choices])
  by_cases hfolder : task.folder? = some folder
  · cases task with
    | verifyState own =>
      cases hfolder
      have hvalidating := validating_eq_none hw hnone
      exact .of_phase rfl (phase_waiting hw hnone hidle) (phase_unpushed (by exact hidle)
        (by exact hvalidating) (by exact hw.unpushed hnone))
    | postUpdate own =>
      cases hfolder
      cases hpushed : state.pushed folder with
      | none =>
        exact .of_sameFor ⟨rfl, rfl, rfl, rfl, rfl, fun branch hbranch => by
          rw [hpushed] at hbranch
          cases hbranch⟩
      | some branch =>
        -- the pushed copy has failed, so the folder rests already
        have hsame : run.states (branch.copyTask folder) =
            state.live.run.states (branch.copyTask folder) := by
          refine Graph.states_other hstep ?_ ?_ <;> cases branch <;>
            simp [Branch.copyTask, Action.task, drSyncDag, DagTask.choices]
        have hfails : (run.states (branch.copyTask folder)).isFailure = true := by
          by_contra hfine
          exact hpassed.elim (hw'.post_not_failed hpushed (by simpa using hfine))
            (postUpdate_not_skipped hw'.reached folder)
        have hover : state.live.run.states (branch.copyTask folder) ≠ .none ∧
            state.live.run.states (branch.copyTask folder) ≠ .success := by
          rw [← hsame]
          constructor <;> intro hstate <;> rw [hstate] at hfails <;> cases hfails
        have hchecking : state.checking folder = none :=
          checking_eq_none hw (by simp [(hw.chosen folder branch hpushed).1])
        have hafter : run.states (branch.copyTask folder) ≠ .none ∧
            run.states (branch.copyTask folder) ≠ .success := by rwa [hsame]
        exact .of_phase rfl (phase_over hchecking hidle hpushed hover.1
          fun hsuccess => absurd hsuccess hover.2)
          (phase_over (by exact hchecking) (by exact hidle) (by exact hpushed)
            (by exact hafter.1) fun hsuccess => absurd hsuccess hafter.2)
    | initializeFolder own =>
      cases hfolder
      exact hcopies (by simp [DagTask.choices])
    | updateFolder own =>
      cases hfolder
      exact hcopies (by simp [DagTask.choices])
    | _ => cases hfolder
  · refine .of_sameFor ⟨rfl, rfl, rfl, rfl, rfl, fun branch _ => ?_⟩
    exact ⟨step_states hstep (by rw [copyTask_folder]; exact hfolder),
      step_states hstep hfolder⟩

/-- What is written to another directory is nothing to a separate folder. -/
theorem follows_elsewhere (hsep : Separate folder) {own : Fin folderList.length}
    (hown : own ≠ folder) (sites : Sites) :
    Follows exact (state.folderState folder) ((state.setSites own sites).folderState folder) :=
  .of_sameFor ⟨sites_setSites_of_ne state (hsep.directory_ne hown) sites, rfl, rfl, rfl, rfl,
    fun _ _ => ⟨rfl, rfl⟩⟩

theorem follows_orphan (hsep : Separate folder) {own : Fin folderList.length}
    {target : Location} {tree : Tree} (h : state.step (.orphan own target tree) = some next)
    (hown : own ≠ folder) :
    Follows exact (state.folderState folder) (next.folderState folder) := by
  obtain ⟨-, sites, -, rfl⟩ := orphan_eq_some.1 h
  exact follows_elsewhere hsep hown sites

theorem follows_spread (hsep : Separate folder) {own : Fin folderList.length} {sites : Sites}
    (h : state.step (.spread own sites) = some next) :
    Follows exact (state.folderState folder) (next.folderState folder) := by
  simp only [step] at h
  split_ifs at h with hshared
  cases h
  refine follows_elsewhere hsep ?_ sites
  rintro rfl
  exact hshared hsep

theorem follows_users (hsep : Separate folder) {own : Fin folderList.length}
    {content : Option Folder} (h : state.step (.users own content) = some next) :
    Follows exact (state.folderState folder) (next.folderState folder) := by
  simp only [step] at h
  split_ifs at h with hsame
  cases h
  by_cases hown : own = folder
  · subst hown
    refine .of_phases (.users content) rfl rfl ?_ (by simp)
    rw [State.step, if_pos hsame, sites_setSites]
    rfl
  · exact follows_elsewhere hsep hown _

theorem follows_nextRun (h : state.step .nextRun = some next) :
    Follows exact (state.folderState folder) (next.folderState folder) := by
  simp only [step] at h
  split_ifs at h with hover
  cases h
  obtain ⟨hdecided, hidle⟩ := hover
  have hnone : ∀ task, state.live.working task = none :=
    fun task => Option.isNone_iff_eq_none.1 (hidle task)
  have hafter : SyncState.phase { state with live := .initial, pushed := fun _ => none } folder =
      .idle (state.outcomes folder) :=
    phase_unpushed rfl rfl rfl
  cases hpushed : state.pushed folder with
  | none => exact .of_phase rfl (phase_unpushed (hnone _) (hnone _) hpushed) hafter
  | some branch =>
    exact .of_phase rfl (phase_over (hnone _) (hnone _) hpushed (hdecided _)
      fun _ => hdecided _) hafter

/-- One step of the whole DAG is a step of a separate folder's history, or nothing to it. -/
theorem step_follows (hsep : Separate folder) (hw : Wired state) {move : SyncMove folderList}
    (h : state.step move = some next) (hspares : move.spares folder = true) :
    Follows (state.exact move) (state.folderState folder) (next.folderState folder) := by
  cases move with
  | begin task => exact follows_begin hw h
  | call task => exact follows_call hsep hw h
  | answered task answer => exact follows_answered h
  | ended task => exact follows_ended hw h
  | plain task =>
    simp only [step] at h
    split_ifs at h with hplain
    refine follows_finish h ?_
    cases task <;> simp_all [DagTask.isPlain, DagTask.folder?]
  | distcp own tree succeeded => exact follows_distcp hsep hw h id
  | lost task => exact follows_lost hw h
  | pass task => exact follows_pass hw h
  | orphan own target tree => exact follows_orphan hsep h (of_decide_eq_true hspares)
  | spread own sites => exact follows_spread hsep h
  | users own content => exact follows_users hsep h
  | nextRun => exact follows_nextRun h

end Moves

end SyncState

end QubershipAirflow.DrSync
