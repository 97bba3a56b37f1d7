import QubershipAirflow.DrSync.Consistency
import QubershipAirflow.DrSync.SyncFolders

/-! Histories of the whole DAG, folder by folder: what every history of one folder keeps,
every folder of the DAG keeps, and Hive starts behind folders that are all the same on
both sites. -/
namespace QubershipAirflow.DrSync

open Programs TaskGraph Runs

variable {folderList : List String}

namespace SyncState

variable {start state : SyncState folderList}

theorem Fresh.wired (h : start.Fresh) : Wired start := .of_initial h.live h.pushed

theorem wired_of_reaches (hstart : Wired start) (hrun : Reaches step start state) :
    Wired state :=
  hrun.invariant (fun _ _ _ hw hstep => hw.step hstep) hstart

theorem spares_of_exact {move : SyncMove folderList} (h : state.exact move = true)
    (folder : Fin folderList.length) : move.spares folder = true := by
  cases move with
  | orphan own target tree => cases h
  | _ => rfl

theorem folder_history_exact {folder : Fin folderList.length} (hsep : Separate folder)
    (hstart : Wired start) (hrun : Reaches (restrictAt step SyncState.exact) start state) :
    Reaches (restrictAt State.step State.exact) (start.folderState folder)
      (state.folderState folder) := by
  refine Reaches.invariant_from
    (I := fun state => Reaches (restrictAt State.step State.exact) (start.folderState folder)
      (state.folderState folder))
    (.refl _) ?_ hrun
  intro state move next hreached hfolder hstep
  obtain ⟨hexact, hstep⟩ := restrictAt_eq_some.1 hstep
  have hw := wired_of_reaches hstart hreached.of_restrictAt
  cases step_follows hsep hw hstep (spares_of_exact hexact folder) with
  | same hsame =>
    rw [hsame]
    exact hfolder
  | move own hown hpromise =>
    exact hfolder.trans (.single (restrictAt_eq_some.2 ⟨hpromise hexact, hown⟩))

theorem Fresh.folderState (h : start.Fresh) (folder : Fin folderList.length) :
    (start.folderState folder).Fresh := by
  refine ⟨h.main folder, h.dr folder, ?_⟩
  have hchecking : start.checking folder = none := by
    rw [checking, h.live]
    rfl
  have hvalidating : start.validating folder = none := by
    rw [validating, h.live]
    rfl
  change start.phase folder = _
  rw [phase_unpushed hchecking hvalidating (by rw [h.pushed]), h.outcomes]

end SyncState

theorem Consistent.keeps_validate_numbered {v : View} (h : Consistent v) {n : Nat}
    (hmain : v.latest .main = n) (hdr : v.latest .dr < n)
    (hcopy : ∀ folder, v.dr = some folder →
      v.main.lookup (snapshotName n) = some folder.tree) :
    Keeps Consistent (fun _ => True)
      (fun _ v => ∃ n : Nat, v.latest .main = n ∧ v.latest .dr = n)
      validateDistcpSuccessful v := by
  apply keeps_validateDistcpSuccessful h
  intro after hconfirms
  have hafter := h.confirm hconfirms hmain hdr hcopy
  obtain ⟨hmain', hdr'⟩ := hconfirms.latest hmain (by omega)
  rw [hmain]
  obtain ⟨hone, hmain₁, hdr₁⟩ := hafter.withoutPrevious hmain' hdr' .main
  obtain ⟨hboth, hmain₂, hdr₂⟩ := hone.withoutPrevious hmain₁ hdr₁ .dr
  exact ⟨hafter, trivial, hone, hboth, n, hmain₂, hdr₂⟩

theorem validate_confirmed (state : State) (branch : Branch) (tree : Tree)
    (hphase : state.phase = .copying branch)
    (hallowed : State.exact state (.distcp tree true) = true)
    (hready : faithful.ready branch state.sites.view) :
    Keeps Consistent (fun _ => True)
      (fun _ v => ∃ n : Nat, v.latest .main = n ∧ v.latest .dr = n)
      validateDistcpSuccessful (state.sites.view.withDrTree tree) := by
  obtain ⟨hv, h⟩ := hready
  obtain ⟨n, hmain, hdr⟩ := h.latest
  have hexact : branch.exact state.sites tree := by
    simpa [State.exact, hphase] using hallowed
  apply (hv.withDrTree tree (by omega)).keeps_validate_numbered (n := n)
  · rwa [View.latest_withDrTree]
  · rwa [View.latest_withDrTree]
  · intro folder hfolder
    obtain ⟨old, -, rfl⟩ := Option.map_eq_some_iff.mp hfolder
    exact h.exact hexact hmain

/-- Runs whose successful copies are exact, and which complete with a common number. -/
def confirmed : Discipline State.exact where
  resting := Consistent
  always := Consistent
  rejected := fun _ => True
  ready := faithful.ready
  done := fun v => ∃ n : Nat, v.latest .main = n ∧ v.latest .dr = n
  check := faithful.check
  target := faithful.target
  validate := validate_confirmed
  torn := faithful.torn
  ended := faithful.ended
  completed := fun _ h _ => h

/-- Both sites have this snapshot as their latest, with one content, and the DR folder
still has that content. -/
structure Sites.Synchronised (sites : Sites) (n : Nat) (tree : Tree) : Prop where
  latest : ∀ site, sites.view.latest site = n
  main : sites.at ⟨.main, .snapshot (snapshotName n)⟩ = some tree
  dr : sites.at ⟨.dr, .snapshot (snapshotName n)⟩ = some tree
  folder : sites.at ⟨.dr, .folder⟩ = some tree

theorem Consistent.synchronised {sites : Sites} (h : Consistent sites.view) {n : Nat}
    (hmain : sites.view.latest .main = n) (hdr : sites.view.latest .dr = n) :
    ∃ tree, sites.Synchronised n tree := by
  have hat : ∀ site, sites.at ⟨site, .snapshot (snapshotName n)⟩ =
      (sites.view.snapshots site).lookup (snapshotName n) :=
    fun site => treeAt_snapshot sites site (snapshotName n)
  have hlookup : ∀ site, sites.view.latest site = n →
      ∃ tree, (sites.view.snapshots site).lookup (snapshotName n) = some tree := by
    intro site hlatest
    cases hfound : (sites.view.snapshots site).lookup (snapshotName n) with
    | none => exact absurd (h.toManaged.mem_latest hlatest) (lookup_eq_none.1 hfound)
    | some tree => exact ⟨tree, rfl⟩
  obtain ⟨tree, htree⟩ := hlookup .main hmain
  obtain ⟨tree', htree'⟩ := hlookup .dr hdr
  obtain ⟨folder, hfolder⟩ := View.exists_folder hdr
  obtain rfl := h.agree _ _ _ htree htree'
  have hcurrent := h.current n hmain hdr folder hfolder
  obtain rfl : tree = folder.tree := by
    rw [show sites.view.main.lookup _ = _ from htree] at hcurrent
    exact Option.some.inj hcurrent
  refine ⟨folder.tree, fun site => ?_, (hat .main).trans htree, (hat .dr).trans htree', ?_⟩
  · cases site <;> assumption
  · have hdrFolder : sites.dr = some folder := hfolder
    simp [Sites.at, Sites.treeAt, Sites.folder, hdrFolder, Folder.treeAt]

namespace SyncState

variable {start state next : SyncState folderList} {folder : Fin folderList.length}

/-- A validation that has succeeded in the active run is the last thing that was recorded. -/
def Recorded (state : SyncState folderList) : Prop :=
  ∀ folder, state.live.run.states (.postUpdate folder) = .success →
    state.outcomes folder = some .completed

theorem post_of_finish {before : SyncState folderList} {task : DagTask folderList}
    {ending : Ending (DagTask folderList)} (h : before.finish task ending = some next)
    (hlive : before.live = state.live) (hother : task ≠ .postUpdate folder ∨ ending = .failure)
    (hsuccess : next.live.run.states (.postUpdate folder) = .success) :
    state.live.run.states (.postUpdate folder) = .success := by
  obtain ⟨live, hfinish, rfl⟩ := finish_eq_some.1 h
  rw [hlive] at hfinish
  obtain ⟨-, run, hstep, rfl⟩ := Graph.finish_eq_some.1 hfinish
  refine Graph.success_of_step hstep (fun pick hpick => ?_) hsuccess
  rcases hother with hne | rfl
  · cases ending with
    | success other =>
      cases hpick
      exact hne rfl
    | failure => cases hpick
  · cases hpick

theorem Recorded.finish {before : SyncState folderList} {task : DagTask folderList}
    {ending : Ending (DagTask folderList)} (hw : Wired state) (hrecorded : Recorded state)
    (h : before.finish task ending = some next) (hlive : before.live = state.live)
    (hother : (∀ folder, task ≠ .postUpdate folder) ∨ ending = .failure)
    (houtcomes : ∀ folder, task.folder? ≠ some folder →
      before.outcomes folder = state.outcomes folder) : Recorded next := by
  intro folder hsuccess
  have hbefore := post_of_finish h hlive (hother.imp_left fun h => h folder) hsuccess
  have hfolder : task.folder? ≠ some folder := by
    intro hfolder
    have hnone := post_of_running hw (running_of_finish h hlive) hfolder
    rw [hbefore] at hnone
    cases hnone
  rw [(finish_sites h).2, houtcomes folder hfolder]
  exact hrecorded folder hbefore

theorem record_ne {own : Fin folderList.length} {outcome : Outcome} {task : DagTask folderList}
    (htask : task.folder? = some own) (folder : Fin folderList.length)
    (hne : task.folder? ≠ some folder) :
    (state.record own outcome).outcomes folder = state.outcomes folder := by
  refine Function.update_of_ne ?_ ..
  rintro rfl
  exact hne htask

theorem Recorded.ended (hw : Wired state) (hrecorded : Recorded state)
    {task : DagTask folderList} (h : state.ended task = some next) : Recorded next := by
  cases task with
  | verifyState own =>
    simp only [SyncState.ended] at h
    split at h
    · exact hrecorded.finish hw h rfl (.inl (by simp)) fun _ _ => rfl
    · exact hrecorded.finish hw h rfl (.inr rfl) (record_ne rfl)
    · cases h
  | postUpdate own =>
    simp only [SyncState.ended] at h
    split at h
    · intro folder hsuccess
      by_cases hown : folder = own
      · subst hown
        rw [(finish_sites h).2, record_outcomes]
      · have hbefore := post_of_finish h (by rfl) (.inl (by simpa using Ne.symm hown)) hsuccess
        rw [(finish_sites h).2]
        exact (Function.update_of_ne hown ..).trans (hrecorded folder hbefore)
    · exact hrecorded.finish hw h rfl (.inr rfl) (record_ne rfl)
    · cases h
  | stopHive =>
    simp only [SyncState.ended] at h
    split at h
    · exact hrecorded.finish hw h rfl (.inl (by simp)) fun _ _ => rfl
    · exact hrecorded.finish hw h rfl (.inr rfl) fun _ _ => rfl
    · cases h
  | startHive =>
    simp only [SyncState.ended] at h
    split at h
    · exact hrecorded.finish hw h rfl (.inl (by simp)) fun _ _ => rfl
    · exact hrecorded.finish hw h rfl (.inr rfl) fun _ _ => rfl
    · cases h
  | _ => cases h

theorem Recorded.step (hw : Wired state) (hrecorded : Recorded state)
    {move : SyncMove folderList} (h : state.step move = some next) : Recorded next := by
  cases move with
  | begin task =>
    obtain ⟨live, hstart, rfl⟩ := Option.map_eq_some_iff.1 h
    obtain ⟨-, -, -, rfl⟩ := Graph.start_eq_some.1 hstart
    exact hrecorded
  | call task =>
    cases task with
    | verifyState own =>
      obtain ⟨program, rest, sites, -, -, rfl⟩ := callHdfs_eq_some.1 h
      exact hrecorded
    | postUpdate own =>
      obtain ⟨program, rest, sites, -, -, rfl⟩ := callHdfs_eq_some.1 h
      exact hrecorded
    | _ => cases h
  | answered task answer =>
    cases task with
    | stopHive =>
      obtain ⟨program, op, rest, -, -, rfl⟩ := callAmbari_eq_some.1 h
      exact hrecorded
    | startHive =>
      obtain ⟨program, op, rest, -, -, rfl⟩ := callAmbari_eq_some.1 h
      exact hrecorded
    | _ => cases h
  | ended task => exact hrecorded.ended hw h
  | plain task =>
    simp only [SyncState.step] at h
    split_ifs at h with hplain
    refine hrecorded.finish hw h rfl (.inl ?_) fun _ _ => rfl
    rintro folder rfl
    cases hplain
  | distcp own tree succeeded =>
    obtain ⟨branch, sites, -, -, hfinish⟩ := distcp_eq_some.1 h
    have hne : ∀ folder, branch.copyTask own ≠ .postUpdate folder := by
      cases branch <;> simp [Branch.copyTask]
    cases succeeded with
    | true => exact hrecorded.finish hw hfinish (by rfl) (.inl hne) fun _ _ => rfl
    | false =>
      exact hrecorded.finish hw hfinish (by rfl) (.inl hne)
        (record_ne (copyTask_folder branch own))
  | lost task =>
    change state.lost task = some next at h
    unfold lost at h
    split at h
    · rename_i own htask
      exact hrecorded.finish hw h (by rfl) (.inr rfl) (record_ne htask)
    · exact hrecorded.finish hw h rfl (.inr rfl) fun _ _ => rfl
  | pass task =>
    obtain ⟨live, hpass, rfl⟩ := Option.map_eq_some_iff.1 h
    obtain ⟨run, hstep, rfl⟩ := Graph.pass_eq_some.1 hpass
    exact fun folder hsuccess =>
      hrecorded folder (Graph.success_of_step hstep (by simp) hsuccess)
  | orphan | spread | users =>
    obtain ⟨stored, rfl⟩ := written h rfl
    exact hrecorded
  | nextRun =>
    simp only [SyncState.step] at h
    split_ifs at h
    cases h
    intro folder hsuccess
    cases hsuccess

theorem phase_of_validated (hw : Wired state)
    (hpost : state.live.run.states (.postUpdate folder) = .success) :
    state.phase folder = .idle (state.outcomes folder) := by
  have hverify : state.live.run.states (.verifyState folder) ≠ .none := by
    intro hnone
    rw [(hw.undecided hnone).2] at hpost
    cases hpost
  have hchecking := checking_eq_none hw hverify
  have hvalidating : state.validating folder = none := hw.idle (by simp [hpost])
  cases hpushed : state.pushed folder with
  | none => exact phase_unpushed hchecking hvalidating hpushed
  | some branch =>
    refine phase_over hchecking hvalidating hpushed (fun hnone => ?_) (by simp [hpost])
    rw [hw.post_undecided hpushed hnone] at hpost
    cases hpost

/-- Where no folder lies in another, successful copies are exact and none writes after its
task, snapshots of one number agree on both sites of every folder, and `start_hive` runs only
when the Hive database is copied and every folder is the same on both sites. -/
theorem hive_starts_synchronised (hsep : ∀ folder : Fin folderList.length, Separate folder)
    (hstart : start.Fresh)
    (hrun : Reaches (restrictAt SyncState.step SyncState.exact) start state) :
    (∀ folder, Consistent (state.sites folder).view) ∧
      (state.live.Running .startHive ∨ state.live.run.executed .startHive →
        state.live.run.states .copyPgHiveDatabase = .success ∧
          ∀ folder, ∃ n tree, (state.sites folder).Synchronised n tree) := by
  have hw := wired_of_reaches hstart.wired hrun.of_restrictAt
  have hholds : ∀ folder, confirmed.Holds (state.folderState folder) := by
    intro folder
    refine confirmed.holds (folder_history_exact (hsep folder) hstart.wired hrun) ?_
    have hfresh := hstart.folderState folder
    unfold Discipline.Holds
    rw [hfresh.idle]
    exact ⟨.of_fresh hfresh, by simp, by simp⟩
  have hconsistent : ∀ folder, Consistent (state.sites folder).view :=
    fun folder => (hholds folder).view fun _ h => h
  have hrecorded : Recorded state := by
    refine (Reaches.invariant (I := fun state => Wired state ∧ Recorded state)
      (fun _ _ _ h hstep => ⟨h.1.step hstep, h.2.step h.1 hstep⟩) hrun.of_restrictAt
      ⟨hstart.wired, fun folder hsuccess => ?_⟩).2
    rw [hstart.live] at hsuccess
    cases hsuccess
  refine ⟨hconsistent, fun hhive => ?_⟩
  obtain ⟨hcopied, hvalidated⟩ := behind_validations hw hhive
  refine ⟨hcopied, fun folder => ?_⟩
  have hphase := phase_of_validated hw (hvalidated folder)
  have hdone := hholds folder
  unfold Discipline.Holds at hdone
  rw [show (state.folderState folder).phase = _ from hphase, hrecorded folder (hvalidated folder)]
    at hdone
  obtain ⟨n, hmain, hdr⟩ := hdone.2.1 rfl
  exact ⟨n, (hconsistent folder).synchronised hmain hdr⟩

theorem uncopied_fresh : (uncopied : SyncState folderList).Fresh :=
  ⟨rfl, rfl, rfl, fun _ => oneFile_fresh.main, fun _ => oneFile_fresh.dr⟩

theorem one_run_starts_hive :
    ∃ state : SyncState ["/data"],
      Reaches (restrictAt SyncState.step SyncState.exact) uncopied state ∧
      state.live.Running .startHive ∧ state.live.run.states .copyPgHiveDatabase = .success ∧
        ∀ folder, ∃ n tree, (state.sites folder).Synchronised n tree := by
  obtain ⟨state, hrun, hrunning⟩ := exists_of_replay
    (restrictAt SyncState.step SyncState.exact) (uncopied : SyncState ["/data"])
    (uptoCopy 0 ++ .plain .copyPgHiveDatabase :: fromCopy 0 ++
      [.begin .startHive, .answered .startHive acceptedAnswer])
    (fun state => (state.live.working .startHive).isSome) (by decide +kernel)
  obtain ⟨-, hstarts⟩ := hive_starts_synchronised (by decide) uncopied_fresh hrun
  exact ⟨state, hrun, hrunning, hstarts (.inl hrunning)⟩

end SyncState

end QubershipAirflow.DrSync
