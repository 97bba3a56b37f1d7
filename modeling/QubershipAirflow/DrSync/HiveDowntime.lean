import QubershipAirflow.DrSync.SyncFolders

/-! Hive on the DR site is down while its data is replaced: from the success of
`stop_hive` until `start_hive` asks for its return, Ambari has reported that Hive is brought
down and is asked for nothing else. -/
namespace QubershipAirflow.DrSync

open Programs TaskGraph Runs

variable {folderList : List String}

namespace SyncState

variable {start state next : SyncState folderList}

def replacesData : DagTask folderList → Prop
  | .copyPgHiveDatabase | .initializeFolder _ | .updateFolder _ => True
  | _ => False

/-- What `stop_hive` and `start_hive` achieve, and what lasts between them. -/
structure HiveKept (state : SyncState folderList) : Prop where
  stopping : ∀ program : HiveTask Unit, state.live.working .stopHive = some program →
    FollowsHive "Stop Hive service" "INSTALLED" state.ambari program
  stopped : state.live.run.states .stopHive = .success → ¬ state.live.run.executed .startHive →
    ¬ state.live.Running .startHive → Brought "Stop Hive service" "INSTALLED" state.ambari

theorem HiveKept.of_same (h : HiveKept state) (hambari : next.ambari = state.ambari)
    (hworking : next.live.working .stopHive = state.live.working .stopHive)
    (hstop : next.live.run.states .stopHive = .success →
      state.live.run.states .stopHive = .success)
    (hstart : state.live.run.executed .startHive → next.live.run.executed .startHive)
    (hrunning : state.live.Running .startHive →
      next.live.Running .startHive ∨ next.live.run.executed .startHive) : HiveKept next := by
  refine ⟨fun program hprogram => ?_, fun hsuccess hnotRun hidle => ?_⟩
  · rw [hambari]
    exact h.stopping program (hworking ▸ hprogram)
  · rw [hambari]
    exact h.stopped (hstop hsuccess) (fun hran => hnotRun (hstart hran))
      fun hbefore => (hrunning hbefore).elim hidle hnotRun

theorem executed_extends {run after : DagRun (DagTask folderList)} {task : DagTask folderList}
    (hextends : run.Extends after) (h : run.executed task) : after.executed task := by
  have hdecided : run.states task ≠ .none := by
    intro hnone
    simp [DagRun.executed, hnone, TaskState.isExecuted] at h
  rw [DagRun.executed, (hextends task hdecided).1]
  exact h

theorem stop_before_start (hw : Wired state) (h : state.live.Running .startHive) :
    state.live.run.states .stopHive = .success := by
  have hcopied : state.live.run.states .copyPgHiveDatabase = .success :=
    (hw.sound.upstream h (by simp [drSyncDag, DagTask.upstream])).resolve_right
      (chain_not_skipped hw.reached).2.1
  have hran : state.live.run.executed .copyPgHiveDatabase := by
    simp [DagRun.executed, hcopied, TaskState.isExecuted]
  exact (hw.justified _).upstream_success hran (by simp [drSyncDag, DagTask.upstream])
    (chain_not_skipped hw.reached).1

theorem running_put {live : Live (DagTask folderList) DagTask.Work}
    {task other : DagTask folderList} {work : task.Work} (h : live.Running other) :
    (live.put task (some work)).Running other := by
  by_cases hself : other = task
  · subst hself
    simp [Live.Running]
  · rwa [Live.Running, Live.put_working_ne _ _ hself]

theorem HiveKept.finish {before : SyncState folderList} {task : DagTask folderList}
    {ending : Ending (DagTask folderList)} (h : HiveKept state)
    (hfinish : before.finish task ending = some next) (hlive : before.live = state.live)
    (hambari : before.ambari = state.ambari)
    (hbrought : task = .stopHive → ending ≠ .failure →
      Brought "Stop Hive service" "INSTALLED" state.ambari) :
    HiveKept next := by
  obtain ⟨live, hends, rfl⟩ := finish_eq_some.1 hfinish
  rw [hlive] at hends
  have hextends : state.live.run.Extends live.run :=
    Graph.Moves.extends (.finish task ending hends)
  obtain ⟨hended, hothers, hstate⟩ := finished hends
  refine ⟨fun program hprogram => ?_, fun hsuccess hnotRun hidle => ?_⟩
  · by_cases hself : DagTask.stopHive = task
    · subst hself
      change live.working .stopHive = _ at hprogram
      rw [hended] at hprogram
      cases hprogram
    · change FollowsHive _ _ before.ambari program
      rw [hambari]
      exact h.stopping program ((hothers _ hself).1.symm.trans hprogram)
  · change Brought _ _ before.ambari
    rw [hambari]
    by_cases hstop : task = .stopHive ∧ ending ≠ .failure
    · exact hbrought hstop.1 hstop.2
    · refine h.stopped ?_ (fun hran => hnotRun (executed_extends hextends hran))
        fun hrunning => ?_
      · obtain ⟨-, run, hstep, rfl⟩ := Graph.finish_eq_some.1 hends
        refine Graph.success_of_step hstep (fun pick hpick => hstop ?_) hsuccess
        cases ending with
        | success other =>
          cases hpick
          exact ⟨rfl, by simp⟩
        | failure => cases hpick
      · by_cases hself : DagTask.startHive = task
        · subst hself
          refine hnotRun ?_
          change live.run.executed _
          rw [DagRun.executed, hstate]
          cases ending <;> rfl
        · refine hidle ?_
          change (live.working _).isSome = true
          rwa [(hothers _ hself).1]

theorem HiveKept.call (h : HiveKept state) {task : DagTask folderList}
    (hcall : state.call task = some next) : HiveKept next := by
  cases task with
  | verifyState own =>
    obtain ⟨program, rest, sites, -, -, rfl⟩ := callHdfs_eq_some.1 hcall
    exact h.of_same rfl (Live.put_working_ne _ _ (by simp)) id id (.inl <| running_put ·)
  | postUpdate own =>
    obtain ⟨program, rest, sites, -, -, rfl⟩ := callHdfs_eq_some.1 hcall
    exact h.of_same rfl (Live.put_working_ne _ _ (by simp)) id id (.inl <| running_put ·)
  | _ => cases hcall

theorem HiveKept.answered (hw : Wired state) (h : HiveKept state) {answer : AmbariAnswer}
    {task : DagTask folderList} (hcall : state.answered answer task = some next) :
    HiveKept next := by
  cases task with
  | stopHive =>
    obtain ⟨program, op, rest, hwork, hanswer, rfl⟩ := callAmbari_eq_some.1 hcall
    have hnone := (hw.sound .stopHive (Option.isSome_of_eq_some hwork)).1
    refine ⟨fun found hfound => ?_, fun hsuccess => ?_⟩
    · change (state.live.put .stopHive _).working .stopHive = _ at hfound
      rw [Live.put_working_self] at hfound
      cases hfound
      exact (h.stopping program hwork).answer hanswer
    · change state.live.run.states .stopHive = _ at hsuccess
      rw [hnone] at hsuccess
      cases hsuccess
  | startHive =>
    obtain ⟨program, op, rest, hwork, -, rfl⟩ := callAmbari_eq_some.1 hcall
    have hrunning : state.live.Running .startHive := Option.isSome_of_eq_some hwork
    have hstop := stop_before_start hw hrunning
    refine ⟨fun found hfound => ?_, fun _ _ hidle => absurd (running_put hrunning) hidle⟩
    change (state.live.put .startHive _).working .stopHive = _ at hfound
    rw [Live.put_working_ne _ _ (by simp), hw.idle (by simp [hstop])] at hfound
    cases hfound
  | _ => cases hcall

theorem HiveKept.ended (h : HiveKept state) {task : DagTask folderList}
    (hended : state.ended task = some next) : HiveKept next := by
  cases task with
  | verifyState own =>
    simp only [SyncState.ended] at hended
    split at hended
    · exact h.finish hended rfl rfl (by simp)
    · exact h.finish hended rfl rfl (by simp)
    · cases hended
  | postUpdate own =>
    simp only [SyncState.ended] at hended
    split at hended
    · exact h.finish hended rfl rfl (by simp)
    · exact h.finish hended rfl rfl (by simp)
    · cases hended
  | stopHive =>
    simp only [SyncState.ended] at hended
    split at hended
    · rename_i hwork
      exact h.finish hended rfl rfl fun _ _ => h.stopping _ hwork rfl
    · exact h.finish hended rfl rfl (by simp)
    · cases hended
  | startHive =>
    simp only [SyncState.ended] at hended
    split at hended
    · exact h.finish hended rfl rfl (by simp)
    · exact h.finish hended rfl rfl (by simp)
    · cases hended
  | _ => cases hended

theorem HiveKept.step (hw : Wired state) (h : HiveKept state) {move : SyncMove folderList}
    (hstep : state.step move = some next) : HiveKept next := by
  cases move with
  | begin task =>
    obtain ⟨live, hstart, rfl⟩ := Option.map_eq_some_iff.1 hstep
    obtain ⟨hnone, -, -, rfl⟩ := Graph.start_eq_some.1 hstart
    by_cases hself : DagTask.stopHive = task
    · subst hself
      refine ⟨fun program hprogram => ?_, fun hsuccess => ?_⟩
      · change (state.live.put .stopHive _).working .stopHive = _ at hprogram
        rw [Live.put_working_self] at hprogram
        cases hprogram
        exact requestHiveState_follows "Stop Hive service" "INSTALLED" state.ambari
      · change state.live.run.states .stopHive = _ at hsuccess
        rw [hnone] at hsuccess
        cases hsuccess
    · exact h.of_same rfl (Live.put_working_ne _ _ hself) id id (.inl <| running_put ·)
  | call task => exact h.call hstep
  | answered task answer => exact h.answered hw hstep
  | ended task => exact h.ended hstep
  | plain task =>
    simp only [SyncState.step] at hstep
    split_ifs at hstep with hplain
    refine h.finish hstep rfl rfl fun hself => ?_
    subst hself
    cases hplain
  | distcp own tree succeeded =>
    obtain ⟨branch, sites, -, -, hfinish⟩ := distcp_eq_some.1 hstep
    have hne : branch.copyTask own ≠ .stopHive := by cases branch <;> simp [Branch.copyTask]
    cases succeeded with
    | true => exact h.finish hfinish (by rfl) (by rfl) fun hself => absurd hself hne
    | false => exact h.finish hfinish (by rfl) (by rfl) (by simp)
  | lost task =>
    change state.lost task = some next at hstep
    unfold lost at hstep
    split at hstep
    · exact h.finish hstep (by rfl) (by rfl) (by simp)
    · exact h.finish hstep rfl rfl (by simp)
  | pass task =>
    obtain ⟨live, hpass, rfl⟩ := Option.map_eq_some_iff.1 hstep
    have hextends := Graph.Moves.extends (.pass task hpass)
    obtain ⟨run, hrun, rfl⟩ := Graph.pass_eq_some.1 hpass
    exact h.of_same rfl rfl (Graph.success_of_step hrun (by simp)) (executed_extends hextends)
      .inl
  | orphan | spread | users =>
    obtain ⟨stored, rfl⟩ := written hstep rfl
    exact h.of_same rfl rfl id id .inl
  | nextRun =>
    simp only [SyncState.step] at hstep
    split_ifs at hstep
    cases hstep
    exact ⟨fun program hprogram => (by cases hprogram), fun hsuccess => (by cases hsuccess)⟩

/-- Whatever replaces data runs behind `stop_hive`, and `start_hive` waits for it. -/
theorem replaces_between (hw : Wired state) {task : DagTask folderList}
    (htask : replacesData task) (hrunning : state.live.Running task) :
    state.live.run.states .stopHive = .success ∧
      ¬ (state.live.Running .startHive ∨ state.live.run.executed .startHive) := by
  obtain ⟨hstop, -, -⟩ := chain_not_skipped hw.reached
  have hnone := (hw.sound task hrunning).1
  have hcopies : ∀ folder, task ∈ DagTask.choices (.verifyState folder) →
      state.live.run.states .stopHive = .success ∧
        ¬ (state.live.Running .startHive ∨ state.live.run.executed .startHive) := by
    intro folder hmem
    have hverify : state.live.run.executed (.verifyState folder) := by
      simp [DagRun.executed, hw.verify_success hmem (.inr hrunning), TaskState.isExecuted]
    obtain ⟨other, hother, hkinit⟩ := ((hw.justified _).ran hverify).2
      (by simp [drSyncDag, DagTask.upstream])
    obtain rfl : other = .doKinit := by simpa [drSyncDag, DagTask.upstream] using hother
    have hran : state.live.run.executed .doKinit := by
      simp [DagRun.executed, hkinit, TaskState.isExecuted]
    refine ⟨(hw.justified _).upstream_success hran (by simp [drSyncDag, DagTask.upstream]) hstop,
      fun hhive => ?_⟩
    have hpost := (behind_validations hw hhive).2 folder
    obtain ⟨branch, hbranch, rfl⟩ := hw.pushed_of_running hmem hrunning
    rw [hw.post_undecided hbranch hnone] at hpost
    cases hpost
  cases task with
  | copyPgHiveDatabase =>
    refine ⟨(hw.sound.upstream hrunning (by simp [drSyncDag, DagTask.upstream])).resolve_right
      hstop, fun hhive => ?_⟩
    have hcopied := (behind_validations hw hhive).1
    rw [hnone] at hcopied
    cases hcopied
  | initializeFolder folder => exact hcopies folder (by simp [DagTask.choices])
  | updateFolder folder => exact hcopies folder (by simp [DagTask.choices])
  | _ => cases htask

/-- In every history of the DAG, while a task copies a folder or the Hive database, Ambari has
reported that Hive is brought down, and was asked for nothing since. -/
theorem hive_down_while_replaced (hstart : start.live = .initial)
    (hpushed : start.pushed = fun _ => none) (hrun : Reaches SyncState.step start state)
    {task : DagTask folderList} (htask : replacesData task)
    (hrunning : state.live.Running task) :
    Brought "Stop Hive service" "INSTALLED" state.ambari := by
  have hkept : HiveKept start := by
    refine ⟨fun program hprogram => ?_, fun hsuccess => ?_⟩
    · rw [hstart] at hprogram
      cases hprogram
    · rw [hstart] at hsuccess
      cases hsuccess
  obtain ⟨hw, hhive⟩ := hrun.invariant (I := fun state => Wired state ∧ HiveKept state)
    (fun _ _ _ h hstep => ⟨h.1.step hstep, h.2.step h.1 hstep⟩)
    ⟨.of_initial hstart hpushed, hkept⟩
  obtain ⟨hstop, hnot⟩ := replaces_between hw htask hrunning
  exact hhive.stopped hstop (fun hran => hnot (.inr hran)) fun hidle => hnot (.inl hidle)

theorem hive_down_while_copied :
    ∃ state : SyncState ["/data", "/logs"], Reaches SyncState.step uncopied state ∧
      state.live.Running (.initializeFolder 1) ∧
        Brought "Stop Hive service" "INSTALLED" state.ambari := by
  obtain ⟨state, hrun, hrunning⟩ := exists_of_replay SyncState.step
    (uncopied : SyncState ["/data", "/logs"]) (uptoCopy 1)
    (fun state => (state.live.working (.initializeFolder 1)).isSome) (by decide +kernel)
  exact ⟨state, hrun, hrunning, hive_down_while_replaced rfl rfl hrun (by exact trivial) hrunning⟩

end SyncState

end QubershipAirflow.DrSync
