import QubershipAirflow.SiteManager.Leftovers

/-! Replica counts over a sequence of switchovers. As long as no listing and no
scaling fails and nobody else writes, the replica count of a workload is the one
set by the last call that updated it. -/
namespace QubershipAirflow.SiteManager

open VersionedStore

section Entries

variable {cluster : Cluster} {kind : Kind} {component : String}

theorem lookupName_entry {ids : Identities} (h : lookupName ids kind component ≠ "") :
    ∃ entry ∈ ids kind, entry.1 = lookupName ids kind component ∧
      componentOf entry = component := by
  cases hhead : ((ids kind).filter fun entry =>
      Selector.selects [("component", component)] entry.2.labels).head? with
  | none => simp [lookupName, hhead] at h
  | some entry =>
    have hentry := List.mem_filter.mp (List.mem_of_head? hhead)
    refine ⟨entry, hentry.1, ?_, ?_⟩
    · simp only [lookupName, hhead] at h ⊢
      split_ifs with huid
      · simp [huid] at h
      · rfl
    · have hlabel := hentry.2
      simp only [Selector.selects, List.all_cons, List.all_nil, Bool.and_true, beq_iff_eq] at hlabel
      simp [componentOf, Labels.read, hlabel]

theorem identities_unique {entry other : String × Identity}
    (h : entry ∈ cluster.identities kind) (hother : other ∈ cluster.identities kind)
    (hname : entry.1 = other.1) : entry = other := by
  have hkeyed : ((cluster.identities kind).map Prod.fst).Nodup := by
    have hnames : (cluster.identities kind).map Prod.fst =
        (cluster.store kind).objects.map Object.name := by
      simp [Cluster.identities, Store.view, Function.comp_def]
    rw [hnames]
    exact (cluster.store kind).keyed
  exact List.inj_on_of_nodup_map hkeyed h hother hname

theorem mem_identities_of_tier {ids : Identities} {entry : String × Identity}
    (h : entry ∈ tier ids kind) : entry ∈ ids kind :=
  (List.mem_filter.mp h).1

end Entries

section Writes

variable {m : DRManager} {ids : Identities} {mode : Mode} {cluster cluster' : Cluster}
  {call next : Call}

def Call.Updates (call : Call) (kind : Kind) (name : String) : Prop :=
  ∃ replicas, .updated kind name replicas ∈ call.log

def Event.isUpdate (kind : Kind) (name : String) : Event → Bool
  | .updated kind' name' _ => kind' = kind ∧ name' = name
  | _ => false

instance (call : Call) (kind : Kind) (name : String) : Decidable (call.Updates kind name) :=
  decidable_of_iff (call.log.any (Event.isUpdate kind name) = true) (by
    rw [List.any_eq_true]
    constructor
    · rintro ⟨event, hmem, hupdate⟩
      cases event with
      | updated kind' name' replicas =>
        simp only [Event.isUpdate, decide_eq_true_eq] at hupdate
        obtain ⟨rfl, rfl⟩ := hupdate
        exact ⟨replicas, hmem⟩
      | _ => simp [Event.isUpdate] at hupdate
    · rintro ⟨replicas, hmem⟩
      exact ⟨_, hmem, by simp [Event.isUpdate]⟩)

inductive Call.Writes (ids : Identities) (cluster : Cluster) (call : Call) (cluster' : Cluster)
    (next : Call) : Prop where
  | nothing (same : cluster' = cluster)
      (updates : ∀ kind name, next.Updates kind name ↔ call.Updates kind name)
  | replicas (scaler : Scaler) (member : scaler ∈ call.scalers)
      (busy : scaler.phase.isBusy = true)
      (named : lookupName ids scaler.kind scaler.component ≠ "")
      (written : cluster'.replicas scaler.kind (lookupName ids scaler.kind scaler.component) =
        some scaler.replicas)
      (frame : ∀ kind name,
        ¬ (kind = scaler.kind ∧ name = lookupName ids scaler.kind scaler.component) →
        cluster'.replicas kind name = cluster.replicas kind name)
      (updates : ∀ kind name, next.Updates kind name ↔ call.Updates kind name ∨
        kind = scaler.kind ∧ name = lookupName ids scaler.kind scaler.component)

private theorem Call.updates_record (call : Call) (events : List Event)
    (h : ∀ kind name replicas, .updated kind name replicas ∉ events) (kind : Kind)
    (name : String) : (call.record events).Updates kind name ↔ call.Updates kind name := by
  simp [Call.Updates, h]

theorem Call.Moves.writes (hmove : call.Moves m ids cluster cluster' next) :
    Call.Writes ids cluster call cluster' next := by
  cases hmove with
  | ret => exact .nothing rfl (Call.updates_record call _ (by intros; split <;> simp))
  | @listDeployments failure =>
    have hrecord := Call.updates_record call (call.deploymentEvents cluster failure) (by
      intros
      cases failure <;> cases call.err <;> simp [Call.deploymentEvents])
    cases failure <;> exact .nothing rfl hrecord
  | @listStatefulSets failure =>
    have hrecord := Call.updates_record call (call.listingEvents cluster .scale failure) (by
      intros
      cases failure <;> cases call.err <;> simp [Call.listingEvents])
    cases failure <;> exact .nothing rfl hrecord
  | @relist failure =>
    have hrecord := Call.updates_record call (call.listingEvents cluster .wait failure) (by
      intros
      cases failure <;> cases call.err <;> simp [Call.listingEvents])
    cases failure <;> exact .nothing rfl hrecord
  | @scalerCall _ scaler _ _ _ goroutine at_ outcome =>
    cases outcome with
    | onward => exact .nothing rfl (Call.updates_record call [] (by simp))
    | accepted kept named written frame =>
      refine .replicas scaler (List.mem_of_getElem? goroutine) at_ named written frame ?_
      intro kind name
      simp only [Call.Updates]
      constructor
      · rintro ⟨replicas, hmem⟩
        rcases Call.mem_record_log.mp hmem with hmem | hmem
        · exact .inl ⟨replicas, hmem⟩
        · simp only [List.mem_singleton, Event.updated.injEq] at hmem
          exact .inr ⟨hmem.1, hmem.2.1⟩
      · rintro (⟨replicas, hmem⟩ | ⟨rfl, rfl⟩)
        · exact ⟨replicas, Call.mem_record_log.mpr (.inl hmem)⟩
        · exact ⟨scaler.replicas, Call.mem_record_log.mpr (.inr (by simp))⟩
    | refused => exact .nothing rfl (Call.updates_record call _ (by simp))
  | skipRelisted => exact .nothing rfl (Call.updates_record call _ (by simp))
  | workersListed => exact .nothing rfl (Call.updates_record call _ (by simp))
  | workersListFailed => exact .nothing rfl (Call.updates_record call _ (by simp))
  | podDeleted => exact .nothing rfl (Call.updates_record call _ (by simp))
  | podDeleteFailed => exact .nothing rfl (Call.updates_record call _ (by simp))
  | polled => exact .nothing rfl (Call.updates_record call _ (by simp))
  | waitTimeout => exact .nothing rfl (Call.updates_record call _ (by simp))
  | _ => exact .nothing rfl fun _ _ => Iff.rfl

theorem Call.Arises.updates_lookup (h : Call.Arises m ids mode call) {kind : Kind}
    {name : String} (hupdates : call.Updates kind name) :
    ∃ component, lookupName ids kind component ≠ "" ∧ name = lookupName ids kind component := by
  induction h with
  | start =>
    obtain ⟨replicas, hmem⟩ := hupdates
    exact absurd hmem List.not_mem_nil
  | move before same moves ih =>
    cases moves.writes with
    | nothing _ updates => exact ih ((updates kind name).mp hupdates)
    | replicas scaler member busy named written frame updates =>
      rcases (updates kind name).mp hupdates with hbefore | ⟨rfl, rfl⟩
      · exact ih hbefore
      · exact ⟨scaler.component, named, rfl⟩

theorem Call.Arises.scaleLoop_done (h : Call.Arises m ids mode call)
    (hmode : mode.isSupported = true) (hfailed : ¬ call.FailedScaling)
    (hcaller : call.caller ≠ .rangeScaleCh) : call.scaleLoop = .done := by
  induction h with
  | start => cases mode <;> simp_all [Mode.isSupported, Call.start]
  | @move _ _ call next before same moves ih =>
    have hcall := ih fun h => hfailed (moves.failedScaling_mono h)
    by_cases hbefore : call.caller = .rangeScaleCh
    · cases moves with
      | scaleChEnds at_ closed => exact before.wellFormed.scaleCh.mp closed
      | receiveScaleErr at_ sender sends =>
        have hsettled := (before.scaler_proper _ (List.mem_of_getElem? sender)).settled
        simp only [Scaler.Settled, sends] at hsettled
        obtain ⟨err, hrefused⟩ := hsettled
        exact absurd ⟨_, hrefused, rfl⟩ hfailed
      | _ => simp_all
    · exact moves.scaleLoop_done (hcall hbefore)

end Writes

section Histories

variable {m : DRManager} {cluster : Cluster} {system next : System} {kind : Kind}
  {entry : String × Identity}

def Move.isOwn : Move → Bool
  | .other _ => false
  | _ => true

def replicasAfter (m : DRManager) (calls : List Call) (kind : Kind)
    (entry : String × Identity) (start : Option Int32) : Option Int32 :=
  calls.foldl (fun replicas call =>
    if call.Updates kind entry.1 then some (m.target call.mode (componentOf entry))
    else replicas) start

theorem replicasAfter_set {calls : List Call} {k : Nat} {call call' : Call}
    (hcall : calls[k]? = some call) (hmode : call'.mode = call.mode)
    (hupdates : call'.Updates kind entry.1 ↔ call.Updates kind entry.1)
    (start : Option Int32) :
    replicasAfter m (calls.set k call') kind entry start =
      replicasAfter m calls kind entry start := by
  unfold replicasAfter
  induction calls generalizing k start with
  | nil => rfl
  | cons first rest ih =>
    cases k with
    | zero =>
      cases Option.some.inj hcall
      simp only [List.set_cons_zero, List.foldl_cons, hmode, hupdates]
    | succ k => exact ih hcall _

theorem replicasAfter_set_last {calls : List Call} {k : Nat} {call' : Call}
    (hlast : k + 1 = calls.length) (hupdates : call'.Updates kind entry.1)
    (start : Option Int32) :
    replicasAfter m (calls.set k call') kind entry start =
      some (m.target call'.mode (componentOf entry)) := by
  unfold replicasAfter
  induction calls generalizing k start with
  | nil => simp at hlast
  | cons first rest ih =>
    cases k with
    | zero =>
      obtain rfl : rest = [] := List.length_eq_zero_iff.mp (by simpa using hlast.symm)
      simp [hupdates]
    | succ k => exact ih (by simpa using hlast) _

/-- Only the last call runs, and the cluster holds what the calls have set. -/
structure System.Tracked (m : DRManager) (cluster : Cluster) (system : System) : Prop where
  returned : ∀ k call, system.calls[k]? = some call → k + 1 < system.calls.length →
    call.hasReturned = true
  replicas : (∀ call ∈ system.calls, ¬ call.FailedScaling) → ∀ kind,
    ∀ entry ∈ cluster.identities kind, system.cluster.replicas kind entry.1 =
      replicasAfter m system.calls kind entry (cluster.replicas kind entry.1)

theorem System.tracked_initial : (System.initial cluster).Tracked m cluster :=
  ⟨by simp [System.initial], fun _ _ _ _ => rfl⟩

theorem System.Tracked.start (h : system.Tracked m cluster) {mode : Mode}
    (hstep : system.step m (.start mode) = some next) : next.Tracked m cluster := by
  simp only [System.step] at hstep
  split at hstep
  · rename_i hall
    cases hstep
    refine ⟨fun k call hcall hlt => ?_, fun hquiet kind entry hentry => ?_⟩
    · simp only [List.length_append, List.length_singleton] at hlt
      rw [List.getElem?_append_left (by omega)] at hcall
      exact List.all_eq_true.mp hall call (List.mem_of_getElem? hcall)
    · have hbefore := h.replicas (fun call hmem => hquiet call (List.mem_append_left _ hmem))
        kind entry hentry
      have hnone : ¬ (Call.start mode).Updates kind entry.1 := by
        rintro ⟨replicas, hmem⟩
        exact absurd hmem List.not_mem_nil
      rw [hbefore]
      simp [replicasAfter, hnone]
  · contradiction

theorem System.Tracked.last (h : system.Tracked m cluster)
    (hconsistent : system.Consistent m cluster.identities) {k : Nat} {call : Call}
    (hcall : system.calls[k]? = some call) (hquiet : ¬ call.FailedScaling)
    (hmode : call.mode.isSupported = true) {scaler : Scaler} (hmem : scaler ∈ call.scalers)
    (hbusy : scaler.phase.isBusy = true) : k + 1 = system.calls.length := by
  have hlt := (List.getElem?_eq_some_iff.mp hcall).1
  by_contra hne
  have hret := h.returned k call hcall (by omega)
  have harises := hconsistent.2 call (List.mem_of_getElem? hcall)
  have hcaller : call.caller ≠ .rangeScaleCh := by
    intro hcaller
    simp [Call.hasReturned, hcaller] at hret
  have hdone := harises.scaleLoop_done hmode hquiet hcaller
  simp [harises.wellFormed.scalers_finished hdone hmem, ScalePhase.isBusy] at hbusy

theorem System.Tracked.act (h : system.Tracked m cluster)
    (hconsistent : system.Consistent m cluster.identities) {k : Nat} {act : Act}
    (hstep : system.step m (.act k act) = some next) : next.Tracked m cluster := by
  obtain ⟨call, call', hcall, hcallStep, hcalls⟩ := System.step_act hstep
  have hmem := List.mem_of_getElem? hcall
  have hlt := (List.getElem?_eq_some_iff.mp hcall).1
  have harises := hconsistent.2 call hmem
  have hmove := hconsistent.moves hmem hcallStep
  have hmode : call.mode.isSupported = true := by
    by_contra hunsupported
    rw [Bool.not_eq_true] at hunsupported
    have hstart := harises.eq_start hunsupported
    rw [hstart] at hmove
    simp [hmove.supported] at hunsupported
  refine ⟨fun j other hother hless => ?_, fun hquiet kind entry hentry => ?_⟩
  · rw [hcalls] at hother hless
    rw [List.length_set] at hless
    by_cases hj : k = j
    · subst hj
      rw [List.getElem?_set_self hlt] at hother
      cases hother
      exact hmove.returned_stays (h.returned k call hcall hless)
    · rw [List.getElem?_set_ne hj] at hother
      exact h.returned j other hother hless
  · rw [hcalls] at hquiet
    have hquietCall : ¬ call.FailedScaling := fun hfailed =>
      hquiet call' (List.mem_set hlt call') (hmove.failedScaling_mono hfailed)
    have hbefore := h.replicas (fun other hother hfailed => ?_) kind entry hentry
    · rw [hcalls]
      cases hmove.writes with
      | nothing same updates =>
        rw [replicasAfter_set hcall hmove.mode_eq (updates kind entry.1), ← hbefore, same]
      | replicas scaler member busy named written frame updates =>
        have hlast := h.last hconsistent hcall hquietCall hmode member busy
        by_cases hwritten : kind = scaler.kind ∧
            entry.1 = lookupName cluster.identities scaler.kind scaler.component
        · obtain ⟨rfl, hname⟩ := hwritten
          obtain ⟨found, hfound, hfoundName, hcomponent⟩ := lookupName_entry named
          cases identities_unique hentry hfound (hname.trans hfoundName.symm)
          rw [replicasAfter_set_last hlast ((updates _ _).mpr (.inr ⟨rfl, hname⟩)), hname,
            written, hcomponent, hmove.mode_eq, (harises.scaler_proper scaler member).target]
        · have hsame : call'.Updates kind entry.1 ↔ call.Updates kind entry.1 :=
            (updates kind entry.1).trans (or_iff_left hwritten)
          rw [replicasAfter_set hcall hmove.mode_eq hsame, ← hbefore, frame _ _ hwritten]
    · obtain ⟨j, hj⟩ := List.mem_iff_getElem?.mp hother
      by_cases hjk : k = j
      · subst hjk
        rw [hcall] at hj
        cases hj
        exact hquietCall hfailed
      · refine hquiet other (List.mem_of_getElem? (i := j) ?_) hfailed
        rwa [List.getElem?_set_ne hjk]

theorem System.tracked
    (hrun : Runs.Reaches (Runs.restrict (System.step m) Move.isOwn) (System.initial cluster)
      system) : system.Tracked m cluster := by
  refine Runs.Reaches.invariant_from (I := System.Tracked m cluster) System.tracked_initial ?_ hrun
  intro system move next hreached h hstep
  obtain ⟨hown, hstep⟩ := Runs.restrict_eq_some.mp hstep
  cases move with
  | start mode => exact h.start hstep
  | act k act => exact h.act (System.consistent hreached.of_restrict) hstep
  | other cluster => simp [Move.isOwn] at hown

def KeepsReplicas (cluster later : Cluster) : Prop :=
  ∀ kind, ∀ entry ∈ tier cluster.identities kind,
    later.replicas kind entry.1 = cluster.replicas kind entry.1

def DRManager.CountsCurrent (m : DRManager) (cluster : Cluster) : Prop :=
  ∀ kind, ∀ entry ∈ tier cluster.identities kind,
    m.componentToReplicaMap.hasEntry (componentOf entry) →
    ∃ replicas, cluster.replicas kind entry.1 = some replicas ∧
      replicas.toInt = m.componentToReplicaMap.read (componentOf entry)

theorem Call.Arises.updates_iff {ids : Identities} {mode : Mode} {call : Call}
    (h : Call.Arises m ids mode call) (hids : cluster.identities = ids)
    (hmode : mode.isSupported = true) (hret : call.hasReturned = true)
    (hquiet : ¬ call.FailedScaling) (hentry : entry ∈ tier ids kind) :
    call.Updates kind entry.1 ↔ lookupName ids kind (componentOf entry) = entry.1 := by
  have hcaller : call.caller ≠ .rangeScaleCh := by
    intro hcaller
    simp [Call.hasReturned, hcaller] at hret
  have hdone := h.scaleLoop_done hmode hquiet hcaller
  constructor
  · intro hupdates
    obtain ⟨component, hnamed, hname⟩ := h.updates_lookup hupdates
    obtain ⟨found, hfound, hfoundName, hcomponent⟩ := lookupName_entry hnamed
    rw [← hids] at hfound hentry
    cases identities_unique (mem_identities_of_tier hentry) hfound (hname.trans hfoundName.symm)
    rw [hcomponent, hname]
  · intro hfinds
    obtain ⟨-, hmem⟩ := h.updated hdone hquiet hentry
    rw [hfinds] at hmem
    exact ⟨_, hmem⟩

theorem ReplicaMap.read_of_no_entry {replicaMap : ReplicaMap} {component : String}
    (h : ¬ replicaMap.hasEntry component) : replicaMap.read component = 0 := by
  unfold ReplicaMap.hasEntry at h
  simp only [Bool.not_eq_true, Option.isSome_eq_false_iff, Option.isNone_iff_eq_none] at h
  simp [ReplicaMap.read, h]

theorem roundTrip_keeps_replicas_iff
    (hrun : Runs.Reaches (Runs.restrict (System.step m) Move.isOwn) (System.initial cluster)
      system)
    {first second : Call} (hcalls : system.calls = [first, second])
    (hstandby : first.mode = .standby) (hactive : second.mode = .active)
    (hret : second.hasReturned = true)
    (hquiet : ∀ call ∈ system.calls, ¬ call.FailedScaling)
    (hcounts : m.CountsCurrent cluster) :
    KeepsReplicas cluster system.cluster ↔
      ∀ kind, ∀ entry ∈ tier cluster.identities kind,
        lookupName cluster.identities kind (componentOf entry) = entry.1 →
        m.componentToReplicaMap.hasEntry (componentOf entry) ∨
          cluster.replicas kind entry.1 = some 0 := by
  have hconsistent := System.consistent hrun.of_restrict
  have htracked := System.tracked hrun
  have hfirst := hconsistent.2 first (by simp [hcalls])
  have hsecond := hconsistent.2 second (by simp [hcalls])
  have hfirstRet := htracked.returned 0 first (by simp [hcalls]) (by simp [hcalls])
  have hfinal : ∀ kind, ∀ entry ∈ tier cluster.identities kind,
      system.cluster.replicas kind entry.1 =
        if lookupName cluster.identities kind (componentOf entry) = entry.1 then
          some (int32 (m.componentToReplicaMap.read (componentOf entry)))
        else cluster.replicas kind entry.1 := by
    intro kind entry hentry
    have hfirstUpdates := hfirst.updates_iff rfl (by simp [hstandby, Mode.isSupported]) hfirstRet
      (hquiet first (by simp [hcalls])) hentry
    have hsecondUpdates := hsecond.updates_iff rfl (by simp [hactive, Mode.isSupported]) hret
      (hquiet second (by simp [hcalls])) hentry
    rw [htracked.replicas hquiet kind entry (mem_identities_of_tier hentry), hcalls]
    simp only [replicasAfter, List.foldl_cons, List.foldl_nil, hfirstUpdates, hsecondUpdates,
      hactive, DRManager.target]
    split <;> rfl
  constructor
  · intro hkeeps kind entry hentry hfinds
    by_cases hmapped : m.componentToReplicaMap.hasEntry (componentOf entry)
    · exact .inl hmapped
    · have hkept := hkeeps kind entry hentry
      rw [hfinal kind entry hentry, if_pos hfinds, ReplicaMap.read_of_no_entry hmapped] at hkept
      exact .inr hkept.symm
  · intro hcondition kind entry hentry
    rw [hfinal kind entry hentry]
    split_ifs with hfinds
    · by_cases hmapped : m.componentToReplicaMap.hasEntry (componentOf entry)
      · obtain ⟨replicas, hreplicas, hcount⟩ := hcounts kind entry hentry hmapped
        rw [hreplicas, ← hcount]
        simp [int32]
      · rw [ReplicaMap.read_of_no_entry hmapped]
        exact ((hcondition kind entry hentry hfinds).resolve_left hmapped).symm
    · rfl

def activeOne (wait : List Act) : List Act :=
  List.replicate 4 (.scaleLoop .ok) ++ scaleOne 0 ++ List.replicate 5 (.scaleLoop .ok) ++
    [.caller, .caller] ++ List.replicate 6 (.waitLoop .ok) ++ wait

def roundTrip (wait : List Act) : List Move :=
  .start .standby :: (standbyScheduler [] []).map (Move.act 0) ++
    .start .active :: (activeOne wait).map (Move.act 1)

/-- The chart's triggerer, which the replica map of the environment does not name. -/
def triggerer : Workload :=
  ⟨"triggerer", 0, ⟨"uid-5", [("tier", "airflow"), ("component", "triggerer")], 1, ""⟩⟩

def triggererCluster : Cluster := ⟨⟨[triggerer], by decide⟩, ⟨[], List.nodup_nil⟩⟩

def defaultManager : DRManager := ⟨getEnvReplicaMap fun _ => "", 0⟩

def System.isRoundTrip (system : System) : Bool :=
  match system.calls with
  | [first, second] => first.mode = .standby ∧ second.mode = .active ∧
      second.hasReturned = true ∧
      system.calls.all fun call => call.log.all fun event => !event.isScaleFailure
  | _ => false

theorem System.isRoundTrip_calls (h : system.isRoundTrip = true) :
    ∃ first second, system.calls = [first, second] ∧ first.mode = .standby ∧
      second.mode = .active ∧ second.hasReturned = true ∧
      ∀ call ∈ system.calls, ¬ call.FailedScaling := by
  unfold System.isRoundTrip at h
  split at h
  · rename_i first second hcalls
    simp only [decide_eq_true_eq] at h
    refine ⟨first, second, hcalls, h.1, h.2.1, h.2.2.1, ?_⟩
    rintro call hmem ⟨event, hevent, hfails⟩
    have hnot := List.all_eq_true.mp (List.all_eq_true.mp h.2.2.2 call hmem) event hevent
    simp [hfails] at hnot
  · contradiction

/-- The triggerer is scaled down and never up again; its wait runs out of time. -/
theorem triggerer_lost_by_round_trip :
    defaultManager.CountsCurrent triggererCluster ∧
    ∃ system, Runs.Reaches (Runs.restrict (System.step defaultManager) Move.isOwn)
        (System.initial triggererCluster) system ∧
      (∃ first second, system.calls = [first, second] ∧ first.mode = .standby ∧
        second.mode = .active ∧ second.hasReturned = true ∧
        ∀ call ∈ system.calls, ¬ call.FailedScaling) ∧
      ¬ KeepsReplicas triggererCluster system.cluster := by
  refine ⟨?_, ?_⟩
  · intro kind entry hentry hmapped
    have hunmapped : ∀ entry ∈ tier triggererCluster.identities kind,
        defaultManager.componentToReplicaMap.entries.lookup (componentOf entry) = none := by
      cases kind <;> decide
    simp [ReplicaMap.hasEntry, hunmapped entry hentry] at hmapped
  · obtain ⟨system, hrun, hcheck⟩ := Runs.exists_of_replay
      (Runs.restrict (System.step defaultManager) Move.isOwn) (System.initial triggererCluster)
      (roundTrip [.waiter 0 .timeout, .receive 0, .caller, .caller, .caller])
      (fun system => system.isRoundTrip &&
        system.cluster.replicas .deployment "triggerer" = some 0) (by decide +kernel)
    simp only [Bool.and_eq_true, decide_eq_true_eq] at hcheck
    refine ⟨system, hrun, System.isRoundTrip_calls hcheck.1, fun hkeeps => ?_⟩
    have hkept := hkeeps .deployment triggerer.entry (by decide)
    rw [show triggerer.entry.1 = "triggerer" from rfl, hcheck.2] at hkept
    revert hkept
    decide

def readyScheduler (name : String) : Pod := { schedulerPod with name := name }

/-- A scheduler with its configured count comes back with that count. -/
theorem scheduler_kept_by_round_trip :
    ∃ system, Runs.Reaches (Runs.restrict (System.step schedulerMap) Move.isOwn)
        (System.initial schedulerCluster) system ∧
      system.isRoundTrip = true ∧ KeepsReplicas schedulerCluster system.cluster := by
  obtain ⟨system, hrun, htrip⟩ := Runs.exists_of_replay
    (Runs.restrict (System.step schedulerMap) Move.isOwn) (System.initial schedulerCluster)
    (roundTrip (waitOne 0 [readyScheduler "scheduler-0", readyScheduler "scheduler-1"] ++
      [.waitLoop .ok, .waitLoop .ok, .caller, .caller, .caller]))
    System.isRoundTrip (by decide +kernel)
  obtain ⟨first, second, hcalls, hstandby, hactive, hret, hquiet⟩ :=
    System.isRoundTrip_calls htrip
  have hmapped : ∀ kind, ∀ entry ∈ tier schedulerCluster.identities kind,
      schedulerMap.componentToReplicaMap.entries.lookup (componentOf entry) = some 2 ∧
        schedulerCluster.replicas kind entry.1 = some 2 := by
    intro kind
    cases kind <;> decide
  refine ⟨system, hrun, htrip, (roundTrip_keeps_replicas_iff hrun hcalls hstandby hactive hret
    hquiet ?_).mpr ?_⟩
  · intro kind entry hentry _
    obtain ⟨hread, hreplicas⟩ := hmapped kind entry hentry
    exact ⟨2, hreplicas, by simp [ReplicaMap.read, hread]⟩
  · intro kind entry hentry _
    exact .inl (by simp [ReplicaMap.hasEntry, (hmapped kind entry hentry).1])

end Histories

end QubershipAirflow.SiteManager
