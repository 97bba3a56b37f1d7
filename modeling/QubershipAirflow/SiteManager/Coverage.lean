import QubershipAirflow.SiteManager.Failures

/-! Which workloads a call has a goroutine for. Each loop starts one for every
workload of the list it ranges over, and the lists are the workloads of the tier;
a loop that skips the StatefulSets has read an error. -/
namespace QubershipAirflow.SiteManager

open WaitGroup

def ScaleLoopPhase.pastDeployments : ScaleLoopPhase → Bool
  | .listStatefulSets | .testStatefulSets | .scaleStatefulSets _ | .waitGroup | .closeCh
  | .done => true
  | _ => false

/-- Past the loop over the StatefulSets, or past the place where it was skipped. -/
def ScaleLoopPhase.pastStatefulSets : ScaleLoopPhase → Bool
  | .waitGroup | .closeCh | .done => true
  | _ => false

def WaitLoopPhase.pastDeployments : WaitLoopPhase → Bool
  | .notStarted | .begin | .waitDeployments _ => false
  | _ => true

def WaitLoopPhase.pastStatefulSets : WaitLoopPhase → Bool
  | .waitGroup => true
  | phase => phase.waited

def WaitLoopPhase.pastWorkersListing : WaitLoopPhase → Bool
  | .listWorkers => false
  | phase => phase.waited

def Call.Scales (call : Call) (kind : Kind) (entry : String × Identity) : Prop :=
  ∃ scaler ∈ call.scalers, scaler.kind = kind ∧ scaler.component = componentOf entry

def Call.WaitsFor (call : Call) (entry : String × Identity) : Prop :=
  ∃ waiter ∈ call.waiters, waiter.component = componentOf entry

def Event.isWorkers : Event → Bool
  | .workersListed _ | .workersListFailed _ | .podDeleted _ | .podDeleteFailed _ _ => true
  | _ => false

structure Call.Lists (ids : Identities) (call : Call) : Prop where
  logged : ∀ kind items, .listed kind items ∈ call.log →
    items.map Workload.entry = tier ids kind
  deployments : ∀ items, call.deploymentsList = some items →
    items.map Workload.entry = tier ids .deployment
  statefulSets : ∀ items, call.statefulSetsList = some items →
    items.map Workload.entry = tier ids .statefulSet

section Lists

variable {m : DRManager} {ids : Identities} {mode : Mode} {cluster cluster' : Cluster}
  {call next : Call}

theorem tier_entries (hids : cluster.identities = ids) (kind : Kind) :
    ((cluster.store kind).select tierLabel).map Workload.entry = tier ids kind := by
  rw [← hids]
  exact select_entries cluster kind tierLabel

theorem Call.Moves.listed (hmove : call.Moves m ids cluster cluster' next)
    (hids : cluster.identities = ids) (h : call.Lists ids) {kind : Kind} {items : List Workload}
    (hmem : .listed kind items ∈ next.log) : items.map Workload.entry = tier ids kind := by
  by_cases hold : .listed kind items ∈ call.log
  · exact h.logged kind items hold
  · cases hmove.event_from hmem hold with
    | listedDeployments => exact tier_entries hids .deployment
    | listedStatefulSets => exact tier_entries hids .statefulSet
    | scaler _ _ _ _ _ outcome => cases outcome

theorem Call.Moves.deployments (hmove : call.Moves m ids cluster cluster' next)
    (hids : cluster.identities = ids) (h : call.Lists ids) {items : List Workload}
    (heq : next.deploymentsList = some items) :
    items.map Workload.entry = tier ids .deployment := by
  cases hmove with
  | @listDeployments failure =>
    cases failure with
    | none =>
      rw [← Option.some.inj heq]
      exact tier_entries hids .deployment
    | some err => simp [Call.listDeployments] at heq
  | _ => exact h.deployments items (by simpa using heq)

theorem Call.Moves.statefulSets (hmove : call.Moves m ids cluster cluster' next)
    (hids : cluster.identities = ids) (h : call.Lists ids) {items : List Workload}
    (heq : next.statefulSetsList = some items) :
    items.map Workload.entry = tier ids .statefulSet := by
  have hlist : ∀ {loop : Loop} {failure : Option Error},
      (call.listStatefulSets cluster loop failure).statefulSetsList = some items →
      items.map Workload.entry = tier ids .statefulSet := by
    intro loop failure heq
    cases failure with
    | none =>
      rw [← Option.some.inj heq]
      exact tier_entries hids .statefulSet
    | some err => simp [Call.listStatefulSets] at heq
  cases hmove with
  | @listDeployments failure =>
    refine h.statefulSets items ?_
    cases failure <;> exact heq
  | listStatefulSets => exact hlist heq
  | relist => exact hlist heq
  | _ => exact h.statefulSets items (by simpa using heq)

theorem Call.Arises.lists (h : Call.Arises m ids mode call) : call.Lists ids := by
  induction h with
  | start =>
    exact ⟨fun _ _ hmem => absurd hmem List.not_mem_nil, fun _ heq => (nomatch heq),
      fun _ heq => (nomatch heq)⟩
  | move _ same moves ih =>
    exact ⟨fun _ _ => moves.listed same ih, fun _ => moves.deployments same ih,
      fun _ => moves.statefulSets same ih⟩

end Lists

section Locations

variable {m : DRManager} {ids : Identities} {mode : Mode} {cluster cluster' : Cluster}
  {call next : Call}

theorem Call.Moves.pastWorkersListing (hmove : call.Moves m ids cluster cluster' next)
    (hformed : call.WellFormed) (h : call.waitLoop.pastWorkersListing = true) :
    next.waitLoop.pastWorkersListing = true := by
  cases hmove with
  | closeScaleCh at_ =>
    rw [hformed.notStarted (by simp [at_])] at h
    contradiction
  | _ => simp_all [WaitLoopPhase.pastWorkersListing, WaitLoopPhase.waited]

theorem Call.Moves.workers_to (hmove : call.Moves m ids cluster cluster' next) {event : Event}
    (hnew : event ∈ next.log) (hold : event ∉ call.log) (hworkers : event.isWorkers = true) :
    next.waitLoop.pastWorkersListing = true := by
  cases hmove.event_from hnew hold with
  | scaler _ _ _ _ _ outcome => cases outcome <;> simp [Event.isWorkers] at hworkers
  | workersListed pods goes => simp [goes, WaitLoopPhase.pastWorkersListing, WaitLoopPhase.waited]
  | workersListFailed err goes =>
    simp [goes, WaitLoopPhase.pastWorkersListing, WaitLoopPhase.waited]
  | podDeleted name rest goes =>
    simp [goes, WaitLoopPhase.pastWorkersListing, WaitLoopPhase.waited]
  | podDeleteFailed name err rest goes =>
    simp [goes, WaitLoopPhase.pastWorkersListing, WaitLoopPhase.waited]
  | _ => simp [Event.isWorkers] at hworkers

theorem Call.Arises.workers_late (h : Call.Arises m ids mode call) {event : Event}
    (hmem : event ∈ call.log) (hworkers : event.isWorkers = true) :
    call.waitLoop.pastWorkersListing = true := by
  induction h with
  | start => exact absurd hmem List.not_mem_nil
  | @move _ _ call next before same moves ih =>
    by_cases hold : event ∈ call.log
    · exact moves.pastWorkersListing before.wellFormed (ih hold)
    · exact moves.workers_to hmem hold hworkers

/-- The failures of the scaling loop: of its listings and of its goroutines. The
re-listing of the wait loop counts among them. -/
def Event.isScaleFailure : Event → Bool
  | .listFailed _ _ | .scaleFailed _ _ _ => true
  | _ => false

def Call.FailedScaling (call : Call) : Prop := ∃ event ∈ call.log, event.isScaleFailure = true

theorem Call.Moves.failedScaling_mono (hmove : call.Moves m ids cluster cluster' next)
    (h : call.FailedScaling) : next.FailedScaling :=
  h.imp fun _ hevent => ⟨hmove.log_mono hevent.1, hevent.2⟩

theorem Call.Moves.notStarted_mono (hmove : call.Moves m ids cluster cluster' next)
    (h : next.waitLoop = .notStarted) : call.waitLoop = .notStarted := by
  cases hmove <;> simp_all

theorem Call.Arises.waiters_nil (h : Call.Arises m ids mode call)
    (hphase : call.waitLoop = .notStarted) : call.waiters = [] := by
  induction h with
  | start => rfl
  | move before same moves ih =>
    have hcall := ih (moves.notStarted_mono hphase)
    cases moves <;> simp_all

theorem Call.Arises.failure_before_wait (h : Call.Arises m ids mode call)
    (hphase : call.waitLoop = .notStarted) {event : Event} (hmem : event ∈ call.log)
    (hfails : event.isFailure = true) : event.isScaleFailure = true := by
  induction h with
  | start => exact absurd hmem List.not_mem_nil
  | @move _ _ call next before same moves ih =>
    by_cases hold : event ∈ call.log
    · exact ih (moves.notStarted_mono hphase) hold
    · have hwaiters := (before.move same moves).waiters_nil hphase
      cases moves.event_from hmem hold with
      | listDeploymentsFailed => rfl
      | listStatefulSetsFailed => rfl
      | scaler _ _ _ _ _ outcome =>
        cases outcome with
        | accepted => simp [Event.isFailure] at hfails
        | refused => rfl
      | waitFailed waiter waiter' err stays => simp [hwaiters] at stays
      | workersListFailed err goes => simp [goes] at hphase
      | podDeleteFailed name err rest goes => simp [goes] at hphase
      | _ => simp [Event.isFailure] at hfails

theorem Call.Arises.failedScaling (h : Call.Arises m ids mode call)
    (hphase : call.waitLoop = .notStarted) (herr : call.err ≠ none) : call.FailedScaling := by
  obtain ⟨event, hmem, hfails⟩ := h.hasFailure (.inl herr)
  exact ⟨event, hmem, h.failure_before_wait hphase hmem hfails⟩

end Locations

section Scaling

variable {m : DRManager} {ids : Identities} {mode : Mode} {cluster cluster' : Cluster}
  {call next : Call}

/-- The scaling loop starts a goroutine for every workload of the tier. -/
structure Call.Scaled (ids : Identities) (call : Call) : Prop where
  scalingDeployments : ∀ rest, call.scaleLoop = .scaleDeployments rest →
    ∀ entry ∈ tier ids .deployment,
      call.Scales .deployment entry ∨ entry ∈ rest.map Workload.entry
  deployments : call.scaleLoop.pastDeployments = true →
    ∀ entry ∈ tier ids .deployment, call.Scales .deployment entry
  scalingStatefulSets : ∀ rest, call.scaleLoop = .scaleStatefulSets rest →
    ∀ entry ∈ tier ids .statefulSet,
      call.Scales .statefulSet entry ∨ entry ∈ rest.map Workload.entry
  statefulSets : call.scaleLoop.pastStatefulSets = true →
    call.FailedScaling ∨ ∀ entry ∈ tier ids .statefulSet, call.Scales .statefulSet entry

theorem Call.Moves.scales (hmove : call.Moves m ids cluster cluster' next) {kind : Kind}
    {entry : String × Identity} (h : call.Scales kind entry) : next.Scales kind entry :=
  hmove.scaler_stays h

private theorem Call.scales_start (item : Workload) (kind : Kind) {rest : List Workload}
    {entry : String × Identity} (next : Call)
    (hstarted : m.startScaler call.mode kind item ∈ next.scalers)
    (hstays : call.Scales kind entry → next.Scales kind entry)
    (h : call.Scales kind entry ∨ entry ∈ (item :: rest).map Workload.entry) :
    next.Scales kind entry ∨ entry ∈ rest.map Workload.entry := by
  rcases h with h | h
  · exact .inl (hstays h)
  · rcases List.mem_cons.mp h with rfl | h
    · exact .inl ⟨_, hstarted, rfl, rfl⟩
    · exact .inr h

theorem Call.Moves.scaling_deployments (hmove : call.Moves m ids cluster cluster' next)
    (hlists : call.Lists ids) (h : call.Scaled ids) {rest : List Workload}
    (hat : next.scaleLoop = .scaleDeployments rest) :
    ∀ entry ∈ tier ids .deployment,
      next.Scales .deployment entry ∨ entry ∈ rest.map Workload.entry := by
  intro entry hentry
  have hstays : call.Scales .deployment entry → next.Scales .deployment entry := hmove.scales
  cases hmove with
  | passDeployments at_ read list =>
    cases hat
    exact .inr (by rwa [hlists.deployments _ list])
  | @scaleDeployment item rest at_ =>
    cases hat
    exact Call.scales_start (m := m) item .deployment _ (List.mem_append_right _ (by simp)) hstays
      (h.scalingDeployments _ at_ entry hentry)
  | _ =>
    first
      | (simp at hat; done)
      | exact (h.scalingDeployments rest (by simpa using hat) entry hentry).imp_left hstays

theorem Call.Moves.scaled_deployments (hmove : call.Moves m ids cluster cluster' next)
    (h : call.Scaled ids) (hat : next.scaleLoop.pastDeployments = true) :
    ∀ entry ∈ tier ids .deployment, next.Scales .deployment entry := by
  intro entry hentry
  have hstays : call.Scales .deployment entry → next.Scales .deployment entry := hmove.scales
  cases hmove with
  | scaledDeployments at_ =>
    exact hstays ((h.scalingDeployments _ at_ entry hentry).resolve_right (by simp))
  | _ => exact hstays (h.deployments (by simp_all [ScaleLoopPhase.pastDeployments]) entry hentry)

theorem Call.Moves.scaling_statefulSets (hmove : call.Moves m ids cluster cluster' next)
    (hlists : call.Lists ids) (h : call.Scaled ids) {rest : List Workload}
    (hat : next.scaleLoop = .scaleStatefulSets rest) :
    ∀ entry ∈ tier ids .statefulSet,
      next.Scales .statefulSet entry ∨ entry ∈ rest.map Workload.entry := by
  intro entry hentry
  have hstays : call.Scales .statefulSet entry → next.Scales .statefulSet entry := hmove.scales
  cases hmove with
  | passStatefulSets at_ read list =>
    cases hat
    exact .inr (by rwa [hlists.statefulSets _ list])
  | @scaleStatefulSet item rest at_ =>
    cases hat
    exact Call.scales_start (m := m) item .statefulSet _ (List.mem_append_right _ (by simp)) hstays
      (h.scalingStatefulSets _ at_ entry hentry)
  | _ =>
    first
      | (simp at hat; done)
      | exact (h.scalingStatefulSets rest (by simpa using hat) entry hentry).imp_left hstays

theorem Call.Moves.scaled_statefulSets (hmove : call.Moves m ids cluster cluster' next)
    (hbefore : Call.Arises m ids mode call) (h : call.Scaled ids)
    (hat : next.scaleLoop.pastStatefulSets = true) :
    next.FailedScaling ∨ ∀ entry ∈ tier ids .statefulSet, next.Scales .statefulSet entry := by
  have hstays : ∀ entry, call.Scales .statefulSet entry → next.Scales .statefulSet entry :=
    fun _ => hmove.scales
  have hfailed := hmove.failedScaling_mono
  cases hmove with
  | skipStatefulSets at_ read =>
    have hnotStarted := hbefore.wellFormed.notStarted (by simp [at_])
    exact .inl (hfailed (hbefore.failedScaling hnotStarted read))
  | scaledStatefulSets at_ =>
    exact .inr fun entry hentry => hstays entry
      ((h.scalingStatefulSets _ at_ entry hentry).resolve_right (by simp))
  | _ =>
    refine (h.statefulSets (by simp_all [ScaleLoopPhase.pastStatefulSets])).imp hfailed ?_
    exact fun hcovered entry hentry => hstays entry (hcovered entry hentry)

theorem Call.Arises.scaled (h : Call.Arises m ids mode call) : call.Scaled ids := by
  induction h with
  | start =>
    cases mode <;> exact ⟨by simp [Call.start],
      by simp [Call.start, ScaleLoopPhase.pastDeployments],
      by simp [Call.start], by simp [Call.start, ScaleLoopPhase.pastStatefulSets]⟩
  | move before _ moves ih =>
    exact ⟨fun _ => moves.scaling_deployments before.lists ih, moves.scaled_deployments ih,
      fun _ => moves.scaling_statefulSets before.lists ih, moves.scaled_statefulSets before ih⟩

end Scaling

section Waiting

variable {m : DRManager} {ids : Identities} {mode : Mode} {cluster cluster' : Cluster}
  {call next : Call}

/-- The wait loop starts a goroutine for every workload of the tier. -/
structure Call.Awaited (ids : Identities) (call : Call) : Prop where
  waitingDeployments : ∀ rest, call.waitLoop = .waitDeployments rest →
    ∀ entry ∈ tier ids .deployment, call.WaitsFor entry ∨ entry ∈ rest.map Workload.entry
  deployments : call.waitLoop.pastDeployments = true →
    ∀ entry ∈ tier ids .deployment, call.WaitsFor entry
  waitingStatefulSets : ∀ rest, call.waitLoop = .waitStatefulSets rest →
    ∀ entry ∈ tier ids .statefulSet, call.WaitsFor entry ∨ entry ∈ rest.map Workload.entry
  statefulSets : call.waitLoop.pastStatefulSets = true →
    .waitSkipped ∈ call.log ∨ ∀ entry ∈ tier ids .statefulSet, call.WaitsFor entry

theorem Call.Moves.waitsFor (hmove : call.Moves m ids cluster cluster' next)
    {entry : String × Identity} (h : call.WaitsFor entry) : next.WaitsFor entry :=
  hmove.waiter_stays h

private theorem Call.waits_start (item : Workload) {rest : List Workload}
    {entry : String × Identity} (next : Call) (hstarted : Waiter.start item ∈ next.waiters)
    (hstays : call.WaitsFor entry → next.WaitsFor entry)
    (h : call.WaitsFor entry ∨ entry ∈ (item :: rest).map Workload.entry) :
    next.WaitsFor entry ∨ entry ∈ rest.map Workload.entry := by
  rcases h with h | h
  · exact .inl (hstays h)
  · rcases List.mem_cons.mp h with rfl | h
    · exact .inl ⟨_, hstarted, rfl⟩
    · exact .inr h

theorem Call.Moves.waiting_deployments (hmove : call.Moves m ids cluster cluster' next)
    (hlists : call.Lists ids) (h : call.Awaited ids) {rest : List Workload}
    (hat : next.waitLoop = .waitDeployments rest) :
    ∀ entry ∈ tier ids .deployment,
      next.WaitsFor entry ∨ entry ∈ rest.map Workload.entry := by
  intro entry hentry
  have hstays : call.WaitsFor entry → next.WaitsFor entry := hmove.waitsFor
  cases hmove with
  | beginWait at_ list =>
    cases hat
    exact .inr (by rwa [hlists.deployments _ list])
  | @waitDeployment item rest at_ =>
    cases hat
    exact Call.waits_start item _ (List.mem_append_right _ (by simp)) hstays
      (h.waitingDeployments _ at_ entry hentry)
  | _ =>
    first
      | (simp at hat; done)
      | exact (h.waitingDeployments rest (by simpa using hat) entry hentry).imp_left hstays

theorem Call.Moves.awaited_deployments (hmove : call.Moves m ids cluster cluster' next)
    (h : call.Awaited ids) (hat : next.waitLoop.pastDeployments = true) :
    ∀ entry ∈ tier ids .deployment, next.WaitsFor entry := by
  intro entry hentry
  have hstays : call.WaitsFor entry → next.WaitsFor entry := hmove.waitsFor
  cases hmove with
  | waitedDeployments at_ =>
    exact hstays ((h.waitingDeployments _ at_ entry hentry).resolve_right (by simp))
  | _ => exact hstays (h.deployments (by simp_all [WaitLoopPhase.pastDeployments]) entry hentry)

theorem Call.Moves.waiting_statefulSets (hmove : call.Moves m ids cluster cluster' next)
    (hlists : call.Lists ids) (h : call.Awaited ids) {rest : List Workload}
    (hat : next.waitLoop = .waitStatefulSets rest) :
    ∀ entry ∈ tier ids .statefulSet,
      next.WaitsFor entry ∨ entry ∈ rest.map Workload.entry := by
  intro entry hentry
  have hstays : call.WaitsFor entry → next.WaitsFor entry := hmove.waitsFor
  cases hmove with
  | passRelisted at_ read list =>
    cases hat
    exact .inr (by rwa [hlists.statefulSets _ list])
  | @waitStatefulSet item rest at_ =>
    cases hat
    exact Call.waits_start item _ (List.mem_append_right _ (by simp)) hstays
      (h.waitingStatefulSets _ at_ entry hentry)
  | _ =>
    first
      | (simp at hat; done)
      | exact (h.waitingStatefulSets rest (by simpa using hat) entry hentry).imp_left hstays

theorem Call.Moves.awaited_statefulSets (hmove : call.Moves m ids cluster cluster' next)
    (h : call.Awaited ids) (hat : next.waitLoop.pastStatefulSets = true) :
    .waitSkipped ∈ next.log ∨ ∀ entry ∈ tier ids .statefulSet, next.WaitsFor entry := by
  have hstays : ∀ entry, call.WaitsFor entry → next.WaitsFor entry := fun _ => hmove.waitsFor
  have hskipped : .waitSkipped ∈ call.log → .waitSkipped ∈ next.log := hmove.log_mono
  cases hmove with
  | skipRelisted => exact .inl (Call.mem_record_log.mpr (by simp))
  | waitedStatefulSets at_ =>
    exact .inr fun entry hentry => hstays entry
      ((h.waitingStatefulSets _ at_ entry hentry).resolve_right (by simp))
  | _ =>
    have hcall : call.waitLoop.pastStatefulSets = true := by
      simp_all [WaitLoopPhase.pastStatefulSets, WaitLoopPhase.waited]
    refine (h.statefulSets hcall).imp hskipped ?_
    exact fun hcovered entry hentry => hstays entry (hcovered entry hentry)

theorem Call.Arises.awaited (h : Call.Arises m ids mode call) : call.Awaited ids := by
  induction h with
  | start =>
    exact ⟨by simp [Call.start], by simp [Call.start, WaitLoopPhase.pastDeployments],
      by simp [Call.start],
      by simp [Call.start, WaitLoopPhase.pastStatefulSets, WaitLoopPhase.waited]⟩
  | move before _ moves ih =>
    exact ⟨fun _ => moves.waiting_deployments before.lists ih, moves.awaited_deployments ih,
      fun _ => moves.waiting_statefulSets before.lists ih, moves.awaited_statefulSets ih⟩

end Waiting

end QubershipAirflow.SiteManager
