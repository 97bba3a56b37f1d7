import QubershipAirflow.SiteManager.Goroutines

/-! Where the goroutines and the recorded events of a call come from. The log only
grows, a goroutine keeps its object, and each goroutine in the pools is either
untouched by a step or moved by one of few rules. -/
namespace QubershipAirflow.SiteManager

open WaitGroup

section Log

@[simp] theorem Call.mem_record_log {call : Call} {events : List Event} {event : Event} :
    event ∈ (call.record events).log ↔ event ∈ call.log ∨ event ∈ events := by
  unfold Call.record Call.log
  cases call.hasReturned <;> simp only [Bool.false_eq_true, if_false, if_true, List.mem_append]
  · exact or_right_comm
  · exact or_assoc.symm

theorem Call.mem_record_trace {call : Call} {events : List Event} {event : Event} :
    event ∈ (call.record events).trace ↔
      event ∈ call.trace ∨ call.hasReturned = false ∧ event ∈ events := by
  unfold Call.record
  cases call.hasReturned <;> simp

def Call.listingEvents (call : Call) (cluster : Cluster) (loop : Loop) :
    Option Error → List Event
  | none => .listed .statefulSet (cluster.statefulSets.select tierLabel) ::
      (call.err.map (Event.errLost loop)).toList
  | some err => [.listFailed .statefulSet err]

theorem Call.listStatefulSets_trace (call : Call) (cluster : Cluster) (loop : Loop)
    (failure : Option Error) :
    (call.listStatefulSets cluster loop failure).trace =
      (call.record (call.listingEvents cluster loop failure)).trace := by
  cases failure <;> rfl

theorem Call.listStatefulSets_late (call : Call) (cluster : Cluster) (loop : Loop)
    (failure : Option Error) :
    (call.listStatefulSets cluster loop failure).late =
      (call.record (call.listingEvents cluster loop failure)).late := by
  cases failure <;> rfl

def Call.deploymentEvents (call : Call) (cluster : Cluster) : Option Error → List Event
  | none => .listed .deployment (cluster.deployments.select tierLabel) ::
      (call.err.map (Event.errLost .scale)).toList
  | some err => [.listFailed .deployment err]

theorem Call.listDeployments_trace (call : Call) (cluster : Cluster) (failure : Option Error) :
    (call.listDeployments cluster failure).trace =
      (call.record (call.deploymentEvents cluster failure)).trace := by
  cases failure <;> rfl

theorem Call.listDeployments_late (call : Call) (cluster : Cluster) (failure : Option Error) :
    (call.listDeployments cluster failure).late =
      (call.record (call.deploymentEvents cluster failure)).late := by
  cases failure <;> rfl

end Log

section Moves

variable {m : DRManager} {ids : Identities} {mode : Mode} {cluster cluster' : Cluster}
  {call next : Call}

theorem Call.Moves.records (hmove : call.Moves m ids cluster cluster' next) :
    ∃ events, next.trace = (call.record events).trace ∧
      next.late = (call.record events).late := by
  cases hmove with
  | ret =>
    exact ⟨if call.waitChClosed then [] else [.returnedOpen], rfl, rfl⟩
  | @listDeployments failure =>
    exact ⟨_, call.listDeployments_trace cluster failure, call.listDeployments_late cluster failure⟩
  | @listStatefulSets failure =>
    exact ⟨_, call.listStatefulSets_trace cluster .scale failure,
      call.listStatefulSets_late cluster .scale failure⟩
  | @relist failure =>
    exact ⟨_, call.listStatefulSets_trace cluster .wait failure,
      call.listStatefulSets_late cluster .wait failure⟩
  | @scalerCall _ _ _ _ events => exact ⟨events, rfl, rfl⟩
  | skipRelisted => exact ⟨[.waitSkipped], rfl, rfl⟩
  | @workersListed pods => exact ⟨[.workersListed (workerPods pods)], rfl, rfl⟩
  | @workersListFailed err => exact ⟨[.workersListFailed err], rfl, rfl⟩
  | @podDeleted pod => exact ⟨[.podDeleted pod.name], rfl, rfl⟩
  | @podDeleteFailed pod _ _ err => exact ⟨[.podDeleteFailed pod.name err], rfl, rfl⟩
  | @polled _ waiter listing => exact ⟨[.polled waiter.component listing], rfl, rfl⟩
  | @waitTimeout _ waiter =>
    exact ⟨[.waitFailed waiter.component (timeoutError call.mode waiter.component)], rfl, rfl⟩
  | _ =>
    refine ⟨[], ?_, ?_⟩
    · unfold Call.record
      cases call.hasReturned <;> simp
    · unfold Call.record
      cases call.hasReturned <;> simp

theorem Call.Moves.log_mono (hmove : call.Moves m ids cluster cluster' next) {event : Event}
    (h : event ∈ call.log) : event ∈ next.log := by
  obtain ⟨events, htrace, hlate⟩ := hmove.records
  unfold Call.log
  rw [htrace, hlate]
  exact Call.mem_record_log.mpr (.inl h)

theorem Call.Moves.trace_mono (hmove : call.Moves m ids cluster cluster' next) {event : Event}
    (h : event ∈ call.trace) : event ∈ next.trace := by
  obtain ⟨events, htrace, -⟩ := hmove.records
  rw [htrace]
  exact Call.mem_record_trace.mpr (.inl h)

inductive Call.EventFrom (ids : Identities) (cluster cluster' : Cluster) (call next : Call) :
    Event → Prop where
  | listedDeployments (at_ : call.scaleLoop = .listDeployments) :
      EventFrom ids cluster cluster' call next
        (.listed .deployment (cluster.deployments.select tierLabel))
  | listedStatefulSets :
      EventFrom ids cluster cluster' call next
        (.listed .statefulSet (cluster.statefulSets.select tierLabel))
  | listDeploymentsFailed (err : Error) (set : next.err = some err)
      (goes : next.scaleLoop = .testDeployments) :
      EventFrom ids cluster cluster' call next (.listFailed .deployment err)
  | listStatefulSetsFailed (err : Error) (set : next.err = some err) :
      EventFrom ids cluster cluster' call next (.listFailed .statefulSet err)
  | errLost (loop : Loop) (err : Error) :
      EventFrom ids cluster cluster' call next (.errLost loop err)
  | waitSkipped : EventFrom ids cluster cluster' call next .waitSkipped
  | returnedOpen (status : Status) (at_ : call.caller = .ret status)
      (open_ : call.waitChClosed = false) : EventFrom ids cluster cluster' call next .returnedOpen
  | scaler (scaler scaler' : Scaler) (event : Event) (member : scaler ∈ call.scalers)
      (stays : scaler' ∈ next.scalers)
      (outcome : Scaler.Outcome ids cluster scaler cluster' scaler' [event]) :
      EventFrom ids cluster cluster' call next event
  | polled (waiter : Waiter) (listing : PodListing) (member : waiter ∈ call.waiters) :
      EventFrom ids cluster cluster' call next (.polled waiter.component listing)
  | waitFailed (waiter waiter' : Waiter) (err : Error) (stays : waiter' ∈ next.waiters)
      (sends : waiter'.phase = .send (some err)) :
      EventFrom ids cluster cluster' call next (.waitFailed waiter.component err)
  | workersListed (pods : List Pod) (goes : next.waitLoop = .deleteWorkers pods none) :
      EventFrom ids cluster cluster' call next (.workersListed pods)
  | workersListFailed (err : Error) (goes : next.waitLoop = .sendWorkersErr (listFailure err)) :
      EventFrom ids cluster cluster' call next (.workersListFailed err)
  | podDeleted (name : String) (rest : List Pod)
      (goes : next.waitLoop = .deleteWorkers rest none) :
      EventFrom ids cluster cluster' call next (.podDeleted name)
  | podDeleteFailed (name : String) (err : Error) (rest : List Pod)
      (goes : next.waitLoop = .sendDeleteErr (deleteFailure name err) rest err) :
      EventFrom ids cluster cluster' call next (.podDeleteFailed name err)

private theorem Call.listStatefulSets_event {loop : Loop} {failure : Option Error}
    {event : Event} (h : event ∈ call.listingEvents cluster loop failure)
    (herr : next.err = (call.listStatefulSets cluster loop failure).err) :
    Call.EventFrom ids cluster cluster' call next event := by
  cases failure with
  | none =>
    rcases List.mem_cons.mp h with rfl | h
    · exact .listedStatefulSets
    · simp only [Option.mem_toList, Option.map_eq_some_iff] at h
      obtain ⟨err, -, rfl⟩ := h
      exact .errLost loop err
  | some err =>
    rw [List.mem_singleton.mp h]
    exact .listStatefulSetsFailed err herr

theorem Call.Moves.event_from (hmove : call.Moves m ids cluster cluster' next) {event : Event}
    (hnew : event ∈ next.log) (hold : event ∉ call.log) :
    Call.EventFrom ids cluster cluster' call next event := by
  have hrecorded : ∀ events : List Event, event ∈ (call.record events).log →
      event ∈ events := fun _ h => (Call.mem_record_log.mp h).resolve_left hold
  cases hmove with
  | @ret status at_ =>
    have hevent := hrecorded _ hnew
    split at hevent
    · exact absurd hevent List.not_mem_nil
    · rename_i hopen
      rw [List.mem_singleton.mp hevent]
      exact .returnedOpen status at_ (by simpa using hopen)
  | @listDeployments failure at_ =>
    have hevent := hrecorded (call.deploymentEvents cluster failure)
      (by cases failure <;> exact hnew)
    cases failure with
    | none =>
      rcases List.mem_cons.mp hevent with rfl | hevent
      · exact .listedDeployments at_
      · simp only [Option.mem_toList, Option.map_eq_some_iff] at hevent
        obtain ⟨err, -, rfl⟩ := hevent
        exact .errLost .scale err
    | some err =>
      rw [List.mem_singleton.mp hevent]
      exact .listDeploymentsFailed err rfl rfl
  | @listStatefulSets failure =>
    exact Call.listStatefulSets_event (hrecorded (call.listingEvents cluster .scale failure)
      (by cases failure <;> exact hnew)) rfl
  | @relist failure =>
    exact Call.listStatefulSets_event (hrecorded (call.listingEvents cluster .wait failure)
      (by cases failure <;> exact hnew)) rfl
  | @scalerCall _ scaler scaler' _ events goroutine at_ outcome =>
    have hevent := hrecorded events hnew
    have hstays := List.mem_set (List.getElem?_eq_some_iff.mp goroutine).1 scaler'
    have hone : events = [event] := by
      cases outcome with
      | onward => exact absurd hevent List.not_mem_nil
      | accepted => rw [List.mem_singleton.mp hevent]
      | refused => rw [List.mem_singleton.mp hevent]
    exact .scaler scaler scaler' event (List.mem_of_getElem? goroutine) hstays (hone ▸ outcome)
  | skipRelisted =>
    rw [List.mem_singleton.mp (hrecorded _ hnew)]
    exact .waitSkipped
  | @workersListed pods =>
    rw [List.mem_singleton.mp (hrecorded _ hnew)]
    exact .workersListed (workerPods pods) rfl
  | @workersListFailed err =>
    rw [List.mem_singleton.mp (hrecorded _ hnew)]
    exact .workersListFailed err rfl
  | @podDeleted pod rest =>
    rw [List.mem_singleton.mp (hrecorded _ hnew)]
    exact .podDeleted pod.name rest rfl
  | @podDeleteFailed pod rest _ err =>
    rw [List.mem_singleton.mp (hrecorded _ hnew)]
    exact .podDeleteFailed pod.name err rest rfl
  | @polled i waiter listing goroutine =>
    rw [List.mem_singleton.mp (hrecorded _ hnew)]
    exact .polled waiter listing (List.mem_of_getElem? goroutine)
  | @waitTimeout i waiter goroutine =>
    rw [List.mem_singleton.mp (hrecorded _ hnew)]
    exact .waitFailed waiter _ _ (List.mem_set (List.getElem?_eq_some_iff.mp goroutine).1 _) rfl
  | _ => exact absurd hnew hold

theorem Call.Moves.mode_eq (hmove : call.Moves m ids cluster cluster' next) :
    next.mode = call.mode := by
  cases hmove <;> simp [Call.record]

theorem Call.Moves.identities_eq (hmove : call.Moves m ids cluster cluster' next)
    (hids : cluster.identities = ids) : cluster'.identities = ids := by
  cases hmove with
  | scalerCall goroutine at_ outcome =>
    cases outcome with
    | onward => exact hids
    | accepted kept => exact kept
    | refused => exact hids
  | _ => exact hids

theorem Call.Moves.scaleLoop_done (hmove : call.Moves m ids cluster cluster' next)
    (hdone : call.scaleLoop = .done) : next.scaleLoop = .done := by
  cases hmove <;> simp_all

theorem Call.Arises.mode_eq (h : Call.Arises m ids mode call) : call.mode = mode := by
  induction h with
  | start => rfl
  | move _ _ moves ih => exact moves.mode_eq.trans ih

theorem Call.Arises.wellFormed (h : Call.Arises m ids mode call) : call.WellFormed := by
  induction h with
  | start => exact Call.start_wellFormed mode
  | move _ _ moves ih => exact moves.wellFormed ih

inductive Call.ScalerFrom (m : DRManager) (ids : Identities) (cluster cluster' : Cluster)
    (call next : Call) (scaler' : Scaler) : Prop where
  | kept (member : scaler' ∈ call.scalers)
  | started (kind : Kind) (item : Workload)
      (eq : scaler' = m.startScaler call.mode kind item)
  | delivered (scaler : Scaler) (member : scaler ∈ call.scalers) (err : Option Error)
      (sends : scaler.phase = .send err) (eq : scaler' = { scaler with phase := .sent })
  | ended (scaler : Scaler) (member : scaler ∈ call.scalers) (at_ : scaler.phase = .sent)
      (eq : scaler' = { scaler with phase := .finished })
  | called (scaler : Scaler) (member : scaler ∈ call.scalers)
      (busy : scaler.phase.isBusy = true) (events : List Event)
      (logged : ∀ event ∈ events, event ∈ next.log)
      (outcome : Scaler.Outcome ids cluster scaler cluster' scaler' events)

theorem Call.Moves.scaler_from (hmove : call.Moves m ids cluster cluster' next)
    {scaler' : Scaler} (h : scaler' ∈ next.scalers) :
    Call.ScalerFrom m ids cluster cluster' call next scaler' := by
  cases hmove with
  | receiveScaled at_ sender sends =>
    rcases List.mem_or_eq_of_mem_set h with h | rfl
    · exact .kept h
    · exact .delivered _ (List.mem_of_getElem? sender) _ sends rfl
  | receiveScaleErr at_ sender sends =>
    rcases List.mem_or_eq_of_mem_set h with h | rfl
    · exact .kept h
    · exact .delivered _ (List.mem_of_getElem? sender) _ sends rfl
  | @scaleDeployment item =>
    rcases List.mem_append.mp h with h | h
    · exact .kept h
    · exact .started .deployment item (List.mem_singleton.mp h)
  | @scaleStatefulSet item =>
    rcases List.mem_append.mp h with h | h
    · exact .kept h
    · exact .started .statefulSet item (List.mem_singleton.mp h)
  | scalerDone goroutine at_ =>
    rcases List.mem_or_eq_of_mem_set h with h | rfl
    · exact .kept h
    · exact .ended _ (List.mem_of_getElem? goroutine) at_ rfl
  | scalerCall goroutine at_ outcome =>
    rcases List.mem_or_eq_of_mem_set h with h | rfl
    · exact .kept h
    · refine .called _ (List.mem_of_getElem? goroutine) at_ _ (fun event hevent => ?_) outcome
      exact Call.mem_record_log.mpr (.inr hevent)
  | _ => exact .kept (by simpa using h)

theorem Scaler.Outcome.same_object {scaler scaler' : Scaler} {events : List Event}
    (h : Scaler.Outcome ids cluster scaler cluster' scaler' events) :
    scaler'.kind = scaler.kind ∧ scaler'.component = scaler.component ∧
      scaler'.replicas = scaler.replicas := by
  cases h <;> exact ⟨rfl, rfl, rfl⟩

theorem Call.Moves.scaler_stays (hmove : call.Moves m ids cluster cluster' next)
    {kind : Kind} {component : String}
    (h : ∃ scaler ∈ call.scalers, scaler.kind = kind ∧ scaler.component = component) :
    ∃ scaler ∈ next.scalers, scaler.kind = kind ∧ scaler.component = component := by
  cases hmove with
  | receiveScaled at_ sender => exact exists_mem_set sender id h
  | receiveScaleErr at_ sender => exact exists_mem_set sender id h
  | scaleDeployment =>
    obtain ⟨scaler, hmem, hobject⟩ := h
    exact ⟨scaler, List.mem_append_left _ hmem, hobject⟩
  | scaleStatefulSet =>
    obtain ⟨scaler, hmem, hobject⟩ := h
    exact ⟨scaler, List.mem_append_left _ hmem, hobject⟩
  | scalerDone goroutine => exact exists_mem_set goroutine id h
  | scalerCall goroutine at_ outcome =>
    obtain ⟨hkind, hcomponent, -⟩ := outcome.same_object
    refine exists_mem_set goroutine (fun hobject => ?_) h
    exact ⟨hkind.trans hobject.1, hcomponent.trans hobject.2⟩
  | _ => simpa using h

inductive Call.WaiterFrom (m : DRManager) (call next : Call) (waiter' : Waiter) : Prop where
  | kept (member : waiter' ∈ call.waiters)
  | started (item : Workload) (eq : waiter' = Waiter.start item)
  | delivered (waiter : Waiter) (member : waiter ∈ call.waiters) (err : Option Error)
      (sends : waiter.phase = .send err) (eq : waiter' = { waiter with phase := .sent })
  | ended (waiter : Waiter) (member : waiter ∈ call.waiters) (at_ : waiter.phase = .sent)
      (eq : waiter' = { waiter with phase := .finished })
  | settled (waiter : Waiter) (member : waiter ∈ call.waiters) (at_ : waiter.phase = .polling)
      (listing : PodListing) (logged : .polled waiter.component listing ∈ next.log)
      (done : m.pollDone call.mode waiter.component listing = true)
      (eq : waiter' = { waiter with phase := .send none })
  | timedOut (waiter : Waiter) (member : waiter ∈ call.waiters) (at_ : waiter.phase = .polling)
      (err : Error) (logged : .waitFailed waiter.component err ∈ next.log)
      (eq : waiter' = { waiter with phase := .send (some err) })

theorem Call.Moves.waiter_from (hmove : call.Moves m ids cluster cluster' next)
    {waiter' : Waiter} (h : waiter' ∈ next.waiters) : Call.WaiterFrom m call next waiter' := by
  cases hmove with
  | receiveWaited at_ sender sends =>
    rcases List.mem_or_eq_of_mem_set h with h | rfl
    · exact .kept h
    · exact .delivered _ (List.mem_of_getElem? sender) _ sends rfl
  | receiveWaitErr at_ sender sends =>
    rcases List.mem_or_eq_of_mem_set h with h | rfl
    · exact .kept h
    · exact .delivered _ (List.mem_of_getElem? sender) _ sends rfl
  | @waitDeployment item =>
    rcases List.mem_append.mp h with h | h
    · exact .kept h
    · exact .started item (List.mem_singleton.mp h)
  | @waitStatefulSet item =>
    rcases List.mem_append.mp h with h | h
    · exact .kept h
    · exact .started item (List.mem_singleton.mp h)
  | waiterDone goroutine at_ =>
    rcases List.mem_or_eq_of_mem_set h with h | rfl
    · exact .kept h
    · exact .ended _ (List.mem_of_getElem? goroutine) at_ rfl
  | @polled i waiter listing goroutine at_ =>
    rcases List.mem_or_eq_of_mem_set h with h | rfl
    · exact .kept h
    · have hmem := List.mem_of_getElem? goroutine
      by_cases hdone : m.pollDone call.mode waiter.component listing = true
      · exact .settled waiter hmem at_ listing (Call.mem_record_log.mpr (by simp)) hdone
          (by rw [if_pos hdone])
      · rw [if_neg hdone, ← at_]
        exact .kept hmem
  | @waitTimeout i waiter goroutine at_ =>
    rcases List.mem_or_eq_of_mem_set h with h | rfl
    · exact .kept h
    · exact .timedOut waiter (List.mem_of_getElem? goroutine) at_ _
        (Call.mem_record_log.mpr (by simp)) rfl
  | _ => exact .kept (by simpa using h)

theorem Call.Moves.waiter_stays (hmove : call.Moves m ids cluster cluster' next)
    {component : String} (h : ∃ waiter ∈ call.waiters, waiter.component = component) :
    ∃ waiter ∈ next.waiters, waiter.component = component := by
  cases hmove with
  | receiveWaited at_ sender => exact exists_mem_set sender id h
  | receiveWaitErr at_ sender => exact exists_mem_set sender id h
  | waitDeployment =>
    obtain ⟨waiter, hmem, hobject⟩ := h
    exact ⟨waiter, List.mem_append_left _ hmem, hobject⟩
  | waitStatefulSet =>
    obtain ⟨waiter, hmem, hobject⟩ := h
    exact ⟨waiter, List.mem_append_left _ hmem, hobject⟩
  | waiterDone goroutine => exact exists_mem_set goroutine id h
  | polled goroutine => exact exists_mem_set goroutine id h
  | waitTimeout goroutine => exact exists_mem_set goroutine id h
  | _ => simpa using h

end Moves

section Settled

variable {m : DRManager} {ids : Identities} {mode : Mode} {cluster cluster' : Cluster}
  {call next : Call}

/-- What the log says about a scaling goroutine: until it has a message to send,
nothing; then that its update was accepted or that its call failed. -/
def Scaler.Settled (ids : Identities) (log : List Event) (scaler : Scaler) : Prop :=
  let name := lookupName ids scaler.kind scaler.component
  let accepted := name ≠ "" ∧ .updated scaler.kind name scaler.replicas ∈ log
  let refused := ∃ err, .scaleFailed scaler.kind scaler.component err ∈ log
  match scaler.phase with
  | .lookup | .read _ _ | .write _ _ _ => True
  | .send none => accepted
  | .send (some _) => refused
  | .sent | .finished => accepted ∨ refused

theorem Scaler.Settled.mono {log log' : List Event} {scaler : Scaler}
    (hlog : ∀ event ∈ log, event ∈ log') (h : scaler.Settled ids log) :
    scaler.Settled ids log' := by
  unfold Scaler.Settled at h ⊢
  cases hphase : scaler.phase with
  | send err =>
    cases err with
    | none =>
      simp only [hphase] at h ⊢
      exact h.imp_right (hlog _)
    | some err =>
      simp only [hphase] at h ⊢
      exact h.imp fun _ => hlog _
  | sent =>
    simp only [hphase] at h ⊢
    exact h.imp (And.imp_right (hlog _)) (Exists.imp fun _ => hlog _)
  | finished =>
    simp only [hphase] at h ⊢
    exact h.imp (And.imp_right (hlog _)) (Exists.imp fun _ => hlog _)
  | _ => trivial

structure Scaler.Proper (m : DRManager) (ids : Identities) (mode : Mode) (log : List Event)
    (scaler : Scaler) : Prop where
  sound : scaler.Sound ids
  target : scaler.replicas = m.target mode scaler.component
  settled : scaler.Settled ids log

theorem Call.Arises.scaler_proper (h : Call.Arises m ids mode call) :
    ∀ scaler ∈ call.scalers, scaler.Proper m ids mode call.log := by
  induction h with
  | start =>
    intro scaler hmem
    cases mode <;> exact absurd hmem List.not_mem_nil
  | @move cluster cluster' call next before same moves ih =>
    intro scaler hmem
    have hmono : ∀ event ∈ call.log, event ∈ next.log := fun _ => moves.log_mono
    cases moves.scaler_from hmem with
    | kept hmem => exact ⟨(ih _ hmem).sound, (ih _ hmem).target, (ih _ hmem).settled.mono hmono⟩
    | started kind item heq =>
      subst heq
      exact ⟨trivial, by rw [← before.mode_eq]; rfl, trivial⟩
    | delivered scaler hfrom err sends heq =>
      subst heq
      have hsettled := (ih _ hfrom).settled.mono hmono
      refine ⟨trivial, (ih _ hfrom).target, ?_⟩
      unfold Scaler.Settled at hsettled ⊢
      cases err with
      | none =>
        simp only [sends] at hsettled
        exact .inl hsettled
      | some err =>
        simp only [sends] at hsettled
        exact .inr hsettled
    | ended scaler hfrom at_ heq =>
      subst heq
      have hsettled := (ih _ hfrom).settled.mono hmono
      unfold Scaler.Settled at hsettled
      simp only [at_] at hsettled
      exact ⟨trivial, (ih _ hfrom).target, hsettled⟩
    | called scaler hfrom busy events logged outcome =>
      have htarget := (ih _ hfrom).target
      cases outcome with
      | onward busy sound =>
        refine ⟨sound, htarget, ?_⟩
        unfold Scaler.Settled
        rename_i phase
        cases phase <;> simp_all [ScalePhase.isBusy]
      | accepted _ named =>
        exact ⟨trivial, htarget, named, logged _ (List.mem_singleton.mpr rfl)⟩
      | refused err => exact ⟨trivial, htarget, err, logged _ (List.mem_singleton.mpr rfl)⟩

def Waiter.Settled (m : DRManager) (mode : Mode) (log : List Event) (waiter : Waiter) : Prop :=
  let polled := ∃ listing, .polled waiter.component listing ∈ log ∧
    m.pollDone mode waiter.component listing = true
  let failed := ∃ err, .waitFailed waiter.component err ∈ log
  match waiter.phase with
  | .polling => True
  | .send none => polled
  | .send (some _) => failed
  | .sent | .finished => polled ∨ failed

theorem Waiter.Settled.mono {log log' : List Event} {waiter : Waiter}
    (hlog : ∀ event ∈ log, event ∈ log') (h : waiter.Settled m mode log) :
    waiter.Settled m mode log' := by
  have hpolled : (∃ listing, .polled waiter.component listing ∈ log ∧
      m.pollDone mode waiter.component listing = true) →
      ∃ listing, .polled waiter.component listing ∈ log' ∧
        m.pollDone mode waiter.component listing = true :=
    Exists.imp fun _ hlisting => ⟨hlog _ hlisting.1, hlisting.2⟩
  have hfailed : (∃ err, .waitFailed waiter.component err ∈ log) →
      ∃ err, .waitFailed waiter.component err ∈ log' :=
    Exists.imp fun _ => hlog _
  unfold Waiter.Settled at h ⊢
  cases hphase : waiter.phase with
  | polling => trivial
  | send err =>
    cases err with
    | none =>
      simp only [hphase] at h ⊢
      exact hpolled h
    | some err =>
      simp only [hphase] at h ⊢
      exact hfailed h
  | sent =>
    simp only [hphase] at h ⊢
    exact h.imp hpolled hfailed
  | finished =>
    simp only [hphase] at h ⊢
    exact h.imp hpolled hfailed

theorem Call.Arises.waiter_settled (h : Call.Arises m ids mode call) :
    ∀ waiter ∈ call.waiters, waiter.Settled m mode call.log := by
  induction h with
  | start =>
    intro waiter hmem
    cases mode <;> exact absurd hmem List.not_mem_nil
  | @move cluster cluster' call next before same moves ih =>
    intro waiter hmem
    have hmono : ∀ event ∈ call.log, event ∈ next.log := fun _ => moves.log_mono
    cases moves.waiter_from hmem with
    | kept hmem => exact (ih _ hmem).mono hmono
    | started item heq =>
      subst heq
      trivial
    | delivered waiter hfrom err sends heq =>
      subst heq
      have hsettled := (ih _ hfrom).mono hmono
      unfold Waiter.Settled at hsettled ⊢
      cases err with
      | none =>
        simp only [sends] at hsettled
        exact .inl hsettled
      | some err =>
        simp only [sends] at hsettled
        exact .inr hsettled
    | ended waiter hfrom at_ heq =>
      subst heq
      have hsettled := (ih _ hfrom).mono hmono
      unfold Waiter.Settled at hsettled
      simp only [at_] at hsettled
      exact hsettled
    | settled waiter hmem at_ listing logged done heq =>
      subst heq
      exact ⟨listing, logged, before.mode_eq ▸ done⟩
    | timedOut waiter hmem at_ err logged heq =>
      subst heq
      exact ⟨err, logged⟩

end Settled

section Histories

variable {m : DRManager} {cluster : Cluster}

def System.Consistent (m : DRManager) (ids : Identities) (system : System) : Prop :=
  system.cluster.identities = ids ∧ ∀ call ∈ system.calls, Call.Arises m ids call.mode call

theorem System.step_act {system next : System} {k : Nat} {act : Act}
    (h : system.step m (.act k act) = some next) :
    ∃ call call', system.calls[k]? = some call ∧
      call.step m system.cluster act = some (next.cluster, call') ∧
      next.calls = system.calls.set k call' := by
  simp only [System.step] at h
  split at h
  · contradiction
  · rename_i call hcall
    obtain ⟨⟨cluster', call'⟩, hcallStep, heq⟩ := Option.map_eq_some_iff.mp h
    cases heq
    exact ⟨call, call', hcall, hcallStep, rfl⟩

theorem System.Consistent.moves {ids : Identities} {system : System}
    (h : system.Consistent m ids) {call call' : Call} {cluster' : Cluster} {act : Act}
    (hmem : call ∈ system.calls)
    (hstep : call.step m system.cluster act = some (cluster', call')) :
    call.Moves m ids system.cluster cluster' call' :=
  Call.step_moves h.1 (fun scaler hscaler =>
    ((h.2 call hmem).scaler_proper scaler hscaler).sound) hstep

theorem System.Consistent.step {ids : Identities} {system next : System} {move : Move}
    (h : system.Consistent m ids) (hstep : system.step m move = some next) :
    next.Consistent m ids := by
  cases move with
  | start mode =>
    simp only [System.step] at hstep
    split at hstep
    · cases hstep
      refine ⟨h.1, fun call hmem => ?_⟩
      rcases List.mem_append.mp hmem with hmem | hmem
      · exact h.2 call hmem
      · rw [List.mem_singleton.mp hmem]
        exact .start
    · contradiction
  | act k act =>
    obtain ⟨call, call', hcall, hcallStep, hcalls⟩ := System.step_act hstep
    have hmem := List.mem_of_getElem? hcall
    have hmove := h.moves hmem hcallStep
    refine ⟨hmove.identities_eq h.1, fun other hother => ?_⟩
    rw [hcalls] at hother
    rcases List.mem_or_eq_of_mem_set hother with hother | rfl
    · exact h.2 other hother
    · rw [hmove.mode_eq]
      exact .move (h.2 call hmem) h.1 hmove
  | other cluster' =>
    simp only [System.step] at hstep
    split at hstep
    · rename_i hsame
      cases hstep
      refine ⟨?_, h.2⟩
      rw [← h.1]
      funext kind
      cases kind
      · exact hsame.1
      · exact hsame.2
    · contradiction

theorem System.consistent {system : System}
    (hrun : Runs.Reaches (System.step m) (System.initial cluster) system) :
    system.Consistent m cluster.identities :=
  Runs.Reaches.invariant (fun _ _ _ h hstep => h.step hstep) hrun
    ⟨rfl, fun _ hmem => absurd hmem List.not_mem_nil⟩

theorem System.step_of_call {system : System} {k : Nat} {call call' : Call} {act : Act}
    {cluster' : Cluster} (hcall : system.calls[k]? = some call)
    (hstep : call.step m system.cluster act = some (cluster', call')) :
    system.step m (.act k act) = some ⟨cluster', system.calls.set k call'⟩ := by
  simp [System.step, hcall, hstep]

theorem System.call_invariant {ids : Identities} {system later : System} {k : Nat}
    {P : Call → Prop}
    (hmoves : ∀ {cluster cluster' call next}, Call.Arises m ids call.mode call → P call →
      call.Moves m ids cluster cluster' next → P next)
    (hconsistent : system.Consistent m ids)
    (hlater : Runs.Reaches (System.step m) system later)
    (hcall : ∃ call, system.calls[k]? = some call ∧ P call) :
    ∃ call, later.calls[k]? = some call ∧ P call := by
  have hinv := Runs.Reaches.invariant
    (I := fun system => system.Consistent m ids ∧
      ∃ call, system.calls[k]? = some call ∧ P call) ?_ hlater ⟨hconsistent, hcall⟩
  · exact hinv.2
  · rintro system move next ⟨hconsistent, call, hcall, hP⟩ hstep
    refine ⟨hconsistent.step hstep, ?_⟩
    cases move with
    | start mode =>
      simp only [System.step] at hstep
      split at hstep
      · cases hstep
        have hlt := (List.getElem?_eq_some_iff.mp hcall).1
        exact ⟨call, (List.getElem?_append_left hlt).trans hcall, hP⟩
      · contradiction
    | act j act =>
      obtain ⟨other, other', hother, hcallStep, hcalls⟩ := System.step_act hstep
      rw [hcalls]
      by_cases hj : j = k
      · subst hj
        rw [hcall] at hother
        cases hother
        have hmem := List.mem_of_getElem? hcall
        have hlt := (List.getElem?_eq_some_iff.mp hcall).1
        exact ⟨other', by simp [hlt],
          hmoves (hconsistent.2 call hmem) hP (hconsistent.moves hmem hcallStep)⟩
      · exact ⟨call, (List.getElem?_set_ne hj).trans hcall, hP⟩
    | other cluster' =>
      simp only [System.step] at hstep
      split at hstep
      · cases hstep
        exact ⟨call, hcall, hP⟩
      · contradiction

end Histories

end QubershipAirflow.SiteManager
