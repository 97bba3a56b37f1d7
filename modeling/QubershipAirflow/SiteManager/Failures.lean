import QubershipAirflow.SiteManager.Provenance

/-! How a failure reaches the result of a call. A failed API call is either already
in the shared variable `err` or on its way there; the one way to lose it is the
assignment of a successful listing. -/
namespace QubershipAirflow.SiteManager

open WaitGroup

def Event.isFailure : Event → Bool
  | .listFailed _ _ | .scaleFailed _ _ _ | .waitFailed _ _ | .workersListFailed _
  | .podDeleteFailed _ _ => true
  | _ => false

def Call.LosesErr (call : Call) (loop : Loop) : Prop := ∃ err, .errLost loop err ∈ call.trace

inductive InFlight (caller : CallerPhase) (scalers : List Scaler) (waiters : List Waiter)
    (waitLoop : WaitLoopPhase) : Prop where
  | assignScale (err : Error) (at_ : caller = .assignScaleErr err)
  | assignWait (err : Error) (at_ : caller = .assignWaitErr err)
  | scaler (err : Error)
      (sends : ∃ scaler ∈ scalers, scaler.phase = .send (some err))
  | waiter (err : Error)
      (sends : ∃ waiter ∈ waiters, waiter.phase = .send (some err))
  | deletion (message : Error) (rest : List Pod) (err : Error)
      (sends : waitLoop = .sendDeleteErr message rest err)
  | workers (message : Error) (sends : waitLoop = .sendWorkersErr message)

abbrev Call.Pending (call : Call) : Prop :=
  InFlight call.caller call.scalers call.waiters call.waitLoop

namespace InFlight

variable {caller caller' : CallerPhase} {scalers scalers' : List Scaler}
  {waiters waiters' : List Waiter} {waitLoop waitLoop' : WaitLoopPhase}

theorem of_caller (h : InFlight caller scalers waiters waitLoop)
    (hscale : ∀ err, caller ≠ .assignScaleErr err) (hwait : ∀ err, caller ≠ .assignWaitErr err) :
    InFlight caller' scalers waiters waitLoop := by
  cases h with
  | assignScale err at_ => exact absurd at_ (hscale err)
  | assignWait err at_ => exact absurd at_ (hwait err)
  | scaler err sends => exact .scaler err sends
  | waiter err sends => exact .waiter err sends
  | deletion message rest err sends => exact .deletion message rest err sends
  | workers message sends => exact .workers message sends

theorem of_scalers (h : InFlight caller scalers waiters waitLoop)
    (hkeep : ∀ err, (∃ scaler ∈ scalers, scaler.phase = .send (some err)) →
      ∃ scaler ∈ scalers', scaler.phase = .send (some err)) :
    InFlight caller scalers' waiters waitLoop := by
  cases h with
  | assignScale err at_ => exact .assignScale err at_
  | assignWait err at_ => exact .assignWait err at_
  | scaler err sends => exact .scaler err (hkeep err sends)
  | waiter err sends => exact .waiter err sends
  | deletion message rest err sends => exact .deletion message rest err sends
  | workers message sends => exact .workers message sends

theorem of_waiters (h : InFlight caller scalers waiters waitLoop)
    (hkeep : ∀ err, (∃ waiter ∈ waiters, waiter.phase = .send (some err)) →
      ∃ waiter ∈ waiters', waiter.phase = .send (some err)) :
    InFlight caller scalers waiters' waitLoop := by
  cases h with
  | assignScale err at_ => exact .assignScale err at_
  | assignWait err at_ => exact .assignWait err at_
  | scaler err sends => exact .scaler err sends
  | waiter err sends => exact .waiter err (hkeep err sends)
  | deletion message rest err sends => exact .deletion message rest err sends
  | workers message sends => exact .workers message sends

theorem of_waitLoop (h : InFlight caller scalers waiters waitLoop)
    (hdelete : ∀ message rest err, waitLoop ≠ .sendDeleteErr message rest err)
    (hworkers : ∀ message, waitLoop ≠ .sendWorkersErr message) :
    InFlight caller scalers waiters waitLoop' := by
  cases h with
  | assignScale err at_ => exact .assignScale err at_
  | assignWait err at_ => exact .assignWait err at_
  | scaler err sends => exact .scaler err sends
  | waiter err sends => exact .waiter err sends
  | deletion message rest err sends => exact absurd sends (hdelete message rest err)
  | workers message sends => exact absurd sends (hworkers message)

end InFlight

section Preservation

variable {m : DRManager} {ids : Identities} {mode : Mode} {cluster cluster' : Cluster}
  {call next : Call}

theorem Call.Moves.returned_stays (hmove : call.Moves m ids cluster cluster' next)
    (hret : call.hasReturned = true) : next.hasReturned = true := by
  cases hmove <;> simp_all [Call.hasReturned]

theorem Call.Moves.returned_mono (hmove : call.Moves m ids cluster cluster' next)
    (h : next.hasReturned = false) : call.hasReturned = false := by
  by_contra hcall
  rw [Bool.not_eq_false] at hcall
  rw [hmove.returned_stays hcall] at h
  cases h

theorem Call.Moves.pending_to (hmove : call.Moves m ids cluster cluster' next)
    (hformed : call.WellFormed) (h : call.Pending) : next.Pending ∨ next.err ≠ none := by
  cases hmove with
  | scaleChEnds at_ => exact .inl (h.of_caller (by simp [at_]) (by simp [at_]))
  | assignScaleErr => exact .inr (by simp)
  | enterWait at_ => exact .inl (h.of_caller (by simp [at_]) (by simp [at_]))
  | skipWait at_ => exact .inl (h.of_caller (by simp [at_]) (by simp [at_]))
  | waitChEnds at_ => exact .inl (h.of_caller (by simp [at_]) (by simp [at_]))
  | assignWaitErr => exact .inr (by simp)
  | decideDone at_ => exact .inl (h.of_caller (by simp [at_]) (by simp [at_]))
  | decideFailed at_ => exact .inl (h.of_caller (by simp [at_]) (by simp [at_]))
  | ret at_ => exact .inl (h.of_caller (by simp [at_]) (by simp [at_]))
  | receiveScaled at_ sender sends =>
    refine .inl (InFlight.of_caller (h.of_scalers fun err => ?_) (by simp [at_]) (by simp [at_]))
    exact exists_mem_set sender fun hsends => by simp [sends] at hsends
  | receiveScaleErr => exact .inl (.assignScale _ rfl)
  | receiveWaited at_ sender sends =>
    refine .inl (InFlight.of_caller (h.of_waiters fun err => ?_) (by simp [at_]) (by simp [at_]))
    exact exists_mem_set sender fun hsends => by simp [sends] at hsends
  | receiveWaitErr => exact .inl (.assignWait _ rfl)
  | receiveDeleteErr => exact .inl (.assignWait _ rfl)
  | receiveWorkersErr => exact .inl (.assignWait _ rfl)
  | listDeployments => exact .inl (by simpa using h)
  | scaleDeployment =>
    refine .inl (h.of_scalers fun err => ?_)
    exact Exists.imp fun _ hsends => ⟨List.mem_append_left _ hsends.1, hsends.2⟩
  | listStatefulSets => exact .inl (by simpa using h)
  | scaleStatefulSet =>
    refine .inl (h.of_scalers fun err => ?_)
    exact Exists.imp fun _ hsends => ⟨List.mem_append_left _ hsends.1, hsends.2⟩
  | closeScaleCh at_ =>
    have hnotStarted := hformed.notStarted (by simp [at_])
    exact .inl (h.of_waitLoop (by simp [hnotStarted]) (by simp [hnotStarted]))
  | scalerDone goroutine at_ =>
    refine .inl (h.of_scalers fun err => ?_)
    exact exists_mem_set goroutine fun hsends => by simp [at_] at hsends
  | scalerCall goroutine at_ outcome =>
    refine .inl (h.of_scalers fun err => ?_)
    exact exists_mem_set goroutine fun hsends => by simp [hsends, ScalePhase.isBusy] at at_
  | beginWait at_ => exact .inl (h.of_waitLoop (by simp [at_]) (by simp [at_]))
  | waitedDeployments at_ => exact .inl (h.of_waitLoop (by simp [at_]) (by simp [at_]))
  | waitDeployment at_ =>
    refine .inl (InFlight.of_waitLoop (h.of_waiters fun err => ?_) (by simp [at_]) (by simp [at_]))
    exact Exists.imp fun _ hsends => ⟨List.mem_append_left _ hsends.1, hsends.2⟩
  | relist at_ =>
    have hnext : InFlight call.caller call.scalers call.waiters .testStatefulSets :=
      h.of_waitLoop (by simp [at_]) (by simp [at_])
    exact .inl (by simpa using hnext)
  | passRelisted at_ => exact .inl (h.of_waitLoop (by simp [at_]) (by simp [at_]))
  | skipRelisted at_ => exact .inl (h.of_waitLoop (by simp [at_]) (by simp [at_]))
  | waitedStatefulSets at_ => exact .inl (h.of_waitLoop (by simp [at_]) (by simp [at_]))
  | waitStatefulSet at_ =>
    refine .inl (InFlight.of_waitLoop (h.of_waiters fun err => ?_) (by simp [at_]) (by simp [at_]))
    exact Exists.imp fun _ hsends => ⟨List.mem_append_left _ hsends.1, hsends.2⟩
  | waitedUp at_ => exact .inl (h.of_waitLoop (by simp [at_]) (by simp [at_]))
  | waitedDown at_ => exact .inl (h.of_waitLoop (by simp [at_]) (by simp [at_]))
  | workersListed at_ => exact .inl (h.of_waitLoop (by simp [at_]) (by simp [at_]))
  | workersListFailed at_ => exact .inl (h.of_waitLoop (by simp [at_]) (by simp [at_]))
  | podDeleted at_ => exact .inl (h.of_waitLoop (by simp [at_]) (by simp [at_]))
  | podDeleteFailed at_ => exact .inl (h.of_waitLoop (by simp [at_]) (by simp [at_]))
  | workersDone at_ => exact .inl (h.of_waitLoop (by simp [at_]) (by simp [at_]))
  | workersErr at_ => exact .inl (h.of_waitLoop (by simp [at_]) (by simp [at_]))
  | closeWaitCh at_ => exact .inl (h.of_waitLoop (by simp [at_]) (by simp [at_]))
  | waiterDone goroutine at_ =>
    refine .inl (h.of_waiters fun err => ?_)
    exact exists_mem_set goroutine fun hsends => by simp [at_] at hsends
  | polled goroutine at_ =>
    refine .inl (h.of_waiters fun err => ?_)
    exact exists_mem_set goroutine fun hsends => by simp [hsends] at at_
  | waitTimeout goroutine at_ =>
    refine .inl (h.of_waiters fun err => ?_)
    exact exists_mem_set goroutine fun hsends => by simp [hsends] at at_
  | _ => exact .inl h

/-- An error is set, on its way, or remembered by the deletion of executor pods. -/
def Call.Troubled (call : Call) : Prop :=
  call.err ≠ none ∨ call.Pending ∨ ∃ rest err, call.waitLoop = .deleteWorkers rest (some err)

def Call.HasFailure (call : Call) : Prop := ∃ event ∈ call.log, event.isFailure = true

theorem Call.Moves.err_from (hmove : call.Moves m ids cluster cluster' next)
    (h : next.err ≠ none) : call.Troubled ∨ next.HasFailure := by
  cases hmove with
  | assignScaleErr at_ => exact .inl (.inr (.inl (.assignScale _ at_)))
  | assignWaitErr at_ => exact .inl (.inr (.inl (.assignWait _ at_)))
  | @listDeployments failure at_ =>
    cases failure with
    | none => exact absurd rfl h
    | some err => exact .inr ⟨.listFailed .deployment err, Call.mem_record_log.mpr (by simp), rfl⟩
  | @listStatefulSets failure at_ =>
    cases failure with
    | none => exact absurd rfl h
    | some err => exact .inr ⟨.listFailed .statefulSet err, Call.mem_record_log.mpr (by simp), rfl⟩
  | @relist failure at_ =>
    cases failure with
    | none => exact absurd rfl h
    | some err => exact .inr ⟨.listFailed .statefulSet err, Call.mem_record_log.mpr (by simp), rfl⟩
  | _ => exact .inl (.inl h)

theorem Call.Moves.assignScale_from (hmove : call.Moves m ids cluster cluster' next)
    {err : Error} (h : next.caller = .assignScaleErr err) : call.Pending := by
  cases hmove with
  | receiveScaleErr at_ sender sends =>
    exact .scaler _ ⟨_, List.mem_of_getElem? sender, sends⟩
  | _ => first | (simp at h; done) | exact .assignScale err (by simpa using h)

theorem Call.Moves.assignWait_from (hmove : call.Moves m ids cluster cluster' next)
    {err : Error} (h : next.caller = .assignWaitErr err) : call.Pending := by
  cases hmove with
  | receiveWaitErr at_ sender sends =>
    exact .waiter _ ⟨_, List.mem_of_getElem? sender, sends⟩
  | receiveDeleteErr at_ sends => exact .deletion _ _ _ sends
  | receiveWorkersErr at_ sends => exact .workers _ sends
  | _ => first | (simp at h; done) | exact .assignWait err (by simpa using h)

theorem Call.Moves.scalerErr_from (hmove : call.Moves m ids cluster cluster' next)
    {scaler : Scaler} {err : Error} (hmem : scaler ∈ next.scalers)
    (hsends : scaler.phase = .send (some err)) : call.Pending ∨ next.HasFailure := by
  cases hmove.scaler_from hmem with
  | kept member => exact .inl (.scaler err ⟨scaler, member, hsends⟩)
  | started kind item heq => simp [heq, DRManager.startScaler] at hsends
  | delivered _ _ _ _ heq => simp [heq] at hsends
  | ended _ _ _ heq => simp [heq] at hsends
  | called _ _ _ events logged outcome =>
    cases outcome with
    | @onward phase busy =>
      have hphase : phase = .send (some err) := hsends
      simp [hphase, ScalePhase.isBusy] at busy
    | accepted => simp at hsends
    | refused err => exact .inr ⟨_, logged _ (List.mem_singleton.mpr rfl), rfl⟩

theorem Call.Moves.waiterErr_from (hmove : call.Moves m ids cluster cluster' next)
    {waiter : Waiter} {err : Error} (hmem : waiter ∈ next.waiters)
    (hsends : waiter.phase = .send (some err)) : call.Pending ∨ next.HasFailure := by
  cases hmove.waiter_from hmem with
  | kept member => exact .inl (.waiter err ⟨waiter, member, hsends⟩)
  | started item heq => simp [heq, Waiter.start] at hsends
  | delivered _ _ _ _ heq => simp [heq] at hsends
  | ended _ _ _ heq => simp [heq] at hsends
  | settled _ _ _ _ _ _ heq => simp [heq] at hsends
  | timedOut _ _ _ err logged => exact .inr ⟨_, logged, rfl⟩

theorem Call.Moves.deleteErr_from (hmove : call.Moves m ids cluster cluster' next)
    {message : Error} {rest : List Pod} {err : Error}
    (h : next.waitLoop = .sendDeleteErr message rest err) : call.Pending ∨ next.HasFailure := by
  cases hmove with
  | @podDeleteFailed pod _ _ err at_ =>
    exact .inr ⟨.podDeleteFailed pod.name err, Call.mem_record_log.mpr (by simp), rfl⟩
  | _ => first | (simp at h; done) | exact .inl (.deletion message rest err (by simpa using h))

theorem Call.Moves.workersErr_from (hmove : call.Moves m ids cluster cluster' next)
    {message : Error} (h : next.waitLoop = .sendWorkersErr message) :
    call.Troubled ∨ next.HasFailure := by
  cases hmove with
  | @workersListFailed err at_ =>
    exact .inr ⟨.workersListFailed err, Call.mem_record_log.mpr (by simp), rfl⟩
  | workersErr at_ => exact .inl (.inr (.inr ⟨_, _, at_⟩))
  | _ => first | (simp at h; done) | exact .inl (.inr (.inl (.workers message (by simpa using h))))

theorem Call.Moves.remembered_from (hmove : call.Moves m ids cluster cluster' next)
    {rest : List Pod} {err : Error} (h : next.waitLoop = .deleteWorkers rest (some err)) :
    call.Troubled := by
  cases hmove with
  | receiveDeleteErr at_ sends => exact .inr (.inl (.deletion _ _ _ sends))
  | _ => first | (simp at h; done) | exact .inr (.inr ⟨rest, err, by simpa using h⟩)

theorem Call.Moves.troubled_from (hmove : call.Moves m ids cluster cluster' next)
    (h : next.Troubled) : call.Troubled ∨ next.HasFailure := by
  have hpending : call.Pending → call.Troubled := fun h => .inr (.inl h)
  rcases h with herr | hnext | ⟨rest, err, hremembered⟩
  · exact hmove.err_from herr
  · cases hnext with
    | assignScale err at_ => exact .inl (hpending (hmove.assignScale_from at_))
    | assignWait err at_ => exact .inl (hpending (hmove.assignWait_from at_))
    | scaler err sends =>
      obtain ⟨scaler, hmem, hsends⟩ := sends
      exact (hmove.scalerErr_from hmem hsends).imp_left hpending
    | waiter err sends =>
      obtain ⟨waiter, hmem, hsends⟩ := sends
      exact (hmove.waiterErr_from hmem hsends).imp_left hpending
    | deletion message rest err sends => exact (hmove.deleteErr_from sends).imp_left hpending
    | workers message sends => exact hmove.workersErr_from sends
  · exact .inl (hmove.remembered_from hremembered)

theorem Call.Moves.hasFailure_mono (hmove : call.Moves m ids cluster cluster' next)
    (h : call.HasFailure) : next.HasFailure :=
  h.imp fun _ hevent => ⟨hmove.log_mono hevent.1, hevent.2⟩

theorem Call.Arises.hasFailure (h : Call.Arises m ids mode call) (htrouble : call.Troubled) :
    call.HasFailure := by
  induction h with
  | start =>
    rcases htrouble with herr | hpending | ⟨rest, err, hremembered⟩
    · exact absurd rfl herr
    · cases hpending <;> cases mode <;> simp_all [Call.start]
    · simp [Call.start] at hremembered
  | move before same moves ih =>
    rcases moves.troubled_from htrouble with htrouble | hfailure
    · exact moves.hasFailure_mono (ih htrouble)
    · exact hfailure

theorem Call.Arises.late_nil (h : Call.Arises m ids mode call)
    (hret : call.hasReturned = false) : call.late = [] := by
  induction h with
  | start => rfl
  | @move _ _ call next before same moves ih =>
    have hbefore := moves.returned_mono hret
    obtain ⟨events, -, hlate⟩ := moves.records
    rw [hlate]
    simp [Call.record, hbefore, ih hbefore]

theorem Call.Arises.trace_eq_log (h : Call.Arises m ids mode call)
    (hret : call.hasReturned = false) : call.trace = call.log := by
  simp [Call.log, h.late_nil hret]

private theorem Call.listStatefulSets_keeps (hret : call.hasReturned = false)
    (h : call.err ≠ none) (cluster : Cluster) (loop : Loop) (failure : Option Error) :
    (call.listStatefulSets cluster loop failure).err ≠ none ∨
      (call.listStatefulSets cluster loop failure).LosesErr loop := by
  cases failure with
  | none =>
    obtain ⟨err, herr⟩ := Option.ne_none_iff_exists'.mp h
    exact .inr ⟨err, Call.mem_record_trace.mpr (.inr ⟨hret, by simp [herr]⟩)⟩
  | some err => exact .inl (by simp [Call.listStatefulSets])

/-- A recorded error stays, or a successful listing is recorded to have lost it. -/
theorem Call.Moves.err_kept (hmove : call.Moves m ids cluster cluster' next)
    (hformed : call.WellFormed) (hret : call.hasReturned = false) (h : call.err ≠ none) :
    next.err ≠ none ∨ ∃ loop, next.LosesErr loop ∧ (loop = .wait → call.scaleLoop = .done) := by
  cases hmove with
  | assignScaleErr => exact .inl (by simp)
  | assignWaitErr => exact .inl (by simp)
  | @listDeployments failure =>
    cases failure with
    | none =>
      obtain ⟨err, herr⟩ := Option.ne_none_iff_exists'.mp h
      exact .inr ⟨.scale, ⟨err, Call.mem_record_trace.mpr (.inr ⟨hret, by simp [herr]⟩)⟩, by simp⟩
    | some err => exact .inl (by simp [Call.listDeployments])
  | @listStatefulSets failure =>
    exact (Call.listStatefulSets_keeps hret h cluster .scale failure).imp_right
      fun hlost => ⟨.scale, hlost, by simp⟩
  | @relist failure at_ =>
    exact (Call.listStatefulSets_keeps hret h cluster .wait failure).imp_right
      fun hlost => ⟨.wait, hlost, fun _ => hformed.waitStarted.mp (by simp [at_])⟩
  | _ => exact .inl h

theorem Call.Moves.failure_to (hmove : call.Moves m ids cluster cluster' next) {event : Event}
    (hnew : event ∈ next.log) (hold : event ∉ call.log) (hfails : event.isFailure = true) :
    next.err ≠ none ∨ next.Pending := by
  cases hmove.event_from hnew hold with
  | listDeploymentsFailed err set => exact .inl (by simp [set])
  | listStatefulSetsFailed err set => exact .inl (by simp [set])
  | scaler _ _ _ _ stays outcome =>
    cases outcome with
    | accepted => simp [Event.isFailure] at hfails
    | refused err => exact .inr (.scaler err ⟨_, stays, rfl⟩)
  | waitFailed waiter _ err stays sends => exact .inr (.waiter err ⟨_, stays, sends⟩)
  | workersListFailed err goes => exact .inr (.workers _ goes)
  | podDeleteFailed name err rest goes => exact .inr (.deletion _ _ _ goes)
  | _ => simp [Event.isFailure] at hfails

end Preservation

end QubershipAirflow.SiteManager
