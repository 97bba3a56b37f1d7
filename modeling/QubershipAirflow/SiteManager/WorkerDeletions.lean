import QubershipAirflow.SiteManager.Leftovers

/-! The deletion of executor pods at the end of a scale-down. The loop reports a failed
deletion over the wait channel and stands there until somebody receives, and the calling
goroutine receives one error at most. -/
namespace QubershipAirflow.SiteManager

def Event.requested : Event → Option String
  | .podDeleted name | .podDeleteFailed name _ => some name
  | _ => none

def Call.requests (call : Call) : List String := call.log.filterMap Event.requested

def WaitLoopPhase.remaining : WaitLoopPhase → List Pod
  | .deleteWorkers rest _ | .sendDeleteErr _ rest _ => rest
  | _ => []

def Call.willRead (call : Call) : Bool :=
  match call.caller with
  | .rangeScaleCh | .testErr => call.err = none
  | .rangeWaitCh => true
  | _ => false

def Call.failsEarly (call : Call) : Act → Bool
  | .waitLoop (.fault _) =>
      match call.waitLoop with
      | .deleteWorkers (_ :: _ :: _) _ => true
      | _ => false
  | _ => false

/-- In the `k`-th call a deletion fails before the last one only while the calling
goroutine has yet to leave the wait channel. -/
def System.failuresRead (k : Nat) (system : System) : Move → Bool
  | .act j act =>
      match system.calls[j]? with
      | some call => j ≠ k || !call.failsEarly act || call.willRead
      | none => true
  | _ => true

section Turns

inductive WaitLoopPhase.Turns : WaitLoopPhase → List Event → WaitLoopPhase → Prop where
  | listed (pods : List Pod) :
      Turns .listWorkers [.workersListed pods] (.deleteWorkers pods none)
  | listFailed (err : Error) :
      Turns .listWorkers [.workersListFailed err] (.sendWorkersErr (listFailure err))
  | deleted (pod : Pod) (rest : List Pod) (last : Option Error) :
      Turns (.deleteWorkers (pod :: rest) last) [.podDeleted pod.name] (.deleteWorkers rest none)
  | failed (pod : Pod) (rest : List Pod) (last : Option Error) (err : Error) :
      Turns (.deleteWorkers (pod :: rest) last) [.podDeleteFailed pod.name err]
        (.sendDeleteErr (deleteFailure pod.name err) rest err)
  | ended : Turns (.deleteWorkers [] none) [] .closeCh
  | repeated (err : Error) :
      Turns (.deleteWorkers [] (some err)) [] (.sendWorkersErr (listFailure err))

inductive Call.WindsUp (call : Call) : Call → Prop where
  | caller {next : Call} (moves : call.stepCaller = some next) : WindsUp call next
  | receiveDeleteErr {message : Error} {rest : List Pod} {err : Error}
      (at_ : call.caller = .rangeWaitCh)
      (sends : call.waitLoop = .sendDeleteErr message rest err) :
      WindsUp call { call with
        caller := .assignWaitErr message, waitLoop := .deleteWorkers rest (some err) }
  | receiveWorkersErr {message : Error} (at_ : call.caller = .rangeWaitCh)
      (sends : call.waitLoop = .sendWorkersErr message) :
      WindsUp call { call with caller := .assignWaitErr message, waitLoop := .closeCh }
  | turn {events : List Event} {phase : WaitLoopPhase}
      (turns : call.waitLoop.Turns events phase) :
      WindsUp call { call.record events with waitLoop := phase }
  | close (at_ : call.waitLoop = .closeCh) :
      WindsUp call { call with waitChClosed := true, waitLoop := .done }

variable {m : DRManager} {ids : Identities} {mode : Mode} {cluster cluster' : Cluster}
  {call next : Call}

theorem WaitLoopPhase.waited_of_past {phase : WaitLoopPhase}
    (h : phase.pastWorkersListing = true) : phase.waited = true := by
  cases phase with
  | listWorkers => cases h
  | _ => exact h

theorem Call.record_nil (call : Call) : call.record [] = call := by
  unfold Call.record
  cases call.hasReturned <;> simp

theorem Call.Moves.windsUp (hmove : call.Moves m ids cluster cluster' next)
    (hformed : call.WellFormed) (hwaited : call.waitLoop.waited = true) : call.WindsUp next := by
  have hdone : call.scaleLoop = .done := by
    refine hformed.waitStarted.mp fun hphase => ?_
    simp [hphase, WaitLoopPhase.waited] at hwaited
  have hscaler : ∀ {i : Nat} {scaler : Scaler}, call.scalers[i]? = some scaler →
      scaler.phase = .finished :=
    fun hget => hformed.scalers_finished hdone (List.mem_of_getElem? hget)
  have hwaiter : ∀ {i : Nat} {waiter : Waiter}, call.waiters[i]? = some waiter →
      waiter.phase = .finished :=
    fun hget => hformed.waiters_finished hwaited (List.mem_of_getElem? hget)
  have hturn : ∀ {phase}, call.waitLoop.Turns [] phase →
      call.WindsUp { call with waitLoop := phase } := by
    intro phase hphase
    have hnext := Call.WindsUp.turn hphase
    rwa [Call.record_nil] at hnext
  cases hmove with
  | scaleChEnds at_ closed => exact .caller (by simp [Call.stepCaller, at_, closed])
  | assignScaleErr at_ => exact .caller (by simp [Call.stepCaller, at_])
  | enterWait at_ read => exact .caller (by simp [Call.stepCaller, at_, read])
  | skipWait at_ read => exact .caller (by simp [Call.stepCaller, at_, read])
  | waitChEnds at_ closed => exact .caller (by simp [Call.stepCaller, at_, closed])
  | assignWaitErr at_ => exact .caller (by simp [Call.stepCaller, at_])
  | decideDone at_ read => exact .caller (by simp [Call.stepCaller, at_, read])
  | decideFailed at_ read => exact .caller (by simp [Call.stepCaller, at_, read])
  | ret at_ => exact .caller (by simp [Call.stepCaller, at_])
  | receiveScaled at_ sender sends => simp [hscaler sender] at sends
  | receiveScaleErr at_ sender sends => simp [hscaler sender] at sends
  | receiveWaited at_ sender sends => simp [hwaiter sender] at sends
  | receiveWaitErr at_ sender sends => simp [hwaiter sender] at sends
  | receiveDeleteErr at_ sends => exact .receiveDeleteErr at_ sends
  | receiveWorkersErr at_ sends => exact .receiveWorkersErr at_ sends
  | scalerDone goroutine at_ => simp [hscaler goroutine] at at_
  | scalerCall goroutine at_ => simp [hscaler goroutine, ScalePhase.isBusy] at at_
  | waiterDone goroutine at_ => simp [hwaiter goroutine] at at_
  | polled goroutine at_ => simp [hwaiter goroutine] at at_
  | waitTimeout goroutine at_ => simp [hwaiter goroutine] at at_
  | workersListed at_ => exact .turn (at_ ▸ .listed _)
  | workersListFailed at_ => exact .turn (at_ ▸ .listFailed _)
  | podDeleted at_ => exact .turn (at_ ▸ .deleted _ _ _)
  | podDeleteFailed at_ => exact .turn (at_ ▸ .failed _ _ _ _)
  | workersDone at_ => exact hturn (at_ ▸ .ended)
  | workersErr at_ => exact hturn (at_ ▸ .repeated _)
  | closeWaitCh at_ => exact .close at_
  | _ => simp_all [WaitLoopPhase.waited]

end Turns

section Requests

variable {m : DRManager} {ids : Identities} {mode : Mode} {cluster cluster' : Cluster}
  {call next : Call} {pods : List Pod}

theorem Call.Arises.record_log (h : Call.Arises m ids mode call) (events : List Event) :
    (call.record events).log = call.log ++ events := by
  unfold Call.record Call.log
  cases hret : call.hasReturned with
  | true => simp
  | false => simp [h.late_nil hret]

theorem Call.Arises.record_requests (h : Call.Arises m ids mode call) (events : List Event) :
    (call.record events).requests = call.requests ++ events.filterMap Event.requested := by
  simp only [Call.requests, h.record_log, List.filterMap_append]

theorem Event.isWorkers_of_requested {event : Event} (h : event.requested.isSome = true) :
    event.isWorkers = true := by
  cases event with
  | podDeleted => rfl
  | podDeleteFailed => rfl
  | _ => cases h

theorem Call.stepCaller_frame (hstep : call.stepCaller = some next) :
    next.waitLoop = call.waitLoop ∧ ∃ events, next.log = (call.record events).log ∧
      ∀ event ∈ events, event.isWorkers = false := by
  have hquiet : next.log = call.log → ∃ events, next.log = (call.record events).log ∧
      ∀ event ∈ events, event.isWorkers = false :=
    fun hlog => ⟨[], by rw [hlog, Call.record_nil], fun _ hevent => absurd hevent List.not_mem_nil⟩
  unfold Call.stepCaller at hstep
  split at hstep
  case h_1 =>
    split at hstep
    · cases hstep
      exact ⟨rfl, hquiet rfl⟩
    · cases hstep
  case h_4 =>
    split at hstep
    · cases hstep
      exact ⟨rfl, hquiet rfl⟩
    · cases hstep
  case h_7 =>
    cases hstep
    refine ⟨rfl, _, rfl, ?_⟩
    cases call.waitChClosed <;> simp [Event.isWorkers]
  case h_8 => cases hstep
  all_goals
    cases hstep
    exact ⟨rfl, hquiet rfl⟩

theorem Call.Arises.stepCaller_requests (h : Call.Arises m ids mode call)
    (hstep : call.stepCaller = some next) : next.requests = call.requests := by
  obtain ⟨-, events, hlog, hevents⟩ := Call.stepCaller_frame hstep
  have hnone : events.filterMap Event.requested = [] := by
    refine List.filterMap_eq_nil_iff.mpr fun event hevent => ?_
    by_contra hrequested
    have hworkers := Event.isWorkers_of_requested (Option.ne_none_iff_isSome.mp hrequested)
    simp [hevents event hevent] at hworkers
  have hrequests := h.record_requests events
  rw [hnone, List.append_nil] at hrequests
  rw [← hrequests, Call.requests, hlog]
  rfl

def Call.Tracks (pods : List Pod) (call : Call) : Prop :=
  call.requests ++ call.waitLoop.remaining.map Pod.name = pods.map Pod.name

theorem Call.WindsUp.tracks (h : call.WindsUp next) (harises : Call.Arises m ids mode call)
    (hpast : call.waitLoop.pastWorkersListing = true) (htracks : call.Tracks pods) :
    next.Tracks pods := by
  unfold Call.Tracks at htracks ⊢
  cases h with
  | caller moves =>
    rw [(Call.stepCaller_frame moves).1, harises.stepCaller_requests moves]
    exact htracks
  | receiveDeleteErr at_ sends =>
    rw [sends] at htracks
    exact htracks
  | receiveWorkersErr at_ sends =>
    rw [sends] at htracks
    exact htracks
  | @turn events phase turns =>
    change (call.record events).requests ++ phase.remaining.map Pod.name = _
    rw [harises.record_requests]
    generalize hphase : call.waitLoop = before at turns htracks hpast
    cases turns with
    | listed => cases hpast
    | listFailed => cases hpast
    | deleted pod rest => simpa [Event.requested, WaitLoopPhase.remaining] using htracks
    | failed pod rest => simpa [Event.requested, WaitLoopPhase.remaining] using htracks
    | ended => simpa [WaitLoopPhase.remaining] using htracks
    | repeated => simpa [WaitLoopPhase.remaining] using htracks
  | close at_ =>
    rw [at_] at htracks
    exact htracks

theorem Call.Arises.requests_nil (h : Call.Arises m ids mode call)
    (hpast : call.waitLoop.pastWorkersListing = false) : call.requests = [] := by
  refine List.filterMap_eq_nil_iff.mpr fun event hevent => ?_
  by_contra hrequested
  have hworkers := Event.isWorkers_of_requested (Option.ne_none_iff_isSome.mp hrequested)
  simp [h.workers_late hevent hworkers] at hpast

theorem Call.Moves.tracks_listed (hmove : call.Moves m ids cluster cluster' next)
    (h : Call.Arises m ids mode call) (hnew : .workersListed pods ∈ next.log)
    (hold : .workersListed pods ∉ call.log) : next.Tracks pods := by
  have hwaited : call.waitLoop.waited = true := by
    cases hmove.event_from hnew hold with
    | scaler _ _ _ _ _ outcome => cases outcome
    | workersListed _ goes => cases hmove <;> simp_all [WaitLoopPhase.waited]
  cases hmove.windsUp h.wellFormed hwaited with
  | caller moves =>
    obtain ⟨-, events, hlog, hevents⟩ := Call.stepCaller_frame moves
    rw [hlog] at hnew
    have hevent := hevents _ ((Call.mem_record_log.mp hnew).resolve_left hold)
    cases hevent
  | receiveDeleteErr => exact absurd hnew hold
  | receiveWorkersErr => exact absurd hnew hold
  | @turn events phase turns =>
    have hevent := (Call.mem_record_log.mp hnew).resolve_left hold
    change (call.record events).requests ++ phase.remaining.map Pod.name = pods.map Pod.name
    generalize hphase : call.waitLoop = before at turns
    cases turns with
    | listed =>
      cases List.mem_singleton.mp hevent
      rw [h.record_requests, h.requests_nil (by rw [hphase]; rfl)]
      rfl
    | _ => simp at hevent
  | close => exact absurd hnew hold

theorem Call.Arises.tracks (h : Call.Arises m ids mode call)
    (hlisted : .workersListed pods ∈ call.log) : call.Tracks pods := by
  induction h with
  | start => exact absurd hlisted List.not_mem_nil
  | @move _ _ call next before same moves ih =>
    by_cases hold : .workersListed pods ∈ call.log
    · have hpast := before.workers_late hold rfl
      have hwaited : call.waitLoop.waited = true := by
        cases hphase : call.waitLoop <;> simp_all [WaitLoopPhase.pastWorkersListing]
      exact (moves.windsUp before.wellFormed hwaited).tracks before hpast (ih hold)
    · exact moves.tracks_listed before hlisted hold

end Requests

section Reader

variable {m : DRManager} {ids : Identities} {mode : Mode} {cluster cluster' : Cluster}
  {call next : Call}

theorem Call.stepCaller_willRead (hstep : call.stepCaller = some next)
    (hopen : call.waitChClosed = false) : next.willRead = call.willRead := by
  unfold Call.stepCaller at hstep
  unfold Call.willRead
  cases hcaller : call.caller with
  | rangeScaleCh =>
    simp only [hcaller] at hstep
    split at hstep
    · cases hstep
      rfl
    · cases hstep
  | testErr =>
    simp only [hcaller] at hstep
    cases hstep
    by_cases herr : call.err = none <;> simp [herr]
  | rangeWaitCh => simp [hcaller, hopen] at hstep
  | returned => simp [hcaller] at hstep
  | _ =>
    simp only [hcaller] at hstep
    cases hstep
    simp

/-- The loop stands at a send that nobody will receive, with pods still to come. -/
def Call.Blocked (call : Call) : Prop :=
  call.willRead = false ∧
    ∃ message rest err, call.waitLoop = .sendDeleteErr message rest err ∧ rest ≠ []

/-- If the loop stands at the send of an early failure, somebody will receive it. -/
def Call.Attended (call : Call) : Prop :=
  ∀ message rest err, call.waitLoop = .sendDeleteErr message rest err →
    rest = [] ∨ call.willRead = true

theorem Call.WellFormed.waitCh_open (h : call.WellFormed) (hphase : call.waitLoop ≠ .done) :
    call.waitChClosed = false := by
  cases hclosed : call.waitChClosed with
  | false => rfl
  | true => exact absurd (h.waitCh.mp hclosed) hphase

theorem Call.Moves.blocked (hmove : call.Moves m ids cluster cluster' next)
    (hformed : call.WellFormed) (h : call.Blocked) : next.Blocked := by
  obtain ⟨hleft, message, rest, err, hphase, hrest⟩ := h
  cases hmove.windsUp hformed (by rw [hphase]; rfl) with
  | caller moves =>
    have hread := Call.stepCaller_willRead moves (hformed.waitCh_open (by simp [hphase]))
    refine ⟨hread.trans hleft, message, rest, err, ?_, hrest⟩
    rw [(Call.stepCaller_frame moves).1, hphase]
  | receiveDeleteErr at_ => simp [Call.willRead, at_] at hleft
  | receiveWorkersErr at_ => simp [Call.willRead, at_] at hleft
  | turn turns =>
    rw [hphase] at turns
    cases turns
  | close at_ => simp [hphase] at at_

theorem Call.Moves.attended (hmove : call.Moves m ids cluster cluster' next)
    (hformed : call.WellFormed) (h : call.Attended)
    (hfailure : ∀ pod rest last message err, call.waitLoop = .deleteWorkers (pod :: rest) last →
      next.waitLoop = .sendDeleteErr message rest err → rest = [] ∨ call.willRead = true) :
    next.Attended := by
  intro message rest err hnext
  by_cases hwaited : call.waitLoop.waited = true
  · cases hmove.windsUp hformed hwaited with
    | caller moves =>
      have hphase := (Call.stepCaller_frame moves).1
      rw [hphase] at hnext
      have hread := Call.stepCaller_willRead moves (hformed.waitCh_open (by simp [hnext]))
      rw [hread]
      exact h message rest err hnext
    | receiveDeleteErr => cases hnext
    | receiveWorkersErr => cases hnext
    | @turn events phase turns =>
      change phase = _ at hnext
      subst hnext
      generalize hphase : call.waitLoop = before at turns
      cases turns with
      | failed pod _ last => exact hfailure pod rest last _ _ hphase rfl
    | close => cases hnext
  · cases hmove <;> simp_all [WaitLoopPhase.waited]

end Reader

section Acts

variable {m : DRManager} {cluster cluster' : Cluster} {call next : Call}

theorem Call.receive_waitLoop {i : Nat} (h : call.receive i = some next) :
    next.waitLoop = call.waitLoop := by
  unfold Call.receive at h
  split at h
  case h_3 => cases h
  all_goals
    split at h
    · split at h
      · cases h
        rfl
      · cases h
    · cases h

theorem Call.stepScaler_waitLoop {i : Nat} {reply : Reply}
    (h : call.stepScaler m cluster i reply = some (cluster', next)) :
    next.waitLoop = call.waitLoop := by
  unfold Call.stepScaler at h
  split at h
  · cases h
  · split at h
    · cases h
      rfl
    · obtain ⟨_, -, heq⟩ := Option.map_eq_some_iff.mp h
      cases heq
      rfl

theorem Call.stepWaiter_waitLoop {i : Nat} {reply : Reply}
    (h : call.stepWaiter m i reply = some next) : next.waitLoop = call.waitLoop := by
  unfold Call.stepWaiter at h
  split at h
  · cases h
  · dsimp only at h
    split at h <;> first | contradiction | (cases h; rfl)

theorem Call.step_failing {act : Act} {pod : Pod} {rest : List Pod} {last : Option Error}
    {message err : Error} (hformed : call.WellFormed)
    (hstep : call.step m cluster act = some (cluster', next))
    (hphase : call.waitLoop = .deleteWorkers (pod :: rest) last)
    (hnext : next.waitLoop = .sendDeleteErr message rest err) :
    ∃ fault, act = .waitLoop (.fault fault) := by
  have hframe : next.waitLoop ≠ call.waitLoop := by simp [hphase, hnext]
  cases act with
  | caller =>
    obtain ⟨_, h, heq⟩ := Option.map_eq_some_iff.mp hstep
    cases heq
    exact absurd (Call.stepCaller_frame h).1 hframe
  | receive i =>
    obtain ⟨_, h, heq⟩ := Option.map_eq_some_iff.mp hstep
    cases heq
    exact absurd (Call.receive_waitLoop h) hframe
  | receiveWorkers => simp [Call.step, Call.receiveWorkers, hphase] at hstep
  | scaleLoop reply =>
    have hdone := hformed.waitStarted.mp (by simp [hphase])
    simp [Call.step, Call.stepScaleLoop, hdone] at hstep
  | scaler i reply => exact absurd (Call.stepScaler_waitLoop hstep) hframe
  | waitLoop reply =>
    cases reply with
    | fault fault => exact ⟨fault, rfl⟩
    | ok =>
      obtain ⟨_, h, heq⟩ := Option.map_eq_some_iff.mp hstep
      cases heq
      simp only [Call.stepWaitLoop, hphase, Call.stepWorkers, Option.some.injEq] at h
      subst h
      cases hnext
    | _ => simp [Call.step, Call.stepWaitLoop, hphase, Call.stepWorkers] at hstep
  | waiter i reply =>
    obtain ⟨_, h, heq⟩ := Option.map_eq_some_iff.mp hstep
    cases heq
    exact absurd (Call.stepWaiter_waitLoop h) hframe

theorem Call.failsEarly_cases {act : Act} (h : call.failsEarly act = true) :
    ∃ fault pod following rest last, act = .waitLoop (.fault fault) ∧
      call.waitLoop = .deleteWorkers (pod :: following :: rest) last := by
  unfold Call.failsEarly at h
  split at h
  · split at h
    · exact ⟨_, _, _, _, _, rfl, ‹_›⟩
    · cases h
  · cases h

theorem Call.step_blocks {act : Act} (hstep : call.step m cluster act = some (cluster', next))
    (hfails : call.failsEarly act = true) (hleft : call.willRead = false) : next.Blocked := by
  obtain ⟨fault, pod, following, rest, last, rfl, hphase⟩ := Call.failsEarly_cases hfails
  obtain ⟨_, h, heq⟩ := Option.map_eq_some_iff.mp hstep
  cases heq
  simp only [Call.stepWaitLoop, hphase, Call.stepWorkers, Option.some.injEq] at h
  subst h
  exact ⟨hleft, _, _, _, rfl, by simp⟩

theorem Call.remaining_of_stuck (hformed : call.WellFormed) (hattended : call.Attended)
    (hstuck : ∀ act, call.step m cluster act = none) : call.waitLoop.remaining = [] := by
  cases hphase : call.waitLoop with
  | deleteWorkers rest last =>
    cases rest with
    | nil => rfl
    | cons pod rest =>
      have hstep := hstuck (.waitLoop .ok)
      simp [Call.step, Call.stepWaitLoop, hphase, Call.stepWorkers] at hstep
  | sendDeleteErr message rest err =>
    refine (hattended message rest err hphase).resolve_right fun hread => ?_
    have hclosed := hformed.scaleCh.mpr (hformed.waitStarted.mp (by simp [hphase]))
    have hcaller := hstuck .caller
    have hreceive := hstuck .receiveWorkers
    unfold Call.willRead at hread
    cases hat : call.caller <;> rw [hat] at hread <;>
      simp_all [Call.step, Call.stepCaller, Call.receiveWorkers]
  | _ => rfl

end Acts

section Bound

variable {m : DRManager} {ids : Identities} {mode : Mode} {cluster cluster' : Cluster}
  {call next : Call}

def CallerPhase.stepsLeft : CallerPhase → Nat
  | .rangeScaleCh | .assignScaleErr _ => 6
  | .testErr => 5
  | .rangeWaitCh => 4
  | .assignWaitErr _ => 3
  | .testStatus => 2
  | .ret _ => 1
  | .returned _ _ => 0

def WaitLoopPhase.stepsLeft : WaitLoopPhase → Nat
  | .deleteWorkers rest _ => 2 * rest.length + 3
  | .sendDeleteErr _ rest _ => 2 * rest.length + 4
  | .sendWorkersErr _ => 2
  | .closeCh => 1
  | _ => 0

def Call.stepsLeft (call : Call) : Nat := call.caller.stepsLeft + call.waitLoop.stepsLeft

theorem Call.stepCaller_stepsLeft (hstep : call.stepCaller = some next) :
    next.caller.stepsLeft < call.caller.stepsLeft := by
  unfold Call.stepCaller at hstep
  cases hcaller : call.caller with
  | rangeScaleCh =>
    simp only [hcaller] at hstep
    split at hstep
    · cases hstep
      simp [CallerPhase.stepsLeft]
    · cases hstep
  | rangeWaitCh =>
    simp only [hcaller] at hstep
    split at hstep
    · cases hstep
      simp [CallerPhase.stepsLeft]
    · cases hstep
  | testErr =>
    simp only [hcaller] at hstep
    cases hstep
    by_cases herr : call.err = none <;> simp [herr, CallerPhase.stepsLeft]
  | returned => simp [hcaller] at hstep
  | _ =>
    simp only [hcaller] at hstep
    cases hstep
    simp [CallerPhase.stepsLeft]

theorem Call.WindsUp.stepsLeft (h : call.WindsUp next)
    (hpast : call.waitLoop.pastWorkersListing = true) : next.stepsLeft < call.stepsLeft := by
  unfold Call.stepsLeft
  cases h with
  | caller moves =>
    have hless := Call.stepCaller_stepsLeft moves
    rw [(Call.stepCaller_frame moves).1]
    omega
  | receiveDeleteErr at_ sends =>
    simp only [at_, sends, CallerPhase.stepsLeft, WaitLoopPhase.stepsLeft]
    omega
  | receiveWorkersErr at_ sends =>
    simp only [at_, sends, CallerPhase.stepsLeft, WaitLoopPhase.stepsLeft]
    omega
  | @turn events phase turns =>
    change call.caller.stepsLeft + phase.stepsLeft < _
    generalize call.waitLoop = before at turns hpast
    cases turns with
    | listed => cases hpast
    | listFailed => cases hpast
    | _ =>
      simp only [WaitLoopPhase.stepsLeft, List.length_cons, List.length_nil]
      omega
  | close at_ => simp [at_, WaitLoopPhase.stepsLeft]

end Bound

section Histories

variable {m : DRManager} {ids : Identities} {cluster : Cluster} {system next : System} {k : Nat}
  {call : Call} {pods : List Pod}

def Move.isOf (k : Nat) : Move → Bool
  | .act j _ => j = k
  | _ => false

theorem System.step_call {move : Move} {call' : Call} (hstep : system.step m move = some next)
    (hcall : next.calls[k]? = some call') :
    (move.isOf k = false ∧ system.calls[k]? = some call') ∨ (∃ mode, call' = Call.start mode) ∨
      ∃ act call, move = .act k act ∧ system.calls[k]? = some call ∧
        call.step m system.cluster act = some (next.cluster, call') := by
  cases move with
  | start mode =>
    simp only [System.step] at hstep
    split at hstep
    · cases hstep
      rcases Nat.lt_or_ge k system.calls.length with hlt | hge
      · rw [List.getElem?_append_left hlt] at hcall
        exact .inl ⟨rfl, hcall⟩
      · rw [List.getElem?_append_right hge] at hcall
        have hmem := List.mem_of_getElem? hcall
        exact .inr (.inl ⟨mode, List.mem_singleton.mp hmem⟩)
    · cases hstep
  | act j act =>
    obtain ⟨other, other', hother, hcallStep, hcalls⟩ := System.step_act hstep
    rw [hcalls] at hcall
    by_cases hj : j = k
    · subst hj
      have hlt := (List.getElem?_eq_some_iff.mp hother).1
      rw [List.getElem?_set_self hlt] at hcall
      cases hcall
      exact .inr (.inr ⟨act, other, rfl, hother, hcallStep⟩)
    · rw [List.getElem?_set_ne hj] at hcall
      exact .inl ⟨by simp [Move.isOf, hj], hcall⟩
  | other cluster' =>
    simp only [System.step] at hstep
    split at hstep
    · cases hstep
      exact .inl ⟨rfl, hcall⟩
    · cases hstep

theorem System.attended
    (hrun : Runs.Reaches (Runs.restrictAt (System.step m) (System.failuresRead k))
      (System.initial cluster) system)
    (hcall : system.calls[k]? = some call) : call.Attended := by
  have hinv := Runs.Reaches.invariant
    (I := fun system => system.Consistent m cluster.identities ∧
      ∀ call, system.calls[k]? = some call → call.Attended) ?_ hrun
    ⟨⟨rfl, fun _ hmem => absurd hmem List.not_mem_nil⟩, by simp [System.initial]⟩
  · exact hinv.2 call hcall
  · rintro system move next ⟨hconsistent, hattended⟩ hstep
    obtain ⟨hallowed, hstep⟩ := Runs.restrictAt_eq_some.mp hstep
    refine ⟨hconsistent.step hstep, fun call' hcall' => ?_⟩
    rcases System.step_call hstep hcall' with
      ⟨-, hsame⟩ | ⟨mode, rfl⟩ | ⟨act, call, rfl, hcall, hmove⟩
    · exact hattended _ hsame
    · intro message rest err hphase
      cases hphase
    · have hmem := List.mem_of_getElem? hcall
      have hformed := (hconsistent.2 call hmem).wellFormed
      refine (hconsistent.moves hmem hmove).attended hformed (hattended call hcall) ?_
      intro pod rest last message err hphase hnext
      obtain ⟨fault, rfl⟩ := Call.step_failing hformed hmove hphase hnext
      cases rest with
      | nil => exact .inl rfl
      | cons following rest =>
        -- the allowed step is an early failure, so it has a reader
        simpa [System.failuresRead, hcall, Call.failsEarly, hphase] using hallowed

theorem Call.Tracks.stepsLeft_le (h : call.Tracks pods) :
    call.stepsLeft ≤ 2 * pods.length + 10 := by
  have hlength := congrArg List.length h
  rw [List.length_append, List.length_map, List.length_map] at hlength
  have hcaller : call.caller.stepsLeft ≤ 6 := by
    cases call.caller <;> simp [CallerPhase.stepsLeft]
  have hloop : call.waitLoop.stepsLeft ≤ 2 * call.waitLoop.remaining.length + 4 := by
    cases call.waitLoop <;> simp [WaitLoopPhase.stepsLeft, WaitLoopPhase.remaining]
  unfold Call.stepsLeft
  omega

theorem System.steps_le {moves : List Move} {later : System}
    (hconsistent : system.Consistent m ids) (hcall : system.calls[k]? = some call)
    (hpast : call.waitLoop.pastWorkersListing = true)
    (hmoves : Runs.exec (System.step m) system moves = some later) :
    moves.countP (Move.isOf k) ≤ call.stepsLeft := by
  have hcount := @Runs.exec_countP_le _ _ _
    (fun system => system.Consistent m ids ∧ ∃ call, system.calls[k]? = some call ∧
      call.waitLoop.pastWorkersListing = true)
    (fun system => (system.calls[k]?.map Call.stepsLeft).getD 0) (Move.isOf k) ?_ _ _ _
    ⟨hconsistent, call, hcall, hpast⟩ hmoves
  · rw [hcall] at hcount
    exact Nat.le_of_add_right_le hcount
  · rintro system move next ⟨hconsistent, call, hcall, hpast⟩ hstep
    obtain ⟨call', hcall', hpast'⟩ := System.call_invariant
      (P := fun call => call.waitLoop.pastWorkersListing = true)
      (fun harises h hmove => hmove.pastWorkersListing harises.wellFormed h)
      hconsistent (Runs.Reaches.single hstep) ⟨call, hcall, hpast⟩
    refine ⟨⟨hconsistent.step hstep, call', hcall', hpast'⟩, ?_⟩
    rw [hcall, hcall']
    rcases System.step_call hstep hcall' with
      ⟨hother, hsame⟩ | ⟨mode, rfl⟩ | ⟨act, before, rfl, hbefore, hmove⟩
    · rw [hcall] at hsame
      cases hsame
      simp [hother]
    · cases hpast'
    · rw [hcall] at hbefore
      cases hbefore
      have hmem := List.mem_of_getElem? hcall
      have hwinds := (hconsistent.moves hmem hmove).windsUp (hconsistent.2 call hmem).wellFormed
        (WaitLoopPhase.waited_of_past hpast)
      have hless := hwinds.stepsLeft hpast
      simp only [Move.isOf, decide_true, if_true, Option.map_some, Option.getD_some]
      omega

theorem System.blocked_of_refused {move : Move} (hstep : system.step m move = some next)
    (hrefused : system.failuresRead k move = false) :
    ∃ call, next.calls[k]? = some call ∧ call.Blocked := by
  cases move with
  | act j act =>
    obtain ⟨call, call', hcall, hmove, hcalls⟩ := System.step_act hstep
    simp only [System.failuresRead, hcall, Bool.or_eq_false_iff, decide_eq_false_iff_not,
      ne_eq, not_not, Bool.not_eq_false'] at hrefused
    obtain ⟨⟨rfl, hfails⟩, hleft⟩ := hrefused
    have hlt := (List.getElem?_eq_some_iff.mp hcall).1
    exact ⟨call', by rw [hcalls, List.getElem?_set_self hlt], Call.step_blocks hmove hfails hleft⟩
  | _ => cases hrefused

theorem System.blocked_later {later : System} (hconsistent : system.Consistent m ids)
    (hlater : Runs.Reaches (System.step m) system later)
    (hblocked : ∃ call, system.calls[k]? = some call ∧ call.Blocked) :
    ∃ call, later.calls[k]? = some call ∧ call.Blocked :=
  System.call_invariant (fun harises h hmove => hmove.blocked harises.wellFormed h) hconsistent
    hlater hblocked

theorem Call.Blocked.remaining_ne (h : call.Blocked) : call.waitLoop.remaining ≠ [] := by
  obtain ⟨-, message, rest, err, hphase, hrest⟩ := h
  rw [hphase]
  exact hrest

/-- Once its executor pods are listed, a call has boundedly many steps left, and when
it has none left it has asked for the deletion of each listed pod exactly when every
failure before the last deletion met a calling goroutine still to read it. -/
theorem changeMode_requests_each_iff {schedule : List Move}
    (hrun : Runs.exec (System.step m) (System.initial cluster) schedule = some system)
    (hcall : system.calls[k]? = some call) (hlisted : .workersListed pods ∈ call.log) :
    (∀ moves later, Runs.exec (System.step m) system moves = some later →
      moves.countP (Move.isOf k) ≤ 2 * pods.length + 10) ∧
    ((∀ act, call.step m system.cluster act = none) →
      (call.requests = pods.map Pod.name ↔
        Runs.exec (Runs.restrictAt (System.step m) (System.failuresRead k))
          (System.initial cluster) schedule = some system)) := by
  have hconsistent := System.consistent ⟨schedule, hrun⟩
  have harises := hconsistent.2 call (List.mem_of_getElem? hcall)
  have htracks := harises.tracks hlisted
  have hremaining : call.requests = pods.map Pod.name ↔ call.waitLoop.remaining = [] := by
    unfold Call.Tracks at htracks
    rw [← htracks, List.self_eq_append_right, List.map_eq_nil_iff]
  refine ⟨fun moves later hmoves => ?_, fun hstuck => ?_⟩
  · have hsteps := System.steps_le hconsistent hcall (harises.workers_late hlisted rfl) hmoves
    exact le_trans hsteps htracks.stepsLeft_le
  · rw [hremaining]
    constructor
    · intro hdone
      refine (Runs.exec_restrictAt_or (System.failuresRead k) hrun).resolve_right ?_
      rintro ⟨state, move, next, hreach, hrefused, hstep, hfinish⟩
      obtain ⟨same, hsame, hblocked⟩ := System.blocked_later
        ((System.consistent hreach).step hstep) hfinish (System.blocked_of_refused hstep hrefused)
      rw [hcall] at hsame
      cases hsame
      exact hblocked.remaining_ne hdone
    · intro hread
      exact Call.remaining_of_stuck harises.wellFormed (System.attended ⟨schedule, hread⟩ hcall)
        hstuck

theorem Call.Tracks.unasked (h : call.Tracks pods) (hnames : (pods.map Pod.name).Nodup)
    (hremaining : call.waitLoop.remaining ≠ []) : ∃ pod ∈ pods, pod.name ∉ call.requests := by
  obtain ⟨pod, hpod⟩ := List.exists_mem_of_ne_nil _ hremaining
  unfold Call.Tracks at h
  rw [← h] at hnames
  have hname := List.mem_map_of_mem (f := Pod.name) hpod
  have hlisted : pod.name ∈ pods.map Pod.name := h ▸ List.mem_append_right _ hname
  obtain ⟨listed, hmem, heq⟩ := List.mem_map.mp hlisted
  exact ⟨listed, hmem, fun hasked => (List.disjoint_of_nodup_append hnames) hasked (heq ▸ hname)⟩

def executorPods : List Pod := ["executor-0", "executor-1", "executor-2"].map fun name =>
  ⟨name, [("component", "worker"), ("kubernetes_executor", "True")], .running, []⟩

def deletingThree (answers : List Act) : List Move :=
  .start .standby ::
    ((standbyScheduler [] executorPods).take 27 ++ answers).map (Move.act 0)

/-- The first failure is received, and the second is not. -/
theorem third_executor_never_requested :
    ∃ system, Runs.Reaches (System.step schedulerMap) (System.initial schedulerCluster) system ∧
      ∃ call, system.calls[0]? = some call ∧ call.mode = .standby ∧
        .workersListed executorPods ∈ call.log ∧
        ∀ later, Runs.Reaches (System.step schedulerMap) system later →
          ∃ call, later.calls[0]? = some call ∧
            ¬ ∀ pod ∈ executorPods, pod.name ∈ call.requests := by
  obtain ⟨system, hrun, hcheck⟩ := Runs.exists_of_replay
    (System.step schedulerMap) (System.initial schedulerCluster)
    (deletingThree
      [.waitLoop (.fault "forbidden"), .receiveWorkers, .waitLoop (.fault "forbidden")])
    (fun system => system.calls[0]?.any fun call => call.mode = .standby ∧
      .workersListed executorPods ∈ call.log ∧ call.willRead = false ∧
      call.waitLoop = .sendDeleteErr (deleteFailure "executor-1" "forbidden")
        (executorPods.drop 2) "forbidden") (by decide +kernel)
  simp only [Option.any_eq_true, decide_eq_true_eq] at hcheck
  obtain ⟨call, hcall, hmode, hlisted, hleft, hphase⟩ := hcheck
  refine ⟨system, hrun, call, hcall, hmode, hlisted, fun later hlater => ?_⟩
  obtain ⟨call', hcall', hblocked, hlisted'⟩ := System.call_invariant
    (P := fun call => call.Blocked ∧ .workersListed executorPods ∈ call.log)
    (fun harises h hmove => ⟨hmove.blocked harises.wellFormed h.1, hmove.log_mono h.2⟩)
    (System.consistent hrun) hlater
    ⟨call, hcall, ⟨hleft, _, _, _, hphase, by decide⟩, hlisted⟩
  have harises := (System.consistent (hrun.trans hlater)).2 call' (List.mem_of_getElem? hcall')
  obtain ⟨pod, hpod, hunasked⟩ :=
    (harises.tracks hlisted').unasked (by decide) hblocked.remaining_ne
  exact ⟨call', hcall', fun hall => hunasked (hall pod hpod)⟩

/-- One failure is received while two pods are to come. -/
theorem failure_read_by_caller :
    ∃ schedule system call,
      Runs.exec (Runs.restrictAt (System.step schedulerMap) (System.failuresRead 0))
        (System.initial schedulerCluster) schedule = some system ∧
      system.calls[0]? = some call ∧ .podDeleteFailed "executor-0" "forbidden" ∈ call.log ∧
      call.requests = executorPods.map Pod.name := by
  have hcheck : (Runs.exec (System.step schedulerMap) (System.initial schedulerCluster)
      (deletingThree [.waitLoop (.fault "forbidden"), .receiveWorkers, .waitLoop .ok,
        .waitLoop .ok, .waitLoop .ok, .waitLoop .ok, .caller, .caller, .caller])).map
      (fun system => system.calls[0]?.any fun call =>
        .workersListed executorPods ∈ call.log ∧
        .podDeleteFailed "executor-0" "forbidden" ∈ call.log ∧
        call.requests = executorPods.map Pod.name ∧ call.waitLoop = .done ∧
        call.hasReturned = true) = some true := by decide +kernel
  obtain ⟨system, hrun, hcheck⟩ := Option.map_eq_some_iff.mp hcheck
  simp only [Option.any_eq_true, decide_eq_true_eq] at hcheck
  obtain ⟨call, hcall, hlisted, hfailed, hrequests, hdone, hret⟩ := hcheck
  have hconsistent := System.consistent ⟨_, hrun⟩
  have hmem := List.mem_of_getElem? hcall
  have hstuck : ∀ act, call.step schedulerMap system.cluster act = none := by
    refine fun act => Option.eq_none_iff_forall_ne_some.mpr ?_
    rintro ⟨cluster', next⟩ hstep
    have hreturned := (hconsistent.moves hmem hstep).not_returned
      (hconsistent.2 call hmem).wellFormed hdone
    simp [hreturned] at hret
  exact ⟨_, system, call,
    ((changeMode_requests_each_iff hrun hcall hlisted).2 hstuck).mp hrequests, hcall, hfailed,
    hrequests⟩

end Histories

end QubershipAirflow.SiteManager
