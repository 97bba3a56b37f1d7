import QubershipAirflow.SiteManager.Switchovers

/-! All that one step of a `ChangeMode` call can do, one rule for each statement
of the source that touches shared state. The invariants below are proved from
these rules and never unfold the step function. -/
namespace QubershipAirflow.SiteManager

inductive Call.Moves (m : DRManager) (ids : Identities) (cluster : Cluster) (call : Call) :
    Cluster → Call → Prop where
  -- the calling goroutine
  | scaleChEnds (at_ : call.caller = .rangeScaleCh) (closed : call.scaleChClosed = true) :
      Moves m ids cluster call cluster { call with caller := .testErr }
  | assignScaleErr {err : Error} (at_ : call.caller = .assignScaleErr err) :
      Moves m ids cluster call cluster { call with err := some err, caller := .testErr }
  | enterWait (at_ : call.caller = .testErr) (read : call.err = none) :
      Moves m ids cluster call cluster { call with caller := .rangeWaitCh }
  | skipWait (at_ : call.caller = .testErr) (read : call.err ≠ none) :
      Moves m ids cluster call cluster { call with caller := .testStatus }
  | waitChEnds (at_ : call.caller = .rangeWaitCh) (closed : call.waitChClosed = true) :
      Moves m ids cluster call cluster { call with caller := .testStatus }
  | assignWaitErr {err : Error} (at_ : call.caller = .assignWaitErr err) :
      Moves m ids cluster call cluster { call with err := some err, caller := .testStatus }
  | decideDone (at_ : call.caller = .testStatus) (read : call.err = none) :
      Moves m ids cluster call cluster { call with caller := .ret .done }
  | decideFailed (at_ : call.caller = .testStatus) (read : call.err ≠ none) :
      Moves m ids cluster call cluster { call with caller := .ret .failed }
  | ret {status : Status} (at_ : call.caller = .ret status) :
      Moves m ids cluster call cluster
        { call.record (if call.waitChClosed then [] else [.returnedOpen]) with
          caller := .returned (respond call.mode status) call.err }
  -- receives
  | receiveScaled {i : Nat} {scaler : Scaler} (at_ : call.caller = .rangeScaleCh)
      (sender : call.scalers[i]? = some scaler) (sends : scaler.phase = .send none) :
      Moves m ids cluster call cluster { call with
        scalers := call.scalers.set i { scaler with phase := .sent }, caller := .rangeScaleCh }
  | receiveScaleErr {i : Nat} {scaler : Scaler} {err : Error}
      (at_ : call.caller = .rangeScaleCh) (sender : call.scalers[i]? = some scaler)
      (sends : scaler.phase = .send (some err)) :
      Moves m ids cluster call cluster { call with
        scalers := call.scalers.set i { scaler with phase := .sent }
        caller := .assignScaleErr err }
  | receiveWaited {i : Nat} {waiter : Waiter} (at_ : call.caller = .rangeWaitCh)
      (sender : call.waiters[i]? = some waiter) (sends : waiter.phase = .send none) :
      Moves m ids cluster call cluster { call with
        waiters := call.waiters.set i { waiter with phase := .sent }, caller := .rangeWaitCh }
  | receiveWaitErr {i : Nat} {waiter : Waiter} {err : Error}
      (at_ : call.caller = .rangeWaitCh) (sender : call.waiters[i]? = some waiter)
      (sends : waiter.phase = .send (some err)) :
      Moves m ids cluster call cluster { call with
        waiters := call.waiters.set i { waiter with phase := .sent }
        caller := .assignWaitErr err }
  | receiveDeleteErr {message : Error} {rest : List Pod} {err : Error}
      (at_ : call.caller = .rangeWaitCh)
      (sends : call.waitLoop = .sendDeleteErr message rest err) :
      Moves m ids cluster call cluster { call with
        caller := .assignWaitErr message, waitLoop := .deleteWorkers rest (some err) }
  | receiveWorkersErr {message : Error} (at_ : call.caller = .rangeWaitCh)
      (sends : call.waitLoop = .sendWorkersErr message) :
      Moves m ids cluster call cluster { call with
        caller := .assignWaitErr message, waitLoop := .closeCh }
  -- the scaling loop
  | listDeployments {failure : Option Error} (at_ : call.scaleLoop = .listDeployments) :
      Moves m ids cluster call cluster
        { call.listDeployments cluster failure with scaleLoop := .testDeployments }
  | passDeployments {items : List Workload} (at_ : call.scaleLoop = .testDeployments)
      (read : call.err = none) (list : call.deploymentsList = some items) :
      Moves m ids cluster call cluster { call with scaleLoop := .scaleDeployments items }
  | abandon (at_ : call.scaleLoop = .testDeployments) (read : call.err ≠ none) :
      Moves m ids cluster call cluster { call with scaleLoop := .abandoned }
  | scaledDeployments (at_ : call.scaleLoop = .scaleDeployments []) :
      Moves m ids cluster call cluster { call with scaleLoop := .listStatefulSets }
  | scaleDeployment {item : Workload} {rest : List Workload}
      (at_ : call.scaleLoop = .scaleDeployments (item :: rest)) :
      Moves m ids cluster call cluster { call with
        wgScale := call.wgScale + 1
        scalers := call.scalers ++ [m.startScaler call.mode .deployment item]
        scaleLoop := .scaleDeployments rest }
  | listStatefulSets {failure : Option Error} (at_ : call.scaleLoop = .listStatefulSets) :
      Moves m ids cluster call cluster
        { call.listStatefulSets cluster .scale failure with scaleLoop := .testStatefulSets }
  | passStatefulSets {items : List Workload} (at_ : call.scaleLoop = .testStatefulSets)
      (read : call.err = none) (list : call.statefulSetsList = some items) :
      Moves m ids cluster call cluster { call with scaleLoop := .scaleStatefulSets items }
  | skipStatefulSets (at_ : call.scaleLoop = .testStatefulSets) (read : call.err ≠ none) :
      Moves m ids cluster call cluster { call with scaleLoop := .waitGroup }
  | scaledStatefulSets (at_ : call.scaleLoop = .scaleStatefulSets []) :
      Moves m ids cluster call cluster { call with scaleLoop := .waitGroup }
  | scaleStatefulSet {item : Workload} {rest : List Workload}
      (at_ : call.scaleLoop = .scaleStatefulSets (item :: rest)) :
      Moves m ids cluster call cluster { call with
        wgScale := call.wgScale + 1
        scalers := call.scalers ++ [m.startScaler call.mode .statefulSet item]
        scaleLoop := .scaleStatefulSets rest }
  | scaleWaited (at_ : call.scaleLoop = .waitGroup) (zero : call.wgScale = 0) :
      Moves m ids cluster call cluster { call with scaleLoop := .closeCh }
  | closeScaleCh (at_ : call.scaleLoop = .closeCh) :
      Moves m ids cluster call cluster { call with
        scaleChClosed := true, scaleLoop := .done, waitLoop := .begin }
  -- a scaling goroutine
  | scalerDone {i : Nat} {scaler : Scaler} (goroutine : call.scalers[i]? = some scaler)
      (at_ : scaler.phase = .sent) :
      Moves m ids cluster call cluster { call with
        wgScale := call.wgScale - 1
        scalers := call.scalers.set i { scaler with phase := .finished } }
  | scalerCall {i : Nat} {scaler scaler' : Scaler} {next : Cluster} {events : List Event}
      (goroutine : call.scalers[i]? = some scaler) (at_ : scaler.phase.isBusy = true)
      (outcome : Scaler.Outcome ids cluster scaler next scaler' events) :
      Moves m ids cluster call next
        { call.record events with scalers := call.scalers.set i scaler' }
  -- the wait loop
  | beginWait {items : List Workload} (at_ : call.waitLoop = .begin)
      (list : call.deploymentsList = some items) :
      Moves m ids cluster call cluster { call with waitLoop := .waitDeployments items }
  | waitedDeployments (at_ : call.waitLoop = .waitDeployments []) :
      Moves m ids cluster call cluster { call with waitLoop := .listStatefulSets }
  | waitDeployment {item : Workload} {rest : List Workload}
      (at_ : call.waitLoop = .waitDeployments (item :: rest)) :
      Moves m ids cluster call cluster { call with
        wgWait := call.wgWait + 1
        waiters := call.waiters ++ [Waiter.start item]
        waitLoop := .waitDeployments rest }
  | relist {failure : Option Error} (at_ : call.waitLoop = .listStatefulSets) :
      Moves m ids cluster call cluster
        { call.listStatefulSets cluster .wait failure with waitLoop := .testStatefulSets }
  | passRelisted {items : List Workload} (at_ : call.waitLoop = .testStatefulSets)
      (read : call.err = none) (list : call.statefulSetsList = some items) :
      Moves m ids cluster call cluster { call with waitLoop := .waitStatefulSets items }
  | skipRelisted (at_ : call.waitLoop = .testStatefulSets) (read : call.err ≠ none) :
      Moves m ids cluster call cluster
        { call.record [.waitSkipped] with waitLoop := .waitGroup }
  | waitedStatefulSets (at_ : call.waitLoop = .waitStatefulSets []) :
      Moves m ids cluster call cluster { call with waitLoop := .waitGroup }
  | waitStatefulSet {item : Workload} {rest : List Workload}
      (at_ : call.waitLoop = .waitStatefulSets (item :: rest)) :
      Moves m ids cluster call cluster { call with
        wgWait := call.wgWait + 1
        waiters := call.waiters ++ [Waiter.start item]
        waitLoop := .waitStatefulSets rest }
  | waitedUp (at_ : call.waitLoop = .waitGroup) (zero : call.wgWait = 0)
      (active : call.mode = .active) :
      Moves m ids cluster call cluster { call with waitLoop := .closeCh }
  | waitedDown (at_ : call.waitLoop = .waitGroup) (zero : call.wgWait = 0)
      (inactive : call.mode ≠ .active) :
      Moves m ids cluster call cluster { call with waitLoop := .listWorkers }
  | workersListed {pods : List Pod} (at_ : call.waitLoop = .listWorkers) :
      Moves m ids cluster call cluster
        { call.record [.workersListed (workerPods pods)] with
          waitLoop := .deleteWorkers (workerPods pods) none }
  | workersListFailed {err : Error} (at_ : call.waitLoop = .listWorkers) :
      Moves m ids cluster call cluster
        { call.record [.workersListFailed err] with
          waitLoop := .sendWorkersErr (listFailure err) }
  | podDeleted {pod : Pod} {rest : List Pod} {err : Option Error}
      (at_ : call.waitLoop = .deleteWorkers (pod :: rest) err) :
      Moves m ids cluster call cluster
        { call.record [.podDeleted pod.name] with waitLoop := .deleteWorkers rest none }
  | podDeleteFailed {pod : Pod} {rest : List Pod} {last : Option Error} {err : Error}
      (at_ : call.waitLoop = .deleteWorkers (pod :: rest) last) :
      Moves m ids cluster call cluster
        { call.record [.podDeleteFailed pod.name err] with
          waitLoop := .sendDeleteErr (deleteFailure pod.name err) rest err }
  | workersDone (at_ : call.waitLoop = .deleteWorkers [] none) :
      Moves m ids cluster call cluster { call with waitLoop := .closeCh }
  | workersErr {err : Error} (at_ : call.waitLoop = .deleteWorkers [] (some err)) :
      Moves m ids cluster call cluster
        { call with waitLoop := .sendWorkersErr (listFailure err) }
  | closeWaitCh (at_ : call.waitLoop = .closeCh) :
      Moves m ids cluster call cluster { call with waitChClosed := true, waitLoop := .done }
  -- a waiting goroutine
  | waiterDone {i : Nat} {waiter : Waiter} (goroutine : call.waiters[i]? = some waiter)
      (at_ : waiter.phase = .sent) :
      Moves m ids cluster call cluster { call with
        wgWait := call.wgWait - 1
        waiters := call.waiters.set i { waiter with phase := .finished } }
  | polled {i : Nat} {waiter : Waiter} {listing : PodListing}
      (goroutine : call.waiters[i]? = some waiter) (at_ : waiter.phase = .polling) :
      Moves m ids cluster call cluster
        { call.record [.polled waiter.component listing] with
          waiters := call.waiters.set i { waiter with
            phase := if m.pollDone call.mode waiter.component listing then .send none
              else .polling } }
  | waitTimeout {i : Nat} {waiter : Waiter}
      (goroutine : call.waiters[i]? = some waiter) (at_ : waiter.phase = .polling) :
      Moves m ids cluster call cluster
        { call.record [.waitFailed waiter.component
            (timeoutError call.mode waiter.component)] with
          waiters := call.waiters.set i { waiter with
            phase := .send (some (timeoutError call.mode waiter.component)) } }

section Inversion

variable {m : DRManager} {ids : Identities} {cluster : Cluster} {call next : Call}

theorem Call.stepCaller_moves (h : call.stepCaller = some next) :
    call.Moves m ids cluster cluster next := by
  unfold Call.stepCaller at h
  split at h
  case h_1 hat =>
    split at h
    · rename_i hclosed
      cases h
      exact .scaleChEnds hat hclosed
    · contradiction
  case h_2 hat =>
    cases h
    exact .assignScaleErr hat
  case h_3 hat =>
    split at h
    · rename_i hread
      cases h
      exact .enterWait hat hread
    · rename_i hread
      cases h
      exact .skipWait hat hread
  case h_4 hat =>
    split at h
    · rename_i hclosed
      cases h
      exact .waitChEnds hat hclosed
    · contradiction
  case h_5 hat =>
    cases h
    exact .assignWaitErr hat
  case h_6 hat =>
    split at h
    · rename_i hread
      cases h
      exact .decideDone hat hread
    · rename_i hread
      cases h
      exact .decideFailed hat hread
  case h_7 hat =>
    cases h
    exact .ret hat
  case h_8 => contradiction

theorem Call.receive_moves {i : Nat} (h : call.receive i = some next) :
    call.Moves m ids cluster cluster next := by
  unfold Call.receive at h
  split at h
  case h_1 hat =>
    split at h
    · rename_i scaler hsender
      split at h
      · rename_i err hsends
        cases h
        cases err with
        | none => exact .receiveScaled hat hsender hsends
        | some err => exact .receiveScaleErr hat hsender hsends
      · contradiction
    · contradiction
  case h_2 hat =>
    split at h
    · rename_i waiter hsender
      split at h
      · rename_i err hsends
        cases h
        cases err with
        | none => exact .receiveWaited hat hsender hsends
        | some err => exact .receiveWaitErr hat hsender hsends
      · contradiction
    · contradiction
  case h_3 => contradiction

theorem Call.receiveWorkers_moves (h : call.receiveWorkers = some next) :
    call.Moves m ids cluster cluster next := by
  unfold Call.receiveWorkers at h
  split at h
  · rename_i hat hsends
    cases h
    exact .receiveDeleteErr hat hsends
  · rename_i hat hsends
    cases h
    exact .receiveWorkersErr hat hsends
  · contradiction

theorem Call.stepScaleLoop_moves {reply : Reply}
    (h : call.stepScaleLoop m cluster reply = some next) :
    call.Moves m ids cluster cluster next := by
  unfold Call.stepScaleLoop at h
  split at h
  case h_1 hat =>
    obtain ⟨failure, -, rfl⟩ := Option.map_eq_some_iff.mp h
    exact .listDeployments hat
  case h_2 hat =>
    split at h
    · rename_i hread
      obtain ⟨items, hlist, rfl⟩ := Option.map_eq_some_iff.mp h
      exact .passDeployments hat hread hlist
    · rename_i hread
      cases h
      exact .abandon hat hread
  case h_3 hat =>
    cases h
    exact .scaledDeployments hat
  case h_4 hat =>
    cases h
    exact .scaleDeployment hat
  case h_5 hat =>
    obtain ⟨failure, -, rfl⟩ := Option.map_eq_some_iff.mp h
    exact .listStatefulSets hat
  case h_6 hat =>
    split at h
    · rename_i hread
      obtain ⟨items, hlist, rfl⟩ := Option.map_eq_some_iff.mp h
      exact .passStatefulSets hat hread hlist
    · rename_i hread
      cases h
      exact .skipStatefulSets hat hread
  case h_7 hat =>
    cases h
    exact .scaledStatefulSets hat
  case h_8 hat =>
    cases h
    exact .scaleStatefulSet hat
  case h_9 hat =>
    split at h
    · rename_i hzero
      cases h
      exact .scaleWaited hat hzero
    · contradiction
  case h_10 hat =>
    cases h
    exact .closeScaleCh hat
  all_goals contradiction

theorem Call.stepScaler_moves {cluster' : Cluster} {i : Nat} {reply : Reply}
    (hids : cluster.identities = ids) (hsound : ∀ scaler ∈ call.scalers, scaler.Sound ids)
    (h : call.stepScaler m cluster i reply = some (cluster', next)) :
    call.Moves m ids cluster cluster' next := by
  unfold Call.stepScaler at h
  split at h
  · contradiction
  · rename_i scaler hgoroutine
    split at h
    · rename_i hat
      cases h
      exact .scalerDone hgoroutine hat
    · obtain ⟨⟨_, scaler', events⟩, hstep, heq⟩ := Option.map_eq_some_iff.mp h
      cases heq
      have hmem := List.mem_of_getElem? hgoroutine
      obtain ⟨hbusy, houtcome⟩ := Scaler.step_outcome hids (hsound scaler hmem) hstep
      exact .scalerCall hgoroutine hbusy houtcome

theorem Call.stepWorkers_moves {reply : Reply} (h : call.stepWorkers reply = some next) :
    call.Moves m ids cluster cluster next := by
  unfold Call.stepWorkers at h
  split at h
  case h_1 hat =>
    cases h
    exact .workersListed hat
  case h_2 hat =>
    cases h
    exact .workersListFailed hat
  case h_3 hat =>
    cases h
    exact .podDeleted hat
  case h_4 hat =>
    cases h
    exact .podDeleteFailed hat
  case h_5 hat =>
    cases h
    exact .workersDone hat
  case h_6 hat =>
    cases h
    exact .workersErr hat
  case h_7 => contradiction

theorem Call.stepWaitLoop_moves {reply : Reply}
    (h : call.stepWaitLoop cluster reply = some next) :
    call.Moves m ids cluster cluster next := by
  unfold Call.stepWaitLoop at h
  split at h
  case h_1 hat =>
    obtain ⟨items, hlist, rfl⟩ := Option.map_eq_some_iff.mp h
    exact .beginWait hat hlist
  case h_2 hat =>
    cases h
    exact .waitedDeployments hat
  case h_3 hat =>
    cases h
    exact .waitDeployment hat
  case h_4 hat =>
    obtain ⟨failure, -, rfl⟩ := Option.map_eq_some_iff.mp h
    exact .relist hat
  case h_5 hat =>
    split at h
    · rename_i hread
      obtain ⟨items, hlist, rfl⟩ := Option.map_eq_some_iff.mp h
      exact .passRelisted hat hread hlist
    · rename_i hread
      cases h
      exact .skipRelisted hat hread
  case h_6 hat =>
    cases h
    exact .waitedStatefulSets hat
  case h_7 hat =>
    cases h
    exact .waitStatefulSet hat
  case h_8 hat =>
    split at h
    · rename_i hzero
      cases h
      split
      · rename_i hactive
        exact .waitedUp hat hzero hactive
      · rename_i hinactive
        exact .waitedDown hat hzero hinactive
    · contradiction
  case h_9 hat =>
    cases h
    exact .closeWaitCh hat
  case h_10 => exact Call.stepWorkers_moves h
  case h_11 => exact Call.stepWorkers_moves h
  all_goals contradiction

theorem Call.stepWaiter_moves {i : Nat} {reply : Reply}
    (h : call.stepWaiter m i reply = some next) : call.Moves m ids cluster cluster next := by
  unfold Call.stepWaiter at h
  split at h
  · contradiction
  · rename_i waiter hgoroutine
    dsimp only at h
    split at h
    · rename_i hat
      cases h
      exact .polled hgoroutine hat
    · rename_i hat
      cases h
      exact .polled hgoroutine hat
    · rename_i hat
      cases h
      exact .waitTimeout hgoroutine hat
    · rename_i hat
      cases h
      exact .waiterDone hgoroutine hat
    · contradiction

theorem Call.step_moves {cluster' : Cluster} {act : Act} (hids : cluster.identities = ids)
    (hsound : ∀ scaler ∈ call.scalers, scaler.Sound ids)
    (h : call.step m cluster act = some (cluster', next)) :
    call.Moves m ids cluster cluster' next := by
  unfold Call.step at h
  split at h
  case h_1 =>
    obtain ⟨_, hstep, heq⟩ := Option.map_eq_some_iff.mp h
    cases heq
    exact Call.stepCaller_moves hstep
  case h_2 =>
    obtain ⟨_, hstep, heq⟩ := Option.map_eq_some_iff.mp h
    cases heq
    exact Call.receive_moves hstep
  case h_3 =>
    obtain ⟨_, hstep, heq⟩ := Option.map_eq_some_iff.mp h
    cases heq
    exact Call.receiveWorkers_moves hstep
  case h_4 =>
    obtain ⟨_, hstep, heq⟩ := Option.map_eq_some_iff.mp h
    cases heq
    exact Call.stepScaleLoop_moves hstep
  case h_5 => exact Call.stepScaler_moves hids hsound h
  case h_6 =>
    obtain ⟨_, hstep, heq⟩ := Option.map_eq_some_iff.mp h
    cases heq
    exact Call.stepWaitLoop_moves hstep
  case h_7 =>
    obtain ⟨_, hstep, heq⟩ := Option.map_eq_some_iff.mp h
    cases heq
    exact Call.stepWaiter_moves hstep

end Inversion

end QubershipAirflow.SiteManager
