import QubershipAirflow.SiteManager.Scaling
import QubershipAirflow.Library.Runs

/-! `ChangeMode` as the goroutines it starts. The standby and active branches of
the source are one machine with the mode as a parameter: they differ in the
replica count, the test of a wait and the deletion of executor pods. Each step
is one read or write of a shared variable, one channel operation, one wait-group
operation or one API call. -/
namespace QubershipAirflow.SiteManager

inductive Mode where
  | active
  | standby
  | disabled
  | unsupported (name : String)
  deriving DecidableEq

inductive Status where
  | done
  | failed
  deriving DecidableEq, Repr

/-- `entity.ControllerResponse` -/
structure ControllerResponse where
  mode : Mode
  status : Status
  comment : String
  deriving DecidableEq

/-- The goroutine that runs `ChangeMode` itself. -/
inductive CallerPhase where
  | rangeScaleCh
  | assignScaleErr (err : Error)
  | testErr
  | rangeWaitCh
  | assignWaitErr (err : Error)
  | testStatus
  | ret (status : Status)
  | returned (response : ControllerResponse) (err : Option Error)
  deriving DecidableEq

/-- The first background goroutine: list, start a scaling goroutine for every
item, wait for them and close the channel. It is `abandoned` when the listing of
Deployments failed: it then ends without closing the channel. -/
inductive ScaleLoopPhase where
  | listDeployments
  | testDeployments
  | scaleDeployments (rest : List Workload)
  | listStatefulSets
  | testStatefulSets
  | scaleStatefulSets (rest : List Workload)
  | waitGroup
  | closeCh
  | done
  | abandoned
  deriving DecidableEq

/-- The second background goroutine, started by the first after it closed the
scaling channel. -/
inductive WaitLoopPhase where
  | notStarted
  | begin
  | waitDeployments (rest : List Workload)
  | listStatefulSets
  | testStatefulSets
  | waitStatefulSets (rest : List Workload)
  | waitGroup
  | listWorkers
  | deleteWorkers (rest : List Pod) (err : Option Error)
  | sendDeleteErr (message : Error) (rest : List Pod) (err : Error)
  | sendWorkersErr (message : Error)
  | closeCh
  | done
  deriving DecidableEq

inductive WaitPhase where
  | polling
  | send (err : Option Error)
  | sent
  | finished
  deriving DecidableEq

structure Waiter where
  component : String
  phase : WaitPhase
  deriving DecidableEq

def Waiter.isFinished (waiter : Waiter) : Bool := waiter.phase = .finished

/-- One call of `ChangeMode`: its goroutines, the variables they share, and the
API calls made on its behalf before (`trace`) and after (`late`) it returned.
Variables that are `nil` in Go are `none`. -/
structure Call where
  mode : Mode
  caller : CallerPhase
  scaleLoop : ScaleLoopPhase
  waitLoop : WaitLoopPhase
  scalers : List Scaler
  waiters : List Waiter
  err : Option Error
  deploymentsList : Option (List Workload)
  statefulSetsList : Option (List Workload)
  wgScale : Nat
  wgWait : Nat
  scaleChClosed : Bool
  waitChClosed : Bool
  trace : List Event
  late : List Event

def Call.hasReturned (call : Call) : Bool :=
  match call.caller with
  | .returned _ _ => true
  | _ => false

def Call.log (call : Call) : List Event := call.trace ++ call.late

def Call.record (call : Call) (events : List Event) : Call :=
  { call with
    trace := if call.hasReturned then call.trace else call.trace ++ events
    late := if call.hasReturned then call.late ++ events else call.late }

section Records

variable (call : Call) (events : List Event)

@[simp] theorem Call.record_mode : (call.record events).mode = call.mode := rfl

@[simp] theorem Call.record_caller : (call.record events).caller = call.caller := rfl

@[simp] theorem Call.record_scaleLoop : (call.record events).scaleLoop = call.scaleLoop := rfl

@[simp] theorem Call.record_waitLoop : (call.record events).waitLoop = call.waitLoop := rfl

@[simp] theorem Call.record_scalers : (call.record events).scalers = call.scalers := rfl

@[simp] theorem Call.record_waiters : (call.record events).waiters = call.waiters := rfl

@[simp] theorem Call.record_err : (call.record events).err = call.err := rfl

@[simp] theorem Call.record_deploymentsList :
    (call.record events).deploymentsList = call.deploymentsList := rfl

@[simp] theorem Call.record_statefulSetsList :
    (call.record events).statefulSetsList = call.statefulSetsList := rfl

@[simp] theorem Call.record_wgScale : (call.record events).wgScale = call.wgScale := rfl

@[simp] theorem Call.record_wgWait : (call.record events).wgWait = call.wgWait := rfl

@[simp] theorem Call.record_scaleChClosed :
    (call.record events).scaleChClosed = call.scaleChClosed := rfl

@[simp] theorem Call.record_waitChClosed :
    (call.record events).waitChClosed = call.waitChClosed := rfl

end Records

def respond (mode : Mode) : Status → ControllerResponse
  | .done => ⟨mode, .done, "Switchover successfully done"⟩
  | .failed => ⟨mode, .failed, "Switchover failed"⟩

/-- A call at the point where its first background goroutine has been started. An
unsupported mode is answered at once, without one. -/
def Call.start (mode : Mode) : Call where
  mode := mode
  caller :=
    match mode with
    | .active | .standby | .disabled => .rangeScaleCh
    | .unsupported _ => .returned
        ⟨mode, .failed, "Switchover failed. Only standby and active modes are supported."⟩
        (some "Requested mode is not supported")
  scaleLoop :=
    match mode with
    | .active | .standby | .disabled => .listDeployments
    | .unsupported _ => .abandoned
  waitLoop := .notStarted
  scalers := []
  waiters := []
  err := none
  deploymentsList := none
  statefulSetsList := none
  wgScale := 0
  wgWait := 0
  scaleChClosed := false
  waitChClosed := false
  trace := []
  late := []

section Steps

variable (m : DRManager)

def DRManager.target (mode : Mode) (component : String) : Int32 :=
  match mode with
  | .active => int32 (m.componentToReplicaMap.read component)
  | _ => 0

/-- Whether one poll ends the wait: not up for a scale-down, up for a scale-up. -/
def DRManager.pollDone (mode : Mode) (component : String) (listing : PodListing) : Bool :=
  match mode with
  | .active => m.isComponentUp listing "component" component
  | _ => !m.isComponentUp listing "component" component

def DRManager.startScaler (mode : Mode) (kind : Kind) (item : Workload) : Scaler :=
  ⟨kind, item.component, m.target mode item.component, .lookup⟩

def Waiter.start (item : Workload) : Waiter := ⟨item.component, .polling⟩

def waitMessage (mode : Mode) (component : String) : String :=
  match mode with
  | .active => "Error while waiting component=" ++ component ++ " to scale up"
  | _ => "Error while waiting component=" ++ component ++ " to scale down"

/-- `errors.WithMessagef` around the time-out error of `wait.Poll`. -/
def timeoutError (mode : Mode) (component : String) : Error :=
  waitMessage mode component ++ ": timed out waiting for the condition"

/-- Local steps of the calling goroutine; a `range` over a closed channel ends. -/
def Call.stepCaller (call : Call) : Option Call :=
  match call.caller with
  | .rangeScaleCh => if call.scaleChClosed then some { call with caller := .testErr } else none
  | .assignScaleErr err => some { call with err := some err, caller := .testErr }
  | .testErr =>
      some { call with caller := if call.err = none then .rangeWaitCh else .testStatus }
  | .rangeWaitCh => if call.waitChClosed then some { call with caller := .testStatus } else none
  | .assignWaitErr err => some { call with err := some err, caller := .testStatus }
  | .testStatus =>
      some { call with caller := .ret (if call.err = none then .done else .failed) }
  | .ret status => some { call.record (if call.waitChClosed then [] else [.returnedOpen]) with
      caller := .returned (respond call.mode status) call.err }
  | .returned _ _ => none

/-- The channels are unbuffered: a send and its receive are one step. -/
def Call.receive (call : Call) (i : Nat) : Option Call :=
  match call.caller with
  | .rangeScaleCh =>
      match call.scalers[i]? with
      | some scaler =>
          match scaler.phase with
          | .send err => some { call with
              scalers := call.scalers.set i { scaler with phase := .sent }
              caller := match err with
                | none => .rangeScaleCh
                | some err => .assignScaleErr err }
          | _ => none
      | none => none
  | .rangeWaitCh =>
      match call.waiters[i]? with
      | some waiter =>
          match waiter.phase with
          | .send err => some { call with
              waiters := call.waiters.set i { waiter with phase := .sent }
              caller := match err with
                | none => .rangeWaitCh
                | some err => .assignWaitErr err }
          | _ => none
      | none => none
  | _ => none

/-- Receive what `shutDownKuberWorkers` sends, which is never `nil`. -/
def Call.receiveWorkers (call : Call) : Option Call :=
  match call.caller, call.waitLoop with
  | .rangeWaitCh, .sendDeleteErr message rest err => some { call with
      caller := .assignWaitErr message, waitLoop := .deleteWorkers rest (some err) }
  | .rangeWaitCh, .sendWorkersErr message => some { call with
      caller := .assignWaitErr message, waitLoop := .closeCh }
  | _, _ => none

/-- `deploymentsList, err = k8s.ListDeployments(…)`. The assignment of a successful
listing forgets an error that `err` already holds. -/
def Call.listDeployments (call : Call) (cluster : Cluster) : Option Error → Call
  | none =>
      let items := cluster.deployments.select tierLabel
      { call.record (.listed .deployment items :: (call.err.map (Event.errLost .scale)).toList) with
        deploymentsList := some items, err := none }
  | some err =>
      { call.record [.listFailed .deployment err] with
        deploymentsList := none, err := some err }

/-- `statefulSetsList, err = k8s.ListStatefulSets(…)` in either loop. -/
def Call.listStatefulSets (call : Call) (cluster : Cluster) (loop : Loop) :
    Option Error → Call
  | none =>
      let items := cluster.statefulSets.select tierLabel
      { call.record (.listed .statefulSet items :: (call.err.map (Event.errLost loop)).toList) with
        statefulSetsList := some items, err := none }
  | some err =>
      { call.record [.listFailed .statefulSet err] with
        statefulSetsList := none, err := some err }

section Listings

variable (call : Call) (cluster : Cluster) (loop : Loop) (failure : Option Error)

@[simp] theorem Call.listDeployments_mode :
    (call.listDeployments cluster failure).mode = call.mode := by
  cases failure <;> rfl

@[simp] theorem Call.listDeployments_caller :
    (call.listDeployments cluster failure).caller = call.caller := by
  cases failure <;> rfl

@[simp] theorem Call.listDeployments_scaleLoop :
    (call.listDeployments cluster failure).scaleLoop = call.scaleLoop := by
  cases failure <;> rfl

@[simp] theorem Call.listDeployments_waitLoop :
    (call.listDeployments cluster failure).waitLoop = call.waitLoop := by
  cases failure <;> rfl

@[simp] theorem Call.listDeployments_scalers :
    (call.listDeployments cluster failure).scalers = call.scalers := by
  cases failure <;> rfl

@[simp] theorem Call.listDeployments_waiters :
    (call.listDeployments cluster failure).waiters = call.waiters := by
  cases failure <;> rfl

@[simp] theorem Call.listDeployments_wgScale :
    (call.listDeployments cluster failure).wgScale = call.wgScale := by
  cases failure <;> rfl

@[simp] theorem Call.listDeployments_wgWait :
    (call.listDeployments cluster failure).wgWait = call.wgWait := by
  cases failure <;> rfl

@[simp] theorem Call.listDeployments_scaleChClosed :
    (call.listDeployments cluster failure).scaleChClosed = call.scaleChClosed := by
  cases failure <;> rfl

@[simp] theorem Call.listDeployments_waitChClosed :
    (call.listDeployments cluster failure).waitChClosed = call.waitChClosed := by
  cases failure <;> rfl

@[simp] theorem Call.listStatefulSets_mode :
    (call.listStatefulSets cluster loop failure).mode = call.mode := by
  cases failure <;> rfl

@[simp] theorem Call.listStatefulSets_caller :
    (call.listStatefulSets cluster loop failure).caller = call.caller := by
  cases failure <;> rfl

@[simp] theorem Call.listStatefulSets_scaleLoop :
    (call.listStatefulSets cluster loop failure).scaleLoop = call.scaleLoop := by
  cases failure <;> rfl

@[simp] theorem Call.listStatefulSets_waitLoop :
    (call.listStatefulSets cluster loop failure).waitLoop = call.waitLoop := by
  cases failure <;> rfl

@[simp] theorem Call.listStatefulSets_scalers :
    (call.listStatefulSets cluster loop failure).scalers = call.scalers := by
  cases failure <;> rfl

@[simp] theorem Call.listStatefulSets_waiters :
    (call.listStatefulSets cluster loop failure).waiters = call.waiters := by
  cases failure <;> rfl

@[simp] theorem Call.listStatefulSets_wgScale :
    (call.listStatefulSets cluster loop failure).wgScale = call.wgScale := by
  cases failure <;> rfl

@[simp] theorem Call.listStatefulSets_wgWait :
    (call.listStatefulSets cluster loop failure).wgWait = call.wgWait := by
  cases failure <;> rfl

@[simp] theorem Call.listStatefulSets_scaleChClosed :
    (call.listStatefulSets cluster loop failure).scaleChClosed = call.scaleChClosed := by
  cases failure <;> rfl

@[simp] theorem Call.listStatefulSets_waitChClosed :
    (call.listStatefulSets cluster loop failure).waitChClosed = call.waitChClosed := by
  cases failure <;> rfl

@[simp] theorem Call.listStatefulSets_deploymentsList :
    (call.listStatefulSets cluster loop failure).deploymentsList = call.deploymentsList := by
  cases failure <;> rfl

end Listings

/-- Ranging over a `nil` list is a nil dereference, which has no step. -/
def Call.stepScaleLoop (call : Call) (cluster : Cluster) (reply : Reply) : Option Call :=
  match call.scaleLoop with
  | .listDeployments => reply.failure.map fun failure =>
      { call.listDeployments cluster failure with scaleLoop := .testDeployments }
  | .testDeployments =>
      if call.err = none then
        call.deploymentsList.map fun items => { call with scaleLoop := .scaleDeployments items }
      else some { call with scaleLoop := .abandoned }
  | .scaleDeployments [] => some { call with scaleLoop := .listStatefulSets }
  | .scaleDeployments (item :: rest) => some { call with
      wgScale := call.wgScale + 1
      scalers := call.scalers ++ [m.startScaler call.mode .deployment item]
      scaleLoop := .scaleDeployments rest }
  | .listStatefulSets => reply.failure.map fun failure =>
      { call.listStatefulSets cluster .scale failure with scaleLoop := .testStatefulSets }
  | .testStatefulSets =>
      if call.err = none then
        call.statefulSetsList.map fun items =>
          { call with scaleLoop := .scaleStatefulSets items }
      else some { call with scaleLoop := .waitGroup }
  | .scaleStatefulSets [] => some { call with scaleLoop := .waitGroup }
  | .scaleStatefulSets (item :: rest) => some { call with
      wgScale := call.wgScale + 1
      scalers := call.scalers ++ [m.startScaler call.mode .statefulSet item]
      scaleLoop := .scaleStatefulSets rest }
  | .waitGroup => if call.wgScale = 0 then some { call with scaleLoop := .closeCh } else none
  | .closeCh => some { call with
      scaleChClosed := true, scaleLoop := .done, waitLoop := .begin }
  | .done | .abandoned => none

/-- A step of the `i`-th scaling goroutine: an API call of `ScaleDeployment` or
`ScaleStatefulSet`, or the deferred `wgScale.Done()` after its send. -/
def Call.stepScaler (call : Call) (cluster : Cluster) (i : Nat) (reply : Reply) :
    Option (Cluster × Call) :=
  match call.scalers[i]? with
  | none => none
  | some scaler =>
      match scaler.phase with
      | .sent => some (cluster, { call with
          wgScale := call.wgScale - 1
          scalers := call.scalers.set i { scaler with phase := .finished } })
      | _ => (scaler.step m.conflictRetries cluster reply).map fun (cluster, scaler, events) =>
          (cluster, { call.record events with scalers := call.scalers.set i scaler })

/-- `component=worker,kubernetes_executor=True` -/
def workerSelector : Selector := [("component", "worker"), ("kubernetes_executor", "True")]

def workerPods (pods : List Pod) : List Pod :=
  pods.filter fun pod => workerSelector.selects pod.labels

def listFailure (err : Error) : Error :=
  "Could not get Kubernetes Executor Worker pods: " ++ err

def deleteFailure (name : String) (err : Error) : Error :=
  "Could not delete Kubernetes Executor Worker pod " ++ name ++ ": " ++ err

/-- `shutDownKuberWorkers` keeps the error of the last deletion only, and reports
it a second time after the loop. -/
def Call.stepWorkers (call : Call) (reply : Reply) : Option Call :=
  match call.waitLoop, reply with
  | .listWorkers, .pods pods =>
      let items := workerPods pods
      some { call.record [.workersListed items] with waitLoop := .deleteWorkers items none }
  | .listWorkers, .fault err => some { call.record [.workersListFailed err] with
      waitLoop := .sendWorkersErr (listFailure err) }
  | .deleteWorkers (pod :: rest) _, .ok => some { call.record [.podDeleted pod.name] with
      waitLoop := .deleteWorkers rest none }
  | .deleteWorkers (pod :: rest) _, .fault err =>
      some { call.record [.podDeleteFailed pod.name err] with
        waitLoop := .sendDeleteErr (deleteFailure pod.name err) rest err }
  | .deleteWorkers [] none, _ => some { call with waitLoop := .closeCh }
  | .deleteWorkers [] (some err), _ => some { call with
      waitLoop := .sendWorkersErr (listFailure err) }
  | _, _ => none

def Call.stepWaitLoop (call : Call) (cluster : Cluster) (reply : Reply) : Option Call :=
  match call.waitLoop with
  | .begin => call.deploymentsList.map fun items =>
      { call with waitLoop := .waitDeployments items }
  | .waitDeployments [] => some { call with waitLoop := .listStatefulSets }
  | .waitDeployments (item :: rest) => some { call with
      wgWait := call.wgWait + 1
      waiters := call.waiters ++ [Waiter.start item]
      waitLoop := .waitDeployments rest }
  | .listStatefulSets => reply.failure.map fun failure =>
      { call.listStatefulSets cluster .wait failure with waitLoop := .testStatefulSets }
  | .testStatefulSets =>
      if call.err = none then
        call.statefulSetsList.map fun items =>
          { call with waitLoop := .waitStatefulSets items }
      else some { call.record [.waitSkipped] with waitLoop := .waitGroup }
  | .waitStatefulSets [] => some { call with waitLoop := .waitGroup }
  | .waitStatefulSets (item :: rest) => some { call with
      wgWait := call.wgWait + 1
      waiters := call.waiters ++ [Waiter.start item]
      waitLoop := .waitStatefulSets rest }
  | .waitGroup =>
      if call.wgWait = 0 then
        some { call with waitLoop := if call.mode = .active then .closeCh else .listWorkers }
      else none
  | .closeCh => some { call with waitChClosed := true, waitLoop := .done }
  | .listWorkers | .deleteWorkers _ _ => call.stepWorkers reply
  | .sendDeleteErr _ _ _ | .sendWorkersErr _ | .notStarted | .done => none

/-- A step of the `i`-th waiting goroutine: one poll, the time-out of `wait.Poll`,
or the deferred `Done()` after its send. -/
def Call.stepWaiter (call : Call) (i : Nat) (reply : Reply) : Option Call :=
  match call.waiters[i]? with
  | none => none
  | some waiter =>
      let poll (listing : PodListing) : Call :=
        { call.record [.polled waiter.component listing] with
          waiters := call.waiters.set i { waiter with
            phase := if m.pollDone call.mode waiter.component listing then .send none
              else .polling } }
      match waiter.phase, reply with
      | .polling, .pods pods => some (poll (.ok pods))
      | .polling, .fault err => some (poll (.error err))
      | .polling, .timeout =>
          let err := timeoutError call.mode waiter.component
          some { call.record [.waitFailed waiter.component err] with
            waiters := call.waiters.set i { waiter with phase := .send (some err) } }
      | .sent, _ => some { call with
          wgWait := call.wgWait - 1
          waiters := call.waiters.set i { waiter with phase := .finished } }
      | _, _ => none

inductive Act where
  | caller
  | receive (i : Nat)
  | receiveWorkers
  | scaleLoop (reply : Reply)
  | scaler (i : Nat) (reply : Reply)
  | waitLoop (reply : Reply)
  | waiter (i : Nat) (reply : Reply)
  deriving DecidableEq

def Call.step (call : Call) (cluster : Cluster) : Act → Option (Cluster × Call)
  | .caller => call.stepCaller.map (cluster, ·)
  | .receive i => (call.receive i).map (cluster, ·)
  | .receiveWorkers => call.receiveWorkers.map (cluster, ·)
  | .scaleLoop reply => (call.stepScaleLoop m cluster reply).map (cluster, ·)
  | .scaler i reply => call.stepScaler m cluster i reply
  | .waitLoop reply => (call.stepWaitLoop cluster reply).map (cluster, ·)
  | .waiter i reply => (call.stepWaiter m i reply).map (cluster, ·)

end Steps

end QubershipAirflow.SiteManager
