import QubershipAirflow.SiteManager.Workloads

/-! The replica map read from the environment, and the status code of one
component. A listing answer is the namespace's pods at the time of the call, or
the API error; the selectors are applied here. -/
namespace QubershipAirflow.SiteManager

/-- `strconv.Atoi`: an optional sign, decimal digits, and the range of `int64`. -/
def atoi (text : String) : Option Int :=
  let (negative, digits) := match text.toList with
    | '-' :: rest => (true, rest)
    | '+' :: rest => (false, rest)
    | rest => (false, rest)
  if digits = [] ∨ digits.any (fun c => !c.isDigit) then none
  else
    let value : Int := digits.foldl (fun n c => 10 * n + (c.toNat - '0'.toNat : Nat)) 0
    if negative then
      if value ≤ 9223372036854775808 then some (-value) else none
    else if value < 9223372036854775808 then some value
    else none

abbrev Environment := String → String

def getEnvInt (env : Environment) (paramName : String) (defaultValue : Int) : Int :=
  (atoi (env paramName)).getD defaultValue

/-- `GetEnvConfig().ReplicaMap` -/
def getEnvReplicaMap (env : Environment) : ReplicaMap where
  entries := [
    ("flower", getEnvInt env "FLOWER_REPLICAS" 1),
    ("dag-processor", getEnvInt env "DAG_PROCESSOR_REPLICAS" 1),
    ("worker", getEnvInt env "WORKER_REPLICAS" 1),
    ("scheduler", getEnvInt env "SCHEDULER_REPLICAS" 1),
    ("api-server", getEnvInt env "API_SERVER_REPLICAS" 1),
    ("statsd", getEnvInt env "STATSD_REPLICAS" 1)]
  keyed := by simp

abbrev PodListing := Except Error (List Pod)

def podRunningAndReady (pod : Pod) : Except Error Bool :=
  match pod.phase with
  | .failed | .succeeded => .error "pod completed"
  | .running =>
      match pod.conditions.find? (fun cond => cond.type = "Ready") with
      | some cond => .ok (cond.status = "True")
      | none => .error "pod ready condition not found"
  | .pending | .unknown => .ok false

/-- `ready, err := PodRunningAndReady(pod); err == nil && ready` -/
def isReady (pod : Pod) : Bool :=
  match podRunningAndReady pod with
  | .ok ready => ready
  | .error _ => false

/-- Field selector `status.phase=Running` with a label selector. -/
def runningPods (pods : List Pod) (selector : Selector) : List Pod :=
  pods.filter fun pod => pod.phase = .running ∧ selector.selects pod.labels

def readyCount (pods : List Pod) (labelName labelValue : String) : Nat :=
  (runningPods pods [(labelName, labelValue)]).countP isReady

/-- 1 is up, 0 down, -10 degraded. The initial 10000 stays for a failed listing
and for more ready pods than configured. -/
def getComponentStatus (listing : PodListing) (labelName labelValue : String)
    (replicas : Int) : Int :=
  match listing with
  | .error _ => 10000
  | .ok pods =>
      let readyPods : Int := readyCount pods labelName labelValue
      let status : Int := 10000
      let status := if readyPods = replicas ∧ readyPods > 0 then 1 else status
      let status := if readyPods = 0 then 0 else status
      let status := if readyPods > 0 ∧ readyPods < replicas then -10 else status
      status

/-- The manager's configuration. `conflictRetries` bounds how often client-go's
`retry.RetryOnConflict` repeats an update after the first attempt. -/
structure DRManager where
  componentToReplicaMap : ReplicaMap
  conflictRetries : Nat

def DRManager.isComponentUp (m : DRManager) (listing : PodListing)
    (labelName labelValue : String) : Bool :=
  getComponentStatus listing labelName labelValue
    (m.componentToReplicaMap.read labelValue) == 1

/-- The wait loops test for exactly the configured number of ready pods, not
for the presence of a ready pod. -/
theorem DRManager.isComponentUp_iff (m : DRManager) (listing : PodListing)
    (labelName labelValue : String) :
    m.isComponentUp listing labelName labelValue = true ↔
      ∃ pods, listing = .ok pods ∧ 0 < readyCount pods labelName labelValue ∧
        (readyCount pods labelName labelValue : Int) =
          m.componentToReplicaMap.read labelValue := by
  unfold DRManager.isComponentUp getComponentStatus
  cases listing with
  | error e => simp
  | ok pods =>
    simp only [beq_iff_eq, Except.ok.injEq, exists_eq_left']
    constructor
    · intro h
      split_ifs at h <;> omega
    · rintro ⟨hpos, heq⟩
      split_ifs <;> omega

end QubershipAirflow.SiteManager
