import QubershipAirflow.SiteManager.ComponentStatus

/-! `ScaleDeployment` and `ScaleStatefulSet`: look the object up by a label, then
read and update it by name until the API server accepts or refuses for good. The
outcome is sent on a channel by the goroutine that runs the call. -/
namespace QubershipAirflow.SiteManager

open VersionedStore

/-- What the environment answers to one API call. `timeout` is the answer of a
poll that ran out of time, and `conflict` that of an update another writer
overtook. -/
inductive Reply where
  | ok
  | pods (pods : List Pod)
  | conflict
  | timeout
  | fault (err : Error)
  deriving DecidableEq

def Reply.failure : Reply → Option (Option Error)
  | .ok => some none
  | .fault err => some (some err)
  | _ => none

def getDeployment (deployments : WorkloadStore) (labelName labelValue : String)
    (failure : Option Error) : Except Error Workload :=
  match failure with
  | some err => .error err
  | none => .ok ((deployments.select [(labelName, labelValue)]).head?.getD Workload.empty)

/-- The error branch wraps a `nil` error when the list is empty, and the result
is the zero object without an error. -/
def getStatefulSet (statefulSets : WorkloadStore) (labelName labelValue : String)
    (failure : Option Error) : Except Error Workload :=
  let message := "Could not get statefulSet with label " ++ labelName ++ "=" ++ labelValue
  match failure with
  | some err => .error (message ++ ": " ++ err)
  | none =>
      match (statefulSets.select [(labelName, labelValue)]).head? with
      | some item => .ok (if item.body.uid ≠ "" then item else Workload.empty)
      | none => .ok Workload.empty

def getWorkload (cluster : Cluster) (kind : Kind) (labelName labelValue : String)
    (failure : Option Error) : Except Error Workload :=
  match kind with
  | .deployment => getDeployment cluster.deployments labelName labelValue failure
  | .statefulSet => getStatefulSet cluster.statefulSets labelName labelValue failure

/-- Where one scaling goroutine is. `name` is the looked-up object's name and
`retries` how many conflicts may still be retried. -/
inductive ScalePhase where
  | lookup
  | read (name : String) (retries : Nat)
  | write (name : String) (object : Workload) (retries : Nat)
  | send (err : Option Error)
  | sent
  | finished
  deriving DecidableEq

structure Scaler where
  kind : Kind
  component : String
  replicas : Int32
  phase : ScalePhase
  deriving DecidableEq

def Scaler.isFinished (scaler : Scaler) : Bool := scaler.phase = .finished

inductive Loop where
  | scale
  | wait
  deriving DecidableEq, Repr

/-- A call to the Kubernetes API, or a wait built from such calls, as it ended.
Three marks stand for what the goroutines do with the outcomes: `errLost` for a
successful listing whose assignment replaced a recorded error, `waitSkipped` for a
wait loop that passed over the StatefulSets because it read an error, and
`returnedOpen` for a return while the second channel is not closed. -/
inductive Event where
  | listed (kind : Kind) (items : List Workload)
  | listFailed (kind : Kind) (err : Error)
  | errLost (loop : Loop) (err : Error)
  | waitSkipped
  | returnedOpen
  | updated (kind : Kind) (name : String) (replicas : Int32)
  | scaleFailed (kind : Kind) (component : String) (err : Error)
  | polled (component : String) (listing : PodListing)
  | waitFailed (component : String) (err : Error)
  | workersListed (pods : List Pod)
  | workersListFailed (err : Error)
  | podDeleted (name : String)
  | podDeleteFailed (name : String) (err : Error)
  deriving DecidableEq

def Event.isChange : Event → Bool
  | .updated _ _ _ | .podDeleted _ => true
  | _ => false

/-- `errors.New("resource name may not be empty")` of client-go -/
def emptyName : Error := "resource name may not be empty"

def Workload.withReplicas (workload : Workload) (replicas : Int32) : Workload :=
  { workload with body := { workload.body with replicas := replicas } }

def Scaler.fail (scaler : Scaler) (err : Error) : Scaler × List Event :=
  ({ scaler with phase := .send (some err) }, [.scaleFailed scaler.kind scaler.component err])

/-- `retry.RetryOnConflict`: another attempt, or the last conflict's error. -/
def Scaler.retry (scaler : Scaler) (name : String) : Nat → Scaler × List Event
  | 0 => scaler.fail "the object has been modified; please apply your changes to the latest version"
  | retries + 1 => ({ scaler with phase := .read name retries }, [])

/-- A failed `Get` yields the zero object, whose update the client refuses for
its empty name; so does the `Get` of an empty name. -/
def Scaler.readObject (cluster : Cluster) (scaler : Scaler) (name : String)
    (failure : Option Error) : Workload :=
  let stored : Option Workload :=
    if name = "" ∨ failure.isSome then none else (cluster.store scaler.kind).get name
  Workload.withReplicas (stored.getD Workload.empty) scaler.replicas

def Scaler.writeObject (cluster : Cluster) (scaler : Scaler) (name : String) (object : Workload)
    (retries : Nat) (reply : Reply) : Option (Cluster × Scaler × List Event) :=
  if object.name = "" then some (cluster, scaler.fail emptyName)
  else
    match reply with
    | .ok =>
        match (cluster.store scaler.kind).update object with
        | .ok store =>
            some (cluster.setStore scaler.kind store, { scaler with phase := .send none },
              [.updated scaler.kind object.name object.body.replicas])
        | .error .notFound => some (cluster, scaler.fail "not found")
        | .error .conflict => some (cluster, scaler.retry name retries)
    | .conflict => some (cluster, scaler.retry name retries)
    | .fault err => some (cluster, scaler.fail err)
    | _ => none

/-- One API call of a scaling goroutine. The channel send and the wait group
are the business of the goroutine around it. -/
def Scaler.step (conflictRetries : Nat) (cluster : Cluster) (scaler : Scaler) (reply : Reply) :
    Option (Cluster × Scaler × List Event) :=
  match scaler.phase with
  | .lookup => reply.failure.map fun failure =>
      match getWorkload cluster scaler.kind "component" scaler.component failure with
      | .ok object => (cluster, { scaler with phase := .read object.name conflictRetries }, [])
      | .error err => (cluster, scaler.fail err)
  | .read name retries => reply.failure.map fun failure =>
      let object := scaler.readObject cluster name failure
      (cluster, { scaler with phase := .write name object retries }, [])
  | .write name object retries => scaler.writeObject cluster name object retries reply
  | .send _ | .sent | .finished => none

/-- The name of the object that `GetDeployment` or `GetStatefulSet` settles on,
empty when it finds none. -/
def lookupName (ids : Identities) (kind : Kind) (component : String) : String :=
  let matching := (ids kind).filter fun entry =>
    Selector.selects [("component", component)] entry.2.labels
  match matching.head? with
  | some entry => if kind = .statefulSet ∧ entry.2.uid = "" then "" else entry.1
  | none => ""

theorem getWorkload_name {cluster : Cluster} {kind : Kind} {component : String}
    {object : Workload} (h : getWorkload cluster kind "component" component none = .ok object) :
    object.name = lookupName cluster.identities kind component := by
  have hentries := select_entries cluster kind [("component", component)]
  simp only [lookupName]
  rw [← hentries, List.head?_map]
  cases kind with
  | deployment =>
    simp only [getWorkload, getDeployment, Except.ok.injEq] at h
    subst h
    cases hhead : (cluster.deployments.select [("component", component)]).head? with
    | none => simp [Cluster.store, hhead, Workload.empty]
    | some item => simp [Cluster.store, hhead, Workload.entry]
  | statefulSet =>
    simp only [getWorkload, getStatefulSet] at h
    cases hhead : (cluster.statefulSets.select [("component", component)]).head? with
    | none =>
      simp only [hhead, Except.ok.injEq] at h
      subst h
      simp [Cluster.store, hhead, Workload.empty]
    | some item =>
      simp only [hhead, Except.ok.injEq] at h
      subst h
      by_cases huid : item.body.uid = ""
      · simp [Cluster.store, hhead, Workload.entry, WorkloadBody.identity, huid, Workload.empty]
      · simp [Cluster.store, hhead, Workload.entry, WorkloadBody.identity, huid]

def Scaler.Sound (ids : Identities) (scaler : Scaler) : Prop :=
  match scaler.phase with
  | .read name _ => name = lookupName ids scaler.kind scaler.component
  | .write name object _ =>
      name = lookupName ids scaler.kind scaler.component ∧
        object.body.replicas = scaler.replicas ∧
        (object.name = "" ∨ object.name = name ∧ object.entry ∈ ids scaler.kind)
  | _ => True

def ScalePhase.isBusy : ScalePhase → Bool
  | .lookup | .read _ _ | .write _ _ _ => true
  | _ => false

inductive Scaler.Outcome (ids : Identities) (cluster : Cluster) (scaler : Scaler) :
    Cluster → Scaler → List Event → Prop where
  | onward {phase : ScalePhase} (busy : phase.isBusy = true)
      (sound : Scaler.Sound ids { scaler with phase := phase }) :
      Outcome ids cluster scaler cluster { scaler with phase := phase } []
  | accepted {next : Cluster} (kept : next.identities = ids)
      (named : lookupName ids scaler.kind scaler.component ≠ "")
      (written : next.replicas scaler.kind (lookupName ids scaler.kind scaler.component) =
        some scaler.replicas)
      (frame : ∀ kind name,
        ¬ (kind = scaler.kind ∧ name = lookupName ids scaler.kind scaler.component) →
        next.replicas kind name = cluster.replicas kind name) :
      Outcome ids cluster scaler next { scaler with phase := .send none }
        [.updated scaler.kind (lookupName ids scaler.kind scaler.component) scaler.replicas]
  | refused (err : Error) :
      Outcome ids cluster scaler cluster { scaler with phase := .send (some err) }
        [.scaleFailed scaler.kind scaler.component err]

theorem Scaler.fail_outcome (ids : Identities) (cluster : Cluster) (scaler : Scaler)
    (err : Error) :
    Scaler.Outcome ids cluster scaler cluster (scaler.fail err).1 (scaler.fail err).2 :=
  .refused err

theorem Scaler.retry_outcome {ids : Identities} (cluster : Cluster) {scaler : Scaler}
    {name : String} (hname : name = lookupName ids scaler.kind scaler.component)
    (retries : Nat) :
    Scaler.Outcome ids cluster scaler cluster (scaler.retry name retries).1
      (scaler.retry name retries).2 := by
  cases retries with
  | zero => exact Scaler.fail_outcome ids cluster scaler _
  | succ retries => exact .onward rfl hname

theorem Scaler.readObject_entry (cluster : Cluster) (scaler : Scaler) (name : String)
    (failure : Option Error) :
    (scaler.readObject cluster name failure).name = "" ∨
      (scaler.readObject cluster name failure).name = name ∧
        (scaler.readObject cluster name failure).entry ∈ cluster.identities scaler.kind := by
  unfold Scaler.readObject
  split
  · exact .inl rfl
  · cases hget : (cluster.store scaler.kind).get name with
    | none => exact .inl rfl
    | some stored =>
      have hstored := Store.mem_of_get hget
      have hentry : Workload.entry stored ∈ cluster.identities scaler.kind :=
        List.mem_map_of_mem hstored.1
      exact .inr ⟨hstored.2, hentry⟩

private theorem Scaler.outcome_of_eq {ids : Identities} {cluster next : Cluster}
    {scaler scaler' : Scaler} {result : Scaler × List Event} {events : List Event}
    (hresult : Scaler.Outcome ids cluster scaler cluster result.1 result.2)
    (h : some (cluster, result) = some (next, scaler', events)) :
    Scaler.Outcome ids cluster scaler next scaler' events := by
  obtain ⟨rfl, rfl⟩ := Prod.mk.inj (Option.some.inj h)
  exact hresult

theorem Scaler.update_outcome {ids : Identities} {cluster : Cluster} {scaler : Scaler}
    {object : Workload} {store : WorkloadStore} (hids : cluster.identities = ids)
    (hname : object.name = lookupName ids scaler.kind scaler.component)
    (hnamed : object.name ≠ "")
    (hreplicas : object.body.replicas = scaler.replicas)
    (hentry : object.entry ∈ ids scaler.kind)
    (hupdate : (cluster.store scaler.kind).update object = .ok store) :
    Scaler.Outcome ids cluster scaler (cluster.setStore scaler.kind store)
      { scaler with phase := .send none }
      [.updated scaler.kind object.name object.body.replicas] := by
  obtain ⟨stored, hget, -, rfl⟩ := Store.update_eq_ok hupdate
  rw [hname] at hnamed
  rw [hname, hreplicas]
  refine .accepted ?_ hnamed ?_ ?_
  · funext kind
    by_cases hkind : kind = scaler.kind
    · subst hkind
      rw [← hids]
      simp only [Cluster.identities, Cluster.store_setStore_self]
      refine Store.view_put _ fun other hother => ?_
      -- the held object carries the identity under which its name is stored
      rw [← hids] at hentry
      obtain ⟨kept, hkept, heq⟩ := List.mem_map.mp hentry
      simp only [Workload.entry, Prod.mk.injEq] at heq
      have hsame := Store.get_of_mem hkept
      rw [heq.1, hother] at hsame
      rw [Option.some.inj hsame, heq.2]
    · simp only [Cluster.identities, Cluster.store_setStore_ne cluster _ hkind]
      exact congrFun hids kind
  · simp [Cluster.replicas, ← hname, Store.get_put_self hget, hreplicas]
  · intro kind name hne
    by_cases hkind : kind = scaler.kind
    · have hother : name ≠ object.name := fun h => hne ⟨hkind, h.trans hname⟩
      subst hkind
      simp [Cluster.replicas, Store.get_put_ne hother]
    · simp [Cluster.replicas, Cluster.store_setStore_ne cluster _ hkind]

theorem Scaler.step_outcome {ids : Identities} {conflictRetries : Nat} {cluster next : Cluster}
    {scaler scaler' : Scaler} {reply : Reply} {events : List Event}
    (hids : cluster.identities = ids) (hsound : scaler.Sound ids)
    (h : scaler.step conflictRetries cluster reply = some (next, scaler', events)) :
    scaler.phase.isBusy = true ∧ Scaler.Outcome ids cluster scaler next scaler' events := by
  unfold Scaler.step at h
  unfold Scaler.Sound at hsound
  split at h
  case h_1 hphase =>
    refine ⟨by rw [hphase]; rfl, ?_⟩
    obtain ⟨failure, -, h⟩ := Option.map_eq_some_iff.mp h
    split at h
    · rename_i object hget
      cases failure with
      | none =>
        cases h
        exact .onward rfl (hids ▸ getWorkload_name hget)
      | some err =>
        cases hkind : scaler.kind <;>
          simp [getWorkload, getDeployment, getStatefulSet, hkind] at hget
    · cases h
      exact Scaler.fail_outcome ids _ scaler _
  case h_2 name retries hphase =>
    refine ⟨by rw [hphase]; rfl, ?_⟩
    rw [hphase] at hsound
    obtain ⟨failure, -, h⟩ := Option.map_eq_some_iff.mp h
    cases h
    exact .onward rfl ⟨hsound, rfl, hids ▸ scaler.readObject_entry cluster name failure⟩
  case h_3 name object retries hphase =>
    refine ⟨by rw [hphase]; rfl, ?_⟩
    rw [hphase] at hsound
    obtain ⟨hname, hreplicas, hentry⟩ := hsound
    unfold Scaler.writeObject at h
    split at h
    · cases h
      exact Scaler.fail_outcome ids _ scaler _
    · rename_i hnonempty
      obtain ⟨hobject, hentry⟩ := hentry.resolve_left hnonempty
      split at h
      · split at h
        · rename_i store hupdate
          cases h
          exact Scaler.update_outcome hids (hobject.trans hname) hnonempty hreplicas hentry hupdate
        · exact Scaler.outcome_of_eq (Scaler.fail_outcome ids _ scaler _) h
        · exact Scaler.outcome_of_eq (Scaler.retry_outcome _ hname retries) h
      · exact Scaler.outcome_of_eq (Scaler.retry_outcome _ hname retries) h
      · exact Scaler.outcome_of_eq (Scaler.fail_outcome ids _ scaler _) h
      · contradiction
  all_goals contradiction

end QubershipAirflow.SiteManager
