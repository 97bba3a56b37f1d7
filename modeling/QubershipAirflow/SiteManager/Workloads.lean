import Mathlib.Data.Int.Basic
import QubershipAirflow.Library.VersionedStore

/-! Deployments, StatefulSets and pods as the site manager sees them through the
Kubernetes API, and the replica map it is configured with. -/
namespace QubershipAirflow.SiteManager

open VersionedStore

/-- Go's error values carry a message; `nil` is `none`. -/
abbrev Error := String

abbrev Labels := List (String × String)

/-- A Go map read: an absent label reads as the empty string. -/
def Labels.read (labels : Labels) (key : String) : String :=
  (labels.lookup key).getD ""

/-- A label selector `k₁=v₁,k₂=v₂`. Unlike a map read, it never selects an
object that lacks the label. -/
abbrev Selector := List (String × String)

def Selector.selects (selector : Selector) (labels : Labels) : Bool :=
  selector.all fun requirement => labels.lookup requirement.1 == some requirement.2

def tierLabel : Selector := [("tier", "airflow")]

inductive Kind where
  | deployment
  | statefulSet
  deriving DecidableEq, Repr

/-- The fields of a workload that the site manager reads or writes. `manifest`
is the rest of the object, which an update carries back unread. -/
structure WorkloadBody where
  uid : String
  labels : Labels
  replicas : Int32
  manifest : String
  deriving DecidableEq, Repr

abbrev Workload := Object String WorkloadBody

def Workload.empty : Workload := ⟨"", 0, ⟨"", [], 0, ""⟩⟩

/-- `deployment.Labels["component"]` -/
def Workload.component (workload : Workload) : String :=
  workload.body.labels.read "component"

abbrev WorkloadStore := Store String WorkloadBody

def WorkloadStore.select (store : WorkloadStore) (selector : Selector) : List Workload :=
  store.list fun body => selector.selects body.labels

structure Cluster where
  deployments : WorkloadStore
  statefulSets : WorkloadStore

def Cluster.store (cluster : Cluster) : Kind → WorkloadStore
  | .deployment => cluster.deployments
  | .statefulSet => cluster.statefulSets

def Cluster.setStore (cluster : Cluster) (kind : Kind) (store : WorkloadStore) : Cluster :=
  match kind with
  | .deployment => { cluster with deployments := store }
  | .statefulSet => { cluster with statefulSets := store }

@[simp] theorem Cluster.store_setStore_self (cluster : Cluster) (kind : Kind)
    (store : WorkloadStore) : (cluster.setStore kind store).store kind = store := by
  cases kind <;> rfl

theorem Cluster.store_setStore_ne (cluster : Cluster) {kind other : Kind}
    (store : WorkloadStore) (h : other ≠ kind) :
    (cluster.setStore kind store).store other = cluster.store other := by
  cases kind <;> cases other <;> first | rfl | exact absurd rfl h

/-- What no writer changes about a workload. -/
structure Identity where
  uid : String
  labels : Labels
  deriving DecidableEq

def WorkloadBody.identity (body : WorkloadBody) : Identity := ⟨body.uid, body.labels⟩

abbrev Identities := Kind → List (String × Identity)

def Workload.entry (workload : Workload) : String × Identity :=
  (workload.name, workload.body.identity)

def Cluster.identities (cluster : Cluster) : Identities :=
  fun kind => (cluster.store kind).view WorkloadBody.identity

/-- The workloads that the `tier=airflow` listings return. -/
def tier (ids : Identities) (kind : Kind) : List (String × Identity) :=
  (ids kind).filter fun entry => tierLabel.selects entry.2.labels

def componentOf (entry : String × Identity) : String := entry.2.labels.read "component"

theorem select_entries (cluster : Cluster) (kind : Kind) (selector : Selector) :
    ((cluster.store kind).select selector).map Workload.entry =
      (cluster.identities kind).filter fun entry => selector.selects entry.2.labels :=
  Store.list_view (cluster.store kind) WorkloadBody.identity
    fun identity => selector.selects identity.labels

def Cluster.replicas (cluster : Cluster) (kind : Kind) (name : String) : Option Int32 :=
  ((cluster.store kind).get name).map fun workload => workload.body.replicas

/-- `componentToReplicaMap`, entries in some iteration order. A Go map has one
entry for a key. -/
structure ReplicaMap where
  entries : List (String × Int)
  keyed : (entries.map Prod.fst).Nodup

/-- A Go map read: a component without an entry reads as 0. -/
def ReplicaMap.read (replicaMap : ReplicaMap) (component : String) : Int :=
  (replicaMap.entries.lookup component).getD 0

def ReplicaMap.hasEntry (replicaMap : ReplicaMap) (component : String) : Prop :=
  (replicaMap.entries.lookup component).isSome

/-- Go's conversion `int32(n)`, which wraps. -/
def int32 (n : Int) : Int32 := Int32.ofInt n

inductive PodPhase where
  | pending
  | running
  | succeeded
  | failed
  | unknown
  deriving DecidableEq, Repr

structure PodCondition where
  type : String
  status : String
  deriving DecidableEq, Repr

structure Pod where
  name : String
  labels : Labels
  phase : PodPhase
  conditions : List PodCondition
  deriving DecidableEq, Repr

end QubershipAirflow.SiteManager
