import QubershipAirflow.SiteManager.ChangeMode

/-! Histories of `ChangeMode` calls on one cluster. A call starts when every
earlier one has returned, but goroutines that an earlier call left behind go on
running, and other writers may touch the workloads. What no writer changes are
the identities: which objects exist, and their labels. -/
namespace QubershipAirflow.SiteManager

structure System where
  cluster : Cluster
  calls : List Call

def System.initial (cluster : Cluster) : System := ⟨cluster, []⟩

inductive Move where
  | start (mode : Mode)
  | act (k : Nat) (act : Act)
  | other (cluster : Cluster)

def System.step (m : DRManager) (system : System) : Move → Option System
  | .start mode =>
      if system.calls.all Call.hasReturned then
        some { system with calls := system.calls ++ [Call.start mode] }
      else none
  | .act k act =>
      match system.calls[k]? with
      | none => none
      | some call => (call.step m system.cluster act).map fun (cluster, call) =>
          { cluster := cluster, calls := system.calls.set k call }
  | .other cluster =>
      if cluster.identities .deployment = system.cluster.identities .deployment ∧
          cluster.identities .statefulSet = system.cluster.identities .statefulSet then
        some { system with cluster := cluster }
      else none

end QubershipAirflow.SiteManager
