import QubershipAirflow.SiteManager.ChangeMode
import QubershipAirflow.SiteManager.Health

/-! What the report `up` says about the cluster: which components it speaks of,
and when their pods are as the replica map asks. -/
namespace QubershipAirflow.SiteManager

open VersionedStore

section Components

variable (m : DRManager) (seen : Observation)

/-- The API server gives every object a UID; only Go's zero object has none. -/
def Identified (deployments : WorkloadStore) : Prop :=
  ∀ deployment ∈ deployments.objects, deployment.body.uid ≠ ""

def Installed (workloads : WorkloadStore) (component : String) : Prop :=
  ∃ workload ∈ workloads.objects, workload.body.labels.lookup "component" = some component

def Observation.findsDeployment (component : String) : Prop :=
  seen.deploymentFailure component = none ∧ Installed seen.deployments component

def Observation.asConfigured (component : String) (replicas : Int) : Prop :=
  0 < replicas ∧ ∃ pods, seen.pods component = .ok pods ∧
    (readyCount pods "component" component : Int) = replicas

theorem Observation.reading_up_iff (entry : String × Int) :
    seen.reading entry = .up ↔ seen.asConfigured entry.1 entry.2 := by
  unfold Observation.reading Observation.asConfigured
  cases seen.pods entry.1 with
  | error err => simp
  | ok pods =>
    simp only [Except.ok.injEq, exists_eq_left']
    split_ifs <;> simp <;> omega

theorem mem_select_component {workloads : WorkloadStore} {component : String}
    {workload : Workload} :
    workload ∈ workloads.select [("component", component)] ↔
      workload ∈ workloads.objects ∧
        workload.body.labels.lookup "component" = some component := by
  simp [WorkloadStore.select, Store.list, Selector.selects]

variable {seen}

theorem Observation.isComponentDeployed_iff (hids : Identified seen.deployments)
    (component : String) :
    seen.isComponentDeployed component = true ↔ seen.findsDeployment component := by
  unfold Observation.isComponentDeployed getDeployment Observation.findsDeployment Installed
  cases seen.deploymentFailure component with
  | some err => simp
  | none =>
    simp only [← mem_select_component, true_and]
    cases hfound : seen.deployments.select [("component", component)] with
    | nil => simp [Workload.empty]
    | cons deployment rest =>
      have hmem : deployment ∈ seen.deployments.select [("component", component)] := by
        simp [hfound]
      have huid := hids deployment (mem_select_component.mp hmem).1
      simp [huid]

theorem DRManager.isImpaired_iff_reading (seen : Observation) (component : String) :
    m.isImpaired seen component = true ↔
      seen.isComponentDeployed component = true ∧
        seen.reading (component, m.componentToReplicaMap.read component) ≠ .up := by
  unfold DRManager.isImpaired
  rw [seen.getComponentStatus_eq (component, m.componentToReplicaMap.read component)]
  cases seen.reading (component, m.componentToReplicaMap.read component) <;>
    simp [Reading.code]

theorem DRManager.isImpaired_iff (hids : Identified seen.deployments) (component : String) :
    m.isImpaired seen component = true ↔
      seen.findsDeployment component ∧
        ¬ seen.asConfigured component (m.componentToReplicaMap.read component) := by
  rw [m.isImpaired_iff_reading, Observation.isComponentDeployed_iff hids, Ne,
    seen.reading_up_iff]

end Components

section Up

variable (m : DRManager) {seen : Observation} {order : List (String × Int)}

theorem settle_eq_none_iff {readings : List Reading} {unknowns : Nat} :
    settle readings unknowns = none ↔ unknowns = 0 ∧ ∀ reading ∈ readings, reading = .up := by
  induction readings generalizing unknowns with
  | nil => simp [settle]
  | cons reading rest ih =>
    cases reading with
    | up => simpa [settle] using ih
    | down => simp [settle]
    | degraded => simp [settle]
    | unknown =>
      simp only [settle, List.forall_mem_cons, reduceCtorEq, false_and, and_false, iff_false]
      split_ifs
      · simp
      · simp [ih]

theorem settle_ne_up (readings : List Reading) (unknowns : Nat) :
    settle readings unknowns ≠ some .up := by
  induction readings generalizing unknowns with
  | nil =>
    rw [settle]
    split_ifs <;> simp
  | cons reading rest ih =>
    cases reading with
    | up => exact ih unknowns
    | down => simp [settle]
    | degraded => simp [settle]
    | unknown =>
      rw [settle]
      split_ifs
      · simp
      · exact ih (unknowns + 1)

theorem DRManager.getAirflowStatus_eq_up :
    m.getAirflowStatus seen order = .up ↔
      settle (seen.readings order) 0 = none ∧
        ¬ (m.isImpaired seen "flower" ∨ m.isImpaired seen "statsd") := by
  rw [m.getAirflowStatus_eq]
  cases hsettle : settle (seen.readings order) 0 with
  | none => simp
  | some health =>
    have hne : health ≠ .up := fun h => settle_ne_up _ _ (h ▸ hsettle)
    simp [hne]

/-- Every component that the report speaks of is as configured. `installed` says
which Deployments it takes to exist. -/
structure Observation.Healthy (seen : Observation) (replicaMap : ReplicaMap)
    (installed : String → Prop) : Prop where
  mandatory : ∀ entry ∈ replicaMap.entries, entry.1 ≠ "flower" → entry.1 ≠ "statsd" →
    (entry.1 = "worker" → installed "worker") → seen.asConfigured entry.1 entry.2
  optional : ∀ component, component = "flower" ∨ component = "statsd" →
    installed component → seen.asConfigured component (replicaMap.read component)

theorem getAirflowStatus_up_iff (hids : Identified seen.deployments)
    (horder : order.Perm m.componentToReplicaMap.entries) :
    m.getAirflowStatus seen order = .up ↔
      seen.Healthy m.componentToReplicaMap seen.findsDeployment := by
  have hloop : settle (seen.readings order) 0 = none ↔
      ∀ entry ∈ m.componentToReplicaMap.entries, entry.1 ≠ "flower" → entry.1 ≠ "statsd" →
        (entry.1 = "worker" → seen.findsDeployment "worker") →
          seen.asConfigured entry.1 entry.2 := by
    simp only [settle_eq_none_iff, Observation.readings, List.forall_mem_map, List.mem_filter,
      seen.considers_iff, seen.reading_up_iff, ← Observation.isComponentDeployed_iff hids,
      horder.mem_iff]
    grind
  have hoptional : ¬ (m.isImpaired seen "flower" ∨ m.isImpaired seen "statsd") ↔
      ∀ component, component = "flower" ∨ component = "statsd" →
        seen.findsDeployment component →
          seen.asConfigured component (m.componentToReplicaMap.read component) := by
    simp only [m.isImpaired_iff hids]
    grind
  rw [m.getAirflowStatus_eq_up, hloop, hoptional]
  exact ⟨fun h => ⟨h.1, h.2⟩, fun h => ⟨h.mandatory, h.optional⟩⟩

def flowerMap : DRManager := ⟨⟨[("flower", 1), ("scheduler", 1)], by decide⟩, 0⟩

def idleFlower (failure : Option Error) : Observation where
  deployments := ⟨[⟨"flower", 1, ⟨"6a1f", [("component", "flower")], 1, ""⟩⟩], by simp⟩
  deploymentFailure := fun _ => failure
  pods := fun _ => .ok [⟨"scheduler-0", [("component", "scheduler")], .running,
    [⟨"Ready", "True"⟩]⟩]

theorem idleFlower_identified (failure : Option Error) :
    Identified (idleFlower failure).deployments := by
  simp [Identified, idleFlower]

theorem getAirflowStatus_up_iff_idle_flower :
    flowerMap.getAirflowStatus (idleFlower none) flowerMap.componentToReplicaMap.entries = .up ↔
      (idleFlower none).Healthy flowerMap.componentToReplicaMap
        (idleFlower none).findsDeployment :=
  getAirflowStatus_up_iff flowerMap (idleFlower_identified none) (.refl _)

/-- A Flower whose look-up fails is taken not to be installed. -/
theorem getAirflowStatus_up_unlisted_flower :
    ¬ ∀ (m : DRManager) (seen : Observation) (order : List (String × Int)),
      Identified seen.deployments → order.Perm m.componentToReplicaMap.entries →
      (m.getAirflowStatus seen order = .up ↔
        seen.Healthy m.componentToReplicaMap (Installed seen.deployments)) := by
  intro h
  have hup : flowerMap.getAirflowStatus (idleFlower (some "timeout"))
      flowerMap.componentToReplicaMap.entries = .up := by
    decide
  have hhealthy := (h _ _ _ (idleFlower_identified _) (.refl _)).mp hup
  obtain ⟨-, pods, hpods, hcount⟩ := hhealthy.optional "flower" (.inl rfl)
    (by simp [Installed, idleFlower])
  cases hpods
  exact absurd hcount (by decide)

end Up

section Workers

variable (m : DRManager) {seen : Observation} {order : List (String × Int)}

/-- No pod of the Celery workers is ready. The pods of the KubernetesExecutor carry
their label and one more. -/
def Observation.CeleryIdle (seen : Observation) : Prop :=
  ∀ pods, seen.pods "worker" = .ok pods → ∀ pod ∈ runningPods pods [("component", "worker")],
    workerSelector.selects pod.labels = false → isReady pod = false

/-- The ready pods of the KubernetesExecutor are as many as the configured workers. -/
def Observation.executorsMatch (seen : Observation) (replicas : Int) : Prop :=
  0 < replicas ∧ ∃ pods, seen.pods "worker" = .ok pods ∧
    ((runningPods pods workerSelector).countP isReady : Int) = replicas

theorem Observation.CeleryIdle.asConfigured_iff (hidle : seen.CeleryIdle) (replicas : Int) :
    seen.asConfigured "worker" replicas ↔ seen.executorsMatch replicas := by
  have hcount : ∀ pods, seen.pods "worker" = .ok pods →
      readyCount pods "component" "worker" = (runningPods pods workerSelector).countP isReady := by
    intro pods hpods
    have hpod := hidle pods hpods
    simp only [readyCount, runningPods, List.countP_filter, List.mem_filter] at hpod ⊢
    refine List.countP_congr fun pod hmem => ?_
    simp only [Selector.selects, workerSelector, List.all_cons, List.all_nil] at hpod ⊢
    grind
  unfold Observation.asConfigured Observation.executorsMatch
  grind

/-- A component other than the workers keeps the report from being `up`. -/
def DRManager.HeldBack (m : DRManager) (seen : Observation) : Prop :=
  (∃ entry ∈ m.componentToReplicaMap.entries, entry.1 ≠ "flower" ∧ entry.1 ≠ "statsd" ∧
    entry.1 ≠ "worker" ∧ ¬ seen.asConfigured entry.1 entry.2) ∨
  ∃ component, (component = "flower" ∨ component = "statsd") ∧
    seen.findsDeployment component ∧
    ¬ seen.asConfigured component (m.componentToReplicaMap.read component)

theorem getAirflowStatus_idle_workers_iff (hids : Identified seen.deployments)
    (horder : order.Perm m.componentToReplicaMap.entries) {replicas : Int}
    (hworker : ("worker", replicas) ∈ m.componentToReplicaMap.entries)
    (hidle : seen.CeleryIdle) :
    m.getAirflowStatus seen order ≠ .up ↔
      seen.findsDeployment "worker" ∧ ¬ seen.executorsMatch replicas ∨ m.HeldBack seen := by
  rw [Ne, getAirflowStatus_up_iff m hids horder, ← hidle.asConfigured_iff]
  constructor
  · intro hhealthy
    by_contra hnone
    rw [not_or] at hnone
    refine hhealthy ⟨fun entry hentry hflower hstatsd hdeployed => ?_, fun component hoptional
      hdeployed => ?_⟩
    · by_cases hname : entry.1 = "worker"
      · have hsame : entry = ("worker", replicas) :=
          List.inj_on_of_nodup_map m.componentToReplicaMap.keyed hentry hworker hname
        subst hsame
        by_contra hconfigured
        exact hnone.1 ⟨hdeployed rfl, hconfigured⟩
      · by_contra hconfigured
        exact hnone.2 (.inl ⟨entry, hentry, hflower, hstatsd, hname, hconfigured⟩)
    · by_contra hconfigured
      exact hnone.2 (.inr ⟨component, hoptional, hdeployed, hconfigured⟩)
  · rintro (⟨hdeployed, hconfigured⟩ | ⟨entry, hentry, hflower, hstatsd, hname, hconfigured⟩ |
      ⟨component, hoptional, hdeployed, hconfigured⟩) hhealthy
    · exact hconfigured (hhealthy.mandatory _ hworker (by simp) (by simp) fun _ => hdeployed)
    · exact hconfigured (hhealthy.mandatory entry hentry hflower hstatsd fun h => absurd h hname)
    · exact hconfigured (hhealthy.optional component hoptional hdeployed)

def celeryMap : DRManager := ⟨⟨[("scheduler", 1), ("worker", 1)], by decide⟩, 0⟩

def schedulerAlone : Observation where
  deployments := ⟨[], List.nodup_nil⟩
  deploymentFailure := fun _ => none
  pods := fun _ => .ok [⟨"scheduler-0", [("component", "scheduler")], .running,
    [⟨"Ready", "True"⟩]⟩]

theorem schedulerAlone_idle : schedulerAlone.CeleryIdle := by
  intro pods hpods
  cases hpods
  decide

theorem getAirflowStatus_idle_workers_alone :
    celeryMap.getAirflowStatus schedulerAlone celeryMap.componentToReplicaMap.entries ≠ .up ↔
      schedulerAlone.findsDeployment "worker" ∧ ¬ schedulerAlone.executorsMatch 1 ∨
        celeryMap.HeldBack schedulerAlone :=
  getAirflowStatus_idle_workers_iff celeryMap (by simp [Identified, schedulerAlone]) (.refl _)
    (by simp [celeryMap]) schedulerAlone_idle

/-- Workers with persistence are a StatefulSet, which the report does not look for. -/
theorem getAirflowStatus_up_without_workers :
    ¬ ∀ (m : DRManager) (seen : Observation) (statefulSets : WorkloadStore)
        (order : List (String × Int)),
      Identified seen.deployments → order.Perm m.componentToReplicaMap.entries →
      m.componentToReplicaMap.hasEntry "worker" →
      (Installed seen.deployments "worker" ∨ Installed statefulSets "worker") →
      seen.CeleryIdle → m.getAirflowStatus seen order ≠ .up := by
  intro h
  refine h celeryMap schedulerAlone
    ⟨[⟨"worker", 1, ⟨"83c0", [("component", "worker")], 1, ""⟩⟩], by simp⟩
    celeryMap.componentToReplicaMap.entries (by simp [Identified, schedulerAlone]) (.refl _)
    (by simp [ReplicaMap.hasEntry, celeryMap, List.lookup_cons]) (.inr (by simp [Installed]))
    schedulerAlone_idle (by decide)

end Workers

end QubershipAirflow.SiteManager
