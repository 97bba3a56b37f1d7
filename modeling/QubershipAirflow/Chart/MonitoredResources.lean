import QubershipAirflow.Chart.Workloads

/-! Which of the resources that the status provisioner waits for are rendered. -/
namespace QubershipAirflow.Chart

open Helm

namespace WorkloadValues

/-- A set without a name of its own is rendered with the kind of `workers.celery`. -/
def WorkerRendered (values : WorkloadValues) : Prop :=
  values.hasExecutor "CeleryExecutor" = true ∧ ∃ set ∈ values.celery.workerSets,
    set.name = "default" ∧
      values.celery.setPersistence set = truthy values.celery.persistence

def SubchartNamed (values : WorkloadValues) (component : String) : Prop :=
  let name := values.fullname ++ "-" ++ component
  (subchartEnabled values.siteManager.enabled = true ∧
      values.siteManager.fullname values.toRelease = name) ∨
    subchartEnabled values.integrationTests.enabled = true ∧
      values.integrationTests.serviceName = name

structure RendersMonitored (values : WorkloadValues) : Prop where
  worker : values.executor ≠ "KubernetesExecutor" → truthy values.celery.replicas = true →
    values.WorkerRendered ∨
      truthy values.celery.persistence = false ∧ values.SubchartNamed "worker"
  scheduler : truthy values.scheduler.replicas = true →
    (truthy values.scheduler.enabled = true ∧
      (values.hasExecutor "Local" && truthy values.celery.persistence) = false) ∨
      values.SubchartNamed "scheduler"
  apiServer : truthy values.apiServer.replicas = true →
    truthy values.apiServer.enabled = true ∨ values.SubchartNamed "api-server"
  dagProcessor : truthy values.dagProcessor.replicas = true →
    truthy values.dagProcessor.enabled = true ∨ values.SubchartNamed "dag-processor"
  siteManager : truthy values.siteManager.enabled = true → values.SubchartNamed "site-manager"
  integrationTests : truthy values.integrationTests.enabled = true →
    values.SubchartNamed "integration-tests"

end WorkloadValues

section Rendered

variable {values : WorkloadValues} {kind : Kind} {component : String}

theorem kindOf_inj {persistence other : Bool} : kindOf persistence = kindOf other ↔
    persistence = other := by
  cases persistence <;> cases other <;> decide

theorem WorkerSet.component_head (set : WorkerSet) : set.component.toList.head? = some 'w' := by
  simp [WorkerSet.component]

theorem WorkerSet.component_eq_worker {set : WorkerSet} :
    set.component = "worker" ↔ set.name = "default" := by
  unfold WorkerSet.component
  by_cases h : set.name = "default"
  · simp [h]
  · rw [← String.toList_inj]
    simp [h]

theorem named_injective (values : WorkloadValues) : Function.Injective values.named := by
  intro first second h
  obtain ⟨hkind, hname⟩ := Workload.mk.inj h
  exact Prod.ext hkind (append_left_injective _ hname)

theorem mem_subchartDeployments_iff : values.named (kind, component) ∈ values.subchartDeployments ↔
    kind = .deployment ∧ values.SubchartNamed component := by
  simp only [WorkloadValues.subchartDeployments, WorkloadValues.SubchartNamed,
    WorkloadValues.named, List.mem_append, List.mem_ite_nil_right, List.mem_singleton,
    Workload.mk.injEq]
  grind

theorem mem_workloads_iff : values.named (kind, component) ∈ values.workloads ↔
    (kind, component) ∈ values.components ∨
      kind = .deployment ∧ values.SubchartNamed component := by
  rw [WorkloadValues.workloads, List.mem_append, mem_subchartDeployments_iff,
    List.mem_map_of_injective (named_injective values)]

theorem mem_workerComponents_iff : (kind, "worker") ∈ values.workerComponents ↔
    values.hasExecutor "CeleryExecutor" = true ∧ ∃ set ∈ values.celery.workerSets,
      set.name = "default" ∧ kindOf (values.celery.setPersistence set) = kind := by
  simp only [WorkloadValues.workerComponents, List.mem_ite_nil_right, List.mem_map,
    Prod.mk.injEq, WorkerSet.component_eq_worker]
  grind

theorem notMem_workerComponents (h : component.toList.head? ≠ some 'w') :
    (kind, component) ∉ values.workerComponents := by
  simp only [WorkloadValues.workerComponents, List.mem_ite_nil_right, List.mem_map,
    Prod.mk.injEq, not_and, not_exists]
  rintro - set - - hcomponent
  exact h (hcomponent ▸ set.component_head)

theorem worker_mem_components_iff :
    (kindOf (truthy values.celery.persistence), "worker") ∈ values.components ↔
      values.WorkerRendered := by
  simp [WorkloadValues.components, mem_workerComponents_iff, WorkloadValues.WorkerRendered,
    kindOf_inj]

theorem scheduler_mem_components_iff : (.deployment, "scheduler") ∈ values.components ↔
    truthy values.scheduler.enabled = true ∧
      (values.hasExecutor "Local" && truthy values.celery.persistence) = false := by
  have hworker : (Kind.deployment, "scheduler") ∉ values.workerComponents :=
    notMem_workerComponents (by decide)
  have hkind : Kind.deployment = values.schedulerKind ↔
      (values.hasExecutor "Local" && truthy values.celery.persistence) = false := by
    change kindOf false = kindOf _ ↔ _
    rw [kindOf_inj, eq_comm]
  simp [WorkloadValues.components, hworker, hkind]

theorem apiServer_mem_components_iff : (.deployment, "api-server") ∈ values.components ↔
    truthy values.apiServer.enabled = true := by
  have hworker : (Kind.deployment, "api-server") ∉ values.workerComponents :=
    notMem_workerComponents (by decide)
  simp [WorkloadValues.components, hworker]

theorem dagProcessor_mem_components_iff : (.deployment, "dag-processor") ∈ values.components ↔
    truthy values.dagProcessor.enabled = true := by
  have hworker : (Kind.deployment, "dag-processor") ∉ values.workerComponents :=
    notMem_workerComponents (by decide)
  simp [WorkloadValues.components, hworker]

theorem statsd_mem_components (h : truthy values.statsd = true) :
    (.deployment, "statsd") ∈ values.components := by
  simp [WorkloadValues.components, h]

theorem subcharts_notMem_components {name : String}
    (h : name ∈ ["site-manager", "integration-tests"]) :
    (.deployment, name) ∉ values.components := by
  simp only [List.mem_cons, List.not_mem_nil, or_false] at h
  have hworker : (Kind.deployment, name) ∉ values.workerComponents := by
    apply notMem_workerComponents
    rcases h with rfl | rfl <;> decide
  rcases h with rfl | rfl <;> simp [WorkloadValues.components, hworker]

end Rendered

section Monitored

variable {values : WorkloadValues} {kind : Kind} {component : String}

theorem forall_mem_ite {α : Type} {condition : Prop} [Decidable condition] {item : α}
    {P : α → Prop} : (∀ x ∈ if condition then [item] else [], P x) ↔ (condition → P item) := by
  split <;> simp [*]

theorem monitored_rendered_iff_each :
    (∀ workload ∈ values.monitoredResources, workload ∈ values.workloads) ↔
      (values.executor ≠ "KubernetesExecutor" → truthy values.celery.replicas = true →
        values.named (kindOf (truthy values.celery.persistence), "worker") ∈ values.workloads) ∧
      (truthy values.scheduler.replicas = true →
        values.named (.deployment, "scheduler") ∈ values.workloads) ∧
      (truthy values.apiServer.replicas = true →
        values.named (.deployment, "api-server") ∈ values.workloads) ∧
      (truthy values.dagProcessor.replicas = true →
        values.named (.deployment, "dag-processor") ∈ values.workloads) ∧
      (truthy values.siteManager.enabled = true →
        values.named (.deployment, "site-manager") ∈ values.workloads) ∧
      (truthy values.integrationTests.enabled = true →
        values.named (.deployment, "integration-tests") ∈ values.workloads) := by
  have hstatsd : truthy values.statsd = true →
      values.named (.deployment, "statsd") ∈ values.workloads := fun h =>
    mem_workloads_iff.mpr (.inl (statsd_mem_components h))
  simp only [WorkloadValues.monitoredResources, List.forall_mem_map]
  delta WorkloadValues.monitoredComponents
  simp only [List.forall_mem_append, forall_mem_ite]
  cases hpersistence : truthy values.celery.persistence <;>
    simp only [kindOf, if_true, Bool.false_eq_true, if_false, Bool.and_eq_true,
      decide_eq_true_eq, ne_eq, Bool.not_true, Bool.not_false] <;>
    grind

/-- Everything that the status provisioner waits for is rendered exactly where each
monitored component has a template that renders it under the same values. -/
theorem monitored_rendered_iff (values : WorkloadValues) :
    (∀ workload ∈ values.monitoredResources, workload ∈ values.workloads) ↔
      values.RendersMonitored := by
  have hkind : kindOf (truthy values.celery.persistence) = .deployment ↔
      truthy values.celery.persistence = false := by
    change _ = kindOf false ↔ _
    rw [kindOf_inj]
  have hsite : (Kind.deployment, "site-manager") ∉ values.components :=
    subcharts_notMem_components (by simp)
  have htests : (Kind.deployment, "integration-tests") ∉ values.components :=
    subcharts_notMem_components (by simp)
  rw [monitored_rendered_iff_each]
  simp only [mem_workloads_iff, worker_mem_components_iff, scheduler_mem_components_iff,
    apiServer_mem_components_iff, dagProcessor_mem_components_iff, hkind, hsite, htests,
    true_and, false_or]
  constructor
  · rintro ⟨hworker, hscheduler, hapi, hdag, hsm, hit⟩
    exact ⟨hworker, hscheduler, hapi, hdag, hsm, hit⟩
  · rintro ⟨hworker, hscheduler, hapi, hdag, hsm, hit⟩
    exact ⟨hworker, hscheduler, hapi, hdag, hsm, hit⟩

def workloadValues (executor : String) : WorkloadValues where
  name := "airflow"
  ns := "airflow"
  useStandardNaming := false
  fullnameOverride := ""
  nameOverride := ""
  executor := executor
  celery :=
    { replicas := .int 1, persistence := .bool false, enableDefault := .bool true, sets := [] }
  scheduler := { enabled := .bool true, replicas := .int 1 }
  apiServer := { enabled := .bool true, replicas := .int 1 }
  dagProcessor := { enabled := .bool true, replicas := .int 1 }
  statsd := .bool true
  triggerer := .bool false
  triggererPersistence := .bool true
  flower := .bool false
  redis := .bool false
  pgbouncer := .bool false
  otelCollector := { tracesEnabled := .bool false, metricsEnabled := .bool false }
  siteManager :=
    { enabled := .bool false, fullnameOverride := "airflow-site-manager", nameOverride := "" }
  integrationTests := { enabled := .bool false, serviceName := "airflow-integration-tests" }

example : (workloadValues "KubernetesExecutor").monitoredText =
    "Deployment airflow-scheduler, Deployment airflow-api-server, " ++
      "Deployment airflow-dag-processor, Deployment airflow-statsd, " := by decide

theorem local_worker_not_rendered :
    ¬ ∀ workload ∈ (workloadValues "LocalExecutor").monitoredResources,
      workload ∈ (workloadValues "LocalExecutor").workloads := by
  decide

end Monitored

end QubershipAirflow.Chart
