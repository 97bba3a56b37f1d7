import QubershipAirflow.Chart.Release

/-! The Deployments and StatefulSets of the chart, and those that the status provisioner
waits for. A switch is any value of which the templates ask whether it is empty. -/
namespace QubershipAirflow.Chart

open Helm

inductive Kind where
  | deployment
  | statefulSet
  deriving DecidableEq

def Kind.text : Kind → String
  | deployment => "Deployment"
  | statefulSet => "StatefulSet"

structure Workload where
  kind : Kind
  name : String
  deriving DecidableEq

structure Component where
  enabled : Json
  replicas : Json

/-- An entry of `workers.celery.sets`, with its `persistence.enabled` if it has one:
`workersMergeValues` keeps what a set leaves out. -/
structure WorkerSet where
  name : String
  persistence : Option Json

/-- `workers.celery` -/
structure Celery where
  replicas : Json
  persistence : Json
  enableDefault : Json
  sets : List WorkerSet

structure SiteManagerValues where
  enabled : Json
  fullnameOverride : String
  nameOverride : String

structure IntegrationTestsValues where
  enabled : Json
  serviceName : String

structure OtelCollector where
  tracesEnabled : Json
  metricsEnabled : Json

structure WorkloadValues extends Release where
  celery : Celery
  scheduler : Component
  apiServer : Component
  dagProcessor : Component
  statsd : Json
  triggerer : Json
  triggererPersistence : Json
  flower : Json
  redis : Json
  pgbouncer : Json
  otelCollector : OtelCollector
  siteManager : SiteManagerValues
  integrationTests : IntegrationTestsValues

def kindOf (persistence : Bool) : Kind := if persistence then .statefulSet else .deployment

def Celery.workerSets (celery : Celery) : List WorkerSet :=
  (if truthy celery.enableDefault then [⟨"default", none⟩] else []) ++ celery.sets

def Celery.setPersistence (celery : Celery) (set : WorkerSet) : Bool :=
  truthy (set.persistence.getD celery.persistence)

def WorkerSet.component (set : WorkerSet) : String :=
  "worker" ++ if set.name ≠ "default" then "-" ++ set.name else ""

/-- The condition of a dependency: only a boolean can disable it. -/
def subchartEnabled : Json → Bool
  | .bool enabled => enabled
  | _ => true

def SiteManagerValues.fullname (siteManager : SiteManagerValues) (release : Release) : String :=
  fullnameOf "airflow-site-manager" siteManager.fullnameOverride siteManager.nameOverride
    release.name

namespace WorkloadValues

variable (values : WorkloadValues)

def schedulerKind : Kind :=
  kindOf (values.hasExecutor "Local" && truthy values.celery.persistence)

def workerComponents : List (Kind × String) :=
  if values.hasExecutor "CeleryExecutor" then
    values.celery.workerSets.map fun set =>
      (kindOf (values.celery.setPersistence set), set.component)
  else []

/-- The chart's own workloads; their names are these texts after the full name. -/
def components : List (Kind × String) :=
  values.workerComponents ++
  (if truthy values.scheduler.enabled then [(values.schedulerKind, "scheduler")] else []) ++
  (if truthy values.apiServer.enabled then [(.deployment, "api-server")] else []) ++
  (if truthy values.dagProcessor.enabled then [(.deployment, "dag-processor")] else []) ++
  (if truthy values.statsd then [(.deployment, "statsd")] else []) ++
  (if truthy values.triggerer then
    [(kindOf (truthy values.triggererPersistence), "triggerer")] else []) ++
  (if truthy values.flower && values.hasExecutor "CeleryExecutor" then
    [(.deployment, "flower")] else []) ++
  (if truthy values.redis && values.hasExecutor "CeleryExecutor" then
    [(.statefulSet, "redis")] else []) ++
  (if truthy values.pgbouncer then [(.deployment, "pgbouncer")] else []) ++
  (if truthy values.otelCollector.tracesEnabled || truthy values.otelCollector.metricsEnabled then
    [(.deployment, "otel-collector")] else [])

def named (component : Kind × String) : Workload :=
  ⟨component.1, values.fullname ++ "-" ++ component.2⟩

def subchartDeployments : List Workload :=
  (if subchartEnabled values.siteManager.enabled then
    [⟨.deployment, values.siteManager.fullname values.toRelease⟩] else []) ++
  (if subchartEnabled values.integrationTests.enabled then
    [⟨.deployment, values.integrationTests.serviceName⟩] else [])

def workloads : List Workload :=
  values.components.map values.named ++ values.subchartDeployments

/-- The conditions of `airflow.monitoredResources`, in its order. -/
def monitoredComponents : List (Kind × String) :=
  let worker := values.executor ≠ "KubernetesExecutor" && truthy values.celery.replicas
  let persistence := truthy values.celery.persistence
  (if worker && !persistence then [(.deployment, "worker")] else []) ++
  (if worker && persistence then [(.statefulSet, "worker")] else []) ++
  (if truthy values.scheduler.replicas then [(.deployment, "scheduler")] else []) ++
  (if truthy values.apiServer.replicas then [(.deployment, "api-server")] else []) ++
  (if truthy values.dagProcessor.replicas then [(.deployment, "dag-processor")] else []) ++
  (if truthy values.statsd && truthy values.scheduler.replicas &&
      truthy values.apiServer.replicas then [(.deployment, "statsd")] else []) ++
  (if truthy values.siteManager.enabled then [(.deployment, "site-manager")] else []) ++
  (if truthy values.integrationTests.enabled then
    [(.deployment, "integration-tests")] else [])

def monitoredResources : List Workload := values.monitoredComponents.map values.named

def monitoredText : String :=
  String.join (values.monitoredResources.map fun workload =>
    workload.kind.text ++ " " ++ workload.name ++ ", ")

end WorkloadValues

end QubershipAirflow.Chart
