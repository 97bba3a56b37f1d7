import QubershipAirflow.Library.Helm

/-! What all templates read of a release: its names and its executors. -/
namespace QubershipAirflow.Chart

structure Release where
  name : String
  ns : String
  useStandardNaming : Bool
  fullnameOverride : String
  nameOverride : String
  executor : String

def chartName : String := "airflow"

def resourceName (text : String) : String := Helm.trimSuffix "-" (Helm.trunc 63 text)

def fullnameOf (chart fullnameOverride nameOverride releaseName : String) : String :=
  if fullnameOverride ≠ "" then resourceName fullnameOverride
  else
    let name := Helm.defaultText chart nameOverride
    if Helm.containsText name releaseName then resourceName releaseName
    else resourceName (releaseName ++ "-" ++ name)

def Release.fullname (release : Release) : String :=
  if !release.useStandardNaming then release.name
  else fullnameOf chartName release.fullnameOverride release.nameOverride release.name

/-- `contains part .Values.executor`; the text may list several executors. -/
def Release.hasExecutor (release : Release) (part : String) : Bool :=
  Helm.containsText part release.executor

end QubershipAirflow.Chart
