import QubershipAirflow.Chart.Release

/-! The resources of the dbaas-operator that the chart renders, and the Secrets that its
default volumes need. -/
namespace QubershipAirflow.Chart

open Helm

/-- `dbaasDeclarative.postgresql` or `dbaasDeclarative.redis`; an empty namespace is the
release's own. -/
structure MainDatabase where
  microserviceName : String
  ns : String
  namePrefix : String
  secretName : String

/-- An entry of `qs_secrets_backend_params`; a missing key is null. The schema requires
the classifier map of a `*_dbaas` entry, and no other entry is rendered. -/
structure ConnectionParams where
  type : Json
  classifier : Fields
  namePrefix : Json
  settings : Json
  originService : Json

structure DeclarativeValues extends Release where
  enabled : Bool
  /-- With its template evaluated. -/
  operatorNamespace : String
  existingConnections : List String
  serviceName : String
  postgresql : MainDatabase
  redis : MainDatabase
  params : List (String × ConnectionParams)
  paramsKeyed : (params.map Prod.fst).Nodup

/-- An `InternalDatabase`, unless it exists, and its `DatabaseSecretClaim`. -/
structure Database where
  name : String
  operatorNamespace : String
  classifier : Fields
  type : String
  namePrefix : Json
  settings : Json
  existing : Bool
  serviceLabel : Json
  secretName : String

def ownKeys : List String := ["microserviceName", "scope", "namespace", "tenantId", "customKeys"]

/-- The condition and the `set` of an optional key. -/
def setPresent (fields : Fields) (key : String) (value : Json) : Fields :=
  if truthy value then setKey fields key value else fields

def renderClassifier (ns : String) (c : Fields) : Fields :=
  let classifier := [("microserviceName", field c "microserviceName"),
    ("scope", default (.str "service") (field c "scope")),
    ("namespace", default (.str ns) (field c "namespace"))]
  let classifier := setPresent classifier "tenantId" (field c "tenantId")
  let classifier := setPresent classifier "customKeys" (field c "customKeys")
  setPresent classifier "extraKeys" (.obj (omitKeys c ownKeys))

structure DatabaseArguments where
  name : String
  type : String
  classifier : Fields
  namePrefix : Json
  settings : Json
  existing : Bool
  serviceName : Json
  secretName : String

def DeclarativeValues.database (values : DeclarativeValues) (arguments : DatabaseArguments) :
    Database where
  name := arguments.name
  operatorNamespace := values.operatorNamespace
  classifier := renderClassifier values.ns arguments.classifier
  type := arguments.type
  namePrefix := arguments.namePrefix
  settings := arguments.settings
  existing := arguments.existing
  serviceLabel :=
    if arguments.existing then default (.str values.serviceName) arguments.serviceName
    else field arguments.classifier "microserviceName"
  secretName := arguments.secretName

def DeclarativeValues.pgSecretName (values : DeclarativeValues) : String :=
  defaultText (values.fullname ++ "-dbaas-postgresql") values.postgresql.secretName

def DeclarativeValues.redisSecretName (values : DeclarativeValues) : String :=
  defaultText (values.fullname ++ "-dbaas-redis") values.redis.secretName

def MainDatabase.classifier (database : MainDatabase) : Fields :=
  let classifier := [("microserviceName", .str database.microserviceName),
    ("scope", .str "service"), ("isServiceDb", .str "true")]
  setPresent classifier "namespace" (.str database.ns)

def DeclarativeValues.pgDatabase (values : DeclarativeValues) : Database :=
  values.database
    { name := values.fullname ++ "-postgresql"
      type := "postgresql"
      classifier := values.postgresql.classifier
      namePrefix := .str values.postgresql.namePrefix
      settings := .null
      existing := "postgresql" ∈ values.existingConnections
      serviceName := .null
      secretName := values.pgSecretName }

def DeclarativeValues.redisDatabase (values : DeclarativeValues) : Database :=
  values.database
    { name := values.fullname ++ "-redis"
      type := "redis"
      classifier := values.redis.classifier
      namePrefix := .str values.redis.namePrefix
      settings := .null
      existing := "redis" ∈ values.existingConnections
      serviceName := .null
      secretName := values.redisSecretName }

def connectionId (key : String) : String := trimSuffix "_dbaas" key

/-- `lower` is Go's mapping of a text to lower case. -/
def connectionName (lower : String → String) (key : String) : String :=
  replaceChar '_' '-' (lower (connectionId key))

def isConnection (entry : String × ConnectionParams) : Bool :=
  hasSuffix "_dbaas" entry.1 && entry.2.type.isText "postgresql"

def DeclarativeValues.connectionSecretName (values : DeclarativeValues)
    (lower : String → String) (key : String) : String :=
  values.fullname ++ "-dbaas-" ++ connectionName lower key

def DeclarativeValues.connectionDatabase (values : DeclarativeValues)
    (lower : String → String) (entry : String × ConnectionParams) : Database :=
  values.database
    { name := values.fullname ++ "-" ++ connectionName lower entry.1
      type := "postgresql"
      classifier := entry.2.classifier
      namePrefix := entry.2.namePrefix
      settings := entry.2.settings
      existing := connectionId entry.1 ∈ values.existingConnections
      serviceName := entry.2.originService
      secretName := values.connectionSecretName lower entry.1 }

/-- The entries of `qs_secrets_backend_params` that are rendered. -/
def DeclarativeValues.connections (values : DeclarativeValues) :
    List (String × ConnectionParams) :=
  values.params.filter isConnection

def DeclarativeValues.databases (values : DeclarativeValues) (lower : String → String) :
    List Database :=
  if values.enabled then
    values.pgDatabase ::
      (if values.hasExecutor "CeleryExecutor" then [values.redisDatabase] else []) ++
        values.connections.map (values.connectionDatabase lower)
  else []

def DeclarativeValues.internalDatabases (values : DeclarativeValues)
    (lower : String → String) : List Database :=
  (values.databases lower).filter fun database => !database.existing

def DeclarativeValues.databaseSecretClaims (values : DeclarativeValues)
    (lower : String → String) : List Database :=
  values.databases lower

/-- The Secrets of the default volumes `dbaas-declarative-postgresql` and
`dbaas-declarative-redis`. -/
def DeclarativeValues.volumeSecrets (values : DeclarativeValues) : List String :=
  if values.enabled then [values.pgSecretName, values.redisSecretName]
  else ["dbaas-connection-params-main", "dbaas-connection-params-main"]

end QubershipAirflow.Chart
