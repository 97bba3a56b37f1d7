import QubershipAirflow.Secrets.Backend

/-! Airflow's own databases: what the preinstall job and the backend ask DBaaS for. -/
namespace QubershipAirflow.Secrets

structure DatabaseParameters where
  dbOwner : String
  backupDisabled : String
  microserviceName : String
  namePrefix : Option String

def databaseClassifier (ns microserviceName : String) : List (String × Json) :=
  [("namespace", .str ns), ("scope", .str "service"),
    ("microserviceName", .str microserviceName), ("isServiceDb", .str "true")]

def DatabaseParameters.namePrefixField (parameters : DatabaseParameters) :
    List (String × Json) :=
  parameters.namePrefix.toList.map fun text => ("namePrefix", .str text)

/-- What `get_pg_database` and `get_redis_database` of the preinstall job send. -/
def createDatabaseRequest (dbaasHost ns type : String) (parameters : DatabaseParameters) :
    Request where
  method := .put
  address := dbaasHost ++ "/api/v3/dbaas/" ++ ns ++ "/databases"
  originNamespace := none
  data := .obj ([("backupDisabled", .str parameters.backupDisabled), ("type", .str type),
    ("dbOwner", .str parameters.dbOwner), ("originService", .str parameters.microserviceName),
    ("classifier", .obj (databaseClassifier ns parameters.microserviceName))] ++
      parameters.namePrefixField)

variable {Connection : Type}

def DatabaseParameters.lookupData (parameters : DatabaseParameters) (ns : String) :
    List (String × Json) :=
  [("originService", .str parameters.microserviceName),
    ("classifier", .obj (databaseClassifier ns parameters.microserviceName))]

def Backend.mainLookupRequest (backend : Backend Connection) (type : String)
    (parameters : DatabaseParameters) : Request where
  method := .post
  address := backend.settings.dbaasHost ++ "/api/v3/dbaas/" ++ backend.settings.ownNamespace ++
    "/databases/get-by-classifier/" ++ type
  originNamespace := none
  data := .obj (parameters.lookupData backend.settings.ownNamespace)

def Backend.mainCreateRequest (backend : Backend Connection) (type : String)
    (parameters : DatabaseParameters) : Request where
  method := .put
  address := backend.settings.dbaasHost ++ "/api/v3/dbaas/" ++ backend.settings.ownNamespace ++
    "/databases"
  originNamespace := none
  data := .obj (parameters.lookupData backend.settings.ownNamespace ++
    [("backupDisabled", .str parameters.backupDisabled), ("type", .str type),
      ("dbOwner", .str parameters.dbOwner)] ++ parameters.namePrefixField)

def Backend.mainDatabase (backend : Backend Connection) (type : String)
    (parameters : DatabaseParameters) : Except PyError Json :=
  if backend.settings.dbaasOperatorEnabled then backend.getMountedProperties type type
  else backend.requestProperties (backend.mainLookupRequest type parameters)
    (backend.mainCreateRequest type parameters)

def Backend.getPgDatabase (backend : Backend Connection) (parameters : DatabaseParameters) :
    Except PyError Json :=
  backend.mainDatabase "postgresql" parameters

def Backend.getRedisDatabase (backend : Backend Connection) (parameters : DatabaseParameters) :
    Except PyError Json :=
  backend.mainDatabase "redis" parameters

end QubershipAirflow.Secrets
