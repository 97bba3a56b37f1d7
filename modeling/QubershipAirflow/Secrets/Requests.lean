import QubershipAirflow.Library.Transcripts
import QubershipAirflow.Secrets.MainDatabases

/-! The requests of the secrets backend as they leave the pod: with the token or the
password of the service they are for. The services and the token files may answer
anything, also something else each time. -/
namespace QubershipAirflow.Secrets

open Programs

inductive TargetService where
  | dbaas
  | maas
  deriving DecidableEq

/-- What is read from the files or the environment for one service. A setting that is
not there stands for the default `True`. -/
structure Credentials where
  user : Option String
  password : Option String
  m2mEnabled : Option String

def negativeValues : List String := ["false", "False", "no", "No"]

/-- `False if setting in negative_values else setting`, where it is tested. -/
def enabled : Option String → Bool
  | none => true
  | some setting => setting ∉ negativeValues ∧ setting ≠ ""

/-- The same, where it is passed on. -/
def apiVerify : Option String → Json
  | none => .bool true
  | some setting => if setting ∈ negativeValues then .bool false else .str setting

structure Authentication where
  credentials : TargetService → Credentials
  dbaasApiVerify : Option String

/-- The arguments of `requests.post` and `requests.put`. -/
structure HttpRequest where
  method : Method
  address : String
  headers : List (String × Json)
  data : Json
  auth : Option (Option String × Option String)
  verify : Json

def Request.headers (request : Request) : List (String × Json) :=
  ("Content-Type", .str "application/json") :: match request.originNamespace with
    | some ns => [("X-Origin-Namespace", ns)]
    | none => []

def Request.withToken (request : Request) (token : String) (verify : Json) : HttpRequest where
  method := request.method
  address := request.address
  headers := request.headers ++ [("Authorization", .str ("Bearer " ++ token))]
  data := request.data
  auth := none
  verify := verify

def Request.withPassword (request : Request) (credentials : Credentials) (verify : Json) :
    HttpRequest where
  method := request.method
  address := request.address
  headers := request.headers
  data := request.data
  auth := some (credentials.user, credentials.password)
  verify := verify

abbrev TargetService.Body : TargetService → Type
  | .dbaas => Json
  | .maas => KafkaTopic

/-- What a lookup asks for outside: the file with the token of a service, and the service
itself, by a call of `requests.post` or `requests.put`. Redirects that the library follows
are within the call. -/
inductive Call where
  | readToken (service : TargetService)
  | send (service : TargetService) (request : HttpRequest)

abbrev Call.Reply : Call → Type
  | .readToken _ => String
  | .send service _ => Response service.Body

abbrev Call.Answer (call : Call) : Type := Except PyError call.Reply

abbrev Asking (α : Type) := Program Call Call.Answer PyError α

def Call.ask (call : Call) : Asking call.Reply := Program.ask call

abbrev Exchanged := List (Exchange Call Call.Answer)

/-- A pod with the backend. The files of its keys and the backend for local files are
read as they are. -/
structure Pod (Connection : Type) where
  backend : Backend Connection
  auth : Authentication
  parameters : String → DatabaseParameters
  redisDbName : String
  keyFile : String → String → Option String
  localConfig : String → Option String

namespace Pod

variable {Connection : Type} (pod : Pod Connection)

def usesM2m (service : TargetService) : Bool :=
  enabled (pod.auth.credentials service).m2mEnabled

def verify : Json := apiVerify pod.auth.dbaasApiVerify

def requestsWithCorrectAuth (service : TargetService) (request : Request) :
    Asking (Response service.Body) := do
  if pod.usesM2m service then
    let token ← (Call.readToken service).ask
    (Call.send service (request.withToken token pod.verify)).ask
  else (Call.send service (request.withPassword (pod.auth.credentials service) pod.verify)).ask

def requestProperties (lookup create : Request) : Asking Json := do
  let response ← pod.requestsWithCorrectAuth .dbaas lookup
  if response.statusCode = 200 then Program.ofExcept response.connectionProperties
  else
  let response ← pod.requestsWithCorrectAuth .dbaas create
  if response.statusCode = 201 ∨ response.statusCode = 200 then
    Program.ofExcept response.connectionProperties
  else return .null

def getConnFromDbaas (dbaasData : Json) (connId : String) : Asking Json := do
  let ns ← Program.ofExcept (pod.backend.requestNamespace
    pod.backend.settings.dbaasConnNamespaceFromConfig dbaasData)
  let dbType ← Program.ofExcept (dbaasData.getItem "type")
  if pod.backend.settings.dbaasOperatorEnabled ∧ dbType.isText "postgresql" then
    Program.ofExcept (pod.backend.getMountedProperties
      (connectionDirectory pod.backend.airflow.lower connId) "postgresql")
  else
  let classifier ← Program.ofExcept (dbaasData.getItem "classifier")
  let service ← Program.ofExcept (originService dbaasData)
  pod.requestProperties (pod.backend.byClassifierRequest dbType classifier service)
    (pod.backend.databaseRequest dbaasData ns)

def getKafkaConnFromMaas (maasData : Json) : Asking (Option KafkaTopic) := do
  let ns ← Program.ofExcept (pod.backend.requestNamespace
    pod.backend.settings.maasConnNamespaceFromConfig maasData)
  let response ← pod.requestsWithCorrectAuth .maas (pod.backend.topicRequest maasData ns)
  if response.statusCode = 201 ∨ response.statusCode = 200 then
    Program.ofExcept (some <$> response.loads)
  else return none

def fromDbaas (connId : String) : Asking (Option String) :=
  match pod.backend.properties.lookup (connId ++ "_dbaas") with
  | none => return none
  | some dbaasData => do
      let connectionData ← pod.getConnFromDbaas dbaasData connId
      let dbType ← Program.ofExcept (dbaasData.getItem "type")
      if dbType.isText "postgresql" then
        Program.ofExcept (some <$> parsePgConnection pod.backend.airflow.repr
          pod.backend.settings.sslVerificationMain connectionData)
      else return none

def fromMaas (connId : String) : Asking (Option String) :=
  match pod.backend.properties.lookup (connId ++ "_maas") with
  | none => return none
  | some entry => do
      let maasType ← Program.ofExcept (entry.getItem "maas_type")
      let maasData ← Program.ofExcept (entry.getItem "maas_request_data")
      let maasPatch ← Program.ofExcept (entry.getItem "connection_properties")
      if maasType.isText "kafka" then
        let connectionData ← pod.getKafkaConnFromMaas maasData
        Program.ofExcept (pod.backend.parseKafkaConnection connectionData maasPatch)
      else return none

def getConnValue (connId : String) : Asking (Option String) := do
  if pod.backend.properties.isEmpty then return none
  else match ← pod.fromDbaas connId with
    | some value => return some value
    | none => pod.fromMaas connId

def getConnection (connId : String) : Asking (Option Connection) := do
  match ← pod.getConnValue connId with
  | some value =>
      if value ≠ "" then
        Program.ofExcept (some <$> pod.backend.airflow.deserializeConnection connId value)
      else return pod.backend.localAnswer connId
  | none => return pod.backend.localAnswer connId

/-- `get_pg_database` and `get_redis_database` -/
def mainDatabase (type : String) : Asking Json :=
  if pod.backend.settings.dbaasOperatorEnabled then
    Program.ofExcept (pod.backend.getMountedProperties type type)
  else pod.requestProperties (pod.backend.mainLookupRequest type (pod.parameters type))
    (pod.backend.mainCreateRequest type (pod.parameters type))

def getPgConnection : Asking String := do
  let pgConnection ← pod.mainDatabase "postgresql"
  Program.ofExcept (parsePgConnection pod.backend.airflow.repr
    pod.backend.settings.sslVerificationMain pgConnection)

def getRedisAddress : Asking String := do
  let redisConnection ← pod.mainDatabase "redis"
  Program.ofExcept (getRedisConnection pod.backend.airflow.repr
    pod.backend.settings.sslVerificationMain pod.redisDbName redisConnection)

/-- The keys that are files, with the variables that are read where there is none. -/
def keyVariables : List (String × String) :=
  [("fernet-key", "AIRFLOW__CORE__FERNET_KEY"), ("api-secret-key", "AIRFLOW__API__SECRET_KEY"),
    ("jwt-secret", "AIRFLOW__API_AUTH__JWT_SECRET"),
    ("client-secret", "AIRFLOW__KEYCLOAK_AUTH_MANAGER__CLIENT_SECRET")]

def getConfig (key : String) : Asking (Option String) := do
  if key = "airfow_celery_redis_main_conn" then some <$> pod.getRedisAddress
  else if key = "airfow_pg_main_conn" then some <$> pod.getPgConnection
  else match keyVariables.lookup key with
    | some envName => return pod.keyFile envName key
    | none =>
        if pod.backend.settings.localFilesystemBackendEnabled then return pod.localConfig key
        else return none

/-! ## The backend without its credentials -/

section Against

variable (answers : (call : Call) → call.Answer)

/-- The backend whose services answer what the requests with credentials are answered. -/
def answeredBy : Backend Connection :=
  { pod.backend with
    sources := {
      dbaas := fun request => (pod.requestsWithCorrectAuth .dbaas request).against answers
      maas := fun request => (pod.requestsWithCorrectAuth .maas request).against answers
      mounted := pod.backend.sources.mounted } }

theorem requestProperties_against (lookup create : Request) :
    (pod.requestProperties lookup create).against answers =
      (pod.answeredBy answers).requestProperties lookup create := by
  simp only [requestProperties, Program.against_bind, Backend.requestProperties]
  congr 1
  funext response
  split_ifs
  · exact Program.against_ofExcept answers _
  · rw [Program.against_bind]
    congr 1
    funext created
    split_ifs
    · exact Program.against_ofExcept answers _
    · rfl

theorem getConnFromDbaas_against (dbaasData : Json) (connId : String) :
    (pod.getConnFromDbaas dbaasData connId).against answers =
      (pod.answeredBy answers).getConnFromDbaas dbaasData connId := by
  have hsettings : (pod.answeredBy answers).settings = pod.backend.settings := rfl
  simp only [getConnFromDbaas, Program.against_bind, Program.against_ofExcept,
    Backend.getConnFromDbaas, hsettings]
  congr 1
  funext ns
  congr 1
  funext dbType
  split_ifs
  · exact Program.against_ofExcept answers _
  · simp only [Program.against_bind, Program.against_ofExcept, requestProperties_against]
    rfl

theorem getKafkaConnFromMaas_against (maasData : Json) :
    (pod.getKafkaConnFromMaas maasData).against answers =
      (pod.answeredBy answers).getKafkaConnFromMaas maasData := by
  simp only [getKafkaConnFromMaas, Program.against_bind, Program.against_ofExcept,
    Backend.getKafkaConnFromMaas]
  congr 1
  funext ns
  congr 1
  funext response
  split_ifs
  · exact Program.against_ofExcept answers _
  · rfl

theorem fromDbaas_against (connId : String) :
    (pod.fromDbaas connId).against answers = (pod.answeredBy answers).fromDbaas connId := by
  have hproperties : (pod.answeredBy answers).properties = pod.backend.properties := rfl
  rw [fromDbaas, Backend.fromDbaas, hproperties]
  cases pod.backend.properties.lookup (connId ++ "_dbaas") with
  | none => rfl
  | some dbaasData =>
    simp only [Program.against_bind, Program.against_ofExcept, getConnFromDbaas_against]
    congr 1
    funext connectionData
    congr 1
    funext dbType
    split_ifs
    · exact Program.against_ofExcept answers _
    · rfl

theorem fromMaas_against (connId : String) :
    (pod.fromMaas connId).against answers = (pod.answeredBy answers).fromMaas connId := by
  have hproperties : (pod.answeredBy answers).properties = pod.backend.properties := rfl
  rw [fromMaas, Backend.fromMaas, hproperties]
  cases pod.backend.properties.lookup (connId ++ "_maas") with
  | none => rfl
  | some entry =>
    simp only [Program.against_bind, Program.against_ofExcept]
    congr 1
    funext maasType
    congr 1
    funext maasData
    congr 1
    funext maasPatch
    split_ifs
    · simp only [Program.against_bind, Program.against_ofExcept, getKafkaConnFromMaas_against]
      rfl
    · rfl

theorem getConnValue_against (connId : String) :
    (pod.getConnValue connId).against answers =
      (pod.answeredBy answers).getConnValue connId := by
  have hproperties : (pod.answeredBy answers).properties = pod.backend.properties := rfl
  rw [getConnValue, Backend.getConnValue, hproperties]
  split_ifs
  · rfl
  · rw [Program.against_bind, fromDbaas_against]
    congr 1
    funext value
    cases value with
    | none => exact pod.fromMaas_against answers connId
    | some value => rfl

/-- With fixed answers a lookup ends as the backend says. -/
theorem getConnection_against (connId : String) :
    (pod.getConnection connId).against answers =
      (pod.answeredBy answers).getConnection connId := by
  rw [getConnection, Backend.getConnection, Program.against_bind, getConnValue_against]
  congr 1
  funext value
  cases value with
  | none => rfl
  | some value =>
    change (if value ≠ "" then _ else _ : Asking _).against answers = if value ≠ "" then _ else _
    split_ifs
    · exact Program.against_ofExcept answers _
    · rfl

theorem mainDatabase_against (type : String) :
    (pod.mainDatabase type).against answers =
      (pod.answeredBy answers).mainDatabase type (pod.parameters type) := by
  have hsettings : (pod.answeredBy answers).settings = pod.backend.settings := rfl
  rw [mainDatabase, Backend.mainDatabase, hsettings]
  split_ifs
  · exact Program.against_ofExcept answers _
  · exact pod.requestProperties_against answers _ _

end Against

end Pod

end QubershipAirflow.Secrets
