import QubershipAirflow.Secrets.ConnectionUris

/-! The secrets backend: where it looks for a connection id, in which order, and what it
does with the answers of DBaaS, MaaS and the mounted Secrets. -/
namespace QubershipAirflow.Secrets

/-- What the pods are configured with; a flag is what the code tests the setting for. -/
structure Settings where
  dbaasHost : String
  maasHost : String
  ownNamespace : String
  dbaasConnNamespaceFromConfig : Bool
  maasConnNamespaceFromConfig : Bool
  dbaasOperatorEnabled : Bool
  localFilesystemBackendEnabled : Bool
  sslVerificationMain : String

inductive Method where
  | post
  | put
  deriving DecidableEq

/-- A call of `requests_with_correct_auth`; the authorisation is left to the source. -/
structure Request where
  method : Method
  address : String
  originNamespace : Option Json
  data : Json

/-- `content` is `none` for a body that is no JSON document. -/
structure Response (α : Type) where
  statusCode : Nat
  content : Option α

structure KafkaCredential where
  type : Option String
  username : Option String
  password : Option String

structure KafkaCredentials where
  client : Option (List KafkaCredential)

/-- MaaS's description of a topic; any of its keys may be missing. -/
structure KafkaTopic where
  addresses : Option (List (String × List String))
  credential : Option KafkaCredentials
  caCert : Option String

/-- The two files of a Secret; `none` for one that is missing or no JSON document. -/
structure MountedSecret where
  metadata : Option Json
  connectionProperties : Option Json

structure Sources where
  dbaas : Request → Except PyError (Response Json)
  maas : Request → Except PyError (Response KafkaTopic)
  mounted : String → MountedSecret

/-- Airflow and the standard library. `kafkaUri` is `Connection.get_uri` for a Kafka
connection with these extras. -/
structure Airflow (Connection : Type) where
  deserializeConnection : String → String → Except PyError Connection
  kafkaUri : Json → String
  kafkaUri_ne : ∀ extra, kafkaUri extra ≠ ""
  pemOfCert : String → Except PyError String
  lower : String → String
  repr : Json → String
  localConnection : String → Option Connection

/-- Each entry has the keys that the backend reads without a test. -/
structure Backend (Connection : Type) where
  settings : Settings
  sources : Sources
  airflow : Airflow Connection
  properties : List (String × Json)
  dbaasFormed : ∀ connId entry, properties.lookup (connId ++ "_dbaas") = some entry →
    ∃ dbType classifier, entry.getItem "type" = .ok dbType ∧
      entry.getItem "classifier" = .ok classifier
  maasFormed : ∀ connId entry, properties.lookup (connId ++ "_maas") = some entry →
    ∃ maasType requestData patch, entry.getItem "maas_type" = .ok maasType ∧
      entry.getItem "maas_request_data" = .ok requestData ∧
      entry.getItem "connection_properties" = .ok patch

variable {Connection : Type}

/-- The mounted directory of a connection: its id in lower case, `-` for `_`. -/
def connectionDirectory (lower : String → String) (connId : String) : String :=
  (lower connId).map fun c => if c = '_' then '-' else c

/-- `none` for a Secret that is missing or incomplete. -/
def Backend.readMountedProperties (backend : Backend Connection) (directory dbType : String) :
    Except PyError (Option Json) :=
  let secret := backend.sources.mounted directory
  match secret.metadata, secret.connectionProperties with
  | some (.obj metadata), some properties =>
      let actualType := ((metadata.lookup "type").getD (.str "")).format backend.airflow.repr
      if backend.airflow.lower actualType ≠ backend.airflow.lower dbType then
        .error (.valueError ("DBaaS secret " ++ directory ++ " is for a " ++ actualType ++
          " database, but " ++ dbType ++ " is expected."))
      else .ok (some properties)
  | some _, some _ => .error .attributeError
  | _, _ => .ok none

def Backend.getMountedProperties (backend : Backend Connection) (directory dbType : String) :
    Except PyError Json :=
  match backend.readMountedProperties directory dbType with
  | .ok properties => .ok (properties.getD .null)
  | .error (.valueError _) => .ok .null
  | .error err => .error err

/-- `json.loads(response.content)` -/
def Response.loads {α : Type} (response : Response α) : Except PyError α :=
  match response.content with
  | some content => .ok content
  | none => .error (.valueError "Expecting value")

/-- `["connectionProperties"]` of the body -/
def Response.connectionProperties (response : Response Json) : Except PyError Json := do
  (← response.loads).getItem "connectionProperties"

/-- `entry["classifier"]["namespace"]`, or Airflow's own namespace. -/
def Backend.requestNamespace (backend : Backend Connection) (fromConfig : Bool) (entry : Json) :
    Except PyError Json :=
  if fromConfig then do (← entry.getItem "classifier").getItem "namespace"
  else .ok (.str backend.settings.ownNamespace)

def Backend.byClassifierRequest (backend : Backend Connection) (dbType classifier : Json)
    (originService : Option Json) : Request where
  method := .post
  address := backend.settings.dbaasHost ++ "/api/v3/dbaas/" ++ backend.settings.ownNamespace ++
    "/databases/get-by-classifier/" ++ dbType.format backend.airflow.repr
  originNamespace := none
  data := .obj (("classifier", classifier) :: match originService with
    | some service => [("originService", service)]
    | none => [])

def Backend.databaseRequest (backend : Backend Connection) (dbaasData ns : Json) : Request where
  method := .put
  address := backend.settings.dbaasHost ++ "/api/v3/dbaas/" ++
    ns.format backend.airflow.repr ++ "/databases"
  originNamespace := none
  data := dbaasData

/-- The request by classifier, then the one that creates the database. The code returns
nothing, so Python's `None`, when both are refused. -/
def Backend.requestProperties (backend : Backend Connection) (lookup create : Request) :
    Except PyError Json := do
  let response ← backend.sources.dbaas lookup
  if response.statusCode = 200 then response.connectionProperties
  else
  let response ← backend.sources.dbaas create
  if response.statusCode = 201 ∨ response.statusCode = 200 then response.connectionProperties
  else return .null

def originService (dbaasData : Json) : Except PyError (Option Json) := do
  if ← dbaasData.contains "originService" then some <$> dbaasData.getItem "originService"
  else return none

def Backend.getConnFromDbaas (backend : Backend Connection) (dbaasData : Json)
    (connId : String) : Except PyError Json := do
  let ns ← backend.requestNamespace backend.settings.dbaasConnNamespaceFromConfig dbaasData
  let dbType ← dbaasData.getItem "type"
  if backend.settings.dbaasOperatorEnabled ∧ dbType.isText "postgresql" then
    backend.getMountedProperties (connectionDirectory backend.airflow.lower connId) "postgresql"
  else
  let classifier ← dbaasData.getItem "classifier"
  let service ← originService dbaasData
  backend.requestProperties (backend.byClassifierRequest dbType classifier service)
    (backend.databaseRequest dbaasData ns)

def need {α : Type} (key : String) : Option α → Except PyError α
  | some value => .ok value
  | none => .error (.keyError key)

def Backend.topicRequest (backend : Backend Connection) (maasData ns : Json) : Request where
  method := .post
  address := backend.settings.maasHost ++ "/api/v1/kafka/topic"
  originNamespace := some ns
  data := maasData

def Backend.getKafkaConnFromMaas (backend : Backend Connection) (maasData : Json) :
    Except PyError (Option KafkaTopic) := do
  let ns ← backend.requestNamespace backend.settings.maasConnNamespaceFromConfig maasData
  let response ← backend.sources.maas (backend.topicRequest maasData ns)
  if response.statusCode = 201 ∨ response.statusCode = 200 then some <$> response.loads
  else return none

def securityProtocol (addresses : List (String × List String)) : Option (String × String) :=
  ["SASL_PLAINTEXT", "PLAINTEXT", "SSL", "SASL_SSL"].findSome? fun protocol =>
    (addresses.lookup protocol).map fun hosts => (protocol, ",".intercalate hosts)

/-- `password.startswith("plain:")`, and the password without it. -/
def plainPassword (password : String) : Option String :=
  let marker := "plain:".toList
  if marker <+: password.toList then some (String.ofList (password.toList.drop marker.length))
  else none

def saslMechanism (credentialType : String) : Option String :=
  if credentialType = "SCRAM" then some "SCRAM-SHA-512"
  else if credentialType = "plain" then some "PLAIN"
  else none

def findCredentials : List KafkaCredential → Except PyError (Option (String × String × String))
  | [] => .ok none
  | creds :: rest => do
      let password ← need "password" creds.password
      let credentialType ← need "type" creds.type
      match saslMechanism credentialType, plainPassword password with
      | some mechanism, some password =>
          return some (mechanism, ← need "username" creds.username, password)
      | _, _ => findCredentials rest

/-- The extras of the Kafka connection, with the parameters' own on top. -/
def Backend.connectionExtra (backend : Backend Connection) (topic : KafkaTopic) (patch : Json)
    (protocol addresses mechanism username password : String) : Except PyError Json := do
  let initial := [("bootstrap.servers", .str addresses), ("sasl.username", .str username),
    ("sasl.password", .str password), ("sasl.mechanism", .str mechanism),
    ("security.protocol", .str protocol)]
  match topic.caCert with
  | some caCert =>
      if ← patch.contains "ssl.ca.location" then (Json.obj initial).union patch
      else
        let pem ← backend.airflow.pemOfCert caCert
        (Json.obj (initial ++ [("ssl.ca.pem", .str pem)])).union patch
  | none => (Json.obj initial).union patch

def Backend.parseKafkaConnection (backend : Backend Connection) (topic : Option KafkaTopic)
    (patch : Json) : Except PyError (Option String) :=
  match topic with
  | none => .error .typeError
  | some topic => do
      let addresses ← need "addresses" topic.addresses
      match securityProtocol addresses with
      | none => return none
      | some (protocol, hosts) =>
          let credential ← need "credential" topic.credential
          match credential.client with
          | none => return none
          | some client =>
              match ← findCredentials client with
              | none => return none
              | some (mechanism, username, password) =>
                  let extra ← backend.connectionExtra topic patch protocol hosts mechanism
                    username password
                  return some (backend.airflow.kafkaUri extra)

/-- `none` where `get_conn_value` goes on to MaaS. -/
def Backend.fromDbaas (backend : Backend Connection) (connId : String) :
    Except PyError (Option String) :=
  match backend.properties.lookup (connId ++ "_dbaas") with
  | none => .ok none
  | some dbaasData => do
      let connectionData ← backend.getConnFromDbaas dbaasData connId
      if (← dbaasData.getItem "type").isText "postgresql" then
        some <$> parsePgConnection backend.airflow.repr backend.settings.sslVerificationMain
          connectionData
      else return none

def Backend.fromMaas (backend : Backend Connection) (connId : String) :
    Except PyError (Option String) :=
  match backend.properties.lookup (connId ++ "_maas") with
  | none => .ok none
  | some entry => do
      let maasType ← entry.getItem "maas_type"
      let maasData ← entry.getItem "maas_request_data"
      let maasPatch ← entry.getItem "connection_properties"
      if maasType.isText "kafka" then
        backend.parseKafkaConnection (← backend.getKafkaConnFromMaas maasData) maasPatch
      else return none

def Backend.getConnValue (backend : Backend Connection) (connId : String) :
    Except PyError (Option String) := do
  if backend.properties.isEmpty then return none
  else match ← backend.fromDbaas connId with
    | some value => return some value
    | none => backend.fromMaas connId

/-- What `super().get_connection` finds, if that backend is the base class. -/
def Backend.localAnswer (backend : Backend Connection) (connId : String) : Option Connection :=
  if backend.settings.localFilesystemBackendEnabled then backend.airflow.localConnection connId
  else none

def Backend.getConnection (backend : Backend Connection) (connId : String) :
    Except PyError (Option Connection) := do
  match ← backend.getConnValue connId with
  | some value =>
      if value ≠ "" then some <$> backend.airflow.deserializeConnection connId value
      else return backend.localAnswer connId
  | none => return backend.localAnswer connId

end QubershipAirflow.Secrets
