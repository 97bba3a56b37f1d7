import QubershipAirflow.Library.Json

/-! The logging configuration of the platform, as it is built from Airflow's options. -/
namespace QubershipAirflow.Logging

inductive LoggingError where
  | configException (category option : String)
  | airflowException (message : String)
  | python (error : PyError)
  deriving DecidableEq

instance : MonadLift (Except PyError) (Except LoggingError) where
  monadLift
    | .ok value => .ok value
    | .error error => .error (.python error)

/-- Airflow's configuration. What is not a boolean, or not JSON, raises. -/
structure AirflowConf where
  find : String → String → Option String
  getboolean : String → String → Except LoggingError Bool
  getjson : String → String → Json → Except LoggingError Json
  expanduser : String → String

def AirflowConf.get (conf : AirflowConf) (category option : String) :
    Except LoggingError String :=
  match conf.find category option with
  | some value => .ok value
  | none => .error (.configException category option)

structure LoggerConfig where
  handlers : List String
  level : String
  propagate : Bool
  filters : List String

structure LoggingConfig where
  formatters : List (String × Json)
  filters : List (String × Json)
  handlers : List (String × Json)
  loggers : List (String × LoggerConfig)
  root : LoggerConfig

/-! ## The handler of task logs -/

def maskSecrets : Json := .arr [.str "mask_secrets_core"]

def fileTaskHandler (baseLogFolder : String) : Json :=
  .obj [("class", .str "airflow.utils.log.file_task_handler.FileTaskHandler"),
    ("formatter", .str "airflow"), ("base_log_folder", .str baseLogFolder),
    ("filters", maskSecrets)]

/-- `STACKDRIVER_REMOTE_HANDLERS["task"]` -/
def stackdriverTaskHandler (logName keyPath : String) : Json :=
  .obj [("class", .str ("airflow.providers.google.cloud.log.stackdriver_task_handler." ++
      "StackdriverTaskHandler")),
    ("formatter", .str "airflow"), ("gcp_log_name", .str logName),
    ("gcp_key_path", .str keyPath)]

/-- `ELASTIC_REMOTE_HANDLERS["task"]` -/
def AirflowConf.elasticTaskHandler (conf : AirflowConf) (baseLogFolder host : String) :
    Except LoggingError Json := do
  let endOfLogMark ← conf.get "elasticsearch" "END_OF_LOG_MARK"
  let frontend ← conf.get "elasticsearch" "frontend"
  let writeStdout ← conf.getboolean "elasticsearch" "WRITE_STDOUT"
  let writeToEs ← conf.getboolean "elasticsearch" "WRITE_TO_ES"
  let jsonFormat ← conf.getboolean "elasticsearch" "JSON_FORMAT"
  let jsonFields ← conf.get "elasticsearch" "JSON_FIELDS"
  let targetIndex ← conf.get "elasticsearch" "TARGET_INDEX"
  let hostField ← conf.get "elasticsearch" "HOST_FIELD"
  let offsetField ← conf.get "elasticsearch" "OFFSET_FIELD"
  return .obj
    [("class", .str "airflow.providers.elasticsearch.log.es_task_handler.ElasticsearchTaskHandler"),
      ("formatter", .str "airflow"), ("base_log_folder", .str baseLogFolder),
      ("end_of_log_mark", .str endOfLogMark), ("host", .str host), ("frontend", .str frontend),
      ("write_stdout", .bool writeStdout), ("write_to_es", .bool writeToEs),
      ("target_index", .str targetIndex), ("json_format", .bool jsonFormat),
      ("json_fields", .str jsonFields), ("host_field", .str hostField),
      ("offset_field", .str offsetField)]

/-- `OPENSEARCH_REMOTE_HANDLERS["task"]` -/
def AirflowConf.opensearchTaskHandler (conf : AirflowConf) (baseLogFolder host : String) :
    Except LoggingError Json := do
  let endOfLogMark ← conf.get "opensearch" "END_OF_LOG_MARK"
  let port ← conf.get "opensearch" "PORT"
  let username ← conf.get "opensearch" "USERNAME"
  let password ← conf.get "opensearch" "PASSWORD"
  let writeStdout ← conf.getboolean "opensearch" "WRITE_STDOUT"
  let jsonFormat ← conf.getboolean "opensearch" "JSON_FORMAT"
  let jsonFields ← conf.get "opensearch" "JSON_FIELDS"
  let hostField ← conf.get "opensearch" "HOST_FIELD"
  let offsetField ← conf.get "opensearch" "OFFSET_FIELD"
  return .obj
    [("class", .str "airflow.providers.opensearch.log.os_task_handler.OpensearchTaskHandler"),
      ("formatter", .str "airflow"), ("base_log_folder", .str baseLogFolder),
      ("end_of_log_mark", .str endOfLogMark), ("host", .str host), ("port", .str port),
      ("username", .str username), ("password", .str password),
      ("write_stdout", .bool writeStdout), ("json_format", .bool jsonFormat),
      ("json_fields", .str jsonFields), ("host_field", .str hostField),
      ("offset_field", .str offsetField)]

/-- The path of a URL, without its first character: `urlsplit(url).path[1:]`. -/
def urlPathTail (url : String) : String :=
  let afterScheme := (url.toList.dropWhile (· ≠ ':')).drop 3
  let path := afterScheme.dropWhile fun c => c ≠ '/' ∧ c ≠ '?' ∧ c ≠ '#'
  String.ofList ((path.takeWhile fun c => c ≠ '?' ∧ c ≠ '#').drop 1)

/-- The prefixes of folders whose logs Airflow ships itself. The handler stays as it is then,
and the keyword arguments are used up. -/
def remoteLogIoPrefixes : List String :=
  ["s3://", "cloudwatch://", "gs://", "wasb", "oss://", "hdfs://"]

def typeName : Json → String
  | .null => "<class 'NoneType'>"
  | .bool _ => "<class 'bool'>"
  | .int _ => "<class 'int'>"
  | .float _ => "<class 'float'>"
  | .str _ => "<class 'str'>"
  | .arr _ => "<class 'list'>"
  | .obj _ => "<class 'dict'>"

def checkKwargs : Json → Except LoggingError Unit
  | .obj _ => return ()
  | other => throw (.python (.valueError
      ("logging/remote_task_handler_kwargs must be a JSON object (a python dict), we got " ++
        typeName other)))

def AirflowConf.serviceTaskHandler (conf : AirflowConf)
    (baseLogFolder folder elasticsearchHost opensearchHost : String) :
    Except LoggingError Json :=
  if folder.startsWith "stackdriver://" then do
    let keyPath ← conf.get "logging" "GOOGLE_KEY_PATH"
    return stackdriverTaskHandler (urlPathTail folder) keyPath
  else if elasticsearchHost ≠ "" then conf.elasticTaskHandler baseLogFolder elasticsearchHost
  else if opensearchHost ≠ "" then conf.opensearchTaskHandler baseLogFolder opensearchHost
  else throw (.airflowException
    ("Incorrect remote log configuration. Please check the configuration of option 'host' in " ++
      "section 'elasticsearch' if you are using Elasticsearch. In the other case, " ++
      "'remote_base_log_folder' option in the 'logging' section."))

def AirflowConf.checkKeyPath (conf : AirflowConf) (folder : String) : Except LoggingError Unit :=
  if folder.startsWith "gs://" then (conf.get "logging" "google_key_path").map fun _ => ()
  else return ()

/-- `handlers["task"]` where `remote_logging` is on. -/
def AirflowConf.remoteTaskHandler (conf : AirflowConf) (baseLogFolder : String) :
    Except LoggingError Json := do
  let elasticsearchHost ← conf.get "elasticsearch" "HOST"
  let opensearchHost ← conf.get "opensearch" "HOST"
  let folder ← conf.get "logging" "remote_base_log_folder"
  let kwargs ← conf.getjson "logging" "remote_task_handler_kwargs" (.obj [])
  checkKwargs kwargs
  let _ ← conf.getboolean "logging" "delete_local_logs"
  if remoteLogIoPrefixes.any fun start => folder.startsWith start then
    conf.checkKeyPath folder
    return fileTaskHandler baseLogFolder
  else
    let task ← conf.serviceTaskHandler baseLogFolder folder elasticsearchHost opensearchHost
    task.union kwargs

def AirflowConf.taskHandler (conf : AirflowConf) (baseLogFolder : String) :
    Except LoggingError Json := do
  if ← conf.getboolean "logging" "remote_logging" then conf.remoteTaskHandler baseLogFolder
  else return fileTaskHandler baseLogFolder

/-! ## The loggers -/

/-- `str.isspace` of one character. -/
def isSpace (c : Char) : Bool :=
  let code := c.toNat
  0x9 ≤ code ∧ code ≤ 0xD ∨ 0x1C ≤ code ∧ code ≤ 0x20 ∨ code = 0x85 ∨ code = 0xA0 ∨
    code = 0x1680 ∨ 0x2000 ≤ code ∧ code ≤ 0x200A ∨ code = 0x2028 ∨ code = 0x2029 ∨
    code = 0x202F ∨ code = 0x205F ∨ code = 0x3000

def strip (text : List Char) : String :=
  String.ofList ((text.dropWhile isSpace).reverse.dropWhile isSpace).reverse

def AirflowConf.extraLoggerNames (conf : AirflowConf) : List String :=
  match conf.find "logging" "EXTRA_LOGGER_NAMES" with
  | none => []
  | some names => if names = "" then [] else (names.toList.splitOn ',').map strip

def taskHandlers (qsLoggingType : String) : List String :=
  if qsLoggingType = "filesystem" then ["task"]
  else if qsLoggingType = "stdout" then ["stdout_task"]
  else ["task", "stdout_task"]

def auditLogger (auditLogLevel : String) : LoggerConfig := ⟨["audit"], auditLogLevel, false, []⟩

def defaultLoggers (logLevel fabLogLevel auditLogLevel qsLoggingType : String) :
    List (String × LoggerConfig) :=
  [("airflow.task", ⟨taskHandlers qsLoggingType, logLevel, true, ["mask_secrets_core"]⟩),
    ("flask_appbuilder", ⟨["console"], fabLogLevel, true, []⟩),
    ("airflow.www.fab_security.sqla.manager", auditLogger auditLogLevel),
    ("airflow.www.fab_security.manager", auditLogger auditLogLevel),
    ("airflow.security.kerberos", auditLogger auditLogLevel),
    ("airflow.providers.fab.auth_manager", auditLogger auditLogLevel),
    ("airflow.api_fastapi.auth", auditLogger auditLogLevel),
    ("airflow.providers.simple.auth_manager", auditLogger auditLogLevel),
    ("airflow.providers.keycloak.auth_manager", auditLogger auditLogLevel),
    ("qskeycloakintegration.qs_keycloak_integration", auditLogger auditLogLevel)]

/-- `loggers.update(new_loggers)` -/
def updateLoggers (loggers : List (String × LoggerConfig)) (names : List String)
    (logLevel : String) : List (String × LoggerConfig) :=
  loggers.filter (fun entry => entry.1 ∉ names) ++
    names.map fun name => (name, ⟨["console"], logLevel, true, []⟩)

def streamHandler (formatter : String) : Json :=
  .obj [("class", .str "logging.StreamHandler"), ("formatter", .str formatter),
    ("stream", .str "sys.stdout"), ("filters", maskSecrets)]

def defaultHandlers (task : Json) : List (String × Json) :=
  [("audit", streamHandler "airflow-audit"), ("console", streamHandler "airflow"),
    ("task", task),
    ("stdout_task", .obj [("class", .str "airflow_local_settings.TaskHandlerWithCustomFormatterQS"),
      ("formatter", .str "airflow"), ("filters", maskSecrets),
      ("stream", .str "ext://sys.stdout")])]

def formatter (format formatterClass : String) : Json :=
  .obj [("format", .str format), ("class", .str formatterClass)]

/-- `QS_DEFAULT_LOGGING_CONFIG`, at the end of the module. -/
def AirflowConf.qsDefaultLoggingConfig (conf : AirflowConf) :
    Except LoggingError LoggingConfig := do
  let logLevel := (← conf.get "logging" "LOGGING_LEVEL").toUpper
  let fabLogLevel := (← conf.get "logging" "FAB_LOGGING_LEVEL").toUpper
  let logFormat ← conf.get "logging" "LOG_FORMAT"
  let dagProcessorLogFormat ← conf.get "logging" "DAG_PROCESSOR_LOG_FORMAT"
  let logFormatterClass := (conf.find "logging" "LOG_FORMATTER_CLASS").getD
    "airflow.utils.log.timezone_aware.TimezoneAware"
  let auditLogLevel := (← conf.get "logging" "AUDIT_LOG_LEVEL").toUpper
  let _ ← conf.get "logging" "DAG_PROCESSOR_LOG_TARGET"
  let qsLoggingType ← conf.get "logging" "QS_LOGGING_TYPE"
  let baseLogFolder := conf.expanduser (← conf.get "logging" "BASE_LOG_FOLDER")
  let logFormatAudit ← conf.get "logging" "LOG_FORMAT_AUDIT"
  let task ← conf.taskHandler baseLogFolder
  return {
    formatters := [("airflow-audit", formatter logFormatAudit logFormatterClass),
      ("airflow", formatter logFormat logFormatterClass),
      ("source_processor", formatter dagProcessorLogFormat logFormatterClass)]
    filters := [("mask_secrets_core",
      .obj [("()", .str "airflow._shared.secrets_masker._secrets_masker")])]
    handlers := defaultHandlers task
    loggers := updateLoggers (defaultLoggers logLevel fabLogLevel auditLogLevel qsLoggingType)
      conf.extraLoggerNames logLevel
    root := ⟨["console"], logLevel, true, ["mask_secrets_core"]⟩ }

end QubershipAirflow.Logging
