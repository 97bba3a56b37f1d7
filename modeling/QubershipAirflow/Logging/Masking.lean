import QubershipAirflow.Library.Helm
import QubershipAirflow.Library.Lists
import QubershipAirflow.Library.LogDispatch
import QubershipAirflow.Logging.Configuration

/-! Whether secrets are masked in what the handlers of the configuration write: what
`logging.config.dictConfig` makes of the configuration, and how a record runs through it. -/
namespace QubershipAirflow.Logging

open LogDispatch
open Lists (mapM_cons_some exists_of_mem_mapM isSome_of_mapM)

structure LogRecord where
  levelno : Int
  passed : List String
  deriving DecidableEq

/-- A filter of this name; the secrets masker refuses no record. -/
def namedFilter (name : String) : LogFilter LogRecord :=
  fun record => (true, { record with passed := name :: record.passed })

/-- `logging._checkLevel` -/
def checkLevel : Json → Option Int
  | .int level => some level
  | .bool level => some (if level then 1 else 0)
  | .str name => [("CRITICAL", 50), ("FATAL", 50), ("ERROR", 40), ("WARN", 30),
      ("WARNING", 30), ("INFO", 20), ("DEBUG", 10), ("NOTSET", 0)].lookup name
  | _ => none

/-- A handler that names no level takes every record. -/
def handlerLevel : Json → Option Int
  | .null => some 0
  | level => checkLevel level

/-- What a `for` loop sees. -/
def iterate : Json → Option (List Json)
  | .arr items => some items
  | .obj fields => some (fields.map fun entry => .str entry.1)
  | .str text => some (text.toList.map fun c => .str (String.singleton c))
  | _ => none

/-- A name that is looked up in a dict of the configuration. -/
def declared (entries : List (String × Json)) : Json → Option String
  | .str name => if (entries.lookup name).isSome then some name else none
  | _ => none

namespace LoggingConfig

variable (config : LoggingConfig)

def addFilters (filters : Json) : Option (List (LogFilter LogRecord)) := do
  if Helm.truthy filters then
    let names ← (← iterate filters).mapM (declared config.filters)
    return names.map namedFilter
  else return []

def checkFormatter (formatter : Json) : Option Unit :=
  if Helm.truthy formatter then (declared config.formatters formatter).map fun _ => ()
  else some ()

/-- `configure_handler`, up to the call of the handler's class. -/
def configureHandler (name : String) : Option (Handler String LogRecord) := do
  let .obj fields ← config.handlers.lookup name | none
  config.checkFormatter ((fields.lookup "formatter").getD .null)
  let level ← handlerLevel ((fields.lookup "level").getD .null)
  let filters ← config.addFilters ((fields.lookup "filters").getD .null)
  return ⟨name, fun record => level ≤ record.levelno, filters⟩

end LoggingConfig

structure ConfiguredLogger where
  level : Int
  filters : List (LogFilter LogRecord)
  toLogger : Logger String LogRecord

/-- What `logging.getLogger` takes for the root logger. -/
def rootNames : List String := ["", "root"]

structure Loggers where
  named : List (String × ConfiguredLogger)
  root : ConfiguredLogger

namespace LoggingConfig

variable (config : LoggingConfig)

def configureLogger (entry : LoggerConfig) : Option ConfiguredLogger := do
  let level ← checkLevel (.str entry.level)
  let handlers ← entry.handlers.mapM config.configureHandler
  let filters ← entry.filters.mapM fun name => declared config.filters (.str name)
  return ⟨level, filters.map namedFilter, handlers, entry.propagate⟩

/-- `dictConfig`: every handler is configured, whether a logger has it or not. -/
def dictConfig : Option Loggers := do
  let _ ← config.handlers.mapM fun entry => config.configureHandler entry.1
  let named ← config.loggers.mapM fun entry =>
    (config.configureLogger entry.2).map fun logger => (entry.1, logger)
  -- the root logger is configured last
  let root ← config.configureLogger config.root
  return ⟨named, root⟩

end LoggingConfig

/-! ## Records -/

/-- The loggers above one whose name comes backwards. Each is what is before a dot of the one
below it; behind a name that no logger has, the search leaves one character out. -/
def namesAbove (known : String → Bool) : List Char → List String
  | c :: next :: rest =>
      if c = '.' then
        let name := String.ofList (next :: rest).reverse
        if known name then name :: namesAbove known (next :: rest) else namesAbove known rest
      else namesAbove known (next :: rest)
  | _ => []

namespace Loggers

variable (loggers : Loggers)

def find (name : String) : Option ConfiguredLogger :=
  if name ∈ rootNames then none else loggers.named.lookup name

/-- The logger of a name and the ones above it. Loggers that the program has made and that are
not configured have no handlers and hand everything on. -/
def chain (made : String → Bool) (name : String) : List ConfiguredLogger :=
  let known (above : String) : Bool := made above || (loggers.find above).isSome
  (name :: namesAbove known name.toList.reverse).filterMap loggers.find ++ [loggers.root]

def own (name : String) : List (LogFilter LogRecord) :=
  if name ∈ rootNames then loggers.root.filters
  else ((loggers.find name).map ConfiguredLogger.filters).getD []

def effectiveLevel (made : String → Bool) (name : String) : Int :=
  (((loggers.chain made name).find? fun logger => logger.level ≠ 0).map
    ConfiguredLogger.level).getD 0

def written (made : String → Bool) (name : String) (levelno : Int) : List (String × LogRecord) :=
  if 0 < levelno ∧ loggers.effectiveLevel made name ≤ levelno then
    log (loggers.own name) ((loggers.chain made name).map ConfiguredLogger.toLogger) ⟨levelno, []⟩
  else []

end Loggers

/-! ## What the names stand for -/

section Names

variable {α β : Type} {f : α → Option β} {items : List α} {found : List β}

theorem lookup_mapM {entries : List (String × α)} {named : List (String × β)}
    (h : (entries.mapM fun entry => (f entry.2).map fun value => (entry.1, value)) = some named)
    (name : String) : named.lookup name = (entries.lookup name).bind f := by
  induction entries generalizing named with
  | nil =>
    cases h
    rfl
  | cons entry entries ih =>
    obtain ⟨key, value⟩ := entry
    obtain ⟨first, rest, hfirst, hrest, rfl⟩ := mapM_cons_some.1 h
    obtain ⟨found, hfound, rfl⟩ := Option.map_eq_some_iff.1 hfirst
    by_cases hname : name = key
    · subst hname
      simpa using hfound.symm
    · simp [List.lookup_cons, beq_false_of_ne hname, ih hrest]

end Names

namespace LoggingConfig

variable {config : LoggingConfig} {name : String} {filters : Json}
  {added : List (LogFilter LogRecord)} {handler : Handler String LogRecord}

def OnlyMask (config : LoggingConfig) : Prop :=
  ∀ name, (config.filters.lookup name).isSome = true → name = "mask_secrets_core"

theorem declared_mask (hmask : config.OnlyMask) {item : Json} {found : String}
    (h : declared config.filters item = some found) : found = "mask_secrets_core" := by
  cases item with
  | str text =>
    simp only [declared] at h
    split_ifs at h with hsome
    cases h
    exact hmask _ hsome
  | _ => cases h

theorem iterate_ne_nil (htruthy : Helm.truthy filters = true) {items : List Json}
    (h : iterate filters = some items) : items ≠ [] := by
  rintro rfl
  cases filters with
  | arr items => simp_all [iterate, Helm.truthy]
  | obj fields => simp_all [iterate, Helm.truthy]
  | str text =>
    simp only [iterate, Option.some.injEq, List.map_eq_nil_iff, String.toList_eq_nil_iff] at h
    simp [h, Helm.truthy] at htruthy
  | _ => cases h

theorem addFilters_cases (hmask : config.OnlyMask) (h : config.addFilters filters = some added) :
    Helm.truthy filters = false ∧ added = [] ∨ Helm.truthy filters = true ∧
      ∃ names : List String, added = names.map namedFilter ∧ "mask_secrets_core" ∈ names := by
  cases htruthy : Helm.truthy filters with
  | false =>
    simp only [addFilters, htruthy] at h
    cases h
    exact .inl ⟨rfl, rfl⟩
  | true =>
    simp only [addFilters, htruthy, if_true, Option.bind_eq_bind, Option.bind_eq_some_iff,
      Option.pure_def, Option.some.injEq] at h
    obtain ⟨items, hitems, names, hnames, rfl⟩ := h
    obtain ⟨item, rest, rfl⟩ := List.exists_cons_of_ne_nil (iterate_ne_nil htruthy hitems)
    obtain ⟨first, others, hfirst, -, rfl⟩ := mapM_cons_some.1 hnames
    refine .inr ⟨rfl, _, rfl, ?_⟩
    rw [declared_mask hmask hfirst]
    exact List.mem_cons_self

theorem configureHandler_some (h : config.configureHandler name = some handler) :
    ∃ fields level, config.handlers.lookup name = some (.obj fields) ∧
      config.addFilters ((fields.lookup "filters").getD .null) = some handler.filters ∧
      handler.name = name ∧ handler.wants = fun record => decide (level ≤ record.levelno) := by
  simp only [configureHandler, Option.bind_eq_bind, Option.bind_eq_some_iff] at h
  obtain ⟨value, hvalue, h⟩ := h
  cases value with
  | obj fields =>
    simp only [Option.bind_eq_some_iff, Option.pure_def, Option.some.injEq] at h
    obtain ⟨_, -, level, -, filters, hfilters, rfl⟩ := h
    exact ⟨fields, level, hvalue, hfilters, rfl, rfl⟩
  | _ => cases h

theorem configureLogger_some {entry : LoggerConfig} {logger : ConfiguredLogger}
    (h : config.configureLogger entry = some logger) :
    checkLevel (.str entry.level) = some logger.level ∧
      entry.handlers.mapM config.configureHandler = some logger.toLogger.handlers ∧
      logger.toLogger.propagate = entry.propagate := by
  simp only [configureLogger, Option.bind_eq_bind, Option.bind_eq_some_iff, Option.pure_def,
    Option.some.injEq] at h
  obtain ⟨level, hlevel, handlers, hhandlers, filters, -, rfl⟩ := h
  exact ⟨hlevel, hhandlers, rfl⟩

theorem dictConfig_some {loggers : Loggers} (h : config.dictConfig = some loggers) :
    config.configureLogger config.root = some loggers.root ∧
      (∀ name, loggers.named.lookup name =
        (config.loggers.lookup name).bind config.configureLogger) ∧
      ∀ entry ∈ config.loggers, (config.configureLogger entry.2).isSome = true := by
  simp only [dictConfig, Option.bind_eq_bind, Option.bind_eq_some_iff, Option.pure_def,
    Option.some.injEq] at h
  obtain ⟨_, -, named, hnamed, root, hroot, rfl⟩ := h
  refine ⟨hroot, lookup_mapM hnamed, fun entry hentry => ?_⟩
  simpa using isSome_of_mapM hnamed hentry

end LoggingConfig

/-! ## The configuration of the platform -/

section Platform

variable {conf : AirflowConf} {config : LoggingConfig} {task : Json} {baseLogFolder : String}

structure BuiltFrom (conf : AirflowConf) (config : LoggingConfig) (task : Json)
    (qsLoggingType : String) : Prop where
  loggingType : conf.find "logging" "QS_LOGGING_TYPE" = some qsLoggingType
  taskBuilt : ∃ baseLogFolder, conf.taskHandler baseLogFolder = .ok task
  onlyMask : config.OnlyMask
  handlers : config.handlers = defaultHandlers task
  loggers : ∃ logLevel fabLogLevel auditLogLevel, config.loggers =
    updateLoggers (defaultLoggers logLevel fabLogLevel auditLogLevel qsLoggingType)
      conf.extraLoggerNames logLevel
  root : config.root.handlers = ["console"]

theorem get_ok_iff {category option value : String} :
    conf.get category option = .ok value ↔ conf.find category option = some value := by
  rw [AirflowConf.get]
  cases conf.find category option <;> simp

theorem exists_builtFrom (h : conf.qsDefaultLoggingConfig = .ok config) :
    ∃ task qsLoggingType, BuiltFrom conf config task qsLoggingType := by
  simp only [AirflowConf.qsDefaultLoggingConfig, PyError.bind_ok_iff] at h
  obtain ⟨logLevel, -, fabLogLevel, -, logFormat, -, dagFormat, -, auditLogLevel, -, target, -,
    qsLoggingType, htype, baseLogFolder, -, auditFormat, -, task, htask, h⟩ := h
  cases h
  refine ⟨task, qsLoggingType, get_ok_iff.1 htype, ⟨_, htask⟩, ?_, rfl, ⟨_, _, _, rfl⟩, rfl⟩
  intro name hname
  simp only [List.lookup_cons] at hname
  split at hname
  · rename_i hmask
    exact eq_of_beq hmask
  · cases hname

/-- The handler of task logs is replaced by one of a remote service, and the keyword
arguments name no filter. -/
def AirflowConf.UnfilteredTask (conf : AirflowConf) : Prop :=
  conf.getboolean "logging" "remote_logging" = .ok true ∧
    ∃ folder kwargs, conf.find "logging" "remote_base_log_folder" = some folder ∧
      (∀ start ∈ remoteLogIoPrefixes, folder.startsWith start = false) ∧
      conf.getjson "logging" "remote_task_handler_kwargs" (.obj []) = .ok (.obj kwargs) ∧
      Helm.truthy ((kwargs.lookup "filters").getD .null) = false

theorem stackdriver_unfiltered (logName keyPath : String) :
    ∃ fields, stackdriverTaskHandler logName keyPath = .obj fields ∧
      fields.lookup "filters" = none :=
  ⟨_, rfl, rfl⟩

theorem elastic_unfiltered {host : String}
    (h : conf.elasticTaskHandler baseLogFolder host = .ok task) :
    ∃ fields, task = .obj fields ∧ fields.lookup "filters" = none := by
  simp only [AirflowConf.elasticTaskHandler, PyError.bind_ok_iff] at h
  obtain ⟨_, -, _, -, _, -, _, -, _, -, _, -, _, -, _, -, _, -, h⟩ := h
  cases h
  exact ⟨_, rfl, by simp [List.lookup_cons]⟩

theorem opensearch_unfiltered {host : String}
    (h : conf.opensearchTaskHandler baseLogFolder host = .ok task) :
    ∃ fields, task = .obj fields ∧ fields.lookup "filters" = none := by
  simp only [AirflowConf.opensearchTaskHandler, PyError.bind_ok_iff] at h
  obtain ⟨_, -, _, -, _, -, _, -, _, -, _, -, _, -, _, -, _, -, h⟩ := h
  cases h
  exact ⟨_, rfl, by simp [List.lookup_cons]⟩

theorem service_unfiltered {folder elasticsearchHost opensearchHost : String}
    (h : conf.serviceTaskHandler baseLogFolder folder elasticsearchHost opensearchHost =
      .ok task) :
    ∃ fields, task = .obj fields ∧ fields.lookup "filters" = none := by
  rw [AirflowConf.serviceTaskHandler] at h
  split_ifs at h
  · obtain ⟨keyPath, -, h⟩ := PyError.bind_ok_iff.1 h
    cases h
    exact stackdriver_unfiltered _ keyPath
  · exact elastic_unfiltered h
  · exact opensearch_unfiltered h

theorem lift_ok {α : Type} {found : Except PyError α} {value : α}
    (h : (liftM found : Except LoggingError α) = .ok value) : found = .ok value := by
  cases found with
  | ok other =>
    cases h
    rfl
  | error err => cases h

theorem checkKwargs_ok {kwargs : Json} {done : Unit} (h : checkKwargs kwargs = .ok done) :
    ∃ fields, kwargs = .obj fields := by
  cases kwargs with
  | obj fields => exact ⟨fields, rfl⟩
  | _ => cases h

theorem remoteTaskHandler_filters (h : conf.remoteTaskHandler baseLogFolder = .ok task) :
    ∃ fields folder kwargs, task = .obj fields ∧
      conf.find "logging" "remote_base_log_folder" = some folder ∧
      conf.getjson "logging" "remote_task_handler_kwargs" (.obj []) = .ok (.obj kwargs) ∧
      ((∃ start ∈ remoteLogIoPrefixes, folder.startsWith start = true) ∧
          fields.lookup "filters" = some maskSecrets ∨
        (∀ start ∈ remoteLogIoPrefixes, folder.startsWith start = false) ∧
          fields.lookup "filters" = kwargs.lookup "filters") := by
  simp only [AirflowConf.remoteTaskHandler, PyError.bind_ok_iff] at h
  obtain ⟨elasticsearchHost, -, opensearchHost, -, folder, hfolder, kwargs, hkwargs, _, hdict, _,
    -, h⟩ := h
  obtain ⟨extra, rfl⟩ := checkKwargs_ok hdict
  by_cases hships : (remoteLogIoPrefixes.any fun start => folder.startsWith start) = true
  · rw [if_pos hships] at h
    obtain ⟨_, -, h⟩ := PyError.bind_ok_iff.1 h
    cases h
    refine ⟨_, folder, extra, rfl, get_ok_iff.1 hfolder, hkwargs, .inl ⟨?_, rfl⟩⟩
    simpa using hships
  · rw [if_neg hships] at h
    obtain ⟨service, hservice, h⟩ := PyError.bind_ok_iff.1 h
    obtain ⟨fields, rfl, hnone⟩ := service_unfiltered hservice
    obtain ⟨updated, hunion, hlookup⟩ := Json.union_obj fields extra
    rw [lift_ok h, Except.ok.injEq] at hunion
    refine ⟨updated, folder, extra, hunion, get_ok_iff.1 hfolder, hkwargs, .inr ⟨?_, ?_⟩⟩
    · simpa using hships
    · rw [hlookup, hnone, Option.or_none]

theorem taskHandler_filters (h : conf.taskHandler baseLogFolder = .ok task) :
    ∃ fields, task = .obj fields ∧
      (Helm.truthy ((fields.lookup "filters").getD .null) = false ↔ conf.UnfilteredTask) := by
  obtain ⟨remote, hremote, h⟩ := PyError.bind_ok_iff.1 h
  cases remote with
  | false =>
    cases h
    refine ⟨_, rfl, iff_of_false ?_ ?_⟩
    · change ¬ Helm.truthy maskSecrets = false
      decide
    rintro ⟨hon, -⟩
    rw [hremote] at hon
    cases hon
  | true =>
    obtain ⟨fields, folder, kwargs, rfl, hfolder, hkwargs, hcases⟩ := remoteTaskHandler_filters h
    refine ⟨fields, rfl, ?_⟩
    obtain ⟨⟨start, hstart, hships⟩, hmask⟩ | ⟨hnone, hsame⟩ := hcases
    · rw [hmask]
      refine iff_of_false (by decide) ?_
      rintro ⟨-, other, -, hother, hnone, -⟩
      rw [hfolder] at hother
      cases hother
      rw [hnone start hstart] at hships
      cases hships
    · rw [hsame]
      constructor
      · intro hfalsy
        exact ⟨hremote, folder, kwargs, hfolder, hnone, hkwargs, hfalsy⟩
      · rintro ⟨-, _, other, -, -, hother, hfalsy⟩
        rw [hkwargs] at hother
        cases hother
        exact hfalsy

end Platform

section Attached

variable {conf : AirflowConf} {config : LoggingConfig} {task : Json} {qsLoggingType name : String}
  {names : List String} {logLevel fabLogLevel auditLogLevel : String} {entry : LoggerConfig}

theorem mem_taskHandlers : "task" ∈ taskHandlers qsLoggingType ↔ qsLoggingType ≠ "stdout" := by
  rw [taskHandlers]
  split_ifs with hfile hstdout
  · subst hfile
    decide
  · simp [hstdout]
  · simp [hstdout]

/-- Only the logger of tasks has the handler of tasks, and only where it is not replaced. -/
theorem mem_updateLoggers
    (h : (name, entry) ∈ updateLoggers
      (defaultLoggers logLevel fabLogLevel auditLogLevel qsLoggingType) names logLevel) :
    entry.handlers = ["console"] ∨ entry.handlers = ["audit"] ∨
      entry.handlers = taskHandlers qsLoggingType ∧ "airflow.task" ∉ names := by
  rw [updateLoggers, List.mem_append] at h
  obtain hkept | hextra := h
  · obtain ⟨hmem, hname⟩ := List.mem_filter.1 hkept
    simp only [defaultLoggers, auditLogger, List.mem_cons, Prod.mk.injEq, List.not_mem_nil,
      or_false] at hmem
    obtain ⟨rfl, rfl⟩ | ⟨rfl, rfl⟩ | hmem := hmem
    · exact .inr (.inr ⟨rfl, by simpa using hname⟩)
    · exact .inl rfl
    · refine .inr (.inl ?_)
      rcases hmem with ⟨-, rfl⟩ | ⟨-, rfl⟩ | ⟨-, rfl⟩ | ⟨-, rfl⟩ | ⟨-, rfl⟩ | ⟨-, rfl⟩ | ⟨-, rfl⟩ |
        ⟨-, rfl⟩ <;> rfl
  · obtain ⟨_, -, hentry⟩ := List.mem_map.1 hextra
    cases hentry
    exact .inl rfl

theorem taskHandlers_task (h : qsLoggingType ≠ "stdout") :
    ∃ rest, taskHandlers qsLoggingType = "task" :: rest := by
  rw [taskHandlers, if_neg h]
  split_ifs
  · exact ⟨[], rfl⟩
  · exact ⟨["stdout_task"], rfl⟩

theorem lookup_airflowTask (h : "airflow.task" ∉ names) :
    (updateLoggers (defaultLoggers logLevel fabLogLevel auditLogLevel qsLoggingType) names
      logLevel).lookup "airflow.task" =
      some ⟨taskHandlers qsLoggingType, logLevel, true, ["mask_secrets_core"]⟩ := by
  rw [updateLoggers, List.lookup_append, defaultLoggers, List.filter_cons_of_pos (by simpa using h),
    List.lookup_cons_self, Option.some_or]

end Attached

section Masked

variable {conf : AirflowConf} {config : LoggingConfig} {task : Json} {qsLoggingType name : String}
  {handler : Handler String LogRecord}

def Masked (record : LogRecord) : Prop := "mask_secrets_core" ∈ record.passed

theorem runFilters_named (names : List String) (record : LogRecord) :
    runFilters (names.map namedFilter) record =
      (true, { record with passed := names.reverse ++ record.passed }) := by
  induction names generalizing record with
  | nil => rfl
  | cons name rest ih =>
    rw [List.map_cons, runFilters]
    simp [namedFilter, ih]

theorem brings_named {names : List String} (h : "mask_secrets_core" ∈ names) :
    Brings Masked (names.map namedFilter) := by
  intro record _
  rw [runFilters_named]
  simp [Masked, h]

theorem BuiltFrom.filters (h : BuiltFrom conf config task qsLoggingType) {fields : Helm.Fields}
    (hlookup : config.handlers.lookup name = some (.obj fields)) (hname : name ≠ "task") :
    fields.lookup "filters" = some maskSecrets := by
  rw [h.handlers, defaultHandlers] at hlookup
  simp only [List.lookup_cons, streamHandler] at hlookup
  split at hlookup
  · cases hlookup
    rfl
  split at hlookup
  · cases hlookup
    rfl
  split at hlookup
  · rename_i htask
    exact absurd (eq_of_beq htask) hname
  split at hlookup
  · cases hlookup
    rfl
  · cases hlookup

/-- Every handler masks, but for the one of tasks where it is left without a filter. -/
theorem BuiltFrom.brings (h : BuiltFrom conf config task qsLoggingType)
    (hhandler : config.configureHandler name = some handler)
    (hfiltered : name = "task" → ¬ conf.UnfilteredTask) : Brings Masked handler.filters := by
  obtain ⟨fields, level, hlookup, hadded, -, -⟩ := config.configureHandler_some hhandler
  have htruthy : Helm.truthy ((fields.lookup "filters").getD .null) = true := by
    by_cases hname : name = "task"
    · subst hname
      obtain ⟨baseLogFolder, hbuilt⟩ := h.taskBuilt
      obtain ⟨others, rfl, hiff⟩ := taskHandler_filters hbuilt
      rw [h.handlers] at hlookup
      cases hlookup
      simpa using fun hfalsy => hfiltered rfl (hiff.1 hfalsy)
    · rw [h.filters hlookup hname]
      decide
  obtain ⟨hfalsy, -⟩ | ⟨-, names, hnames, hmem⟩ :=
    LoggingConfig.addFilters_cases h.onlyMask hadded
  · rw [htruthy] at hfalsy
    cases hfalsy
  · rw [hnames]
    exact brings_named hmem

structure AirflowConf.UnmaskedTask (conf : AirflowConf) : Prop where
  unfiltered : conf.UnfilteredTask
  notStdout : conf.find "logging" "QS_LOGGING_TYPE" ≠ some "stdout"
  notExtra : "airflow.task" ∉ conf.extraLoggerNames

variable {loggers : Loggers} {logger : ConfiguredLogger} {entry : LoggerConfig}

theorem exists_entry (hloggers : config.dictConfig = some loggers)
    (h : loggers.find name = some logger) :
    ∃ entry, (name, entry) ∈ config.loggers ∧ config.configureLogger entry = some logger := by
  rw [Loggers.find] at h
  split_ifs at h
  rw [(config.dictConfig_some hloggers).2.1] at h
  obtain ⟨entry, hentry, hlogger⟩ := Option.bind_eq_some_iff.1 h
  exact ⟨entry, Json.mem_of_lookup hentry, hlogger⟩

theorem configured_brings (h : BuiltFrom conf config task qsLoggingType)
    (hlogger : config.configureLogger entry = some logger)
    (hfiltered : "task" ∈ entry.handlers → ¬ conf.UnfilteredTask) :
    ∀ handler ∈ logger.toLogger.handlers, Brings Masked handler.filters := by
  intro handler hhandler
  obtain ⟨-, hhandlers, -⟩ := config.configureLogger_some hlogger
  obtain ⟨name, hname, hconfigured⟩ := exists_of_mem_mapM hhandlers hhandler
  refine h.brings hconfigured ?_
  rintro rfl
  exact hfiltered hname

theorem BuiltFrom.attaches (h : BuiltFrom conf config task qsLoggingType)
    (hentry : (name, entry) ∈ config.loggers) (htask : "task" ∈ entry.handlers) :
    conf.find "logging" "QS_LOGGING_TYPE" ≠ some "stdout" ∧
      "airflow.task" ∉ conf.extraLoggerNames := by
  obtain ⟨logLevel, fabLogLevel, auditLogLevel, hloggers⟩ := h.loggers
  rw [hloggers] at hentry
  obtain hconsole | haudit | ⟨hhandlers, hnames⟩ := mem_updateLoggers hentry
  · simp [hconsole] at htask
  · simp [haudit] at htask
  · rw [hhandlers, mem_taskHandlers] at htask
    exact ⟨by simpa [h.loggingType] using htask, hnames⟩

theorem BuiltFrom.masked (h : BuiltFrom conf config task qsLoggingType)
    (hloggers : config.dictConfig = some loggers) (hmasked : ¬ conf.UnmaskedTask)
    {made : String → Bool} {levelno : Int} {written : String × LogRecord}
    (hwritten : written ∈ loggers.written made name levelno) : Masked written.2 := by
  rw [Loggers.written] at hwritten
  split_ifs at hwritten
  · refine log_brings ?_ hwritten
    intro logger hlogger
    obtain ⟨configured, hmem, rfl⟩ := List.mem_map.1 hlogger
    obtain hnamed | hroot := List.mem_append.1 hmem
    · obtain ⟨other, -, hfind⟩ := List.mem_filterMap.1 hnamed
      obtain ⟨entry, hentry, hconfigured⟩ := exists_entry hloggers hfind
      refine configured_brings h hconfigured fun htask hunfiltered => ?_
      obtain ⟨notStdout, notExtra⟩ := h.attaches hentry htask
      exact hmasked ⟨hunfiltered, notStdout, notExtra⟩
    · obtain rfl := List.mem_singleton.1 hroot
      refine configured_brings h (config.dictConfig_some hloggers).1 ?_
      rw [h.root]
      intro htask
      simp at htask
  · cases hwritten

theorem namesAbove_cons {known : String → Bool} {c : Char} (hc : c ≠ '.') (rest : List Char) :
    namesAbove known (c :: rest) = namesAbove known rest := by
  cases rest with
  | nil => rfl
  | cons next rest => rw [namesAbove, if_neg hc]

theorem namesAbove_replicate (known : String → Bool) (n : Nat) (rest : List Char) :
    namesAbove known (List.replicate n 'x' ++ rest) = namesAbove known rest := by
  induction n with
  | zero => rfl
  | succ n ih => rw [List.replicate_succ, List.cons_append, namesAbove_cons (by decide), ih]

def underTask : List Char := ['a', 'i', 'r', 'f', 'l', 'o', 'w', '.', 't', 'a', 's', 'k', '.']

def belowTask (n : Nat) : String := String.ofList (underTask ++ List.replicate n 'x')

theorem namesAbove_belowTask {known : String → Bool} (hknown : known "airflow.task" = true)
    (n : Nat) : ∃ rest, namesAbove known (belowTask n).toList.reverse = "airflow.task" :: rest := by
  simp only [belowTask, String.toList_ofList, List.reverse_append, List.reverse_replicate,
    namesAbove_replicate]
  exact ⟨namesAbove known (underTask.reverse.drop 1), by simp [underTask, namesAbove, hknown]⟩

theorem length_belowTask (n : Nat) : (belowTask n).length = n + 13 := by
  rw [← String.length_toList, belowTask, String.toList_ofList, List.length_append,
    List.length_replicate, Nat.add_comm]
  rfl

theorem exists_belowTask_free {α : Type} (entries : List (String × α)) :
    ∃ least, ∀ n ≥ least, entries.lookup (belowTask n) = none := by
  induction entries with
  | nil => exact ⟨0, fun _ _ => rfl⟩
  | cons entry rest ih =>
    obtain ⟨key, value⟩ := entry
    obtain ⟨least, hleast⟩ := ih
    refine ⟨max least key.length, fun n hn => ?_⟩
    have hne : belowTask n ≠ key := by
      intro hsame
      have hlength := congrArg String.length hsame
      rw [length_belowTask] at hlength
      omega
    rw [List.lookup_cons, beq_false_of_ne hne]
    exact hleast n (by omega)

theorem belowTask_not_root (n : Nat) : belowTask n ∉ rootNames := by
  intro hroot
  have hlength := length_belowTask n
  obtain hempty | hroot := List.mem_cons.1 hroot
  · rw [hempty] at hlength
    simp at hlength
  · rw [List.mem_singleton.1 hroot] at hlength
    have hfour : "root".length = 4 := by decide
    omega

theorem BuiltFrom.unfiltered (h : BuiltFrom conf config task qsLoggingType)
    (hunfiltered : conf.UnfilteredTask)
    (hhandler : config.configureHandler "task" = some handler) : handler.filters = [] := by
  obtain ⟨fields, level, hlookup, hadded, -, -⟩ := config.configureHandler_some hhandler
  obtain ⟨baseLogFolder, hbuilt⟩ := h.taskBuilt
  obtain ⟨others, rfl, hiff⟩ := taskHandler_filters hbuilt
  rw [h.handlers] at hlookup
  cases hlookup
  obtain ⟨-, hnone⟩ | ⟨htruthy, -⟩ := LoggingConfig.addFilters_cases h.onlyMask hadded
  · exact hnone
  · rw [hiff.2 hunfiltered] at htruthy
    cases htruthy

theorem BuiltFrom.find_task (h : BuiltFrom conf config task qsLoggingType)
    (hloggers : config.dictConfig = some loggers) (hunmasked : conf.UnmaskedTask) :
    ∃ logger level handler rest, loggers.find "airflow.task" = some logger ∧
      logger.toLogger = ⟨handler :: rest, true⟩ ∧ handler.filters = [] ∧
      handler.wants = fun record => decide (level ≤ record.levelno) := by
  obtain ⟨logLevel, fabLogLevel, auditLogLevel, hentries⟩ := h.loggers
  obtain ⟨-, hlookup, hall⟩ := config.dictConfig_some hloggers
  have hentry : config.loggers.lookup "airflow.task" =
      some ⟨taskHandlers qsLoggingType, logLevel, true, ["mask_secrets_core"]⟩ := by
    rw [hentries]
    exact lookup_airflowTask hunmasked.notExtra
  obtain ⟨logger, hlogger⟩ := Option.isSome_iff_exists.1 (hall _ (Json.mem_of_lookup hentry))
  obtain ⟨-, hhandlers, hpropagate⟩ := config.configureLogger_some hlogger
  have hnotStdout : qsLoggingType ≠ "stdout" := by
    rintro rfl
    exact hunmasked.notStdout h.loggingType
  obtain ⟨others, hothers⟩ := taskHandlers_task hnotStdout
  simp only [hothers] at hhandlers
  obtain ⟨handler, rest, hhandler, -, hsplit⟩ := mapM_cons_some.1 hhandlers
  obtain ⟨_, level, -, -, -, hwants⟩ := config.configureHandler_some hhandler
  refine ⟨logger, level, handler, rest, ?_, ?_, h.unfiltered hunmasked.unfiltered hhandler,
    hwants⟩
  · rw [Loggers.find, if_neg (by decide), hlookup, hentry]
    exact hlogger
  · obtain ⟨_, _, handlers, propagate⟩ := logger
    simp only at hsplit hpropagate
    rw [hsplit, hpropagate]

theorem BuiltFrom.not_masked (h : BuiltFrom conf config task qsLoggingType)
    (hloggers : config.dictConfig = some loggers) (hunmasked : conf.UnmaskedTask)
    (made : String → Bool) :
    ∃ name levelno, ∃ written ∈ loggers.written made name levelno, ¬ Masked written.2 := by
  obtain ⟨logger, level, handler, rest, hfind, hlogger, hfilters, hwants⟩ :=
    h.find_task hloggers hunmasked
  obtain ⟨least, hfree⟩ := exists_belowTask_free config.loggers
  have hroot : belowTask least ∉ rootNames := belowTask_not_root least
  have hnone : loggers.find (belowTask least) = none := by
    rw [Loggers.find, if_neg hroot, (config.dictConfig_some hloggers).2.1, hfree least le_rfl]
    rfl
  obtain ⟨above, hchain⟩ : ∃ above, loggers.chain made (belowTask least) = logger :: above := by
    let known (name : String) : Bool := made name || (loggers.find name).isSome
    have hknown : known "airflow.task" = true := by simp [known, hfind]
    obtain ⟨names, hnames⟩ := namesAbove_belowTask hknown least
    rw [Loggers.chain, List.filterMap_cons, hnone, hnames, List.filterMap_cons, hfind]
    exact ⟨_, rfl⟩
  obtain ⟨levelno, hlevel, heffective, hpositive⟩ : ∃ levelno : Int, level ≤ levelno ∧
      loggers.effectiveLevel made (belowTask least) ≤ levelno ∧ 0 < levelno :=
    ⟨max (max 1 (loggers.effectiveLevel made (belowTask least))) level, by omega, by omega,
      by omega⟩
  let record : LogRecord := ⟨levelno, []⟩
  have hfirst : (handler.name, (runFilters handler.filters record).2) ∈
      callHandlers (⟨handler :: rest, true⟩ :: above.map ConfiguredLogger.toLogger) record := by
    apply callHandlers_first
    · rw [hwants]
      exact decide_eq_true hlevel
    · rw [hfilters]
      rfl
  have hwritten : (handler.name, record) ∈ loggers.written made (belowTask least) levelno := by
    rw [Loggers.written, if_pos ⟨hpositive, heffective⟩, Loggers.own, if_neg hroot, hnone, hchain,
      List.map_cons, hlogger]
    rwa [hfilters] at hfirst
  exact ⟨_, _, _, hwritten, by simp [Masked, record]⟩

/-- Secrets are masked in everything that is written, under any logger and at any level,
exactly where no remote service takes the task logs without a filter of its own, whatever
other loggers the program makes. -/
theorem masked_everywhere_iff (hconfig : conf.qsDefaultLoggingConfig = .ok config)
    (hloggers : config.dictConfig = some loggers) (made : String → Bool) :
    (∀ name levelno, ∀ written ∈ loggers.written made name levelno, Masked written.2) ↔
      ¬ conf.UnmaskedTask := by
  obtain ⟨task, qsLoggingType, h⟩ := exists_builtFrom hconfig
  constructor
  · intro hall hunmasked
    obtain ⟨name, levelno, written, hwritten, hnot⟩ := h.not_masked hloggers hunmasked made
    exact hnot (hall name levelno written hwritten)
  · intro hmasked name levelno written hwritten
    exact h.masked hloggers hmasked hwritten

/-- Airflow's defaults where the platform sets no others, with task logs to Elasticsearch. -/
def elasticOptions : List ((String × String) × String) :=
  [(("logging", "LOGGING_LEVEL"), "INFO"), (("logging", "FAB_LOGGING_LEVEL"), "WARNING"),
    (("logging", "LOG_FORMAT"), "%(message)s"),
    (("logging", "DAG_PROCESSOR_LOG_FORMAT"), "%(message)s"),
    (("logging", "AUDIT_LOG_LEVEL"), "INFO"), (("logging", "DAG_PROCESSOR_LOG_TARGET"), "file"),
    (("logging", "QS_LOGGING_TYPE"), "filesystem"),
    (("logging", "BASE_LOG_FOLDER"), "/opt/airflow/logs"),
    (("logging", "LOG_FORMAT_AUDIT"), "%(message)s"),
    (("logging", "remote_base_log_folder"), ""), (("opensearch", "HOST"), ""),
    (("elasticsearch", "HOST"), "http://elasticsearch:9200"),
    (("elasticsearch", "END_OF_LOG_MARK"), "end_of_log"), (("elasticsearch", "frontend"), ""),
    (("elasticsearch", "JSON_FIELDS"), "asctime, filename, lineno, levelname, message"),
    (("elasticsearch", "TARGET_INDEX"), "_all"), (("elasticsearch", "HOST_FIELD"), "host"),
    (("elasticsearch", "OFFSET_FIELD"), "offset")]

def elasticConf : AirflowConf where
  find category option := elasticOptions.lookup (category, option)
  getboolean category option :=
    .ok ((category, option) ∈ [("logging", "remote_logging"), ("elasticsearch", "WRITE_TO_ES")])
  getjson _ _ fallback := .ok fallback
  expanduser path := path

theorem elastic_logs_unmasked : ∃ config loggers,
    elasticConf.qsDefaultLoggingConfig = .ok config ∧ config.dictConfig = some loggers ∧
      ∃ name levelno, ∃ written ∈ loggers.written (fun _ => false) name levelno,
        ¬ Masked written.2 := by
  have hsome : (elasticConf.qsDefaultLoggingConfig.toOption.bind
      LoggingConfig.dictConfig).isSome = true := by decide +kernel
  obtain ⟨loggers, hbind⟩ := Option.isSome_iff_exists.1 hsome
  obtain ⟨config, hoption, hloggers⟩ := Option.bind_eq_some_iff.1 hbind
  have hconfig : elasticConf.qsDefaultLoggingConfig = .ok config := by
    cases hbuilt : elasticConf.qsDefaultLoggingConfig with
    | error err => simp [hbuilt, Except.toOption] at hoption
    | ok other => simpa [hbuilt, Except.toOption] using hoption
  refine ⟨config, loggers, hconfig, hloggers, ?_⟩
  have hunmasked : elasticConf.UnmaskedTask :=
    { unfiltered := ⟨rfl, "", [], rfl, by decide +kernel, rfl, rfl⟩
      notStdout := by decide
      notExtra := by decide }
  have hnot := mt (masked_everywhere_iff hconfig hloggers fun _ => false).1
    (not_not_intro hunmasked)
  simpa only [not_forall, exists_prop] using hnot

end Masked

end QubershipAirflow.Logging
