import QubershipAirflow.Library.Json
import QubershipAirflow.Library.Uri

/-! The connection URIs that the secrets backend puts together from the properties of a
database, and the properties that come back out of them. -/
namespace QubershipAirflow.Secrets

/-- `setting.removeprefix("CERT_PATH:")` where the setting starts with it. -/
def certPath (setting : String) : Option String :=
  let marker := "CERT_PATH:".toList
  if marker <+: setting.toList then some (String.ofList (setting.toList.drop marker.length))
  else none

/-- `"tls" in connection_data and connection_data["tls"] in positive_values` -/
def usesTls (connectionData : Json) : Except PyError Bool := do
  if ← connectionData.contains "tls" then return (← connectionData.getItem "tls").isPositive
  else return false

/-- The value of `dbName`, else of `name`, else the given one. -/
def databaseName (connectionData default : Json) : Except PyError Json := do
  if ← connectionData.contains "dbName" then connectionData.getItem "dbName"
  else if ← connectionData.contains "name" then connectionData.getItem "name"
  else return default

def pgSslMode (setting : String) (tls : Bool) : String :=
  if tls then
    if setting = "ENABLED" then "sslmode=verify-ca"
    else match certPath setting with
      | some path => "sslmode=verify-ca&sslrootcert=" ++ path
      | none => "sslmode=require"
  else "sslmode=disable"

/-- `setting` is `DBAAS_SSL_VERIFICATION_MAIN`. -/
def parsePgConnection (repr : Json → String) (setting : String) (connectionData : Json) :
    Except PyError String := do
  let dbname ← databaseName connectionData .null
  let username ← connectionData.getItem "username"
  let password ← connectionData.getItem "password"
  let host ← connectionData.getItem "host"
  let port ← connectionData.getItem "port"
  let address := username.format repr ++ ":" ++ password.format repr ++ "@" ++
    host.format repr ++ ":" ++ port.format repr ++ "/" ++ dbname.format repr
  let tls ← usesTls connectionData
  return "postgresql://" ++ address ++ "?" ++ pgSslMode setting tls

def redisSslMode (setting : String) (tls : Bool) : String :=
  if tls then
    if setting = "ENABLED" ∨ setting = "CERT_PATH:system" then "?ssl_cert_reqs=CERT_REQUIRED"
    else match certPath setting with
      | some path => "?ssl_cert_reqs=CERT_REQUIRED&ssl_ca_certs=" ++ path
      | none => "?ssl_cert_reqs=CERT_NONE"
  else ""

/-- The address for the properties that `get_redis_database` returned. The default
name is `DBAAS_REDIS_DB_NAME_PREFIX`. -/
def getRedisConnection (repr : Json → String) (setting redisDbName : String)
    (redisConnection : Json) : Except PyError String := do
  let dbname ← databaseName redisConnection (.str redisDbName)
  let tls ← usesTls redisConnection
  let redisPrefix := if tls then "rediss://" else "redis://"
  let host ← redisConnection.getItem "host"
  let port ← redisConnection.getItem "port"
  let password ← redisConnection.getItem "password"
  return redisPrefix ++ "default:" ++ password.format repr ++ "@" ++ host.format repr ++
    ":" ++ port.format repr ++ "/" ++ dbname.format repr ++ redisSslMode setting tls

section ReadBack

open Uri

def pgCertificate (setting : String) (tls : Bool) : Option String :=
  if tls then certPath setting else none

/-- `system` stands for the client's own trusted roots. -/
def redisCertificate (setting : String) (tls : Bool) : Option String :=
  if tls ∧ setting ≠ "CERT_PATH:system" then certPath setting else none

structure Database where
  user : String
  password : String
  host : String
  port : String
  name : String
  certificate : Option String

/-- The properties that a source returned are those of the database: texts, a host
without delimiters and a numeric port. -/
structure Offers (repr : Json → String) (data default : Json)
    (certificate : Bool → Option String) (database : Database) : Prop where
  password : data.getItem "password" = .ok (.str database.password)
  host : data.getItem "host" = .ok (.str database.host)
  port : ∃ port, data.getItem "port" = .ok port ∧ port.format repr = database.port
  name : databaseName data default = .ok (.str database.name)
  certificate : ∃ tls, usesTls data = .ok tls ∧ certificate tls = database.certificate
  plainHost : ∀ c ∈ database.host.toList, c ∉ ['/', '?', '#', '@', ':']
  numericPort : ∀ c ∈ database.port.toList, c.isDigit = true

def Database.reading (database : Database) : Reading where
  user := octets database.user.toList
  password := octets database.password.toList
  host := octets database.host.toList
  port := octets database.port.toList
  database := octets database.name.toList
  certificate := database.certificate.map fun path => octets path.toList

/-- No property holds an escape, or a delimiter of its place in the URI. -/
def Database.Intact (database : Database) (consumer : Consumer) : Prop :=
  Survives (':' :: consumer.userinfoStops) database.user.toList ∧
  Survives consumer.userinfoStops database.password.toList ∧
  hasEscape database.host.toList = false ∧ Survives ['?', '#'] database.name.toList ∧
  ∀ path, database.certificate = some path → Survives consumer.queryStops path.toList

/-- The parts as the code puts them together, with the parameter that stands before the
certificate's. -/
def Database.raw (database : Database) (mode : Option (String × String)) : Raw where
  user := database.user.toList
  password := database.password.toList
  host := database.host.toList
  port := database.port.toList
  database := database.name.toList
  query := mode.map fun parameter => ⟨parameter.1.toList, parameter.2.toList,
    database.certificate.map String.toList⟩

theorem reads_back_iff {repr : Json → String} {data default : Json}
    {certificate : Bool → Option String} {database : Database}
    (hoffers : Offers repr data default certificate database) (consumer : Consumer)
    {certificateParam : List Char} (mode : Option (String × String))
    (hmode : database.certificate.isSome → mode.isSome)
    (hplain : ∀ query, (database.raw mode).query = some query → query.Plain certificateParam)
    {scheme : List Char} (hne : scheme ≠ []) (hscheme : ∀ x ∈ scheme, x ∉ [':', '/', '?', '#']) :
    consumer.read certificateParam ((database.raw mode).compose scheme certificateParam) =
      some database.reading ↔ database.Intact consumer := by
  obtain ⟨c, scheme, rfl⟩ := List.exists_cons_of_ne_nil hne
  have hport : ∀ x ∈ (database.raw mode).port, x ∉ ['/', '?', '#', '@', ':'] := by
    intro x hmem hstop
    have hdigit := hoffers.numericPort x hmem
    simp only [List.mem_cons, List.not_mem_nil, or_false] at hstop
    rcases hstop with rfl | rfl | rfl | rfl | rfl <;> simp at hdigit
  have hcertificate : (database.raw mode).query.bind Query.certificate =
      database.certificate.map String.toList := by
    cases mode with
    | none => cases hnone : database.certificate <;> simp_all [Database.raw]
    | some parameter => rfl
  have hreading : (database.raw mode).reading = database.reading := by
    simp only [Raw.reading, hcertificate, Database.reading, Option.map_map]
    rfl
  have hread : consumer.read certificateParam
      ((database.raw mode).compose (c :: scheme) certificateParam) =
        some (database.raw mode).reading ↔ _ :=
    read_compose_iff hscheme hoffers.plainHost hport hplain
  rw [hreading, hcertificate] at hread
  rw [hread]
  simp only [Database.Intact, Database.raw, Option.map_eq_some_iff, forall_exists_index, and_imp,
    forall_apply_eq_imp_iff₂]

def pgMode (setting : String) (tls : Bool) : String × String :=
  ("sslmode",
    if tls then
      if setting = "ENABLED" ∨ (certPath setting).isSome then "verify-ca" else "require"
    else "disable")

def redisMode (setting : String) (tls : Bool) : Option (String × String) :=
  if tls then
    some ("ssl_cert_reqs",
      if setting = "ENABLED" ∨ (certPath setting).isSome then "CERT_REQUIRED" else "CERT_NONE")
  else none

theorem certPath_enabled : certPath "ENABLED" = none := by decide

theorem certPath_system : certPath "CERT_PATH:system" = some "system" := by decide

theorem pgSslMode_text (setting : String) (tls : Bool) :
    (pgSslMode setting tls).toList =
      Query.text ⟨(pgMode setting tls).1.toList, (pgMode setting tls).2.toList,
        (pgCertificate setting tls).map String.toList⟩ "sslrootcert".toList := by
  unfold pgSslMode pgMode pgCertificate Query.text
  cases tls with
  | false => simp
  | true =>
    by_cases henabled : setting = "ENABLED"
    · simp [henabled, certPath_enabled]
    · cases certPath setting <;> simp [henabled]

theorem redisSslMode_text (setting : String) (tls : Bool) :
    (redisSslMode setting tls).toList =
      match redisMode setting tls with
      | some mode => '?' :: Query.text ⟨mode.1.toList, mode.2.toList,
          (redisCertificate setting tls).map String.toList⟩ "ssl_ca_certs".toList
      | none => [] := by
  unfold redisSslMode redisMode redisCertificate Query.text
  cases tls with
  | false => simp
  | true =>
    by_cases henabled : setting = "ENABLED"
    · simp [henabled, certPath_enabled]
    · by_cases hsystem : setting = "CERT_PATH:system"
      · simp [hsystem, certPath_system]
      · cases certPath setting <;> simp [henabled, hsystem]

section Generated

variable {repr : Json → String} {setting redisDbName : String} {data : Json} {database : Database}

/-- What `parse_pg_connection` returns, as a text put together from raw parts. -/
theorem parsePgConnection_compose
    (hoffers : Offers repr data .null (pgCertificate setting) database)
    (huser : data.getItem "username" = .ok (.str database.user)) :
    ∃ tls uri, usesTls data = .ok tls ∧ pgCertificate setting tls = database.certificate ∧
      parsePgConnection repr setting data = .ok uri ∧
      uri.toList = (database.raw (some (pgMode setting tls))).compose
        "postgresql".toList "sslrootcert".toList := by
  obtain ⟨port, hport, hformat⟩ := hoffers.port
  obtain ⟨tls, htls, hcertificate⟩ := hoffers.certificate
  refine ⟨tls, "postgresql://" ++ (database.user ++ ":" ++ database.password ++ "@" ++
    database.host ++ ":" ++ database.port ++ "/" ++ database.name) ++ "?" ++
    pgSslMode setting tls, htls, hcertificate, ?_, ?_⟩
  · simp only [parsePgConnection, hoffers.name, huser, hoffers.password, hoffers.host, hport, htls,
      bind, Except.bind, pure, Except.pure, Json.format_str, hformat]
  · simp [Raw.compose, Raw.authority, Raw.tail, Database.raw, pgSslMode_text, hcertificate]

def redisScheme (tls : Bool) : List Char := (if tls then "rediss" else "redis").toList

theorem redisScheme_plain (tls : Bool) :
    redisScheme tls ≠ [] ∧ ∀ x ∈ redisScheme tls, x ∉ [':', '/', '?', '#'] := by
  cases tls <;> simp [redisScheme]

theorem getRedisConnection_compose
    (hoffers : Offers repr data (.str redisDbName) (redisCertificate setting) database)
    (huser : database.user = "default") :
    ∃ tls uri, usesTls data = .ok tls ∧ redisCertificate setting tls = database.certificate ∧
      getRedisConnection repr setting redisDbName data = .ok uri ∧
      uri.toList = (database.raw (redisMode setting tls)).compose
        (redisScheme tls) "ssl_ca_certs".toList := by
  obtain ⟨port, hport, hformat⟩ := hoffers.port
  obtain ⟨tls, htls, hcertificate⟩ := hoffers.certificate
  refine ⟨tls, (if tls then "rediss://" else "redis://") ++ "default:" ++ database.password ++
    "@" ++ database.host ++ ":" ++ database.port ++ "/" ++ database.name ++
    redisSslMode setting tls, htls, hcertificate, ?_, ?_⟩
  · simp only [getRedisConnection, hoffers.name, hoffers.password, hoffers.host, hport, htls,
      bind, Except.bind, pure, Except.pure, Json.format_str, hformat]
  · cases tls <;>
      simp [Raw.compose, Raw.authority, Raw.tail, Database.raw, redisSslMode_text, hcertificate,
        huser, redisMode, redisScheme]

theorem pgMode_plain (tls : Bool) (query : Query)
    (h : (database.raw (some (pgMode setting tls))).query = some query) :
    query.Plain "sslrootcert".toList := by
  cases h
  unfold pgMode
  refine ⟨by simp, ?_, by simp, by simp⟩
  simp only
  split_ifs <;> simp

theorem redisMode_plain (tls : Bool) (query : Query)
    (h : (database.raw (redisMode setting tls)).query = some query) :
    query.Plain "ssl_ca_certs".toList := by
  unfold redisMode at h
  cases tls with
  | false => simp [Database.raw] at h
  | true =>
    cases h
    refine ⟨by simp, ?_, by simp, by simp⟩
    simp only
    split_ifs <;> simp

/-- Both URIs are read back as the properties that went into them exactly when these
hold neither a delimiter of their place nor an escape. -/
theorem generated_uris_read_back_iff (repr : Json → String) (setting redisDbName : String)
    (consumer : Consumer) {pgData redisData : Json} {pg redis : Database}
    (hpg : Offers repr pgData .null (pgCertificate setting) pg)
    (hredis : Offers repr redisData (.str redisDbName) (redisCertificate setting) redis)
    (huser : pgData.getItem "username" = .ok (.str pg.user))
    (hdefault : redis.user = "default") :
    ((∃ uri, parsePgConnection repr setting pgData = .ok uri ∧
        consumer.read "sslrootcert".toList uri.toList = some pg.reading) ↔
      pg.Intact consumer) ∧
    ((∃ uri, getRedisConnection repr setting redisDbName redisData = .ok uri ∧
        consumer.read "ssl_ca_certs".toList uri.toList = some redis.reading) ↔
      redis.Intact consumer) := by
  constructor
  · obtain ⟨tls, uri, -, -, hparse, hcompose⟩ := parsePgConnection_compose hpg huser
    have hread := reads_back_iff hpg consumer (some (pgMode setting tls)) (fun _ => rfl)
      (pgMode_plain tls) (by simp : "postgresql".toList ≠ []) (by simp)
    rw [← hcompose] at hread
    simp only [hparse, Except.ok.injEq, exists_eq_left', hread]
  · obtain ⟨tls, uri, -, hcertificate, hparse, hcompose⟩ :=
      getRedisConnection_compose hredis hdefault
    have hmode : redis.certificate.isSome → (redisMode setting tls).isSome := by
      rw [← hcertificate]
      cases tls <;> simp [redisCertificate, redisMode]
    have hread := reads_back_iff hredis consumer (redisMode setting tls) hmode (redisMode_plain tls)
      (redisScheme_plain tls).1 (redisScheme_plain tls).2
    rw [← hcompose] at hread
    simp only [hparse, Except.ok.injEq, exists_eq_left', hread]

def sampleData (password : String) : Json :=
  .obj [("host", .str "pg"), ("port", .int 5432), ("username", .str "airflow"),
    ("password", .str password), ("name", .str "airflow_db")]

def sampleDatabase (user password : String) : Database :=
  ⟨user, password, "pg", "5432", "airflow_db", none⟩

theorem sample_offers (default : Json) (certificate : Bool → Option String)
    (hnone : certificate false = none) (user password : String) :
    Offers (fun _ => "") (sampleData password) default certificate
      (sampleDatabase user password) where
  password := rfl
  host := rfl
  port := ⟨.int 5432, rfl, rfl⟩
  name := rfl
  certificate := ⟨false, rfl, hnone⟩
  plainHost := by simp [sampleDatabase]
  numericPort := by simp [sampleDatabase]

theorem sample_intact {user : String} (huser : user = "airflow" ∨ user = "default") :
    (sampleDatabase user "secret").Intact ⟨false, false⟩ := by
  refine ⟨⟨?_, hasEscape_of_no_percent ?_⟩, ⟨?_, hasEscape_of_no_percent ?_⟩,
    hasEscape_of_no_percent ?_, ⟨?_, hasEscape_of_no_percent ?_⟩, ?_⟩
  all_goals rcases huser with rfl | rfl <;> simp [sampleDatabase, Consumer.userinfoStops]

theorem plain_password_read_back :
    (∃ uri, parsePgConnection (fun _ => "") "DISABLED" (sampleData "secret") = .ok uri ∧
      Consumer.read ⟨false, false⟩ "sslrootcert".toList uri.toList =
        some (sampleDatabase "airflow" "secret").reading) ∧
    ∃ uri, getRedisConnection (fun _ => "") "DISABLED" "1" (sampleData "secret") = .ok uri ∧
      Consumer.read ⟨false, false⟩ "ssl_ca_certs".toList uri.toList =
        some (sampleDatabase "default" "secret").reading := by
  obtain ⟨hpg, hredis⟩ := generated_uris_read_back_iff (fun _ => "") "DISABLED" "1" ⟨false, false⟩
    (sample_offers .null (pgCertificate "DISABLED") rfl "airflow" "secret")
    (sample_offers (.str "1") (redisCertificate "DISABLED") rfl "default" "secret") rfl rfl
  exact ⟨hpg.mpr (sample_intact (.inl rfl)), hredis.mpr (sample_intact (.inr rfl))⟩

/-- A `/` in the password ends the authority. -/
theorem slash_password_not_read_back :
    ¬ ∀ (consumer : Consumer) (data : Json) (database : Database),
      Offers (fun _ => "") data .null (pgCertificate "DISABLED") database →
      data.getItem "username" = .ok (.str database.user) →
      ∃ uri, parsePgConnection (fun _ => "") "DISABLED" data = .ok uri ∧
        consumer.read "sslrootcert".toList uri.toList = some database.reading := by
  intro h
  obtain ⟨uri, hparse, hread⟩ := h ⟨false, false⟩ (sampleData "a/b")
    (sampleDatabase "airflow" "a/b") (sample_offers .null _ rfl "airflow" "a/b") rfl
  cases hparse
  exact absurd hread (by decide)

end Generated

end ReadBack

end QubershipAirflow.Secrets
