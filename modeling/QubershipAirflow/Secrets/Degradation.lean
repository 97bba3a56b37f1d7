import QubershipAirflow.Secrets.KafkaTopics

/-! When a lookup ends as it should whatever the sources do: with a connection built from
a complete set of properties, else with the local backend's answer. -/
namespace QubershipAirflow.Secrets

open PyError (bind_ok_iff map_ok_iff)

variable {Connection : Type} (backend : Backend Connection)

section Lookup

/-- The id has a DBaaS entry of type `postgresql`. -/
def Backend.HasPostgresql (connId : String) (entry : Json) : Prop :=
  backend.properties.lookup (connId ++ "_dbaas") = some entry ∧
    ∃ dbType, entry.getItem "type" = .ok dbType ∧ dbType.isText "postgresql" = true

def Backend.HasKafka (connId : String) (entry maasData patch : Json) : Prop :=
  backend.properties.lookup (connId ++ "_maas") = some entry ∧
    (∃ maasType, entry.getItem "maas_type" = .ok maasType ∧ maasType.isText "kafka" = true) ∧
    entry.getItem "maas_request_data" = .ok maasData ∧
    entry.getItem "connection_properties" = .ok patch

def Backend.DeliversTopic (maasData : Json) (topic : KafkaTopic) : Prop :=
  ∃ ns response,
    backend.requestNamespace backend.settings.maasConnNamespaceFromConfig maasData = .ok ns ∧
    backend.sources.maas (backend.topicRequest maasData ns) = .ok response ∧
    (response.statusCode = 201 ∨ response.statusCode = 200) ∧ response.content = some topic

def Backend.pgUri (data : Json) : Except PyError String :=
  parsePgConnection backend.airflow.repr backend.settings.sslVerificationMain data

/-- The connection is built from a complete set of properties that a source delivers. -/
inductive Backend.Builds (connId : String) (connection : Connection) : Prop where
  | postgresql {entry data uri} (hentry : backend.HasPostgresql connId entry)
      (hdata : backend.Delivers connId entry data) (hcomplete : Complete data)
      (huri : backend.pgUri data = .ok uri)
      (hconnection : backend.airflow.deserializeConnection connId uri = .ok connection)
  | kafka {entry maasData patch topic uri}
      (hfirst : ∀ entry, ¬ backend.HasPostgresql connId entry)
      (hentry : backend.HasKafka connId entry maasData patch)
      (hdata : backend.DeliversTopic maasData topic)
      (huri : backend.parseKafkaConnection (some topic) patch = .ok (some uri))
      (hconnection : backend.airflow.deserializeConnection connId uri = .ok connection)

/-- The lookup raises nothing: it returns what a complete set builds, else what the local
backend returns. -/
def Backend.Degrades (connId : String) : Prop :=
  ∃ answer, backend.getConnection connId = .ok answer ∧
    ((∃ connection, answer = some connection ∧ backend.Builds connId connection) ∨
      (∀ connection, ¬ backend.Builds connId connection) ∧ answer = backend.localAnswer connId)

/-- The entry's source delivers a set that Airflow accepts. The set is complete, or it
makes by chance the connection that the local backend has. -/
def Backend.PostgresqlUsable (connId : String) (entry : Json) : Prop :=
  ∃ data uri connection, backend.Delivers connId entry data ∧ backend.pgUri data = .ok uri ∧
    backend.airflow.deserializeConnection connId uri = .ok connection ∧
    (Complete data ∨ backend.localAnswer connId = some connection)

/-- MaaS delivers a readable topic, and Airflow accepts the connection, if there is one. -/
def Backend.KafkaUsable (connId : String) (maasData patch : Json) : Prop :=
  ∃ topic, backend.DeliversTopic maasData topic ∧ backend.TopicReadable topic patch ∧
    ∀ uri, backend.parseKafkaConnection (some topic) patch = .ok (some uri) →
      ∃ connection, backend.airflow.deserializeConnection connId uri = .ok connection

structure Backend.Usable (connId : String) : Prop where
  postgresql : ∀ entry, backend.HasPostgresql connId entry → backend.PostgresqlUsable connId entry
  other : ∀ entry, backend.properties.lookup (connId ++ "_dbaas") = some entry →
    ¬ backend.HasPostgresql connId entry → ∃ outcome, backend.AnswersEntry entry outcome
  kafka : (∀ entry, ¬ backend.HasPostgresql connId entry) → ∀ entry maasData patch,
    backend.HasKafka connId entry maasData patch → backend.KafkaUsable connId maasData patch

variable {backend}

def Backend.answerFor (backend : Backend Connection) (connId : String) :
    Option String → Except PyError (Option Connection)
  | some uri =>
      if uri ≠ "" then some <$> backend.airflow.deserializeConnection connId uri
      else .ok (backend.localAnswer connId)
  | none => .ok (backend.localAnswer connId)

def Backend.thenMaas (backend : Backend Connection) (connId : String) :
    Option String → Except PyError (Option String)
  | some value => .ok (some value)
  | none => backend.fromMaas connId

theorem getConnection_ok_iff {connId : String} {answer : Option Connection} :
    backend.getConnection connId = .ok answer ↔
      ∃ value, (∃ first, backend.fromDbaas connId = .ok first ∧
        backend.thenMaas connId first = .ok value) ∧
        backend.answerFor connId value = .ok answer := by
  unfold Backend.getConnection Backend.getConnValue
  rw [bind_ok_iff]
  refine exists_congr fun value => and_congr ?_ (by cases value <;> exact Iff.rfl)
  by_cases hempty : backend.properties.isEmpty = true
  · have hnil : backend.properties = [] := List.isEmpty_iff.mp hempty
    rw [if_pos hempty]
    simp [Backend.fromDbaas, Backend.fromMaas, Backend.thenMaas, hnil, pure, Except.pure]
  · rw [if_neg hempty, bind_ok_iff]
    refine exists_congr fun first => and_congr Iff.rfl ?_
    cases first <;> rfl

theorem getConnection_postgresql_iff {connId : String} {entry : Json} {answer : Option Connection}
    (hentry : backend.HasPostgresql connId entry) :
    backend.getConnection connId = .ok answer ↔
      ∃ data uri connection, backend.Delivers connId entry data ∧
        backend.pgUri data = .ok uri ∧
        backend.airflow.deserializeConnection connId uri = .ok connection ∧
        answer = some connection := by
  obtain ⟨hlookup, dbType, htype, hpg⟩ := hentry
  obtain ⟨_, classifier, -, hclassifier⟩ := backend.dbaasFormed connId entry hlookup
  have hfrom : ∀ first, backend.fromDbaas connId = .ok first ↔
      ∃ data uri, backend.getConnFromDbaas entry connId = .ok data ∧
        backend.pgUri data = .ok uri ∧ first = some uri := by
    intro first
    simp only [Backend.fromDbaas, hlookup, bind_ok_iff, htype, Except.ok.injEq, exists_eq_left',
      hpg, if_true, map_ok_iff, Backend.pgUri]
    tauto
  have hdelivers : ∀ data uri, backend.pgUri data = .ok uri →
      (backend.getConnFromDbaas entry connId = .ok data ↔ backend.Delivers connId entry data) :=
    fun data uri huri => getConnFromDbaas_pg_iff htype hpg hclassifier
      (parsePgConnection_data huri).1
  rw [getConnection_ok_iff]
  constructor
  · rintro ⟨value, ⟨first, hfirst, hvalue⟩, hanswer⟩
    obtain ⟨data, uri, hdata, huri, rfl⟩ := (hfrom first).mp hfirst
    cases hvalue
    simp only [Backend.answerFor, if_pos (parsePgConnection_data huri).2, map_ok_iff] at hanswer
    obtain ⟨connection, hconnection, rfl⟩ := hanswer
    exact ⟨data, uri, connection, (hdelivers data uri huri).mp hdata, huri, hconnection, rfl⟩
  · rintro ⟨data, uri, connection, hdata, huri, hconnection, rfl⟩
    refine ⟨some uri, ⟨some uri, (hfrom _).mpr ⟨data, uri,
      (hdelivers data uri huri).mpr hdata, huri, rfl⟩, rfl⟩, ?_⟩
    simp only [Backend.answerFor, if_pos (parsePgConnection_data huri).2, map_ok_iff]
    exact ⟨connection, hconnection, rfl⟩

theorem fromDbaas_other_iff {connId : String} {first : Option String}
    (hother : ∀ entry, ¬ backend.HasPostgresql connId entry) :
    backend.fromDbaas connId = .ok first ↔
      first = none ∧ ∀ entry, backend.properties.lookup (connId ++ "_dbaas") = some entry →
        ∃ outcome, backend.AnswersEntry entry outcome := by
  unfold Backend.fromDbaas
  cases hlookup : backend.properties.lookup (connId ++ "_dbaas") with
  | none => simp [eq_comm]
  | some entry =>
    obtain ⟨dbType, classifier, htype, hclassifier⟩ := backend.dbaasFormed connId entry hlookup
    have htext : dbType.isText "postgresql" = false := by
      rw [← Bool.not_eq_true]
      exact fun hpg => hother entry ⟨hlookup, dbType, htype, hpg⟩
    have hrest : ¬ (backend.settings.dbaasOperatorEnabled ∧ dbType.isText "postgresql") := by
      simp [htext]
    simp only [bind_ok_iff, htype, Except.ok.injEq, exists_eq_left', htext,
      getConnFromDbaas_rest_iff htype hclassifier hrest, Bool.false_eq_true, if_false, pure,
      Except.pure, Option.some.injEq, forall_eq']
    constructor
    · rintro ⟨data, ⟨outcome, hanswers, -⟩, rfl⟩
      exact ⟨rfl, outcome, hanswers⟩
    · rintro ⟨rfl, outcome, hanswers⟩
      exact ⟨_, ⟨outcome, hanswers, rfl⟩, rfl⟩

theorem fromMaas_none {connId : String}
    (hother : ∀ entry maasData patch, ¬ backend.HasKafka connId entry maasData patch) :
    backend.fromMaas connId = .ok none := by
  unfold Backend.fromMaas
  cases hlookup : backend.properties.lookup (connId ++ "_maas") with
  | none => rfl
  | some entry =>
    obtain ⟨maasType, maasData, patch, htype, hdata, hpatch⟩ :=
      backend.maasFormed connId entry hlookup
    have htext : maasType.isText "kafka" = false := by
      rw [← Bool.not_eq_true]
      exact fun hkafka => hother entry maasData patch
        ⟨hlookup, ⟨maasType, htype, hkafka⟩, hdata, hpatch⟩
    simp [htype, hdata, hpatch, htext, bind, Except.bind, pure, Except.pure]

theorem getKafkaConnFromMaas_ok_iff {maasData : Json} {topic : KafkaTopic} :
    backend.getKafkaConnFromMaas maasData = .ok (some topic) ↔
      backend.DeliversTopic maasData topic := by
  unfold Backend.getKafkaConnFromMaas Backend.DeliversTopic Response.loads
  simp only [bind_ok_iff]
  refine exists_congr fun ns => ?_
  constructor
  · rintro ⟨hns, response, hresponse, h⟩
    split_ifs at h with hstatus
    · obtain ⟨found, hfound, hsame⟩ := map_ok_iff.mp h
      cases hsame
      cases hcontent : response.content with
      | none => simp [hcontent] at hfound
      | some content =>
        simp only [hcontent, Except.ok.injEq] at hfound
        exact ⟨response, hns, hresponse, hstatus, hfound ▸ hcontent⟩
    · cases h
  · rintro ⟨response, hns, hresponse, hstatus, hcontent⟩
    refine ⟨hns, response, hresponse, ?_⟩
    rw [if_pos hstatus, hcontent]
    rfl

/-- MaaS's `None` is parsed like a topic, and raises. -/
theorem fromMaas_kafka_iff {connId : String} {entry maasData patch : Json} {value : Option String}
    (hentry : backend.HasKafka connId entry maasData patch) :
    backend.fromMaas connId = .ok value ↔
      ∃ topic, backend.DeliversTopic maasData topic ∧
        backend.parseKafkaConnection (some topic) patch = .ok value := by
  obtain ⟨hlookup, ⟨maasType, htype, hkafka⟩, hdata, hpatch⟩ := hentry
  simp only [Backend.fromMaas, hlookup, htype, hdata, hpatch, hkafka, bind_ok_iff,
    Except.ok.injEq, exists_eq_left', if_true]
  constructor
  · rintro ⟨topic, htopic, hvalue⟩
    cases topic with
    | none => cases hvalue
    | some topic => exact ⟨topic, getKafkaConnFromMaas_ok_iff.mp htopic, hvalue⟩
  · rintro ⟨topic, htopic, hvalue⟩
    exact ⟨some topic, getKafkaConnFromMaas_ok_iff.mpr htopic, hvalue⟩

theorem Complete.ne_null {data : Json} (h : Complete data) : data ≠ .null := by
  rintro rfl
  obtain ⟨value, hvalue, -⟩ := h.1 "host" (by simp)
  cases hvalue

theorem delivers_unique {connId : String} {entry data data' : Json}
    (hentry : backend.HasPostgresql connId entry) (hdata : backend.Delivers connId entry data)
    (hdata' : backend.Delivers connId entry data') (hne : data ≠ .null) (hne' : data' ≠ .null) :
    data = data' := by
  obtain ⟨hlookup, dbType, htype, hpg⟩ := hentry
  obtain ⟨_, classifier, -, hclassifier⟩ := backend.dbaasFormed connId entry hlookup
  have h := (getConnFromDbaas_pg_iff htype hpg hclassifier hne).mpr hdata
  rw [(getConnFromDbaas_pg_iff htype hpg hclassifier hne').mpr hdata'] at h
  exact (Except.ok.inj h).symm

theorem degrades_postgresql_iff {connId : String} {entry : Json}
    (hentry : backend.HasPostgresql connId entry) :
    backend.Degrades connId ↔ backend.PostgresqlUsable connId entry := by
  have hsame : ∀ entry', backend.HasPostgresql connId entry' → entry' = entry := by
    intro entry' hentry'
    have h := hentry'.1
    rw [hentry.1] at h
    exact (Option.some.inj h).symm
  constructor
  · rintro ⟨answer, hanswer, ⟨connection, -, hbuilds⟩ | ⟨-, hlocal⟩⟩
    · cases hbuilds with
      | postgresql hentry' hdata hcomplete huri hconnection =>
        obtain rfl := hsame _ hentry'
        exact ⟨_, _, connection, hdata, huri, hconnection, .inl hcomplete⟩
      | kafka hfirst => exact absurd hentry (hfirst entry)
    · obtain ⟨data, uri, connection, hdata, huri, hconnection, rfl⟩ :=
        (getConnection_postgresql_iff hentry).mp hanswer
      exact ⟨data, uri, connection, hdata, huri, hconnection, .inr hlocal.symm⟩
  · rintro ⟨data, uri, connection, hdata, huri, hconnection, hcase⟩
    refine ⟨some connection, (getConnection_postgresql_iff hentry).mpr
      ⟨data, uri, connection, hdata, huri, hconnection, rfl⟩, ?_⟩
    by_cases hcomplete : Complete data
    · exact .inl ⟨connection, rfl, .postgresql hentry hdata hcomplete huri hconnection⟩
    · refine .inr ⟨fun other hbuilds => ?_, (hcase.resolve_left hcomplete).symm⟩
      cases hbuilds with
      | postgresql hentry' hdata' hcomplete' =>
        obtain rfl := hsame _ hentry'
        obtain rfl := delivers_unique hentry hdata hdata' (parsePgConnection_data huri).1
          hcomplete'.ne_null
        exact hcomplete hcomplete'
      | kafka hfirst => exact hfirst entry hentry

theorem hasKafka_unique {connId : String} {entry maasData patch entry' maasData' patch' : Json}
    (h : backend.HasKafka connId entry maasData patch)
    (h' : backend.HasKafka connId entry' maasData' patch') :
    maasData' = maasData ∧ patch' = patch := by
  obtain ⟨hlookup, -, hdata, hpatch⟩ := h
  obtain ⟨hlookup', -, hdata', hpatch'⟩ := h'
  rw [hlookup] at hlookup'
  cases hlookup'
  rw [hdata] at hdata'
  rw [hpatch] at hpatch'
  exact ⟨(Except.ok.inj hdata').symm, (Except.ok.inj hpatch').symm⟩

theorem builds_kafka_iff {connId : String} {entry maasData patch : Json} {topic : KafkaTopic}
    {value : Option String} (hother : ∀ entry, ¬ backend.HasPostgresql connId entry)
    (hentry : backend.HasKafka connId entry maasData patch)
    (htopic : backend.DeliversTopic maasData topic)
    (hvalue : backend.parseKafkaConnection (some topic) patch = .ok value)
    (connection : Connection) :
    backend.Builds connId connection ↔ ∃ uri, value = some uri ∧
      backend.airflow.deserializeConnection connId uri = .ok connection := by
  constructor
  · rintro (⟨hentry', -⟩ | ⟨-, hentry', htopic', huri, hconnection⟩)
    · exact absurd hentry' (hother _)
    · obtain ⟨rfl, rfl⟩ := hasKafka_unique hentry hentry'
      have hsame := getKafkaConnFromMaas_ok_iff.mpr htopic'
      rw [getKafkaConnFromMaas_ok_iff.mpr htopic] at hsame
      cases hsame
      rw [hvalue] at huri
      exact ⟨_, Except.ok.inj huri, hconnection⟩
  · rintro ⟨uri, rfl, hconnection⟩
    exact .kafka hother hentry htopic hvalue hconnection

theorem parseKafkaConnection_ne {topic : Option KafkaTopic} {patch : Json} {uri : String}
    (h : backend.parseKafkaConnection topic patch = .ok (some uri)) : uri ≠ "" := by
  cases topic with
  | none => cases h
  | some topic =>
    obtain ⟨addresses, -, h⟩ := bind_ok_iff.mp h
    split at h
    · cases h
    · obtain ⟨credential, -, h⟩ := bind_ok_iff.mp h
      split at h
      · cases h
      · obtain ⟨found, -, h⟩ := bind_ok_iff.mp h
        split at h
        · cases h
        · obtain ⟨extra, -, h⟩ := bind_ok_iff.mp h
          cases h
          exact backend.airflow.kafkaUri_ne extra

def Backend.EntryAnswered (backend : Backend Connection) (connId : String) : Prop :=
  ∀ entry, backend.properties.lookup (connId ++ "_dbaas") = some entry →
    ∃ outcome, backend.AnswersEntry entry outcome

theorem getConnection_other_iff {connId : String} {answer : Option Connection}
    (hother : ∀ entry, ¬ backend.HasPostgresql connId entry) :
    backend.getConnection connId = .ok answer ↔ backend.EntryAnswered connId ∧
      ∃ value, backend.fromMaas connId = .ok value ∧
        backend.answerFor connId value = .ok answer := by
  rw [getConnection_ok_iff]
  simp only [fromDbaas_other_iff hother, and_assoc, exists_and_left, exists_eq_left,
    Backend.thenMaas, Backend.EntryAnswered]

theorem degrades_kafka_iff {connId : String} {entry maasData patch : Json}
    (hother : ∀ entry, ¬ backend.HasPostgresql connId entry)
    (hentry : backend.HasKafka connId entry maasData patch) :
    backend.Degrades connId ↔
      backend.EntryAnswered connId ∧ backend.KafkaUsable connId maasData patch := by
  simp only [Backend.Degrades, getConnection_other_iff hother]
  constructor
  · rintro ⟨answer, ⟨hdbaas, value, hvalue, hanswer⟩, -⟩
    obtain ⟨topic, htopic, hparse⟩ := (fromMaas_kafka_iff hentry).mp hvalue
    have hreadable := parseKafkaConnection_ok_iff.mp ⟨value, hparse⟩
    refine ⟨hdbaas, topic, htopic, hreadable, fun uri huri => ?_⟩
    rw [hparse] at huri
    cases huri
    simp only [Backend.answerFor, if_pos (parseKafkaConnection_ne hparse), map_ok_iff] at hanswer
    obtain ⟨connection, hconnection, -⟩ := hanswer
    exact ⟨connection, hconnection⟩
  · rintro ⟨hdbaas, topic, htopic, hreadable, haccepts⟩
    obtain ⟨value, hparse⟩ := parseKafkaConnection_ok_iff.mpr hreadable
    have hvalue := (fromMaas_kafka_iff hentry).mpr ⟨topic, htopic, hparse⟩
    have hbuilds := builds_kafka_iff hother hentry htopic hparse
    cases value with
    | none =>
      refine ⟨backend.localAnswer connId, ⟨hdbaas, none, hvalue, rfl⟩, .inr ⟨?_, rfl⟩⟩
      intro connection
      simp [hbuilds]
    | some uri =>
      obtain ⟨connection, hconnection⟩ := haccepts uri hparse
      refine ⟨some connection, ⟨hdbaas, some uri, hvalue, ?_⟩, .inl ⟨connection, rfl, ?_⟩⟩
      · simp only [Backend.answerFor, if_pos (parseKafkaConnection_ne hparse), map_ok_iff]
        exact ⟨connection, hconnection, rfl⟩
      · exact (hbuilds connection).mpr ⟨uri, rfl, hconnection⟩

theorem degrades_local_iff {connId : String}
    (hother : ∀ entry, ¬ backend.HasPostgresql connId entry)
    (hnone : ∀ entry maasData patch, ¬ backend.HasKafka connId entry maasData patch) :
    backend.Degrades connId ↔ backend.EntryAnswered connId := by
  simp only [Backend.Degrades, getConnection_other_iff hother]
  constructor
  · rintro ⟨answer, ⟨hdbaas, -⟩, -⟩
    exact hdbaas
  · intro hdbaas
    refine ⟨backend.localAnswer connId, ⟨hdbaas, none, fromMaas_none hnone, rfl⟩, .inr ⟨?_, rfl⟩⟩
    rintro connection (⟨hentry, -⟩ | ⟨-, hentry, -⟩)
    · exact hother _ hentry
    · exact hnone _ _ _ hentry

theorem degrades_other_iff {connId : String}
    (hother : ∀ entry, ¬ backend.HasPostgresql connId entry) :
    backend.Degrades connId ↔ backend.EntryAnswered connId ∧
      ∀ entry maasData patch, backend.HasKafka connId entry maasData patch →
        backend.KafkaUsable connId maasData patch := by
  by_cases hkafka : ∃ entry maasData patch, backend.HasKafka connId entry maasData patch
  · obtain ⟨entry, maasData, patch, hentry⟩ := hkafka
    rw [degrades_kafka_iff hother hentry]
    refine and_congr_right fun _ => ⟨fun husable entry' maasData' patch' hentry' => ?_,
      fun husable => husable entry maasData patch hentry⟩
    obtain ⟨rfl, rfl⟩ := hasKafka_unique hentry hentry'
    exact husable
  · have hnone : ∀ entry maasData patch, ¬ backend.HasKafka connId entry maasData patch :=
      fun entry maasData patch h => hkafka ⟨entry, maasData, patch, h⟩
    rw [degrades_local_iff hother hnone]
    exact (and_iff_left fun entry maasData patch h => absurd h (hnone entry maasData patch)).symm

theorem getConnection_degrades_iff (backend : Backend Connection) (connId : String) :
    backend.Degrades connId ↔ backend.Usable connId := by
  by_cases hpg : ∃ entry, backend.HasPostgresql connId entry
  · obtain ⟨entry, hentry⟩ := hpg
    rw [degrades_postgresql_iff hentry]
    constructor
    · intro husable
      refine ⟨fun entry' hentry' => ?_, fun entry' hlookup hnot => ?_,
        fun hother => absurd hentry (hother entry)⟩
      · have hlookup := hentry'.1
        rw [hentry.1] at hlookup
        cases hlookup
        exact husable
      · rw [hentry.1] at hlookup
        cases hlookup
        exact absurd hentry hnot
    · exact fun husable => husable.postgresql entry hentry
  · have hother : ∀ entry, ¬ backend.HasPostgresql connId entry := fun entry h => hpg ⟨entry, h⟩
    rw [degrades_other_iff hother]
    constructor
    · rintro ⟨hdbaas, hkafka⟩
      exact ⟨fun entry h => absurd h (hother entry), fun entry hlookup _ => hdbaas entry hlookup,
        fun _ => hkafka⟩
    · intro husable
      exact ⟨fun entry hlookup => husable.other entry hlookup (hother entry), husable.kafka hother⟩

def refusedBackend : Backend String where
  settings := ⟨"http://dbaas", "http://maas", "airflow", false, true, false, true, "DISABLED"⟩
  sources := ⟨fun _ => .ok ⟨404, none⟩, fun _ => .ok ⟨404, none⟩, fun _ => ⟨none, none⟩⟩
  airflow := {
    deserializeConnection := fun _ uri => .ok uri
    kafkaUri := fun _ => "kafka://"
    kafkaUri_ne := by simp
    pemOfCert := .ok
    lower := id
    repr := fun _ => ""
    localConnection := fun _ => none }
  properties := [("db_dbaas", .obj [("type", .str "postgresql"), ("classifier", .obj [])])]
  dbaasFormed := by
    intro connId entry hlookup
    simp only [List.lookup_cons, List.lookup_nil] at hlookup
    split at hlookup
    · cases hlookup
      exact ⟨_, _, rfl, rfl⟩
    · cases hlookup
  maasFormed := by
    intro connId entry hlookup
    have hkey : (connId ++ "_maas" == "db_dbaas") = false := by
      rw [beq_eq_false_iff_ne]
      intro hsame
      simpa using congrArg (fun key => key.toList.reverse.take 5) hsame
    simp [List.lookup_cons, hkey] at hlookup

theorem refused_getConnection_raises :
    ¬ ∀ (backend : Backend String) (connId : String), backend.Degrades connId := by
  intro h
  obtain ⟨answer, hanswer, -⟩ := h refusedBackend "db"
  have hraises : refusedBackend.getConnection "db" = .error .typeError := by rfl
  rw [hraises] at hanswer
  cases hanswer

end Lookup

end QubershipAirflow.Secrets
