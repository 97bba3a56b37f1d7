import QubershipAirflow.Secrets.Backend

/-! What DBaaS and the mounted Secrets have to answer for a lookup to raise nothing, and
which properties they deliver then. -/
namespace QubershipAirflow.Secrets

open PyError (bind_ok_iff map_ok_iff)

variable {Connection : Type} (backend : Backend Connection)

section Conditions

/-- The namespace for the request can be read, if it is to come from the entry. -/
def NamespaceGiven (fromConfig : Bool) (entry : Json) : Prop :=
  fromConfig = true → ∃ classifier ns, entry.getItem "classifier" = .ok classifier ∧
    classifier.getItem "namespace" = .ok ns

def Response.Holds (response : Response Json) (data : Json) : Prop :=
  ∃ body, response.content = some body ∧ body.getItem "connectionProperties" = .ok data

/-- DBaaS answers in a way that the code expects: the properties by classifier, those
of the created database, or a refusal of both. -/
inductive Backend.Answers (lookup create : Request) : Option Json → Prop where
  | found {response data} (hlookup : backend.sources.dbaas lookup = .ok response)
      (hstatus : response.statusCode = 200) (hdata : response.Holds data) :
      Answers lookup create (some data)
  | created {first second data} (hlookup : backend.sources.dbaas lookup = .ok first)
      (hmissing : first.statusCode ≠ 200) (hcreate : backend.sources.dbaas create = .ok second)
      (hstatus : second.statusCode = 201 ∨ second.statusCode = 200) (hdata : second.Holds data) :
      Answers lookup create (some data)
  | refused {first second} (hlookup : backend.sources.dbaas lookup = .ok first)
      (hmissing : first.statusCode ≠ 200) (hcreate : backend.sources.dbaas create = .ok second)
      (hstatus : ¬ (second.statusCode = 201 ∨ second.statusCode = 200)) :
      Answers lookup create none

def Backend.Asks (entry : Json) (lookup create : Request) : Prop :=
  ∃ ns dbType classifier service,
    backend.requestNamespace backend.settings.dbaasConnNamespaceFromConfig entry = .ok ns ∧
    entry.getItem "type" = .ok dbType ∧ entry.getItem "classifier" = .ok classifier ∧
    originService entry = .ok service ∧
    lookup = backend.byClassifierRequest dbType classifier service ∧
    create = backend.databaseRequest entry ns

def Backend.AnswersEntry (entry : Json) (outcome : Option Json) : Prop :=
  ∃ lookup create, backend.Asks entry lookup create ∧ backend.Answers lookup create outcome

/-- The mounted Secret of the connection is there, of the right type, with these
properties. -/
def Backend.Mounted (connId : String) (data : Json) : Prop :=
  ∃ metadata, backend.sources.mounted (connectionDirectory backend.airflow.lower connId) =
      ⟨some (.obj metadata), some data⟩ ∧
    backend.airflow.lower (((metadata.lookup "type").getD (.str "")).format backend.airflow.repr) =
      backend.airflow.lower "postgresql"

def Backend.Delivers (connId : String) (entry data : Json) : Prop :=
  NamespaceGiven backend.settings.dbaasConnNamespaceFromConfig entry ∧
    if backend.settings.dbaasOperatorEnabled then backend.Mounted connId data
    else backend.AnswersEntry entry (some data)

/-- Host, port, user, password and database name are there, and none of them is null. -/
def Complete (data : Json) : Prop :=
  (∀ key ∈ ["host", "port", "username", "password"],
      ∃ value, data.getItem key = .ok value ∧ value ≠ .null) ∧
    ∃ name, databaseName data .null = .ok name ∧ name ≠ .null

end Conditions

section Dbaas

variable {backend}

theorem connectionProperties_ok_iff {response : Response Json} {data : Json} :
    response.connectionProperties = .ok data ↔ response.Holds data := by
  unfold Response.connectionProperties Response.loads Response.Holds
  rw [bind_ok_iff]
  cases response.content <;> simp

theorem requestProperties_ok_iff {lookup create : Request} {data : Json} :
    backend.requestProperties lookup create = .ok data ↔
      ∃ outcome, backend.Answers lookup create outcome ∧ data = outcome.getD .null := by
  constructor
  · intro h
    obtain ⟨first, hfirst, h⟩ := bind_ok_iff.mp h
    split_ifs at h with hstatus
    · exact ⟨some data, .found hfirst hstatus (connectionProperties_ok_iff.mp h), rfl⟩
    · obtain ⟨second, hsecond, h⟩ := bind_ok_iff.mp h
      split_ifs at h with haccepted
      · exact ⟨some data, .created hfirst hstatus hsecond haccepted
          (connectionProperties_ok_iff.mp h), rfl⟩
      · cases h
        exact ⟨none, .refused hfirst hstatus hsecond haccepted, rfl⟩
  · rintro ⟨outcome, hanswers, rfl⟩
    cases hanswers with
    | found hlookup hstatus hdata =>
      refine bind_ok_iff.mpr ⟨_, hlookup, ?_⟩
      rw [if_pos hstatus]
      exact connectionProperties_ok_iff.mpr hdata
    | created hlookup hmissing hcreate hstatus hdata =>
      refine bind_ok_iff.mpr ⟨_, hlookup, ?_⟩
      rw [if_neg hmissing]
      refine bind_ok_iff.mpr ⟨_, hcreate, ?_⟩
      rw [if_pos hstatus]
      exact connectionProperties_ok_iff.mpr hdata
    | refused hlookup hmissing hcreate hstatus =>
      refine bind_ok_iff.mpr ⟨_, hlookup, ?_⟩
      rw [if_neg hmissing]
      refine bind_ok_iff.mpr ⟨_, hcreate, ?_⟩
      rw [if_neg hstatus]
      rfl

theorem requestNamespace_ok_iff (backend : Backend Connection) {fromConfig : Bool} {entry : Json} :
    (∃ ns, backend.requestNamespace fromConfig entry = .ok ns) ↔
      NamespaceGiven fromConfig entry := by
  unfold Backend.requestNamespace NamespaceGiven
  cases fromConfig with
  | false => simp
  | true =>
    simp only [if_true, true_implies, bind_ok_iff]
    exact exists_comm

theorem getItem_obj {entry value : Json} {key : String} (h : entry.getItem key = .ok value) :
    ∃ fields, entry = .obj fields ∧ fields.lookup key = some value := by
  cases entry with
  | obj fields =>
    simp only [Json.getItem] at h
    cases hlookup : fields.lookup key with
    | none => simp [hlookup] at h
    | some found =>
      simp only [hlookup, Except.ok.injEq] at h
      exact ⟨fields, rfl, h ▸ hlookup⟩
  | _ => cases h

theorem contains_obj_iff {fields : List (String × Json)} {key : String} :
    (Json.obj fields).contains key = .ok (fields.lookup key).isSome := rfl

theorem originService_ok {entry value : Json} {key : String} (h : entry.getItem key = .ok value) :
    ∃ service, originService entry = .ok service := by
  obtain ⟨fields, rfl, -⟩ := getItem_obj h
  unfold originService
  cases hservice : fields.lookup "originService" with
  | none => exact ⟨none, by simp [Json.contains, hservice, bind, Except.bind, pure, Except.pure]⟩
  | some service =>
    exact ⟨some service, by
      simp [Json.contains, Json.getItem, hservice, bind, Except.bind, Functor.map, Except.map]⟩

theorem getConnFromDbaas_rest_iff {entry dbType classifier data : Json} {connId : String}
    (htype : entry.getItem "type" = .ok dbType)
    (hclassifier : entry.getItem "classifier" = .ok classifier)
    (hrest : ¬ (backend.settings.dbaasOperatorEnabled ∧ dbType.isText "postgresql")) :
    backend.getConnFromDbaas entry connId = .ok data ↔
      ∃ outcome, backend.AnswersEntry entry outcome ∧ data = outcome.getD .null := by
  obtain ⟨service, hservice⟩ := originService_ok htype
  constructor
  · intro h
    obtain ⟨ns, hns, h⟩ := bind_ok_iff.mp h
    simp only [htype, hclassifier, hservice, if_neg hrest, bind, Except.bind] at h
    obtain ⟨outcome, hanswers, hdata⟩ := requestProperties_ok_iff.mp h
    exact ⟨outcome, ⟨_, _, ⟨ns, dbType, classifier, service, hns, htype, hclassifier, hservice,
      rfl, rfl⟩, hanswers⟩, hdata⟩
  · rintro ⟨outcome, ⟨_, _, ⟨ns, dbType', classifier', service', hns, htype', hclassifier',
      hservice', rfl, rfl⟩, hanswers⟩, hdata⟩
    obtain rfl : dbType' = dbType := by rw [htype] at htype'; exact (Except.ok.inj htype').symm
    obtain rfl : classifier' = classifier := by
      rw [hclassifier] at hclassifier'; exact (Except.ok.inj hclassifier').symm
    refine bind_ok_iff.mpr ⟨ns, hns, ?_⟩
    simp only [htype, hclassifier, hservice', if_neg hrest, bind, Except.bind]
    exact requestProperties_ok_iff.mpr ⟨outcome, hanswers, hdata⟩

theorem getMountedProperties_ok_iff {connId : String} {data : Json} (hdata : data ≠ .null) :
    backend.getMountedProperties (connectionDirectory backend.airflow.lower connId)
      "postgresql" = .ok data ↔ backend.Mounted connId data := by
  unfold Backend.getMountedProperties Backend.readMountedProperties Backend.Mounted
  obtain ⟨metadata, properties⟩ :=
    backend.sources.mounted (connectionDirectory backend.airflow.lower connId)
  cases metadata with
  | none => simp [hdata.symm]
  | some metadata =>
    cases properties with
    | none => cases metadata <;> simp [hdata.symm]
    | some properties =>
      cases metadata with
      | obj fields =>
        by_cases htype : backend.airflow.lower
            (((fields.lookup "type").getD (.str "")).format backend.airflow.repr) =
              backend.airflow.lower "postgresql"
        · simp [htype]
        · simp [htype, hdata.symm]
      | _ => simp

theorem getConnFromDbaas_pg_iff {entry dbType classifier data : Json} {connId : String}
    (htype : entry.getItem "type" = .ok dbType) (hpg : dbType.isText "postgresql" = true)
    (hclassifier : entry.getItem "classifier" = .ok classifier) (hdata : data ≠ .null) :
    backend.getConnFromDbaas entry connId = .ok data ↔ backend.Delivers connId entry data := by
  unfold Backend.Delivers
  by_cases hoperator : backend.settings.dbaasOperatorEnabled
  · rw [if_pos hoperator, ← getMountedProperties_ok_iff hdata, ← requestNamespace_ok_iff backend]
    unfold Backend.getConnFromDbaas
    rw [bind_ok_iff]
    simp only [htype, hoperator, hpg, and_self, if_true, bind, Except.bind, exists_and_right]
  · have hrest : ¬ (backend.settings.dbaasOperatorEnabled ∧ dbType.isText "postgresql") :=
      fun h => hoperator h.1
    rw [if_neg hoperator, getConnFromDbaas_rest_iff htype hclassifier hrest,
      ← requestNamespace_ok_iff backend]
    constructor
    · rintro ⟨outcome, hanswers, rfl⟩
      cases outcome with
      | none => exact absurd rfl hdata
      | some data =>
        obtain ⟨_, _, ⟨ns, _, _, _, hns, -⟩, -⟩ := id hanswers
        exact ⟨⟨ns, hns⟩, hanswers⟩
    · rintro ⟨-, hanswers⟩
      exact ⟨some data, hanswers, rfl⟩

theorem parsePgConnection_data {repr : Json → String} {setting : String} {data : Json}
    {uri : String} (h : parsePgConnection repr setting data = .ok uri) :
    data ≠ .null ∧ uri ≠ "" := by
  obtain ⟨name, -, h⟩ := bind_ok_iff.mp h
  obtain ⟨username, husername, h⟩ := bind_ok_iff.mp h
  simp only [bind_ok_iff] at h
  obtain ⟨password, -, host, -, port, -, tls, -, huri⟩ := h
  refine ⟨?_, ?_⟩
  · rintro rfl
    cases husername
  · cases huri
    intro hempty
    simpa using congrArg String.toList hempty

theorem usesTls_obj (fields : List (String × Json)) : ∃ tls, usesTls (.obj fields) = .ok tls := by
  unfold usesTls
  cases htls : fields.lookup "tls" with
  | none => exact ⟨false, by simp [Json.contains, htls, bind, Except.bind, pure, Except.pure]⟩
  | some value =>
    exact ⟨value.isPositive, by
      simp [Json.contains, Json.getItem, htls, bind, Except.bind, pure, Except.pure]⟩

theorem parsePgConnection_of_complete {repr : Json → String} {setting : String} {data : Json}
    (h : Complete data) : ∃ uri, parsePgConnection repr setting data = .ok uri := by
  obtain ⟨hkeys, name, hname, -⟩ := h
  obtain ⟨host, hhost, -⟩ := hkeys "host" (by simp)
  obtain ⟨port, hport, -⟩ := hkeys "port" (by simp)
  obtain ⟨username, husername, -⟩ := hkeys "username" (by simp)
  obtain ⟨password, hpassword, -⟩ := hkeys "password" (by simp)
  obtain ⟨fields, rfl, -⟩ := getItem_obj hhost
  obtain ⟨tls, htls⟩ := usesTls_obj fields
  unfold parsePgConnection
  simp only [hname, husername, hpassword, hhost, hport, htls, bind, Except.bind]
  exact ⟨_, rfl⟩

end Dbaas

end QubershipAirflow.Secrets
