import QubershipAirflow.Secrets.Backend

/-! The files of a mounted Secret and what the backend makes of them. Whatever the operator
or the kubelet leaves there is one of five kinds, and only two exceptions are expected. -/
namespace QubershipAirflow.Secrets

/-- A file as `json.loads(path.read_text())` finds it: not there, not readable, bytes that
are no text, a text that is no JSON, or a JSON document. -/
inductive MountedFile where
  | missing
  | unreadable
  | undecodable
  | malformed
  | document (value : Json)

def MountedFile.loads : MountedFile → Except PyError Json
  | missing | unreadable => .error .osError
  | undecodable => .error (.valueError "invalid start byte")
  | malformed => .error (.valueError "Expecting value")
  | document value => .ok value

structure SecretFiles where
  metadata : MountedFile
  connectionProperties : MountedFile

def SecretFiles.loads (files : SecretFiles) : Except PyError (Json × Json) := do
  let metadata ← files.metadata.loads
  let properties ← files.connectionProperties.loads
  return (metadata, properties)

variable {Connection : Type}

/-- `str(metadata.get("type", ""))` -/
def actualType (airflow : Airflow Connection) : Json → Except PyError String
  | .obj metadata => .ok (((metadata.lookup "type").getD (.str "")).format airflow.repr)
  | _ => .error .attributeError

def SecretFiles.readMountedProperties (files : SecretFiles) (airflow : Airflow Connection)
    (directory dbType : String) : Except PyError (Option Json) :=
  match files.loads with
  | .error .osError | .error (.valueError _) => .ok none
  | .error err => .error err
  | .ok (metadata, properties) => do
      let actual ← actualType airflow metadata
      if airflow.lower actual ≠ airflow.lower dbType then
        throw (.valueError ("DBaaS secret " ++ directory ++ " is for a " ++ actual ++
          " database, but " ++ dbType ++ " is expected."))
      else return some properties

/-- Python's `None` is `null`. -/
def SecretFiles.getMountedProperties (files : SecretFiles) (airflow : Airflow Connection)
    (directory dbType : String) : Except PyError Json :=
  match files.readMountedProperties airflow directory dbType with
  | .ok properties => .ok (properties.getD .null)
  | .error (.valueError _) => .ok .null
  | .error err => .error err

def SecretFiles.secret (files : SecretFiles) : MountedSecret where
  metadata := files.metadata.loads.toOption
  connectionProperties := files.connectionProperties.loads.toOption

section Files

variable {files : SecretFiles} {airflow : Airflow Connection} {directory dbType : String}
  {metadata properties : Json}

@[simp] theorem MountedFile.loads_document (value : Json) :
    (document value).loads = .ok value := rfl

theorem MountedFile.loads_cases (file : MountedFile) :
    (∃ value, file = .document value) ∨
      (file.loads = .error .osError ∨ ∃ message, file.loads = .error (.valueError message)) := by
  cases file with
  | document value => exact .inl ⟨value, rfl⟩
  | missing | unreadable => exact .inr (.inl rfl)
  | undecodable | malformed => exact .inr (.inr ⟨_, rfl⟩)

theorem MountedFile.loads_toOption {file : MountedFile} {value : Json}
    (h : file.loads.toOption = some value) : file = .document value := by
  cases file <;> simp [loads, Except.toOption] at h
  rw [h]

theorem SecretFiles.getMountedProperties_incomplete
    (h : ¬ ∃ metadata properties, files = ⟨.document metadata, .document properties⟩) :
    files.getMountedProperties airflow directory dbType = .ok .null := by
  have hloads : files.loads = .error .osError ∨
      ∃ message, files.loads = .error (.valueError message) := by
    obtain ⟨first, second⟩ := files
    rcases first.loads_cases with ⟨metadata, rfl⟩ | hfirst
    · rcases second.loads_cases with ⟨properties, rfl⟩ | hsecond
      · exact absurd ⟨metadata, properties, rfl⟩ h
      · rcases hsecond with hsecond | ⟨message, hsecond⟩
        · exact .inl (by simp [loads, hsecond, bind, Except.bind])
        · exact .inr ⟨message, by simp [loads, hsecond, bind, Except.bind]⟩
    · rcases hfirst with hfirst | ⟨message, hfirst⟩
      · exact .inl (by simp [loads, hfirst, bind, Except.bind])
      · exact .inr ⟨message, by simp [loads, hfirst, bind, Except.bind]⟩
  unfold getMountedProperties readMountedProperties
  rcases hloads with hloads | ⟨message, hloads⟩ <;> rw [hloads] <;> rfl

theorem SecretFiles.getMountedProperties_noObject (h : ∀ fields, metadata ≠ .obj fields) :
    (⟨.document metadata, .document properties⟩ : SecretFiles).getMountedProperties airflow
      directory dbType = .error .attributeError := by
  cases metadata with
  | obj fields => exact absurd rfl (h fields)
  | _ => rfl

theorem SecretFiles.getMountedProperties_obj (fields : List (String × Json)) :
    (⟨.document (.obj fields), .document properties⟩ : SecretFiles).getMountedProperties airflow
        directory dbType =
      if airflow.lower (((fields.lookup "type").getD (.str "")).format airflow.repr) =
        airflow.lower dbType then .ok properties else .ok .null := by
  unfold getMountedProperties readMountedProperties
  by_cases h : airflow.lower (((fields.lookup "type").getD (.str "")).format airflow.repr) =
      airflow.lower dbType
  · simp [loads, actualType, bind, Except.bind, pure, Except.pure, h]
  · simp [loads, actualType, bind, Except.bind, pure, Except.pure, h, throw, throwThe,
      MonadExceptOf.throw]

theorem Backend.getMountedProperties_eq (backend : Backend Connection)
    (h : backend.sources.mounted directory = files.secret) :
    backend.getMountedProperties directory dbType =
      files.getMountedProperties backend.airflow directory dbType := by
  by_cases hfiles : ∃ metadata properties, files = ⟨.document metadata, .document properties⟩
  · obtain ⟨metadata, properties, rfl⟩ := hfiles
    have hsecret : backend.sources.mounted directory = ⟨some metadata, some properties⟩ := h
    unfold Backend.getMountedProperties Backend.readMountedProperties
    rw [hsecret]
    cases metadata with
    | obj fields =>
      rw [SecretFiles.getMountedProperties_obj]
      by_cases hsame : backend.airflow.lower
          (((fields.lookup "type").getD (.str "")).format backend.airflow.repr) =
            backend.airflow.lower dbType
      · simp [hsame]
      · simp [hsame]
    | _ => rfl
  · rw [SecretFiles.getMountedProperties_incomplete hfiles]
    have hsecret : backend.readMountedProperties directory dbType = .ok none := by
      unfold Backend.readMountedProperties
      rw [h]
      obtain ⟨first, second⟩ := files
      dsimp only [SecretFiles.secret]
      split
      · rename_i hfirst hsecond
        exact absurd ⟨_, _, congrArg₂ SecretFiles.mk (MountedFile.loads_toOption hfirst)
          (MountedFile.loads_toOption hsecond)⟩ hfiles
      · rename_i hfirst hsecond
        exact absurd ⟨_, _, congrArg₂ SecretFiles.mk (MountedFile.loads_toOption hfirst)
          (MountedFile.loads_toOption hsecond)⟩ hfiles
      · rfl
    rw [Backend.getMountedProperties, hsecret]
    rfl

/-- Both files hold JSON, and the metadata is a dict whose type is the expected one. -/
structure SecretFiles.Match (files : SecretFiles) (airflow : Airflow Connection)
    (dbType : String) (properties : Json) : Prop where
  parsed : files.connectionProperties = .document properties
  typed : ∃ metadata text, files.metadata = .document (.obj metadata) ∧
    metadata.lookup "type" = some (.str text) ∧ airflow.lower text = airflow.lower dbType

/-- The properties where the files match, and otherwise `None`. -/
structure SecretFiles.AnsweredRight (files : SecretFiles) (airflow : Airflow Connection)
    (directory dbType : String) : Prop where
  found : ∀ properties, files.Match airflow dbType properties →
    files.getMountedProperties airflow directory dbType = .ok properties
  other : (∀ properties, ¬ files.Match airflow dbType properties) →
    files.getMountedProperties airflow directory dbType = .ok .null

/-- What the code does not foresee in two files of JSON: metadata that is no dict, and a
type that is no text but reads like the expected one. -/
inductive SecretFiles.Unforeseen (airflow : Airflow Connection) (dbType : String) :
    SecretFiles → Prop where
  | noDict {metadata properties : Json} (other : ∀ fields, metadata ≠ .obj fields) :
      Unforeseen airflow dbType ⟨.document metadata, .document properties⟩
  | noText {metadata : List (String × Json)} {properties : Json}
      (other : ∀ text, metadata.lookup "type" ≠ some (.str text))
      (alike : airflow.lower (((metadata.lookup "type").getD (.str "")).format airflow.repr) =
        airflow.lower dbType) (some : properties ≠ .null) :
      Unforeseen airflow dbType ⟨.document (.obj metadata), .document properties⟩

theorem SecretFiles.answeredRight_iff (files : SecretFiles) (airflow : Airflow Connection)
    (directory dbType : String) :
    files.AnsweredRight airflow directory dbType ↔ ¬ Unforeseen airflow dbType files := by
  constructor
  · rintro ⟨-, hother⟩ hunforeseen
    cases hunforeseen with
    | noDict other =>
      have hnone := hother fun _ hmatch => by
        obtain ⟨-, fields, -, hfields, -⟩ := hmatch
        cases hfields
        exact other fields rfl
      rw [getMountedProperties_noObject other] at hnone
      cases hnone
    | noText other alike some =>
      have hnone := hother fun _ hmatch => by
        obtain ⟨-, fields, text, hfields, htext, -⟩ := hmatch
        cases hfields
        exact other text htext
      rw [getMountedProperties_obj, if_pos alike] at hnone
      cases hnone
      exact some rfl
  · intro hforeseen
    by_cases hfiles : ∃ metadata properties, files = ⟨.document metadata, .document properties⟩
    · obtain ⟨metadata, properties, rfl⟩ := hfiles
      by_cases hdict : ∃ fields, metadata = .obj fields
      · obtain ⟨fields, rfl⟩ := hdict
        refine ⟨fun found hmatch => ?_, fun hnone => ?_⟩
        · obtain ⟨hparsed, metadata, text, hmetadata, htype, hsame⟩ := hmatch
          cases hparsed
          cases hmetadata
          rw [getMountedProperties_obj, htype, Option.getD_some, Json.format_str, if_pos hsame]
        · rw [getMountedProperties_obj]
          split_ifs with hsame
          · by_cases htext : ∃ text, fields.lookup "type" = some (.str text)
            · obtain ⟨text, htext⟩ := htext
              rw [htext] at hsame
              exact absurd ⟨rfl, fields, text, rfl, htext, hsame⟩ (hnone properties)
            · by_cases hnull : properties = .null
              · rw [hnull]
              · exact absurd (.noText (fun text h => htext ⟨text, h⟩) hsame hnull) hforeseen
          · rfl
      · exact absurd (.noDict fun fields h => hdict ⟨fields, h⟩) hforeseen
    · refine ⟨fun found hmatch => ?_, fun _ => getMountedProperties_incomplete hfiles⟩
      obtain ⟨hparsed, metadata, -, hmetadata, -⟩ := hmatch
      exact absurd ⟨_, _, congrArg₂ SecretFiles.mk hmetadata hparsed⟩ hfiles

def asciiAirflow : Airflow Unit where
  deserializeConnection _ _ := .ok ()
  kafkaUri _ := "kafka://"
  kafkaUri_ne _ := by decide
  pemOfCert := .ok
  lower text := String.ofList (text.toList.map Char.toLower)
  repr _ := ""
  localConnection _ := none

/-- `metadata.json` holds a list. -/
theorem listed_metadata_raises :
    ¬ ∀ (files : SecretFiles) (dbType : String),
      files.AnsweredRight asciiAirflow "postgresql" dbType := by
  intro h
  have hnone := (h ⟨.document (.arr []), .document (.obj [])⟩ "postgresql").other (by
    rintro _ ⟨-, fields, -, hfields, -⟩
    cases hfields)
  rw [SecretFiles.getMountedProperties_noObject (by simp)] at hnone
  cases hnone

end Files

end QubershipAirflow.Secrets
