import QubershipAirflow.Secrets.Sources

/-! Which descriptions of a Kafka topic the parser reads without raising. -/
namespace QubershipAirflow.Secrets

open PyError (bind_ok_iff)

variable {Connection : Type} (backend : Backend Connection)

section Kafka

def KafkaCredential.Supported (creds : KafkaCredential) : Prop :=
  ∃ credentialType password, creds.type = some credentialType ∧ creds.password = some password ∧
    (saslMechanism credentialType).isSome ∧ (plainPassword password).isSome

/-- Each client entry up to the first supported one has a password and a type, and that
one a user name. -/
def ClientReadable : List KafkaCredential → Prop
  | [] => True
  | creds :: rest => creds.password.isSome ∧ creds.type.isSome ∧
      (creds.Supported → creds.username.isSome) ∧ (¬ creds.Supported → ClientReadable rest)

theorem findCredentials_cons {creds : KafkaCredential} {rest : List KafkaCredential}
    {password credentialType : String} (hpassword : creds.password = some password)
    (htype : creds.type = some credentialType) :
    findCredentials (creds :: rest) =
      match saslMechanism credentialType, plainPassword password with
      | some mechanism, some password => do
          return some (mechanism, ← need "username" creds.username, password)
      | _, _ => findCredentials rest := by
  rw [findCredentials, hpassword, htype]
  rfl

theorem supported_iff {creds : KafkaCredential} {password credentialType : String}
    (hpassword : creds.password = some password) (htype : creds.type = some credentialType) :
    creds.Supported ↔
      (saslMechanism credentialType).isSome ∧ (plainPassword password).isSome := by
  simp [KafkaCredential.Supported, hpassword, htype]

theorem findCredentials_skip {creds : KafkaCredential} {rest : List KafkaCredential}
    (hpassword : creds.password.isSome) (htype : creds.type.isSome) (h : ¬ creds.Supported) :
    findCredentials (creds :: rest) = findCredentials rest := by
  obtain ⟨password, hpassword⟩ := Option.isSome_iff_exists.mp hpassword
  obtain ⟨credentialType, htype⟩ := Option.isSome_iff_exists.mp htype
  rw [findCredentials_cons hpassword htype]
  split
  · rename_i hmechanism hplain
    exact absurd ((supported_iff hpassword htype).mpr ⟨by simp [hmechanism], by simp [hplain]⟩) h
  · rfl

theorem exists_first_supported {client : List KafkaCredential}
    (h : ¬ ∀ creds ∈ client, ¬ creds.Supported) :
    ∃ before creds after, client = before ++ creds :: after ∧
      (∀ other ∈ before, ¬ other.Supported) ∧ creds.Supported := by
  induction client with
  | nil => simp at h
  | cons creds rest ih =>
    by_cases hcreds : creds.Supported
    · exact ⟨[], creds, rest, rfl, by simp, hcreds⟩
    · rw [List.forall_mem_cons, not_and] at h
      obtain ⟨before, found, after, rfl, hbefore, hfound⟩ := ih (h hcreds)
      exact ⟨creds :: before, found, after, rfl, List.forall_mem_cons.mpr ⟨hcreds, hbefore⟩,
        hfound⟩

/-- The search fails exactly on a missing key, and finds exactly what is supported. -/
theorem findCredentials_spec (client : List KafkaCredential) :
    ((∃ found, findCredentials client = .ok found) ↔ ClientReadable client) ∧
      ∀ found, findCredentials client = .ok found →
        (found.isSome ↔ ∃ creds ∈ client, creds.Supported) := by
  induction client with
  | nil => simp [findCredentials, ClientReadable]
  | cons creds rest ih =>
    cases hpassword : creds.password with
    | none => simp [findCredentials, ClientReadable, need, hpassword, bind, Except.bind]
    | some password =>
      cases htype : creds.type with
      | none => simp [findCredentials, ClientReadable, need, hpassword, htype, bind, Except.bind]
      | some credentialType =>
        have hsupported := supported_iff hpassword htype
        rw [findCredentials_cons hpassword htype]
        by_cases h : creds.Supported
        · obtain ⟨hmechanism, hplain⟩ := hsupported.mp h
          obtain ⟨mechanism, hmechanism⟩ := Option.isSome_iff_exists.mp hmechanism
          obtain ⟨plain, hplain⟩ := Option.isSome_iff_exists.mp hplain
          simp only [hmechanism, hplain, ClientReadable, hpassword, htype, h]
          cases creds.username <;> simp [need, bind, Except.bind, pure, Except.pure, h]
        · rw [← findCredentials_cons hpassword htype,
            findCredentials_skip (by simp [hpassword]) (by simp [htype]) h]
          simp [ClientReadable, hpassword, htype, h, ih.1]
          exact ih.2

/-- The configured extras are a dict, and a certificate that they do not replace can be
converted. -/
def Backend.PatchUsable (topic : KafkaTopic) (patch : Json) : Prop :=
  ∃ fields, patch = .obj fields ∧ ∀ caCert, topic.caCert = some caCert →
    fields.lookup "ssl.ca.location" = none → ∃ pem, backend.airflow.pemOfCert caCert = .ok pem

/-- The topic has the keys that are looked at: its addresses, with a supported protocol
also its credentials, and with supported credentials usable extras. -/
def Backend.TopicReadable (topic : KafkaTopic) (patch : Json) : Prop :=
  ∃ addresses, topic.addresses = some addresses ∧
    ((securityProtocol addresses).isSome → ∃ credential, topic.credential = some credential ∧
      ∀ client, credential.client = some client →
        ClientReadable client ∧
        ((∃ creds ∈ client, creds.Supported) → backend.PatchUsable topic patch))

variable {backend}

theorem union_error {patch : Json} (h : ∀ fields, patch ≠ .obj fields)
    (first : List (String × Json)) : (Json.obj first).union patch = .error .typeError := by
  cases patch with
  | obj fields => exact absurd rfl (h fields)
  | _ => rfl

theorem connectionExtra_ok_iff {topic : KafkaTopic} {patch : Json}
    (protocol addresses mechanism username password : String) :
    (∃ extra, backend.connectionExtra topic patch protocol addresses mechanism username password =
      .ok extra) ↔ backend.PatchUsable topic patch := by
  unfold Backend.connectionExtra Backend.PatchUsable
  by_cases hobj : ∃ fields, patch = .obj fields
  · obtain ⟨fields, rfl⟩ := hobj
    cases hcert : topic.caCert with
    | none => exact iff_of_true ⟨_, rfl⟩ ⟨fields, rfl, by simp⟩
    | some caCert =>
      cases hlocation : fields.lookup "ssl.ca.location" with
      | some location =>
        refine iff_of_true ?_ ⟨fields, rfl, fun _ _ hnone => ?_⟩
        · simp only [contains_obj_iff, hlocation, bind, Except.bind]
          exact ⟨_, rfl⟩
        · rw [hlocation] at hnone
          cases hnone
      | none =>
        cases hpem : backend.airflow.pemOfCert caCert with
        | ok pem =>
          refine iff_of_true ?_ ⟨fields, rfl, fun cert hsame _ => ⟨pem, ?_⟩⟩
          · simp only [contains_obj_iff, hlocation, hpem, bind, Except.bind]
            exact ⟨_, rfl⟩
          · cases hsame
            exact hpem
        | error err =>
          refine iff_of_false ?_ ?_
          · simp only [contains_obj_iff, hlocation, hpem, bind, Except.bind]
            rintro ⟨extra, hextra⟩
            cases hextra
          · rintro ⟨fields, hsame, hcertificate⟩
            cases hsame
            obtain ⟨pem, hok⟩ := hcertificate caCert rfl hlocation
            rw [hpem] at hok
            cases hok
  · have hne : ∀ fields, patch ≠ .obj fields := fun fields h => hobj ⟨fields, h⟩
    refine iff_of_false ?_ ?_
    · rintro ⟨extra, hextra⟩
      cases hcert : topic.caCert with
      | none =>
        simp only [hcert, union_error hne] at hextra
        cases hextra
      | some caCert =>
        simp only [hcert] at hextra
        obtain ⟨found, -, hextra⟩ := bind_ok_iff.mp hextra
        cases found with
        | true =>
          simp only [if_true, union_error hne] at hextra
          cases hextra
        | false =>
          simp only [Bool.false_eq_true, if_false] at hextra
          obtain ⟨pem, -, hextra⟩ := bind_ok_iff.mp hextra
          rw [union_error hne] at hextra
          cases hextra
    · rintro ⟨fields, hsame, -⟩
      exact hne fields hsame

/-- The parser raises on a topic that is not readable, and on no other. -/
theorem parseKafkaConnection_ok_iff {topic : KafkaTopic} {patch : Json} :
    (∃ value, backend.parseKafkaConnection (some topic) patch = .ok value) ↔
      backend.TopicReadable topic patch := by
  unfold Backend.parseKafkaConnection Backend.TopicReadable
  rcases topic with ⟨_ | addresses, credential, caCert⟩
  · simp [need, bind, Except.bind]
  cases hprotocol : securityProtocol addresses with
  | none => simp [need, hprotocol, bind, Except.bind, pure, Except.pure]
  | some protocol =>
    rcases credential with _ | ⟨_ | client⟩
    · simp [need, hprotocol, bind, Except.bind]
    · simp [need, hprotocol, bind, Except.bind, pure, Except.pure]
    · obtain ⟨hreadable, hfound⟩ := findCredentials_spec client
      cases hfind : findCredentials client with
      | error err =>
        have hunreadable : ¬ ClientReadable client := by
          rw [← hreadable, hfind]
          simp
        simp [need, hprotocol, hfind, bind, Except.bind, hunreadable]
      | ok found =>
        have hclient : ClientReadable client := hreadable.mp ⟨found, hfind⟩
        have hsupported := hfound found hfind
        cases found with
        | none =>
          have hnone : ¬ ∃ creds ∈ client, creds.Supported := by simpa using hsupported.not.mp
          simp only [need, hprotocol, hfind, bind, Except.bind, pure, Except.pure]
          refine iff_of_true ⟨none, rfl⟩ ⟨addresses, rfl, fun _ => ⟨_, rfl, ?_⟩⟩
          rintro _ ⟨⟩
          exact ⟨hclient, fun hsome => absurd hsome hnone⟩
        | some found =>
          obtain ⟨mechanism, username, password⟩ := found
          have hsome : ∃ creds ∈ client, creds.Supported := hsupported.mp rfl
          simp only [need, hprotocol, hfind, bind, Except.bind]
          constructor
          · rintro ⟨value, hvalue⟩
            split at hvalue
            · cases hvalue
            · rename_i extra hextra
              have husable := (connectionExtra_ok_iff _ _ _ _ _).mp ⟨extra, hextra⟩
              refine ⟨addresses, rfl, fun _ => ⟨_, rfl, ?_⟩⟩
              rintro _ ⟨⟩
              exact ⟨hclient, fun _ => husable⟩
          · rintro ⟨_, ⟨⟩, husable⟩
            obtain ⟨_, ⟨⟩, husable⟩ := husable (by simp [hprotocol])
            obtain ⟨extra, hextra⟩ := (connectionExtra_ok_iff protocol.1 protocol.2 mechanism
              username password).mpr ((husable client rfl).2 hsome)
            exact ⟨_, by rw [hextra]; rfl⟩

end Kafka

end QubershipAirflow.Secrets
