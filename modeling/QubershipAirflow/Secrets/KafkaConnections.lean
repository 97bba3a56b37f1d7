import QubershipAirflow.Secrets.KafkaTopics
import QubershipAirflow.Secrets.MountedSecrets

/-! What the parser makes of a topic that MaaS describes: the extras of the connection come
from one protocol, from the first supported client entry and from the configured parameters.
A key that is missing on the way raises. -/
namespace QubershipAirflow.Secrets

open PyError (bind_ok_iff)

variable {Connection : Type} {backend : Backend Connection}

structure ClientEntry where
  type : String
  username : String
  password : String

def ClientEntry.credential (entry : ClientEntry) : KafkaCredential :=
  ⟨some entry.type, some entry.username, some entry.password⟩

def KafkaTopic.client (topic : KafkaTopic) : List KafkaCredential :=
  (topic.credential.bind KafkaCredentials.client).getD []

def supportedProtocols : List String := ["SASL_PLAINTEXT", "PLAINTEXT", "SSL", "SASL_SSL"]

/-- The certificate in the format of the client library, unless the parameters name a file. -/
def Backend.certificate (backend : Backend Connection) (caCert : Option String)
    (additional : List (String × Json)) : Except PyError (Option String) :=
  match caCert with
  | none => .ok none
  | some cert =>
      if (additional.lookup "ssl.ca.location").isSome then .ok none
      else some <$> backend.airflow.pemOfCert cert

/-- The extras of a connection: the parameters' own values, and where they have none those
of one protocol, one client entry and the certificate. -/
structure ConnectsAs (additional : List (String × Json)) (protocol : String)
    (hosts : List String) (entry : ClientEntry) (pem : Option String)
    (extra : List (String × Json)) : Prop where
  overrides : ∀ key value, additional.lookup key = some value → extra.lookup key = some value
  servers : additional.lookup "bootstrap.servers" = none →
    extra.lookup "bootstrap.servers" = some (.str (",".intercalate hosts))
  protocol : additional.lookup "security.protocol" = none →
    extra.lookup "security.protocol" = some (.str protocol)
  username : additional.lookup "sasl.username" = none →
    extra.lookup "sasl.username" = some (.str entry.username)
  password : additional.lookup "sasl.password" = none →
    ∃ rest, entry.password = "plain:" ++ rest ∧
      extra.lookup "sasl.password" = some (.str rest)
  mechanism : additional.lookup "sasl.mechanism" = none →
    extra.lookup "sasl.mechanism" =
      some (.str (if entry.type = "SCRAM" then "SCRAM-SHA-512" else "PLAIN"))
  certificate : additional.lookup "ssl.ca.pem" = none →
    extra.lookup "ssl.ca.pem" = pem.map .str
  others : ∀ key, additional.lookup key = none → key ∉ ["bootstrap.servers",
    "security.protocol", "sasl.username", "sasl.password", "sasl.mechanism", "ssl.ca.pem"] →
    extra.lookup key = none

def KafkaTopic.Supported (topic : KafkaTopic) : Prop :=
  ∃ addresses, topic.addresses = some addresses ∧
    ∃ protocol ∈ supportedProtocols, (addresses.lookup protocol).isSome

/-- Nothing is returned exactly where no client entry is supported; else the connection is
that of the first one. -/
structure Backend.Connects (backend : Backend Connection) (topic : KafkaTopic)
    (additional : List (String × Json)) (parsed : Except PyError (Option String)) : Prop where
  none_iff : parsed = .ok none ↔ ∀ creds ∈ topic.client, ¬ creds.Supported
  first : ∀ before creds after, topic.client = before ++ creds :: after →
    (∀ other ∈ before, ¬ other.Supported) → creds.Supported →
      ∃ entry : ClientEntry, creds = entry.credential ∧
        ∃ pem, backend.certificate topic.caCert additional = .ok pem ∧
          ∃ addresses, topic.addresses = some addresses ∧
            ∃ protocol ∈ supportedProtocols, ∃ hosts, addresses.lookup protocol = some hosts ∧
              ∃ extra, ConnectsAs additional protocol hosts entry pem extra ∧
                parsed = .ok (some (backend.airflow.kafkaUri (.obj extra)))

section Parser

variable {entry : ClientEntry} {creds : KafkaCredential}
  {client before after : List KafkaCredential} {addresses : List (String × List String)}
  {additional : List (String × Json)}

theorem plain_prefix_iff {password : String} :
    "plain:".toList <+: password.toList ↔ ∃ rest, password = "plain:" ++ rest := by
  constructor
  · rintro ⟨tail, htail⟩
    refine ⟨String.ofList tail, ?_⟩
    rw [← String.ofList_toList (s := password), ← htail, String.ofList_append,
      String.ofList_toList]
  · rintro ⟨rest, rfl⟩
    rw [String.toList_append]
    exact List.prefix_append _ _

theorem plainPassword_marked (rest : String) : plainPassword ("plain:" ++ rest) = some rest := by
  have hprefix := plain_prefix_iff.mpr ⟨rest, rfl⟩
  have hplain : plainPassword ("plain:" ++ rest) =
      some (String.ofList (("plain:" ++ rest).toList.drop "plain:".toList.length)) :=
    if_pos hprefix
  rw [hplain, String.toList_append, List.drop_left, String.ofList_toList]

theorem supported_entry (h : creds.Supported) (husername : creds.username.isSome) :
    ∃ entry : ClientEntry, creds = entry.credential ∧ ∃ rest, entry.password = "plain:" ++ rest ∧
      plainPassword entry.password = some rest ∧
        saslMechanism entry.type =
          some (if entry.type = "SCRAM" then "SCRAM-SHA-512" else "PLAIN") := by
  obtain ⟨credentialType, password, htype, hpassword, hmechanism, hplain⟩ := h
  obtain ⟨username, husername⟩ := Option.isSome_iff_exists.mp husername
  obtain ⟨rest, rfl⟩ : ∃ rest, password = "plain:" ++ rest := by
    rw [← plain_prefix_iff]
    by_contra hprefix
    have hnone : plainPassword password = none := if_neg hprefix
    rw [hnone] at hplain
    cases hplain
  refine ⟨⟨credentialType, username, "plain:" ++ rest⟩, ?_, rest, rfl,
    plainPassword_marked rest, ?_⟩
  · obtain ⟨_, _, _⟩ := creds
    cases htype
    cases hpassword
    cases husername
    rfl
  · change saslMechanism credentialType = _
    unfold saslMechanism at hmechanism ⊢
    split_ifs at hmechanism ⊢ <;> simp_all

theorem findCredentials_first (hreadable : ClientReadable (before ++ creds :: after))
    (hbefore : ∀ other ∈ before, ¬ other.Supported) (h : creds.Supported) :
    ∃ entry : ClientEntry, creds = entry.credential ∧ ∃ rest, entry.password = "plain:" ++ rest ∧
      findCredentials (before ++ creds :: after) =
        .ok (some (if entry.type = "SCRAM" then "SCRAM-SHA-512" else "PLAIN",
          entry.username, rest)) := by
  induction before with
  | nil =>
    obtain ⟨-, -, husername, -⟩ := hreadable
    obtain ⟨entry, rfl, rest, hpassword, hplain, hmechanism⟩ := supported_entry h (husername h)
    refine ⟨entry, rfl, rest, hpassword, ?_⟩
    rw [List.nil_append, findCredentials_cons rfl rfl, hplain, hmechanism]
    rfl
  | cons other before ih =>
    obtain ⟨hpassword, htype, -, hrest⟩ := hreadable
    have hother := hbefore other List.mem_cons_self
    obtain ⟨entry, hentry, rest, hplain, hfind⟩ :=
      ih (hrest hother) fun found hfound => hbefore found (List.mem_cons_of_mem _ hfound)
    refine ⟨entry, hentry, rest, hplain, ?_⟩
    rw [List.cons_append, findCredentials_skip hpassword htype hother, hfind]

theorem securityProtocol_found
    (h : ∃ protocol ∈ supportedProtocols, (addresses.lookup protocol).isSome) :
    ∃ protocol ∈ supportedProtocols, ∃ hosts, addresses.lookup protocol = some hosts ∧
      securityProtocol addresses = some (protocol, ",".intercalate hosts) := by
  cases hfound : securityProtocol addresses with
  | none =>
    obtain ⟨protocol, hprotocol, hsome⟩ := h
    have hnone := List.findSome?_eq_none_iff.mp hfound protocol hprotocol
    rw [Option.map_eq_none_iff] at hnone
    rw [hnone] at hsome
    cases hsome
  | some found =>
    obtain ⟨protocol, hprotocol, hmap⟩ := List.exists_of_findSome?_eq_some hfound
    obtain ⟨hosts, hhosts, rfl⟩ := Option.map_eq_some_iff.mp hmap
    exact ⟨protocol, hprotocol, hosts, hhosts, rfl⟩

def topicExtra (protocol hosts mechanism username password : String) (pem : Option String) :
    List (String × Json) :=
  [("bootstrap.servers", .str hosts), ("sasl.username", .str username),
    ("sasl.password", .str password), ("sasl.mechanism", .str mechanism),
    ("security.protocol", .str protocol)] ++ pem.toList.map fun text => ("ssl.ca.pem", .str text)

theorem connectionExtra_eq {topic : KafkaTopic} {pem : Option String}
    (h : backend.certificate topic.caCert additional = .ok pem)
    (protocol hosts mechanism username password : String) :
    backend.connectionExtra topic (.obj additional) protocol hosts mechanism username password =
      (Json.obj (topicExtra protocol hosts mechanism username password pem)).union
        (.obj additional) := by
  unfold Backend.certificate at h
  unfold Backend.connectionExtra
  cases hcert : topic.caCert with
  | none =>
    rw [hcert] at h
    cases h
    rfl
  | some cert =>
    simp only [hcert] at h
    cases hlocation : additional.lookup "ssl.ca.location" with
    | some location =>
      rw [hlocation] at h
      cases h
      simp only [Json.contains, hlocation, bind, Except.bind]
      rfl
    | none =>
      rw [hlocation] at h
      obtain ⟨text, htext, rfl⟩ := PyError.map_ok_iff.mp h
      simp only [Json.contains, hlocation, htext, bind, Except.bind]
      rfl

theorem connectsAs_of_lookup {pem : Option String} {protocol rest : String}
    {hosts : List String} {extra : List (String × Json)}
    (hpassword : entry.password = "plain:" ++ rest)
    (hextra : ∀ key, extra.lookup key = (additional.lookup key).or
      ((topicExtra protocol (",".intercalate hosts)
        (if entry.type = "SCRAM" then "SCRAM-SHA-512" else "PLAIN") entry.username rest
          pem).lookup key)) :
    ConnectsAs additional protocol hosts entry pem extra where
  overrides key value h := by rw [hextra, h, Option.some_or]
  servers h := by rw [hextra, h]; rfl
  protocol h := by rw [hextra, h]; rfl
  username h := by rw [hextra, h]; rfl
  password h := ⟨rest, hpassword, by rw [hextra, h]; rfl⟩
  mechanism h := by rw [hextra, h]; rfl
  certificate h := by
    rw [hextra, h]
    cases pem <;> rfl
  others key h hkey := by
    simp only [List.mem_cons, List.not_mem_nil, or_false, not_or] at hkey
    rw [hextra, h, Option.none_or, topicExtra, List.lookup_append]
    cases pem <;> simp [Json.lookup_entry, hkey]

theorem connectionExtra_connects {topic : KafkaTopic} {pem : Option String}
    {protocol rest : String} {hosts : List String}
    (hpem : backend.certificate topic.caCert additional = .ok pem)
    (hpassword : entry.password = "plain:" ++ rest) :
    ∃ extra, backend.connectionExtra topic (.obj additional) protocol (",".intercalate hosts)
      (if entry.type = "SCRAM" then "SCRAM-SHA-512" else "PLAIN") entry.username rest =
        .ok (.obj extra) ∧ ConnectsAs additional protocol hosts entry pem extra := by
  obtain ⟨extra, hunion, hextra⟩ := Json.union_obj
    (topicExtra protocol (",".intercalate hosts)
      (if entry.type = "SCRAM" then "SCRAM-SHA-512" else "PLAIN") entry.username rest pem)
    additional
  exact ⟨extra, (connectionExtra_eq hpem ..).trans hunion, connectsAs_of_lookup hpassword hextra⟩

theorem certificate_of_usable {topic : KafkaTopic}
    (h : backend.PatchUsable topic (.obj additional)) :
    ∃ pem, backend.certificate topic.caCert additional = .ok pem := by
  obtain ⟨_, ⟨⟩, husable⟩ := h
  unfold Backend.certificate
  cases hcert : topic.caCert with
  | none => exact ⟨none, rfl⟩
  | some cert =>
    cases hlocation : additional.lookup "ssl.ca.location" with
    | some location => exact ⟨none, rfl⟩
    | none =>
      obtain ⟨pem, hpem⟩ := husable cert hcert hlocation
      exact ⟨some pem, by simp [hpem, Functor.map, Except.map]⟩

section Found

variable {topic : KafkaTopic} {protocol hosts : String}

theorem parseKafkaConnection_none (haddresses : topic.addresses = some addresses)
    (hprotocol : securityProtocol addresses = some (protocol, hosts))
    (hcredential : topic.credential.isSome) (hfind : findCredentials topic.client = .ok none) :
    backend.parseKafkaConnection (some topic) (.obj additional) = .ok none := by
  obtain ⟨⟨client⟩, hcredential⟩ := Option.isSome_iff_exists.mp hcredential
  unfold KafkaTopic.client at hfind
  rw [hcredential, Option.bind_some] at hfind
  simp only [Backend.parseKafkaConnection, haddresses, hcredential, need, hprotocol, bind,
    Except.bind]
  cases client with
  | none => rfl
  | some client =>
    rw [Option.getD_some] at hfind
    simp only [hfind]
    rfl

theorem parseKafkaConnection_some {mechanism username password : String}
    (haddresses : topic.addresses = some addresses)
    (hprotocol : securityProtocol addresses = some (protocol, hosts))
    (hcredential : topic.credential.isSome)
    (hfind : findCredentials topic.client = .ok (some (mechanism, username, password))) :
    backend.parseKafkaConnection (some topic) (.obj additional) =
      (fun extra => some (backend.airflow.kafkaUri extra)) <$>
        backend.connectionExtra topic (.obj additional) protocol hosts mechanism username
          password := by
  obtain ⟨⟨client⟩, hcredential⟩ := Option.isSome_iff_exists.mp hcredential
  unfold KafkaTopic.client at hfind
  rw [hcredential, Option.bind_some] at hfind
  simp only [Backend.parseKafkaConnection, haddresses, hcredential, need, hprotocol, bind,
    Except.bind]
  cases client with
  | none => cases hfind
  | some client =>
    rw [Option.getD_some] at hfind
    simp only [hfind]
    rfl

end Found

theorem readable_client {topic : KafkaTopic} {patch : Json} (h : backend.TopicReadable topic patch)
    (hsupported : topic.Supported) :
    topic.credential.isSome ∧ ClientReadable topic.client ∧
      ((∃ creds ∈ topic.client, creds.Supported) → backend.PatchUsable topic patch) := by
  obtain ⟨addresses, haddresses, hcredential⟩ := h
  obtain ⟨_, hsame, hprotocol⟩ := hsupported
  rw [haddresses] at hsame
  cases hsame
  obtain ⟨protocol, -, hosts, -, hfound⟩ := securityProtocol_found hprotocol
  obtain ⟨credential, hcredential, hclient⟩ := hcredential (by rw [hfound]; rfl)
  unfold KafkaTopic.client
  rw [hcredential, Option.bind_some]
  refine ⟨rfl, ?_⟩
  cases hentries : credential.client with
  | none => exact ⟨trivial, by simp⟩
  | some client => exact hclient client hentries

end Parser

/-- For a topic with a supported protocol the parser connects as it should exactly where it
finds the keys that it reads on its way to the first supported entry, and can convert a
certificate that it needs. -/
theorem parseKafkaConnection_connects_iff (backend : Backend Connection) (topic : KafkaTopic)
    (additional : List (String × Json)) (hsupported : topic.Supported) :
    backend.Connects topic additional
      (backend.parseKafkaConnection (some topic) (.obj additional)) ↔
        backend.TopicReadable topic (.obj additional) := by
  constructor
  · intro hconnects
    rw [← parseKafkaConnection_ok_iff]
    by_cases hnone : ∀ creds ∈ topic.client, ¬ creds.Supported
    · exact ⟨none, hconnects.none_iff.mpr hnone⟩
    · obtain ⟨before, creds, after, hclient, hbefore, hcreds⟩ := exists_first_supported hnone
      obtain ⟨_, -, _, -, _, -, _, -, _, -, _, -, hparsed⟩ :=
        hconnects.first before creds after hclient hbefore hcreds
      exact ⟨_, hparsed⟩
  · intro hreadable
    obtain ⟨hcredential, hclient, husable⟩ := readable_client hreadable hsupported
    obtain ⟨addresses, haddresses, hprotocol⟩ := hsupported
    obtain ⟨protocol, hmem, hosts, hhosts, hfound⟩ := securityProtocol_found hprotocol
    have hfirst : ∀ before creds after, topic.client = before ++ creds :: after →
        (∀ other ∈ before, ¬ other.Supported) → creds.Supported →
          ∃ entry : ClientEntry, creds = entry.credential ∧
            ∃ pem, backend.certificate topic.caCert additional = .ok pem ∧
              ∃ extra, ConnectsAs additional protocol hosts entry pem extra ∧
                backend.parseKafkaConnection (some topic) (.obj additional) =
                  .ok (some (backend.airflow.kafkaUri (.obj extra))) := by
      intro before creds after hsplit hbefore hcreds
      obtain ⟨pem, hpem⟩ := certificate_of_usable (husable ⟨creds, by simp [hsplit], hcreds⟩)
      rw [hsplit] at hclient
      obtain ⟨entry, hentry, rest, hpassword, hfind⟩ :=
        findCredentials_first hclient hbefore hcreds
      obtain ⟨extra, hextra, hconnects⟩ := connectionExtra_connects hpem hpassword
      refine ⟨entry, hentry, pem, hpem, extra, hconnects, ?_⟩
      rw [parseKafkaConnection_some haddresses hfound hcredential (by rw [hsplit, hfind]), hextra]
      rfl
    refine ⟨⟨fun hnone => ?_, fun hnone => ?_⟩, fun before creds after hsplit hbefore hcreds => ?_⟩
    · by_contra hsome
      obtain ⟨before, creds, after, hsplit, hbefore, hcreds⟩ := exists_first_supported hsome
      obtain ⟨_, -, _, -, extra, -, hparsed⟩ := hfirst before creds after hsplit hbefore hcreds
      rw [hnone] at hparsed
      cases hparsed
    · obtain ⟨hok, hsearch⟩ := findCredentials_spec topic.client
      obtain ⟨found, hfind⟩ := hok.mpr hclient
      cases found with
      | none => exact parseKafkaConnection_none haddresses hfound hcredential hfind
      | some found =>
        obtain ⟨creds, hcreds, hsupports⟩ := (hsearch _ hfind).mp rfl
        exact absurd hsupports (hnone creds hcreds)
    · obtain ⟨entry, hentry, pem, hpem, extra, hconnects, hparsed⟩ :=
        hfirst before creds after hsplit hbefore hcreds
      exact ⟨entry, hentry, pem, hpem, addresses, haddresses, protocol, hmem, hosts, hhosts,
        extra, hconnects, hparsed⟩

def bareBackend : Backend Unit where
  settings := ⟨"http://dbaas", "http://maas", "airflow", false, true, false, true, "DISABLED"⟩
  sources := ⟨fun _ => .ok ⟨404, none⟩, fun _ => .ok ⟨404, none⟩, fun _ => ⟨none, none⟩⟩
  airflow := asciiAirflow
  properties := []
  dbaasFormed := by simp
  maasFormed := by simp

def clientTopic (client : List KafkaCredential) : KafkaTopic :=
  ⟨some [("SASL_PLAINTEXT", ["kafka:9092"])], some ⟨some client⟩, none⟩

theorem clientTopic_supported (client : List KafkaCredential) : (clientTopic client).Supported :=
  ⟨_, rfl, "SASL_PLAINTEXT", by decide, rfl⟩

/-- The first entry's password is not in plain text; the second one's contains the mark twice. -/
theorem second_entry_connects :
    bareBackend.Connects (clientTopic [⟨some "SCRAM", none, some "vault:x"⟩,
        ⟨some "plain", some "second", some "plain:plain:x"⟩]) []
      (bareBackend.parseKafkaConnection (some (clientTopic [⟨some "SCRAM", none, some "vault:x"⟩,
        ⟨some "plain", some "second", some "plain:plain:x"⟩])) (.obj [])) := by
  refine (parseKafkaConnection_connects_iff _ _ _ (clientTopic_supported _)).mpr
    ⟨_, rfl, fun _ => ⟨_, rfl, ?_⟩⟩
  rintro _ ⟨⟩
  refine ⟨⟨rfl, rfl, ?_, fun _ => ⟨rfl, rfl, fun _ => rfl, ?_⟩⟩, fun _ => ⟨[], rfl, ?_⟩⟩
  · rintro ⟨_, _, ⟨⟩, ⟨⟩, -, hplain⟩
    exact absurd hplain (by decide)
  · intro hunsupported
    exact absurd ⟨_, _, rfl, rfl, by decide, by decide⟩ hunsupported
  · simp [clientTopic]

/-- An entry of another type has no password, and the next one is not reached. -/
theorem passwordless_entry_raises :
    ¬ ∀ topic additional, topic.Supported → bareBackend.Connects topic additional
      (bareBackend.parseKafkaConnection (some topic) (.obj additional)) := by
  intro h
  have hconnects := h (clientTopic [⟨some "sslCert", none, none⟩,
    ⟨some "plain", some "second", some "plain:x"⟩]) [] (clientTopic_supported _)
  have hraises : bareBackend.parseKafkaConnection (some (clientTopic [⟨some "sslCert", none, none⟩,
      ⟨some "plain", some "second", some "plain:x"⟩])) (.obj []) =
        .error (.keyError "password") := rfl
  obtain ⟨_, -, _, -, _, -, _, -, _, -, _, -, hparsed⟩ := hconnects.first
    [⟨some "sslCert", none, none⟩] ⟨some "plain", some "second", some "plain:x"⟩ [] rfl
    (by simp [KafkaCredential.Supported]) ⟨_, _, rfl, rfl, by decide, by decide⟩
  rw [hraises] at hparsed
  cases hparsed

end QubershipAirflow.Secrets
