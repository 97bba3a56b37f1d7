import QubershipAirflow.Secrets.KafkaConnections
import QubershipAirflow.Secrets.Requests

/-! Which requests a lookup may send after what it has been answered, and with whose
credentials. -/
namespace QubershipAirflow.Secrets

open Programs

inductive Lookup where
  | connection (connId : String)
  | config (key : String)

abbrev Lookup.Result (Connection : Type) : Lookup → Type
  | .connection _ => Option Connection
  | .config _ => Option String

def isSend : Exchange Call Call.Answer → Bool
  | ⟨.send _ _, _⟩ => true
  | ⟨.readToken _, _⟩ => false

def sent (exchanged : Exchanged) : Exchanged := exchanged.filter isSend

@[simp] theorem sent_append (first second : Exchanged) :
    sent (first ++ second) = sent first ++ sent second :=
  List.filter_append first second

@[simp] theorem sent_read (service : TargetService) (answer : (Call.readToken service).Answer) :
    sent [⟨.readToken service, answer⟩] = [] := rfl

@[simp] theorem sent_send (service : TargetService) (request : HttpRequest)
    (answer : (Call.send service request).Answer) :
    sent [⟨.send service request, answer⟩] = [⟨.send service request, answer⟩] := rfl

namespace Pod

variable {Connection : Type} (pod : Pod Connection)

def answer : (lookup : Lookup) → Asking (lookup.Result Connection)
  | .connection connId => pod.getConnection connId
  | .config key => pod.getConfig key

/-! ## What is permitted -/

def host : TargetService → String
  | .dbaas => pod.backend.settings.dbaasHost
  | .maas => pod.backend.settings.maasHost

/-- The token that was just read from the file of the service, or its own user and
password; never both. -/
def Carries (service : TargetService) (before : Exchanged) (request : HttpRequest) : Prop :=
  if pod.usesM2m service then
    request.auth = none ∧ ∃ earlier token,
      before = earlier ++ [⟨.readToken service, .ok token⟩] ∧
        request.headers.lookup "Authorization" = some (.str ("Bearer " ++ token))
  else
    request.headers.lookup "Authorization" = none ∧ request.auth =
      some ((pod.auth.credentials service).user, (pod.auth.credentials service).password)

/-- A database is created only after DBaaS was asked for it and answered with another
status than 200. MaaS comes last, and is asked once. -/
def InTurn (service : TargetService) (before : Exchanged) (method : Method) : Prop :=
  match service, method with
  | .dbaas, .post => sent before = []
  | .dbaas, .put => ∃ request response,
      sent before = [⟨.send .dbaas request, .ok response⟩] ∧ request.method = .post ∧
        response.statusCode ≠ 200
  | .maas, method => method = .post ∧ ∀ exchange ∈ sent before, ∃ request,
      exchange.op = .send .dbaas request

/-- The services that a lookup may turn to. What the operator mounts is not asked for. -/
def Concerns : Lookup → TargetService → Prop
  | .config key, .dbaas => key ∈ ["airfow_celery_redis_main_conn", "airfow_pg_main_conn"] ∧
      pod.backend.settings.dbaasOperatorEnabled = false
  | .config _, .maas => False
  | .connection connId, .dbaas => ∃ entry dbType,
      pod.backend.properties.lookup (connId ++ "_dbaas") = some entry ∧
        entry.getItem "type" = .ok dbType ∧
        ¬ (pod.backend.settings.dbaasOperatorEnabled ∧ dbType.isText "postgresql")
  | .connection connId, .maas =>
      (pod.backend.properties.lookup (connId ++ "_maas")).isSome = true

def Permits (lookup : Lookup) (before : Exchanged) : Call → Prop
  | .readToken service => pod.Concerns lookup service ∧ pod.usesM2m service = true
  | .send service request => pod.Concerns lookup service ∧
      (pod.host service ++ "/api/").toList <+: request.address.toList ∧
      pod.Carries service before request ∧ InTurn service before request.method

/-! ## What is sent -/

variable {pod} {lookup : Lookup} {service : TargetService} {request : Request}
  {before : Exchanged}

theorem headers_authorization (request : Request) :
    request.headers.lookup "Authorization" = none := by
  rw [Request.headers]
  cases request.originNamespace <;> rfl

theorem withToken_authorization (request : Request) (token : String) (verify : Json) :
    (request.withToken token verify).headers.lookup "Authorization" =
      some (.str ("Bearer " ++ token)) := by
  rw [Request.withToken, List.lookup_append, headers_authorization]
  rfl

theorem requestsWithCorrectAuth_follows
    {post : Except PyError (Response service.Body) → Exchanged → Prop}
    (hconcerns : pod.Concerns lookup service)
    (haddress : (pod.host service ++ "/api/").toList <+: request.address.toList)
    (hturn : ∀ exchanged, sent exchanged = sent before →
      InTurn service exchanged request.method)
    (hraises : ∀ failure after, post (.error failure) after)
    (hnext : ∀ (response : Response service.Body) http after,
      sent after = sent before ++ [⟨.send service http, .ok response⟩] →
        http.method = request.method → post (.ok response) after) :
    Follows (pod.Permits lookup) post before (pod.requestsWithCorrectAuth service request) := by
  have hsend : ∀ middle http, sent middle = sent before → http.method = request.method →
      http.address = request.address → pod.Carries service middle http →
      Follows (pod.Permits lookup) post middle (Call.send service http).ask := by
    intro middle http hmiddle hmethod haddr hcarries
    apply Follows.ask
    · refine ⟨hconcerns, haddr ▸ haddress, hcarries, ?_⟩
      rw [hmethod]
      exact hturn middle hmiddle
    · intro answer
      cases answer with
      | ok response =>
        refine hnext response http _ ?_ hmethod
        rw [sent_append, hmiddle, sent_send]
      | error failure => exact hraises failure _
  rw [requestsWithCorrectAuth]
  split_ifs with huses
  · refine Follows.bind (Follows.ask ⟨hconcerns, huses⟩ fun answer => ?_)
    cases answer with
    | error failure => exact hraises failure _
    | ok token =>
      refine hsend _ _ (by simp) rfl rfl ?_
      rw [Carries, if_pos huses]
      exact ⟨rfl, before, token, rfl, withToken_authorization request token _⟩
  · refine hsend _ _ rfl rfl rfl ?_
    rw [Carries, if_neg huses]
    exact ⟨headers_authorization request, rfl⟩

def Onwards {α : Type} : Except PyError α → Exchanged → Prop
  | .ok _, exchanged => ∀ exchange ∈ sent exchanged, ∃ request, exchange.op = .send .dbaas request
  | .error _, _ => True

theorem onwards_of {α : Type} {result : Except PyError α} {exchanged : Exchanged}
    (h : ∀ exchange ∈ sent exchanged, ∃ request, exchange.op = .send .dbaas request) :
    Onwards result exchanged := by
  cases result with
  | ok value => exact h
  | error failure => trivial

theorem requestProperties_follows {lookupRequest create : Request}
    (hconcerns : pod.Concerns lookup .dbaas)
    (hlookup : (pod.host .dbaas ++ "/api/").toList <+: lookupRequest.address.toList)
    (hcreate : (pod.host .dbaas ++ "/api/").toList <+: create.address.toList)
    (hpost : lookupRequest.method = .post) (hput : create.method = .put) :
    Follows (pod.Permits lookup) Onwards [] (pod.requestProperties lookupRequest create) := by
  rw [requestProperties]
  refine Follows.bind (requestsWithCorrectAuth_follows hconcerns hlookup ?_ (fun _ _ => trivial) ?_)
  · intro exchanged hsent
    rw [hpost]
    exact hsent
  · intro response http after hafter hmethod
    change Follows _ _ _ (if response.statusCode = 200 then _ else _)
    split_ifs with hfound
    · refine Follows.ofExcept (onwards_of fun exchange hexchange => ?_)
      rw [hafter] at hexchange
      obtain rfl := List.mem_singleton.1 hexchange
      exact ⟨http, rfl⟩
    · refine Follows.bind
        (requestsWithCorrectAuth_follows hconcerns hcreate ?_ (fun _ _ => trivial) ?_)
      · intro exchanged hsent
        rw [hput]
        exact ⟨http, response, hsent.trans hafter, hmethod.trans hpost, hfound⟩
      · intro created put last hlast _
        have honly : ∀ exchange ∈ sent last, ∃ request, exchange.op = .send .dbaas request := by
          intro exchange hexchange
          rw [hlast, hafter] at hexchange
          obtain rfl | rfl : exchange = _ ∨ exchange = _ := by simpa [sent] using hexchange
          · exact ⟨http, rfl⟩
          · exact ⟨put, rfl⟩
        change Follows _ _ _ (if created.statusCode = 201 ∨ created.statusCode = 200 then _ else _)
        split_ifs
        · exact Follows.ofExcept (onwards_of honly)
        · exact honly

theorem dbaas_address (start : String) (rest : List Char) :
    start.toList ++ "/api/".toList <+: start.toList ++ ("/api/v3/dbaas/".toList ++ rest) := by
  have hpath : "/api/v3/dbaas/".toList = "/api/".toList ++ "v3/dbaas/".toList := by decide
  rw [hpath, List.append_assoc, ← List.append_assoc start.toList]
  exact List.prefix_append _ _

theorem maas_address (start : String) :
    start.toList ++ "/api/".toList <+: start.toList ++ "/api/v1/kafka/topic".toList := by
  have hpath : "/api/v1/kafka/topic".toList = "/api/".toList ++ "v1/kafka/topic".toList := by
    decide
  rw [hpath, ← List.append_assoc]
  exact List.prefix_append _ _

section Lookups

variable {connId : String} {entry : Json}

theorem getConnFromDbaas_follows
    (hentry : pod.backend.properties.lookup (connId ++ "_dbaas") = some entry) :
    Follows (pod.Permits (.connection connId)) Onwards [] (pod.getConnFromDbaas entry connId) := by
  rw [getConnFromDbaas]
  refine Follows.ofExcept_bind (fun _ => trivial) fun ns _ => ?_
  refine Follows.ofExcept_bind (fun _ => trivial) fun dbType htype => ?_
  split_ifs with hmounted
  · exact Follows.ofExcept (onwards_of (by simp [sent]))
  refine Follows.ofExcept_bind (fun _ => trivial) fun classifier _ => ?_
  refine Follows.ofExcept_bind (fun _ => trivial) fun service _ => ?_
  apply requestProperties_follows
  · exact ⟨entry, dbType, hentry, htype, hmounted⟩
  · simp only [Backend.byClassifierRequest, String.toList_append, List.append_assoc]
    exact dbaas_address _ _
  · simp only [Backend.databaseRequest, String.toList_append, List.append_assoc]
    exact dbaas_address _ _
  · rfl
  · rfl

theorem fromDbaas_follows :
    Follows (pod.Permits (.connection connId)) Onwards [] (pod.fromDbaas connId) := by
  rw [fromDbaas]
  cases hentry : pod.backend.properties.lookup (connId ++ "_dbaas") with
  | none =>
    change Onwards (.ok none) []
    exact onwards_of (by simp [sent])
  | some entry =>
    refine Follows.bind ((getConnFromDbaas_follows hentry).mono fun result after hafter => ?_)
    cases result with
    | error failure => trivial
    | ok connectionData =>
      refine Follows.ofExcept_bind (fun _ => trivial) fun dbType _ => ?_
      split_ifs
      · exact Follows.ofExcept (onwards_of hafter)
      · exact hafter

def Anything {α : Type} (_ : Except PyError α) (_ : Exchanged) : Prop := True

theorem getKafkaConnFromMaas_follows {maasData : Json}
    (hentry : (pod.backend.properties.lookup (connId ++ "_maas")).isSome = true)
    (honly : ∀ exchange ∈ sent before, ∃ request, exchange.op = .send .dbaas request) :
    Follows (pod.Permits (.connection connId)) Anything before
      (pod.getKafkaConnFromMaas maasData) := by
  rw [getKafkaConnFromMaas]
  refine Follows.ofExcept_bind (fun _ => trivial) fun ns _ => ?_
  refine Follows.bind (requestsWithCorrectAuth_follows hentry ?_ ?_ (fun _ _ => trivial) ?_)
  · simp only [Backend.topicRequest, String.toList_append]
    exact maas_address _
  · intro exchanged hsent
    refine ⟨rfl, ?_⟩
    rwa [hsent]
  · intro response http after _ _
    change Follows _ _ _ (if response.statusCode = 201 ∨ response.statusCode = 200 then _ else _)
    split_ifs
    · exact Follows.ofExcept trivial
    · trivial

theorem fromMaas_follows
    (honly : ∀ exchange ∈ sent before, ∃ request, exchange.op = .send .dbaas request) :
    Follows (pod.Permits (.connection connId)) Anything before (pod.fromMaas connId) := by
  rw [fromMaas]
  cases hentry : pod.backend.properties.lookup (connId ++ "_maas") with
  | none => trivial
  | some entry =>
    refine Follows.ofExcept_bind (fun _ => trivial) fun maasType _ => ?_
    refine Follows.ofExcept_bind (fun _ => trivial) fun maasData _ => ?_
    refine Follows.ofExcept_bind (fun _ => trivial) fun maasPatch _ => ?_
    split_ifs
    · refine Follows.bind ((getKafkaConnFromMaas_follows (by simp [hentry]) honly).mono ?_)
      intro result after _
      cases result with
      | ok topic => exact Follows.ofExcept trivial
      | error failure => trivial
    · trivial

theorem getConnValue_follows :
    Follows (pod.Permits (.connection connId)) Anything [] (pod.getConnValue connId) := by
  rw [getConnValue]
  split_ifs
  · trivial
  refine Follows.bind (fromDbaas_follows.mono fun result after hafter => ?_)
  cases result with
  | error failure => trivial
  | ok value =>
    cases value with
    | some value => trivial
    | none => exact fromMaas_follows hafter

theorem getConnection_follows :
    Follows (pod.Permits (.connection connId)) Anything [] (pod.getConnection connId) := by
  rw [getConnection]
  refine Follows.bind (getConnValue_follows.mono fun result after _ => ?_)
  cases result with
  | error failure => trivial
  | ok value =>
    cases value with
    | none => trivial
    | some value =>
      change Follows _ _ _ (if value ≠ "" then _ else _)
      split_ifs
      · exact Follows.ofExcept trivial
      · trivial

variable {key : String}

theorem mainDatabase_follows (type : String)
    (hkey : key ∈ ["airfow_celery_redis_main_conn", "airfow_pg_main_conn"]) :
    Follows (pod.Permits (.config key)) Onwards [] (pod.mainDatabase type) := by
  rw [mainDatabase]
  split_ifs with hoperator
  · exact Follows.ofExcept (onwards_of (by simp [sent]))
  apply requestProperties_follows
  · exact ⟨hkey, by simpa using hoperator⟩
  · simp only [Backend.mainLookupRequest, String.toList_append, List.append_assoc]
    exact dbaas_address _ _
  · simp only [Backend.mainCreateRequest, String.toList_append, List.append_assoc]
    exact dbaas_address _ _
  · rfl
  · rfl

theorem mainDatabase_bind_follows {α : Type} (type : String) {parse : Json → Except PyError α}
    (hkey : key ∈ ["airfow_celery_redis_main_conn", "airfow_pg_main_conn"]) :
    Follows (pod.Permits (.config key)) Anything []
      (pod.mainDatabase type >>= fun properties => Program.ofExcept (parse properties)) := by
  refine Follows.bind ((mainDatabase_follows type hkey).mono fun result after _ => ?_)
  cases result with
  | ok properties => exact Follows.ofExcept trivial
  | error failure => trivial

theorem getConfig_follows :
    Follows (pod.Permits (.config key)) Anything [] (pod.getConfig key) := by
  rw [getConfig]
  split_ifs with hredis hpg hlocal
  · refine Follows.bind ((mainDatabase_bind_follows "redis" (by simp [hredis])).mono ?_)
    intro result after _
    cases result <;> trivial
  · refine Follows.bind ((mainDatabase_bind_follows "postgresql" (by simp [hpg])).mono ?_)
    intro result after _
    cases result <;> trivial
  · cases keyVariables.lookup key <;> trivial
  · cases keyVariables.lookup key <;> trivial

end Lookups

theorem answer_follows (lookup : Lookup) :
    Follows (pod.Permits lookup) Anything [] (pod.answer lookup) := by
  cases lookup with
  | connection connId => exact getConnection_follows
  | config key => exact getConfig_follows

/-- Whatever the services answer, and wherever a lookup is abandoned: each of its calls is
permitted after those before it. -/
theorem lookup_permitted (pod : Pod Connection) (lookup : Lookup) {exchanged : Exchanged}
    {outcome : Option (Except PyError (lookup.Result Connection))}
    (h : Yields (pod.answer lookup) exchanged outcome)
    {earlier later : Exchanged} {exchange : Exchange Call Call.Answer}
    (hsplit : exchanged = earlier ++ exchange :: later) :
    pod.Permits lookup earlier exchange.op :=
  ((answer_follows lookup).yields h).1 earlier exchange later hsplit

/-- What the backend without credentials ends with is what a whole lookup ends with. -/
theorem exists_whole_lookup (pod : Pod Connection) (answers : (call : Call) → call.Answer)
    (connId : String) :
    ∃ exchanged, Yields (pod.answer (.connection connId)) exchanged
        (some ((pod.answeredBy answers).getConnection connId)) ∧
      ∀ exchange ∈ exchanged, exchange.answer = answers exchange.op := by
  obtain ⟨exchanged, hyields, hanswers⟩ := exists_yields_against answers (pod.getConnection connId)
  rw [getConnection_against] at hyields
  exact ⟨exchanged, hyields, hanswers⟩

end Pod

def tokenPod : Pod Unit where
  backend := bareBackend
  auth := ⟨fun _ => ⟨none, none, none⟩, none⟩
  parameters _ := ⟨"airflow", "true", "airflow", none⟩
  redisDbName := "1"
  keyFile _ _ := none
  localConfig _ := none

def lookupRequest : Request :=
  tokenPod.backend.mainLookupRequest "postgresql" (tokenPod.parameters "postgresql")

def createRequest : Request :=
  tokenPod.backend.mainCreateRequest "postgresql" (tokenPod.parameters "postgresql")

def replacedToken : Exchanged :=
  [⟨.readToken .dbaas, .ok "first"⟩,
    ⟨.send .dbaas (lookupRequest.withToken "first" (.bool true)), .ok ⟨404, none⟩⟩,
    ⟨.readToken .dbaas, .ok "second"⟩]

theorem replaced_token_permitted : tokenPod.Permits (.config "airfow_pg_main_conn") replacedToken
    (.send .dbaas (createRequest.withToken "second" (.bool true))) := by
  have hyields : Yields (tokenPod.answer (.config "airfow_pg_main_conn"))
      (replacedToken ++ [⟨.send .dbaas (createRequest.withToken "second" (.bool true)),
        .ok ⟨500, none⟩⟩]) none := by
    apply Yields.call
    apply Yields.call
    apply Yields.call
    apply Yields.call
    apply Yields.abandoned
  exact tokenPod.lookup_permitted _ hyields rfl

end QubershipAirflow.Secrets
