import QubershipAirflow.Databases.JobScript
import QubershipAirflow.Secrets.Authorization

/-! What a run of the preinstall job sends, whatever it is answered and wherever it is
abandoned, and when it ends without a failure. -/
namespace QubershipAirflow.Databases

open Programs Secrets

abbrev JobExchanged := List (Exchange JobCall JobCall.Answer)

def sentRequest : JobCall → Option HttpRequest
  | .send request => some request
  | _ => none

def sentRequests (exchanged : JobExchanged) : List HttpRequest :=
  exchanged.filterMap fun exchange => sentRequest exchange.op

theorem sentRequests_append (first second : JobExchanged) :
    sentRequests (first ++ second) = sentRequests first ++ sentRequests second :=
  List.filterMap_append

theorem sentRequests_single (op : JobCall) (answer : op.Answer) :
    sentRequests [⟨op, answer⟩] = (sentRequest op).toList := by
  cases op <;> rfl

/-- The calls whose refusal is not logged but ends the script. -/
def Decisive : JobCall → Prop
  | .loadIncluster => True
  | .readToken => True
  | .readGrantNamespace => True
  | .send request => request.method = .post
  | _ => False

/-- None of these was refused; DBaaS may have answered with any status. -/
def Sound (exchanged : JobExchanged) : Prop :=
  ∀ exchange ∈ exchanged, Decisive exchange.op → ∃ reply, exchange.answer = .ok reply

theorem sound_append {before : JobExchanged} {op : JobCall} {answer : op.Answer} :
    Sound (before ++ [⟨op, answer⟩]) ↔
      Sound before ∧ (Decisive op → ∃ reply, answer = .ok reply) := by
  simp only [Sound, List.mem_append, List.mem_singleton]
  constructor
  · intro h
    exact ⟨fun exchange hmem => h exchange (.inl hmem), h ⟨op, answer⟩ (.inr rfl)⟩
  · rintro ⟨hbefore, hlast⟩ exchange (hmem | rfl)
    · exact hbefore exchange hmem
    · exact hlast

namespace JobScript

variable (script : JobScript)

def opening : Option String → JobExchanged
  | some token => [⟨.loadIncluster, .ok ()⟩, ⟨.readToken, .ok token⟩]
  | none => [⟨.loadIncluster, .ok ()⟩]

/-- The script began so, and has read a token exactly if it takes one. -/
def Opened (token : Option String) (exchanged : JobExchanged) : Prop :=
  token.isSome = script.takesToken ∧ opening token <+: exchanged

def creation (database : Database) : List Request :=
  if script.job.dbaasOperatorEnabled then [] else [script.job.request database]

def creationPlan : List Request :=
  script.creation .postgresql ++
    if script.job.airflowExecutor ≠ "KubernetesExecutor" then script.creation .redis else []

def grantPlan : List Request :=
  if script.grants then script.grantRequest .postgresql ::
    if script.microserviceName .postgresql ≠ script.microserviceName .redis then
      [script.grantRequest .redis] else []
  else []

def plan : List Request := script.creationPlan ++ script.grantPlan

/-- What comes before decides whether a call may be made. All requests carry the token
that was read at the beginning, or all the password. -/
def Permits (before : JobExchanged) : JobCall → Prop
  | .loadIncluster => before = []
  | .readToken => script.takesToken = true ∧ before = opening none
  | .send request => ∃ token, script.Opened token before ∧
      (sentRequests before ++ [request]).Sublist (script.plan.map (script.httpRequest token))
  | _ => True

def Ends (result : Except PyError Unit) (exchanged : JobExchanged) : Prop :=
  (result = .ok () ↔ Sound exchanged) ∧ (result = .ok () →
    ∃ token, script.Opened token exchanged ∧
      script.grantPlan.map (script.httpRequest token) <:+ sentRequests exchanged)

variable {script}

structure Underway (script : JobScript) (token : Option String) (planned : List Request)
    (exchanged : JobExchanged) : Prop where
  opened : script.Opened token exchanged
  sound : Sound exchanged
  sublist : (sentRequests exchanged).Sublist (planned.map (script.httpRequest token))

variable {token : Option String} {planned : List Request} {before : JobExchanged}

theorem Opened.append (h : script.Opened token before) (more : JobExchanged) :
    script.Opened token (before ++ more) :=
  ⟨h.1, h.2.trans (List.prefix_append _ _)⟩

theorem Underway.mono (h : Underway script token planned before) {more : List Request}
    (hmore : planned.Sublist more) : Underway script token more before :=
  ⟨h.opened, h.sound, h.sublist.trans (hmore.map _)⟩

theorem Underway.quiet (h : Underway script token planned before) (op : JobCall)
    (answer : op.Answer) (hanswer : Decisive op → ∃ reply, answer = .ok reply)
    (hsent : sentRequest op = none) :
    Underway script token planned (before ++ [⟨op, answer⟩]) where
  opened := h.opened.append _
  sound := sound_append.2 ⟨h.sound, hanswer⟩
  sublist := by
    rw [sentRequests_append, sentRequests_single, hsent]
    simpa using h.sublist

theorem httpRequest_method (token : Option String) (request : Request) :
    (script.httpRequest token request).method = request.method := by
  cases token <;> rfl

theorem Underway.sends (h : Underway script token planned before) (request : Request)
    (answer : (JobCall.send (script.httpRequest token request)).Answer)
    (hanswer : request.method = .post → ∃ reply, answer = .ok reply) :
    Underway script token (planned ++ [request])
      (before ++ [⟨.send (script.httpRequest token request), answer⟩]) where
  opened := h.opened.append _
  sound := by
    refine sound_append.2 ⟨h.sound, fun hdecisive => hanswer ?_⟩
    rwa [Decisive, httpRequest_method] at hdecisive
  sublist := by
    rw [sentRequests_append, List.map_append]
    exact h.sublist.append (List.Sublist.refl _)

theorem Underway.permits (h : Underway script token planned before) {request : Request}
    (hplan : (planned ++ [request]).Sublist script.plan) :
    script.Permits before (.send (script.httpRequest token request)) := by
  refine ⟨token, h.opened, ?_⟩
  have hmore := h.sublist.append (List.Sublist.refl [script.httpRequest token request])
  exact hmore.trans (by simpa using hplan.map (script.httpRequest token))

theorem getDatabase_follows {database : Database} (h : Underway script token planned before)
    (hplan : (planned ++ [script.job.request database]).Sublist script.plan) :
    Follows script.Permits
      (fun _ => Underway script token (planned ++ [script.job.request database])) before
      (script.getDatabase token database) := by
  have hleft := List.sublist_append_left planned [script.job.request database]
  rw [getDatabase]
  refine Follows.bind (Follows.ask trivial fun classifier => ?_)
  have hfirst := h.quiet (.readNamespace (.classifier database)) classifier False.elim rfl
  cases classifier with
  | error failure => exact hfirst.mono hleft
  | ok _ =>
    refine Follows.bind (Follows.ask trivial fun address => ?_)
    have hsecond := hfirst.quiet (.readNamespace (.address database)) address False.elim rfl
    cases address with
    | error failure => exact hsecond.mono hleft
    | ok _ =>
      refine Follows.bind (Follows.ask (hsecond.permits hplan) fun answer => ?_)
      have hput : (script.job.request database).method = .put := rfl
      have hsent := hsecond.sends (script.job.request database) answer (by simp [hput])
      cases answer with
      | error failure => exact hsent
      | ok response =>
        change Follows _ _ _ (if response.statusCode = 201 ∨ response.statusCode = 200 then _
          else _)
        split_ifs
        · exact Follows.ofExcept hsent
        · exact hsent

theorem deleteSecret_follows (secret : String) (h : Underway script token planned before) :
    Follows script.Permits (fun _ => Underway script token planned) before
      (deleteSecretIgnoreNotFound secret) := by
  rw [deleteSecretIgnoreNotFound]
  refine Follows.bind (Follows.ask trivial fun answer => ?_)
  have hfirst := h.quiet (.readNamespace (.deletion secret)) answer False.elim rfl
  cases answer with
  | error failure => exact hfirst
  | ok _ =>
    refine Follows.bind (Follows.ask trivial fun answer => ?_)
    have hsecond := hfirst.quiet (.deleteSecret secret) answer False.elim rfl
    cases answer with
    | error failure => exact hsecond
    | ok deletion =>
      cases deletion with
      | accepted => exact hsecond
      | otherException => exact hsecond
      | apiException status =>
        change Follows _ _ _ (if status = 404 then _ else _)
        split_ifs <;> exact hsecond

theorem createSecret_follows {database : Database} (h : Underway script token planned before)
    (hplan : (planned ++ script.creation database).Sublist script.plan) :
    Follows script.Permits
      (fun result after => result = .ok () ∧
        Underway script token (planned ++ script.creation database) after) before
      (script.createSecret token database) := by
  rw [createSecret]
  refine Follows.bind (Follows.attempt ?_)
  rw [creation] at hplan ⊢
  cases hoperator : script.job.dbaasOperatorEnabled with
  | true =>
    refine (deleteSecret_follows database.secret h).mono fun result after hafter => ?_
    exact ⟨rfl, hafter.mono (List.sublist_append_left _ _)⟩
  | false =>
    rw [hoperator] at hplan
    refine Follows.bind ((getDatabase_follows h hplan).mono fun result after hafter => ?_)
    cases result with
    | error failure => exact ⟨rfl, hafter⟩
    | ok properties =>
      refine (deleteSecret_follows database.secret hafter).mono fun result after hafter => ?_
      exact ⟨rfl, hafter⟩

theorem ends_refused {op : JobCall} {failure : PyError} (hdecisive : Decisive op) :
    script.Ends (.error failure) (before ++ [⟨op, .error failure⟩]) := by
  refine ⟨iff_of_false nofun fun hsound => ?_, nofun⟩
  obtain ⟨reply, hreply⟩ := (sound_append.1 hsound).2 hdecisive
  cases hreply

theorem ends_done (earlier : List HttpRequest) (h : Underway script token planned before)
    (hsent : sentRequests before =
      earlier ++ script.grantPlan.map (script.httpRequest token)) :
    script.Ends (.ok ()) before :=
  ⟨iff_of_true rfl h.sound, fun _ => ⟨token, h.opened, earlier, hsent.symm⟩⟩

theorem grantPermissionsForSas_follows (h : Underway script token script.creationPlan before)
    (hgrants : script.grants = true) :
    Follows script.Permits script.Ends before (script.grantPermissionsForSas token) := by
  have hplan : script.grantPlan = script.grantRequest .postgresql ::
      if script.microserviceName .postgresql ≠ script.microserviceName .redis then
        [script.grantRequest .redis] else [] := by
    rw [grantPlan, if_pos hgrants]
  rw [grantPermissionsForSas]
  refine Follows.bind (Follows.ask trivial fun answer => ?_)
  cases answer with
  | error failure => exact ends_refused trivial
  | ok _ =>
    have hread := h.quiet .readGrantNamespace (.ok ()) (fun _ => ⟨(), rfl⟩) rfl
    have hpg : (script.creationPlan ++ [script.grantRequest .postgresql]).Sublist script.plan := by
      rw [plan, hplan]
      exact (List.Sublist.refl _).append (List.Sublist.cons_cons _ (List.nil_sublist _))
    refine Follows.bind (Follows.ask (hread.permits hpg) fun answer => ?_)
    cases answer with
    | error failure => exact ends_refused (httpRequest_method token _)
    | ok response =>
      have hfirst := hread.sends (script.grantRequest .postgresql) (.ok response)
        fun _ => ⟨response, rfl⟩
      change Follows _ _ _ (if script.microserviceName .postgresql ≠ script.microserviceName .redis
        then _ else _)
      split_ifs with hnames
      · rw [if_pos hnames] at hplan
        refine Follows.bind (Follows.ask (hfirst.permits ?_) fun answer => ?_)
        · rw [plan, hplan, List.append_assoc]
          exact List.Sublist.refl _
        · cases answer with
          | error failure => exact ends_refused (httpRequest_method token _)
          | ok other =>
            have hsecond := hfirst.sends (script.grantRequest .redis) (.ok other)
              fun _ => ⟨other, rfl⟩
            refine ends_done (sentRequests before) hsecond ?_
            simp only [sentRequests_append, hplan, List.append_assoc]
            rfl
      · rw [if_neg hnames] at hplan
        refine ends_done (sentRequests before) hfirst ?_
        simp only [sentRequests_append, hplan, List.append_assoc]
        rfl

theorem createSecrets_follows (h : Underway script token [] before) :
    Follows script.Permits
      (fun result after => result = .ok () ∧ Underway script token script.creationPlan after) before
      (script.createSecrets token) := by
  have hplan : (script.creation .postgresql).Sublist script.plan := by
    rw [plan, creationPlan, List.append_assoc]
    exact List.sublist_append_left _ _
  rw [createSecrets]
  refine Follows.bind ((createSecret_follows h hplan).mono ?_)
  rintro _ after ⟨rfl, hpg⟩
  change Follows _ _ _ (if script.job.airflowExecutor ≠ "KubernetesExecutor" then _ else _)
  split_ifs with hexecutor
  · have hboth : script.creationPlan = script.creation .postgresql ++ script.creation .redis := by
      rw [creationPlan, if_pos hexecutor]
    rw [hboth]
    apply createSecret_follows hpg
    rw [plan, hboth]
    exact List.sublist_append_left _ _
  · exact ⟨rfl, hpg.mono (List.sublist_append_left _ _)⟩

theorem rest_follows (h : Underway script token [] before) :
    Follows script.Permits script.Ends before (do
      script.createSecrets token
      if script.grants then script.grantPermissionsForSas token) := by
  refine Follows.bind ((createSecrets_follows h).mono ?_)
  rintro _ after ⟨rfl, hboth⟩
  change Follows _ _ _ (if script.grants = true then _ else _)
  split_ifs with hgrants
  · exact grantPermissionsForSas_follows hboth hgrants
  · refine ends_done (sentRequests after) hboth ?_
    rw [grantPlan, if_neg hgrants, List.map_nil, List.append_nil]

theorem underway_opening (hsome : token.isSome = script.takesToken) :
    Underway script token [] (opening token) where
  opened := ⟨hsome, List.prefix_refl _⟩
  sound := by
    cases token <;> simp [opening, Sound]
  sublist := by
    cases token <;> exact List.Sublist.refl _

theorem main_follows : Follows script.Permits script.Ends [] script.main := by
  rw [main]
  refine Follows.bind (Follows.ask rfl fun answer => ?_)
  cases answer with
  | error failure => exact ends_refused trivial
  | ok _ =>
    refine Follows.bind ?_
    cases htakes : script.takesToken with
    | true =>
      rw [authorise, htakes, if_pos rfl]
      refine Follows.bind (Follows.ask ⟨htakes, rfl⟩ fun answer => ?_)
      cases answer with
      | error failure => exact ends_refused trivial
      | ok token => exact rest_follows (underway_opening htakes.symm)
    | false =>
      rw [authorise, htakes, if_neg Bool.false_ne_true]
      exact rest_follows (underway_opening htakes.symm)

theorem operator_plan (hoperator : script.job.dbaasOperatorEnabled = true) :
    script.plan = [] ∧ script.takesToken = false := by
  simp [plan, creationPlan, creation, grantPlan, grants, takesToken, hoperator]

/-- Whatever the script is answered and wherever it is abandoned: what it sends is
permitted, with the operator it sends nothing and reads no token, and it fails exactly
when a decisive call is refused. -/
theorem main_permitted (script : JobScript) {exchanged : JobExchanged}
    {outcome : Option (Except PyError Unit)} (h : Yields script.main exchanged outcome) :
    (∀ earlier exchange later, exchanged = earlier ++ exchange :: later →
        script.Permits earlier exchange.op) ∧
      (script.job.dbaasOperatorEnabled = true →
        ∀ exchange ∈ exchanged, sentRequest exchange.op = none ∧ exchange.op ≠ .readToken) ∧
      ∀ result, outcome = some result → script.Ends result exchanged := by
  obtain ⟨hpermitted, hends⟩ := main_follows.yields h
  refine ⟨by simpa using hpermitted, fun hoperator exchange hmem => ?_, by simpa using hends⟩
  obtain ⟨hplan, htakes⟩ := operator_plan hoperator
  obtain ⟨earlier, later, rfl⟩ := List.append_of_mem hmem
  have hexchange := hpermitted earlier exchange later rfl
  obtain ⟨op, answer⟩ := exchange
  cases op with
  | send request =>
    obtain ⟨token, -, hsublist⟩ := hexchange
    rw [hplan] at hsublist
    simpa using hsublist.length_le
  | readToken =>
    obtain ⟨htaken, -⟩ := hexchange
    rw [htakes] at htaken
    cases htaken
  | _ => exact ⟨rfl, nofun⟩

end JobScript

def refusing : (call : JobCall) → call.Answer
  | .loadIncluster => .ok ()
  | .readToken => .ok "token"
  | .readNamespace _ => .ok ()
  | .readGrantNamespace => .ok ()
  | .send _ => .ok ⟨500, none⟩
  | .deleteSecret _ => .ok .accepted

def grantScript : JobScript where
  job := upgradeJob
  credentials := ⟨none, none, some "true"⟩
  dbaasApiVerify := none
  helmReleaseName := "airflow"
  itSaName := none

/-- No database was created and no permission granted. -/
theorem refused_script_succeeds : ∃ exchanged,
    Yields grantScript.main exchanged (some (.ok ())) ∧
      (∀ exchange ∈ exchanged, exchange.answer = refusing exchange.op) ∧
      ∃ token, grantScript.Opened token exchanged ∧
        grantScript.grantPlan.map (grantScript.httpRequest token) <:+ sentRequests exchanged := by
  obtain ⟨exchanged, hyields, hanswers⟩ := exists_yields_against refusing grantScript.main
  have hdone : grantScript.main.against refusing = .ok () := rfl
  rw [hdone] at hyields
  obtain ⟨-, -, hends⟩ := JobScript.main_permitted grantScript hyields
  exact ⟨exchanged, hyields, hanswers, (hends _ rfl).2 rfl⟩

/-! ## The job and the pods -/

section Alike

variable {script : JobScript} {Connection : Type} {pod : Pod Connection}

def Bearer (request : HttpRequest) : Prop :=
  (request.headers.lookup "Authorization").isSome = true

theorem bearer_httpRequest {token : Option String} {request : Request} :
    Bearer (script.httpRequest token request) ↔ token.isSome = true := by
  cases token with
  | none =>
    have hnone : (script.httpRequest none request).headers.lookup "Authorization" = none :=
      Pod.headers_authorization request
    simp [Bearer, hnone]
  | some token =>
    have hsome := Pod.withToken_authorization request token (apiVerify script.dbaasApiVerify)
    change (List.lookup "Authorization" (request.withToken token _).headers).isSome = true ↔ _
    simp [hsome]

theorem bearer_of_job {exchanged : JobExchanged} {outcome : Option (Except PyError Unit)}
    (h : Yields script.main exchanged outcome) {request : HttpRequest}
    (hmem : request ∈ sentRequests exchanged) : Bearer request ↔ script.takesToken = true := by
  obtain ⟨⟨op, answer⟩, hexchange, hsent⟩ := List.mem_filterMap.1 hmem
  obtain ⟨earlier, later, rfl⟩ := List.append_of_mem hexchange
  have hpermitted := (JobScript.main_follows.yields h).1 earlier ⟨op, answer⟩ later rfl
  cases op with
  | send other =>
    cases hsent
    obtain ⟨token, ⟨hsome, -⟩, hsublist⟩ := hpermitted
    have hplanned : request ∈ script.plan.map (script.httpRequest token) :=
      hsublist.mem (List.mem_append_right _ List.mem_cons_self)
    obtain ⟨plain, -, rfl⟩ := List.mem_map.1 hplanned
    rw [bearer_httpRequest, hsome]
  | _ => cases hsent

theorem bearer_of_lookup {lookup : Lookup} {exchanged : Exchanged}
    {outcome : Option (Except PyError (lookup.Result Connection))}
    (h : Yields (pod.answer lookup) exchanged outcome) {service : TargetService}
    {request : HttpRequest} {answer : (Call.send service request).Answer}
    (hmem : ⟨.send service request, answer⟩ ∈ exchanged) :
    Bearer request ↔ pod.usesM2m service = true := by
  obtain ⟨earlier, later, rfl⟩ := List.append_of_mem hmem
  obtain ⟨-, -, hcarries, -⟩ := ((Pod.answer_follows lookup).yields h).1 earlier _ later rfl
  rw [Pod.Carries] at hcarries
  split_ifs at hcarries with huses
  · obtain ⟨-, -, token, -, hlookup⟩ := hcarries
    simp [Bearer, hlookup, huses]
  · simp [Bearer, hcarries.1, huses]

theorem exists_authorised (script : JobScript) :
    ∃ token exchanged, Yields script.authorise exchanged (some (.ok token)) := by
  rw [JobScript.authorise]
  split_ifs
  · exact ⟨some "", _, Yields.bind (Yields.ask "") (.pure _)⟩
  · exact ⟨none, _, .pure _⟩

/-- Where the first request is abandoned, so are the secrets. -/
theorem createSecrets_abandoned (hrest : script.job.dbaasOperatorEnabled = false)
    {token : Option String} {exchanged : JobExchanged}
    (h : Yields (script.getDatabase token .postgresql) exchanged none) :
    Yields (script.createSecrets token) exchanged none := by
  refine Yields.bind_abandoned (Yields.bind_abandoned (Yields.attempt_abandoned ?_))
  rw [if_pos hrest]
  exact Yields.bind_abandoned h

theorem exists_job_request (hrest : script.job.dbaasOperatorEnabled = false) :
    ∃ exchanged request, Yields script.main exchanged none ∧ request ∈ sentRequests exchanged := by
  obtain ⟨token, authorised, hauthorised⟩ := exists_authorised script
  have hdatabase : Yields (script.getDatabase token .postgresql) _ none :=
    Yields.bind (Yields.ask ()) (Yields.bind (Yields.ask ())
      (Yields.bind (Yields.ask ⟨500, none⟩) (.abandoned _)))
  have hmain : Yields script.main _ none := Yields.bind (Yields.ask ())
    (Yields.bind hauthorised (Yields.bind_abandoned (createSecrets_abandoned hrest hdatabase)))
  refine ⟨_, script.httpRequest token (script.job.request .postgresql), hmain, ?_⟩
  simp [sentRequests, sentRequest]

theorem exists_sent (pod : Pod Connection) (request : Request) :
    ∃ exchanged sent answer, Yields (pod.requestsWithCorrectAuth .dbaas request) exchanged none ∧
      ⟨.send .dbaas sent, answer⟩ ∈ exchanged := by
  have hsend : ∀ http, Yields (Call.send .dbaas http).ask
      [⟨.send .dbaas http, .ok ⟨500, none⟩⟩] none := fun http => .call _ (.abandoned _)
  rw [Pod.requestsWithCorrectAuth]
  split_ifs
  · have hsent := hsend (request.withToken "" pod.verify)
    exact ⟨_, _, _, Yields.bind (Yields.ask "") hsent, List.mem_append_right _ List.mem_cons_self⟩
  · exact ⟨_, _, _, hsend (request.withPassword (pod.auth.credentials .dbaas) pod.verify),
      List.mem_cons_self⟩

theorem exists_lookup_request (hrest : pod.backend.settings.dbaasOperatorEnabled = false) :
    ∃ exchanged request answer, Yields (pod.answer (.config "airfow_pg_main_conn")) exchanged none ∧
      ⟨.send .dbaas request, answer⟩ ∈ exchanged := by
  obtain ⟨exchanged, request, answer, hsent, hmem⟩ := exists_sent pod
    (pod.backend.mainLookupRequest "postgresql" (pod.parameters "postgresql"))
  refine ⟨exchanged, request, answer, ?_, hmem⟩
  rw [Pod.answer, Pod.getConfig, if_neg (by decide), if_pos rfl, Pod.getPgConnection,
    Pod.mainDatabase, if_neg (by simpa using hrest)]
  exact Yields.bind_abandoned (Yields.bind_abandoned (Yields.bind_abandoned hsent))

/-- Whatever the job and a pod send to DBaaS, both sign it with a token or neither does. -/
def Alike (script : JobScript) (pod : Pod Connection) : Prop :=
  ∀ asked result request, Yields script.main asked result → request ∈ sentRequests asked →
    ∀ lookup exchanged outcome other answer, Yields (pod.answer lookup) exchanged outcome →
      ⟨.send .dbaas other, answer⟩ ∈ exchanged → (Bearer request ↔ Bearer other)

theorem alike_iff_same (hjob : script.job.dbaasOperatorEnabled = false)
    (hpod : pod.backend.settings.dbaasOperatorEnabled = false) :
    Alike script pod ↔ (script.takesToken = true ↔ pod.usesM2m .dbaas = true) := by
  constructor
  · intro halike
    obtain ⟨asked, request, hmain, hrequest⟩ := exists_job_request hjob
    obtain ⟨exchanged, other, answer, hlookup, hother⟩ := exists_lookup_request hpod
    rw [← bearer_of_job hmain hrequest, ← bearer_of_lookup hlookup hother]
    exact halike _ _ _ hmain hrequest _ _ _ _ _ hlookup hother
  · intro hsame asked result request hmain hrequest lookup exchanged outcome other answer hlookup
      hother
    rw [bearer_of_job hmain hrequest, bearer_of_lookup hlookup hother, hsame]

/-- With the same settings they are alike exactly where the setting is empty, or allows
tokens and there is no user, or forbids them and there is one. -/
theorem alike_iff (script : JobScript) (pod : Pod Connection)
    (hshared : pod.auth.credentials .dbaas = script.credentials)
    (hjob : script.job.dbaasOperatorEnabled = false)
    (hpod : pod.backend.settings.dbaasOperatorEnabled = false) :
    Alike script pod ↔ script.credentials.m2mEnabled = some "" ∨
      (JobScript.given script.credentials.user = false ↔
        script.credentials.m2mEnabled.all (· ∉ negativeValues) = true) := by
  rw [alike_iff_same hjob hpod, Pod.usesM2m, hshared, JobScript.takesToken, hjob]
  cases script.credentials.m2mEnabled with
  | none => cases JobScript.given script.credentials.user <;> simp [JobScript.given, enabled]
  | some setting =>
    by_cases hempty : setting = ""
    · simp [JobScript.given, enabled, hempty]
    · cases JobScript.given script.credentials.user <;> simp [JobScript.given, enabled, hempty]

def withoutUser : Credentials := ⟨none, none, some "false"⟩

/-- The job still takes a token: the text `false` is true. -/
theorem without_user_unlike : ¬ Alike { grantScript with credentials := withoutUser }
    { tokenPod with auth := ⟨fun _ => withoutUser, none⟩ } := by
  have hiff := alike_iff { grantScript with credentials := withoutUser }
    { tokenPod with auth := ⟨fun _ => withoutUser, none⟩ } rfl rfl rfl
  rw [hiff]
  decide

end Alike

end QubershipAirflow.Databases
