import QubershipAirflow.Databases.DbaasJob
import QubershipAirflow.Secrets.Requests

/-! The whole script of the preinstall job: how it authenticates, what it sends to DBaaS
and in which order, and when it fails. -/
namespace QubershipAirflow.Databases

open Programs Secrets

/-- What the script asks for outside. To send is to call `requests.post` or `requests.put`,
which follow redirects within the call. -/
inductive JobCall where
  | loadIncluster
  | readToken
  | readNamespace (use : NamespaceUse)
  | readGrantNamespace
  | send (request : HttpRequest)
  | deleteSecret (secret : String)

abbrev JobCall.Reply : JobCall → Type
  | .readToken => String
  | .send _ => Response Json
  | .deleteSecret _ => DeletionAnswer
  | _ => Unit

abbrev JobCall.Answer (call : JobCall) : Type := Except PyError call.Reply

abbrev Scripted (α : Type) := Program JobCall JobCall.Answer PyError α

def JobCall.ask (call : JobCall) : Scripted call.Reply := Program.ask call

structure JobScript where
  job : DbaasJob
  credentials : Credentials
  dbaasApiVerify : Option String
  helmReleaseName : String
  itSaName : Option String

namespace JobScript

variable (script : JobScript)

/-- `if value`, for what is read from a file or the environment. -/
def given : Option String → Bool
  | none => false
  | some value => value ≠ ""

/-- `dbaas_m2m_enabled and not dbaas_user and not dbaas_operator_enabled`: the setting is
a text, and any text but the empty one is true. -/
def takesToken : Bool :=
  given (some (script.credentials.m2mEnabled.getD "True")) &&
    !given script.credentials.user && !script.job.dbaasOperatorEnabled

/-- `dbaas_m2m_enabled not in negative_values and not dbaas_operator_enabled` -/
def grants : Bool :=
  script.credentials.m2mEnabled.all (· ∉ negativeValues) && !script.job.dbaasOperatorEnabled

def httpRequest (token : Option String) (request : Request) : HttpRequest :=
  match token with
  | some token => request.withToken token (apiVerify script.dbaasApiVerify)
  | none => request.withPassword script.credentials (apiVerify script.dbaasApiVerify)

def microserviceName (database : Database) : String :=
  (script.job.parameters database).microserviceName

def adminRole (name : String) : Json := .obj [("name", .str name), ("roles", .arr [.str "admin"])]

def serviceSuffixes : List String :=
  ["-api-server", "-create-user-job", "-dag-processor", "-database-cleanup",
    "-migrate-database-job", "-scheduler", "-worker", "-triggerer", "-flower"]

def services : List Json :=
  (serviceSuffixes.map fun suffix => adminRole (script.helmReleaseName ++ suffix)) ++
    if given script.itSaName then (script.itSaName.toList.map adminRole) else []

def grantRequest (database : Database) : Request where
  method := .post
  address := script.job.dbaasHost ++ "/api/declarations/v1/apply"
  originNamespace := none
  data := .obj [("apiVersion", .str "core.netcracker.com/v1"), ("kind", .str "DBaaS"),
    ("subKind", .str "DbPolicy"),
    ("metadata", .obj [("name", .str (script.helmReleaseName ++ "-dbPolicy")),
      ("namespace", .str script.job.ns),
      ("microserviceName", .str (script.microserviceName database))]),
    ("spec", .obj [("services", .arr script.services),
      ("disableGlobalPermissions", .bool false)])]

def authorise : Scripted (Option String) := do
  if script.takesToken then
    let token ← JobCall.readToken.ask
    return some token
  else return none

/-- `get_pg_database` and `get_redis_database` -/
def getDatabase (token : Option String) (database : Database) : Scripted Json := do
  (JobCall.readNamespace (.classifier database)).ask
  (JobCall.readNamespace (.address database)).ask
  let response ← (JobCall.send (script.httpRequest token (script.job.request database))).ask
  if response.statusCode = 201 ∨ response.statusCode = 200 then
    Program.ofExcept response.connectionProperties
  else return .null

def deleteSecretIgnoreNotFound (secret : String) : Scripted Unit := do
  (JobCall.readNamespace (.deletion secret)).ask
  match ← (JobCall.deleteSecret secret).ask with
  | .accepted => return ()
  | .apiException status => if status = 404 then return () else .throw .requestError
  | .otherException => .throw .requestError

/-- `create_pg_secret` and `create_redis_secret`; every exception is logged. -/
def createSecret (token : Option String) (database : Database) : Scripted Unit := do
  let attempted : Scripted Unit := do
    if script.job.dbaasOperatorEnabled = false then
      let _ ← script.getDatabase token database
    deleteSecretIgnoreNotFound database.secret
  let _ ← attempted.attempt
  return ()

/-- A status other than 200 and 201 is logged. -/
def grantPermissionsForSas (token : Option String) : Scripted Unit := do
  JobCall.readGrantNamespace.ask
  let _ ← (JobCall.send (script.httpRequest token (script.grantRequest .postgresql))).ask
  if script.microserviceName .postgresql ≠ script.microserviceName .redis then
    let _ ← (JobCall.send (script.httpRequest token (script.grantRequest .redis))).ask
  return ()

def createSecrets (token : Option String) : Scripted Unit := do
  script.createSecret token .postgresql
  if script.job.airflowExecutor ≠ "KubernetesExecutor" then script.createSecret token .redis

def main : Scripted Unit := do
  JobCall.loadIncluster.ask
  let token ← script.authorise
  script.createSecrets token
  if script.grants then script.grantPermissionsForSas token

/-! ## The secrets that a run leaves -/

section Secrets

def plain (request : HttpRequest) : Request where
  method := request.method
  address := request.address
  originNamespace := none
  data := request.data

/-- The surroundings that a run meets, with the secrets there are. The configuration of
the cluster and the token can be read. -/
def serving (around : Surroundings) (token : String) :
    Program.Server JobCall JobCall.Answer PyError (List String)
  | .loadIncluster, secrets => .ok (.ok (), secrets)
  | .readToken, secrets => .ok (.ok token, secrets)
  | .readNamespace use, secrets => .ok (around.readNamespace use, secrets)
  | .readGrantNamespace, secrets => .ok (.ok (), secrets)
  | .send request, secrets => .ok (around.dbaas (plain request), secrets)
  | .deleteSecret secret, secrets => .ok (.ok (around.deletion secret).answer,
      if (around.deletion secret).carriedOut then secrets.filter (· ≠ secret) else secrets)

variable {script} (around : Surroundings) (fileToken : String) {token : Option String}

theorem serving_answers (op : JobCall) (secrets : List String) :
    ∃ answered, serving around fileToken op secrets = .ok answered := by
  cases op <;> exact ⟨_, rfl⟩

variable (secrets : List String)

theorem plain_httpRequest {request : Request} (h : request.originNamespace = none) :
    plain (script.httpRequest token request) = request := by
  obtain ⟨method, address, originNamespace, data⟩ := request
  cases h
  cases token <;> rfl

theorem run_ask {call : JobCall} {after : List String} {answer : call.Answer}
    (h : serving around fileToken call secrets = .ok (answer, after)) :
    call.ask.run (serving around fileToken) secrets = (answer, after) := by
  rw [JobCall.ask, Program.ask, Program.run_call_ok _ h]
  cases answer <;> rfl

theorem run_readNamespace (use : NamespaceUse) :
    Program.run (α := Unit) (serving around fileToken) (JobCall.readNamespace use).ask secrets =
      (around.readNamespace use, secrets) :=
  run_ask around fileToken secrets rfl

theorem run_send (request : HttpRequest) :
    Program.run (α := Response Json) (serving around fileToken) (JobCall.send request).ask
        secrets =
      (around.dbaas (plain request), secrets) :=
  run_ask around fileToken secrets rfl

theorem getDatabase_run (database : Database) :
    (script.getDatabase token database).run (serving around fileToken) secrets =
      (script.job.getDatabase around database, secrets) := by
  have hplain : plain (script.httpRequest token (script.job.request database)) =
      script.job.request database := plain_httpRequest rfl
  simp only [getDatabase, DbaasJob.getDatabase, Program.run_bind, run_readNamespace]
  cases around.readNamespace (.classifier database) with
  | error failure => rfl
  | ok _ =>
    simp only
    cases around.readNamespace (.address database) with
    | error failure => rfl
    | ok _ =>
      simp only [run_send, hplain]
      cases around.dbaas (script.job.request database) with
      | error failure => rfl
      | ok response =>
        change ((if response.statusCode = 201 ∨ response.statusCode = 200 then _ else _ :
          Scripted Json)).run _ secrets = (if _ then _ else _, secrets)
        split_ifs
        · exact Program.run_ofExcept _ _ _
        · rfl

theorem deleteSecret_run (secret : String) :
    (deleteSecretIgnoreNotFound secret).run (serving around fileToken) secrets =
      DbaasJob.deleteSecretIgnoreNotFound around secret secrets := by
  simp only [deleteSecretIgnoreNotFound, DbaasJob.deleteSecretIgnoreNotFound, Program.run_bind,
    run_readNamespace]
  cases around.readNamespace (.deletion secret) with
  | error failure => rfl
  | ok _ =>
    have hdelete : Program.run (α := DeletionAnswer) (serving around fileToken)
        (JobCall.deleteSecret secret).ask secrets = (.ok (around.deletion secret).answer, _) :=
      run_ask around fileToken secrets rfl
    simp only [hdelete]
    cases (around.deletion secret).answer with
    | accepted => rfl
    | otherException => rfl
    | apiException status =>
      simp only
      split_ifs <;> rfl

theorem createSecret_run (database : Database) :
    (script.createSecret token database).run (serving around fileToken) secrets =
      (.ok (), script.job.createSecret around (script.job.getDatabase around database)
        database.secret secrets) := by
  rw [createSecret, DbaasJob.createSecret, Program.run_bind,
    Program.run_attempt _ (serving_answers around fileToken)]
  cases hoperator : script.job.dbaasOperatorEnabled with
  | true =>
    simp only [Bool.true_eq_false, if_false, if_true]
    rw [← deleteSecret_run around fileToken secrets database.secret]
    rfl
  | false =>
    simp only [if_true, Bool.false_eq_true, if_false, Program.run_bind, getDatabase_run]
    cases script.job.getDatabase around database with
    | error failure => rfl
    | ok properties =>
      simp only [deleteSecret_run]
      rfl

theorem createSecrets_run :
    (script.createSecrets token).run (serving around fileToken) secrets =
      (.ok (), script.job.run around secrets) := by
  rw [createSecrets, DbaasJob.run, Program.run_bind, createSecret_run]
  change ((if script.job.airflowExecutor ≠ "KubernetesExecutor" then _ else _ :
    Scripted Unit)).run _ _ =
      (_, if script.job.airflowExecutor ≠ "KubernetesExecutor" then _ else _)
  split_ifs
  · exact createSecret_run around fileToken _ .redis
  · rfl

theorem grantPermissionsForSas_run :
    ((script.grantPermissionsForSas token).run (serving around fileToken) secrets).2 = secrets := by
  have hread : Program.run (α := Unit) (serving around fileToken) JobCall.readGrantNamespace.ask
      secrets = (.ok (), secrets) := run_ask around fileToken secrets rfl
  simp only [grantPermissionsForSas, Program.run_bind, hread, run_send]
  cases around.dbaas (plain (script.httpRequest token (script.grantRequest .postgresql))) with
  | error failure => rfl
  | ok response =>
    change (Program.run _ (if script.microserviceName .postgresql ≠ script.microserviceName .redis
      then _ else _ : Scripted Unit) secrets).2 = secrets
    split_ifs
    · simp only [Program.run_bind, run_send]
      cases around.dbaas (plain (script.httpRequest token (script.grantRequest .redis))) <;> rfl
    · rfl

theorem authorise_run : ∃ token,
    script.authorise.run (serving around fileToken) secrets = (.ok token, secrets) := by
  have hread : Program.run (α := String) (serving around fileToken) JobCall.readToken.ask
      secrets = (.ok fileToken, secrets) := run_ask around fileToken secrets rfl
  rw [authorise]
  split_ifs
  · rw [Program.run_bind, hread]
    exact ⟨_, rfl⟩
  · exact ⟨_, rfl⟩

/-- The secrets that the whole script leaves are those that the job leaves. -/
theorem main_run : (script.main.run (serving around fileToken) secrets).2 =
    script.job.run around secrets := by
  have hload : Program.run (α := Unit) (serving around fileToken) JobCall.loadIncluster.ask
      secrets = (.ok (), secrets) := run_ask around fileToken secrets rfl
  obtain ⟨token, hauthorise⟩ : ∃ token, script.authorise.run (serving around fileToken) secrets =
      (.ok token, secrets) := authorise_run around fileToken secrets
  simp only [main, Program.run_bind, hload, hauthorise, createSecrets_run]
  split_ifs
  · exact grantPermissionsForSas_run around fileToken _
  · rfl

end Secrets

end JobScript

end QubershipAirflow.Databases
