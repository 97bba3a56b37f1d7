import QubershipAirflow.Secrets.MainDatabases

/-! The preinstall job that asks DBaaS for the databases and deletes the connection
secrets of older versions. -/
namespace QubershipAirflow.Databases

open Secrets

inductive Database where
  | postgresql
  | redis
  deriving DecidableEq

def Database.type : Database → String
  | .postgresql => "postgresql"
  | .redis => "redis"

def Database.secret : Database → String
  | .postgresql => "metadata-secret"
  | .redis => "broker-url-secret"

theorem secret_injective : Function.Injective Database.secret := by
  intro first second h
  cases first <;> cases second <;> first | rfl | simp [Database.secret] at h

inductive NamespaceUse where
  | classifier (database : Database)
  | address (database : Database)
  | deletion (secret : String)

inductive DeletionAnswer where
  | accepted
  | apiException (status : Nat)
  | otherException
  deriving DecidableEq

/-- A deletion may be carried out although its answer is lost. -/
structure Deletion where
  answer : DeletionAnswer
  carriedOut : Bool

/-- What a run meets. Every call is made once at most. -/
structure Surroundings where
  readNamespace : NamespaceUse → Except PyError Unit
  dbaas : Request → Except PyError (Response Json)
  deletion : String → Deletion

structure DbaasJob where
  dbaasHost : String
  ns : String
  airflowExecutor : String
  dbaasOperatorEnabled : Bool
  parameters : Database → DatabaseParameters

namespace DbaasJob

variable (job : DbaasJob) (around : Surroundings)

def request (database : Database) : Request :=
  createDatabaseRequest job.dbaasHost job.ns database.type (job.parameters database)

/-- Any answer but 200 and 201 is logged, and Python's `None` is returned. -/
def getDatabase (database : Database) : Except PyError Json := do
  around.readNamespace (.classifier database)
  around.readNamespace (.address database)
  let response ← around.dbaas (job.request database)
  if response.statusCode = 201 ∨ response.statusCode = 200 then response.connectionProperties
  else return .null

def getPgDatabase : Except PyError Json := job.getDatabase around .postgresql

def getRedisDatabase : Except PyError Json := job.getDatabase around .redis

/-- The secrets that are left, with what the caller sees. A missing object is ignored. -/
def deleteSecretIgnoreNotFound (secret : String) (secrets : List String) :
    Except PyError Unit × List String :=
  match around.readNamespace (.deletion secret) with
  | .error err => (.error err, secrets)
  | .ok () =>
      let left := if (around.deletion secret).carriedOut then secrets.filter (· ≠ secret)
        else secrets
      match (around.deletion secret).answer with
      | .accepted => (.ok (), left)
      | .apiException status =>
          if status = 404 then (.ok (), left) else (.error .requestError, left)
      | .otherException => (.error .requestError, left)

/-- Every exception is logged. -/
def createSecret (found : Except PyError Json) (secret : String) (secrets : List String) :
    List String :=
  match if job.dbaasOperatorEnabled then .ok .null else found with
  | .error _ => secrets
  | .ok _ => (deleteSecretIgnoreNotFound around secret secrets).2

def createPgSecret (secrets : List String) : List String :=
  job.createSecret around (job.getPgDatabase around) "metadata-secret" secrets

def createRedisSecret (secrets : List String) : List String :=
  job.createSecret around (job.getRedisDatabase around) "broker-url-secret" secrets

def run (secrets : List String) : List String :=
  let secrets := job.createPgSecret around secrets
  if job.airflowExecutor ≠ "KubernetesExecutor" then job.createRedisSecret around secrets
  else secrets

/-! ## What a run deletes -/

def Returned (database : Database) : Prop :=
  ∃ response properties, around.dbaas (job.request database) = .ok response ∧
    (response.statusCode = 201 ∨ response.statusCode = 200) ∧
    response.connectionProperties = .ok properties ∧ properties ≠ .null

/-- DBaaS answered it, but with another status or with no properties. -/
def Refused (database : Database) : Prop :=
  ∃ response, around.dbaas (job.request database) = .ok response ∧
    (response.statusCode = 201 ∨ response.statusCode = 200 →
      response.connectionProperties = .ok .null)

def GoesThrough (database : Database) : Prop :=
  around.readNamespace (.classifier database) = .ok () ∧
    around.readNamespace (.address database) = .ok () ∧
    around.readNamespace (.deletion database.secret) = .ok () ∧
    (around.deletion database.secret).carriedOut = true

/-- The Kubernetes executor has no broker. -/
def Uses (database : Database) : Prop :=
  database = .redis → job.airflowExecutor ≠ "KubernetesExecutor"

variable {job around}

theorem not_refused_of_returned {database : Database} (h : job.Returned around database) :
    ¬ job.Refused around database := by
  obtain ⟨response, properties, hanswer, hstatus, hproperties, hne⟩ := h
  rintro ⟨other, hother, hrefused⟩
  rw [hanswer] at hother
  cases hother
  rw [hrefused hstatus] at hproperties
  cases hproperties
  exact hne rfl

theorem getDatabase_ok_iff {database : Database} :
    (∃ properties, job.getDatabase around database = .ok properties) ↔
      around.readNamespace (.classifier database) = .ok () ∧
        around.readNamespace (.address database) = .ok () ∧
        (job.Returned around database ∨ job.Refused around database) := by
  constructor
  · rintro ⟨properties, h⟩
    rw [getDatabase, PyError.bind_ok_iff] at h
    obtain ⟨_, hclassifier, h⟩ := h
    rw [PyError.bind_ok_iff] at h
    obtain ⟨_, haddress, h⟩ := h
    rw [PyError.bind_ok_iff] at h
    obtain ⟨response, hanswer, h⟩ := h
    refine ⟨hclassifier, haddress, ?_⟩
    by_cases hstatus : response.statusCode = 201 ∨ response.statusCode = 200
    · rw [if_pos hstatus] at h
      by_cases hnull : properties = .null
      · subst hnull
        exact .inr ⟨response, hanswer, fun _ => h⟩
      · exact .inl ⟨response, properties, hanswer, hstatus, h, hnull⟩
    · exact .inr ⟨response, hanswer, fun hgood => absurd hgood hstatus⟩
  · rintro ⟨hclassifier, haddress, hanswered⟩
    simp only [getDatabase, hclassifier, haddress]
    obtain ⟨response, properties, hanswer, hstatus, hproperties, -⟩ |
      ⟨response, hanswer, hrefused⟩ := hanswered
    · refine ⟨properties, ?_⟩
      rw [hanswer]
      exact (if_pos hstatus).trans hproperties
    · refine ⟨.null, ?_⟩
      rw [hanswer]
      by_cases hstatus : response.statusCode = 201 ∨ response.statusCode = 200
      · exact (if_pos hstatus).trans (hrefused hstatus)
      · exact if_neg hstatus

theorem mem_deleteSecret {secret name : String} {secrets : List String} :
    name ∈ (deleteSecretIgnoreNotFound around secret secrets).2 ↔
      name ∈ secrets ∧ ¬ (name = secret ∧ around.readNamespace (.deletion secret) = .ok () ∧
        (around.deletion secret).carriedOut = true) := by
  rw [deleteSecretIgnoreNotFound]
  cases hread : around.readNamespace (.deletion secret) with
  | error err => simp
  | ok _ =>
    have hleft : name ∈ (if (around.deletion secret).carriedOut then
        secrets.filter (· ≠ secret) else secrets) ↔
        name ∈ secrets ∧ ¬ (name = secret ∧ (around.deletion secret).carriedOut = true) := by
      by_cases hout : (around.deletion secret).carriedOut = true
      · simp [hout]
      · simp [hout]
    cases hanswer : (around.deletion secret).answer with
    | accepted => simpa using hleft
    | otherException => simpa using hleft
    | apiException status =>
      by_cases hmissing : status = 404
      · simpa [hmissing] using hleft
      · simpa [hmissing] using hleft

theorem mem_createSecret (hrest : job.dbaasOperatorEnabled = false) (database : Database)
    {name : String} {secrets : List String} :
    name ∈ job.createSecret around (job.getDatabase around database) database.secret secrets ↔
      name ∈ secrets ∧ ¬ (name = database.secret ∧ GoesThrough around database ∧
        (job.Returned around database ∨ job.Refused around database)) := by
  have hok : (∃ properties, job.getDatabase around database = .ok properties) ↔ _ :=
    getDatabase_ok_iff
  rw [createSecret, hrest, if_neg Bool.false_ne_true]
  cases hfound : job.getDatabase around database with
  | error err =>
    rw [hfound] at hok
    have hfailed : ¬ (GoesThrough around database ∧
        (job.Returned around database ∨ job.Refused around database)) := by
      rintro ⟨⟨hclassifier, haddress, -⟩, hanswered⟩
      obtain ⟨properties, hproperties⟩ := hok.2 ⟨hclassifier, haddress, hanswered⟩
      cases hproperties
    simp [hfailed]
  | ok properties =>
    rw [hfound] at hok
    obtain ⟨hclassifier, haddress, hanswered⟩ := hok.1 ⟨properties, rfl⟩
    simp only [mem_deleteSecret, GoesThrough, hclassifier, haddress, hanswered, true_and,
      and_true]

theorem mem_run (hrest : job.dbaasOperatorEnabled = false) {name : String}
    {secrets : List String} :
    name ∈ job.run around secrets ↔
      name ∈ secrets ∧ ¬ ∃ database, job.Uses database ∧ name = database.secret ∧
        GoesThrough around database ∧
        (job.Returned around database ∨ job.Refused around database) := by
  have hpg : ∀ secrets, name ∈ job.createPgSecret around secrets ↔ _ := fun secrets =>
    mem_createSecret hrest .postgresql
  have hredis : ∀ secrets, name ∈ job.createRedisSecret around secrets ↔ _ := fun secrets =>
    mem_createSecret hrest .redis
  have hdatabases : (∃ database, job.Uses database ∧ name = database.secret ∧
      GoesThrough around database ∧
      (job.Returned around database ∨ job.Refused around database)) ↔
      (name = Database.postgresql.secret ∧ GoesThrough around .postgresql ∧
        (job.Returned around .postgresql ∨ job.Refused around .postgresql)) ∨
      job.airflowExecutor ≠ "KubernetesExecutor" ∧ name = Database.redis.secret ∧
        GoesThrough around .redis ∧
        (job.Returned around .redis ∨ job.Refused around .redis) := by
    constructor
    · rintro ⟨database, huses, hdeleted⟩
      cases database with
      | postgresql => exact .inl hdeleted
      | redis => exact .inr ⟨huses rfl, hdeleted⟩
    · rintro (hdeleted | ⟨hexecutor, hdeleted⟩)
      · exact ⟨.postgresql, nofun, hdeleted⟩
      · exact ⟨.redis, fun _ => hexecutor, hdeleted⟩
  rw [hdatabases]
  simp only [run]
  by_cases hexecutor : job.airflowExecutor ≠ "KubernetesExecutor"
  · rw [if_pos hexecutor, hredis, hpg, and_assoc, not_or, and_iff_right hexecutor]
  · rw [if_neg hexecutor, hpg, not_or]
    exact ⟨fun h => ⟨h.1, h.2, fun hbroker => hexecutor hbroker.1⟩, fun h => ⟨h.1, h.2.1⟩⟩

/-- A secret goes only where DBaaS returned the properties, exactly when no deletion that
goes through follows an answer without them. -/
theorem deleted_only_if_returned_iff (hrest : job.dbaasOperatorEnabled = false)
    (secrets : List String) :
    (∀ database : Database, database.secret ∈ secrets →
        database.secret ∉ job.run around secrets → job.Returned around database) ↔
      ∀ database : Database, job.Uses database → database.secret ∈ secrets →
        GoesThrough around database → ¬ job.Refused around database := by
  constructor
  · intro honly database huses hthere hthrough hrefused
    have hgone : database.secret ∉ job.run around secrets := fun hleft =>
      ((mem_run hrest).1 hleft).2 ⟨database, huses, rfl, hthrough, .inr hrefused⟩
    exact not_refused_of_returned (honly database hthere hgone) hrefused
  · intro hnever database hthere hgone
    rw [mem_run hrest, not_and, not_not] at hgone
    obtain ⟨other, huses, hsecret, hthrough, hanswered⟩ := hgone hthere
    obtain rfl := secret_injective hsecret
    exact hanswered.resolve_right (hnever database huses hthere hthrough)

end DbaasJob

/-! ## An upgrade of an old version -/

def oldSecrets : List String := ["metadata-secret", "broker-url-secret"]

def upgradeJob : DbaasJob where
  dbaasHost := "http://dbaas"
  ns := "airflow"
  airflowExecutor := "CeleryExecutor"
  dbaasOperatorEnabled := false
  parameters := fun _ => ⟨"airflow", "true", "airflow", none⟩

def answering (statusCode : Nat) (content : Json) : Surroundings where
  readNamespace := fun _ => .ok ()
  dbaas := fun _ => .ok ⟨statusCode, some content⟩
  deletion := fun _ => ⟨.accepted, true⟩

def createdAnswer : Json := .obj [("connectionProperties", .obj [("host", .str "pg")])]

theorem deleted_only_if_returned_created :
    "metadata-secret" ∉ upgradeJob.run (answering 201 createdAnswer) oldSecrets ∧
      upgradeJob.Returned (answering 201 createdAnswer) .postgresql := by
  have hnever : ∀ database : Database, upgradeJob.Uses database →
      database.secret ∈ oldSecrets →
      DbaasJob.GoesThrough (answering 201 createdAnswer) database →
      ¬ upgradeJob.Refused (answering 201 createdAnswer) database := by
    rintro database - - - ⟨response, hanswer, hproperties⟩
    cases hanswer
    cases hproperties (.inl rfl)
  have hgone : "metadata-secret" ∉ upgradeJob.run (answering 201 createdAnswer) oldSecrets := by
    decide
  exact ⟨hgone, (DbaasJob.deleted_only_if_returned_iff rfl oldSecrets).2 hnever .postgresql
    (by decide) hgone⟩

/-- DBaaS is out of order, and the working connection is deleted. -/
theorem deleted_without_database :
    ¬ ∀ (job : DbaasJob) (around : Surroundings) (secrets : List String),
      job.dbaasOperatorEnabled = false → ∀ database : Database, database.secret ∈ secrets →
        database.secret ∉ job.run around secrets → job.Returned around database := by
  intro honly
  obtain ⟨response, properties, hanswer, hstatus, -⟩ :=
    honly upgradeJob (answering 500 .null) oldSecrets rfl .postgresql (by decide) (by decide)
  cases hanswer
  exact absurd hstatus (by decide)

end QubershipAirflow.Databases
