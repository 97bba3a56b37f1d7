import QubershipAirflow.Library.Programs

/-! The precreation job: the database and the user of an installation are created in
PostgreSQL unless they are there. The same name stands in the check as a string literal
and in the other statements as an identifier, and the two are not read alike. -/
namespace QubershipAirflow.Databases

open Programs Programs.Program

/-- A name that can stand unquoted in a statement. -/
structure Name where
  text : String
  starts : text.toList.head?.any Char.isAlpha
  word : text.toList.all fun c => c.isAlphanum || c == '_'

/-- PostgreSQL folds an unquoted identifier to lower case. -/
def Name.identifier (name : Name) : String := name.text.toLower

/-- It takes a string literal as it stands. -/
def Name.literal (name : Name) : String := name.text

inductive Statement where
  | checkIfDbExists (dbName : Name)
  | createDb (dbName : Name)
  | checkIfUserExists (dbUser : Name)
  | createUser (dbUser : Name) (dbPassword : String)
  | grantPermissions (dbName dbUser : Name)
  | grantOwnership (dbName dbUser : Name)

/-- `fetchone` is asked for the checks alone, and says whether there is a row. -/
abbrev Statement.Answer : Statement → Type
  | .checkIfDbExists _ => Bool
  | .checkIfUserExists _ => Bool
  | _ => Unit

inductive DatabaseError where
  | duplicateDatabase (name : String)
  | duplicateRole (name : String)
  | noSuchDatabase (name : String)
  | noSuchRole (name : String)
  deriving DecidableEq

/-- What the server keeps: the owner of each database, the password of each role, and
who was granted the privileges on what. -/
structure Postgres where
  owners : String → Option String
  roles : String → Option String
  privileges : String → String → Bool

namespace Postgres

/-- Both sides of a grant have to be there. -/
def withBoth (postgres after : Postgres) (db role : String) :
    Except DatabaseError (Unit × Postgres) :=
  if (postgres.owners db).isNone then .error (.noSuchDatabase db)
  else if (postgres.roles role).isNone then .error (.noSuchRole role)
  else .ok ((), after)

def createDatabase (postgres : Postgres) (db admin : String) : Postgres :=
  { postgres with owners := Function.update postgres.owners db (some admin) }

def createRole (postgres : Postgres) (role password : String) : Postgres :=
  { postgres with roles := Function.update postgres.roles role (some password) }

def grant (postgres : Postgres) (db role : String) : Postgres :=
  { postgres with
    privileges := Function.update postgres.privileges db
      (Function.update (postgres.privileges db) role true) }

def setOwner (postgres : Postgres) (db role : String) : Postgres :=
  { postgres with owners := Function.update postgres.owners db (some role) }

/-- The administrator may do everything; only what is there decides. -/
def execute (admin : String) : Server Statement Statement.Answer DatabaseError Postgres
  | .checkIfDbExists dbName, postgres => .ok ((postgres.owners dbName.literal).isSome, postgres)
  | .createDb dbName, postgres =>
      if (postgres.owners dbName.identifier).isSome then
        .error (.duplicateDatabase dbName.identifier)
      else .ok ((), postgres.createDatabase dbName.identifier admin)
  | .checkIfUserExists dbUser, postgres =>
      .ok ((postgres.roles dbUser.literal).isSome, postgres)
  | .createUser dbUser dbPassword, postgres =>
      if (postgres.roles dbUser.identifier).isSome then
        .error (.duplicateRole dbUser.identifier)
      else .ok ((), postgres.createRole dbUser.identifier dbPassword)
  | .grantPermissions dbName dbUser, postgres =>
      postgres.withBoth (postgres.grant dbName.identifier dbUser.identifier)
        dbName.identifier dbUser.identifier
  | .grantOwnership dbName dbUser, postgres =>
      postgres.withBoth (postgres.setOwner dbName.identifier dbUser.identifier)
        dbName.identifier dbUser.identifier

end Postgres

structure Precreation where
  dbName : Name
  dbUser : Name
  dbPassword : String

def Precreation.ensureDb (environment : Precreation) :
    Program Statement Statement.Answer DatabaseError Unit := do
  let found ← perform (.checkIfDbExists environment.dbName)
  if ¬ found then
    perform (Statement.createDb environment.dbName)

def Precreation.ensureUser (environment : Precreation) :
    Program Statement Statement.Answer DatabaseError Unit := do
  let found ← perform (.checkIfUserExists environment.dbUser)
  if ¬ found then
    perform (Statement.createUser environment.dbUser environment.dbPassword)

def Precreation.grants (environment : Precreation) :
    Program Statement Statement.Answer DatabaseError Unit := do
  perform (Statement.grantPermissions environment.dbName environment.dbUser)
  perform (Statement.grantOwnership environment.dbName environment.dbUser)

def Precreation.createdb (environment : Precreation) :
    Program Statement Statement.Answer DatabaseError Unit := do
  environment.ensureDb
  environment.ensureUser
  environment.grants

/-! ## The two readings of a name -/

def Name.LowerCase (name : Name) : Prop := ∀ c ∈ name.text.toList, c.isUpper = false

instance (name : Name) : Decidable name.LowerCase :=
  decidable_of_iff (name.text.toList.all fun c => !c.isUpper) (by simp [Name.LowerCase])

theorem toLower_eq_self_iff (c : Char) : c.toLower = c ↔ c.isUpper = false := by
  have hupper : c.isUpper = decide (c.val ≥ 'A'.val ∧ c.val ≤ 'Z'.val) := rfl
  rw [hupper, decide_eq_false_iff_not]
  by_cases hletter : c.val ≥ 'A'.val ∧ c.val ≤ 'Z'.val
  · refine iff_of_false (fun hsame => ?_) (fun hnot => hnot hletter)
    have hval : c.toLower.val = c.val + ('a'.val - 'A'.val) := by
      change (dite _ _ _ : Char).val = _
      rw [dif_pos hletter]
    rw [hsame] at hval
    have hcode := congrArg UInt32.toNat hval
    simp only [UInt32.toNat_add, UInt32.reduceToNat, UInt32.reduceSub, Char.reduceVal] at hcode
    omega
  · exact iff_of_true (dif_neg hletter) hletter

/-- The check and the statements mean one object exactly for lower-case names. -/
theorem identifier_eq_literal_iff (name : Name) :
    name.identifier = name.literal ↔ name.LowerCase := by
  have hmap : name.text.toList.map Char.toLower = name.text.toList.map id ↔
      ∀ c ∈ name.text.toList, c.toLower = c := List.map_inj_left
  change name.text.map Char.toLower = name.text ↔ _
  rw [← String.toList_inj, String.toList_map]
  rw [List.map_id] at hmap
  exact hmap.trans (forall₂_congr fun c _ => toLower_eq_self_iff c)

theorem isSome_made (name : Name) (kept : String → Option String) (value : String) :
    (Function.update kept name.identifier (some value) name.literal).isSome ↔
      name.LowerCase ∨ (kept name.literal).isSome := by
  rw [← identifier_eq_literal_iff]
  by_cases hsame : name.identifier = name.literal
  · simp [hsame]
  · simp [hsame, Function.update_of_ne (Ne.symm hsame)]

/-! ## One run -/

section Run

variable (environment : Precreation) (admin : String) (postgres : Postgres)

open Postgres

theorem run_ensureDb :
    environment.ensureDb.run (execute admin) postgres =
      if (postgres.owners environment.dbName.literal).isSome then (.ok (), postgres)
      else if (postgres.owners environment.dbName.identifier).isSome then
        (.error (.duplicateDatabase environment.dbName.identifier), postgres)
      else (.ok (), postgres.createDatabase environment.dbName.identifier admin) := by
  rw [Precreation.ensureDb, perform_bind, run_call]
  cases hfound : postgres.owners environment.dbName.literal with
  | some owner => simp [execute, hfound]
  | none =>
    cases htaken : postgres.owners environment.dbName.identifier with
    | some owner => simp [execute, hfound, htaken, perform, run_call]
    | none => simp [execute, hfound, htaken, perform, run_call]

theorem run_ensureUser :
    environment.ensureUser.run (execute admin) postgres =
      if (postgres.roles environment.dbUser.literal).isSome then (.ok (), postgres)
      else if (postgres.roles environment.dbUser.identifier).isSome then
        (.error (.duplicateRole environment.dbUser.identifier), postgres)
      else (.ok (),
        postgres.createRole environment.dbUser.identifier environment.dbPassword) := by
  rw [Precreation.ensureUser, perform_bind, run_call]
  cases hfound : postgres.roles environment.dbUser.literal with
  | some password => simp [execute, hfound]
  | none =>
    cases htaken : postgres.roles environment.dbUser.identifier with
    | some password => simp [execute, hfound, htaken, perform, run_call]
    | none => simp [execute, hfound, htaken, perform, run_call]

def Precreation.granted : Postgres :=
  (postgres.grant environment.dbName.identifier environment.dbUser.identifier).setOwner
    environment.dbName.identifier environment.dbUser.identifier

theorem run_grants :
    environment.grants.run (execute admin) postgres =
      if (postgres.owners environment.dbName.identifier).isNone then
        (.error (.noSuchDatabase environment.dbName.identifier), postgres)
      else if (postgres.roles environment.dbUser.identifier).isNone then
        (.error (.noSuchRole environment.dbUser.identifier), postgres)
      else (.ok (), environment.granted postgres) := by
  rw [Precreation.grants, perform_bind, run_call]
  cases hdb : postgres.owners environment.dbName.identifier with
  | none => simp [execute, withBoth, hdb]
  | some owner =>
    cases hrole : postgres.roles environment.dbUser.identifier with
    | none => simp [execute, withBoth, hdb, hrole]
    | some password =>
      simp [execute, withBoth, hdb, hrole, perform, run_call, grant, Precreation.granted]

variable {environment admin postgres} {after : Postgres}

theorem run_grants_of_there (hdb : (postgres.owners environment.dbName.identifier).isSome)
    (hrole : (postgres.roles environment.dbUser.identifier).isSome) :
    environment.grants.run (execute admin) postgres = (.ok (), environment.granted postgres) := by
  rw [run_grants, if_neg (by simpa [Option.isSome_iff_ne_none] using hdb),
    if_neg (by simpa [Option.isSome_iff_ne_none] using hrole)]

theorem createdb_ok
    (h : environment.createdb.run (execute admin) postgres = (.ok (), after)) :
    ∃ withDb withUser,
      environment.ensureDb.run (execute admin) postgres = (.ok (), withDb) ∧
      environment.ensureUser.run (execute admin) withDb = (.ok (), withUser) ∧
      environment.grants.run (execute admin) withUser = (.ok (), after) := by
  obtain ⟨_, withDb, hdb, h⟩ := of_run_bind_ok _ h
  obtain ⟨_, withUser, huser, hgrants⟩ := of_run_bind_ok _ h
  exact ⟨withDb, withUser, hdb, huser, hgrants⟩

theorem ensureDb_ok
    (h : environment.ensureDb.run (execute admin) postgres = (.ok (), after)) :
    after.roles = postgres.roles ∧
      ((after.owners environment.dbName.literal).isSome ↔
        environment.dbName.LowerCase ∨ (postgres.owners environment.dbName.literal).isSome) := by
  rw [run_ensureDb] at h
  split_ifs at h with hfound htaken
  · cases h
    exact ⟨rfl, by simp [hfound]⟩
  · cases h
  · cases h
    exact ⟨rfl, isSome_made environment.dbName postgres.owners _⟩

theorem ensureUser_ok
    (h : environment.ensureUser.run (execute admin) postgres = (.ok (), after)) :
    after.owners = postgres.owners ∧
      ((after.roles environment.dbUser.literal).isSome ↔
        environment.dbUser.LowerCase ∨ (postgres.roles environment.dbUser.literal).isSome) := by
  rw [run_ensureUser] at h
  split_ifs at h with hfound htaken
  · cases h
    exact ⟨rfl, by simp [hfound]⟩
  · cases h
  · cases h
    exact ⟨rfl, isSome_made environment.dbUser postgres.roles _⟩

theorem grants_ok
    (h : environment.grants.run (execute admin) postgres = (.ok (), after)) :
    (postgres.owners environment.dbName.identifier).isSome ∧
      (postgres.roles environment.dbUser.identifier).isSome ∧
      after = environment.granted postgres := by
  rw [run_grants] at h
  split_ifs at h with hdb hrole
  · cases h
  · cases h
  · cases h
    exact ⟨by simpa [Option.isSome_iff_ne_none] using hdb,
      by simpa [Option.isSome_iff_ne_none] using hrole, rfl⟩

theorem granted_granted :
    environment.granted (environment.granted postgres) = environment.granted postgres := by
  simp [Precreation.granted, grant, setOwner]

theorem granted_owners_isSome
    (h : (postgres.owners environment.dbName.identifier).isSome) (db : String) :
    ((environment.granted postgres).owners db).isSome = (postgres.owners db).isSome := by
  by_cases hsame : db = environment.dbName.identifier
  · simp [Precreation.granted, setOwner, hsame, h]
  · simp [Precreation.granted, grant, setOwner, Function.update_of_ne hsame]

def Precreation.Found (environment : Precreation) (postgres : Postgres) : Prop :=
  (postgres.owners environment.dbName.literal).isSome ∧
    (postgres.roles environment.dbUser.literal).isSome

/-- What a successful run leaves: the user owns the database, another grant would change
nothing, and the checks find the two exactly where the script may be run again. -/
theorem after_createdb
    (h : environment.createdb.run (execute admin) postgres = (.ok (), after)) :
    after.owners environment.dbName.identifier = some environment.dbUser.identifier ∧
      (after.roles environment.dbUser.identifier).isSome ∧
      environment.granted after = after ∧
      (environment.Found after ↔
        (environment.dbName.LowerCase ∨
            (postgres.owners environment.dbName.literal).isSome) ∧
          (environment.dbUser.LowerCase ∨
            (postgres.roles environment.dbUser.literal).isSome)) := by
  obtain ⟨withDb, withUser, hdb, huser, hgrants⟩ := createdb_ok h
  obtain ⟨hroles, hdbFound⟩ := ensureDb_ok hdb
  obtain ⟨howners, huserFound⟩ := ensureUser_ok huser
  obtain ⟨hdbThere, hroleThere, rfl⟩ := grants_ok hgrants
  refine ⟨by simp [Precreation.granted, setOwner], hroleThere, granted_granted, ?_⟩
  rw [Precreation.Found, granted_owners_isSome hdbThere, howners, hdbFound, ← hroles]
  exact and_congr_right fun _ => huserFound

theorem createdb_of_not_found
    (hdb : (postgres.owners environment.dbName.identifier).isSome)
    (hrole : (postgres.roles environment.dbUser.identifier).isSome)
    (hfound : ¬ environment.Found postgres) :
    ∃ raised, environment.createdb.run (execute admin) postgres = (.error raised, postgres) := by
  rw [Precreation.createdb]
  by_cases hdbFound : (postgres.owners environment.dbName.literal).isSome
  · have huserFound : ¬ (postgres.roles environment.dbUser.literal).isSome :=
      fun huser => hfound ⟨hdbFound, huser⟩
    have hensured := run_ensureDb environment admin postgres
    rw [if_pos hdbFound] at hensured
    rw [run_bind_ok _ hensured]
    have hraised := run_ensureUser environment admin postgres
    rw [if_neg huserFound, if_pos hrole] at hraised
    exact ⟨_, run_bind_error _ hraised⟩
  · have hraised := run_ensureDb environment admin postgres
    rw [if_neg hdbFound, if_pos hdb] at hraised
    exact ⟨_, run_bind_error _ hraised⟩

theorem createdb_of_found (hfound : environment.Found postgres)
    (hdb : (postgres.owners environment.dbName.identifier).isSome)
    (hrole : (postgres.roles environment.dbUser.identifier).isSome) :
    environment.createdb.run (execute admin) postgres =
      (.ok (), environment.granted postgres) := by
  have hensuredDb := run_ensureDb environment admin postgres
  rw [if_pos hfound.1] at hensuredDb
  have hensuredUser := run_ensureUser environment admin postgres
  rw [if_pos hfound.2] at hensuredUser
  rw [Precreation.createdb, run_bind_ok _ hensuredDb, run_bind_ok _ hensuredUser]
  exact run_grants_of_there hdb hrole

theorem createdb_of_fresh
    (hdbFound : postgres.owners environment.dbName.literal = none)
    (hdb : postgres.owners environment.dbName.identifier = none)
    (hroleFound : postgres.roles environment.dbUser.literal = none)
    (hrole : postgres.roles environment.dbUser.identifier = none) :
    environment.createdb.run (execute admin) postgres = (.ok (), environment.granted
      ((postgres.createDatabase environment.dbName.identifier admin).createRole
        environment.dbUser.identifier environment.dbPassword)) := by
  have hensuredDb := run_ensureDb environment admin postgres
  rw [if_neg (by simp [hdbFound]), if_neg (by simp [hdb])] at hensuredDb
  have hensuredUser := run_ensureUser environment admin
    (postgres.createDatabase environment.dbName.identifier admin)
  rw [if_neg (by simp [createDatabase, hroleFound]), if_neg (by simp [createDatabase, hrole])]
    at hensuredUser
  rw [Precreation.createdb, run_bind_ok _ hensuredDb, run_bind_ok _ hensuredUser]
  exact run_grants_of_there (by simp [createRole, createDatabase]) (by simp [createRole])

/-- With lower-case names the script succeeds on every server, also on what an
interrupted run left. -/
theorem createdb_of_lowerCase (hdb : environment.dbName.LowerCase)
    (huser : environment.dbUser.LowerCase) (admin : String) (postgres : Postgres) :
    ∃ after, environment.createdb.run (execute admin) postgres = (.ok (), after) := by
  have hsameDb := (identifier_eq_literal_iff _).2 hdb
  have hsameUser := (identifier_eq_literal_iff _).2 huser
  obtain ⟨withDb, hensuredDb, hdbThere⟩ : ∃ withDb,
      environment.ensureDb.run (execute admin) postgres = (.ok (), withDb) ∧
        (withDb.owners environment.dbName.identifier).isSome := by
    rw [run_ensureDb, hsameDb]
    split_ifs with hfound
    · exact ⟨_, rfl, hfound⟩
    · exact ⟨_, rfl, by simp [createDatabase]⟩
  obtain ⟨withUser, hensuredUser, hroleThere⟩ : ∃ withUser,
      environment.ensureUser.run (execute admin) withDb = (.ok (), withUser) ∧
        (withUser.roles environment.dbUser.identifier).isSome := by
    rw [run_ensureUser, hsameUser]
    split_ifs with hfound
    · exact ⟨_, rfl, hfound⟩
    · exact ⟨_, rfl, by simp [createRole]⟩
  rw [← (ensureUser_ok hensuredUser).1] at hdbThere
  rw [Precreation.createdb, run_bind_ok _ hensuredDb, run_bind_ok _ hensuredUser]
  exact ⟨_, run_grants_of_there hdbThere hroleThere⟩

/-- The script can be run again exactly where its checks read each name as the
statements do, or found an object of that spelling before. -/
theorem createdb_again_iff
    (h : environment.createdb.run (execute admin) postgres = (.ok (), after)) :
    environment.createdb.run (execute admin) after = (.ok (), after) ↔
      (environment.dbName.LowerCase ∨ (postgres.owners environment.dbName.literal).isSome) ∧
        (environment.dbUser.LowerCase ∨
          (postgres.roles environment.dbUser.literal).isSome) := by
  obtain ⟨howner, hrole, hgranted, hfound⟩ := after_createdb h
  have hdb : (after.owners environment.dbName.identifier).isSome := by simp [howner]
  rw [← hfound]
  constructor
  · intro hagain
    by_contra hnot
    obtain ⟨raised, hraised⟩ : ∃ raised,
        environment.createdb.run (execute admin) after = (.error raised, after) :=
      createdb_of_not_found hdb hrole hnot
    rw [hagain] at hraised
    cases hraised
  · intro hthere
    rw [createdb_of_found hthere hdb hrole, hgranted]

end Run

/-! ## Two installations on an empty server -/

def emptyServer : Postgres where
  owners := fun _ => none
  roles := fun _ => none
  privileges := fun _ _ => false

def airflowUser : Name := ⟨"airflow", by decide, by decide⟩

def lowerCaseDb : Precreation := ⟨airflowUser, airflowUser, "secret"⟩

def mixedCaseDb : Precreation := ⟨⟨"Airflow", by decide, by decide⟩, airflowUser, "secret"⟩

theorem createdb_again_lowerCaseDb :
    ∃ after, lowerCaseDb.createdb.run (Postgres.execute "postgres") emptyServer =
        (.ok (), after) ∧
      lowerCaseDb.createdb.run (Postgres.execute "postgres") after = (.ok (), after) := by
  have hlower : airflowUser.LowerCase := by decide
  have hfirst : lowerCaseDb.createdb.run (Postgres.execute "postgres") emptyServer =
      (.ok (), _) := createdb_of_fresh rfl rfl rfl rfl
  exact ⟨_, hfirst, (createdb_again_iff hfirst).2 ⟨.inl hlower, .inl hlower⟩⟩

/-- The database `airflow` is created, and no database `Airflow` is ever found. -/
theorem createdb_again_mixedCaseDb :
    ¬ ∀ (environment : Precreation) (admin : String) (postgres after : Postgres),
      environment.createdb.run (Postgres.execute admin) postgres = (.ok (), after) →
      environment.createdb.run (Postgres.execute admin) after = (.ok (), after) := by
  intro hrerun
  have hfirst : mixedCaseDb.createdb.run (Postgres.execute "postgres") emptyServer =
      (.ok (), _) := createdb_of_fresh rfl rfl rfl rfl
  obtain ⟨howner, hrole, -, hfound⟩ := after_createdb hfirst
  have hmixed : ¬ mixedCaseDb.dbName.LowerCase := by decide
  have hnot : ¬ mixedCaseDb.Found _ := fun hthere =>
    (hfound.1 hthere).1.elim hmixed (by simp [emptyServer])
  obtain ⟨raised, hraised⟩ : ∃ raised,
      mixedCaseDb.createdb.run (Postgres.execute "postgres") _ = (.error raised, _) :=
    createdb_of_not_found (by simp [howner]) hrole hnot
  rw [hrerun _ _ _ _ hfirst] at hraised
  cases hraised

end QubershipAirflow.Databases
