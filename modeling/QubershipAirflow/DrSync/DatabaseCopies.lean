import QubershipAirflow.Library.ShellScripts

/-! The scripts that copy the PostgreSQL databases of Hive and of Airflow to the DR site.
A tool may fail at any point, also after it has taken effect. The statements of the scripts
name the DR database without quotes, so that the server folds the name, the tools name it
as it is. -/
namespace QubershipAirflow.DrSync

open ShellScripts

inductive PgHost where
  | toBackup
  | restore
  deriving DecidableEq

/-- The commands that talk to a server take `PGPASSWORD` from the environment, or from an
assignment in front of them, which names one of the hosts. -/
inductive PgCommand where
  | exportPassword (host : PgHost)
  | echo
  /-- `pg_dump ... > backupeddb.tar` -/
  | pgDump
  /-- `psql -c "SELECT pg_terminate_backend ..." -c "DROP DATABASE ..."`: the status is that
  of the last command. -/
  | terminateAndDrop (password : Option PgHost)
  | createdb (password : Option PgHost)
  | grantAllPrivileges (password : Option PgHost)
  | alterOwner (password : Option PgHost)
  /-- `pg_restore ... backupeddb.tar` -/
  | pgRestore
  /-- `pg_dump ... | pg_restore ... --single-transaction`: the status is that of
  `pg_restore`, which fails on a torn dump. -/
  | dumpIntoRestore (mainPassword drPassword : PgHost)
  | rmBackup
  deriving DecidableEq

/-- What the variables of the script hold, what the servers accept, and how they read a name
that is not quoted. -/
structure PgServers where
  password : PgHost → String
  accepts : PgHost → String → Bool
  restoreDb : String
  fold : String → String

def PgServers.foldedDb (servers : PgServers) : String := servers.fold servers.restoreDb

inductive Dump (Db : Type) where
  | complete (content : Db)
  | torn
  deriving DecidableEq

structure Databases (Db : Type) where
  main : Db
  backup : Option (Dump Db)
  /-- The databases of the DR server by their names. -/
  dr : String → Option Db
  pgPassword : String

def Databases.setDr {Db : Type} (dbs : Databases Db) (name : String) (found : Option Db) :
    Databases Db :=
  { dbs with dr := Function.update dbs.dr name found }

/-- How a command ends. One that fails may have taken effect, and an import that fails
leaves some content. -/
structure PgOutcome (Db : Type) where
  status : Nat
  takesEffect : Bool
  left : Db

variable {Db : Type}

/-- What cannot be done fails and changes nothing. -/
def PgOutcome.run (outcome : PgOutcome Db) (possible : Bool) (effect dbs : Databases Db) :
    Nat × Databases Db :=
  if possible then
    (outcome.status, if outcome.status = 0 ∨ outcome.takesEffect then effect else dbs)
  else (outcome.status + 1, dbs)

def Databases.accepted (dbs : Databases Db) (servers : PgServers) (host : PgHost)
    (password : Option PgHost) : Bool :=
  servers.accepts host ((password.map servers.password).getD dbs.pgPassword)

/-- A complete dump goes into the new database only. -/
def Databases.restorable [DecidableEq Db] (dbs : Databases Db) (name : String) (emptyDb : Db) :
    Option Db :=
  match dbs.backup with
  | some (.complete content) => if dbs.dr name = some emptyDb then some content else none
  | _ => none

def pgTools [DecidableEq Db] (servers : PgServers) (emptyDb : Db) :
    Tools PgCommand (Databases Db) (PgOutcome Db)
  | .exportPassword host, _, dbs => (0, { dbs with pgPassword := servers.password host })
  | .echo, _, dbs => (0, dbs)
  | .pgDump, outcome, dbs =>
      -- the shell makes the file before the dump begins
      outcome.run (dbs.accepted servers .toBackup none)
        { dbs with backup := some (if outcome.status = 0 then .complete dbs.main else .torn) }
        { dbs with backup := if outcome.takesEffect then some .torn else dbs.backup }
  | .terminateAndDrop password, outcome, dbs =>
      outcome.run (dbs.accepted servers .restore password && (dbs.dr servers.foldedDb).isSome)
        (dbs.setDr servers.foldedDb none) dbs
  | .createdb password, outcome, dbs =>
      outcome.run (dbs.accepted servers .restore password && (dbs.dr servers.restoreDb).isNone)
        (dbs.setDr servers.restoreDb (some emptyDb)) dbs
  | .grantAllPrivileges password, outcome, dbs | .alterOwner password, outcome, dbs =>
      outcome.run (dbs.accepted servers .restore password && (dbs.dr servers.foldedDb).isSome)
        dbs dbs
  | .pgRestore, outcome, dbs =>
      if dbs.accepted servers .restore none then
        match dbs.restorable servers.restoreDb emptyDb, outcome.status with
        | some content, 0 => (0, dbs.setDr servers.restoreDb (some content))
        | _, status => (status + 1, dbs.setDr servers.restoreDb
            ((dbs.dr servers.restoreDb).map fun _ => outcome.left))
      else (outcome.status + 1, dbs)
  | .dumpIntoRestore mainPassword drPassword, outcome, dbs =>
      outcome.run (dbs.accepted servers .toBackup (some mainPassword) &&
          dbs.accepted servers .restore (some drPassword) &&
          dbs.dr servers.restoreDb = some emptyDb)
        (dbs.setDr servers.restoreDb (some dbs.main)) dbs
  | .rmBackup, outcome, dbs =>
      outcome.run dbs.backup.isSome { dbs with backup := none } dbs

def copyPgHiveDbCommandWithDropping : List (Command PgCommand) :=
  [.errexit true, .run (.exportPassword .toBackup), .run .pgDump, .run .echo,
    .run (.exportPassword .restore), .run (.terminateAndDrop none), .run .echo,
    .run (.createdb none), .run .echo, .errexit false, .run .pgRestore, .errexit true,
    .run .echo, .run .rmBackup]

/-- The import at the end logs in to the DR server with the password of the main one. -/
def copyPgAirflowDbCommandWithDropping : List (Command PgCommand) :=
  [.errexit true, .run (.terminateAndDrop (some .restore)), .run .echo,
    .run (.createdb (some .restore)), .run .echo, .run (.grantAllPrivileges (some .restore)),
    .run .echo, .run (.alterOwner (some .restore)), .run .echo, .errexit false,
    .run (.dumpIntoRestore .toBackup .toBackup)]

theorem PgOutcome.run_succeeds {outcome : PgOutcome Db} {possible : Bool}
    {effect dbs : Databases Db} (h : (outcome.run possible effect dbs).1 = 0) :
    possible = true ∧ outcome.status = 0 ∧ (outcome.run possible effect dbs).2 = effect := by
  cases possible with
  | false => simp [run] at h
  | true =>
    have hstatus : outcome.status = 0 := h
    simp [run, hstatus]

theorem PgOutcome.run_cases (outcome : PgOutcome Db) (possible : Bool)
    (effect dbs : Databases Db) :
    (outcome.run possible effect dbs).2 = dbs ∨
      possible = true ∧ outcome.run possible effect dbs = (outcome.status, effect) := by
  cases possible with
  | false => exact .inl rfl
  | true =>
    by_cases h : outcome.status = 0 ∨ outcome.takesEffect
    · exact .inr ⟨rfl, congrArg (Prod.mk outcome.status) (if_pos h)⟩
    · exact .inl (if_neg h)

section Outlines

variable [DecidableEq Db] {servers : PgServers} {emptyDb : Db}
  {guard : Command PgCommand → Databases Db → Prop} {exits : Nat → Databases Db → Prop}
  {command : PgCommand} {rest : List (Command PgCommand)} {before after : Bool}
  {pre middle : Databases Db → Prop} {post : Nat → Databases Db → Prop}

abbrev PgOutline (servers : PgServers) (emptyDb : Db)
    (guard : Command PgCommand → Databases Db → Prop) (exits : Nat → Databases Db → Prop)
    (before : Bool) (pre : Databases Db → Prop) (script : List (Command PgCommand))
    (after : Bool) (post : Nat → Databases Db → Prop) : Prop :=
  Outline (pgTools servers emptyDb) guard exits before (fun _ dbs => pre dbs) script after post

theorem PgOutline.quiet {effect : Databases Db → Databases Db}
    (htool : ∀ outcome dbs, pgTools servers emptyDb command outcome dbs = (0, effect dbs))
    (hguard : ∀ dbs, pre dbs → guard (.run command) dbs)
    (hnext : ∀ dbs, pre dbs → middle (effect dbs))
    (hrest : PgOutline servers emptyDb guard exits before middle rest after post) :
    PgOutline servers emptyDb guard exits before pre (.run command :: rest) after post := by
  refine .run (fun _ dbs h => hguard dbs h) ?_ ?_ hrest
  · intro _ status dbs outcome _ hfails
    simp [htool] at hfails
  · intro status dbs outcome hpre _
    rw [htool]
    exact hnext dbs hpre

theorem PgOutline.echo (hguard : ∀ dbs, pre dbs → guard (.run .echo) dbs)
    (hrest : PgOutline servers emptyDb guard exits before pre rest after post) :
    PgOutline servers emptyDb guard exits before pre (.run .echo :: rest) after post :=
  .quiet (fun _ _ => rfl) hguard (fun _ h => h) hrest

/-- Commands that may fail, under `set -e`: where they fail the script ends, with the
effect or without. -/
theorem PgOutline.checked_zero {possible : Databases Db → Bool}
    {effect base : PgOutcome Db → Databases Db → Databases Db}
    (htool : ∀ outcome dbs, pgTools servers emptyDb command outcome dbs =
      outcome.run (possible dbs) (effect outcome dbs) (base outcome dbs))
    (hguard : ∀ dbs, pre dbs → guard (.run command) dbs)
    (hfails : ∀ status outcome dbs, status ≠ 0 → pre dbs → exits status (base outcome dbs))
    (heffect : ∀ outcome dbs, outcome.status ≠ 0 → pre dbs → possible dbs = true →
      exits outcome.status (effect outcome dbs))
    (hnext : ∀ outcome dbs, pre dbs → possible dbs = true → outcome.status = 0 →
      middle (effect outcome dbs))
    (hrest : Outline (pgTools servers emptyDb) guard exits true
      (fun status dbs => status = 0 ∧ middle dbs) rest after post) :
    PgOutline servers emptyDb guard exits true pre (.run command :: rest) after post := by
  refine .run (fun _ dbs h => hguard dbs h) ?_ ?_ hrest
  · intro _ status dbs outcome hpre hstatus
    rw [htool] at hstatus ⊢
    obtain hsame | ⟨hpossible, hdone⟩ :=
      outcome.run_cases (possible dbs) (effect outcome dbs) (base outcome dbs)
    · rw [hsame]
      exact hfails _ outcome dbs hstatus hpre
    · rw [hdone] at hstatus ⊢
      exact heffect outcome dbs hstatus hpre hpossible
  · intro status dbs outcome hpre hends
    have hstatus := hends rfl
    refine ⟨hstatus, ?_⟩
    rw [htool] at hstatus ⊢
    obtain ⟨hpossible, hzero, hdone⟩ := PgOutcome.run_succeeds hstatus
    rw [hdone]
    exact hnext outcome dbs hpre hpossible hzero

theorem PgOutline.checked {possible : Databases Db → Bool}
    {effect base : PgOutcome Db → Databases Db → Databases Db}
    (htool : ∀ outcome dbs, pgTools servers emptyDb command outcome dbs =
      outcome.run (possible dbs) (effect outcome dbs) (base outcome dbs))
    (hguard : ∀ dbs, pre dbs → guard (.run command) dbs)
    (hfails : ∀ status outcome dbs, status ≠ 0 → pre dbs → exits status (base outcome dbs))
    (heffect : ∀ outcome dbs, outcome.status ≠ 0 → pre dbs → possible dbs = true →
      exits outcome.status (effect outcome dbs))
    (hnext : ∀ outcome dbs, pre dbs → possible dbs = true → outcome.status = 0 →
      middle (effect outcome dbs))
    (hrest : PgOutline servers emptyDb guard exits true middle rest after post) :
    PgOutline servers emptyDb guard exits true pre (.run command :: rest) after post :=
  .checked_zero htool hguard hfails heffect hnext (hrest.weaken fun _ _ h => h.2)

end Outlines

/-- Databases of other names than the two the script uses are left alone. -/
def PgServers.LeavesOthers (servers : PgServers) (dr found : String → Option Db) : Prop :=
  ∀ name, name ≠ servers.restoreDb → name ≠ servers.foldedDb → found name = dr name

theorem PgServers.leavesOthers_refl (servers : PgServers) (dr : String → Option Db) :
    servers.LeavesOthers dr dr :=
  fun _ _ _ => rfl

theorem PgServers.LeavesOthers.update {servers : PgServers} {dr found : String → Option Db}
    (h : servers.LeavesOthers dr found) {name : String}
    (hname : name = servers.restoreDb ∨ name = servers.foldedDb) (value : Option Db) :
    servers.LeavesOthers dr (Function.update found name value) := by
  intro other hrestore hfolded
  have hne : other ≠ name := by
    rintro rfl
    exact hname.elim hrestore hfolded
  rw [Function.update_of_ne hne]
  exact h other hrestore hfolded

section Hive

variable (servers : PgServers) (emptyDb main : Db) (dr : String → Option Db)

/-- What the script of the Hive database requires of a command when it starts it. -/
def hiveGuard (command : PgCommand) (dbs : Databases Db) : Prop :=
  match command with
  | .pgDump => dbs.pgPassword = servers.password .toBackup
  | .terminateAndDrop _ => dbs.pgPassword = servers.password .restore ∧
      dbs.backup = some (.complete main) ∧ dbs.dr = dr
  | .createdb _ => dbs.pgPassword = servers.password .restore ∧ dbs.dr servers.foldedDb = none
  | .pgRestore => dbs.pgPassword = servers.password .restore ∧
      dbs.backup = some (.complete main) ∧ dbs.dr servers.restoreDb = some emptyDb
  | _ => True

/-- The databases at any point of the script. `rm`, its last command, removes the dump. -/
structure HiveState (dbs : Databases Db) : Prop where
  kept : dbs.dr = dr ∨ dbs.backup = some (.complete main) ∨
    dbs.backup = none ∧ (dr servers.foldedDb).isSome = true ∧
      (dbs.dr servers.restoreDb).isSome = true
  missing : dr servers.foldedDb = none → dbs.dr = dr
  others : servers.LeavesOthers dr dbs.dr

structure HiveWaits (command : Command PgCommand) (dbs : Databases Db) : Prop where
  kept : dbs.dr = dr ∨ dbs.backup = some (.complete main)
  state : HiveState servers main dr dbs
  starts : ∀ ext, command = .run ext → hiveGuard servers emptyDb main dr ext dbs

structure HiveExit (status : Nat) (dbs : Databases Db) : Prop where
  state : HiveState servers main dr dbs
  succeeded : status = 0 → (dr servers.foldedDb).isSome = true ∧
    (dbs.dr servers.restoreDb).isSome = true ∧ dbs.backup = none

/-- The folded database was there and is gone, a dump of main is at hand, and this is what
there is instead. -/
structure Dropped (place : (String → Option Db) → Prop) (dbs : Databases Db) : Prop where
  existed : (dr servers.foldedDb).isSome = true
  password : dbs.pgPassword = servers.password .restore
  backup : dbs.backup = some (.complete main)
  others : servers.LeavesOthers dr dbs.dr
  place : place dbs.dr

variable {servers emptyDb main dr}

theorem HiveState.of_same {dbs : Databases Db} (h : dbs.dr = dr) :
    HiveState servers main dr dbs :=
  ⟨.inl h, fun _ => h, h ▸ servers.leavesOthers_refl dr⟩

theorem HiveState.of_existed {dbs : Databases Db}
    (existed : (dr servers.foldedDb).isSome = true)
    (kept : dbs.backup = some (.complete main) ∨
      dbs.backup = none ∧ (dbs.dr servers.restoreDb).isSome = true)
    (others : servers.LeavesOthers dr dbs.dr) : HiveState servers main dr dbs := by
  refine ⟨.inr (kept.imp_right fun h => ⟨h.1, existed, h.2⟩), fun hnone => ?_, others⟩
  rw [hnone] at existed
  cases existed

theorem HiveState.fails {status : Nat} {dbs : Databases Db} (h : HiveState servers main dr dbs)
    (hstatus : status ≠ 0) : HiveExit servers main dr status dbs :=
  ⟨h, fun hzero => absurd hzero hstatus⟩

theorem Dropped.state {place : (String → Option Db) → Prop} {dbs : Databases Db}
    (h : Dropped servers main dr place dbs) : HiveState servers main dr dbs :=
  .of_existed h.existed (.inl h.backup) h.others

theorem Dropped.waits {place : (String → Option Db) → Prop} {dbs : Databases Db}
    {command : Command PgCommand} (h : Dropped servers main dr place dbs)
    (starts : ∀ ext, command = .run ext → hiveGuard servers emptyDb main dr ext dbs) :
    HiveWaits servers emptyDb main dr command dbs :=
  ⟨.inr h.backup, h.state, starts⟩

theorem HiveWaits.of_same {dbs : Databases Db} {command : Command PgCommand} (h : dbs.dr = dr)
    (starts : ∀ ext, command = .run ext → hiveGuard servers emptyDb main dr ext dbs) :
    HiveWaits servers emptyDb main dr command dbs :=
  ⟨.inl h, .of_same h, starts⟩

theorem starts_errexit {dbs : Databases Db} {on : Bool} (ext : PgCommand)
    (h : Command.errexit on = .run ext) : hiveGuard servers emptyDb main dr ext dbs := by
  cases h

theorem starts_free {dbs : Databases Db} {command : PgCommand}
    (hfree : hiveGuard servers emptyDb main dr command dbs) (ext : PgCommand)
    (h : Command.run command = .run ext) : hiveGuard servers emptyDb main dr ext dbs := by
  cases h
  exact hfree

variable [DecidableEq Db]

abbrev HiveOutline (servers : PgServers) (emptyDb main : Db) (dr : String → Option Db) :=
  PgOutline servers emptyDb (HiveWaits servers emptyDb main dr) (HiveExit servers main dr)

def Copied (servers : PgServers) (dr : String → Option Db) (status : Nat) (dbs : Databases Db) :
    Prop :=
  status = 0 ∧ (dr servers.foldedDb).isSome = true ∧
    (dbs.dr servers.restoreDb).isSome = true ∧ dbs.backup = none ∧
    servers.LeavesOthers dr dbs.dr

theorem outline_restored :
    HiveOutline servers emptyDb main dr true
      (Dropped servers main dr fun found => (found servers.restoreDb).isSome = true)
      [.run .echo, .run .rmBackup] true (Copied servers dr) := by
  have hend : Outline (pgTools servers emptyDb) (HiveWaits servers emptyDb main dr)
      (HiveExit servers main dr) true
      (fun status dbs => status = 0 ∧ (dr servers.foldedDb).isSome = true ∧
        (dbs.dr servers.restoreDb).isSome = true ∧ dbs.backup = none ∧
        servers.LeavesOthers dr dbs.dr)
      [] true (Copied servers dr) :=
    .nil fun _ _ h => h
  refine .echo (fun dbs h => h.waits (starts_free trivial)) (.checked_zero (fun _ _ => rfl)
    (fun dbs h => h.waits (starts_free trivial)) ?_ ?_ ?_ hend)
  · intro status outcome dbs hstatus h
    exact h.state.fails hstatus
  · intro outcome dbs hstatus h _
    exact HiveState.fails (.of_existed h.existed (.inr ⟨rfl, h.place⟩) h.others) hstatus
  · intro outcome dbs h _ hzero
    exact ⟨h.existed, h.place, rfl, h.others⟩

theorem outline_restore :
    HiveOutline servers emptyDb main dr true
      (Dropped servers main dr fun found => found servers.restoreDb = some emptyDb)
      [.errexit false, .run .pgRestore, .errexit true, .run .echo, .run .rmBackup] true
      (Copied servers dr) := by
  have hend : HiveOutline servers emptyDb main dr false
      (Dropped servers main dr fun found => (found servers.restoreDb).isSome = true)
      [.errexit true, .run .echo, .run .rmBackup] true (Copied servers dr) :=
    .switch true (fun _ _ h => h.waits starts_errexit) (fun _ _ h => h) outline_restored
  have himport : HiveOutline servers emptyDb main dr false
      (Dropped servers main dr fun found => found servers.restoreDb = some emptyDb)
      [.run .pgRestore, .errexit true, .run .echo, .run .rmBackup] true (Copied servers dr) := by
    refine .run ?_ (by simp) ?_ hend
    · intro _ dbs h
      exact h.waits (starts_free ⟨h.password, h.backup, h.place⟩)
    · intro _ dbs outcome h _
      have himported (content : Db) : Dropped servers main dr
          (fun found => (found servers.restoreDb).isSome = true)
          (dbs.setDr servers.restoreDb (some content)) :=
        ⟨h.existed, h.password, h.backup, h.others.update (.inl rfl) _,
          by simp [Databases.setDr]⟩
      have hrestorable : dbs.restorable servers.restoreDb emptyDb = some main := by
        simp [Databases.restorable, h.backup, h.place]
      simp only [pgTools, hrestorable, h.place, Option.map_some]
      split_ifs
      · split
        · exact himported _
        · exact himported _
      · exact ⟨h.existed, h.password, h.backup, h.others, by simp [h.place]⟩
  exact .switch false (fun _ _ h => h.waits starts_errexit) (fun _ _ h => h) himport

theorem outline_createdb :
    HiveOutline servers emptyDb main dr true
      (Dropped servers main dr fun found => found servers.foldedDb = none)
      [.run (.createdb none), .run .echo, .errexit false, .run .pgRestore, .errexit true,
        .run .echo, .run .rmBackup] true (Copied servers dr) := by
  have hcreated {dbs : Databases Db}
      (h : Dropped servers main dr (fun found => found servers.foldedDb = none) dbs) :
      Dropped servers main dr (fun found => found servers.restoreDb = some emptyDb)
        (dbs.setDr servers.restoreDb (some emptyDb)) :=
    ⟨h.existed, h.password, h.backup, h.others.update (.inl rfl) _, by simp [Databases.setDr]⟩
  refine .checked (fun _ _ => rfl) ?_ ?_ ?_ ?_
    (.echo (fun dbs h => h.waits (starts_free trivial)) outline_restore)
  · intro dbs h
    exact h.waits (starts_free ⟨h.password, h.place⟩)
  · intro status outcome dbs hstatus h
    exact h.state.fails hstatus
  · intro outcome dbs hstatus h _
    exact (hcreated h).state.fails hstatus
  · intro outcome dbs h _ _
    exact hcreated h

theorem outline_drop :
    HiveOutline servers emptyDb main dr true
      (fun dbs => dbs.pgPassword = servers.password .restore ∧
        dbs.backup = some (.complete main) ∧ dbs.dr = dr)
      [.run (.terminateAndDrop none), .run .echo, .run (.createdb none), .run .echo,
        .errexit false, .run .pgRestore, .errexit true, .run .echo, .run .rmBackup] true
      (Copied servers dr) := by
  have hdropped {dbs : Databases Db}
      (h : dbs.pgPassword = servers.password .restore ∧
        dbs.backup = some (.complete main) ∧ dbs.dr = dr)
      (hpossible : (dbs.accepted servers .restore none && (dbs.dr servers.foldedDb).isSome) =
        true) : Dropped servers main dr (fun found => found servers.foldedDb = none)
          (dbs.setDr servers.foldedDb none) := by
    obtain ⟨hpassword, hbackup, rfl⟩ := h
    exact ⟨(Bool.and_eq_true_iff.mp hpossible).2, hpassword, hbackup,
      (servers.leavesOthers_refl _).update (.inr rfl) _, by simp [Databases.setDr]⟩
  refine .checked (fun _ _ => rfl) ?_ ?_ ?_ ?_
    (.echo (fun dbs h => h.waits (starts_free trivial)) outline_createdb)
  · exact fun dbs h => .of_same h.2.2 (starts_free h)
  · intro status outcome dbs hstatus h
    exact HiveState.fails (.of_same h.2.2) hstatus
  · intro outcome dbs hstatus h hpossible
    exact (hdropped h hpossible).state.fails hstatus
  · intro outcome dbs h hpossible _
    exact hdropped h hpossible

theorem outline_dump :
    HiveOutline servers emptyDb main dr true
      (fun dbs => dbs.pgPassword = servers.password .toBackup ∧ dbs.main = main ∧ dbs.dr = dr)
      (copyPgHiveDbCommandWithDropping.drop 2) true (Copied servers dr) := by
  have hready : HiveOutline servers emptyDb main dr true
      (fun dbs => dbs.backup = some (.complete main) ∧ dbs.dr = dr)
      (copyPgHiveDbCommandWithDropping.drop 3) true (Copied servers dr) :=
    PgOutline.echo (fun _ h => .of_same h.2 (starts_free trivial)) (.quiet (fun _ _ => rfl)
      (fun _ h => .of_same h.2 (starts_free trivial)) (fun dbs h => ⟨rfl, h⟩) outline_drop)
  refine .checked (fun _ _ => rfl) ?_ ?_ ?_ ?_ hready
  · exact fun dbs h => .of_same h.2.2 (starts_free h.1)
  · intro status outcome dbs hstatus h
    exact HiveState.fails (.of_same h.2.2) hstatus
  · intro outcome dbs hstatus h _
    exact HiveState.fails (.of_same h.2.2) hstatus
  · intro outcome dbs h _ hzero
    exact ⟨by simp [hzero, h.2.1], h.2.2⟩

theorem outline_hive :
    HiveOutline servers emptyDb main dr false (fun dbs => dbs.main = main ∧ dbs.dr = dr)
      copyPgHiveDbCommandWithDropping true (Copied servers dr) := by
  have hexported : HiveOutline servers emptyDb main dr true
      (fun dbs => dbs.main = main ∧ dbs.dr = dr)
      (copyPgHiveDbCommandWithDropping.drop 1) true (Copied servers dr) :=
    .quiet (fun _ _ => rfl) (fun _ h => .of_same h.2 (starts_free trivial)) (fun _ h => ⟨rfl, h⟩)
      outline_dump
  exact .switch true (fun _ _ h => .of_same h.2 starts_errexit) (fun _ _ h => h) hexported

/-- The script of the Hive database drops a database only with a complete dump of main at
hand, and imports into the new database only; every server gets its own password. At every
point, the end of a stopped run included, the DR server is as it was, or the dump is still
there, or `rm` has removed it after the import. It ends with status 0 only where the database
of the folded name was there at first. -/
theorem hive_copy_safe {dbs : Databases Db}
    {config : Config PgCommand (Databases Db)}
    (hrun : Runs.Reaches (step (pgTools servers emptyDb))
      (begin copyPgHiveDbCommandWithDropping dbs) config) :
    (∀ command rest, config.todo = command :: rest →
      HiveWaits servers emptyDb dbs.main dbs.dr command config.world) ∧
    HiveState servers dbs.main dbs.dr config.world ∧
    (config.Exited → HiveExit servers dbs.main dbs.dr config.status config.world) := by
  have hpost (status : Nat) (found : Databases Db) (h : Copied servers dbs.dr status found) :
      HiveExit servers dbs.main dbs.dr status found := by
    obtain ⟨hstatus, existed, hthere, hremoved, others⟩ := h
    exact ⟨.of_existed existed (.inr ⟨hremoved, hthere⟩) others,
      fun _ => ⟨existed, hthere, hremoved⟩⟩
  obtain ⟨hwaits, hexits, hstops⟩ := outline_hive.sound ⟨rfl, rfl⟩ hpost hrun
  refine ⟨hwaits, ?_, hexits⟩
  obtain ⟨command, hcommand⟩ | ⟨status, hexit⟩ := hstops
  · exact hcommand.state
  · exact hexit.state

def ownPasswords : PgServers where
  password | .toBackup => "main" | .restore => "dr"
  accepts | .toBackup, password => password = "main" | .restore, password => password = "dr"
  restoreDb := "dr"
  fold := String.toLower

def drServer (name : String) (content : Nat) : String → Option Nat :=
  Function.update (fun _ => none) name (some content)

/-- The database cannot be created again after the drop. -/
theorem hive_copy_stops_at_createdb :
    ∃ config, Runs.Reaches (step (pgTools ownPasswords 0))
        (begin copyPgHiveDbCommandWithDropping ⟨7, none, drServer "dr" 3, ""⟩) config ∧
      config.world.dr "dr" = none ∧ config.world.backup = some (.complete 7) ∧
      config.status = 1 ∧ HiveExit ownPasswords 7 (drServer "dr" 3) config.status config.world := by
  obtain ⟨config, hrun, hcheck⟩ := Runs.exists_of_replay (step (pgTools ownPasswords 0))
    (begin copyPgHiveDbCommandWithDropping ⟨7, none, drServer "dr" 3, ""⟩)
    (List.replicate 7 (.command ⟨0, true, 0⟩) ++ [.command ⟨1, false, 0⟩])
    (fun config => config.todo.isEmpty && config.stopped.isNone &&
      (config.world.dr "dr").isNone && config.world.backup == some (.complete 7) &&
      config.status == 1) (by decide +kernel)
  simp only [Bool.and_eq_true, List.isEmpty_iff, Option.isNone_iff_eq_none, beq_iff_eq] at hcheck
  obtain ⟨⟨⟨⟨htodo, hstopped⟩, hgone⟩, hbackup⟩, hstatus⟩ := hcheck
  exact ⟨config, hrun, hgone, hbackup, hstatus, (hive_copy_safe hrun).2.2 ⟨htodo, hstopped⟩⟩

/-- The import is not reported: whatever it leaves, the script ends with status 0. -/
theorem hive_copy_hides_import {dbs : Databases Db} {old : Db}
    (hfolded : servers.foldedDb = servers.restoreDb) (hdr : dbs.dr servers.restoreDb = some old)
    (hmain : servers.accepts .toBackup (servers.password .toBackup) = true)
    (hrestore : servers.accepts .restore (servers.password .restore) = true) (left : Db) :
    ∃ config, Runs.Reaches (step (pgTools servers emptyDb))
        (begin copyPgHiveDbCommandWithDropping dbs) config ∧
      config.Exited ∧ config.status = 0 ∧ config.world.dr servers.restoreDb = some left := by
  let fine : Event (PgOutcome Db) := .command ⟨0, true, left⟩
  let created : Databases Db :=
    ({ dbs with backup := some (.complete dbs.main), pgPassword := servers.password .restore }.setDr
      servers.restoreDb none).setDr servers.restoreDb (some emptyDb)
  let ready : Config PgCommand (Databases Db) :=
    ⟨copyPgHiveDbCommandWithDropping.drop 10, false, [], 0, created, none⟩
  have hready : Runs.exec (step (pgTools servers emptyDb))
      (begin copyPgHiveDbCommandWithDropping dbs) (List.replicate 10 fine) = some ready := by
    simp [Runs.exec, step, Config.perform, begin, copyPgHiveDbCommandWithDropping, pgTools,
      PgOutcome.run, Databases.accepted, Databases.setDr, List.replicate, hfolded, hdr, hmain,
      hrestore, ready, created, fine]
  let finish : Databases Db :=
    { created.setDr servers.restoreDb (some left) with backup := none }
  have hfinish : Runs.exec (step (pgTools servers emptyDb)) ready
      (.command ⟨1, true, left⟩ :: List.replicate 3 fine) =
        some ⟨[], true, [], 0, finish, none⟩ := by
    simp [Runs.exec, step, Config.perform, copyPgHiveDbCommandWithDropping, pgTools,
      PgOutcome.run, Databases.accepted, Databases.restorable, Databases.setDr, List.replicate,
      hrestore, ready, created, fine, finish]
  refine ⟨⟨[], true, [], 0, finish, none⟩, .trans ⟨_, hready⟩ ⟨_, hfinish⟩, ⟨rfl, rfl⟩, rfl, ?_⟩
  simp [finish, Databases.setDr]

end Hive

section Airflow

variable (servers : PgServers) (emptyDb main : Db) (dr : String → Option Db)

def airflowGuard (command : PgCommand) (dbs : Databases Db) : Prop :=
  match command with
  | .dumpIntoRestore _ _ => (dr servers.restoreDb).isSome = true ∧
      dbs.dr servers.restoreDb = some emptyDb
  | _ => True

def PgServers.TakeAll : Prop :=
  servers.accepts .toBackup (servers.password .toBackup) = true ∧
    servers.accepts .restore (servers.password .restore) = true ∧
    servers.accepts .restore (servers.password .toBackup) = true

structure AirflowState (dbs : Databases Db) : Prop where
  place : dbs.dr servers.restoreDb = dr servers.restoreDb ∨
    dbs.dr servers.restoreDb = none ∨ dbs.dr servers.restoreDb = some emptyDb ∨
    dbs.dr servers.restoreDb = some main ∧ servers.TakeAll
  missing : dr servers.foldedDb = none → dbs.dr = dr
  others : servers.LeavesOthers dr dbs.dr

structure AirflowWaits (command : Command PgCommand) (dbs : Databases Db) : Prop where
  state : AirflowState servers emptyDb main dr dbs
  starts : ∀ ext, command = .run ext → airflowGuard servers emptyDb dr ext dbs

structure AirflowExit (status : Nat) (dbs : Databases Db) : Prop where
  state : AirflowState servers emptyDb main dr dbs
  succeeded : status = 0 → (dr servers.restoreDb).isSome = true ∧
    dbs.dr servers.restoreDb = some main ∧ servers.TakeAll

/-- The folded database was there and is gone, and this is what there is instead. -/
structure Replaced (place : (String → Option Db) → Prop) (dbs : Databases Db) : Prop where
  existed : (dr servers.foldedDb).isSome = true
  main : dbs.main = main
  accepted : servers.accepts .restore (servers.password .restore) = true
  others : servers.LeavesOthers dr dbs.dr
  place : place dbs.dr

def DrGone (found : String → Option Db) : Prop :=
  found servers.foldedDb = none ∧
    (found servers.restoreDb = dr servers.restoreDb ∨ found servers.restoreDb = none)

/-- After the creation, and then after a statement about the folded database. -/
def DrEmpty (found : String → Option Db) : Prop :=
  found servers.restoreDb = some emptyDb ∧
    ((found servers.foldedDb).isSome = true → servers.foldedDb = servers.restoreDb)

def DrGranted (found : String → Option Db) : Prop :=
  found servers.restoreDb = some emptyDb ∧ servers.foldedDb = servers.restoreDb

variable {servers emptyDb main dr}

theorem AirflowState.fails {status : Nat} {dbs : Databases Db}
    (h : AirflowState servers emptyDb main dr dbs) (hstatus : status ≠ 0) :
    AirflowExit servers emptyDb main dr status dbs :=
  ⟨h, fun hzero => absurd hzero hstatus⟩

theorem AirflowState.of_same {dbs : Databases Db} (h : dbs.dr = dr) :
    AirflowState servers emptyDb main dr dbs :=
  ⟨.inl (congrFun h _), fun _ => h, h ▸ servers.leavesOthers_refl dr⟩

theorem Replaced.state {place : (String → Option Db) → Prop} {dbs : Databases Db}
    (h : Replaced servers main dr place dbs)
    (hplace : dbs.dr servers.restoreDb = dr servers.restoreDb ∨
      dbs.dr servers.restoreDb = none ∨ dbs.dr servers.restoreDb = some emptyDb ∨
      dbs.dr servers.restoreDb = some main ∧ servers.TakeAll) :
    AirflowState servers emptyDb main dr dbs := by
  refine ⟨hplace, fun hnone => ?_, h.others⟩
  have existed := h.existed
  rw [hnone] at existed
  cases existed

theorem Replaced.state_gone {dbs : Databases Db}
    (h : Replaced servers main dr (DrGone servers dr) dbs) :
    AirflowState servers emptyDb main dr dbs :=
  h.state (h.place.2.imp_right .inl)

theorem Replaced.state_empty {place : (String → Option Db) → Prop} {dbs : Databases Db}
    (h : Replaced servers main dr place dbs)
    (hempty : dbs.dr servers.restoreDb = some emptyDb) :
    AirflowState servers emptyDb main dr dbs :=
  h.state (.inr (.inr (.inl hempty)))

theorem AirflowState.waits_errexit {dbs : Databases Db} {on : Bool}
    (h : AirflowState servers emptyDb main dr dbs) :
    AirflowWaits servers emptyDb main dr (.errexit on) dbs :=
  ⟨h, by rintro _ ⟨⟩⟩

theorem AirflowState.waits {dbs : Databases Db} {command : PgCommand}
    (h : AirflowState servers emptyDb main dr dbs)
    (hguard : airflowGuard servers emptyDb dr command dbs) :
    AirflowWaits servers emptyDb main dr (.run command) dbs := by
  refine ⟨h, ?_⟩
  rintro _ ⟨⟩
  exact hguard

theorem Replaced.imported {dbs : Databases Db}
    (h : Replaced servers main dr (DrGranted servers emptyDb) dbs)
    (hmain : servers.accepts .toBackup (servers.password .toBackup) = true)
    (hdr : servers.accepts .restore (servers.password .toBackup) = true) (status : Nat) :
    AirflowExit servers emptyDb main dr status
      (dbs.setDr servers.restoreDb (some dbs.main)) := by
  have htake : servers.TakeAll := ⟨hmain, h.accepted, hdr⟩
  have hcopied : (dbs.setDr servers.restoreDb (some dbs.main)).dr servers.restoreDb =
      some main := by
    simp [Databases.setDr, h.main]
  have hreplaced : Replaced servers main dr (fun _ => True)
      (dbs.setDr servers.restoreDb (some dbs.main)) :=
    ⟨h.existed, h.main, h.accepted, h.others.update (.inl rfl) _, trivial⟩
  have existed := h.existed
  rw [h.place.2] at existed
  exact ⟨hreplaced.state (.inr (.inr (.inr ⟨hcopied, htake⟩))), fun _ => ⟨existed, hcopied, htake⟩⟩

variable [DecidableEq Db]

abbrev AirflowOutline (servers : PgServers) (emptyDb main : Db) (dr : String → Option Db) :=
  PgOutline servers emptyDb (AirflowWaits servers emptyDb main dr)
    (AirflowExit servers emptyDb main dr)

theorem outline_grant {command : PgCommand} {rest : List (Command PgCommand)} {after : Bool}
    {post : Nat → Databases Db → Prop} {place : (String → Option Db) → Prop}
    {password : Option PgHost}
    (htool : ∀ outcome dbs, pgTools servers emptyDb command outcome dbs = outcome.run
      (dbs.accepted servers .restore password && (dbs.dr servers.foldedDb).isSome) dbs dbs)
    (hguard : ∀ dbs, airflowGuard servers emptyDb dr command dbs)
    (hplace : ∀ found, place found → DrEmpty servers emptyDb found)
    (hrest : AirflowOutline servers emptyDb main dr true
      (Replaced servers main dr (DrGranted servers emptyDb)) rest after post) :
    AirflowOutline servers emptyDb main dr true (Replaced servers main dr place)
      (.run command :: .run .echo :: rest) after post := by
  refine .checked htool (fun dbs h => (h.state_empty (hplace _ h.place).1).waits (hguard dbs))
    ?_ ?_ ?_ (.echo (fun dbs h => (h.state_empty h.place.1).waits trivial) hrest)
  · intro status outcome dbs hstatus h
    exact (h.state_empty (hplace _ h.place).1).fails hstatus
  · intro outcome dbs hstatus h _
    exact (h.state_empty (hplace _ h.place).1).fails hstatus
  · intro outcome dbs h hpossible _
    obtain ⟨hempty, hsame⟩ := hplace _ h.place
    exact ⟨h.existed, h.main, h.accepted, h.others, hempty,
      hsame (Bool.and_eq_true_iff.mp hpossible).2⟩

theorem outline_import :
    AirflowOutline servers emptyDb main dr true
      (Replaced servers main dr (DrGranted servers emptyDb))
      [.errexit false, .run (.dumpIntoRestore .toBackup .toBackup)] false
      (AirflowExit servers emptyDb main dr) := by
  have himport : AirflowOutline servers emptyDb main dr false
      (Replaced servers main dr (DrGranted servers emptyDb))
      [.run (.dumpIntoRestore .toBackup .toBackup)] false
      (AirflowExit servers emptyDb main dr) := by
    refine .run ?_ (by simp) ?_ (.nil fun _ _ h => h)
    · intro _ dbs h
      have existed := h.existed
      rw [h.place.2] at existed
      exact (h.state_empty h.place.1).waits ⟨existed, h.place.1⟩
    · intro _ dbs outcome h _
      by_cases hstatus : (pgTools servers emptyDb (.dumpIntoRestore .toBackup .toBackup)
          outcome dbs).1 = 0
      · obtain ⟨hpossible, -, hdone⟩ := PgOutcome.run_succeeds hstatus
        simp only [Bool.and_eq_true] at hpossible
        rw [pgTools, hdone]
        exact h.imported hpossible.1.1 hpossible.1.2 _
      obtain hsame | ⟨hpossible, hdone⟩ := PgOutcome.run_cases outcome _ _ dbs
      · rw [pgTools, hsame]
        exact (h.state_empty h.place.1).fails hstatus
      · simp only [Bool.and_eq_true] at hpossible
        rw [pgTools, hdone]
        exact h.imported hpossible.1.1 hpossible.1.2 _
  exact .switch false (fun _ _ h => (h.state_empty h.place.1).waits_errexit) (fun _ _ h => h)
    himport

theorem outline_airflow :
    AirflowOutline servers emptyDb main dr false (fun dbs => dbs.main = main ∧ dbs.dr = dr)
      copyPgAirflowDbCommandWithDropping false (AirflowExit servers emptyDb main dr) := by
  have hcreated {dbs : Databases Db}
      (h : Replaced servers main dr (DrGone servers dr) dbs) :
      Replaced servers main dr (DrEmpty servers emptyDb)
        (dbs.setDr servers.restoreDb (some emptyDb)) := by
    refine ⟨h.existed, h.main, h.accepted, h.others.update (.inl rfl) _,
      by simp [Databases.setDr], fun hsome => ?_⟩
    by_contra hne
    simp [Databases.setDr, Function.update_of_ne hne, h.place.1] at hsome
  have hcreate : AirflowOutline servers emptyDb main dr true
      (Replaced servers main dr (DrGone servers dr))
      (copyPgAirflowDbCommandWithDropping.drop 3) false
      (AirflowExit servers emptyDb main dr) := by
    refine .checked (fun _ _ => rfl) (fun _ h => h.state_gone.waits trivial) ?_ ?_ ?_
      (.echo (fun _ h => (h.state_empty h.place.1).waits trivial)
        (outline_grant (fun _ _ => rfl) (fun _ => trivial) (fun _ h => h)
          (outline_grant (fun _ _ => rfl) (fun _ => trivial)
            (fun _ h => ⟨h.1, fun _ => h.2⟩) outline_import)))
    · intro status outcome dbs hstatus h
      exact h.state_gone.fails hstatus
    · intro outcome dbs hstatus h _
      exact ((hcreated h).state_empty (hcreated h).place.1).fails hstatus
    · intro outcome dbs h _ _
      exact hcreated h
  have hdropped {dbs : Databases Db} (h : dbs.main = main ∧ dbs.dr = dr)
      (hpossible : (dbs.accepted servers .restore (some .restore) &&
        (dbs.dr servers.foldedDb).isSome) = true) :
      Replaced servers main dr (DrGone servers dr) (dbs.setDr servers.foldedDb none) := by
    obtain ⟨hmain, rfl⟩ := h
    obtain ⟨haccepted, hsome⟩ := Bool.and_eq_true_iff.mp hpossible
    refine ⟨hsome, hmain, haccepted, (servers.leavesOthers_refl _).update (.inr rfl) _,
      by simp [Databases.setDr], ?_⟩
    by_cases hfolded : servers.restoreDb = servers.foldedDb
    · exact .inr (by simp [Databases.setDr, hfolded])
    · exact .inl (by simp [Databases.setDr, Function.update_of_ne hfolded])
  have hdrop : AirflowOutline servers emptyDb main dr true
      (fun dbs => dbs.main = main ∧ dbs.dr = dr)
      (copyPgAirflowDbCommandWithDropping.drop 1) false
      (AirflowExit servers emptyDb main dr) := by
    refine .checked (fun _ _ => rfl) (fun _ h => (AirflowState.of_same h.2).waits trivial) ?_ ?_ ?_
      (.echo (fun _ h => h.state_gone.waits trivial) hcreate)
    · intro status outcome dbs hstatus h
      exact (AirflowState.of_same h.2).fails hstatus
    · intro outcome dbs hstatus h hpossible
      exact (hdropped h hpossible).state_gone.fails hstatus
    · intro outcome dbs h hpossible _
      exact hdropped h hpossible
  exact .switch true (fun _ _ h => (AirflowState.of_same h.2).waits_errexit) (fun _ _ h => h) hdrop

/-- The script of the Airflow database ends with status 0 only where the DR database was
there and is now the main one. At every point, the end of a stopped run included, the DR
database is as it was, missing or empty, or the import is there whole. Where the DR server
does not take the password of the main one, no run succeeds, and none leaves the main
database there. -/
theorem airflow_copy_safe {dbs : Databases Db}
    {config : Config PgCommand (Databases Db)}
    (hrun : Runs.Reaches (step (pgTools servers emptyDb))
      (begin copyPgAirflowDbCommandWithDropping dbs) config) :
    (∀ command rest, config.todo = .run command :: rest →
      airflowGuard servers emptyDb dbs.dr command config.world) ∧
    AirflowState servers emptyDb dbs.main dbs.dr config.world ∧
    (config.Exited →
      AirflowExit servers emptyDb dbs.main dbs.dr config.status config.world) ∧
    (servers.accepts .restore (servers.password .toBackup) = false →
      (config.world.dr servers.restoreDb = dbs.dr servers.restoreDb ∨
        config.world.dr servers.restoreDb = none ∨
        config.world.dr servers.restoreDb = some emptyDb) ∧
      (config.Exited → config.status ≠ 0)) := by
  obtain ⟨hwaits, hexits, hstops⟩ := outline_airflow.sound ⟨rfl, rfl⟩ (fun _ _ h => h) hrun
  have hstate : AirflowState servers emptyDb dbs.main dbs.dr config.world := by
    obtain ⟨command, hcommand⟩ | ⟨status, hexit⟩ := hstops
    · exact hcommand.state
    · exact hexit.state
  refine ⟨fun command rest htodo => (hwaits _ rest htodo).starts command rfl, hstate, hexits,
    fun hrefused => ?_⟩
  have hnever : ¬ servers.TakeAll := by
    rintro ⟨-, -, htaken⟩
    simp [hrefused] at htaken
  refine ⟨?_, fun hexited hzero => hnever ((hexits hexited).succeeded hzero).2.2⟩
  obtain hsame | hgone | hempty | ⟨-, htake⟩ := hstate.place
  · exact .inl hsame
  · exact .inr (.inl hgone)
  · exact .inr (.inr hempty)
  · exact absurd htake hnever

/-- With a password for each server the Airflow database of the DR site ends up empty. -/
theorem airflow_copy_refused :
    ∃ config, Runs.Reaches (step (pgTools ownPasswords 0))
        (begin copyPgAirflowDbCommandWithDropping ⟨7, none, drServer "dr" 3, ""⟩) config ∧
      config.world.dr "dr" = some 0 ∧ config.status ≠ 0 := by
  obtain ⟨config, hrun, hcheck⟩ := Runs.exists_of_replay (step (pgTools ownPasswords 0))
    (begin copyPgAirflowDbCommandWithDropping ⟨7, none, drServer "dr" 3, ""⟩)
    (List.replicate 11 (.command ⟨0, true, 0⟩))
    (fun config => config.todo.isEmpty && config.stopped.isNone &&
      config.world.dr "dr" == some 0) (by decide +kernel)
  simp only [Bool.and_eq_true, List.isEmpty_iff, Option.isNone_iff_eq_none, beq_iff_eq] at hcheck
  obtain ⟨⟨htodo, hstopped⟩, hempty⟩ := hcheck
  exact ⟨config, hrun, hempty,
    ((airflow_copy_safe hrun).2.2.2 (by decide)).2 ⟨htodo, hstopped⟩⟩

end Airflow

end QubershipAirflow.DrSync
