import Mathlib.Data.List.Dedup
import QubershipAirflow.Library.ShellScripts

/-! The entry point of the rclone container, which fills the DAG volume from an archive or
from a remote directory, once or over and over. -/
namespace QubershipAirflow.DagSync

open ShellScripts

/-- The variables the control flow depends on; one that is not set reads as empty. -/
structure Settings where
  gitSyncMaxSyncFailures : String
  gitSyncRepo : String
  gitSyncOneTime : String

inductive EntryCommand where
  | echo
  | sleep
  /-- `rclone copyurl "${GIT_SYNC_REV}" /data/dags.zip` -/
  | copyUrl
  /-- `unzip /data/dags.zip -d /unpacked_dags -o` -/
  | unzip
  /-- `rclone sync /unpacked_dags/* /git/` -/
  | syncUnpacked
  /-- `rclone sync remotesrc:"${GIT_SYNC_REV}" /git` -/
  | syncRemote
  deriving DecidableEq

inductive Node (File : Type) where
  | directory
  | file (content : File)
  deriving DecidableEq

/-- What is at which path; an earlier entry hides a later one of the same path. -/
abbrev Tree (File : Type) := List (List String × Node File)

abbrev Files (File : Type) := List (List String × File)

structure Volumes (File : Type) where
  /-- What the archive on disk holds, when it is whole. -/
  zip : Option (Tree File)
  unpacked : Tree File
  git : Files File

/-- How a command ends: what the remote side holds, and what a failure leaves behind. -/
structure EntryOutcome (File : Type) where
  status : Nat
  archive : Tree File
  remote : Files File
  unpacked : Tree File
  left : Files File
  torn : Bool

variable {File : Type}

/-- `/unpacked_dags/*`, which leaves hidden entries out. -/
def Tree.entries (tree : Tree File) : List String :=
  ((tree.filterMap fun entry => entry.1.head?).filter fun name => !name.startsWith ".").dedup

def Tree.under (tree : Tree File) (name : String) : Files File :=
  tree.filterMap fun entry => match entry with
    | (top :: next :: rest, .file content) =>
        if top = name then some (next :: rest, content) else none
    | _ => none

/-- The volume is a copy of one entry: the files below a directory, or a file beside what was
there. -/
def Tree.CopiedTo (tree : Tree File) (name : String) (git : Files File) : Prop :=
  match tree.lookup [name] with
  | some (.file content) => git.lookup [name] = some content
  | _ => git = tree.under name

/-- `rclone sync` takes one source, so there must be one entry. A directory replaces the
volume, a file is added to it. -/
def Volumes.synced (volumes : Volumes File) : Option (Files File) :=
  match volumes.unpacked.entries with
  | [name] => match volumes.unpacked.lookup [name] with
      | some (.file content) => some (([name], content) :: volumes.git)
      | _ => some (volumes.unpacked.under name)
  | _ => none

def entryTools : Tools EntryCommand (Volumes File) (EntryOutcome File)
  | .echo, _, volumes => (0, volumes)
  | .sleep, outcome, volumes => (outcome.status, volumes)
  | .copyUrl, outcome, volumes =>
      (outcome.status, { volumes with
        zip := if outcome.status = 0 then some outcome.archive
          else if outcome.torn then none else volumes.zip })
  | .unzip, outcome, volumes => match volumes.zip, outcome.status with
      -- files that the archive no longer has stay
      | some archive, 0 => (0, { volumes with unpacked := archive ++ volumes.unpacked })
      | _, status =>
          (status + 1, { volumes with unpacked := outcome.unpacked ++ volumes.unpacked })
  | .syncUnpacked, outcome, volumes => match volumes.synced, outcome.status with
      | some files, 0 => (0, { volumes with git := files })
      | some _, status => (status + 1, { volumes with git := outcome.left })
      | none, status => (status + 1, volumes)
  | .syncRemote, outcome, volumes =>
      (outcome.status, { volumes with
        git := if outcome.status = 0 then outcome.remote else outcome.left })

def urlzipRound : List EntryCommand := [.copyUrl, .echo, .unzip, .echo, .syncUnpacked, .echo]

def sigint : Nat := 2

def sigterm : Nat := 15

def entrypointBody (settings : Settings) : List (Command EntryCommand) :=
  (if settings.gitSyncMaxSyncFailures = "FAIL_ON_ERROR" then [.errexit true] else []) ++
  if settings.gitSyncRepo = "urlzip" then
    if settings.gitSyncOneTime = "true" then
      (.echo :: urlzipRound).map .run
    else
      [.forever ((.echo :: .sleep :: urlzipRound).map .run)]
  else
    if settings.gitSyncOneTime = "true" then
      [.echo, .syncRemote, .echo].map .run
    else
      [.forever ([.echo, .sleep, .echo, .syncRemote, .echo].map .run)]

def entrypoint (settings : Settings) : List (Command EntryCommand) :=
  .trapExit [sigint, sigterm] 0 :: entrypointBody settings

theorem Volumes.copied_of_synced {volumes : Volumes File} {files : Files File}
    (h : volumes.synced = some files) :
    ∃ name, volumes.unpacked.entries = [name] ∧ volumes.unpacked.CopiedTo name files := by
  unfold Volumes.synced at h
  split at h
  · rename_i name hentries
    refine ⟨name, hentries, ?_⟩
    unfold Tree.CopiedTo
    split at h <;> cases h
    · simp
    · rfl
  · cases h

theorem entryTools_syncUnpacked_zero {outcome : EntryOutcome File} {volumes : Volumes File}
    (h : (entryTools .syncUnpacked outcome volumes).1 = 0) :
    ∃ git, volumes.synced = some git ∧
      (entryTools .syncUnpacked outcome volumes).2 = { volumes with git } := by
  simp only [entryTools] at h ⊢
  split at h
  · rename_i git hsynced hstatus
    exact ⟨git, hsynced, rfl⟩
  · simp at h
  · simp at h

/-- The last archive that was downloaded is whole, and everything in it is unpacked. -/
def Volumes.Fresh (volumes : Volumes File) : Prop :=
  ∃ archive older, volumes.zip = some archive ∧ volumes.unpacked = archive ++ older

/-- The volume is the copy of the one unpacked entry that is not hidden. -/
structure Volumes.Copied (volumes : Volumes File) : Prop where
  fresh : volumes.Fresh
  copy : ∃ name, volumes.unpacked.entries = [name] ∧
    volumes.unpacked.CopiedTo name volumes.git

def Settings.FailOnError (settings : Settings) : Prop :=
  settings.gitSyncMaxSyncFailures = "FAIL_ON_ERROR"

structure EntryExit (settings : Settings) (status : Nat) (volumes : Volumes File) : Prop where
  once : ¬ settings.FailOnError ∨ status = 0 → settings.gitSyncOneTime = "true"
  unreported : ¬ settings.FailOnError → status = 0
  copied : settings.FailOnError → status = 0 → settings.gitSyncRepo = "urlzip" → volumes.Copied

section Rounds

variable {exits : Nat → Volumes File → Prop} {before after : Bool}
  {pre : Nat → Volumes File → Prop} {post : Nat → Volumes File → Prop}
  {rest : List (Command EntryCommand)}

end Rounds

section Runs

variable {settings : Settings}

theorem EntryExit.failed (hset : settings.FailOnError) {status : Nat} {volumes : Volumes File}
    (hstatus : status ≠ 0) : EntryExit settings status volumes := by
  refine ⟨fun h => ?_, fun h => absurd hset h, fun _ h => absurd h hstatus⟩
  obtain h | hzero := h
  · exact absurd hset h
  · exact absurd hzero hstatus

end Runs

section Stale

theorem entryTools_unpacked (command : EntryCommand) (outcome : EntryOutcome File)
    (volumes : Volumes File) :
    volumes.unpacked <:+ (entryTools command outcome volumes).2.unpacked := by
  cases command with
  | echo | sleep | copyUrl | syncRemote => exact List.suffix_rfl
  | unzip =>
    simp only [entryTools]
    split <;> exact List.suffix_append _ _
  | syncUnpacked =>
    simp only [entryTools]
    split <;> exact List.suffix_rfl

theorem unpacked_step {config next : Config EntryCommand (Volumes File)}
    {event : Event (EntryOutcome File)} (hstep : step entryTools config event = some next) :
    config.world.unpacked <:+ next.world.unpacked := by
  cases event with
  | command outcome =>
    simp only [step, Config.perform] at hstep
    split at hstep <;> cases hstep
    · exact List.suffix_rfl
    · exact List.suffix_rfl
    · exact List.suffix_rfl
    · exact entryTools_unpacked _ outcome config.world
  | signal number =>
    obtain ⟨-, rfl⟩ := Config.stop_eq_some hstep
    exact List.suffix_rfl

theorem unpacked_run {config later : Config EntryCommand (Volumes File)}
    (hrun : Runs.Reaches (step entryTools) config later) :
    config.world.unpacked <:+ later.world.unpacked :=
  hrun.invariant (I := fun state => config.world.unpacked <:+ state.world.unpacked)
    (fun _ _ _ h hstep => h.trans (unpacked_step hstep)) List.suffix_rfl

theorem Tree.mem_entries {tree : Tree File} {name : String} {rest : List String}
    {node : Node File} (hname : name.startsWith "." = false)
    (hnode : (name :: rest, node) ∈ tree) : name ∈ tree.entries := by
  rw [entries, List.mem_dedup, List.mem_filter]
  exact ⟨List.mem_filterMap.mpr ⟨_, hnode, rfl⟩, by simp [hname]⟩

theorem Tree.mem_under {tree : Tree File} {name next : String} {rest : List String}
    {content : File} (hfile : (name :: next :: rest, .file content) ∈ tree) :
    (next :: rest, content) ∈ tree.under name :=
  List.mem_filterMap.mpr ⟨_, hfile, by simp⟩

/-- A file that was unpacked once below a directory that is not hidden is in the volume after
every later sync of that directory that succeeds, whether the archive still has it or not. -/
theorem removed_files_stay {config later after : Config EntryCommand (Volumes File)}
    (hrun : Runs.Reaches (step entryTools) config later) {name next : String}
    {rest : List String} {content : File} (hname : name.startsWith "." = false)
    (hfile : (name :: next :: rest, .file content) ∈ config.world.unpacked)
    {todo : List (Command EntryCommand)} (htodo : later.todo = .run .syncUnpacked :: todo)
    (hdirectory : ∀ content, later.world.unpacked.lookup [name] ≠ some (.file content))
    {outcome : EntryOutcome File} (hstep : step entryTools later (.command outcome) = some after)
    (hstatus : after.status = 0) :
    next :: rest ∈ after.world.git.map Prod.fst := by
  have hthere : (name :: next :: rest, .file content) ∈ later.world.unpacked :=
    (unpacked_run hrun).subset hfile
  simp only [step, Config.perform, htodo, Option.some.injEq] at hstep
  subst hstep
  obtain ⟨git, hsynced, hdone⟩ := entryTools_syncUnpacked_zero hstatus
  obtain ⟨only, hentries, hcopy⟩ := Volumes.copied_of_synced hsynced
  obtain rfl : name = only := by simpa [hentries] using Tree.mem_entries hname hthere
  rw [hdone]
  unfold Tree.CopiedTo at hcopy
  split at hcopy
  · exact absurd (by assumption) (hdirectory _)
  · rw [hcopy]
    exact List.mem_map.mpr ⟨_, Tree.mem_under hthere, rfl⟩

/-- A loop whose last archive has no `old.py` any more. -/
theorem removed_file_stays_once :
    ∃ later next : Config EntryCommand (Volumes Nat), Runs.Reaches (step entryTools)
        (begin (entrypoint ⟨"", "urlzip", ""⟩)
          ⟨none, [(["dags", "old.py"], .file 1)], []⟩) later ∧
      later.world.zip = some [(["dags", "new.py"], .file 2)] ∧
      step entryTools later (.command ⟨0, [], [], [], [], false⟩) = some next ∧
      ["old.py"] ∈ next.world.git.map Prod.fst := by
  let start : Config EntryCommand (Volumes Nat) :=
    begin (entrypoint ⟨"", "urlzip", ""⟩) ⟨none, [(["dags", "old.py"], .file 1)], []⟩
  let later : Config EntryCommand (Volumes Nat) :=
    { start with
      todo := [.syncUnpacked, .echo].map .run ++ entrypointBody ⟨"", "urlzip", ""⟩
      traps := [(sigint, 0), (sigterm, 0)]
      world := ⟨some [(["dags", "new.py"], .file 2)],
        [(["dags", "new.py"], .file 2), (["dags", "old.py"], .file 1)], []⟩ }
  have hrun : Runs.Reaches (step entryTools) start later :=
    ⟨List.replicate 8 (.command ⟨0, [(["dags", "new.py"], .file 2)], [], [], [], false⟩), rfl⟩
  have hfile : ("dags" :: "old.py" :: [], .file 1) ∈ start.world.unpacked :=
    List.mem_singleton.mpr rfl
  have hdirectory (content : Nat) :
      later.world.unpacked.lookup ["dags"] ≠ some (.file content) := by
    have hnone : later.world.unpacked.lookup ["dags"] = none := by decide
    simp [hnone]
  have hstatus : (entryTools .syncUnpacked ⟨0, [], [], [], [], false⟩ later.world).1 = 0 := by
    decide +kernel
  exact ⟨later, _, hrun, rfl, rfl,
    removed_files_stay hrun (by decide +kernel) hfile rfl hdirectory rfl hstatus⟩

end Stale

end QubershipAirflow.DagSync
