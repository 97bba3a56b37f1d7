import QubershipAirflow.DrSync.FolderTasks

/-! Histories of runs on one folder. A run is `check_folder_state`, the copy task it
chose and `validate_distcp_successful`; the next run starts when it has ended. Any
call may be the run's last one, and users may change the main folder at any time. -/
namespace QubershipAirflow.DrSync

open Programs

inductive Outcome where
  | completed
  | failed (failure : Failure)
  deriving DecidableEq

inductive Phase where
  | idle (last : Option Outcome)
  | checking (task : Task Branch)
  | copying (branch : Branch)
  | validating (task : Task Unit)

structure State where
  sites : Sites
  phase : Phase

inductive Move where
  | start
  | call
  | next
  | distcp (tree : Tree) (succeeded : Bool)
  | fail
  | users (folder : Option Folder)

/-- A run fails by itself: a task is lost, or HDFS does not answer it. -/
def Phase.fail : Phase → Option Phase
  | .idle _ => none
  | _ => some (.idle (some (.failed .hdfs)))

def Phase.call (sites : Sites) : Phase → Option (Sites × Phase)
  | .checking task => (task.advance hdfs sites).map fun (task, sites) => (sites, .checking task)
  | .validating task =>
      (task.advance hdfs sites).map fun (task, sites) => (sites, .validating task)
  | _ => none

/-- A task has ended. The trigger rule of the validation lets it start when the
chosen copy has succeeded. -/
def Phase.next : Phase → Option Phase
  | .checking (.pure branch) => some (.copying branch)
  | .checking (.throw failure) => some (.idle (some (.failed failure)))
  | .validating (.pure ()) => some (.idle (some .completed))
  | .validating (.throw failure) => some (.idle (some (.failed failure)))
  | _ => none

/-- `distcp` has left some content in its target folder. -/
def Sites.copied (sites : Sites) (target : Location) (tree : Tree) : Option Sites :=
  match target.path with
  | .folder => (sites.folder target.site).map fun folder =>
      sites.setFolder target.site (folder.withTree tree)
  | _ => none

def snapshotsOf (folder : Option Folder) : List (String × Tree) :=
  (folder.map Folder.snapshots).getD []

def State.step (state : State) : Move → Option State
  | .start =>
      match state.phase with
      | .idle _ => some { state with phase := .checking checkFolderState }
      | _ => none
  | .call => (state.phase.call state.sites).map fun (sites, phase) => ⟨sites, phase⟩
  | .next => state.phase.next.map fun phase => { state with phase := phase }
  | .distcp tree succeeded =>
      match state.phase with
      | .copying branch => (state.sites.copied branch.targetFolder tree).map fun sites =>
          { sites := sites
            phase :=
              if succeeded then .validating validateDistcpSuccessful
              else .idle (some (.failed .hdfs)) }
      | _ => none
  | .fail => state.phase.fail.map fun phase => { state with phase := phase }
  | .users folder =>
      if snapshotsOf folder = snapshotsOf state.sites.main then
        some { state with sites := { state.sites with main := folder } }
      else none

def Sites.at (sites : Sites) (location : Location) : Option Tree :=
  sites.treeAt location.site location.path

def Location.snapshot (location : Location) (name : String) : Location :=
  { location with path := .snapshot name }

/-- What a successful `distcp` promises: a copy into an empty folder is the source,
and a difference applied to its base snapshot gives the target snapshot. -/
def Branch.exact (sites : Sites) (tree : Tree) : Branch → Prop
  | .initializeFolder source target => sites.at target = some [] → sites.at source = some tree
  | .updateFolder base target source folder =>
      sites.at folder = sites.at (source.snapshot base) →
        sites.at (source.snapshot target) = some tree

instance (sites : Sites) (tree : Tree) (branch : Branch) :
    Decidable (branch.exact sites tree) := by
  cases branch <;> unfold Branch.exact <;> infer_instance

def State.exact (state : State) (move : Move) : Bool :=
  match state.phase, move with
  | .copying branch, .distcp tree true => decide (branch.exact state.sites tree)
  | _, _ => true

structure State.Fresh (state : State) : Prop where
  main : snapshotsOf state.sites.main = []
  dr : snapshotsOf state.sites.dr = []
  idle : state.phase = .idle none

def Phase.idle? : Phase → Option (Option Outcome)
  | .idle last => some last
  | _ => none

def Phase.copying? : Phase → Option Branch
  | .copying branch => some branch
  | _ => none

theorem Phase.idle?_eq_some {phase : Phase} {last : Option Outcome} :
    phase.idle? = some last ↔ phase = .idle last := by
  cases phase <;> simp [Phase.idle?]

theorem Phase.copying?_eq_some {phase : Phase} {branch : Branch} :
    phase.copying? = some branch ↔ phase = .copying branch := by
  cases phase <;> simp [Phase.copying?]

def oneFile : State where
  sites :=
    { main := some ⟨[("part-0", .file [1, 2])], true, [], by simp⟩
      dr := some ⟨[], true, [], by simp⟩ }
  phase := .idle none

theorem oneFile_fresh : oneFile.Fresh := ⟨rfl, rfl, rfl⟩

def runUpTo (checks : Nat) (tree : Tree) (validations : Nat) : List Move :=
  [.start] ++ List.replicate checks .call ++ [.next, .distcp tree true] ++
    List.replicate validations .call

end QubershipAirflow.DrSync
