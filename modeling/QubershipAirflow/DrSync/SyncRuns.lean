import QubershipAirflow.DrSync.DagWiring
import QubershipAirflow.DrSync.HiveService
import QubershipAirflow.DrSync.Histories
import QubershipAirflow.Library.LiveTasks
import QubershipAirflow.Library.Paths

/-! `DR_SYNC_DAG_V2` as it runs, again and again: tasks of different folders overlap, make
one call at a time and may be lost, and at most one run is active. Two entries of the list
may name one directory, or directories of which one lies in the other. -/
namespace QubershipAirflow.DrSync

open Programs TaskGraph

variable {folderList : List String}

namespace DagTask

/-- What is left to do of a task that runs. The copies run in a shell. -/
def Work : DagTask folderList → Type
  | verifyState _ => Task Branch
  | postUpdate _ => Task Unit
  | stopHive | startHive => HiveTask Unit
  | _ => Unit

def body : (task : DagTask folderList) → task.Work
  | verifyState _ => checkFolderState
  | postUpdate _ => validateDistcpSuccessful
  | stopHive => stopHiveService
  | startHive => startHiveService
  | findCorrectSshHost | doKinit | copyPgHiveDatabase | copyPgAirflowDatabase => ()
  | initializeFolder _ | updateFolder _ => ()

def folder? : DagTask folderList → Option (Fin folderList.length)
  | verifyState folder | initializeFolder folder | updateFolder folder | postUpdate folder =>
      some folder
  | _ => none

def isPlain : DagTask folderList → Bool
  | findCorrectSshHost | doKinit | copyPgHiveDatabase | copyPgAirflowDatabase => true
  | _ => false

end DagTask

def Branch.copyTask (folder : Fin folderList.length) : Branch → DagTask folderList
  | .initializeFolder .. => .initializeFolder folder
  | .updateFolder .. => .updateFolder folder

abbrev Directory := List Paths.Component

def hdfsDirectory (folder : Fin folderList.length) : Directory :=
  Paths.resolve [] (folderList.get folder)

/-- One of the directories lies in the other, or they are the same. -/
def Touch (first second : Directory) : Prop := first <+: second ∨ second <+: first

instance (first second : Directory) : Decidable (Touch first second) :=
  inferInstanceAs (Decidable (_ ∨ _))

/-- No other entry of the list names the directory, one in it or one around it. -/
def Separate (folder : Fin folderList.length) : Prop :=
  ∀ other, other ≠ folder → ¬ Touch (hdfsDirectory other) (hdfsDirectory folder)

instance (folder : Fin folderList.length) : Decidable (Separate folder) := by
  unfold Separate
  infer_instance

theorem Separate.directory_ne {own folder : Fin folderList.length} (h : Separate folder)
    (hown : own ≠ folder) : hdfsDirectory own ≠ hdfsDirectory folder :=
  fun hsame => h own hown (.inl (hsame ▸ List.prefix_rfl))

/-- `stored` are both sites, directory by directory, `pushed` the values that
`check_folder_state` left for the copy in the active run, `outcomes` how the last attempt to
synchronise a folder ended. A `distcp` may go on when its task fails or is lost: `orphans` are
its folder and its target. -/
structure SyncState (folderList : List String) where
  live : Live (DagTask folderList) DagTask.Work
  stored : Directory → Sites
  pushed : Fin folderList.length → Option Branch
  outcomes : Fin folderList.length → Option Outcome
  ambari : AmbariTranscript
  orphans : List (Fin folderList.length × Location)

inductive SyncMove (folderList : List String) where
  | begin (task : DagTask folderList)
  | call (task : DagTask folderList)
  | answered (task : DagTask folderList) (answer : AmbariAnswer)
  | ended (task : DagTask folderList)
  | plain (task : DagTask folderList)
  | distcp (folder : Fin folderList.length) (tree : Tree) (succeeded : Bool)
  | lost (task : DagTask folderList)
  | pass (task : DagTask folderList)
  /-- What an orphan of the folder writes. -/
  | orphan (folder : Fin folderList.length) (target : Location) (tree : Tree)
  /-- What is written to a directory shows in those around it and in it. -/
  | spread (folder : Fin folderList.length) (sites : Sites)
  | users (folder : Fin folderList.length) (content : Option Folder)
  | nextRun

def SyncMove.spares (folder : Fin folderList.length) : SyncMove folderList → Bool
  | .orphan own _ _ => own ≠ folder
  | _ => true

def SyncMove.isWrite : SyncMove folderList → Bool
  | .orphan .. | .spread .. | .users .. => true
  | _ => false

namespace SyncState

def sites (state : SyncState folderList) (folder : Fin folderList.length) : Sites :=
  state.stored (hdfsDirectory folder)

def setSites (state : SyncState folderList) (folder : Fin folderList.length) (sites : Sites) :
    SyncState folderList :=
  { state with stored := Function.update state.stored (hdfsDirectory folder) sites }

theorem sites_setSites (state : SyncState folderList) (folder : Fin folderList.length)
    (sites : Sites) : (state.setSites folder sites).sites folder = sites :=
  Function.update_self ..

theorem sites_setSites_of_ne (state : SyncState folderList)
    {own folder : Fin folderList.length} (h : hdfsDirectory own ≠ hdfsDirectory folder)
    (sites : Sites) : (state.setSites own sites).sites folder = state.sites folder :=
  Function.update_of_ne (Ne.symm h) ..

def record (state : SyncState folderList) (folder : Fin folderList.length)
    (outcome : Outcome) : SyncState folderList :=
  { state with outcomes := Function.update state.outcomes folder (some outcome) }

def push (state : SyncState folderList) (folder : Fin folderList.length) (branch : Branch) :
    SyncState folderList :=
  { state with pushed := Function.update state.pushed folder (some branch) }

def finish (state : SyncState folderList) (task : DagTask folderList)
    (ending : Ending (DagTask folderList)) : Option (SyncState folderList) :=
  ((drSyncDag folderList).finish state.live task ending).map fun live =>
    { state with live := live }

def callHdfs (state : SyncState folderList) (folder : Fin folderList.length) {α : Type}
    (work : Option (Task α)) (task : DagTask folderList) (keep : Task α → task.Work) :
    Option (SyncState folderList) :=
  work.bind fun program =>
    (Program.advance hdfs program (state.sites folder)).map fun result =>
      { state.setSites folder result.2 with live := state.live.put task (some (keep result.1)) }

def call (state : SyncState folderList) :
    DagTask folderList → Option (SyncState folderList)
  | .verifyState folder =>
      state.callHdfs folder (state.live.working (.verifyState folder)) (.verifyState folder) id
  | .postUpdate folder =>
      state.callHdfs folder (state.live.working (.postUpdate folder)) (.postUpdate folder) id
  | _ => none

def callAmbari (state : SyncState folderList) (answer : AmbariAnswer)
    (work : Option (HiveTask Unit)) (task : DagTask folderList)
    (keep : HiveTask Unit → task.Work) : Option (SyncState folderList) :=
  work.bind fun program => (program.answer answer).map fun result =>
    { state with
      ambari := state.ambari ++ [⟨result.1, answer⟩]
      live := state.live.put task (some (keep result.2)) }

def answered (state : SyncState folderList) (answer : AmbariAnswer) :
    DagTask folderList → Option (SyncState folderList)
  | .stopHive => state.callAmbari answer (state.live.working .stopHive) .stopHive id
  | .startHive => state.callAmbari answer (state.live.working .startHive) .startHive id
  | _ => none

def ended (state : SyncState folderList) :
    DagTask folderList → Option (SyncState folderList)
  | .verifyState folder =>
      match state.live.working (.verifyState folder) with
      | some (.pure branch) =>
          (state.push folder branch).finish (.verifyState folder)
            (.success (some (branch.copyTask folder)))
      | some (.throw failure) =>
          (state.record folder (.failed failure)).finish (.verifyState folder) .failure
      | _ => none
  | .postUpdate folder =>
      match state.live.working (.postUpdate folder) with
      | some (.pure ()) =>
          (state.record folder .completed).finish (.postUpdate folder) (.success none)
      | some (.throw failure) =>
          (state.record folder (.failed failure)).finish (.postUpdate folder) .failure
      | _ => none
  | .stopHive =>
      match state.live.working .stopHive with
      | some (.pure ()) => state.finish .stopHive (.success none)
      | some (.throw _) => state.finish .stopHive .failure
      | _ => none
  | .startHive =>
      match state.live.working .startHive with
      | some (.pure ()) => state.finish .startHive (.success none)
      | some (.throw _) => state.finish .startHive .failure
      | _ => none
  | _ => none

/-- The command of a copy, which may go on without its task. -/
def leftRunning (state : SyncState folderList) :
    DagTask folderList → Option (Fin folderList.length × Location)
  | .initializeFolder folder | .updateFolder folder =>
      (state.pushed folder).map fun branch => (folder, branch.targetFolder)
  | _ => none

def abandon (state : SyncState folderList) (task : DagTask folderList) : SyncState folderList :=
  { state with orphans := (state.leftRunning task).toList ++ state.orphans }

/-- The copy that runs reads the values of its folder, and leaves some content in the
target. -/
def distcp (state : SyncState folderList) (folder : Fin folderList.length) (tree : Tree)
    (succeeded : Bool) : Option (SyncState folderList) := do
  let branch ← state.pushed folder
  let sites ← (state.sites folder).copied branch.targetFolder tree
  let state := state.setSites folder sites
  if succeeded then state.finish (branch.copyTask folder) (.success none)
  else
    ((state.abandon (branch.copyTask folder)).record folder (.failed .hdfs)).finish
      (branch.copyTask folder) .failure

/-- A task fails by itself: its process is lost, or the answer to its last call is. -/
def lost (state : SyncState folderList) (task : DagTask folderList) :
    Option (SyncState folderList) :=
  match task.folder? with
  | some folder => ((state.abandon task).record folder (.failed .hdfs)).finish task .failure
  | none => state.finish task .failure

def orphan (state : SyncState folderList) (folder : Fin folderList.length) (target : Location)
    (tree : Tree) : Option (SyncState folderList) :=
  if (folder, target) ∈ state.orphans then
    ((state.sites folder).copied target tree).map (state.setSites folder)
  else none

def step (state : SyncState folderList) : SyncMove folderList → Option (SyncState folderList)
  | .begin task =>
      ((drSyncDag folderList).start state.live task task.body).map fun live =>
        { state with live := live }
  | .call task => state.call task
  | .answered task answer => state.answered answer task
  | .ended task => state.ended task
  | .plain task => if task.isPlain then state.finish task (.success none) else none
  | .distcp folder tree succeeded => state.distcp folder tree succeeded
  | .lost task => state.lost task
  | .pass task => ((drSyncDag folderList).pass state.live task).map fun live =>
      { state with live := live }
  | .orphan folder target tree => state.orphan folder target tree
  | .spread folder sites =>
      if Separate folder then none else some (state.setSites folder sites)
  | .users folder content =>
      if snapshotsOf content = snapshotsOf (state.sites folder).main then
        some (state.setSites folder { state.sites folder with main := content })
      else none
  | .nextRun =>
      if (∀ task, state.live.run.states task ≠ .none) ∧
          ∀ task, (state.live.working task).isNone then
        some { state with live := .initial, pushed := fun _ => none }
      else none

structure Fresh (state : SyncState folderList) : Prop where
  live : state.live = .initial
  pushed : state.pushed = fun _ => none
  outcomes : state.outcomes = fun _ => none
  main : ∀ folder, snapshotsOf (state.sites folder).main = []
  dr : ∀ folder, snapshotsOf (state.sites folder).dr = []

def uncopied : SyncState folderList where
  live := .initial
  stored := fun _ => oneFile.sites
  pushed := fun _ => none
  outcomes := fun _ => none
  ambari := []
  orphans := []

def acceptedAnswer : AmbariAnswer := ⟨202, some (.obj [("Requests", .obj [("id", .int 1)])])⟩

def completedAnswer : AmbariAnswer :=
  ⟨200, some (.obj [("Requests", .obj [("request_status", .str "COMPLETED")])])⟩

def uptoCopy (folder : Fin folderList.length) : List (SyncMove folderList) :=
  [.begin .findCorrectSshHost, .plain .findCorrectSshHost, .begin .stopHive,
    .answered .stopHive acceptedAnswer, .answered .stopHive completedAnswer, .ended .stopHive,
    .begin .doKinit, .plain .doKinit, .begin .copyPgHiveDatabase, .begin (.verifyState folder)] ++
    List.replicate 8 (.call (.verifyState folder)) ++
    [.ended (.verifyState folder), .begin (.initializeFolder folder)]

def fromCopy (folder : Fin folderList.length) : List (SyncMove folderList) :=
  [.distcp folder [("part-0", .file [1, 2])] true, .begin (.postUpdate folder)] ++
    List.replicate 9 (.call (.postUpdate folder)) ++ [.ended (.postUpdate folder)]

end SyncState

end QubershipAirflow.DrSync
