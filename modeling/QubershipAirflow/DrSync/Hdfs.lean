import QubershipAirflow.Library.Programs
import QubershipAirflow.DrSync.SnapshotNames

/-! The part of two HDFS sites that the synchronisation of one folder sees: the
folder's content, its snapshots, and the WebHDFS calls that read and change them. -/
namespace QubershipAirflow.DrSync

open Programs

inductive Node where
  | file (data : List UInt8)
  | directory (entries : List (String × Node))

/-- What a directory holds, in the order of its listing. -/
abbrev Tree := List (String × Node)

mutual

def Node.decEq : (first second : Node) → Decidable (first = second)
  | .file data, .file other =>
      if h : data = other then isTrue (by rw [h]) else isFalse (by simpa using h)
  | .file _, .directory _ => isFalse (by simp)
  | .directory _, .file _ => isFalse (by simp)
  | .directory entries, .directory others =>
      match Node.decEqEntries entries others with
      | isTrue h => isTrue (by rw [h])
      | isFalse h => isFalse (by simpa using h)

def Node.decEqEntries : (first second : List (String × Node)) → Decidable (first = second)
  | [], [] => isTrue rfl
  | [], _ :: _ => isFalse (by simp)
  | _ :: _, [] => isFalse (by simp)
  | (name, node) :: rest, (other, node') :: rest' =>
      if h : name = other then
        match Node.decEq node node', Node.decEqEntries rest rest' with
        | isTrue hnode, isTrue hrest => isTrue (by rw [h, hnode, hrest])
        | isFalse hnode, _ => isFalse (by simp [hnode])
        | _, isFalse hrest => isFalse (by simp [hrest])
      else isFalse (by simp [h])

end

instance : DecidableEq Node := Node.decEq

structure ContentSummary where
  directoryCount : Nat
  fileCount : Nat
  length : Nat
  deriving DecidableEq

instance : Add ContentSummary where
  add first second :=
    { directoryCount := first.directoryCount + second.directoryCount
      fileCount := first.fileCount + second.fileCount
      length := first.length + second.length }

mutual

def Node.content : Node → ContentSummary
  | .file data => ⟨0, 1, data.length⟩
  | .directory entries => Node.contents entries

/-- A directory counts itself. -/
def Node.contents : List (String × Node) → ContentSummary
  | [] => ⟨1, 0, 0⟩
  | (_, node) :: rest => node.content + Node.contents rest

end

/-- A folder that exists. Only a snapshottable one can have snapshots. -/
structure Folder where
  tree : Tree
  snapshottable : Bool
  snapshots : List (String × Tree)
  allowed : snapshots ≠ [] → snapshottable = true

def Folder.withTree (folder : Folder) (tree : Tree) : Folder := { folder with tree := tree }

def Folder.createSnapshot? (folder : Folder) (name : String) : Option Folder :=
  if h : folder.snapshottable = true then
    match folder.snapshots.lookup name with
    | some _ => none
    | none => some
        { folder with
          snapshots := folder.snapshots ++ [(name, folder.tree)]
          allowed := fun _ => h }
  else none

def Folder.dropSnapshot (folder : Folder) (name : String) : Folder :=
  { folder with
    snapshots := folder.snapshots.filter fun entry => entry.1 ≠ name
    allowed := by
      intro h
      apply folder.allowed
      intro hnil
      exact h (by rw [hnil]; rfl) }

def Folder.deleteSnapshot? (folder : Folder) (name : String) : Option Folder :=
  (folder.snapshots.lookup name).map fun _ => folder.dropSnapshot name

inductive Site where
  | main
  | dr
  deriving DecidableEq

/-- The synchronised folder has the same path on both sites. -/
inductive Path where
  | folder
  | snapshots
  | snapshot (name : String)
  deriving DecidableEq

structure Sites where
  main : Option Folder
  dr : Option Folder

def Sites.folder (sites : Sites) : Site → Option Folder
  | .main => sites.main
  | .dr => sites.dr

def Sites.setFolder (sites : Sites) (site : Site) (folder : Folder) : Sites :=
  match site with
  | .main => { sites with main := some folder }
  | .dr => { sites with dr := some folder }

def Folder.treeAt (folder : Folder) : Path → Option Tree
  | .folder => some folder.tree
  | .snapshots =>
      if folder.snapshottable then
        some (folder.snapshots.map fun (name, tree) => (name, .directory tree))
      else none
  | .snapshot name => folder.snapshots.lookup name

def Sites.treeAt (sites : Sites) (site : Site) (path : Path) : Option Tree :=
  (sites.folder site).bind fun folder => folder.treeAt path

inductive Failure where
  | valueError (message : String)
  /-- HDFS refused the call or did not answer, or the task was lost. -/
  | hdfs
  deriving DecidableEq

inductive Op where
  | checkForPath (site : Site) (path : Path)
  | list (site : Site) (path : Path)
  | content (site : Site) (path : Path)
  | createSnapshot (site : Site) (name : String)
  | deleteSnapshot (site : Site) (name : String)
  | warning (message : String)

def Op.Answer : Op → Type
  | .checkForPath .. => Bool
  | .list .. => List String
  | .content .. => ContentSummary
  | .createSnapshot .. => Unit
  | .deleteSnapshot .. => Unit
  | .warning _ => Unit

def changed (sites : Sites) (site : Site) (change : Folder → Option Folder) :
    Except Failure (Unit × Sites) :=
  match (sites.folder site).bind change with
  | some folder => .ok ((), sites.setFolder site folder)
  | none => .error .hdfs

def readTree (sites : Sites) (site : Site) (path : Path) (read : Tree → α) :
    Except Failure (α × Sites) :=
  match sites.treeAt site path with
  | some tree => .ok (read tree, sites)
  | none => .error .hdfs

def hdfs : Program.Server Op Op.Answer Failure Sites
  | .checkForPath site path, sites => .ok ((sites.treeAt site path).isSome, sites)
  | .list site path, sites => readTree sites site path (List.map Prod.fst)
  | .content site path, sites => readTree sites site path Node.contents
  | .createSnapshot site name, sites => changed sites site (·.createSnapshot? name)
  | .deleteSnapshot site name, sites => changed sites site (·.deleteSnapshot? name)
  | .warning _, sites => .ok ((), sites)

abbrev Task (α : Type) := Program Op Op.Answer Failure α

def checkForPath (site : Site) (path : Path) : Task Bool :=
  Program.perform (Op.checkForPath site path)

def list (site : Site) (path : Path) : Task (List String) := Program.perform (Op.list site path)

def content (site : Site) (path : Path) : Task ContentSummary :=
  Program.perform (Op.content site path)

def createSnapshot (site : Site) (name : String) : Task Unit :=
  Program.perform (Op.createSnapshot site name)

def deleteSnapshot (site : Site) (name : String) : Task Unit :=
  Program.perform (Op.deleteSnapshot site name)

def warning (message : String) : Task Unit := Program.perform (Op.warning message)

end QubershipAirflow.DrSync
