import QubershipAirflow.DrSync.Histories

/-! What a run can rely on while users change the main folder: main's snapshots and
the whole DR folder. Each task is summed up by what it does to this view. -/
namespace QubershipAirflow.DrSync

open Programs

structure View where
  main : List (String × Tree)
  dr : Option Folder

def Sites.view (sites : Sites) : View := ⟨snapshotsOf sites.main, sites.dr⟩

namespace View

def snapshots (v : View) : Site → List (String × Tree)
  | .main => v.main
  | .dr => snapshotsOf v.dr

def names (v : View) (site : Site) : List String := (v.snapshots site).map Prod.fst

def latest (v : View) (site : Site) : Int := latestNumber (v.names site)

def addMain (v : View) (name : String) (tree : Tree) : View :=
  { v with main := v.main ++ [(name, tree)] }

def drop (v : View) (site : Site) (name : String) : View :=
  match site with
  | .main => { v with main := v.main.filter fun entry => entry.1 ≠ name }
  | .dr => { v with dr := v.dr.map fun folder => folder.dropSnapshot name }

def withDrTree (v : View) (tree : Tree) : View :=
  { v with dr := v.dr.map fun folder => folder.withTree tree }

def numbers (v : View) (site : Site) : List Nat := (v.names site).filterMap snapshotNumber?

section Names

variable (v : View) (name : String) (tree : Tree) (folder : Folder)

@[simp] theorem names_addMain_main :
    (v.addMain name tree).names .main = v.names .main ++ [name] := by
  simp [names, snapshots, addMain]

@[simp] theorem names_addMain_dr : (v.addMain name tree).names .dr = v.names .dr := rfl

theorem names_drop (site : Site) :
    (v.drop site name).names site = (v.names site).filter (· ≠ name) := by
  cases site with
  | main => simp [names, snapshots, drop, List.filter_map, Function.comp_def]
  | dr =>
    cases h : v.dr with
    | none => simp [names, snapshots, drop, snapshotsOf, h]
    | some folder =>
      simp [names, snapshots, drop, snapshotsOf, h, Folder.dropSnapshot, List.filter_map,
        Function.comp_def]

@[simp] theorem names_drop_main : (v.drop .main name).names .main =
    (v.names .main).filter (· ≠ name) := names_drop v name .main

@[simp] theorem names_drop_dr : (v.drop .dr name).names .dr =
    (v.names .dr).filter (· ≠ name) := names_drop v name .dr

@[simp] theorem names_drop_main_dr : (v.drop .main name).names .dr = v.names .dr := rfl

@[simp] theorem names_drop_dr_main : (v.drop .dr name).names .main = v.names .main := rfl

theorem latest_addMain {v : View} {n : Nat} (tree : Tree) (h : v.latest .main ≤ n) :
    (v.addMain (snapshotName n) tree).latest .main = n := by
  rw [latest, names_addMain_main]
  exact latestNumber_append h

@[simp] theorem snapshots_withDrTree (site : Site) :
    (v.withDrTree tree).snapshots site = v.snapshots site := by
  cases site with
  | main => rfl
  | dr => cases h : v.dr <;> simp [snapshots, withDrTree, snapshotsOf, h, Folder.withTree]

@[simp] theorem names_withDrTree (site : Site) :
    (v.withDrTree tree).names site = v.names site := by
  rw [names, snapshots_withDrTree]
  rfl

@[simp] theorem latest_withDrTree (site : Site) :
    (v.withDrTree tree).latest site = v.latest site := by
  rw [latest, names_withDrTree]
  rfl

theorem names_drop_subset (site other : Site) : (v.drop site name).names other ⊆ v.names other := by
  cases site <;> cases other <;> simp

end Names

end View

theorem snapshotsOf_eq (sites : Sites) (site : Site) :
    sites.view.snapshots site = snapshotsOf (sites.folder site) := by
  cases site <;> rfl

theorem treeAt_snapshot (sites : Sites) (site : Site) (name : String) :
    sites.treeAt site (.snapshot name) = (sites.view.snapshots site).lookup name := by
  rw [snapshotsOf_eq, Sites.treeAt]
  cases sites.folder site <;> rfl

theorem treeAt_snapshots_some {sites : Sites} {site : Site} {tree : Tree}
    (h : sites.treeAt site .snapshots = some tree) :
    tree.map Prod.fst = sites.view.names site := by
  rw [View.names, snapshotsOf_eq]
  rw [Sites.treeAt] at h
  cases hfolder : sites.folder site with
  | none => simp [hfolder] at h
  | some folder =>
    rw [hfolder, Option.bind_some, Folder.treeAt] at h
    split at h
    · cases h
      simp [snapshotsOf, Function.comp_def]
    · cases h

theorem treeAt_snapshots_none {sites : Sites} {site : Site}
    (h : sites.treeAt site .snapshots = none) : sites.view.snapshots site = [] := by
  rw [snapshotsOf_eq]
  rw [Sites.treeAt] at h
  cases hfolder : sites.folder site with
  | none => rfl
  | some folder =>
    rw [hfolder, Option.bind_some, Folder.treeAt] at h
    split at h
    · cases h
    · case isFalse hnot =>
      by_contra hne
      exact hnot (folder.allowed hne)

theorem copied_dr {sites sites' : Sites} {tree : Tree}
    (h : sites.copied ⟨.dr, .folder⟩ tree = some sites') :
    sites'.view = sites.view.withDrTree tree := by
  obtain ⟨folder, hfolder, rfl⟩ := Option.map_eq_some_iff.mp h
  have hdr : sites.dr = some folder := hfolder
  simp [Sites.setFolder, Sites.view, View.withDrTree, hdr]

theorem names_copied {sites sites' : Sites} {target : Location} {tree : Tree}
    (h : sites.copied target tree = some sites') (site : Site) :
    sites'.view.names site = sites.view.names site := by
  unfold Sites.copied at h
  split at h
  · obtain ⟨folder, hfolder, rfl⟩ := Option.map_eq_some_iff.mp h
    rw [View.names, View.names, snapshotsOf_eq, snapshotsOf_eq]
    cases htarget : target.site <;> rw [htarget] at hfolder <;> cases site <;>
      simp_all [Sites.setFolder, Sites.folder, snapshotsOf, Folder.withTree]
  · cases h

theorem treeAt_dr_folder {sites : Sites} {tree : Tree}
    (h : sites.treeAt .dr .folder = some tree) :
    ∃ folder, sites.view.dr = some folder ∧ folder.tree = tree := by
  obtain ⟨folder, hfolder, htree⟩ := Option.bind_eq_some_iff.mp h
  exact ⟨folder, hfolder, Option.some.inj htree⟩

def View.withoutPrevious (v : View) (site : Site) (latest : Int) : View :=
  v.drop site (snapshotName (latest - 1))

theorem View.names_withoutPrevious (v : View) (latest : Int) (site : Site) :
    ((v.withoutPrevious .main latest).withoutPrevious .dr latest).names site =
      (v.names site).filter (· ≠ snapshotName (latest - 1)) := by
  cases site with
  | main => exact View.names_drop_main v _
  | dr => exact View.names_drop_dr (v.withoutPrevious .main latest) _

theorem lookup_eq_none {v : View} {site : Site} {name : String} :
    (v.snapshots site).lookup name = none ↔ name ∉ v.names site := by
  rw [List.lookup_eq_none_iff, View.names, List.mem_map]
  constructor
  · rintro h ⟨entry, hentry, rfl⟩
    simpa using h entry hentry
  · intro h entry hentry
    have hne : name ≠ entry.1 := fun heq => h ⟨entry, hentry, heq.symm⟩
    simpa using hne

theorem View.drop_of_lookup {v : View} {site : Site} {name : String}
    (h : (v.snapshots site).lookup name = none) : v.drop site name = v := by
  have hkept : (v.snapshots site).filter (fun entry => entry.1 ≠ name) = v.snapshots site := by
    rw [List.filter_eq_self]
    intro entry hentry
    have hne := List.lookup_eq_none_iff.mp h entry hentry
    simpa [bne_iff_ne, ne_comm] using hne
  cases site with
  | main =>
    change { v with main := _ } = v
    rw [show v.main.filter _ = v.main from hkept]
  | dr =>
    cases v with
    | mk main dr =>
      cases dr with
      | none => rfl
      | some folder =>
        have hsame : folder.dropSnapshot name = folder := by
          unfold Folder.dropSnapshot
          congr 1
        rw [View.drop, Option.map_some, hsame]

section Calls

variable {v after : View} {site : Site} {path : Path} {name : String}

theorem readTree_error {sites : Sites} {read : Tree → α} {failure : Failure}
    (h : readTree sites site path read = .error failure) : failure = .hdfs := by
  unfold readTree at h
  split at h <;> cases h
  rfl

theorem changed_error {sites : Sites} {change : Folder → Option Folder} {failure : Failure}
    (h : changed sites site change = .error failure) : failure = .hdfs := by
  unfold changed at h
  split at h <;> cases h
  rfl

theorem hdfs_error {op : Op} {sites : Sites} {failure : Failure}
    (h : hdfs op sites = .error failure) : failure = .hdfs := by
  cases op with
  | checkForPath site path => cases h
  | list site path => exact readTree_error h
  | content site path => exact readTree_error h
  | createSnapshot site name => exact changed_error h
  | deleteSnapshot site name => exact changed_error h
  | warning message => cases h

theorem readTree_eq_ok {sites sites' : Sites} {read : Tree → α} {answer : α}
    (h : readTree sites site path read = .ok (answer, sites')) :
    sites' = sites ∧ ∃ tree, sites.treeAt site path = some tree ∧ read tree = answer := by
  unfold readTree at h
  split at h
  · cases h
    exact ⟨rfl, _, by assumption, rfl⟩
  · cases h

theorem changed_eq_ok {sites sites' : Sites} {change : Folder → Option Folder}
    (h : changed sites site change = .ok ((), sites')) :
    ∃ folder folder', sites.folder site = some folder ∧ change folder = some folder' ∧
      sites' = sites.setFolder site folder' := by
  unfold changed at h
  split at h
  · case h_1 folder' hchange =>
    cases h
    obtain ⟨folder, hfolder, hchange⟩ := Option.bind_eq_some_iff.mp hchange
    exact ⟨folder, folder', hfolder, hchange, rfl⟩
  · cases h

abbrev Answered (v : View) (op : Op) (answer : op.Answer) (after : View) : Prop :=
  Answers hdfs Sites.view v op answer after

theorem Answered.checkForPath {found : Bool}
    (h : Answered v (.checkForPath site path) found after) :
    after = v ∧ ∃ sites : Sites, sites.view = v ∧ found = (sites.treeAt site path).isSome := by
  obtain ⟨sites, sites', hview, hcall, hafter⟩ := h
  cases hcall
  exact ⟨hafter.symm.trans hview, sites, hview, rfl⟩

theorem Answered.list {found : List String} (h : Answered v (.list site path) found after) :
    after = v ∧ ∃ (sites : Sites) (tree : Tree), sites.view = v ∧
      sites.treeAt site path = some tree ∧ found = tree.map Prod.fst := by
  obtain ⟨sites, sites', hview, hcall, hafter⟩ := h
  obtain ⟨hsame, tree, htree, hread⟩ := readTree_eq_ok hcall
  rw [hsame] at hafter
  exact ⟨hafter.symm.trans hview, sites, tree, hview, htree, hread.symm⟩

theorem Answered.content {summary : ContentSummary}
    (h : Answered v (.content site path) summary after) : after = v := by
  obtain ⟨sites, sites', hview, hcall, hafter⟩ := h
  obtain ⟨hsame, -⟩ := readTree_eq_ok hcall
  rw [hsame] at hafter
  exact hafter.symm.trans hview

theorem Answered.warning {message : String} {answer : Unit}
    (h : Answered v (.warning message) answer after) : after = v := by
  obtain ⟨sites, sites', hview, hcall, hafter⟩ := h
  cases hcall
  exact hafter.symm.trans hview

theorem createSnapshot?_eq_some {folder folder' : Folder}
    (h : folder.createSnapshot? name = some folder') :
    folder.snapshots.lookup name = none ∧ folder'.tree = folder.tree ∧
      folder'.snapshots = folder.snapshots ++ [(name, folder.tree)] := by
  unfold Folder.createSnapshot? at h
  split at h
  · split at h
    · cases h
    · cases h
      exact ⟨by assumption, rfl, rfl⟩
  · cases h

theorem Answered.createSnapshot_main {answer : Unit}
    (h : Answered v (.createSnapshot .main name) answer after) :
    v.main.lookup name = none ∧ ∃ tree, after = v.addMain name tree := by
  obtain ⟨sites, sites', hview, hcall, hafter⟩ := h
  obtain ⟨folder, folder', hfolder, hcreate, hsites⟩ := changed_eq_ok hcall
  obtain ⟨hfresh, -, hsnapshots⟩ := createSnapshot?_eq_some hcreate
  have hmain : v.main = folder.snapshots := by
    rw [← hview]
    change snapshotsOf (sites.folder .main) = _
    rw [hfolder]
    rfl
  refine ⟨by rw [hmain]; exact hfresh, folder.tree, ?_⟩
  rw [← hafter, hsites, View.addMain, hmain, ← hsnapshots, ← hview]
  rfl

theorem Answered.createSnapshot_dr {answer : Unit}
    (h : Answered v (.createSnapshot .dr name) answer after) :
    ∃ folder folder', v.dr = some folder ∧ folder.createSnapshot? name = some folder' ∧
      after = { v with dr := some folder' } := by
  obtain ⟨sites, sites', hview, hcall, hafter⟩ := h
  obtain ⟨folder, folder', hfolder, hcreate, hsites⟩ := changed_eq_ok hcall
  refine ⟨folder, folder', by rw [← hview]; exact hfolder, hcreate, ?_⟩
  rw [← hafter, hsites, ← hview]
  rfl

theorem Answered.deleteSnapshot {answer : Unit}
    (h : Answered v (.deleteSnapshot site name) answer after) : after = v.drop site name := by
  obtain ⟨sites, sites', hview, hcall, hafter⟩ := h
  obtain ⟨folder, folder', hfolder, hdelete, hsites⟩ := changed_eq_ok hcall
  have hdrop : folder' = folder.dropSnapshot name := by
    obtain ⟨_, -, heq⟩ := Option.map_eq_some_iff.mp hdelete
    exact heq.symm
  rw [← hafter, hsites, hdrop, ← hview]
  cases site with
  | main =>
    have hmain : sites.main = some folder := hfolder
    simp [Sites.setFolder, Sites.view, View.drop, snapshotsOf, hmain, Folder.dropSnapshot]
  | dr =>
    have hdr : sites.dr = some folder := hfolder
    simp [Sites.setFolder, Sites.view, View.drop, hdr]

end Calls

end QubershipAirflow.DrSync
