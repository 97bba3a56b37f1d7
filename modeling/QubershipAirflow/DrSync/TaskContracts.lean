import QubershipAirflow.DrSync.FolderViews

/-! Contracts of the tasks: one rule for each call, and from these what each task may
do to the view before it returns, raises or is lost. -/
namespace QubershipAirflow.DrSync

open Programs

/-- What must hold of the view all along, when the listings are found to differ,
and when the task returns. -/
def contract (always rejected : View → Prop) (post : α → View → Prop) :
    Spec Failure View α :=
  ⟨always, fun failure v => failure = listsDifferent → rejected v, post⟩

abbrev Keeps (always rejected : View → Prop) (post : α → View → Prop) (task : Task α)
    (v : View) : Prop :=
  Meets hdfs Sites.view (contract always rejected post) task v

section Tasks

variable {always rejected : View → Prop} {v : View} {site : Site} {path : Path}
  {name : String}

theorem Keeps.call {post : α → View → Prop} {op : Op} {next : op.Answer → Task α}
    (halways : always v)
    (hnext : ∀ answer after, Answered v op answer after →
      Keeps always rejected post (next answer) after) :
    Keeps always rejected post (.call op next) v := by
  refine Meets.call halways ?_ hnext
  intro sites failure hcall hlists
  rw [hdfs_error hcall] at hlists
  cases hlists

theorem Keeps.valueError {post : α → View → Prop} {message : String} (halways : always v)
    (h : Failure.valueError message ≠ listsDifferent) :
    Keeps always rejected post (.throw (.valueError message)) v :=
  ⟨halways, fun heq => absurd heq h⟩

theorem Keeps.checkForPath {post : α → View → Prop} {rest : Bool → Task α}
    (halways : always v)
    (hrest : ∀ (sites : Sites) (found : Bool), sites.view = v →
      found = (sites.treeAt site path).isSome → Keeps always rejected post (rest found) v) :
    Keeps always rejected post (checkForPath site path >>= rest) v := by
  apply Keeps.call halways
  intro found after h
  obtain ⟨rfl, sites, hview, hfound⟩ := Answered.checkForPath h
  exact hrest sites found hview hfound

theorem Keeps.list {post : α → View → Prop} {rest : List String → Task α}
    (halways : always v)
    (hrest : ∀ (sites : Sites) (tree : Tree), sites.view = v →
      sites.treeAt site path = some tree →
      Keeps always rejected post (rest (tree.map Prod.fst)) v) :
    Keeps always rejected post (list site path >>= rest) v := by
  apply Keeps.call halways
  intro found after h
  obtain ⟨rfl, sites, tree, hview, htree, rfl⟩ := Answered.list h
  exact hrest sites tree hview htree

theorem Keeps.content {post : α → View → Prop} {rest : ContentSummary → Task α}
    (halways : always v) (hrest : ∀ summary, Keeps always rejected post (rest summary) v) :
    Keeps always rejected post (content site path >>= rest) v := by
  apply Keeps.call halways
  intro summary after h
  obtain rfl := Answered.content h
  exact hrest summary

theorem Keeps.warning {post : α → View → Prop} {message : String} {rest : Unit → Task α}
    (halways : always v) (hrest : Keeps always rejected post (rest ()) v) :
    Keeps always rejected post (warning message >>= rest) v := by
  apply Keeps.call halways
  intro answer after h
  obtain rfl := Answered.warning h
  exact hrest

theorem Keeps.createSnapshot_main {post : α → View → Prop} {rest : Unit → Task α}
    (halways : always v)
    (hrest : ∀ tree, v.main.lookup name = none →
      Keeps always rejected post (rest ()) (v.addMain name tree)) :
    Keeps always rejected post (createSnapshot .main name >>= rest) v := by
  apply Keeps.call halways
  intro answer after h
  obtain ⟨hfresh, tree, rfl⟩ := Answered.createSnapshot_main h
  exact hrest tree hfresh

theorem Keeps.createSnapshot_dr {post : α → View → Prop} {rest : Unit → Task α}
    (halways : always v)
    (hrest : ∀ folder folder', v.dr = some folder → folder.createSnapshot? name = some folder' →
      Keeps always rejected post (rest ()) { v with dr := some folder' }) :
    Keeps always rejected post (createSnapshot .dr name >>= rest) v := by
  apply Keeps.call halways
  intro answer after h
  obtain ⟨folder, folder', hdr, hcreate, rfl⟩ := Answered.createSnapshot_dr h
  exact hrest folder folder' hdr hcreate

theorem Keeps.deleteSnapshot {post : α → View → Prop} {rest : Unit → Task α}
    (halways : always v) (hrest : Keeps always rejected post (rest ()) (v.drop site name)) :
    Keeps always rejected post (deleteSnapshot site name >>= rest) v := by
  apply Keeps.call halways
  intro answer after h
  obtain rfl := Answered.deleteSnapshot h
  exact hrest

theorem keeps_getLatestSnapshotNumber {post : Int → View → Prop}
    (halways : always v) (hpost : post (v.latest site) v) :
    Keeps always rejected post (getLatestSnapshotNumber site) v := by
  unfold getLatestSnapshotNumber
  apply Keeps.checkForPath halways
  intro sites found hview hfound
  split
  · case isTrue hnot =>
    refine ⟨halways, ?_⟩
    have hnone : sites.treeAt site .snapshots = none := by simpa [hfound] using hnot
    have hempty := treeAt_snapshots_none hnone
    rw [hview] at hempty
    have hlatest : v.latest site = -1 := by
      rw [View.latest, View.names, hempty]
      rfl
    rw [hlatest] at hpost
    exact hpost
  · apply Keeps.list halways
    intro sites' tree hview' htree
    refine ⟨halways, ?_⟩
    rw [treeAt_snapshots_some htree, hview']
    exact hpost

theorem Keeps.getLatestSnapshotNumber {post : α → View → Prop} {rest : Int → Task α}
    (halways : always v) (hrest : Keeps always rejected post (rest (v.latest site)) v) :
    Keeps always rejected post (getLatestSnapshotNumber site >>= rest) v := by
  apply Meets.bind
  apply keeps_getLatestSnapshotNumber halways
  exact hrest

inductive Prepares (v : View) : Branch → View → Prop where
  | first (tree : Tree) (folder : Folder) (hmain : v.latest .main = -1)
      (hdr : v.latest .dr = -1) (hfolder : v.dr = some folder) (hempty : folder.tree = []) :
      Prepares v (.initializeFolder ⟨.main, .snapshot (snapshotName 1)⟩ ⟨.dr, .folder⟩)
        (v.addMain (snapshotName 1) tree)
  | again (tree : Tree) (folder : Folder) (n : Nat) (hmain : v.latest .main = n)
      (hdr : v.latest .dr = -1) (hfolder : v.dr = some folder) (hempty : folder.tree = []) :
      Prepares v (.initializeFolder ⟨.main, .snapshot (snapshotName n)⟩ ⟨.dr, .folder⟩)
        ((v.drop .main (snapshotName n)).addMain (snapshotName n) tree)
  | update (tree : Tree) (n : Nat) (hmain : v.latest .main = n) (hdr : v.latest .dr = n) :
      Prepares v
        (.updateFolder (snapshotName n) (snapshotName (n + 1 : Nat)) ⟨.main, .folder⟩
          ⟨.dr, .folder⟩)
        (v.addMain (snapshotName (n + 1 : Nat)) tree)

theorem Prepares.latest {after : View} {branch : Branch} (h : Prepares v branch after) :
    ∃ n : Nat, after.latest .main = n ∧ after.latest .dr < n := by
  cases h with
  | first tree folder hmain hdr hfolder hempty =>
    have hlatest : (v.addMain (snapshotName (1 : Nat)) tree).latest .main = (1 : Nat) :=
      View.latest_addMain tree (by omega)
    refine ⟨1, hlatest, ?_⟩
    change v.latest .dr < (1 : Nat)
    omega
  | again tree folder n hmain hdr hfolder hempty =>
    have hsubset := View.names_drop_subset v (snapshotName n) .main .main
    have hle : (v.drop .main (snapshotName n)).latest .main ≤ n :=
      le_of_le_of_eq (latestNumber_le_of_subset hsubset) hmain
    refine ⟨n, View.latest_addMain tree hle, ?_⟩
    change v.latest .dr < n
    omega
  | update tree n hmain hdr =>
    refine ⟨n + 1, View.latest_addMain tree (by omega), ?_⟩
    change v.latest .dr < (n + 1 : Nat)
    omega

theorem Prepares.targetFolder {after : View} {branch : Branch} (h : Prepares v branch after) :
    branch.targetFolder = ⟨.dr, .folder⟩ := by
  cases h <;> rfl

theorem keeps_checkFolderState {post : Branch → View → Prop} (halways : always v)
    (hdrop : ∀ n : Nat, v.latest .main = n → v.latest .dr = -1 →
      always (v.drop .main (snapshotName n)))
    (hprepares : ∀ branch after, Prepares v branch after → always after ∧ post branch after) :
    Keeps always rejected post checkFolderState v := by
  unfold checkFolderState
  apply Keeps.checkForPath halways
  intro _ _ _ _
  split
  · exact Keeps.valueError halways (by decide)
  apply Keeps.checkForPath halways
  intro _ _ _ _
  split
  · exact Keeps.valueError halways (by decide)
  apply Keeps.getLatestSnapshotNumber halways
  apply Keeps.getLatestSnapshotNumber halways
  split
  · case isTrue hmain =>
    apply Keeps.list halways
    intro sites tree hview htree
    split
    · exact Keeps.valueError halways (by decide)
    · case isFalse hempty =>
      obtain ⟨folder, hfolder, rfl⟩ := treeAt_dr_folder htree
      simp only [List.length_map, not_or, Nat.not_lt, Nat.le_zero, List.length_eq_zero_iff,
        not_not] at hempty
      rw [hview] at hfolder
      apply Keeps.createSnapshot_main halways
      intro tree _
      exact hprepares _ _ (.first tree folder hmain hempty.2 hfolder hempty.1)
  · case isFalse hmain =>
    obtain hnone | ⟨n, hn⟩ := latestNumber_cases (v.names .main)
    · exact absurd hnone hmain
    change v.latest .main = n at hn
    rw [hn]
    split
    · case isTrue hdr =>
      apply Keeps.list halways
      intro sites tree hview htree
      split
      · exact Keeps.valueError halways (by decide)
      · case isFalse hempty =>
        obtain ⟨folder, hfolder, rfl⟩ := treeAt_dr_folder htree
        simp only [List.length_map, Nat.not_lt, Nat.le_zero, List.length_eq_zero_iff] at hempty
        rw [hview] at hfolder
        apply Keeps.warning halways
        apply Keeps.deleteSnapshot halways
        apply Keeps.createSnapshot_main (hdrop n hn hdr)
        intro tree _
        exact hprepares _ _ (.again tree folder n hn hdr hfolder hempty)
    · split
      · exact Keeps.valueError halways (by decide)
      · case isFalse hsame =>
        apply Keeps.createSnapshot_main halways
        intro tree _
        exact hprepares _ _ (.update tree n hn (not_not.mp hsame).symm)

inductive Confirms (v : View) : View → Prop where
  | created (folder folder' : Folder) (hdr : v.dr = some folder)
      (hcreate : folder.createSnapshot? (snapshotName (v.latest .main)) = some folder') :
      Confirms v { v with dr := some folder' }

theorem Confirms.names_main {after : View} (h : Confirms v after) :
    after.names .main = v.names .main := by
  cases h
  rfl

theorem Confirms.names_dr {after : View} (h : Confirms v after) :
    after.names .dr = v.names .dr ++ [snapshotName (v.latest .main)] := by
  cases h with
  | created folder folder' hdr hcreate =>
    obtain ⟨-, -, hsnapshots⟩ := createSnapshot?_eq_some hcreate
    simp [View.names, View.snapshots, snapshotsOf, hdr, hsnapshots]

theorem Confirms.latest {after : View} (h : Confirms v after) {n : Nat}
    (hmain : v.latest .main = n) (hdr : v.latest .dr ≤ n) :
    after.latest .main = n ∧ after.latest .dr = n := by
  constructor
  · rw [View.latest, h.names_main]
    exact hmain
  · rw [View.latest, h.names_dr, hmain]
    exact latestNumber_append hdr

theorem keeps_removePrevious {post : Unit → View → Prop} {latest : Int}
    (halways : always v)
    (hafter : always (v.withoutPrevious site latest) ∧ post () (v.withoutPrevious site latest)) :
    Keeps always rejected post (removePrevious site latest) v := by
  unfold removePrevious
  apply Keeps.checkForPath halways
  intro sites found hview hfound
  split
  · change Keeps always rejected post (deleteSnapshot site _ >>= .pure) v
    exact Keeps.deleteSnapshot halways hafter
  · case isFalse hnot =>
    have hnone : sites.treeAt site (.snapshot (snapshotName (latest - 1))) = none := by
      simpa [hfound] using hnot
    rw [treeAt_snapshot, hview] at hnone
    rw [View.withoutPrevious, View.drop_of_lookup hnone] at hafter
    exact hafter

theorem keeps_compareCount {post : Unit → View → Prop} {field : String}
    {mainCount drCount : Nat} (halways : always v) (hpost : post () v) :
    Keeps always rejected post (compareCount field mainCount drCount) v := by
  unfold compareCount
  split
  · change Keeps always rejected post (warning _ >>= .pure) v
    exact Keeps.warning halways ⟨halways, hpost⟩
  · exact ⟨halways, hpost⟩

theorem keeps_compareContents {post : Unit → View → Prop} {main dr : ContentSummary}
    (halways : always v) (hpost : post () v) :
    Keeps always rejected post (compareContents main dr) v := by
  unfold compareContents
  apply Meets.bind
  apply keeps_compareCount halways
  apply Meets.bind
  apply keeps_compareCount halways
  exact keeps_compareCount halways hpost

theorem keeps_validateDistcpSuccessful {post : Unit → View → Prop} (halways : always v)
    (hconfirms : ∀ after, Confirms v after →
      always after ∧ rejected after ∧ always (after.withoutPrevious .main (v.latest .main)) ∧
      always ((after.withoutPrevious .main (v.latest .main)).withoutPrevious .dr
        (v.latest .main)) ∧
      post () ((after.withoutPrevious .main (v.latest .main)).withoutPrevious .dr
        (v.latest .main))) :
    Keeps always rejected post validateDistcpSuccessful v := by
  unfold validateDistcpSuccessful
  apply Keeps.getLatestSnapshotNumber halways
  apply Keeps.createSnapshot_dr halways
  intro folder folder' hdr hcreate
  obtain ⟨hafter, hrejected, hmain, hboth, hpost⟩ :=
    hconfirms _ (.created folder folder' hdr hcreate)
  apply Keeps.list hafter
  intro _ _ _ _
  apply Keeps.list hafter
  intro _ _ _ _
  split
  · exact ⟨hafter, fun _ => hrejected⟩
  apply Keeps.content hafter
  intro _
  apply Keeps.content hafter
  intro _
  apply Meets.bind
  apply keeps_compareContents hafter
  apply Meets.bind
  apply keeps_removePrevious hafter
  refine ⟨hmain, ?_⟩
  exact keeps_removePrevious hmain ⟨hboth, hpost⟩

end Tasks

end QubershipAirflow.DrSync
