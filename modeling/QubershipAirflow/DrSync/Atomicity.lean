import QubershipAirflow.DrSync.FailingCalls

/-! What `check_folder_state` leaves when it raises. Its checks come before the calls
that change snapshots; only the renewal of main's latest snapshot takes two such calls. -/
namespace QubershipAirflow.DrSync

open Programs Program

/-- The snapshots after `check_folder_state` has raised. A lost call has had its effect,
on main's content of that moment; a refused creation finds the snapshot that it was to
renew deleted. -/
inductive Leaves (fates : Op → Fate) (sites : Sites) : View → Prop where
  | untouched : Leaves fates sites sites.view
  | first {main dr : Folder} (hmain : sites.main = some main) (hdr : sites.dr = some dr)
      (hempty : dr.tree = []) (hmainLatest : sites.view.latest .main = -1)
      (hdrLatest : sites.view.latest .dr = -1)
      (hfresh : main.snapshots.lookup (snapshotName 1) = none)
      (lost : fates (.createSnapshot .main (snapshotName 1)) = .lost) :
      Leaves fates sites (sites.view.addMain (snapshotName 1) main.tree)
  | next {n : Nat} {main : Folder} (hmain : sites.main = some main)
      (hmainLatest : sites.view.latest .main = n) (hdrLatest : sites.view.latest .dr = n)
      (hfresh : main.snapshots.lookup (snapshotName (n + 1)) = none)
      (lost : fates (.createSnapshot .main (snapshotName (n + 1))) = .lost) :
      Leaves fates sites (sites.view.addMain (snapshotName (n + 1)) main.tree)
  | deleted {n : Nat} {dr : Folder} (hdr : sites.dr = some dr) (hempty : dr.tree = [])
      (hmainLatest : sites.view.latest .main = n) (hdrLatest : sites.view.latest .dr = -1)
      (failed : fates (.deleteSnapshot .main (snapshotName n)) = .lost ∨
        fates (.createSnapshot .main (snapshotName n)) = .refused) :
      Leaves fates sites (sites.view.drop .main (snapshotName n))
  | renewed {n : Nat} {main dr : Folder} (hmain : sites.main = some main)
      (hdr : sites.dr = some dr) (hempty : dr.tree = [])
      (hmainLatest : sites.view.latest .main = n) (hdrLatest : sites.view.latest .dr = -1)
      (lost : fates (.createSnapshot .main (snapshotName n)) = .lost) :
      Leaves fates sites
        ((sites.view.drop .main (snapshotName n)).addMain (snapshotName n) main.tree)

section Raised

variable {fates : Op → Fate} {sites after : Sites} {raised : Failure}

theorem leaves_created {name : String} {branch : Branch}
    (hlost : ∀ main, sites.main = some main → main.snapshots.lookup name = none →
      fates (.createSnapshot .main name) = .lost →
      Leaves fates sites (sites.view.addMain name main.tree))
    (h : Ends fates (createSnapshot .main name >>= fun _ => .pure branch) sites
      (.error raised) after) : Leaves fates sites after.view := by
  obtain ⟨⟨-, rfl⟩, -⟩ | ⟨main, main', hmain, hcreate, ⟨⟨-, rfl⟩, lost⟩ | ⟨-, h⟩⟩ :=
    Ends.createSnapshot h
  · exact .untouched
  · rw [view_created hmain hcreate]
    exact hlost main hmain (createSnapshot?_eq_some hcreate).1 lost
  · cases h

theorem leaves_renewed {n : Nat} {dr : Folder} {branch : Branch}
    (hdr : sites.dr = some dr) (hempty : dr.tree = [])
    (hmainLatest : sites.view.latest .main = n) (hdrLatest : sites.view.latest .dr = -1)
    (h : Ends fates (deleteSnapshot .main (snapshotName n) >>= fun _ =>
      createSnapshot .main (snapshotName n) >>= fun _ => .pure branch) sites
      (.error raised) after) : Leaves fates sites after.view := by
  obtain ⟨⟨-, rfl⟩, -⟩ | ⟨main, main', hmain, hdelete, ⟨⟨-, rfl⟩, lost⟩ | ⟨-, h⟩⟩ :=
    Ends.deleteSnapshot h
  · exact .untouched
  · rw [view_deleted hmain hdelete]
    exact .deleted hdr hempty hmainLatest hdrLatest (.inl lost)
  · have hview := view_deleted hmain hdelete
    have hdeleted : (sites.setFolder .main main').folder .main = some main' := rfl
    obtain ⟨⟨-, rfl⟩, hfate⟩ |
      ⟨folder, renewed, hfolder, hcreate, ⟨⟨-, rfl⟩, lost⟩ | ⟨-, h⟩⟩ := Ends.createSnapshot h
    · rw [hview]
      refine .deleted hdr hempty hmainLatest hdrLatest (.inr ?_)
      by_contra hne
      obtain ⟨renewed, hrenewed⟩ := createSnapshot?_deleted hdelete
      have hnone : main'.createSnapshot? (snapshotName n) = none := hfate hne
      rw [hrenewed] at hnone
      cases hnone
    · rw [view_created hfolder hcreate, hview]
      have htree : folder.tree = main.tree := by
        obtain rfl : main' = folder := Option.some.inj (hdeleted.symm.trans hfolder)
        obtain ⟨_, -, rfl⟩ := Option.map_eq_some_iff.mp hdelete
        rfl
      rw [htree]
      exact .renewed hmain hdr hempty hmainLatest hdrLatest lost
    · cases h

theorem checkFolderState_leaves (h : Ends fates checkFolderState sites (.error raised) after) :
    Leaves fates sites after.view := by
  unfold checkFolderState at h
  obtain ⟨⟨-, rfl⟩, -⟩ | ⟨-, h⟩ := Ends.checkForPath h
  · exact .untouched
  split at h
  · cases h
    exact .untouched
  obtain ⟨⟨-, rfl⟩, -⟩ | ⟨-, h⟩ := Ends.checkForPath h
  · exact .untouched
  split at h
  · cases h
    exact .untouched
  obtain ⟨⟨-, rfl⟩, -⟩ | ⟨-, -, h⟩ := Ends.getLatestSnapshotNumber h
  · exact .untouched
  obtain ⟨⟨-, rfl⟩, -⟩ | ⟨-, -, h⟩ := Ends.getLatestSnapshotNumber h
  · exact .untouched
  split at h
  · case isTrue hmain =>
    obtain ⟨⟨-, rfl⟩, -⟩ | ⟨-, tree, htree, h⟩ := Ends.list h
    · exact .untouched
    split at h
    · cases h
      exact .untouched
    · case isFalse hchecks =>
      obtain ⟨dr, hdr, rfl⟩ := treeAt_dr_folder htree
      simp only [List.length_map, not_or, Nat.not_lt, Nat.le_zero, List.length_eq_zero_iff,
        not_not] at hchecks
      obtain ⟨hempty, hnone⟩ := hchecks
      exact leaves_created
        (fun _ hfolder hfresh lost => .first hfolder hdr hempty hmain hnone hfresh lost) h
  · case isFalse hmain =>
    obtain hnone | ⟨n, hn⟩ := latestNumber_cases (sites.view.names .main)
    · exact absurd hnone hmain
    change sites.view.latest .main = n at hn
    rw [hn] at h
    split at h
    · case isTrue hdr =>
      obtain ⟨⟨-, rfl⟩, -⟩ | ⟨-, tree, htree, h⟩ := Ends.list h
      · exact .untouched
      split at h
      · cases h
        exact .untouched
      · case isFalse hempty =>
        obtain ⟨folder, hfolder, rfl⟩ := treeAt_dr_folder htree
        simp only [List.length_map, Nat.not_lt, Nat.le_zero, List.length_eq_zero_iff] at hempty
        obtain ⟨⟨-, rfl⟩, -⟩ | h := Ends.warning h
        · exact .untouched
        · exact leaves_renewed hfolder hempty hn hdr h
    · split at h
      · cases h
        exact .untouched
      · case isFalse hsame =>
        exact leaves_created
          (fun _ hfolder hfresh lost => .next hfolder hn (not_not.mp hsame).symm hfresh lost) h

/-- A first copy that never finished: main has its snapshot, and the DR site nothing. -/
def unfinished : Sites where
  main := some ⟨[("part-0", .file [1, 2])], true, [("snapshot_1", [("part-0", .file [1])])],
    fun _ => rfl⟩
  dr := some ⟨[], true, [], fun _ => rfl⟩

def refusesCreation : Op → Fate
  | .createSnapshot .. => .refused
  | _ => .answered

def unrenewed : Sites := (checkFolderState.runUnder hdfs refusesCreation .hdfs unfinished).2

theorem renewal_refused :
    ∃ raised, Ends refusesCreation checkFolderState unfinished (.error raised) unrenewed := by
  cases hresult : (checkFolderState.runUnder hdfs refusesCreation .hdfs unfinished).1 with
  | error raised => exact ⟨raised, Prod.ext hresult rfl⟩
  | ok branch =>
    have hraised : (checkFolderState.runUnder hdfs refusesCreation .hdfs unfinished).1.isOk =
        false := by
      decide +kernel
    rw [hresult] at hraised
    cases hraised

theorem checkFolderState_leaves_unfinished :
    Leaves refusesCreation unfinished unrenewed.view := by
  obtain ⟨raised, hends⟩ := renewal_refused
  exact checkFolderState_leaves hends

theorem checkFolderState_deletes_snapshot :
    ¬ ∀ (fates : Op → Fate) (sites after : Sites) (raised : Failure),
      Ends fates checkFolderState sites (.error raised) after →
      ∀ site, after.view.snapshots site = sites.view.snapshots site := by
  intro h
  obtain ⟨raised, hends⟩ := renewal_refused
  have hnames : unrenewed.view.names .main = [] := by decide +kernel
  rw [View.names, h _ _ _ _ hends .main] at hnames
  exact absurd hnames (by decide)

end Raised

end QubershipAirflow.DrSync
