import QubershipAirflow.DrSync.Undisturbed

/-! The latest number and the name that the other steps print for it. A listed name may
spell a number that no step ever looks for, such as `snapshot_007`. -/
namespace QubershipAirflow.DrSync

open Programs

section Names

variable {names : List String} {n : Nat}

def AtMost (names : List String) (n : Nat) : Prop :=
  ∀ name ∈ names, ∀ m, snapshotNumber? name = some m → m ≤ n

theorem latestNumber_eq_neg_one_iff :
    latestNumber names = -1 ↔ ∀ name ∈ names, snapshotNumber? name = none := by
  rw [latestNumber_eq_neg_one, List.filterMap_eq_nil_iff]

theorem latestNumber_eq_natCast_iff :
    latestNumber names = n ↔
      (∃ name ∈ names, snapshotNumber? name = some n) ∧ AtMost names n := by
  rw [latestNumber_eq_natCast, List.mem_filterMap]
  refine and_congr_right fun _ => ⟨fun hmax name hname m hm => ?_, fun hmax m hm => ?_⟩
  · exact hmax m (List.mem_filterMap.2 ⟨name, hname, hm⟩)
  · obtain ⟨name, hname, hnumber⟩ := List.mem_filterMap.1 hm
    exact hmax name hname m hnumber

def Printed (names : List String) : Prop :=
  ∀ name ∈ names, ∀ n, snapshotNumber? name = some n →
    snapshotName n ∈ names ∨ ∃ other ∈ names, ∃ m, snapshotNumber? other = some m ∧ n < m

/-- The latest number means a snapshot of the printed name exactly for such listings. -/
theorem latestNumber_printed_iff (names : List String) :
    (∀ n : Nat, latestNumber names = n ↔ snapshotName n ∈ names ∧ AtMost names n) ↔
      Printed names := by
  constructor
  · intro hlatest name hname n hn
    by_cases hmax : AtMost names n
    · have hnumber := latestNumber_eq_natCast_iff.2 ⟨⟨name, hname, hn⟩, hmax⟩
      exact .inl ((hlatest n).1 hnumber).1
    · simp only [AtMost, not_forall, Nat.not_le] at hmax
      obtain ⟨other, hother, m, hm, hlarger⟩ := hmax
      exact .inr ⟨other, hother, m, hm, hlarger⟩
  · intro hprinted n
    rw [latestNumber_eq_natCast_iff]
    refine and_congr_left fun hmax => ⟨?_, fun hname => ?_⟩
    · rintro ⟨name, hname, hn⟩
      obtain hthere | ⟨other, hother, m, hm, hlarger⟩ := hprinted name hname n hn
      · exact hthere
      · exact absurd (hmax other hother m hm) (by omega)
    · exact ⟨snapshotName n, hname, snapshotNumber?_snapshotName n⟩

end Names

section Tasks

variable {sites : Sites} {site : Site}

theorem run_latestNumber (sites : Sites) (site : Site) :
    (getLatestSnapshotNumber site).run hdfs sites =
      (.ok (latestNumber (sites.view.names site)), sites) := by
  unfold getLatestSnapshotNumber
  cases htree : sites.treeAt site .snapshots with
  | none =>
    have hnames : sites.view.names site = [] := by
      rw [View.names, treeAt_snapshots_none htree]
      rfl
    rw [hnames, latestNumber_nil]
    change (if ¬ (sites.treeAt site .snapshots).isSome = true then _ else _ : Task Int).run
      hdfs sites = _
    rw [htree]
    rfl
  | some tree =>
    rw [run_checkForPath (by rw [htree]; rfl)]
    simp only [not_true_eq_false, if_false]
    rw [run_list htree, treeAt_snapshots_some htree]
    rfl

/-- What the task returns names a snapshot that is there, exactly when the greatest number
of the listing stands in it in plain decimal. -/
theorem getLatestSnapshotNumber_iff (sites : Sites) (site : Site) :
    ∃ latest : Int, (getLatestSnapshotNumber site).run hdfs sites = (.ok latest, sites) ∧
      (((∀ n : Nat, latest = n ↔ snapshotName n ∈ sites.view.names site ∧
            AtMost (sites.view.names site) n) ∧
          (latest = -1 ↔ ∀ name ∈ sites.view.names site, snapshotNumber? name = none)) ↔
        Printed (sites.view.names site)) := by
  refine ⟨_, run_latestNumber sites site, ?_⟩
  rw [and_iff_left latestNumber_eq_neg_one_iff]
  exact latestNumber_printed_iff _

/-- Where the printed name is missing, a first copy ends at the deletion of a snapshot that
nobody has. -/
theorem checkFolderState_of_unprinted {n : Nat} {dr : Folder}
    (hmain : sites.view.latest .main = n) (hmissing : snapshotName n ∉ sites.view.names .main)
    (hfolder : sites.folder .dr = some dr) (hempty : dr.tree = [])
    (hdr : sites.view.latest .dr = -1) :
    checkFolderState.run hdfs sites = (.error .hdfs, sites) := by
  obtain ⟨main, hmainFolder, -⟩ := exists_folder_of_latest hmain
  have hmainRun := run_latestNumber sites .main
  have hdrRun := run_latestNumber sites .dr
  have hdrTree : sites.treeAt .dr .folder = some [] := by
    simp [Sites.treeAt, hfolder, Folder.treeAt, hempty]
  have hdelete : hdfs (.deleteSnapshot .main (snapshotName n)) sites = .error .hdfs := by
    have hlookup : main.snapshots.lookup (snapshotName n) = none := by
      have h := lookup_eq_none.mpr hmissing
      rwa [snapshotsOf_eq, hmainFolder] at h
    have hgone : (sites.folder .main).bind (·.deleteSnapshot? (snapshotName n)) = none := by
      rw [hmainFolder, Option.bind_some, Folder.deleteSnapshot?, hlookup]
      rfl
    change changed sites .main _ = _
    unfold changed
    rw [hgone]
    rfl
  unfold checkFolderState
  rw [run_checkForPath (by simp [Sites.treeAt, hmainFolder, Folder.treeAt])]
  simp only [not_true_eq_false, if_false]
  rw [run_checkForPath (by simp [hdrTree])]
  simp only [not_true_eq_false, if_false]
  rw [Program.run_bind_ok hdfs hmainRun, Program.run_bind_ok hdfs hdrRun]
  rw [View.latest] at hmain hdr
  rw [hmain, hdr, if_neg (by omega), if_pos rfl, run_list hdrTree]
  simp only [List.map_nil, List.length_nil, Nat.lt_irrefl, if_false]
  change (deleteSnapshot .main (snapshotName n) >>= _).run hdfs sites = _
  change Program.run hdfs (.call (.deleteSnapshot .main (snapshotName n)) _) sites = _
  rw [Program.run_call, hdelete]

end Tasks

def paddedSites : Sites where
  main := some ⟨[], true, [("snapshot_007", [])], fun _ => rfl⟩
  dr := some ⟨[], true, [], fun _ => rfl⟩

theorem run_paddedSites :
    (getLatestSnapshotNumber .main).run hdfs paddedSites = (.ok 7, paddedSites) := by
  have hseven : snapshotNumber? "snapshot_007" = some 7 := by decide +kernel
  rw [run_latestNumber]
  change (Except.ok (latestNumber ["snapshot_007"]), _) = _
  rw [latestNumber, List.filterMap_cons_some hseven]
  rfl

/-- The task returns 7, and `snapshot_7` is not there. -/
theorem getLatestSnapshotNumber_padded :
    ¬ ∀ (sites : Sites) (site : Site) (latest : Int),
      (getLatestSnapshotNumber site).run hdfs sites = (.ok latest, sites) →
      (∀ n : Nat, latest = n ↔ snapshotName n ∈ sites.view.names site ∧
          AtMost (sites.view.names site) n) ∧
        (latest = -1 ↔ ∀ name ∈ sites.view.names site, snapshotNumber? name = none) := by
  intro hprinted
  have hmissing : snapshotName (7 : Nat) ∉ paddedSites.view.names .main := by decide +kernel
  exact hmissing (((hprinted paddedSites .main 7 run_paddedSites).1 7).1 rfl).1

end QubershipAirflow.DrSync
