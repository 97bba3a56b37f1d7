import QubershipAirflow.DrSync.TaskContracts

/-! Runs of a task some of whose calls fail: refused before they take effect, or lost
after it. One rule for each call says how a run that starts with it can end. -/
namespace QubershipAirflow.DrSync

open Programs Program

abbrev Ends (fates : Op → Fate) (task : Task α) (sites : Sites) (result : Except Failure α)
    (after : Sites) : Prop :=
  task.runUnder hdfs fates .hdfs sites = (result, after)

theorem ends_answered_iff {task : Task α} {sites after : Sites} {result : Except Failure α} :
    Ends (fun _ => .answered) task sites result after ↔
      task.run hdfs sites = (result, after) := by
  rw [Ends, runUnder_answered]

/-- The task raises and has changed nothing since. -/
structure Stops (sites : Sites) (result : Except Failure α) (after : Sites) : Prop where
  raises : ∃ raised, result = .error raised
  same : after = sites

section Answers

variable {sites : Sites} {site : Site} {path : Path}

theorem readTree_error_none {read : Tree → α} {failure : Failure}
    (h : readTree sites site path read = .error failure) : sites.treeAt site path = none := by
  unfold readTree at h
  split at h
  · cases h
  · assumption

theorem changed_error_none {change : Folder → Option Folder} {failure : Failure}
    (h : changed sites site change = .error failure) :
    (sites.folder site).bind change = none := by
  unfold changed at h
  split at h
  · cases h
  · assumption

end Answers

section Calls

variable {fates : Op → Fate} {sites after : Sites} {site : Site} {path : Path} {name : String}
  {result : Except Failure α}

theorem Ends.checkForPath {rest : Bool → Task α}
    (h : Ends fates (checkForPath site path >>= rest) sites result after) :
    Stops sites result after ∧ fates (.checkForPath site path) ≠ .answered ∨
      fates (.checkForPath site path) = .answered ∧
        Ends fates (rest (sites.treeAt site path).isSome) sites result after := by
  obtain ⟨raised, hresult, hafter, hfate⟩ | ⟨answer, hfate, hserver, hrest⟩ :=
    runUnder_read (by intro answer mid hserver; cases hserver; rfl) h
  · exact .inl ⟨⟨⟨raised, hresult⟩, hafter⟩,
      fun hanswered => by cases (hfate hanswered).choose_spec⟩
  · cases hserver
    exact .inr ⟨hfate, hrest⟩

theorem Ends.list {rest : List String → Task α}
    (h : Ends fates (list site path >>= rest) sites result after) :
    (Stops sites result after ∧
        (fates (.list site path) = .answered → sites.treeAt site path = none)) ∨
      fates (.list site path) = .answered ∧ ∃ tree, sites.treeAt site path = some tree ∧
        Ends fates (rest (tree.map Prod.fst)) sites result after := by
  obtain ⟨raised, hresult, hafter, hfate⟩ | ⟨answer, hfate, hserver, hrest⟩ :=
    runUnder_read (fun _ _ hserver => (readTree_eq_ok hserver).1) h
  · exact .inl ⟨⟨⟨raised, hresult⟩, hafter⟩, fun hanswered =>
      readTree_error_none (hfate hanswered).choose_spec⟩
  · obtain ⟨-, tree, htree, rfl⟩ := readTree_eq_ok hserver
    exact .inr ⟨hfate, tree, htree, hrest⟩

theorem Ends.content {rest : ContentSummary → Task α}
    (h : Ends fates (content site path >>= rest) sites result after) :
    (Stops sites result after ∧
        (fates (.content site path) = .answered → sites.treeAt site path = none)) ∨
      fates (.content site path) = .answered ∧ ∃ tree, sites.treeAt site path = some tree ∧
        Ends fates (rest (Node.contents tree)) sites result after := by
  obtain ⟨raised, hresult, hafter, hfate⟩ | ⟨answer, hfate, hserver, hrest⟩ :=
    runUnder_read (fun _ _ hserver => (readTree_eq_ok hserver).1) h
  · exact .inl ⟨⟨⟨raised, hresult⟩, hafter⟩, fun hanswered =>
      readTree_error_none (hfate hanswered).choose_spec⟩
  · obtain ⟨-, tree, htree, rfl⟩ := readTree_eq_ok hserver
    exact .inr ⟨hfate, tree, htree, hrest⟩

theorem Ends.warning {message : String} {rest : Unit → Task α}
    (h : Ends fates (warning message >>= rest) sites result after) :
    Stops sites result after ∧ fates (.warning message) ≠ .answered ∨
      Ends fates (rest ()) sites result after := by
  obtain ⟨raised, hresult, hafter, hfate⟩ | ⟨answer, -, hserver, hrest⟩ :=
    runUnder_read (by intro answer mid hserver; cases hserver; rfl) h
  · exact .inl ⟨⟨⟨raised, hresult⟩, hafter⟩,
      fun hanswered => by cases (hfate hanswered).choose_spec⟩
  · exact .inr hrest

theorem Ends.seq {first : Task α} {rest : α → Task β} {result : Except Failure β}
    (h : Ends fates (first >>= rest) sites result after) :
    (∃ raised, result = .error raised ∧ Ends fates first sites (.error raised) after) ∨
      ∃ value mid, Ends fates first sites (.ok value) mid ∧
        Ends fates (rest value) mid result after :=
  runUnder_bind h

theorem Ends.getLatestSnapshotNumber {rest : Int → Task α}
    (h : Ends fates (getLatestSnapshotNumber site >>= rest) sites result after) :
    Stops sites result after ∧ (fates (.checkForPath site .snapshots) = .answered →
        fates (.list site .snapshots) ≠ .answered) ∨
      fates (.checkForPath site .snapshots) = .answered ∧
        ((sites.treeAt site .snapshots).isSome → fates (.list site .snapshots) = .answered) ∧
        Ends fates (rest (sites.view.latest site)) sites result after := by
  obtain ⟨hstops, hfate⟩ | ⟨hfate, h⟩ := Ends.checkForPath h
  · exact .inl ⟨hstops, fun hanswered => absurd hanswered hfate⟩
  · cases htree : sites.treeAt site .snapshots with
    | none =>
      rw [htree] at h
      have hlatest : sites.view.latest site = -1 := by
        rw [View.latest, View.names, treeAt_snapshots_none htree]
        rfl
      rw [hlatest]
      exact .inr ⟨hfate, by simp, h⟩
    | some tree =>
      rw [htree] at h
      obtain ⟨hstops, hlist⟩ | ⟨hlist, tree', htree', h⟩ := Ends.list h
      · refine .inl ⟨hstops, fun _ hanswered => ?_⟩
        rw [htree] at hlist
        cases hlist hanswered
      · rw [treeAt_snapshots_some htree'] at h
        exact .inr ⟨hfate, fun _ => hlist, h⟩

theorem Ends.createSnapshot {rest : Unit → Task α}
    (h : Ends fates (createSnapshot site name >>= rest) sites result after) :
    (Stops sites result after ∧ (fates (.createSnapshot site name) ≠ .refused →
        (sites.folder site).bind (·.createSnapshot? name) = none)) ∨
      ∃ folder folder', sites.folder site = some folder ∧
        folder.createSnapshot? name = some folder' ∧
        (Stops (sites.setFolder site folder') result after ∧
            fates (.createSnapshot site name) = .lost ∨
          fates (.createSnapshot site name) = .answered ∧
            Ends fates (rest ()) (sites.setFolder site folder') result after) := by
  obtain ⟨raised, hresult, hafter, hfate⟩ | ⟨raised, answer, hresult, hlost, hserver⟩ |
    ⟨answer, mid, hfate, hserver, hrest⟩ := runUnder_call h
  · exact .inl ⟨⟨⟨raised, hresult⟩, hafter⟩, fun hne =>
      changed_error_none (hfate hne).choose_spec⟩
  · obtain ⟨folder, folder', hfolder, hcreate, hafter⟩ := changed_eq_ok hserver
    exact .inr ⟨folder, folder', hfolder, hcreate, .inl ⟨⟨⟨raised, hresult⟩, hafter⟩, hlost⟩⟩
  · obtain ⟨folder, folder', hfolder, hcreate, rfl⟩ := changed_eq_ok hserver
    exact .inr ⟨folder, folder', hfolder, hcreate, .inr ⟨hfate, hrest⟩⟩

theorem Ends.deleteSnapshot {rest : Unit → Task α}
    (h : Ends fates (deleteSnapshot site name >>= rest) sites result after) :
    (Stops sites result after ∧ (fates (.deleteSnapshot site name) ≠ .refused →
        (sites.folder site).bind (·.deleteSnapshot? name) = none)) ∨
      ∃ folder folder', sites.folder site = some folder ∧
        folder.deleteSnapshot? name = some folder' ∧
        (Stops (sites.setFolder site folder') result after ∧
            fates (.deleteSnapshot site name) = .lost ∨
          fates (.deleteSnapshot site name) = .answered ∧
            Ends fates (rest ()) (sites.setFolder site folder') result after) := by
  obtain ⟨raised, hresult, hafter, hfate⟩ | ⟨raised, answer, hresult, hlost, hserver⟩ |
    ⟨answer, mid, hfate, hserver, hrest⟩ := runUnder_call h
  · exact .inl ⟨⟨⟨raised, hresult⟩, hafter⟩, fun hne =>
      changed_error_none (hfate hne).choose_spec⟩
  · obtain ⟨folder, folder', hfolder, hdelete, hafter⟩ := changed_eq_ok hserver
    exact .inr ⟨folder, folder', hfolder, hdelete, .inl ⟨⟨⟨raised, hresult⟩, hafter⟩, hlost⟩⟩
  · obtain ⟨folder, folder', hfolder, hdelete, rfl⟩ := changed_eq_ok hserver
    exact .inr ⟨folder, folder', hfolder, hdelete, .inr ⟨hfate, hrest⟩⟩

end Calls

section Views

variable {sites : Sites} {folder folder' : Folder} {name : String}

theorem view_created (hfolder : sites.folder .main = some folder)
    (hcreate : folder.createSnapshot? name = some folder') :
    (sites.setFolder .main folder').view = sites.view.addMain name folder.tree := by
  obtain ⟨-, -, hsnapshots⟩ := createSnapshot?_eq_some hcreate
  have hmain : sites.main = some folder := hfolder
  simp [Sites.view, Sites.setFolder, View.addMain, snapshotsOf, hmain, hsnapshots]

theorem view_deleted {site : Site} (hfolder : sites.folder site = some folder)
    (hdelete : folder.deleteSnapshot? name = some folder') :
    (sites.setFolder site folder').view = sites.view.drop site name := by
  have hserver : changed sites site (·.deleteSnapshot? name) =
      .ok ((), sites.setFolder site folder') := by
    simp [changed, hfolder, hdelete]
  exact Answered.deleteSnapshot ⟨sites, _, rfl, hserver, rfl⟩

theorem createSnapshot?_deleted (hdelete : folder.deleteSnapshot? name = some folder') :
    ∃ renewed, folder'.createSnapshot? name = some renewed := by
  obtain ⟨tree, htree, rfl⟩ := Option.map_eq_some_iff.mp hdelete
  have hallowed : (folder.dropSnapshot name).snapshottable = true := by
    refine folder.allowed fun hnil => ?_
    simp [hnil] at htree
  have hgone : (folder.dropSnapshot name).snapshots.lookup name = none := by
    rw [List.lookup_eq_none_iff]
    intro entry hentry
    have hne : entry.1 ≠ name := of_decide_eq_true (List.mem_filter.mp hentry).2
    simpa using Ne.symm hne
  unfold Folder.createSnapshot?
  rw [dif_pos hallowed, hgone]
  exact ⟨_, rfl⟩

end Views

end QubershipAirflow.DrSync
