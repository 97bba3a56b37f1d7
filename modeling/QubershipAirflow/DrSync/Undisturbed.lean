import QubershipAirflow.DrSync.TaskContracts

/-! Tasks that nobody disturbs and no call fails: what they return, and that a history
can always go on like this. -/
namespace QubershipAirflow.DrSync

open Programs Runs

theorem reaches_return {phase : Task α → Phase}
    (hphase : ∀ task sites, (phase task).call sites =
      (task.advance hdfs sites).map fun (task, sites) => (sites, phase task))
    {task : Task α} {sites sites' : Sites} {value : α}
    (h : task.run hdfs sites = (.ok value, sites')) :
    Reaches State.step ⟨sites, phase task⟩ ⟨sites', phase (.pure value)⟩ := by
  induction task generalizing sites with
  | pure result =>
    cases h
    exact Reaches.refl _
  | throw failure => cases h
  | call op next ih =>
    rw [Program.run_call] at h
    cases hserver : hdfs op sites with
    | error failure => rw [hserver] at h; cases h
    | ok result =>
      rw [hserver] at h
      have hcall : State.step ⟨sites, phase (.call op next)⟩ .call =
          some ⟨result.2, phase (next result.1)⟩ := by
        simp only [State.step, hphase, Program.advance_call, hserver]
        rfl
      exact Reaches.head hcall (ih result.1 h)

theorem reaches_choice {task : Task Branch} {sites sites' : Sites} {branch : Branch}
    (h : task.run hdfs sites = (.ok branch, sites')) :
    Reaches State.step ⟨sites, .checking task⟩ ⟨sites', .copying branch⟩ :=
  (reaches_return (fun _ _ => rfl) h).trans ⟨[.next], rfl⟩

theorem reaches_completion {task : Task Unit} {sites sites' : Sites}
    (h : task.run hdfs sites = (.ok (), sites')) :
    Reaches State.step ⟨sites, .validating task⟩ ⟨sites', .idle (some .completed)⟩ :=
  (reaches_return (fun _ _ => rfl) h).trans ⟨[.next], rfl⟩

theorem run_checkForPath {rest : Bool → Task α} {sites : Sites} {site : Site} {path : Path}
    (h : (sites.treeAt site path).isSome = true) :
    (checkForPath site path >>= rest).run hdfs sites = (rest true).run hdfs sites := by
  change (rest (sites.treeAt site path).isSome).run hdfs sites = _
  rw [h]

theorem run_list {rest : List String → Task α} {sites : Sites} {site : Site} {path : Path}
    {tree : Tree} (h : sites.treeAt site path = some tree) :
    (list site path >>= rest).run hdfs sites = (rest (tree.map Prod.fst)).run hdfs sites := by
  apply Program.run_call_ok
  change readTree sites site path _ = _
  unfold readTree
  rw [h]

theorem exists_folder_of_latest {sites : Sites} {site : Site} {n : Nat}
    (h : sites.view.latest site = n) :
    ∃ folder, sites.folder site = some folder ∧ folder.snapshots ≠ [] := by
  rw [View.latest, View.names, snapshotsOf_eq] at h
  cases hfolder : sites.folder site with
  | none =>
    rw [hfolder] at h
    change (-1 : Int) = n at h
    omega
  | some folder =>
    refine ⟨folder, rfl, fun hnil => ?_⟩
    rw [hfolder] at h
    change latestNumber (folder.snapshots.map Prod.fst) = n at h
    rw [hnil] at h
    change (-1 : Int) = n at h
    omega

theorem run_getLatestSnapshotNumber {sites : Sites} {site : Site} {n : Nat}
    (h : sites.view.latest site = n) :
    (getLatestSnapshotNumber site).run hdfs sites = (.ok (n : Int), sites) := by
  obtain ⟨folder, hfolder, hsnapshots⟩ := exists_folder_of_latest h
  have hallowed := folder.allowed hsnapshots
  obtain ⟨tree, htree⟩ : ∃ tree, sites.treeAt site .snapshots = some tree := by
    simp [Sites.treeAt, hfolder, Folder.treeAt, hallowed]
  unfold getLatestSnapshotNumber
  rw [run_checkForPath (by rw [htree]; rfl)]
  simp only [not_true_eq_false, if_false]
  rw [run_list htree, treeAt_snapshots_some htree]
  rw [← h]
  rfl

theorem run_getLatestSnapshotNumber_bind {rest : Int → Task α} {sites : Sites} {site : Site}
    {n : Nat} (h : sites.view.latest site = n) :
    (getLatestSnapshotNumber site >>= rest).run hdfs sites = (rest n).run hdfs sites :=
  Program.run_bind_ok hdfs (run_getLatestSnapshotNumber h)

theorem run_content {rest : ContentSummary → Task α} {sites : Sites} {site : Site}
    {path : Path} {tree : Tree} (h : sites.treeAt site path = some tree) :
    (content site path >>= rest).run hdfs sites = (rest (Node.contents tree)).run hdfs sites := by
  apply Program.run_call_ok
  change readTree sites site path _ = _
  unfold readTree
  rw [h]

theorem run_createSnapshot {sites : Sites} {site : Site} {name : String} {folder : Folder}
    (rest : Unit → Task α) (hfolder : sites.folder site = some folder)
    (hsnapshots : folder.snapshots ≠ []) (hfresh : name ∉ sites.view.names site) :
    ∃ folder', folder.createSnapshot? name = some folder' ∧
      (createSnapshot site name >>= rest).run hdfs sites =
        (rest ()).run hdfs (sites.setFolder site folder') := by
  have hlookup : folder.snapshots.lookup name = none := by
    have h := lookup_eq_none.mpr hfresh
    rwa [snapshotsOf_eq, hfolder] at h
  have hcreate : ∃ folder', folder.createSnapshot? name = some folder' := by
    unfold Folder.createSnapshot?
    rw [dif_pos (folder.allowed hsnapshots), hlookup]
    exact ⟨_, rfl⟩
  obtain ⟨folder', hcreate⟩ := hcreate
  refine ⟨folder', hcreate, ?_⟩
  apply Program.run_call_ok
  change changed sites site _ = _
  unfold changed
  rw [hfolder, Option.bind_some, hcreate]
  rfl

theorem run_checkFolderState {sites : Sites} {n : Nat} (hmain : sites.view.latest .main = n)
    (hdr : sites.view.latest .dr = n) :
    ∃ sites' tree, checkFolderState.run hdfs sites =
        (.ok (.updateFolder (snapshotName n) (snapshotName (n + 1 : Nat))
          ⟨.main, .folder⟩ ⟨.dr, .folder⟩), sites') ∧
      sites'.view = sites.view.addMain (snapshotName (n + 1 : Nat)) tree := by
  obtain ⟨main, hmainFolder, hsnapshots⟩ := exists_folder_of_latest hmain
  obtain ⟨dr, hdrFolder, -⟩ := exists_folder_of_latest hdr
  have hfresh : snapshotName (n + 1 : Nat) ∉ sites.view.names .main := by
    apply snapshotName_not_mem
    change sites.view.latest .main < (n + 1 : Nat)
    omega
  obtain ⟨main', hcreate, hrun⟩ := run_createSnapshot (fun _ => Program.pure
    (Branch.updateFolder (snapshotName n) (snapshotName (n + 1 : Nat))
      ⟨.main, .folder⟩ ⟨.dr, .folder⟩)) hmainFolder hsnapshots hfresh
  refine ⟨sites.setFolder .main main', main.tree, ?_, ?_⟩
  · unfold checkFolderState
    rw [run_checkForPath (by simp [Sites.treeAt, hmainFolder, Folder.treeAt])]
    simp only [not_true_eq_false, if_false]
    rw [run_checkForPath (by simp [Sites.treeAt, hdrFolder, Folder.treeAt])]
    simp only [not_true_eq_false, if_false]
    rw [run_getLatestSnapshotNumber_bind hmain, run_getLatestSnapshotNumber_bind hdr]
    rw [if_neg (by omega), if_neg (by omega), if_neg (by simp)]
    exact hrun
  · obtain ⟨-, -, hsnapshots'⟩ := createSnapshot?_eq_some hcreate
    have hmainSite : sites.main = some main := hmainFolder
    simp [Sites.setFolder, Sites.view, View.addMain, snapshotsOf, hsnapshots', hmainSite]

theorem run_compareCount (field : String) (mainCount drCount : Nat) (sites : Sites) :
    (compareCount field mainCount drCount).run hdfs sites = (.ok (), sites) := by
  unfold compareCount
  split <;> rfl

theorem run_compareContents (mainContent drContent : ContentSummary) (sites : Sites) :
    (compareContents mainContent drContent).run hdfs sites = (.ok (), sites) := by
  unfold compareContents
  rw [Program.run_bind_ok hdfs (run_compareCount _ _ _ sites),
    Program.run_bind_ok hdfs (run_compareCount _ _ _ sites)]
  exact run_compareCount _ _ _ sites

theorem run_removePrevious (sites : Sites) (site : Site) (latest : Int) :
    ∃ sites', (removePrevious site latest).run hdfs sites = (.ok (), sites') ∧
      sites'.view = sites.view.withoutPrevious site latest := by
  unfold removePrevious
  cases hfound : sites.treeAt site (.snapshot (snapshotName (latest - 1))) with
  | none =>
    refine ⟨sites, ?_, ?_⟩
    · change (if (sites.treeAt site _).isSome = true then _ else _ : Task Unit).run hdfs sites = _
      rw [hfound]
      rfl
    · rw [treeAt_snapshot] at hfound
      exact (View.drop_of_lookup hfound).symm
  | some tree =>
    obtain ⟨folder, hfolder, hlookup⟩ := Option.bind_eq_some_iff.mp hfound
    have hdelete : hdfs (.deleteSnapshot site (snapshotName (latest - 1))) sites =
        .ok ((), sites.setFolder site (folder.dropSnapshot (snapshotName (latest - 1)))) := by
      have hlookup : folder.snapshots.lookup (snapshotName (latest - 1)) = some tree := hlookup
      change changed sites site _ = _
      unfold changed Folder.deleteSnapshot?
      rw [hfolder, Option.bind_some, hlookup]
      rfl
    refine ⟨_, ?_, Answered.deleteSnapshot ⟨sites, _, rfl, hdelete, rfl⟩⟩
    rw [run_checkForPath (by rw [hfound]; rfl)]
    exact Program.run_call_ok hdfs hdelete

theorem run_validateDistcpSuccessful {sites : Sites} {n : Nat} {dr : Folder} {tree : Tree}
    (hmain : sites.view.latest .main = n) (hdr : sites.dr = some dr)
    (hsnapshots : dr.snapshots ≠ []) (hfresh : snapshotName n ∉ sites.view.names .dr)
    (hmainTree : sites.view.main.lookup (snapshotName n) = some tree)
    (hlist : dr.tree.map Prod.fst = tree.map Prod.fst) :
    ∃ sites' after, validateDistcpSuccessful.run hdfs sites = (.ok (), sites') ∧
      Confirms sites.view after ∧
      sites'.view = (after.withoutPrevious .main n).withoutPrevious .dr n := by
  have hdrFolder : sites.folder .dr = some dr := hdr
  obtain ⟨dr', hcreate, hcreateRun⟩ := run_createSnapshot (fun _ => do
    let mainList ← list .main (.snapshot (snapshotName n))
    let drList ← list .dr (.snapshot (snapshotName n))
    if drList ≠ mainList then
      .throw listsDifferent
    else
    let mainContent ← content .main (.snapshot (snapshotName n))
    let drContent ← content .dr (.snapshot (snapshotName n))
    compareContents mainContent drContent
    removePrevious .main n
    removePrevious .dr n) hdrFolder hsnapshots hfresh
  have hmainAt : (sites.setFolder .dr dr').treeAt .main (.snapshot (snapshotName n)) =
      some tree := by
    rw [treeAt_snapshot]
    exact hmainTree
  have hdrAt : (sites.setFolder .dr dr').treeAt .dr (.snapshot (snapshotName n)) =
      some dr.tree := by
    obtain ⟨hnone, -, hsnapshots'⟩ := createSnapshot?_eq_some hcreate
    change dr'.snapshots.lookup (snapshotName n) = _
    rw [hsnapshots', List.lookup_append, hnone]
    simp
  have hconfirms : Confirms sites.view (sites.setFolder .dr dr').view :=
    .created dr dr' hdr (by rw [hmain]; exact hcreate)
  obtain ⟨sites₁, hrun₁, hview₁⟩ := run_removePrevious (sites.setFolder .dr dr') .main n
  obtain ⟨sites₂, hrun₂, hview₂⟩ := run_removePrevious sites₁ .dr n
  refine ⟨sites₂, _, ?_, hconfirms, by rw [hview₂, hview₁]⟩
  unfold validateDistcpSuccessful
  rw [run_getLatestSnapshotNumber_bind hmain, hcreateRun, run_list hmainAt, run_list hdrAt,
    if_neg (not_not.mpr hlist), run_content hmainAt, run_content hdrAt,
    Program.run_bind_ok hdfs (run_compareContents _ _ _), Program.run_bind_ok hdfs hrun₁]
  exact hrun₂

theorem reaches_validated {sites : Sites} {n : Nat} {dr : Folder} {tree : Tree}
    {base target : String} {source : Location} (hmain : sites.view.latest .main = n)
    (hdr : sites.dr = some dr) (hsnapshots : dr.snapshots ≠ [])
    (hfresh : snapshotName n ∉ sites.view.names .dr)
    (htree : sites.view.main.lookup (snapshotName n) = some tree) :
    ∃ sites' after, Reaches State.step
        ⟨sites, .copying (.updateFolder base target source ⟨.dr, .folder⟩)⟩
        ⟨sites', .idle (some .completed)⟩ ∧
      Confirms (sites.view.withDrTree tree) after ∧
      sites'.view = (after.withoutPrevious .main n).withoutPrevious .dr n := by
  have hcopied : sites.copied ⟨.dr, .folder⟩ tree =
      some (sites.setFolder .dr (dr.withTree tree)) := by
    simp [Sites.copied, Sites.folder, hdr]
  have hview := copied_dr hcopied
  have hmain' : (sites.setFolder .dr (dr.withTree tree)).view.latest .main = n := by
    rw [hview, View.latest_withDrTree]
    exact hmain
  have hfresh' : snapshotName n ∉ (sites.setFolder .dr (dr.withTree tree)).view.names .dr := by
    rw [hview, View.names_withDrTree]
    exact hfresh
  obtain ⟨sites', after, hvalidate, hconfirms, hafter⟩ :=
    run_validateDistcpSuccessful hmain' rfl hsnapshots hfresh' htree rfl
  have hstep : State.step ⟨sites, .copying (.updateFolder base target source ⟨.dr, .folder⟩)⟩
      (.distcp tree true) =
      some ⟨sites.setFolder .dr (dr.withTree tree), .validating validateDistcpSuccessful⟩ := by
    change Option.map _ (sites.copied ⟨.dr, .folder⟩ tree) = _
    rw [hcopied]
    rfl
  rw [hview] at hconfirms
  exact ⟨sites', after, Reaches.head hstep (reaches_completion hvalidate), hconfirms, hafter⟩

/-- Where the sites agree on the latest snapshot, the next run can complete. -/
theorem run_completes {state : State} {last : Option Outcome} {n : Nat}
    (hidle : state.phase = .idle last) (hmain : state.sites.view.latest .main = n)
    (hdr : state.sites.view.latest .dr = n) :
    ∃ finish, Reaches State.step state finish ∧ finish.phase = .idle (some .completed) ∧
      ∀ site, finish.sites.view.names site =
        (state.sites.view.names site ++ [snapshotName (n + 1 : Nat)]).filter
          (· ≠ snapshotName n) := by
  obtain ⟨sites₁, tree, hcheck, hview₁⟩ := run_checkFolderState hmain hdr
  obtain ⟨dr, hdrFolder, hsnapshots⟩ := exists_folder_of_latest hdr
  have hdr₁ : sites₁.dr = some dr := (congrArg View.dr hview₁).trans hdrFolder
  have hmain₁ : sites₁.view.latest .main = (n + 1 : Nat) := by
    rw [hview₁]
    exact View.latest_addMain tree (by omega)
  have hfresh : ∀ site, snapshotName (n + 1 : Nat) ∉ state.sites.view.names site := by
    intro site
    apply snapshotName_not_mem
    change state.sites.view.latest site < (n + 1 : Nat)
    cases site <;> omega
  have hfresh₁ : snapshotName (n + 1 : Nat) ∉ sites₁.view.names .dr := by
    rw [hview₁, View.names_addMain_dr]
    exact hfresh .dr
  have htree₁ : sites₁.view.main.lookup (snapshotName (n + 1 : Nat)) = some tree := by
    have hnone := lookup_eq_none.mpr (hfresh .main)
    change state.sites.view.main.lookup _ = none at hnone
    rw [hview₁]
    change (state.sites.view.main ++ [(_, tree)]).lookup _ = some tree
    rw [List.lookup_append, hnone]
    simp
  obtain ⟨sites₂, after, hvalidated, hconfirms, hview₂⟩ :=
    reaches_validated hmain₁ hdr₁ hsnapshots hfresh₁ htree₁
  have hstart : state.step .start = some ⟨state.sites, .checking checkFolderState⟩ := by
    simp [State.step, hidle]
  have hchosen := Reaches.head hstart (reaches_choice hcheck)
  refine ⟨_, hchosen.trans hvalidated, rfl, fun site => ?_⟩
  change sites₂.view.names site = _
  rw [hview₂, View.names_withoutPrevious, show ((n + 1 : Nat) : Int) - 1 = n by omega]
  congr 1
  cases site with
  | main =>
    rw [hconfirms.names_main, View.names_withDrTree, hview₁, View.names_addMain_main]
  | dr =>
    rw [hconfirms.names_dr, View.latest_withDrTree, hmain₁, View.names_withDrTree, hview₁,
      View.names_addMain_dr]

end QubershipAirflow.DrSync
