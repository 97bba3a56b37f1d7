import QubershipAirflow.DrSync.FailingCalls

/-! What `validate_distcp_successful` accepts. It deletes the previous snapshots when the
listings of the new ones agree; differing counts are only logged. -/
namespace QubershipAirflow.DrSync

open Programs Program

/-- The number under which the new snapshots are compared, and the one before it. -/
def Sites.newSnapshot (sites : Sites) : String := snapshotName (sites.view.latest .main)

def Sites.previousSnapshot (sites : Sites) : String :=
  snapshotName (sites.view.latest .main - 1)

/-- The new snapshots of both sites: main's is there, and that of the DR site can be
taken and holds what its folder does. -/
structure Sites.Compares (sites : Sites) (main dr : Tree) : Prop where
  main : sites.view.main.lookup sites.newSnapshot = some main
  dr : ∃ folder folder', sites.dr = some folder ∧ folder.tree = dr ∧
    folder.createSnapshot? sites.newSnapshot = some folder'

def Sites.Agree (sites : Sites) : Prop :=
  ∃ main dr, sites.Compares main dr ∧ dr.map Prod.fst = main.map Prod.fst ∧
    Node.contents dr = Node.contents main

def KeepsSnapshots (sites after : Sites) : Prop :=
  ∀ site, sites.view.snapshots site ⊆ after.view.snapshots site

/-- Snapshots are deleted and the task completes only where the new snapshots agree;
everywhere else it raises and deletes none. -/
structure Gated (sites : Sites) (result : Except Failure Unit) (after : Sites) : Prop where
  accepts : result = .ok () ∨ ¬ KeepsSnapshots sites after → sites.Agree
  rejects : ¬ sites.Agree → (∃ raised, result = .error raised) ∧ KeepsSnapshots sites after

theorem gated_iff {sites after : Sites} {result : Except Failure Unit} :
    Gated sites result after ↔
      sites.Agree ∨ (∃ raised, result = .error raised) ∧ KeepsSnapshots sites after := by
  constructor
  · intro h
    by_cases hagree : sites.Agree
    · exact .inl hagree
    · exact .inr (h.rejects hagree)
  · rintro (hagree | ⟨⟨raised, rfl⟩, hkeeps⟩)
    · exact ⟨fun _ => hagree, fun h => absurd hagree h⟩
    · exact ⟨fun h => absurd h (by simp [hkeeps]), fun _ => ⟨⟨raised, rfl⟩, hkeeps⟩⟩

def snapshotReads (name : String) : List Op :=
  [.list .main (.snapshot name), .list .dr (.snapshot name), .content .main (.snapshot name),
    .content .dr (.snapshot name)]

def Sites.comparison (sites : Sites) : List Op :=
  [.checkForPath .main .snapshots, .list .main .snapshots,
    .createSnapshot .dr sites.newSnapshot] ++ snapshotReads sites.newSnapshot

/-- After the comparison, no call fails before a snapshot is deleted or the task ends. -/
structure Cleans (fates : Op → Fate) (v : View) (previous : String) : Prop where
  asked : fates (.checkForPath .main (.snapshot previous)) = .answered
  main : previous ∈ v.names .main → fates (.deleteSnapshot .main previous) ≠ .refused
  dr : previous ∉ v.names .main →
    fates (.checkForPath .dr (.snapshot previous)) = .answered ∧
      (previous ∈ v.names .dr → fates (.deleteSnapshot .dr previous) ≠ .refused)

section Runs

variable {fates : Op → Fate} {sites after : Sites} {site : Site} {result : Except Failure Unit}

theorem isSome_treeAt_snapshot (sites : Sites) (site : Site) (name : String) :
    (sites.treeAt site (.snapshot name)).isSome = true ↔ name ∈ sites.view.names site := by
  rw [treeAt_snapshot, Option.isSome_iff_ne_none, Ne, lookup_eq_none, not_not]

theorem deleteSnapshot?_of_mem {name : String} (h : name ∈ sites.view.names site) :
    ((sites.folder site).bind (·.deleteSnapshot? name)).isSome = true := by
  rw [← isSome_treeAt_snapshot, Sites.treeAt] at h
  cases hfolder : sites.folder site with
  | none => simp [hfolder] at h
  | some folder => simpa [hfolder, Folder.treeAt, Folder.deleteSnapshot?] using h

theorem ends_removePrevious {latest : Int}
    (h : Ends fates (removePrevious site latest) sites result after) :
    let previous := snapshotName (latest - 1)
    (Stops sites result after ∧ (fates (.checkForPath site (.snapshot previous)) = .answered →
        previous ∈ sites.view.names site ∧ fates (.deleteSnapshot site previous) = .refused)) ∨
      fates (.checkForPath site (.snapshot previous)) = .answered ∧
        (previous ∈ sites.view.names site ∧
            fates (.deleteSnapshot site previous) ≠ .refused ∧
            after.view = sites.view.drop site previous ∨
          previous ∉ sites.view.names site ∧ result = .ok () ∧ after = sites) := by
  intro previous
  unfold removePrevious at h
  obtain ⟨hstops, hfate⟩ | ⟨hfate, h⟩ := Ends.checkForPath h
  · exact .inl ⟨hstops, fun hanswered => absurd hanswered hfate⟩
  by_cases hthere : previous ∈ sites.view.names site
  · rw [(isSome_treeAt_snapshot sites site previous).mpr hthere, if_pos rfl] at h
    have hdelete : Ends fates (deleteSnapshot site previous >>= .pure) sites result after := h
    obtain ⟨hstops, hrefused⟩ | ⟨folder, folder', hfolder, hdeleted, hrest⟩ :=
      Ends.deleteSnapshot hdelete
    · refine .inl ⟨hstops, fun _ => ⟨hthere, ?_⟩⟩
      by_contra hne
      have hsome := deleteSnapshot?_of_mem hthere
      rw [hrefused hne] at hsome
      cases hsome
    · refine .inr ⟨hfate, .inl ⟨hthere, ?_, ?_⟩⟩
      · rcases hrest with ⟨-, hlost⟩ | ⟨hanswered, -⟩
        · simp [hlost]
        · simp [hanswered]
      · rw [← view_deleted hfolder hdeleted]
        rcases hrest with ⟨⟨-, rfl⟩, -⟩ | ⟨-, hrest⟩
        · rfl
        · cases hrest
          rfl
  · have hnone : (sites.treeAt site (.snapshot previous)).isSome = false := by
      rw [Bool.eq_false_iff, Ne, isSome_treeAt_snapshot]
      exact hthere
    rw [hnone, if_neg (by simp)] at h
    cases h
    exact .inr ⟨hfate, .inr ⟨hthere, rfl, rfl⟩⟩

theorem names_main_cleaned {latest : Int}
    (h : Ends fates (removePrevious .dr latest) sites result after) :
    after.view.names .main = sites.view.names .main := by
  obtain ⟨⟨-, rfl⟩, -⟩ | ⟨-, ⟨-, -, hview⟩ | ⟨-, -, rfl⟩⟩ := ends_removePrevious h
  · rfl
  · rw [hview, View.names_drop_dr_main]
  · rfl

theorem ends_cleanup {latest : Int}
    (h : Ends fates (removePrevious .main latest >>= fun _ => removePrevious .dr latest) sites
      result after) :
    let previous := snapshotName (latest - 1)
    (Stops sites result after ∧ ¬ Cleans fates sites.view previous) ∨
      Cleans fates sites.view previous ∧
        (result = .ok () ∨ ∃ site, previous ∈ sites.view.names site ∧
          previous ∉ after.view.names site) := by
  intro previous
  obtain ⟨raised, hresult, hmain⟩ | ⟨value, mid, hmain, hrest⟩ := Ends.seq h
  · obtain ⟨⟨-, hsame⟩, hfate⟩ | ⟨hasked, ⟨hthere, hdelete, hview⟩ | ⟨-, hok, -⟩⟩ :=
      ends_removePrevious hmain
    · refine .inl ⟨⟨⟨raised, hresult⟩, hsame⟩, fun hcleans => ?_⟩
      obtain ⟨hthere, hrefused⟩ := hfate hcleans.asked
      exact hcleans.main hthere hrefused
    · refine .inr ⟨⟨hasked, fun _ => hdelete, fun hnot => absurd hthere hnot⟩, .inr
        ⟨.main, hthere, ?_⟩⟩
      rw [hview, View.names_drop_main]
      simp [previous]
    · cases hok
  · obtain ⟨⟨⟨raised, hraised⟩, -⟩, -⟩ | ⟨hasked, ⟨hthere, hdelete, hview⟩ |
      ⟨habsent, -, rfl⟩⟩ := ends_removePrevious hmain
    · cases hraised
    · refine .inr ⟨⟨hasked, fun _ => hdelete, fun hnot => absurd hthere hnot⟩, .inr
        ⟨.main, hthere, ?_⟩⟩
      rw [names_main_cleaned hrest, hview, View.names_drop_main]
      simp [previous]
    · obtain ⟨hstops, hfate⟩ | ⟨hasked', ⟨hthere, hdelete, hview⟩ | ⟨habsent', hok, -⟩⟩ :=
        ends_removePrevious hrest
      · refine .inl ⟨hstops, fun hcleans => ?_⟩
        obtain ⟨hanswered, hdelete⟩ := hcleans.dr habsent
        obtain ⟨hthere, hrefused⟩ := hfate hanswered
        exact hdelete hthere hrefused
      · refine .inr ⟨⟨hasked, fun hmem => absurd hmem habsent, fun _ =>
          ⟨hasked', fun _ => hdelete⟩⟩, .inr ⟨.dr, hthere, ?_⟩⟩
        rw [hview, View.names_drop_dr]
        simp [previous]
      · exact .inr ⟨⟨hasked, fun hmem => absurd hmem habsent, fun _ =>
          ⟨hasked', fun hmem => absurd hmem habsent'⟩⟩, .inl hok⟩

theorem ends_compareCount {field : String} {mainCount drCount : Nat}
    (hlogs : ∀ message, fates (.warning message) = .answered)
    (h : Ends fates (compareCount field mainCount drCount) sites result after) :
    result = .ok () ∧ after = sites := by
  unfold compareCount at h
  split at h
  · have hwarning : Ends fates (warning (field ++ " is different after the copy!") >>= .pure)
        sites result after := h
    obtain ⟨-, hlost⟩ | hrest := Ends.warning hwarning
    · exact absurd (hlogs _) hlost
    · cases hrest
      exact ⟨rfl, rfl⟩
  · cases h
    exact ⟨rfl, rfl⟩

theorem ends_compareContents {main dr : ContentSummary}
    (hlogs : ∀ message, fates (.warning message) = .answered)
    (h : Ends fates (compareContents main dr) sites result after) :
    result = .ok () ∧ after = sites := by
  unfold compareContents at h
  obtain ⟨raised, -, hfirst⟩ | ⟨_, mid, hfirst, hrest⟩ := Ends.seq h
  · cases (ends_compareCount hlogs hfirst).1
  obtain ⟨raised, -, hsecond⟩ | ⟨_, mid', hsecond, hthird⟩ := Ends.seq hrest
  · cases (ends_compareCount hlogs hsecond).1
  obtain rfl := (ends_compareCount hlogs hfirst).2
  obtain rfl := (ends_compareCount hlogs hsecond).2
  exact ends_compareCount hlogs hthird

theorem treeAt_created {folder folder' : Folder} {name : String}
    (hcreate : folder.createSnapshot? name = some folder') :
    (sites.setFolder .dr folder').treeAt .dr (.snapshot name) = some folder.tree ∧
      ∀ path, (sites.setFolder .dr folder').treeAt .main path = sites.treeAt .main path := by
  obtain ⟨hfresh, -, hsnapshots⟩ := createSnapshot?_eq_some hcreate
  refine ⟨?_, fun path => rfl⟩
  simp [Sites.treeAt, Sites.setFolder, Sites.folder, Folder.treeAt, hsnapshots, List.lookup_append,
    hfresh]

theorem keepsSnapshots_created {folder folder' : Folder} {name : String}
    (hdr : sites.dr = some folder) (hcreate : folder.createSnapshot? name = some folder') :
    KeepsSnapshots sites (sites.setFolder .dr folder') := by
  obtain ⟨-, -, hsnapshots⟩ := createSnapshot?_eq_some hcreate
  intro site
  cases site with
  | main => exact fun _ h => h
  | dr => simp [View.snapshots, Sites.view, Sites.setFolder, snapshotsOf, hdr, hsnapshots]

theorem KeepsSnapshots.refl (sites : Sites) : KeepsSnapshots sites sites := fun _ _ h => h

theorem isSome_treeAt_snapshots {name : String}
    (h : (sites.treeAt site (.snapshot name)).isSome = true) :
    (sites.treeAt site .snapshots).isSome = true := by
  by_contra hnone
  rw [isSome_treeAt_snapshot, View.names, treeAt_snapshots_none (by simpa using hnone)] at h
  cases h

def compareAndCleanUp (latest : Int) : Task Unit := do
  let mainList ← list .main (.snapshot (snapshotName latest))
  let drList ← list .dr (.snapshot (snapshotName latest))
  if drList ≠ mainList then
    .throw listsDifferent
  else
  let mainContent ← content .main (.snapshot (snapshotName latest))
  let drContent ← content .dr (.snapshot (snapshotName latest))
  compareContents mainContent drContent
  removePrevious .main latest
  removePrevious .dr latest

theorem validateDistcpSuccessful_eq :
    validateDistcpSuccessful = getLatestSnapshotNumber .main >>= fun latest =>
      createSnapshot .dr (snapshotName latest) >>= fun _ => compareAndCleanUp latest :=
  rfl

theorem ends_compareAndCleanUp {latest : Int}
    (hlogs : ∀ message, fates (.warning message) = .answered)
    (h : Ends fates (compareAndCleanUp latest) sites result after) :
    let name := snapshotName latest
    let comparable := (∀ op ∈ snapshotReads name, fates op = .answered) ∧
      ∃ main dr, sites.treeAt .main (.snapshot name) = some main ∧
        sites.treeAt .dr (.snapshot name) = some dr ∧ dr.map Prod.fst = main.map Prod.fst
    Stops sites result after ∧ ¬ comparable ∨
      comparable ∧ Ends fates (removePrevious .main latest >>= fun _ => removePrevious .dr latest)
        sites result after := by
  intro name comparable
  unfold compareAndCleanUp at h
  obtain ⟨hstops, hnone⟩ | ⟨hmainList, main, hmain, h⟩ := Ends.list h
  · refine .inl ⟨hstops, ?_⟩
    rintro ⟨hall, main, dr, hmain, -⟩
    rw [hnone (hall _ (by simp [snapshotReads, name]))] at hmain
    cases hmain
  obtain ⟨hstops, hnone⟩ | ⟨hdrList, dr, hdr, h⟩ := Ends.list h
  · refine .inl ⟨hstops, ?_⟩
    rintro ⟨hall, main, dr, -, hdr, -⟩
    rw [hnone (hall _ (by simp [snapshotReads, name]))] at hdr
    cases hdr
  split at h
  · case isTrue hdifferent =>
    cases h
    refine .inl ⟨⟨⟨_, rfl⟩, rfl⟩, ?_⟩
    rintro ⟨-, main', dr', hmain', hdr', hsame⟩
    rw [hmain] at hmain'
    rw [hdr] at hdr'
    cases hmain'
    cases hdr'
    exact hdifferent hsame
  · case isFalse hsame =>
    obtain ⟨hstops, hnone⟩ | ⟨hmainContent, _, -, h⟩ := Ends.content h
    · refine .inl ⟨hstops, ?_⟩
      rintro ⟨hall, main, dr, hmain, -⟩
      rw [hnone (hall _ (by simp [snapshotReads, name]))] at hmain
      cases hmain
    obtain ⟨hstops, hnone⟩ | ⟨hdrContent, _, -, h⟩ := Ends.content h
    · refine .inl ⟨hstops, ?_⟩
      rintro ⟨hall, main, dr, -, hdr, -⟩
      rw [hnone (hall _ (by simp [snapshotReads, name]))] at hdr
      cases hdr
    obtain ⟨raised, -, hcompare⟩ | ⟨_, mid, hcompare, hrest⟩ := Ends.seq h
    · cases (ends_compareContents hlogs hcompare).1
    obtain rfl := (ends_compareContents hlogs hcompare).2
    refine .inr ⟨⟨?_, main, dr, hmain, hdr, not_not.mp hsame⟩, hrest⟩
    simp [snapshotReads, name, hmainList, hdrList, hmainContent, hdrContent]

theorem ends_comparison (hlogs : ∀ message, fates (.warning message) = .answered)
    (h : Ends fates validateDistcpSuccessful sites result after) :
    ((∃ raised, result = .error raised) ∧ KeepsSnapshots sites after ∧
        ¬ ((∀ op ∈ sites.comparison, fates op = .answered) ∧ ∃ main dr, sites.Compares main dr ∧
          dr.map Prod.fst = main.map Prod.fst)) ∨
      (∀ op ∈ sites.comparison, fates op = .answered) ∧ ∃ main folder folder',
        sites.Compares main folder.tree ∧ folder.tree.map Prod.fst = main.map Prod.fst ∧
        sites.dr = some folder ∧ folder.createSnapshot? sites.newSnapshot = some folder' ∧
        Ends fates (removePrevious .main (sites.view.latest .main) >>= fun _ =>
          removePrevious .dr (sites.view.latest .main)) (sites.setFolder .dr folder')
          result after := by
  rw [Ends, validateDistcpSuccessful_eq] at h
  obtain ⟨⟨hraises, rfl⟩, hfate⟩ | ⟨hcheck, hlists, h⟩ := Ends.getLatestSnapshotNumber h
  · refine .inl ⟨hraises, .refl _, ?_⟩
    rintro ⟨hall, -⟩
    exact hfate (hall _ (by simp [Sites.comparison])) (hall _ (by simp [Sites.comparison]))
  obtain ⟨⟨hraises, rfl⟩, hnone⟩ | ⟨folder, folder', hdr, hcreate, hrest⟩ :=
    Ends.createSnapshot h
  · refine .inl ⟨hraises, .refl _, ?_⟩
    rintro ⟨hall, main, dr, hcompares, -⟩
    obtain ⟨folder, folder', hdr, -, hcreate⟩ := hcompares.dr
    have hanswered : fates (.createSnapshot .dr after.newSnapshot) = .answered :=
      hall _ (by simp [Sites.comparison])
    have hnot := hnone (by rw [← Sites.newSnapshot, hanswered]; simp)
    rw [show after.folder .dr = some folder from hdr] at hnot
    rw [Option.bind_some, ← Sites.newSnapshot, hcreate] at hnot
    cases hnot
  have hkeeps := keepsSnapshots_created hdr hcreate
  obtain ⟨htree, hmain⟩ := @treeAt_created sites _ _ _ hcreate
  obtain ⟨⟨hraises, rfl⟩, hlost⟩ | ⟨hcreated, h⟩ := hrest
  · refine .inl ⟨hraises, hkeeps, ?_⟩
    rintro ⟨hall, -⟩
    have hanswered := hall (.createSnapshot .dr sites.newSnapshot) (by simp [Sites.comparison])
    rw [Sites.newSnapshot, hlost] at hanswered
    cases hanswered
  obtain ⟨⟨hraises, rfl⟩, hnot⟩ | ⟨⟨hall, main, dr, hmainTree, hdrTree, hsame⟩, hrest⟩ :=
    ends_compareAndCleanUp hlogs h
  · refine .inl ⟨hraises, hkeeps, ?_⟩
    rintro ⟨hall, main, dr, hcompares, hsame⟩
    refine hnot ?_
    obtain ⟨folder₀, -, hdr₀, rfl, -⟩ := hcompares.dr
    obtain rfl := Option.some.inj (hdr.symm.trans hdr₀)
    refine ⟨fun op hop => hall op (List.mem_append_right _ hop), main, folder.tree, ?_, htree,
      hsame⟩
    rw [hmain, treeAt_snapshot]
    exact hcompares.main
  · rw [htree] at hdrTree
    obtain rfl := Option.some.inj hdrTree
    rw [hmain] at hmainTree
    have hlisted := hlists (isSome_treeAt_snapshots (by rw [hmainTree]; rfl))
    refine .inr ⟨?_, main, folder, folder', ⟨?_, folder, folder', hdr, rfl, hcreate⟩, hsame, hdr,
      hcreate, hrest⟩
    · intro op hop
      rcases List.mem_append.mp hop with hop | hop
      · simp only [List.mem_cons, List.not_mem_nil, or_false] at hop
        rcases hop with rfl | rfl | rfl
        · exact hcheck
        · exact hlisted
        · exact hcreated
      · exact hall op hop
    · rw [treeAt_snapshot] at hmainTree
      exact hmainTree

theorem previousSnapshot_ne (sites : Sites) : sites.previousSnapshot ≠ sites.newSnapshot := by
  unfold Sites.previousSnapshot Sites.newSnapshot
  obtain hnone | ⟨n, hn⟩ := latestNumber_cases (sites.view.names .main)
  · rw [View.latest, hnone]
    decide +kernel
  · rw [View.latest, hn]
    exact snapshotName_pred_ne n

theorem previousSnapshot_mem {folder folder' : Folder} (hdr : sites.dr = some folder)
    (hcreate : folder.createSnapshot? sites.newSnapshot = some folder') (site : Site) :
    sites.previousSnapshot ∈ (sites.setFolder .dr folder').view.names site ↔
      sites.previousSnapshot ∈ sites.view.names site := by
  cases site with
  | main => rfl
  | dr =>
    obtain ⟨-, -, hsnapshots⟩ := createSnapshot?_eq_some hcreate
    simp [View.names, View.snapshots, Sites.view, Sites.setFolder, snapshotsOf, hdr, hsnapshots,
      previousSnapshot_ne sites]

theorem Cleans.congr {v v' : View} {previous : String}
    (hmem : ∀ site, previous ∈ v.names site ↔ previous ∈ v'.names site)
    (h : Cleans fates v previous) : Cleans fates v' previous where
  asked := h.asked
  main := by
    rw [← hmem]
    exact h.main
  dr := by
    rw [← hmem, ← hmem]
    exact h.dr

theorem not_keepsSnapshots {name : String} (hbefore : name ∈ sites.view.names site)
    (hafter : name ∉ after.view.names site) : ¬ KeepsSnapshots sites after := by
  intro hkeeps
  obtain ⟨entry, hentry, rfl⟩ := List.mem_map.mp hbefore
  exact hafter (List.mem_map_of_mem (hkeeps site hentry))

/-- The listings agree while a count differs, and nothing fails before a snapshot is
deleted or the task completes. -/
structure Sites.SlipsThrough (sites : Sites) (fates : Op → Fate) : Prop where
  differ : ∃ main dr, sites.Compares main dr ∧ dr.map Prod.fst = main.map Prod.fst ∧
    Node.contents dr ≠ Node.contents main
  compared : ∀ op ∈ sites.comparison, fates op = .answered
  cleans : Cleans fates sites.view sites.previousSnapshot

theorem Sites.Compares.unique {main dr main' dr' : Tree} (h : sites.Compares main dr)
    (h' : sites.Compares main' dr') : main = main' ∧ dr = dr' := by
  obtain ⟨folder, -, hdr, rfl, -⟩ := h.dr
  obtain ⟨folder', -, hdr', rfl, -⟩ := h'.dr
  exact ⟨Option.some.inj (h.main.symm.trans h'.main),
    congrArg Folder.tree (Option.some.inj (hdr.symm.trans hdr'))⟩

theorem Sites.SlipsThrough.not_agree (h : sites.SlipsThrough fates) : ¬ sites.Agree := by
  rintro ⟨main', dr', hcompares', -, hcontents⟩
  obtain ⟨main, dr, hcompares, -, hdiffer⟩ := h.differ
  obtain ⟨rfl, rfl⟩ := hcompares.unique hcompares'
  exact hdiffer hcontents

theorem validateDistcpSuccessful_gated_iff
    (hlogs : ∀ message, fates (.warning message) = .answered)
    (h : Ends fates validateDistcpSuccessful sites result after) :
    Gated sites result after ↔ ¬ sites.SlipsThrough fates := by
  rw [gated_iff]
  obtain ⟨hraises, hkeeps, hnot⟩ |
    ⟨hcompared, main, folder, folder', hcompares, hsame, hdr, hcreate, hrest⟩ :=
      ends_comparison hlogs h
  · refine iff_of_true (.inr ⟨hraises, hkeeps⟩) fun hslips => hnot ⟨hslips.compared, ?_⟩
    obtain ⟨main, dr, hcompares, hsame, -⟩ := hslips.differ
    exact ⟨main, dr, hcompares, hsame⟩
  · have hmem := previousSnapshot_mem hdr hcreate
    by_cases hcontents : Node.contents folder.tree = Node.contents main
    · have hagree : sites.Agree := ⟨main, folder.tree, hcompares, hsame, hcontents⟩
      exact iff_of_true (.inl hagree) fun hslips => hslips.not_agree hagree
    · obtain ⟨⟨hraises, rfl⟩, hnot⟩ | ⟨hcleans, hended⟩ := ends_cleanup hrest
      · exact iff_of_true (.inr ⟨hraises, keepsSnapshots_created hdr hcreate⟩) fun hslips =>
          hnot (hslips.cleans.congr fun site => (hmem site).symm)
      · have hslips : sites.SlipsThrough fates :=
          ⟨⟨main, folder.tree, hcompares, hsame, hcontents⟩, hcompared, hcleans.congr hmem⟩
        refine iff_of_false ?_ (not_not_intro hslips)
        rintro (hagree | ⟨⟨raised, hraised⟩, hkeeps⟩)
        · exact hslips.not_agree hagree
        · rcases hended with hok | ⟨site, hbefore, hafter⟩
          · rw [hraised] at hok
            cases hok
          · exact not_keepsSnapshots ((hmem site).mp hbefore) hafter hkeeps

def halfCopied : Sites where
  main := some ⟨[("d", .directory [("x", .file [1])])], true,
    [("snapshot_1", []), ("snapshot_2", [("d", .directory [("x", .file [1])])])], fun _ => rfl⟩
  dr := some ⟨[("d", .directory [])], true, [("snapshot_1", [])], fun _ => rfl⟩

def halfCopiedValidation : Except Failure Unit × Sites :=
  validateDistcpSuccessful.runUnder hdfs (fun _ => .answered) .hdfs halfCopied

theorem validateDistcpSuccessful_gated_iff_halfCopied :
    Gated halfCopied halfCopiedValidation.1 halfCopiedValidation.2 ↔
      ¬ halfCopied.SlipsThrough fun _ => .answered :=
  validateDistcpSuccessful_gated_iff (fun _ => rfl) rfl

theorem validateDistcpSuccessful_accepts_halfCopied :
    ¬ ∀ (fates : Op → Fate) (sites after : Sites) (result : Except Failure Unit),
      (∀ message, fates (.warning message) = .answered) →
      Ends fates validateDistcpSuccessful sites result after → Gated sites result after := by
  intro h
  have hgated := h (fun _ => .answered) halfCopied _ _ (fun _ => rfl)
    (rfl : _ = (halfCopiedValidation.1, halfCopiedValidation.2))
  have hok : halfCopiedValidation.1 = .ok () := by
    cases hresult : halfCopiedValidation.1 with
    | ok value => rfl
    | error raised =>
      have hcompletes : halfCopiedValidation.1.isOk = true := by decide +kernel
      rw [hresult] at hcompletes
      cases hcompletes
  obtain ⟨main, dr, ⟨hmain, folder, _, hdr, rfl, _⟩, -, hcontents⟩ := hgated.accepts (.inl hok)
  have hname : halfCopied.newSnapshot = "snapshot_2" := by decide +kernel
  rw [hname] at hmain
  cases hdr
  cases hmain
  exact absurd hcontents (by decide)

end Runs

end QubershipAirflow.DrSync
