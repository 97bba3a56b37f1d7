import QubershipAirflow.DrSync.Managed
import QubershipAirflow.Library.Json

/-! Snapshots with one number have one content, and the DR folder is what the latest
common snapshot says. Both hold whatever fails, as long as a copy that succeeds is
exact. -/
namespace QubershipAirflow.DrSync

open Runs

theorem lookup_filter_ne {α : Type} (entries : List (String × α)) (name other : String) :
    (entries.filter fun entry => entry.1 ≠ name).lookup other =
      if other ≠ name then entries.lookup other else none := by
  rw [Json.lookup_filter_keys entries other fun key => key ≠ name]
  simp only [decide_eq_true_eq]

theorem lookup_append_one {α : Type} {entries : List (String × α)} {name other : String}
    {value found : α} (h : (entries ++ [(name, value)]).lookup other = some found) :
    entries.lookup other = some found ∨ other = name ∧ found = value := by
  rw [List.lookup_append, Option.or_eq_some_iff] at h
  rcases h with h | ⟨-, h⟩
  · exact Or.inl h
  · cases heq : other == name with
    | true =>
      simp only [List.lookup_cons, heq] at h
      exact Or.inr ⟨by simpa using heq, (Option.some.inj h).symm⟩
    | false => simp [List.lookup_cons, heq] at h

namespace View

theorem mem_names_of_lookup {v : View} {site : Site} {name : String} {tree : Tree}
    (h : (v.snapshots site).lookup name = some tree) : name ∈ v.names site := by
  by_contra hmem
  rw [lookup_eq_none.mpr hmem] at h
  cases h

theorem lookup_drop {v : View} {site other : Site} {name name' : String} {tree : Tree}
    (h : ((v.drop site name).snapshots other).lookup name' = some tree) :
    (v.snapshots other).lookup name' = some tree := by
  cases site with
  | main =>
    cases other with
    | main =>
      change (v.main.filter _).lookup _ = _ at h
      rw [lookup_filter_ne, Option.ite_none_right_eq_some] at h
      exact h.2
    | dr => exact h
  | dr =>
    cases other with
    | main => exact h
    | dr =>
      cases hdr : v.dr with
      | none => simp [snapshots, drop, snapshotsOf, hdr] at h
      | some folder =>
        simp only [snapshots, drop, snapshotsOf, hdr, Option.map_some, Option.getD_some] at h ⊢
        change (folder.snapshots.filter _).lookup _ = _ at h
        rw [lookup_filter_ne, Option.ite_none_right_eq_some] at h
        exact h.2

theorem exists_folder {v : View} {n : Nat} (h : v.latest .dr = n) :
    ∃ folder, v.dr = some folder := by
  cases hdr : v.dr with
  | some folder => exact ⟨folder, rfl⟩
  | none =>
    have hnames : v.names .dr = [] := by simp [names, snapshots, snapshotsOf, hdr]
    rw [latest, hnames, latestNumber_nil] at h
    omega

end View

/-- What every run keeps. `current` is about the sites between two copies. -/
structure Consistent (v : View) : Prop extends Managed v where
  agree : ∀ name tree tree', v.main.lookup name = some tree →
    (v.snapshots .dr).lookup name = some tree' → tree = tree'
  current : ∀ n : Nat, v.latest .main = n → v.latest .dr = n → ∀ folder, v.dr = some folder →
    v.main.lookup (snapshotName n) = some folder.tree

namespace Consistent

variable {v : View}

theorem addMain (h : Consistent v) {n : Nat} (tree : Tree) (hmain : v.latest .main ≤ n)
    (hfresh : snapshotName n ∉ v.names .main) (hdr : v.latest .dr < n) :
    Consistent (v.addMain (snapshotName n) tree) := by
  have hlatest := View.latest_addMain tree hmain
  refine ⟨h.toManaged.addMain tree hfresh, ?_, ?_⟩
  · intro name found found' hfound hfound'
    rcases lookup_append_one hfound with hold | ⟨rfl, -⟩
    · exact h.agree name found found' hold hfound'
    · have hmem : snapshotName n ∈ v.names .dr := View.mem_names_of_lookup hfound'
      exact absurd hmem (snapshotName_not_mem hdr)
  · intro m hm hm' folder hfolder
    change v.latest .dr = m at hm'
    omega

theorem drop (h : Consistent v) {site : Site} {name : String}
    (hother : ∀ n : Nat, (v.drop site name).latest .main = n →
      (v.drop site name).latest .dr = n →
      v.latest .main = n ∧ v.latest .dr = n ∧ snapshotName n ≠ name) :
    Consistent (v.drop site name) := by
  refine ⟨h.toManaged.drop site name, ?_, ?_⟩
  · intro name' tree tree' htree htree'
    have hmain : v.main.lookup name' = some tree := @View.lookup_drop v site .main _ _ _ htree
    exact h.agree name' tree tree' hmain (View.lookup_drop htree')
  · intro n hmain hdr folder hfolder
    obtain ⟨hmain', hdr', hne⟩ := hother n hmain hdr
    cases site with
    | main =>
      have hcurrent := h.current n hmain' hdr' folder hfolder
      change (v.main.filter _).lookup _ = _
      rwa [lookup_filter_ne, if_pos hne]
    | dr =>
      obtain ⟨old, hold, rfl⟩ := Option.map_eq_some_iff.mp hfolder
      exact h.current n hmain' hdr' old hold

theorem withDrTree (h : Consistent v) (tree : Tree) (hne : v.latest .main ≠ v.latest .dr) :
    Consistent (v.withDrTree tree) := by
  refine ⟨h.toManaged.withDrTree tree, ?_, ?_⟩
  · intro name found found' hfound hfound'
    rw [View.snapshots_withDrTree] at hfound'
    exact h.agree name found found' hfound hfound'
  · intro n hmain hdr
    rw [View.latest_withDrTree] at hmain hdr
    omega

theorem confirm (h : Consistent v) {after : View} (hconfirms : Confirms v after) {n : Nat}
    (hmain : v.latest .main = n) (hdr : v.latest .dr < n)
    (hcopy : ∀ folder, v.dr = some folder →
      v.main.lookup (snapshotName n) = some folder.tree) : Consistent after := by
  have hmanaged := h.toManaged.confirm hconfirms hmain
  cases hconfirms with
  | created folder folder' hfolder hcreate =>
    obtain ⟨-, htree, hsnapshots⟩ := createSnapshot?_eq_some hcreate
    rw [hmain] at hsnapshots
    have hfound := hcopy folder hfolder
    refine ⟨hmanaged, ?_, ?_⟩
    · intro name found found' hmainFound hdrFound
      change folder'.snapshots.lookup name = some found' at hdrFound
      rw [hsnapshots] at hdrFound
      rcases lookup_append_one hdrFound with hold | ⟨rfl, rfl⟩
      · apply h.agree name found found' hmainFound
        simpa [View.snapshots, snapshotsOf, hfolder] using hold
      · rw [hfound] at hmainFound
        exact (Option.some.inj hmainFound).symm
    · intro m hm _ folder'' hfolder''
      cases hfolder''
      change v.latest .main = m at hm
      obtain rfl : m = n := by omega
      rw [htree]
      exact hfound

theorem withoutPrevious (h : Consistent v) {n : Nat} (hmain : v.latest .main = n)
    (hdr : v.latest .dr = n) (site : Site) :
    Consistent (v.withoutPrevious site n) ∧ (v.withoutPrevious site n).latest .main = n ∧
      (v.withoutPrevious site n).latest .dr = n := by
  have hne := snapshotName_pred_ne n
  have hlatest : ∀ other, v.latest other = n → (v.withoutPrevious site n).latest other = n := by
    intro other hother
    have hmem := h.toManaged.mem_latest hother
    apply latestNumber_eq_of_subset hother (View.names_drop_subset v _ site other)
    have hkept : snapshotName n ∈ (v.names other).filter
        (· ≠ snapshotName ((n : Int) - 1)) :=
      List.mem_filter.mpr ⟨hmem, by simpa using hne.symm⟩
    cases site with
    | main =>
      cases other with
      | main => exact (View.names_drop_main v _).symm ▸ hkept
      | dr => exact hmem
    | dr =>
      cases other with
      | main => exact hmem
      | dr => exact (View.names_drop_dr v _).symm ▸ hkept
  refine ⟨h.drop ?_, hlatest .main hmain, hlatest .dr hdr⟩
  intro m hm hm'
  have hm : (m : Int) = n := hm.symm.trans (hlatest .main hmain)
  have hm : m = n := by omega
  subst hm
  exact ⟨hmain, hdr, hne.symm⟩

end Consistent

inductive Ready (v : View) : Branch → Prop where
  | initializeFolder (n : Nat) (folder : Folder) (hmain : v.latest .main = n)
      (hdr : v.latest .dr < n) (hfolder : v.dr = some folder) (hempty : folder.tree = []) :
      Ready v (.initializeFolder ⟨.main, .snapshot (snapshotName n)⟩ ⟨.dr, .folder⟩)
  | updateFolder (m n : Nat) (folder : Folder) (hmain : v.latest .main = n)
      (hdr : v.latest .dr < n) (hfolder : v.dr = some folder)
      (hbase : v.main.lookup (snapshotName m) = some folder.tree) :
      Ready v (.updateFolder (snapshotName m) (snapshotName n) ⟨.main, .folder⟩ ⟨.dr, .folder⟩)

theorem Ready.latest {v : View} {branch : Branch} (h : Ready v branch) :
    ∃ n : Nat, v.latest .main = n ∧ v.latest .dr < n := by
  cases h with
  | initializeFolder n folder hmain hdr => exact ⟨n, hmain, hdr⟩
  | updateFolder m n folder hmain hdr => exact ⟨n, hmain, hdr⟩

theorem Prepares.ready {v after : View} {branch : Branch} (h : Prepares v branch after)
    (hv : Consistent v) : Consistent after ∧ Ready after branch := by
  cases h with
  | first tree folder hmain hdr hfolder hempty =>
    have hfresh : v.latest .main < (1 : Nat) := by omega
    have hlt : v.latest .dr < (1 : Nat) := by omega
    exact ⟨hv.addMain tree (Int.le_of_lt hfresh) (snapshotName_not_mem hfresh) hlt,
      .initializeFolder 1 folder (View.latest_addMain tree (Int.le_of_lt hfresh)) hlt hfolder
        hempty⟩
  | again tree folder n hmain hdr hfolder hempty =>
    have hsubset := View.names_drop_subset v (snapshotName n) .main .main
    have hle : (v.drop .main (snapshotName n)).latest .main ≤ n :=
      le_of_le_of_eq (latestNumber_le_of_subset hsubset) hmain
    have hfresh : snapshotName n ∉ (v.drop .main (snapshotName n)).names .main := by
      rw [View.names_drop_main]
      simp
    have hlt : (v.drop .main (snapshotName n)).latest .dr < n := by
      change v.latest .dr < n
      omega
    have hdrop : Consistent (v.drop .main (snapshotName n)) := by
      apply hv.drop
      intro m _ hm
      change v.latest .dr = m at hm
      omega
    exact ⟨hdrop.addMain tree hle hfresh hlt,
      .initializeFolder n folder (View.latest_addMain tree hle) hlt hfolder hempty⟩
  | update tree n hmain hdr =>
    obtain ⟨folder, hfolder⟩ := View.exists_folder hdr
    have hfresh : v.latest .main < (n + 1 : Nat) := by omega
    have hlt : v.latest .dr < (n + 1 : Nat) := by omega
    refine ⟨hv.addMain tree (Int.le_of_lt hfresh) (snapshotName_not_mem hfresh) hlt,
      .updateFolder n (n + 1) folder (View.latest_addMain tree (Int.le_of_lt hfresh)) hlt hfolder
        ?_⟩
    have hcurrent := hv.current n hmain hdr folder hfolder
    change (v.main ++ _).lookup _ = _
    rw [List.lookup_append, hcurrent]
    rfl

theorem Consistent.keeps_check {v : View} (h : Consistent v) :
    Keeps Consistent (fun _ => True) (fun branch v => Consistent v ∧ Ready v branch)
      checkFolderState v := by
  apply keeps_checkFolderState h
  · intro n hmain hdr
    apply h.drop
    intro m _ hm
    change v.latest .dr = m at hm
    omega
  · intro branch after hprepares
    obtain ⟨hafter, hready⟩ := hprepares.ready h
    exact ⟨hafter, hafter, hready⟩

theorem Ready.exact {sites : Sites} {branch : Branch} {tree : Tree}
    (h : Ready sites.view branch) (hexact : branch.exact sites tree) {n : Nat}
    (hn : sites.view.latest .main = n) :
    sites.view.main.lookup (snapshotName n) = some tree := by
  have hat : ∀ name, sites.at ⟨.main, .snapshot name⟩ = sites.view.main.lookup name :=
    fun name => treeAt_snapshot sites .main name
  cases h with
  | initializeFolder m folder hmain hdr hfolder hempty =>
    obtain rfl : m = n := by omega
    have hdrFolder : sites.dr = some folder := hfolder
    rw [← hat]
    apply hexact
    simp [Sites.at, Sites.treeAt, Sites.folder, hdrFolder, Folder.treeAt, hempty]
  | updateFolder base m folder hmain hdr hfolder hbase =>
    obtain rfl : m = n := by omega
    have hdrFolder : sites.dr = some folder := hfolder
    rw [← hat]
    apply hexact
    change _ = sites.at ⟨.main, .snapshot (snapshotName base)⟩
    rw [hat, hbase]
    simp [Sites.at, Sites.treeAt, Sites.folder, hdrFolder, Folder.treeAt]

theorem Consistent.keeps_validate {v : View} (h : Consistent v) {n : Nat}
    (hmain : v.latest .main = n) (hdr : v.latest .dr < n)
    (hcopy : ∀ folder, v.dr = some folder →
      v.main.lookup (snapshotName n) = some folder.tree) :
    Keeps Consistent (fun _ => True) (fun _ v => v.latest .main = v.latest .dr)
      validateDistcpSuccessful v := by
  apply keeps_validateDistcpSuccessful h
  intro after hconfirms
  have hafter := h.confirm hconfirms hmain hdr hcopy
  obtain ⟨hmain', hdr'⟩ := hconfirms.latest hmain (by omega)
  rw [hmain]
  obtain ⟨hone, hmain₁, hdr₁⟩ := hafter.withoutPrevious hmain' hdr' .main
  obtain ⟨hboth, hmain₂, hdr₂⟩ := hone.withoutPrevious hmain₁ hdr₁ .dr
  exact ⟨hafter, trivial, hone, hboth, hmain₂.trans hdr₂.symm⟩

def faithful : Discipline State.exact where
  resting := Consistent
  always := Consistent
  rejected := fun _ => True
  ready := fun branch v => Consistent v ∧ Ready v branch
  done := fun v => v.latest .main = v.latest .dr
  check := fun _ h => h.keeps_check
  target := by
    rintro branch v ⟨-, h⟩
    cases h <;> rfl
  validate := by
    rintro state branch tree hphase hallowed ⟨hv, h⟩
    obtain ⟨n, hmain, hdr⟩ := h.latest
    have hexact : branch.exact state.sites tree := by
      simpa [State.exact, hphase] using hallowed
    apply (hv.withDrTree tree (by omega)).keeps_validate (n := n)
    · rwa [View.latest_withDrTree]
    · rwa [View.latest_withDrTree]
    · intro folder hfolder
      obtain ⟨old, -, rfl⟩ := Option.map_eq_some_iff.mp hfolder
      exact h.exact hexact hmain
  torn := by
    rintro branch v tree ⟨hv, h⟩
    obtain ⟨n, hmain, hdr⟩ := h.latest
    exact hv.withDrTree tree (by omega)
  ended := fun _ _ _ _ h => h
  completed := fun _ h _ => h

theorem Consistent.of_fresh {state : State} (h : state.Fresh) :
    Consistent state.sites.view := by
  have hmain : state.sites.view.main = [] := h.main
  have hlatest : state.sites.view.latest .main = -1 := by
    rw [View.latest, View.names, View.snapshots, hmain]
    rfl
  refine ⟨.of_fresh h, ?_, ?_⟩
  · intro name tree tree' htree
    rw [hmain] at htree
    cases htree
  · intro n hn
    omega

/-- Common numbers have common contents, a difference is only applied to its base, and
a completed run leaves the sites with the same latest number. -/
theorem synchronised_folder_consistent {start finish : State} (hstart : start.Fresh)
    (hrun : Reaches (restrictAt State.step State.exact) start finish) :
    (∀ name name' n tree tree', snapshotNumber? name = some n → snapshotNumber? name' = some n →
      finish.sites.at ⟨.main, .snapshot name⟩ = some tree →
      finish.sites.at ⟨.dr, .snapshot name'⟩ = some tree' → tree = tree') ∧
    (∀ base target source folder,
      finish.phase = .copying (.updateFolder base target source folder) →
      source = ⟨.main, .folder⟩ ∧ folder = ⟨.dr, .folder⟩ ∧
        ∃ tree, finish.sites.at folder = some tree ∧
          finish.sites.at (source.snapshot base) = some tree) ∧
    (finish.phase = .idle (some .completed) →
      finish.sites.view.latest .main = finish.sites.view.latest .dr) := by
  have hfresh : faithful.Holds start := by
    unfold Discipline.Holds
    rw [hstart.idle]
    exact ⟨.of_fresh hstart, by simp, by simp⟩
  have hholds := faithful.holds hrun hfresh
  have hconsistent : Consistent finish.sites.view := hholds.view fun _ h => h
  have hat : ∀ site name, finish.sites.at ⟨site, .snapshot name⟩ =
      (finish.sites.view.snapshots site).lookup name :=
    fun site name => treeAt_snapshot finish.sites site name
  refine ⟨?_, ?_, ?_⟩
  · intro name name' n tree tree' hname hname' hmain hdr
    rw [hat] at hmain hdr
    obtain ⟨m, rfl⟩ := hconsistent.named .main name (View.mem_names_of_lookup hmain)
    obtain ⟨m', rfl⟩ := hconsistent.named .dr name' (View.mem_names_of_lookup hdr)
    rw [snapshotNumber?_snapshotName] at hname hname'
    obtain rfl : m = m' := by
      rw [← hname'] at hname
      exact Option.some.inj hname
    exact hconsistent.agree _ tree tree' hmain hdr
  · intro base target source folder hphase
    unfold Discipline.Holds at hholds
    rw [hphase] at hholds
    obtain ⟨-, -, hready⟩ := hholds
    cases hready with
    | updateFolder m n old hmain hdr hfolder hbase =>
      refine ⟨rfl, rfl, old.tree, ?_, ?_⟩
      · have hdrFolder : finish.sites.dr = some old := hfolder
        simp [Sites.at, Sites.treeAt, Sites.folder, hdrFolder, Folder.treeAt]
      · change finish.sites.at ⟨.main, .snapshot (snapshotName m)⟩ = _
        rw [hat]
        exact hbase
  · intro hphase
    unfold Discipline.Holds at hholds
    rw [hphase] at hholds
    exact hholds.2.1 rfl

def runAroundChange : List Move :=
  runUpTo 8 [("part-0", .file [1, 2])] 9 ++ [.next] ++
    [.users (some ⟨[("part-0", .file [1, 2, 3])], true,
      [("snapshot_1", [("part-0", .file [1, 2])])], by simp⟩)] ++
    runUpTo 7 [("part-0", .file [1, 2, 3])] 11 ++ [.next]

theorem change_copied_between_runs :
    ∃ finish, Reaches (restrictAt State.step State.exact) oneFile finish ∧
      finish.sites.at ⟨.dr, .folder⟩ = some [("part-0", .file [1, 2, 3])] ∧
      finish.sites.view.latest .main = finish.sites.view.latest .dr := by
  obtain ⟨finish, hrun, hcheck⟩ := exists_of_replay
    (restrictAt State.step State.exact) oneFile runAroundChange
    (fun state => state.phase.idle? = some (some .completed) ∧
      state.sites.at ⟨.dr, .folder⟩ = some [("part-0", .file [1, 2, 3])]) (by decide +kernel)
  obtain ⟨hphase, htree⟩ := of_decide_eq_true hcheck
  have hcompleted := Phase.idle?_eq_some.mp hphase
  exact ⟨finish, hrun, htree,
    (synchronised_folder_consistent oneFile_fresh hrun).2.2 hcompleted⟩

end QubershipAirflow.DrSync
