import QubershipAirflow.DrSync.Disciplines

/-! Sites on which only the tasks make snapshots: every name is `snapshot_<n>` for a
number, and no name is there twice. -/
namespace QubershipAirflow.DrSync

open Runs

structure Managed (v : View) : Prop where
  named : ∀ site, ∀ name ∈ v.names site, ∃ n : Nat, name = snapshotName n
  distinct : ∀ site, (v.names site).Nodup

namespace Managed

variable {v after : View}

theorem mem_latest (h : Managed v) {site : Site} {n : Nat} (hlatest : v.latest site = n) :
    snapshotName n ∈ v.names site := by
  obtain ⟨name, hmem, hnumber⟩ :=
    List.mem_filterMap.mp (latestNumber_eq_natCast.mp hlatest).1
  obtain ⟨m, rfl⟩ := h.named site name hmem
  rw [snapshotNumber?_snapshotName] at hnumber
  rwa [Option.some.inj hnumber] at hmem

theorem of_names_eq (h : Managed v) (hnames : ∀ site, after.names site = v.names site) :
    Managed after := by
  refine ⟨?_, ?_⟩
  · intro site name hmem
    rw [hnames] at hmem
    exact h.named site name hmem
  · intro site
    rw [hnames]
    exact h.distinct site

theorem withDrTree (h : Managed v) (tree : Tree) : Managed (v.withDrTree tree) :=
  h.of_names_eq (View.names_withDrTree v tree)

theorem drop (h : Managed v) (site : Site) (name : String) : Managed (v.drop site name) := by
  refine ⟨?_, ?_⟩
  · intro other name' hmem
    exact h.named other name' (View.names_drop_subset v name site other hmem)
  · intro other
    cases site <;> cases other <;> simp only [View.names_drop_main, View.names_drop_dr,
      View.names_drop_main_dr, View.names_drop_dr_main]
    · exact (h.distinct .main).filter _
    · exact h.distinct .dr
    · exact h.distinct .main
    · exact (h.distinct .dr).filter _

theorem append (h : Managed v) {site : Site} {n : Nat}
    (hsite : after.names site = v.names site ++ [snapshotName n])
    (hother : ∀ other, other ≠ site → after.names other = v.names other)
    (hfresh : snapshotName n ∉ v.names site) : Managed after := by
  refine ⟨?_, ?_⟩
  · intro other name hmem
    by_cases heq : other = site
    · subst heq
      rw [hsite, List.mem_append, List.mem_singleton] at hmem
      rcases hmem with hmem | rfl
      · exact h.named other name hmem
      · exact ⟨n, rfl⟩
    · rw [hother other heq] at hmem
      exact h.named other name hmem
  · intro other
    by_cases heq : other = site
    · subst heq
      rw [hsite, List.nodup_append]
      refine ⟨h.distinct other, by simp, ?_⟩
      intro name hmem name' hmem' hsame
      rw [List.mem_singleton] at hmem'
      rw [hsame, hmem'] at hmem
      exact hfresh hmem
    · rw [hother other heq]
      exact h.distinct other

theorem addMain (h : Managed v) {n : Nat} (tree : Tree)
    (hfresh : snapshotName n ∉ v.names .main) : Managed (v.addMain (snapshotName n) tree) := by
  apply h.append (View.names_addMain_main v _ tree) _ hfresh
  intro other hother
  cases other with
  | main => exact absurd rfl hother
  | dr => rfl

theorem confirm (h : Managed v) (hconfirms : Confirms v after) {n : Nat}
    (hmain : v.latest .main = n) : Managed after := by
  have hdr := hconfirms.names_dr
  rw [hmain] at hdr
  apply h.append hdr
  · intro other hother
    cases other with
    | main => exact hconfirms.names_main
    | dr => exact absurd rfl hother
  · cases hconfirms with
    | created folder folder' hfolder hcreate =>
      rw [← lookup_eq_none, View.snapshots, hfolder, ← hmain]
      exact (createSnapshot?_eq_some hcreate).1

theorem prepare (h : Managed v) {branch : Branch} (hprepares : Prepares v branch after) :
    Managed after := by
  cases hprepares with
  | first tree folder hmain hdr =>
    apply h.addMain (n := 1) tree
    apply snapshotName_not_mem
    change v.latest .main < (1 : Nat)
    omega
  | again tree folder n hmain hdr =>
    apply (h.drop .main (snapshotName n)).addMain tree
    rw [View.names_drop_main]
    simp
  | update tree n hmain hdr =>
    apply h.addMain tree
    apply snapshotName_not_mem
    change v.latest .main < (n + 1 : Nat)
    omega

theorem of_fresh {state : State} (h : state.Fresh) : Managed state.sites.view := by
  have hnames : ∀ site, state.sites.view.names site = [] := by
    intro site
    rw [View.names, snapshotsOf_eq]
    cases site with
    | main => simp [Sites.folder, h.main]
    | dr => simp [Sites.folder, h.dr]
  refine ⟨?_, ?_⟩
  · intro site name hmem
    rw [hnames] at hmem
    cases hmem
  · intro site
    rw [hnames]
    exact List.nodup_nil

end Managed

def managed : Discipline fun _ _ => true where
  resting := Managed
  always := Managed
  rejected := fun _ => True
  ready := fun branch v => branch.targetFolder = ⟨.dr, .folder⟩ ∧ Managed v ∧
    ∃ n : Nat, v.latest .main = n
  done := fun _ => True
  check := by
    intro v h
    apply keeps_checkFolderState h
    · intro n _ _
      exact h.drop .main _
    · intro branch after hprepares
      have hafter := h.prepare hprepares
      obtain ⟨n, hmain, -⟩ := hprepares.latest
      exact ⟨hafter, hprepares.targetFolder, hafter, n, hmain⟩
  target := fun _ _ h => h.1
  validate := by
    rintro state branch tree - - ⟨-, h, n, hmain⟩
    have hcopied := h.withDrTree tree
    apply keeps_validateDistcpSuccessful hcopied
    intro after hconfirms
    have hafter := hcopied.confirm hconfirms (n := n) (by rwa [View.latest_withDrTree])
    exact ⟨hafter, trivial, hafter.drop .main _, (hafter.drop .main _).drop .dr _, trivial⟩
  torn := fun _ _ tree h => h.2.1.withDrTree tree
  ended := fun _ _ _ _ h => h
  completed := fun _ h _ => h

theorem managed_reachable {start state : State} (hstart : start.Fresh)
    (hrun : Reaches State.step start state) : Managed state.sites.view := by
  have hfresh : managed.Holds start := by
    unfold Discipline.Holds
    rw [hstart.idle]
    exact ⟨.of_fresh hstart, by simp, by simp⟩
  exact (managed.holds hrun.allowAll hfresh).view fun _ h => h

end QubershipAirflow.DrSync
