import QubershipAirflow.DrSync.Disciplines
import QubershipAirflow.DrSync.Undisturbed

/-! What a rejected validation leaves: a DR snapshot under the number it rejected. The
next run sees equal numbers and copies a difference onto it. -/
namespace QubershipAirflow.DrSync

open Programs Runs

def AgreeOnLatest (v : View) : Prop :=
  ∃ n : Nat, v.latest .main = n ∧ v.latest .dr = n

def anyRun : Discipline fun _ _ => true where
  resting := fun _ => True
  always := fun _ => True
  rejected := AgreeOnLatest
  ready := fun branch v => branch.targetFolder = ⟨.dr, .folder⟩ ∧
    ∃ n : Nat, v.latest .main = n ∧ v.latest .dr < n
  done := fun _ => True
  check := by
    intro v _
    apply keeps_checkFolderState trivial (fun _ _ _ => trivial)
    intro branch after h
    exact ⟨trivial, h.targetFolder, h.latest⟩
  target := fun _ _ h => h.1
  validate := by
    rintro state branch tree - - ⟨-, n, hmain, hdr⟩
    apply keeps_validateDistcpSuccessful trivial
    intro after hconfirms
    have hlatest := hconfirms.latest (n := n) (by rwa [View.latest_withDrTree])
      (by rw [View.latest_withDrTree]; omega)
    exact ⟨trivial, ⟨n, hlatest⟩, trivial, trivial, trivial⟩
  torn := fun _ _ _ _ => trivial
  ended := fun _ _ _ _ _ => trivial
  completed := fun _ _ _ => trivial

def BothNumbered (v : View) : Prop := ∀ site, v.latest site ≠ -1

theorem latest_ne_of_mem {v : View} {site : Site} {name : String} {n : Nat}
    (hmem : name ∈ v.names site) (hnumber : snapshotNumber? name = some n) :
    v.latest site ≠ -1 := by
  have hle : (n : Int) ≤ v.latest site := le_latestNumber hmem hnumber
  omega

theorem BothNumbered.withoutPrevious {v : View} (h : BothNumbered v) {n : Nat} {site : Site}
    {name : String} (hmem : name ∈ v.names site) (hnumber : snapshotNumber? name = some n) :
    BothNumbered (v.withoutPrevious site n) ∧ name ∈ (v.withoutPrevious site n).names site := by
  have hne : name ≠ snapshotName ((n : Int) - 1) := by
    intro heq
    rw [heq] at hnumber
    exact snapshotNumber?_pred_ne n hnumber
  have hkept : name ∈ (v.withoutPrevious site n).names site := by
    rw [View.withoutPrevious, View.names_drop]
    exact List.mem_filter.mpr ⟨hmem, by simpa using hne⟩
  refine ⟨fun other => ?_, hkept⟩
  by_cases hother : other = site
  · rw [hother]
    exact latest_ne_of_mem hkept hnumber
  · have hsame : (v.withoutPrevious site n).latest other = v.latest other := by
      cases site <;> cases other <;> first | rfl | exact absurd rfl hother
    rw [hsame]
    exact h other

theorem BothNumbered.withDrTree {v : View} (h : BothNumbered v) (tree : Tree) :
    BothNumbered (v.withDrTree tree) := by
  intro site
  rw [View.latest_withDrTree]
  exact h site

theorem BothNumbered.keeps_validate {v : View} (h : BothNumbered v) :
    Keeps BothNumbered (fun _ => True) (fun _ => BothNumbered) validateDistcpSuccessful v := by
  apply keeps_validateDistcpSuccessful h
  intro after hconfirms
  obtain hnone | ⟨n, hn⟩ := latestNumber_cases (v.names .main)
  · exact absurd hnone (h .main)
  change v.latest .main = n at hn
  rw [hn]
  have hdr : snapshotName n ∈ after.names .dr := by
    rw [hconfirms.names_dr, hn]
    simp
  obtain ⟨name, hname, hnumber⟩ := List.mem_filterMap.mp (latestNumber_eq_natCast.mp hn).1
  have hmain : name ∈ after.names .main := by
    rw [hconfirms.names_main]
    exact hname
  have hafter : BothNumbered after := by
    intro site
    cases site with
    | main => exact latest_ne_of_mem hmain hnumber
    | dr => exact latest_ne_of_mem hdr (snapshotNumber?_snapshotName n)
  obtain ⟨hone, -⟩ := hafter.withoutPrevious hmain hnumber
  have hdr' : snapshotName n ∈ (after.withoutPrevious .main n).names .dr := hdr
  obtain ⟨hboth, -⟩ := hone.withoutPrevious hdr' (snapshotNumber?_snapshotName n)
  exact ⟨hafter, trivial, hone, hboth, hboth⟩

def numbered : Discipline fun _ _ => true where
  resting := BothNumbered
  always := BothNumbered
  rejected := fun _ => True
  ready := fun branch v => BothNumbered v ∧
    ∃ base target, branch = .updateFolder base target ⟨.main, .folder⟩ ⟨.dr, .folder⟩
  done := BothNumbered
  check := by
    intro v h
    apply keeps_checkFolderState h
    · intro n _ hdr
      exact absurd hdr (h .dr)
    · intro branch after hprepares
      cases hprepares with
      | first tree folder hmain hdr => exact absurd hdr (h .dr)
      | again tree folder n hmain hdr => exact absurd hdr (h .dr)
      | update tree n hmain hdr =>
        have hlatest := View.latest_addMain (n := n + 1) tree (le_of_eq_of_le hmain (by omega))
        have hafter : BothNumbered (v.addMain (snapshotName (n + 1 : Nat)) tree) := by
          intro site
          cases site with
          | main => omega
          | dr => exact h .dr
        exact ⟨hafter, hafter, _, _, rfl⟩
  target := by
    rintro _ v ⟨-, base, target, rfl⟩
    rfl
  validate := by
    rintro state branch tree - - ⟨h, -⟩
    exact (h.withDrTree tree).keeps_validate
  torn := fun _ _ tree h => h.1.withDrTree tree
  ended := fun _ _ _ _ h => h
  completed := fun _ h _ => h

/-- The rejected snapshot is on both sites when the run ends. -/
theorem rejection_leaves_agreement {start state : State} (hstart : start.phase = .idle none)
    (hrun : Reaches State.step start state)
    (hrejected : state.phase = .idle (some (.failed listsDifferent))) :
    AgreeOnLatest state.sites.view := by
  have hfresh : anyRun.Holds start := by
    unfold Discipline.Holds
    rw [hstart]
    exact ⟨trivial, by simp, by simp⟩
  have hholds := anyRun.holds hrun.allowAll hfresh
  unfold Discipline.Holds at hholds
  rw [hrejected] at hholds
  exact hholds.2.2 rfl

theorem AgreeOnLatest.reaches_update {state : State} (h : AgreeOnLatest state.sites.view)
    {last : Option Outcome} (hidle : state.phase = .idle last) :
    ∃ n : Nat, state.sites.view.latest .dr = n ∧ ∃ later, Reaches State.step state later ∧
      later.phase = .copying (.updateFolder (snapshotName n) (snapshotName (n + 1 : Nat))
        ⟨.main, .folder⟩ ⟨.dr, .folder⟩) ∧
      later.sites.dr = state.sites.dr := by
  obtain ⟨n, hmain, hdr⟩ := h
  obtain ⟨sites', tree, hcheck, hview⟩ := run_checkFolderState hmain hdr
  have hstart : state.step .start = some ⟨state.sites, .checking checkFolderState⟩ := by
    simp [State.step, hidle]
  have hlater := Reaches.head hstart (reaches_choice hcheck)
  exact ⟨n, hdr, _, hlater, rfl, congrArg View.dr hview⟩

theorem AgreeOnLatest.bothNumbered {v : View} (h : AgreeOnLatest v) : BothNumbered v := by
  obtain ⟨n, hmain, hdr⟩ := h
  intro site
  cases site <;> omega

/-- From numbered sites on, a run that copies at all copies a difference. -/
theorem BothNumbered.copies_difference {state later : State} {last : Option Outcome}
    {branch : Branch} (h : BothNumbered state.sites.view) (hidle : state.phase = .idle last)
    (hlater : Reaches State.step state later) (hcopying : later.phase = .copying branch) :
    ∃ base target, branch = .updateFolder base target ⟨.main, .folder⟩ ⟨.dr, .folder⟩ := by
  have hstart : numbered.Holds state := by
    unfold Discipline.Holds
    rw [hidle]
    exact ⟨h, fun _ => h, fun _ => trivial⟩
  have hholds := numbered.holds hlater.allowAll hstart
  unfold Discipline.Holds at hholds
  rw [hcopying] at hholds
  exact hholds.2.2

/-- After every rejection the next run may copy a difference onto the rejected snapshot,
the DR site being as the rejected run left it, and no run copies anything else. -/
theorem rejection_forgotten {start state : State} (hstart : start.phase = .idle none)
    (hrun : Reaches State.step start state)
    (hrejected : state.phase = .idle (some (.failed listsDifferent))) :
    (∃ n : Nat, state.sites.view.latest .dr = n ∧ ∃ later, Reaches State.step state later ∧
      later.phase = .copying (.updateFolder (snapshotName n) (snapshotName (n + 1 : Nat))
        ⟨.main, .folder⟩ ⟨.dr, .folder⟩) ∧
      later.sites.dr = state.sites.dr) ∧
    ∀ later branch, Reaches State.step state later → later.phase = .copying branch →
      ∃ base target, branch = .updateFolder base target ⟨.main, .folder⟩ ⟨.dr, .folder⟩ := by
  have hagree := rejection_leaves_agreement hstart hrun hrejected
  refine ⟨hagree.reaches_update hrejected, ?_⟩
  intro later branch hlater hcopying
  exact hagree.bothNumbered.copies_difference hrejected hlater hcopying

def wrongCopy : List Move := runUpTo 8 [("part-1", .file [1, 2])] 5 ++ [.next]

theorem wrong_copy_forgotten :
    ∃ state, Reaches State.step oneFile state ∧
      ∃ n : Nat, state.sites.view.latest .dr = n ∧ ∃ later, Reaches State.step state later ∧
        later.phase = .copying (.updateFolder (snapshotName n) (snapshotName (n + 1 : Nat))
          ⟨.main, .folder⟩ ⟨.dr, .folder⟩) ∧
        later.sites.dr = state.sites.dr := by
  obtain ⟨state, hrun, hcheck⟩ := exists_of_replay State.step oneFile wrongCopy
    (fun state => state.phase.idle? = some (some (.failed listsDifferent)))
    (by decide +kernel)
  have hrejected := Phase.idle?_eq_some.mp (of_decide_eq_true hcheck)
  exact ⟨state, hrun, (rejection_forgotten rfl hrun hrejected).1⟩

theorem difference_onto_rejected_snapshot :
    oneFile.Fresh ∧ oneFile.sites.at ⟨.dr, .folder⟩ = some [] ∧
      ∃ state, Reaches State.step oneFile state ∧
        state.phase = .idle (some (.failed listsDifferent)) ∧
        ∃ later, Reaches State.step state later ∧
          later.phase = .copying (.updateFolder "snapshot_1" "snapshot_2"
            ⟨.main, .folder⟩ ⟨.dr, .folder⟩) ∧
          later.sites.at ⟨.dr, .snapshot "snapshot_1"⟩ = some [("part-1", .file [1, 2])] ∧
          later.sites.at ⟨.main, .snapshot "snapshot_1"⟩ = some [("part-0", .file [1, 2])] := by
  obtain ⟨state, hrun, hrejected, later, hlater, hcheck⟩ :=
    exists_of_two_replays State.step oneFile wrongCopy
      ([.start] ++ List.replicate 7 .call ++ [.next])
      (fun state => state.phase.idle? = some (some (.failed listsDifferent)))
      (fun later => later.phase.copying? = some (.updateFolder "snapshot_1" "snapshot_2"
          ⟨.main, .folder⟩ ⟨.dr, .folder⟩) ∧
        later.sites.at ⟨.dr, .snapshot "snapshot_1"⟩ = some [("part-1", .file [1, 2])] ∧
        later.sites.at ⟨.main, .snapshot "snapshot_1"⟩ = some [("part-0", .file [1, 2])])
      (by decide +kernel)
  obtain ⟨hphase, hdr, hmain⟩ := of_decide_eq_true hcheck
  exact ⟨oneFile_fresh, rfl, state, hrun,
    Phase.idle?_eq_some.mp (of_decide_eq_true hrejected), later, hlater,
    Phase.copying?_eq_some.mp hphase, hdr, hmain⟩

end QubershipAirflow.DrSync
