import QubershipAirflow.DrSync.TaskContracts

/-! From contracts of the tasks to every reachable state. A discipline says what holds
of the view in each phase of a run, for histories whose steps are all allowed. -/
namespace QubershipAirflow.DrSync

open Programs Runs

def State.fails (state : State) : Move → Bool
  | .fail => true
  | .distcp _ succeeded => !succeeded
  | .next =>
      match state.phase with
      | .checking (.throw _) => true
      | .validating (.throw _) => true
      | _ => false
  | _ => false

theorem State.distcp_eq_some {state next : State} {tree : Tree} {succeeded : Bool}
    (h : state.step (.distcp tree succeeded) = some next) :
    ∃ branch sites, state.phase = .copying branch ∧
      state.sites.copied branch.targetFolder tree = some sites ∧
      next = ⟨sites, if succeeded then .validating validateDistcpSuccessful
        else .idle (some (.failed .hdfs))⟩ := by
  unfold State.step at h
  cases hphase : state.phase with
  | copying branch =>
    simp only [hphase] at h
    obtain ⟨sites, hcopied, rfl⟩ := Option.map_eq_some_iff.mp h
    exact ⟨branch, sites, rfl, hcopied, rfl⟩
  | idle last => simp [hphase] at h
  | checking task => simp [hphase] at h
  | validating task => simp [hphase] at h

theorem Phase.fail_eq_some {phase after : Phase} (h : phase.fail = some after) :
    after = .idle (some (.failed .hdfs)) := by
  cases phase with
  | idle last => cases h
  | _ => exact (Option.some.inj h).symm

theorem State.fails_step {state next : State} {move : Move} (hfails : state.fails move = true)
    (hstep : state.step move = some next) :
    (∃ last, next.phase = .idle last) ∧
      ∀ site, next.sites.view.names site = state.sites.view.names site := by
  cases move with
  | start => cases hfails
  | call => cases hfails
  | users folder => cases hfails
  | fail =>
    obtain ⟨phase, hfail, rfl⟩ := Option.map_eq_some_iff.mp hstep
    exact ⟨⟨_, Phase.fail_eq_some hfail⟩, fun _ => rfl⟩
  | next =>
    obtain ⟨phase, hnext, rfl⟩ := Option.map_eq_some_iff.mp hstep
    refine ⟨?_, fun _ => rfl⟩
    unfold State.fails at hfails
    unfold Phase.next at hnext
    split at hnext <;> simp_all only [Option.some.injEq, Bool.false_eq_true]
    · exact ⟨_, hnext.symm⟩
    · exact ⟨_, hnext.symm⟩
  | distcp tree succeeded =>
    obtain ⟨branch, sites, -, hcopied, rfl⟩ := State.distcp_eq_some hstep
    have hfailed : succeeded = false := by simpa [State.fails] using hfails
    subst hfailed
    exact ⟨⟨_, rfl⟩, names_copied hcopied⟩

structure Discipline (allowed : State → Move → Bool) where
  resting : View → Prop
  always : View → Prop
  rejected : View → Prop
  ready : Branch → View → Prop
  done : View → Prop
  check : ∀ v, resting v → Keeps always rejected ready checkFolderState v
  target : ∀ branch v, ready branch v → branch.targetFolder = ⟨.dr, .folder⟩
  validate : ∀ state branch tree, state.phase = .copying branch →
    allowed state (.distcp tree true) = true → ready branch state.sites.view →
    Keeps always rejected (fun _ => done) validateDistcpSuccessful
      (state.sites.view.withDrTree tree)
  torn : ∀ branch v tree, ready branch v → resting (v.withDrTree tree)
  ended : ∀ state move, allowed state move = true → state.fails move = true →
    always state.sites.view → resting state.sites.view
  completed : ∀ v, always v → done v → resting v

variable {allowed : State → Move → Bool} (d : Discipline allowed)

namespace Discipline

def Holds (state : State) : Prop :=
  match state.phase with
  | .idle last => d.resting state.sites.view ∧
      (last = some .completed → d.done state.sites.view) ∧
      (last = some (.failed listsDifferent) → d.rejected state.sites.view)
  | .checking task => Keeps d.always d.rejected d.ready task state.sites.view
  | .copying branch => d.always state.sites.view ∧ d.ready branch state.sites.view
  | .validating task =>
      Keeps d.always d.rejected (fun _ => d.done) task state.sites.view

variable {d}

theorem Holds.always {state : State} (h : d.Holds state)
    (hbusy : ∀ last, state.phase ≠ .idle last) : d.always state.sites.view := by
  unfold Holds at h
  cases hphase : state.phase with
  | idle last => exact absurd hphase (hbusy last)
  | checking task => rw [hphase] at h; exact Meets.always h
  | copying branch => rw [hphase] at h; exact h.1
  | validating task => rw [hphase] at h; exact Meets.always h

theorem Holds.view {state : State} (h : d.Holds state)
    (hresting : ∀ v, d.resting v → d.always v) : d.always state.sites.view := by
  cases hphase : state.phase with
  | idle last =>
    unfold Holds at h
    rw [hphase] at h
    exact hresting _ h.1
  | _ => exact h.always (by simp [hphase])

theorem Holds.lost {state : State} {failure : Failure}
    (hresting : d.resting state.sites.view)
    (hrejected : failure = listsDifferent → d.rejected state.sites.view) :
    d.Holds { state with phase := .idle (some (.failed failure)) } := by
  refine ⟨hresting, by simp, fun h => hrejected ?_⟩
  cases h
  rfl

theorem Holds.call {state : State} {sites : Sites} {phase : Phase} (h : d.Holds state)
    (hcall : state.phase.call state.sites = some (sites, phase)) :
    d.Holds ⟨sites, phase⟩ := by
  unfold Holds at h
  cases hphase : state.phase with
  | idle last => rw [hphase] at hcall; cases hcall
  | copying branch => rw [hphase] at hcall; cases hcall
  | checking task =>
    rw [hphase] at h hcall
    obtain ⟨⟨task', sites'⟩, hadvance, heq⟩ := Option.map_eq_some_iff.mp hcall
    cases heq
    exact Meets.advance h hadvance
  | validating task =>
    rw [hphase] at h hcall
    obtain ⟨⟨task', sites'⟩, hadvance, heq⟩ := Option.map_eq_some_iff.mp hcall
    cases heq
    exact Meets.advance h hadvance

theorem Holds.next {state : State} {phase : Phase} (h : d.Holds state)
    (hallowed : allowed state .next = true) (hnext : state.phase.next = some phase) :
    d.Holds { state with phase := phase } := by
  have hended := d.ended state .next hallowed
  unfold State.fails at hended
  unfold Holds at h
  cases hphase : state.phase with
  | idle last => rw [hphase] at hnext; cases hnext
  | copying branch => rw [hphase] at hnext; cases hnext
  | checking task =>
    rw [hphase] at h hnext hended
    cases task with
    | call op rest => cases hnext
    | pure branch =>
      cases hnext
      exact h
    | throw failure =>
      cases hnext
      exact Holds.lost (hended rfl h.1) h.2
  | validating task =>
    rw [hphase] at h hnext hended
    cases task with
    | call op rest => cases hnext
    | pure value =>
      cases hnext
      exact ⟨d.completed _ h.1 h.2, fun _ => h.2, by simp⟩
    | throw failure =>
      cases hnext
      exact Holds.lost (hended rfl h.1) h.2

theorem Holds.distcp {state next : State} {tree : Tree} {succeeded : Bool}
    (h : d.Holds state) (hallowed : allowed state (.distcp tree succeeded) = true)
    (hstep : state.step (.distcp tree succeeded) = some next) : d.Holds next := by
  obtain ⟨branch, sites, hphase, hcopied, rfl⟩ := State.distcp_eq_some hstep
  unfold Holds at h
  rw [hphase] at h
  rw [d.target branch _ h.2] at hcopied
  have hview := copied_dr hcopied
  cases succeeded with
  | true =>
    have hvalidate := d.validate state branch tree hphase hallowed h.2
    rw [← hview] at hvalidate
    exact hvalidate
  | false =>
    have hresting := d.torn branch _ tree h.2
    rw [← hview] at hresting
    exact ⟨hresting, by simp, by simp [listsDifferent]⟩

theorem users_eq_some {state next : State} {folder : Option Folder} :
    state.step (.users folder) = some next ↔
      snapshotsOf folder = snapshotsOf state.sites.main ∧
        { state with sites := { state.sites with main := folder } } = next := by
  simp [State.step]

theorem Holds.step {state next : State} {move : Move} (h : d.Holds state)
    (hallowed : allowed state move = true) (hstep : state.step move = some next) :
    d.Holds next := by
  cases move with
  | distcp tree succeeded => exact h.distcp hallowed hstep
  | call =>
    obtain ⟨⟨sites, phase⟩, hcall, rfl⟩ := Option.map_eq_some_iff.mp hstep
    exact h.call hcall
  | next =>
    obtain ⟨phase, hnext, rfl⟩ := Option.map_eq_some_iff.mp hstep
    exact h.next hallowed hnext
  | start =>
    unfold State.step at hstep
    unfold Holds at h
    cases hphase : state.phase with
    | idle last =>
      rw [hphase] at h
      simp only [hphase, Option.some.injEq] at hstep
      subst hstep
      exact d.check _ h.1
    | _ => simp [hphase] at hstep
  | fail =>
    obtain ⟨phase, hfail, rfl⟩ := Option.map_eq_some_iff.mp hstep
    have hbusy : ∀ last, state.phase ≠ .idle last := by
      intro last hphase
      rw [hphase] at hfail
      cases hfail
    rw [Phase.fail_eq_some hfail]
    refine Holds.lost (d.ended state .fail hallowed rfl (h.always hbusy)) fun heq => ?_
    cases heq
  | users folder =>
    obtain ⟨hsame, rfl⟩ := users_eq_some.mp hstep
    have hview : ({ state.sites with main := folder } : Sites).view = state.sites.view := by
      unfold Sites.view
      rw [hsame]
    unfold Holds at h ⊢
    rw [hview]
    exact h

/-- A discipline that holds at rest holds in every state that allowed steps reach. -/
theorem holds (d : Discipline allowed) {start finish : State}
    (hrun : Reaches (restrictAt State.step allowed) start finish)
    (hstart : d.Holds start) : d.Holds finish := by
  refine Reaches.invariant (I := d.Holds) ?_ hrun hstart
  intro state move next hholds hstep
  obtain ⟨hallowed, hstep⟩ := restrictAt_eq_some.mp hstep
  exact hholds.step hallowed hstep

end Discipline

end QubershipAirflow.DrSync
