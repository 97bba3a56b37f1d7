import Mathlib.Data.List.Basic

/-! Runs of a step function. An action names who moves and what the environment
answers, so a schedule determines the whole run and can be evaluated. -/
namespace Runs

variable {State Action : Type*} {step : State → Action → Option State}

/-- A refused action makes the rest of the schedule impossible. -/
def exec (step : State → Action → Option State) : State → List Action → Option State
  | state, [] => some state
  | state, action :: rest => (step state action).bind fun next => exec step next rest

def Reaches (step : State → Action → Option State) (start finish : State) : Prop :=
  ∃ schedule, exec step start schedule = some finish

@[simp] theorem exec_nil (state : State) : exec step state [] = some state := rfl

theorem exec_cons {state : State} {action : Action} {rest : List Action} {finish : State} :
    exec step state (action :: rest) = some finish ↔
      ∃ next, step state action = some next ∧ exec step next rest = some finish := by
  simp [exec, Option.bind_eq_some_iff]

theorem exec_append (state : State) (first second : List Action) :
    exec step state (first ++ second) =
      (exec step state first).bind fun middle => exec step middle second := by
  induction first generalizing state with
  | nil => rfl
  | cons action rest ih =>
    cases h : step state action with
    | none => simp [exec, h]
    | some next => simp [exec, h, ih]

theorem Reaches.refl (state : State) : Reaches step state state := ⟨[], rfl⟩

theorem Reaches.single {state next : State} {action : Action}
    (h : step state action = some next) : Reaches step state next :=
  ⟨[action], by simp [exec, h]⟩

theorem Reaches.trans {first middle last : State} (h₁ : Reaches step first middle)
    (h₂ : Reaches step middle last) : Reaches step first last := by
  obtain ⟨left, hleft⟩ := h₁
  obtain ⟨right, hright⟩ := h₂
  exact ⟨left ++ right, by rw [exec_append, hleft]; exact hright⟩

theorem Reaches.head {state next last : State} {action : Action}
    (h : step state action = some next) (hrest : Reaches step next last) :
    Reaches step state last :=
  (Reaches.single h).trans hrest

theorem exists_of_replay (step : State → Action → Option State) (start : State)
    (schedule : List Action) (check : State → Bool)
    (h : (exec step start schedule).map check = some true) :
    ∃ finish, Reaches step start finish ∧ check finish = true := by
  obtain ⟨finish, hrun, hcheck⟩ := Option.map_eq_some_iff.mp h
  exact ⟨finish, ⟨schedule, hrun⟩, hcheck⟩

theorem exists_of_two_replays (step : State → Action → Option State) (start : State)
    (first second : List Action) (check check' : State → Bool)
    (h : (((exec step start first).filter check).bind fun middle =>
      exec step middle second).map check' = some true) :
    ∃ middle, Reaches step start middle ∧ check middle = true ∧
      ∃ finish, Reaches step middle finish ∧ check' finish = true := by
  obtain ⟨finish, hrun, hcheck'⟩ := Option.map_eq_some_iff.mp h
  obtain ⟨middle, hmiddle, hsecond⟩ := Option.bind_eq_some_iff.mp hrun
  obtain ⟨hfirst, hcheck⟩ := Option.filter_eq_some_iff.mp hmiddle
  exact ⟨middle, ⟨first, hfirst⟩, hcheck, finish, ⟨second, hsecond⟩, hcheck'⟩

theorem Reaches.invariant {I : State → Prop}
    (hstep : ∀ state action next, I state → step state action = some next → I next)
    {start finish : State} (hrun : Reaches step start finish) (hstart : I start) :
    I finish := by
  obtain ⟨schedule, hrun⟩ := hrun
  induction schedule generalizing start with
  | nil =>
    cases Option.some.inj hrun
    exact hstart
  | cons action rest ih =>
    obtain ⟨next, hnext, hrest⟩ := exec_cons.mp hrun
    exact ih (hstep _ _ _ hstart hnext) hrest

/-- A measure that no step raises and that every counted step lowers bounds how many
counted steps a schedule can have. -/
theorem exec_countP_le {I : State → Prop} (measure : State → Nat) (counted : Action → Bool)
    (hstep : ∀ state action next, I state → step state action = some next →
      I next ∧ (if counted action then 1 else 0) + measure next ≤ measure state)
    {start finish : State} {schedule : List Action} (hstart : I start)
    (hrun : exec step start schedule = some finish) :
    schedule.countP counted + measure finish ≤ measure start := by
  induction schedule generalizing start with
  | nil =>
    cases Option.some.inj hrun
    simp
  | cons action rest ih =>
    obtain ⟨next, hnext, hrest⟩ := exec_cons.mp hrun
    obtain ⟨hinv, hhead⟩ := hstep start action next hstart hnext
    have htail := ih hinv hrest
    rw [List.countP_cons]
    omega

theorem Reaches.invariant_from {start : State} {I : State → Prop} (hstart : I start)
    (hstep : ∀ state action next, Reaches step start state → I state →
      step state action = some next → I next)
    {finish : State} (hrun : Reaches step start finish) : I finish := by
  have hpair : ∀ state action next, Reaches step start state ∧ I state →
      step state action = some next → Reaches step start next ∧ I next := by
    intro state action next h hnext
    exact ⟨h.1.trans (Reaches.single hnext), hstep _ _ _ h.1 h.2 hnext⟩
  exact (Reaches.invariant hpair hrun ⟨Reaches.refl start, hstart⟩).2

/-- Runs all of whose steps are allowed where they are taken. -/
def restrictAt (step : State → Action → Option State) (allowed : State → Action → Bool) :
    State → Action → Option State :=
  fun state action => if allowed state action then step state action else none

theorem restrictAt_eq_some {allowed : State → Action → Bool} {state next : State}
    {action : Action} :
    restrictAt step allowed state action = some next ↔
      allowed state action = true ∧ step state action = some next := by
  simp [restrictAt]

theorem Reaches.of_restrictAt {allowed : State → Action → Bool} {start finish : State}
    (h : Reaches (restrictAt step allowed) start finish) : Reaches step start finish := by
  refine Reaches.invariant_from (I := Reaches step start) (Reaches.refl start) ?_ h
  intro state action next _ hreached hnext
  exact hreached.trans (Reaches.single (restrictAt_eq_some.mp hnext).2)

theorem exec_restrictAt_or (allowed : State → Action → Bool) {start finish : State}
    {schedule : List Action} (hrun : exec step start schedule = some finish) :
    exec (restrictAt step allowed) start schedule = some finish ∨
      ∃ state action next, Reaches step start state ∧ allowed state action = false ∧
        step state action = some next ∧ Reaches step next finish := by
  induction schedule generalizing start with
  | nil => exact .inl hrun
  | cons action rest ih =>
    obtain ⟨next, hnext, hrest⟩ := exec_cons.mp hrun
    cases hallowed : allowed start action with
    | false => exact .inr ⟨start, action, next, .refl start, hallowed, hnext, rest, hrest⟩
    | true =>
      refine (ih hrest).imp (fun h => ?_) ?_
      · exact exec_cons.mpr ⟨next, restrictAt_eq_some.mpr ⟨hallowed, hnext⟩, h⟩
      · rintro ⟨state, other, after, hreach, hrefused, hafter, hfinish⟩
        exact ⟨state, other, after, hreach.head hnext, hrefused, hafter, hfinish⟩

theorem Reaches.allowAll {start finish : State} (h : Reaches step start finish) :
    Reaches (restrictAt step fun _ _ => true) start finish := by
  have hsame : restrictAt step (fun _ _ => true) = step := by
    funext state action
    simp [restrictAt]
  rw [hsame]
  exact h

def restrict (step : State → Action → Option State) (allowed : Action → Bool) :
    State → Action → Option State :=
  restrictAt step fun _ => allowed

theorem restrict_eq_some {allowed : Action → Bool} {state next : State} {action : Action} :
    restrict step allowed state action = some next ↔
      allowed action = true ∧ step state action = some next :=
  restrictAt_eq_some

theorem Reaches.of_restrict {allowed : Action → Bool} {start finish : State}
    (h : Reaches (restrict step allowed) start finish) : Reaches step start finish :=
  Reaches.of_restrictAt h

/-- Progress: when every state short of the goal has a step that keeps the
invariant and lowers the measure, the goal can be reached. -/
theorem reaches_of_measure (step : State → Action → Option State) {I G : State → Prop}
    (measure : State → Nat)
    (hstep : ∀ state, I state → ¬ G state →
      ∃ action next, step state action = some next ∧ I next ∧ measure next < measure state)
    (state : State) (hstate : I state) :
    ∃ finish, Reaches step state finish ∧ G finish := by
  induction hbound : measure state using Nat.strongRecOn generalizing state with
  | _ _ ih =>
    by_cases hgoal : G state
    · exact ⟨state, Reaches.refl state, hgoal⟩
    · obtain ⟨action, next, hnext, hinv, hlt⟩ := hstep state hstate hgoal
      obtain ⟨finish, hrun, hfinish⟩ := ih _ (hbound ▸ hlt) next hinv rfl
      exact ⟨finish, hrun.head hnext, hfinish⟩

end Runs
