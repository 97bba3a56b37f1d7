import Mathlib.Logic.Function.Basic
import QubershipAirflow.Library.TaskGraph

/-! Runs of a workflow whose tasks take time. A task that runs keeps its work, of a type
of its own, and is decided when the work ends; other tasks start and end meanwhile. -/
namespace TaskGraph

variable {τ : Type*} {Work : τ → Type*}

structure Live (τ : Type*) (Work : τ → Type*) where
  run : DagRun τ
  working : (task : τ) → Option (Work task)

namespace Live

def initial : Live τ Work := ⟨.initial, fun _ => none⟩

def Running (live : Live τ Work) (task : τ) : Prop := (live.working task).isSome = true

def Over (live : Live τ Work) : Prop := live.run.Complete ∧ ∀ task, ¬ live.Running task

end Live

inductive Ending (τ : Type*) where
  | success (pick : Option τ)
  | failure
  deriving DecidableEq

def Ending.action (task : τ) : Ending τ → Action τ
  | .success pick => .succeed task pick
  | .failure => .fail task

def Action.task : Action τ → τ
  | .succeed task _ | .fail task | .propagate task => task

variable [DecidableEq τ] (g : Graph τ)

def Live.put (live : Live τ Work) (task : τ) (work : Option (Work task)) : Live τ Work :=
  { live with working := Function.update live.working task work }

@[simp] theorem Live.put_run (live : Live τ Work) (task : τ) (work : Option (Work task)) :
    (live.put task work).run = live.run := rfl

@[simp] theorem Live.put_working_self (live : Live τ Work) (task : τ)
    (work : Option (Work task)) : (live.put task work).working task = work :=
  Function.update_self ..

theorem Live.put_working_ne (live : Live τ Work) {task other : τ} (work : Option (Work task))
    (h : other ≠ task) : (live.put task work).working other = live.working other :=
  Function.update_of_ne h ..

def Graph.start (live : Live τ Work) (task : τ) (work : Work task) : Option (Live τ Work) :=
  if live.run.states task = .none ∧ g.verdict live.run task = .run ∧
      (live.working task).isNone then
    some (live.put task (some work))
  else none

def Graph.finish (live : Live τ Work) (task : τ) (ending : Ending τ) : Option (Live τ Work) :=
  if (live.working task).isSome then
    (g.step live.run (ending.action task)).map fun run => ⟨run, (live.put task none).working⟩
  else none

def Graph.pass (live : Live τ Work) (task : τ) : Option (Live τ Work) :=
  (g.step live.run (.propagate task)).map fun run => { live with run := run }

def Graph.Sound (live : Live τ Work) : Prop :=
  ∀ task, live.Running task → live.run.states task = .none ∧ g.verdict live.run task = .run

section Steps

variable {g} {live next : Live τ Work} {task : τ} {work : Work task} {ending : Ending τ}

theorem Graph.start_eq_some : g.start live task work = some next ↔
    live.run.states task = .none ∧ g.verdict live.run task = .run ∧ live.working task = none ∧
      live.put task (some work) = next := by
  simp only [Graph.start, Option.isNone_iff_eq_none, Option.ite_none_right_eq_some,
    Option.some.injEq, and_assoc]

theorem Graph.finish_eq_some : g.finish live task ending = some next ↔
    live.Running task ∧ ∃ run, g.step live.run (ending.action task) = some run ∧
      (⟨run, (live.put task none).working⟩ : Live τ Work) = next := by
  simp only [Graph.finish, Option.ite_none_right_eq_some, Option.map_eq_some_iff, Live.Running]

theorem Graph.pass_eq_some : g.pass live task = some next ↔
    ∃ run, g.step live.run (.propagate task) = some run ∧ { live with run := run } = next := by
  simp only [Graph.pass, Option.map_eq_some_iff]

omit [DecidableEq τ] in
theorem Graph.Sound.upstream (h : g.Sound live) (hrunning : live.Running task) {other : τ}
    (hmem : other ∈ g.upstream task) :
    live.run.states other = .success ∨ live.run.states other = .skipped :=
  (g.verdict_run (h task hrunning).2).1 other hmem

omit [DecidableEq τ] in
theorem Graph.Sound.upstream_success (h : g.Sound live) (hrunning : live.Running task)
    (hsome : g.upstream task ≠ []) :
    ∃ other ∈ g.upstream task, live.run.states other = .success :=
  (g.verdict_run (h task hrunning).2).2 hsome

omit [DecidableEq τ] in
theorem Graph.verdict_congr {run after : DagRun τ}
    (h : ∀ other ∈ g.upstream task, after.states other = run.states other) :
    g.verdict after task = g.verdict run task := by
  unfold Graph.verdict
  rw [List.map_congr_left h]

/-- A step decides a task that it does not name only when the task waits for the named one. -/
theorem Graph.states_of_step {run after : DagRun τ} {action : Action τ} {other : τ}
    (h : g.step run action = some after) (hnone : run.states other = .none)
    (hsettled : ∀ before ∈ g.upstream other, run.states before ≠ .none) :
    after.states other = .none ∨ (∃ pick, action = .succeed other pick) ∨
      action = .fail other ∨ action = .propagate other := by
  cases action with
  | succeed runner pick =>
    by_cases hself : other = runner
    · exact .inr (.inl ⟨pick, by rw [hself]⟩)
    · simp only [step] at h
      split_ifs at h with hready
      cases h
      refine .inl ?_
      have hchoice : other ∉ g.choices runner := fun hmem =>
        hsettled runner (g.choices_upstream _ _ hmem) hready.1
      simp only [succeed, if_neg hself, hchoice, false_and, if_false, hnone]
  | fail runner =>
    by_cases hself : other = runner
    · exact .inr (.inr (.inl (by rw [hself])))
    · simp only [step] at h
      split_ifs at h
      cases h
      exact .inl (by simp only [DagRun.set, if_neg hself, hnone])
  | propagate runner =>
    by_cases hself : other = runner
    · exact .inr (.inr (.inr (by rw [hself])))
    · simp only [step] at h
      split_ifs at h
      split at h
      · cases h
        exact .inl (by simp only [DagRun.set, if_neg hself, hnone])
      · cases h

theorem Graph.still_allowed {run after : DagRun τ} {action : Action τ} {other : τ}
    (h : g.step run action = some after) (hnone : run.states other = .none)
    (hverdict : g.verdict run other = .run)
    (hother : (∀ pick, action ≠ .succeed other pick) ∧ action ≠ .fail other) :
    after.states other = .none ∧ g.verdict after other = .run := by
  have hsettled : ∀ before ∈ g.upstream other, run.states before ≠ .none := by
    intro before hmem hidle
    simpa [hidle] using (g.verdict_run hverdict).1 before hmem
  have hsame : g.verdict after other = .run := by
    rw [Graph.verdict_congr fun before hmem => (g.step_extends h before (hsettled before hmem)).1]
    exact hverdict
  obtain hstill | ⟨pick, hpick⟩ | hfail | hpropagate := Graph.states_of_step h hnone hsettled
  · exact ⟨hstill, hsame⟩
  · exact absurd hpick (hother.1 pick)
  · exact absurd hfail hother.2
  · subst hpropagate
    simp [step, hnone, hverdict] at h

inductive Graph.Moves (g : Graph τ) (live : Live τ Work) : Live τ Work → Prop where
  | start {next : Live τ Work} (task : τ) (work : Work task)
      (h : g.start live task work = some next) : Moves g live next
  | work (task : τ) (work : Work task) (hrunning : live.Running task) :
      Moves g live (live.put task (some work))
  | finish {next : Live τ Work} (task : τ) (ending : Ending τ)
      (h : g.finish live task ending = some next) : Moves g live next
  | pass {next : Live τ Work} (task : τ) (h : g.pass live task = some next) : Moves g live next

omit [DecidableEq τ] in
theorem Graph.Sound.initial : g.Sound (Live.initial : Live τ Work) := by
  intro task hrunning
  cases hrunning

theorem Graph.Sound.put (h : g.Sound live)
    (hallowed : live.run.states task = .none ∧ g.verdict live.run task = .run)
    (work : Option (Work task)) : g.Sound (live.put task work) := by
  intro other hother
  by_cases hself : other = task
  · subst hself
    exact hallowed
  · refine h other ?_
    rwa [Live.Running, Live.put_working_ne _ _ hself] at hother

theorem Graph.Sound.finish (h : g.Sound live) (hfinish : g.finish live task ending = some next) :
    g.Sound next := by
  obtain ⟨-, run, hstep, rfl⟩ := Graph.finish_eq_some.1 hfinish
  intro other hother
  have hself : other ≠ task := by
    rintro rfl
    simp [Live.Running] at hother
  have hrunning : live.Running other := by
    rwa [Live.Running, Live.put_working_ne _ _ hself] at hother
  refine Graph.still_allowed hstep (h other hrunning).1 (h other hrunning).2 ?_
  cases ending <;> simp [Ending.action, Ne.symm hself]

theorem Graph.Sound.moves (h : g.Sound live) (hmoves : g.Moves live next) : g.Sound next := by
  cases hmoves with
  | start task work hstart =>
    obtain ⟨hnone, hverdict, -, rfl⟩ := Graph.start_eq_some.1 hstart
    exact h.put ⟨hnone, hverdict⟩ _
  | work task work hrunning => exact h.put (h task hrunning) _
  | finish task ending hfinish => exact h.finish hfinish
  | pass task hpass =>
    obtain ⟨run, hstep, rfl⟩ := Graph.pass_eq_some.1 hpass
    intro other hrunning
    exact Graph.still_allowed hstep (h other hrunning).1 (h other hrunning).2 (by simp)

/-- The states of the tasks change as in a run whose tasks take no time. -/
theorem Graph.Moves.run (hmoves : g.Moves live next) :
    next.run = live.run ∨ ∃ action, g.step live.run action = some next.run := by
  cases hmoves with
  | start task work hstart =>
    obtain ⟨-, -, -, rfl⟩ := Graph.start_eq_some.1 hstart
    exact .inl rfl
  | work task work hrunning => exact .inl rfl
  | finish task ending hfinish =>
    obtain ⟨-, run, hstep, rfl⟩ := Graph.finish_eq_some.1 hfinish
    exact .inr ⟨_, hstep⟩
  | pass task hpass =>
    obtain ⟨run, hstep, rfl⟩ := Graph.pass_eq_some.1 hpass
    exact .inr ⟨_, hstep⟩

theorem Graph.Moves.reaches (hmoves : g.Moves live next) :
    Runs.Reaches g.step live.run next.run := by
  obtain hsame | ⟨action, hstep⟩ := hmoves.run
  · rw [hsame]
    exact .refl _
  · exact .single hstep

theorem Graph.Moves.extends (hmoves : g.Moves live next) : live.run.Extends next.run := by
  obtain hsame | ⟨action, hstep⟩ := hmoves.run
  · rw [hsame]
    exact fun _ _ => ⟨rfl, rfl⟩
  · exact g.step_extends hstep

theorem Graph.success_of_step {run after : DagRun τ} {action : Action τ}
    (h : g.step run action = some after) (hne : ∀ pick, action ≠ .succeed task pick)
    (hsuccess : after.states task = .success) : run.states task = .success := by
  cases action with
  | succeed runner pick =>
    have hself : task ≠ runner := fun hself => hne pick (by rw [hself])
    simp only [step] at h
    split_ifs at h
    cases h
    simp only [succeed, if_neg hself] at hsuccess
    split_ifs at hsuccess
    exact hsuccess
  | fail runner =>
    simp only [step] at h
    split_ifs at h
    cases h
    simp only [DagRun.set] at hsuccess
    split_ifs at hsuccess
    exact hsuccess
  | propagate runner =>
    simp only [step] at h
    split_ifs at h
    split at h
    · rename_i state hset
      cases h
      simp only [DagRun.set] at hsuccess
      split_ifs at hsuccess
      · rcases g.verdict_set hset with ⟨hstate, -⟩ | ⟨hstate, -⟩ <;> simp [hsuccess] at hstate
      · exact hsuccess
    · cases h

theorem Graph.states_other {run after : DagRun τ} {action : Action τ} {other : τ}
    (h : g.step run action = some after) (hself : other ≠ action.task)
    (hchoice : other ∉ g.choices action.task) : after.states other = run.states other := by
  cases action with
  | succeed runner pick =>
    simp only [step] at h
    split_ifs at h
    cases h
    simp only [Action.task] at hself hchoice
    simp only [succeed, if_neg hself, hchoice, false_and, if_false]
  | fail runner =>
    simp only [step] at h
    split_ifs at h
    cases h
    exact if_neg hself
  | propagate runner =>
    simp only [step] at h
    split_ifs at h
    split at h
    · cases h
      exact if_neg hself
    · cases h

theorem Graph.states_propagate {run after : DagRun τ}
    (h : g.step run (.propagate task) = some after) :
    run.states task = .none ∧
      (after.states task = .upstreamFailed ∨ after.states task = .skipped) := by
  simp only [step] at h
  split_ifs at h with hnone
  split at h
  · rename_i state hverdict
    cases h
    refine ⟨hnone, ?_⟩
    rcases g.verdict_set hverdict with ⟨rfl, -⟩ | ⟨rfl, -⟩ <;> simp [DagRun.set]
  · cases h

theorem Graph.states_pick {run after : DagRun τ} {pick : τ} (hne : pick ≠ task)
    (h : g.step run (.succeed task (some pick)) = some after) :
    after.states pick = run.states pick := by
  simp only [step] at h
  split_ifs at h
  cases h
  simp only [succeed, if_neg hne, ne_eq, not_true_eq_false, false_and, and_false, if_false]

omit [DecidableEq τ] in
theorem Graph.Justified.undecided {run : DagRun τ} (hjust : g.Justified run task)
    (hsome : g.upstream task ≠ [])
    (hnone : ∀ other ∈ g.upstream task, run.states other = .none) :
    run.states task = .none := by
  have hran : ¬ run.executed task := fun hran => by
    obtain ⟨other, hmem, hother⟩ := (hjust.ran hran).2 hsome
    simp [hnone other hmem] at hother
  cases hstate : run.states task with
  | none => rfl
  | success => simp [DagRun.executed, hstate, TaskState.isExecuted] at hran
  | failed => simp [DagRun.executed, hstate, TaskState.isExecuted] at hran
  | skipped =>
    rcases hjust.skipped hstate with ⟨brancher, hmem, hsuccess, -⟩ | ⟨⟨other, hmem, hother⟩, -⟩
    · simp [hnone _ (g.choices_upstream _ _ hmem)] at hsuccess
    · simp [hnone other hmem] at hother
  | upstreamFailed =>
    obtain ⟨other, hmem, hother⟩ := hjust.failed hstate
    simp [hnone other hmem, TaskState.isFailure] at hother

end Steps

end TaskGraph
