import Mathlib.Data.Fintype.Basic
import Mathlib.Data.Finset.Max
import QubershipAirflow.Library.Runs

/-! Runs of a workflow: tasks with upstream tasks, a trigger rule each, and branch
tasks that return the one choice to follow. The scheduler looks at tasks in any
order. It passes a failure or a skip on as soon as it sees one, and starts a task
when the rule is met. -/
namespace TaskGraph

inductive TriggerRule where
  | allSuccess
  | noneFailedMinOneSuccess
  deriving DecidableEq, Repr

inductive TaskState where
  | none
  | success
  | failed
  | skipped
  | upstreamFailed
  deriving DecidableEq, Repr

def TaskState.isFailure : TaskState → Bool
  | .failed | .upstreamFailed => true
  | _ => false

def TaskState.isExecuted : TaskState → Bool
  | .success | .failed => true
  | _ => false

/-- `choices` of a branch task are the tasks it may return; other tasks have none.
The ranks show that the wiring has no cycle. -/
structure Graph (τ : Type*) where
  upstream : τ → List τ
  rule : τ → TriggerRule
  choices : τ → List τ
  choices_upstream : ∀ task, ∀ choice ∈ choices task, task ∈ upstream choice
  rank : τ → Nat
  upstream_lt : ∀ task, ∀ other ∈ upstream task, rank other < rank task

inductive Verdict where
  | wait
  | run
  | set (state : TaskState)
  deriving DecidableEq, Repr

/-- A task without upstream tasks runs under every rule. -/
def TriggerRule.evaluate (rule : TriggerRule) (states : List TaskState) : Verdict :=
  if states = [] then .run
  else if ∃ state ∈ states, state.isFailure then .set .upstreamFailed
  else match rule with
    | .allSuccess =>
        if .skipped ∈ states then .set .skipped
        else if .none ∈ states then .wait
        else .run
    | .noneFailedMinOneSuccess =>
        if ∀ state ∈ states, state = .skipped then .set .skipped
        else if .none ∈ states then .wait
        else .run

structure DagRun (τ : Type*) where
  states : τ → TaskState
  picked : τ → Option τ

def DagRun.initial {τ : Type*} : DagRun τ := ⟨fun _ => .none, fun _ => none⟩

inductive Action (τ : Type*) where
  | succeed (task : τ) (pick : Option τ)
  | fail (task : τ)
  | propagate (task : τ)
  deriving DecidableEq

variable {τ : Type*}

def DagRun.Complete (run : DagRun τ) : Prop := ∀ task, run.states task ≠ .none

def DagRun.executed (run : DagRun τ) (task : τ) : Prop :=
  (run.states task).isExecuted = true

def Graph.verdict (g : Graph τ) (run : DagRun τ) (task : τ) : Verdict :=
  (g.rule task).evaluate ((g.upstream task).map run.states)

def Graph.mayPick (g : Graph τ) (task : τ) : Option τ → Prop
  | none => g.choices task = []
  | some pick => pick ∈ g.choices task

section Rules

variable {rule : TriggerRule} {states : List TaskState}

theorem settled (hfailure : ¬ ∃ state ∈ states, state.isFailure = true)
    (hnone : .none ∉ states) : ∀ state ∈ states, state = .success ∨ state = .skipped := by
  intro state hmem
  cases state with
  | none => exact absurd hmem hnone
  | success => exact .inl rfl
  | skipped => exact .inr rfl
  | failed => exact absurd ⟨_, hmem, rfl⟩ hfailure
  | upstreamFailed => exact absurd ⟨_, hmem, rfl⟩ hfailure

theorem TriggerRule.of_run (h : rule.evaluate states = .run) :
    (∀ state ∈ states, state = .success ∨ state = .skipped) ∧
      (states ≠ [] → .success ∈ states) := by
  cases rule with
  | allSuccess =>
    simp only [evaluate] at h
    split_ifs at h with hempty hfailure hskipped hnone
    · simp [hempty]
    · have hsettled := settled hfailure hnone
      refine ⟨hsettled, fun hne => ?_⟩
      obtain ⟨head, rest, rfl⟩ := List.exists_cons_of_ne_nil hne
      rcases hsettled head (by simp) with rfl | rfl
      · simp
      · simp at hskipped
  | noneFailedMinOneSuccess =>
    simp only [evaluate] at h
    split_ifs at h with hempty hfailure hall hnone
    · simp [hempty]
    · have hsettled := settled hfailure hnone
      refine ⟨hsettled, fun _ => ?_⟩
      push Not at hall
      obtain ⟨state, hmem, hstate⟩ := hall
      exact (hsettled state hmem).resolve_right hstate ▸ hmem

theorem TriggerRule.of_wait (h : rule.evaluate states = .wait) : .none ∈ states := by
  cases rule with
  | allSuccess =>
    simp only [evaluate] at h
    split_ifs at h with hempty hfailure hskipped hnone
    exact hnone
  | noneFailedMinOneSuccess =>
    simp only [evaluate] at h
    split_ifs at h with hempty hfailure hall hnone
    exact hnone

/-- A failure is passed on under both rules, a skip by the second only when nothing
else is upstream. -/
theorem TriggerRule.of_set {state : TaskState} (h : rule.evaluate states = .set state) :
    (state = .upstreamFailed ∧ ∃ other ∈ states, other.isFailure) ∨
      (state = .skipped ∧ .skipped ∈ states ∧
        (rule = .noneFailedMinOneSuccess → ∀ other ∈ states, other = .skipped)) := by
  cases rule with
  | allSuccess =>
    simp only [evaluate] at h
    split_ifs at h with hempty hfailure hskipped <;> simp only [Verdict.set.injEq] at h
    · exact .inl ⟨h.symm, hfailure⟩
    · exact .inr ⟨h.symm, hskipped, by simp⟩
  | noneFailedMinOneSuccess =>
    simp only [evaluate] at h
    split_ifs at h with hempty hfailure hall <;> simp only [Verdict.set.injEq] at h
    · exact .inl ⟨h.symm, hfailure⟩
    · obtain ⟨head, rest, rfl⟩ := List.exists_cons_of_ne_nil hempty
      have hhead : head = .skipped := hall head (by simp)
      exact .inr ⟨h.symm, by simp [hhead], fun _ => hall⟩

end Rules

section Justification

variable (g : Graph τ) {run next : DagRun τ} {task : τ}

def DagRun.Extends (run next : DagRun τ) : Prop :=
  ∀ task, run.states task ≠ .none →
    next.states task = run.states task ∧ next.picked task = run.picked task

def Graph.PassedOver (run : DagRun τ) (task : τ) : Prop :=
  ∃ brancher, task ∈ g.choices brancher ∧ run.states brancher = .success ∧
    run.picked brancher ≠ some task

structure Graph.Justified (run : DagRun τ) (task : τ) : Prop where
  ran : run.executed task →
    (∀ other ∈ g.upstream task, run.states other = .success ∨ run.states other = .skipped) ∧
      (g.upstream task ≠ [] → ∃ other ∈ g.upstream task, run.states other = .success)
  picked : run.states task = .success → g.mayPick task (run.picked task)
  failed : run.states task = .upstreamFailed →
    ∃ other ∈ g.upstream task, (run.states other).isFailure
  skipped : run.states task = .skipped → g.PassedOver run task ∨
    (∃ other ∈ g.upstream task, run.states other = .skipped) ∧
      (g.rule task = .noneFailedMinOneSuccess →
        ∀ other ∈ g.upstream task, run.states other = .skipped)
  notRun : g.PassedOver run task →
    run.states task = .skipped ∨ run.states task = .upstreamFailed

theorem DagRun.Extends.states_eq (h : run.Extends next) {state : TaskState}
    (hstate : run.states task = state) (hsome : state ≠ .none) : next.states task = state :=
  ((h task (hstate ▸ hsome)).1).trans hstate

theorem Graph.PassedOver.extend (h : run.Extends next) (hpassed : g.PassedOver run task) :
    g.PassedOver next task := by
  obtain ⟨brancher, hchoice, hsuccess, hpick⟩ := hpassed
  obtain ⟨hstates, hpicked⟩ := h brancher (by simp [hsuccess])
  exact ⟨brancher, hchoice, hstates.trans hsuccess, hpicked ▸ hpick⟩

theorem Graph.PassedOver.before (h : run.Extends next) (hpassed : g.PassedOver next task) :
    g.PassedOver run task ∨ ∃ brancher ∈ g.upstream task, run.states brancher = .none := by
  obtain ⟨brancher, hchoice, hsuccess, hpick⟩ := hpassed
  by_cases hnone : run.states brancher = .none
  · exact .inr ⟨brancher, g.choices_upstream _ _ hchoice, hnone⟩
  · obtain ⟨hstates, hpicked⟩ := h brancher hnone
    exact .inl ⟨brancher, hchoice, hstates ▸ hsuccess, hpicked ▸ hpick⟩

theorem Graph.verdict_run (h : g.verdict run task = .run) :
    (∀ other ∈ g.upstream task, run.states other = .success ∨ run.states other = .skipped) ∧
      (g.upstream task ≠ [] → ∃ other ∈ g.upstream task, run.states other = .success) := by
  obtain ⟨hall, hsome⟩ := TriggerRule.of_run h
  refine ⟨fun other hmem => hall _ (List.mem_map_of_mem hmem), fun hne => ?_⟩
  obtain ⟨other, hmem, hother⟩ := List.mem_map.mp (hsome (by simpa using hne))
  exact ⟨other, hmem, hother⟩

theorem Graph.verdict_set {state : TaskState} (h : g.verdict run task = .set state) :
    (state = .upstreamFailed ∧ ∃ other ∈ g.upstream task, (run.states other).isFailure) ∨
      (state = .skipped ∧ (∃ other ∈ g.upstream task, run.states other = .skipped) ∧
        (g.rule task = .noneFailedMinOneSuccess →
          ∀ other ∈ g.upstream task, run.states other = .skipped)) := by
  rcases TriggerRule.of_set h with ⟨hstate, _, hmem, hfailure⟩ | ⟨hstate, hmem, hall⟩
  · obtain ⟨other, hother, rfl⟩ := List.mem_map.mp hmem
    exact .inl ⟨hstate, other, hother, hfailure⟩
  · obtain ⟨other, hother, hskipped⟩ := List.mem_map.mp hmem
    exact .inr ⟨hstate, ⟨other, hother, hskipped⟩,
      fun hrule other hother => hall hrule _ (List.mem_map_of_mem hother)⟩

/-- A decided task keeps its state, and the states that explain it are final. -/
theorem Graph.Justified.extend (h : run.Extends next) (hsome : run.states task ≠ .none)
    (hjust : g.Justified run task) : g.Justified next task := by
  obtain ⟨hsame, hpick⟩ := h task hsome
  have hkeep : ∀ other state, run.states other = state → state ≠ .none →
      next.states other = state := fun other state hstate hne => h.states_eq hstate hne
  refine ⟨fun hran => ?_, fun hsuccess => ?_, fun hfailed => ?_, fun hskipped => ?_,
    fun hover => ?_⟩
  · rw [DagRun.executed, hsame] at hran
    obtain ⟨hall, hexists⟩ := hjust.ran hran
    constructor
    · intro other hmem
      exact (hall other hmem).imp (hkeep _ _ · (by simp)) (hkeep _ _ · (by simp))
    · intro hne
      obtain ⟨other, hmem, hother⟩ := hexists hne
      exact ⟨other, hmem, hkeep _ _ hother (by simp)⟩
  · rw [hpick]
    exact hjust.picked (hsame ▸ hsuccess)
  · obtain ⟨other, hmem, hother⟩ := hjust.failed (hsame ▸ hfailed)
    refine ⟨other, hmem, ?_⟩
    rwa [hkeep other _ rfl (by rintro hnone; simp [hnone, TaskState.isFailure] at hother)]
  · rcases hjust.skipped (hsame ▸ hskipped) with hover | ⟨⟨other, hmem, hother⟩, hall⟩
    · exact .inl (Graph.PassedOver.extend g h hover)
    · exact .inr ⟨⟨other, hmem, hkeep _ _ hother (by simp)⟩,
        fun hrule other hmem => hkeep _ _ (hall hrule other hmem) (by simp)⟩
  · rw [hsame]
    rcases Graph.PassedOver.before g h hover with hbefore | ⟨brancher, hmem, hnone⟩
    · exact hjust.notRun hbefore
    · -- the task did not wait for the brancher, so it was not run
      have hidle : ¬ run.executed task := fun hran => by
        simpa [hnone] using (hjust.ran hran).1 brancher hmem
      unfold DagRun.executed at hidle
      cases hstate : run.states task <;> simp_all [TaskState.isExecuted]

variable {g}

theorem Graph.Justified.not_skipped (hjust : g.Justified run task)
    (hover : ¬ g.PassedOver run task)
    (hupstream : ∀ other ∈ g.upstream task, run.states other ≠ .skipped) :
    run.states task ≠ .skipped := by
  intro hskipped
  rcases hjust.skipped hskipped with hpassed | ⟨⟨other, hmem, hother⟩, -⟩
  · exact hover hpassed
  · exact hupstream other hmem hother

theorem Graph.Justified.join_not_skipped (hjust : g.Justified run task)
    (hrule : g.rule task = .noneFailedMinOneSuccess) (hover : ¬ g.PassedOver run task)
    {other : τ} (hmem : other ∈ g.upstream task) (hother : run.states other ≠ .skipped) :
    run.states task ≠ .skipped := by
  intro hskipped
  rcases hjust.skipped hskipped with hpassed | ⟨-, hall⟩
  · exact hover hpassed
  · exact hother (hall hrule other hmem)

theorem Graph.Justified.executed (hjust : g.Justified run task)
    (hdecided : run.states task ≠ .none) (hskipped : run.states task ≠ .skipped)
    (hupstream : ∀ other ∈ g.upstream task, (run.states other).isFailure = false) :
    run.executed task := by
  have hpassed : run.states task ≠ .upstreamFailed := by
    intro hfailed
    obtain ⟨other, hmem, hother⟩ := hjust.failed hfailed
    simp [hupstream other hmem] at hother
  unfold DagRun.executed
  cases hstate : run.states task <;> simp_all [TaskState.isExecuted]

theorem Graph.Justified.upstream_success (hjust : g.Justified run task)
    (hran : run.executed task) {other : τ} (hmem : other ∈ g.upstream task)
    (hother : run.states other ≠ .skipped) : run.states other = .success :=
  ((hjust.ran hran).1 other hmem).resolve_right hother

end Justification

variable [DecidableEq τ]

def DagRun.set (run : DagRun τ) (task : τ) (state : TaskState) : DagRun τ :=
  { run with states := fun other => if other = task then state else run.states other }

/-- A branch task that succeeds skips the choices it does not return. -/
def Graph.succeed (g : Graph τ) (run : DagRun τ) (task : τ) (pick : Option τ) : DagRun τ where
  states := fun other =>
    if other = task then .success
    else if other ∈ g.choices task ∧ some other ≠ pick ∧ run.states other = .none then .skipped
    else run.states other
  picked := fun other => if other = task then pick else run.picked other

instance (g : Graph τ) (task : τ) : ∀ pick, Decidable (g.mayPick task pick)
  | none => inferInstanceAs (Decidable (g.choices task = []))
  | some pick => inferInstanceAs (Decidable (pick ∈ g.choices task))

def Graph.step (g : Graph τ) (run : DagRun τ) : Action τ → Option (DagRun τ)
  | .succeed task pick =>
      if run.states task = .none ∧ g.verdict run task = .run ∧ g.mayPick task pick then
        some (g.succeed run task pick)
      else none
  | .fail task =>
      if run.states task = .none ∧ g.verdict run task = .run then some (run.set task .failed)
      else none
  | .propagate task =>
      if run.states task = .none then
        match g.verdict run task with
        | .set state => some (run.set task state)
        | _ => none
      else none

section Steps

variable (g : Graph τ) {run next : DagRun τ} {action : Action τ}

inductive Graph.Decides (g : Graph τ) (run next : DagRun τ) (task : τ) : Prop where
  | ran (hverdict : g.verdict run task = .run) (hexecuted : next.executed task)
      (hpick : next.states task = .success → g.mayPick task (next.picked task))
  | passedOn (hverdict : g.verdict run task = .set (next.states task))
  | passedOver (hskipped : next.states task = .skipped) (hother : g.PassedOver next task)

theorem Graph.step_extends (h : g.step run action = some next) : run.Extends next := by
  intro task hdecided
  cases action <;> simp only [step] at h <;> split_ifs at h with hready
  · grind [succeed]
  · grind [DagRun.set]
  · split at h
    · grind [DagRun.set]
    · cases h

theorem Graph.step_decides (h : g.step run action = some next) {task : τ}
    (hnone : run.states task = .none) (hsome : next.states task ≠ .none) :
    g.Decides run next task := by
  cases action with
  | succeed runner pick =>
    simp only [step] at h
    split_ifs at h with hready
    obtain ⟨-, hverdict, hpick⟩ := hready
    cases h
    by_cases hself : task = runner
    · subst hself
      exact .ran hverdict (by simp [DagRun.executed, succeed, TaskState.isExecuted])
        (fun _ => by simpa [succeed] using hpick)
    · simp only [succeed, if_neg hself] at hsome
      split_ifs at hsome with hchoice
      · have hskipped : (g.succeed run runner pick).states task = .skipped := by
          simp [succeed, hself, hchoice]
        exact .passedOver hskipped ⟨runner, hchoice.1, by simp [succeed],
          by simpa [succeed] using hchoice.2.1.symm⟩
      · exact absurd hnone hsome
  | fail runner =>
    simp only [step] at h
    split_ifs at h with hready
    cases h
    by_cases hself : task = runner
    · subst hself
      exact .ran hready.2 (by simp [DagRun.executed, DagRun.set, TaskState.isExecuted])
        (by simp [DagRun.set])
    · simp [DagRun.set, hself, hnone] at hsome
  | propagate runner =>
    simp only [step] at h
    split_ifs at h with hready
    split at h
    · rename_i state hverdict
      cases h
      by_cases hself : task = runner
      · subst hself
        exact .passedOn (by simpa [DagRun.set] using hverdict)
      · simp [DagRun.set, hself, hnone] at hsome
    · cases h

theorem Graph.step_skips (h : g.step run action = some next) {brancher task : τ}
    (hbefore : run.states brancher ≠ .success) (hafter : next.states brancher = .success)
    (hchoice : task ∈ g.choices brancher) (hpick : next.picked brancher ≠ some task) :
    next.states task ≠ .none := by
  cases action with
  | succeed runner pick =>
    simp only [step] at h
    split_ifs at h with hready
    cases h
    by_cases hself : brancher = runner
    · subst hself
      simp only [succeed, if_true] at hpick ⊢
      grind
    · simp only [succeed, if_neg hself] at hafter
      split_ifs at hafter
      exact absurd hafter hbefore
  | fail runner =>
    simp only [step] at h
    split_ifs at h with hready
    cases h
    by_cases hself : brancher = runner <;> simp_all [DagRun.set]
  | propagate runner =>
    simp only [step] at h
    split_ifs at h with hready
    split at h
    · rename_i state hverdict
      cases h
      by_cases hself : brancher = runner
      · have hstate : state = .success := by simpa [DagRun.set, hself] using hafter
        rcases TriggerRule.of_set hverdict with ⟨hset, -⟩ | ⟨hset, -⟩ <;> simp_all
      · simp [DagRun.set, hself, hbefore] at hafter
    · cases h

theorem Graph.justified_step (hjust : ∀ task, g.Justified run task)
    (h : g.step run action = some next) (task : τ) : g.Justified next task := by
  have hextends := g.step_extends h
  by_cases hsome : run.states task ≠ .none
  · exact (hjust task).extend g hextends hsome
  have hnone : run.states task = .none := not_not.mp hsome
  have hfresh : ¬ g.PassedOver run task := fun hover => by
    simpa [hnone] using (hjust task).notRun hover
  have hkeep : ∀ other state, run.states other = state → state ≠ .none →
      next.states other = state := fun other state hstate hne => hextends.states_eq hstate hne
  by_cases hdecided : next.states task ≠ .none
  · cases g.step_decides h hnone hdecided with
    | ran hverdict hexecuted hpick =>
      obtain ⟨hall, hexists⟩ := g.verdict_run hverdict
      refine ⟨fun _ => ⟨fun other hmem => ?_, fun hne => ?_⟩, hpick, ?_, ?_, fun hover => ?_⟩
      · exact (hall other hmem).imp (hkeep _ _ · (by simp)) (hkeep _ _ · (by simp))
      · obtain ⟨other, hmem, hother⟩ := hexists hne
        exact ⟨other, hmem, hkeep _ _ hother (by simp)⟩
      · intro hfailed
        simp [DagRun.executed, hfailed, TaskState.isExecuted] at hexecuted
      · intro hskipped
        simp [DagRun.executed, hskipped, TaskState.isExecuted] at hexecuted
      · rcases Graph.PassedOver.before g hextends hover with hbefore | ⟨brancher, hmem, hidle⟩
        · exact absurd hbefore hfresh
        · simpa [hidle] using hall brancher hmem
    | passedOn hverdict =>
      rcases g.verdict_set hverdict with ⟨hstate, other, hmem, hfailure⟩ | ⟨hstate, hsome, hall⟩
      · refine ⟨?_, ?_, fun _ => ⟨other, hmem, ?_⟩, ?_, fun _ => .inr hstate⟩
        · simp [DagRun.executed, hstate, TaskState.isExecuted]
        · simp [hstate]
        · rwa [hkeep other _ rfl (by rintro hidle; simp [hidle, TaskState.isFailure] at hfailure)]
        · simp [hstate]
      · obtain ⟨other, hmem, hother⟩ := hsome
        refine ⟨?_, ?_, ?_, fun _ => .inr ⟨⟨other, hmem, hkeep _ _ hother (by simp)⟩,
          fun hrule other hmem => hkeep _ _ (hall hrule other hmem) (by simp)⟩,
          fun _ => .inl hstate⟩
        · simp [DagRun.executed, hstate, TaskState.isExecuted]
        · simp [hstate]
        · simp [hstate]
    | passedOver hskipped hother =>
      refine ⟨?_, ?_, ?_, fun _ => .inl hother, fun _ => .inl hskipped⟩
      · simp [DagRun.executed, hskipped, TaskState.isExecuted]
      · simp [hskipped]
      · simp [hskipped]
  · have hidle : next.states task = .none := not_not.mp hdecided
    refine ⟨?_, ?_, ?_, ?_, fun hover => ?_⟩
    · simp [DagRun.executed, hidle, TaskState.isExecuted]
    · simp [hidle]
    · simp [hidle]
    · simp [hidle]
    · obtain ⟨brancher, hchoice, hsuccess, hpick⟩ := hover
      by_cases hbefore : run.states brancher = .success
      · have hsame := (hextends brancher (by simp [hbefore])).2
        exact absurd ⟨brancher, hchoice, hbefore, hsame ▸ hpick⟩ hfresh
      · exact absurd hidle (g.step_skips h hbefore hsuccess hchoice hpick)

theorem Graph.justified (hrun : Runs.Reaches g.step DagRun.initial run) (task : τ) :
    g.Justified run task := by
  refine Runs.Reaches.invariant (I := fun run => ∀ task, g.Justified run task)
    (fun _ _ _ hjust h => g.justified_step hjust h) hrun (fun task => ?_) task
  refine ⟨?_, ?_, ?_, ?_, ?_⟩
  · simp [DagRun.executed, DagRun.initial, TaskState.isExecuted]
  · simp [DagRun.initial]
  · simp [DagRun.initial]
  · simp [DagRun.initial]
  · rintro ⟨brancher, -, hsuccess, -⟩
    simp [DagRun.initial] at hsuccess

end Steps

section Completion

variable (g : Graph τ)

theorem Graph.step_of_ready {run : DagRun τ} {task : τ} (hnone : run.states task = .none)
    (hready : ∀ other ∈ g.upstream task, run.states other ≠ .none) :
    ∃ action next, g.step run action = some next ∧ next.states task ≠ .none := by
  cases hverdict : g.verdict run task with
  | wait =>
    obtain ⟨other, hmem, hother⟩ := List.mem_map.mp (TriggerRule.of_wait hverdict)
    exact absurd hother (hready other hmem)
  | run =>
    exact ⟨.fail task, run.set task .failed, by simp [step, hnone, hverdict], by simp [DagRun.set]⟩
  | set state =>
    refine ⟨.propagate task, run.set task state, by simp [step, hnone, hverdict], ?_⟩
    rcases g.verdict_set hverdict with ⟨hstate, -⟩ | ⟨hstate, -⟩ <;> simp [DagRun.set, hstate]

theorem Graph.reaches_complete [Fintype τ] (run : DagRun τ) :
    ∃ finish, Runs.Reaches g.step run finish ∧ finish.Complete := by
  let undecided (run : DagRun τ) : Finset τ := Finset.univ.filter fun task =>
    run.states task = .none
  refine Runs.reaches_of_measure g.step (I := fun _ => True) (fun run => (undecided run).card)
    (fun run _ hgoal => ?_) run trivial
  -- the undecided task of least rank waits for nothing undecided
  have hsome : (undecided run).Nonempty := by
    simp only [DagRun.Complete, not_forall, not_not] at hgoal
    obtain ⟨task, hnone⟩ := hgoal
    exact ⟨task, by simp [undecided, hnone]⟩
  obtain ⟨task, hmem, hleast⟩ := Finset.exists_min_image (undecided run) g.rank hsome
  have hnone : run.states task = .none := by simpa [undecided] using hmem
  have hready : ∀ other ∈ g.upstream task, run.states other ≠ .none := by
    intro other hother hidle
    have hrank := g.upstream_lt task other hother
    have hbound := hleast other (by simp [undecided, hidle])
    omega
  obtain ⟨action, next, hnext, hdecided⟩ := g.step_of_ready hnone hready
  refine ⟨action, next, hnext, trivial, Finset.card_lt_card ?_⟩
  rw [Finset.ssubset_iff_of_subset]
  · exact ⟨task, hmem, by simp [undecided, hdecided]⟩
  · intro other hother
    simp only [undecided, Finset.mem_filter_univ] at hother ⊢
    by_contra hidle
    exact hidle ((g.step_extends hnext other hidle).1 ▸ hother)

end Completion

end TaskGraph
