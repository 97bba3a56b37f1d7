import QubershipAirflow.Library.Runs

/-! Programs that make one call at a time to a world they share. Between two calls
others may change everything but a view of the world, and the program may be
abandoned at any point, so a specification also says what holds all along. -/
namespace Programs

inductive Program (Op : Type) (Answer : Op → Type) (Failure α : Type) where
  | pure (value : α)
  | throw (failure : Failure)
  | call (op : Op) (next : Answer op → Program Op Answer Failure α)

variable {Op : Type} {Answer : Op → Type} {Failure World View α β : Type}

namespace Program

def bind (program : Program Op Answer Failure α)
    (rest : α → Program Op Answer Failure β) : Program Op Answer Failure β :=
  match program with
  | .pure value => rest value
  | .throw failure => .throw failure
  | .call op next => .call op fun answer => (next answer).bind rest

instance : Monad (Program Op Answer Failure) where
  pure := .pure
  bind := .bind

def perform (op : Op) : Program Op Answer Failure (Answer op) := .call op .pure

@[simp] theorem pure_eq (value : α) :
    (Pure.pure value : Program Op Answer Failure α) = .pure value := rfl

@[simp] theorem pure_bind (value : α) (rest : α → Program Op Answer Failure β) :
    (.pure value >>= rest : Program Op Answer Failure β) = rest value := rfl

@[simp] theorem throw_bind (failure : Failure) (rest : α → Program Op Answer Failure β) :
    ((.throw failure : Program Op Answer Failure α) >>= rest) = .throw failure := rfl

theorem call_bind (op : Op) (next : Answer op → Program Op Answer Failure α)
    (rest : α → Program Op Answer Failure β) :
    (call op next >>= rest) = call op fun answer => next answer >>= rest := rfl

@[simp] theorem perform_bind (op : Op) (rest : Answer op → Program Op Answer Failure β) :
    (perform op >>= rest) = .call op rest := rfl

abbrev Server (Op : Type) (Answer : Op → Type) (Failure World : Type) :=
  (op : Op) → World → Except Failure (Answer op × World)

variable (server : Server Op Answer Failure World)

/-- The next call. A refused call raises, and changes nothing. -/
def advance (program : Program Op Answer Failure α) (world : World) :
    Option (Program Op Answer Failure α × World) :=
  match program with
  | .pure _ => none
  | .throw _ => none
  | .call op next =>
      match server op world with
      | .ok (answer, world) => some (next answer, world)
      | .error failure => some (.throw failure, world)

def run (program : Program Op Answer Failure α) (world : World) :
    Except Failure α × World :=
  match program with
  | .pure value => (.ok value, world)
  | .throw failure => (.error failure, world)
  | .call op next =>
      match server op world with
      | .ok (answer, world) => (next answer).run world
      | .error failure => (.error failure, world)

@[simp] theorem run_pure (value : α) (world : World) :
    (.pure value : Program Op Answer Failure α).run server world = (.ok value, world) := rfl

@[simp] theorem run_throw (failure : Failure) (world : World) :
    (.throw failure : Program Op Answer Failure α).run server world =
      (.error failure, world) := rfl

theorem run_call (op : Op) (next : Answer op → Program Op Answer Failure α) (world : World) :
    (call op next).run server world =
      match server op world with
      | .ok (answer, world) => (next answer).run server world
      | .error failure => (.error failure, world) := by
  rw [run]

theorem advance_call (op : Op) (next : Answer op → Program Op Answer Failure α)
    (world : World) :
    (call op next).advance server world =
      match server op world with
      | .ok (answer, world) => some (next answer, world)
      | .error failure => some (.throw failure, world) := rfl

theorem run_call_ok {op : Op} {next : Answer op → Program Op Answer Failure α}
    {world after : World} {answer : Answer op} (h : server op world = .ok (answer, after)) :
    (call op next).run server world = (next answer).run server after := by
  rw [run_call, h]

theorem run_bind_ok {program : Program Op Answer Failure α}
    {rest : α → Program Op Answer Failure β} {world after : World} {value : α}
    (h : program.run server world = (.ok value, after)) :
    (program >>= rest).run server world = (rest value).run server after := by
  induction program generalizing world with
  | pure _ => cases h; rfl
  | throw _ => cases h
  | call op next ih =>
    rw [call_bind, run_call]
    rw [run_call] at h
    cases hserver : server op world with
    | error failure => rw [hserver] at h; cases h
    | ok result =>
      rw [hserver] at h
      exact ih _ h

theorem run_bind_error {program : Program Op Answer Failure α}
    {rest : α → Program Op Answer Failure β} {world after : World} {failure : Failure}
    (h : program.run server world = (.error failure, after)) :
    (program >>= rest).run server world = (.error failure, after) := by
  induction program generalizing world with
  | pure _ => cases h
  | throw _ => cases h; rfl
  | call op next ih =>
    rw [call_bind, run_call]
    rw [run_call] at h
    cases hserver : server op world with
    | error raised => rw [hserver] at h; cases h; rfl
    | ok result =>
      rw [hserver] at h
      exact ih _ h

theorem of_run_bind_ok {program : Program Op Answer Failure α}
    {rest : α → Program Op Answer Failure β} {world after : World} {value : β}
    (h : (program >>= rest).run server world = (.ok value, after)) :
    ∃ first mid, program.run server world = (.ok first, mid) ∧
      (rest first).run server mid = (.ok value, after) := by
  cases hfirst : program.run server world with
  | mk result mid =>
    cases result with
    | error raised =>
      rw [run_bind_error server hfirst] at h
      cases h
    | ok first => exact ⟨first, mid, rfl, by rw [← h, run_bind_ok server hfirst]⟩

/-- What becomes of a call: it is answered, it is refused before it takes effect, or
it takes effect and the answer is lost. -/
inductive Fate where
  | answered
  | refused
  | lost
  deriving DecidableEq

/-- The whole program, when calls may fail. A call that is refused or lost raises the
given failure. -/
def runUnder (fates : Op → Fate) (failure : Failure) (program : Program Op Answer Failure α)
    (world : World) : Except Failure α × World :=
  match program with
  | .pure value => (.ok value, world)
  | .throw failure => (.error failure, world)
  | .call op next =>
      match fates op, server op world with
      | .refused, _ => (.error failure, world)
      | _, .error raised => (.error raised, world)
      | .lost, .ok (_, world) => (.error failure, world)
      | .answered, .ok (answer, world) => (next answer).runUnder fates failure world

section Fates

variable {server} {fates : Op → Fate} {failure : Failure} {op : Op} {world after : World}
  {next : Answer op → Program Op Answer Failure α} {result : Except Failure α}

theorem runUnder_answered (failure : Failure) (program : Program Op Answer Failure α)
    (world : World) :
    program.runUnder server (fun _ => .answered) failure world = program.run server world := by
  induction program generalizing world with
  | pure => rfl
  | throw => rfl
  | call op next ih =>
    rw [run_call, runUnder]
    cases server op world with
    | error raised => rfl
    | ok result => exact ih _ _

theorem runUnder_call (h : (call op next).runUnder server fates failure world = (result, after)) :
    (∃ raised, result = .error raised ∧ after = world ∧
        (fates op ≠ .refused → ∃ raised, server op world = .error raised)) ∨
      (∃ raised answer, result = .error raised ∧ fates op = .lost ∧
        server op world = .ok (answer, after)) ∨
      ∃ answer mid, fates op = .answered ∧ server op world = .ok (answer, mid) ∧
        (next answer).runUnder server fates failure mid = (result, after) := by
  rw [runUnder] at h
  cases hserver : server op world with
  | error raised =>
    rw [hserver] at h
    cases hfate : fates op <;> rw [hfate] at h <;> cases h <;>
      exact .inl ⟨_, rfl, rfl, fun _ => ⟨raised, rfl⟩⟩
  | ok answered =>
    obtain ⟨answer, mid⟩ := answered
    rw [hserver] at h
    cases hfate : fates op with
    | refused =>
      rw [hfate] at h
      cases h
      exact .inl ⟨_, rfl, rfl, fun hne => absurd rfl hne⟩
    | lost =>
      rw [hfate] at h
      cases h
      exact .inr (.inl ⟨_, answer, rfl, rfl, rfl⟩)
    | answered =>
      rw [hfate] at h
      exact .inr (.inr ⟨answer, mid, rfl, rfl, h⟩)

theorem runUnder_read (hread : ∀ answer mid, server op world = .ok (answer, mid) → mid = world)
    (h : (call op next).runUnder server fates failure world = (result, after)) :
    (∃ raised, result = .error raised ∧ after = world ∧
        (fates op = .answered → ∃ raised, server op world = .error raised)) ∨
      ∃ answer, fates op = .answered ∧ server op world = .ok (answer, world) ∧
        (next answer).runUnder server fates failure world = (result, after) := by
  obtain hrefused | ⟨raised, answer, hresult, hlost, hserver⟩ |
    ⟨answer, mid, hfate, hserver, hrest⟩ := runUnder_call h
  · obtain ⟨raised, hresult, hafter, hrefused⟩ := hrefused
    exact .inl ⟨raised, hresult, hafter, fun hanswered => hrefused (by simp [hanswered])⟩
  · exact .inl ⟨raised, hresult, hread _ _ hserver, by simp [hlost]⟩
  · obtain rfl := hread _ _ hserver
    exact .inr ⟨answer, hfate, hserver, hrest⟩

/-- The rule of sequence for programs whose calls may fail. -/
theorem runUnder_bind {program : Program Op Answer Failure α}
    {rest : α → Program Op Answer Failure β} {result : Except Failure β}
    (h : (program >>= rest).runUnder server fates failure world = (result, after)) :
    (∃ raised, result = .error raised ∧
        program.runUnder server fates failure world = (.error raised, after)) ∨
      ∃ value mid, program.runUnder server fates failure world = (.ok value, mid) ∧
        (rest value).runUnder server fates failure mid = (result, after) := by
  induction program generalizing world with
  | pure value => exact .inr ⟨value, world, rfl, h⟩
  | throw raised =>
    cases h
    exact .inl ⟨raised, rfl, rfl⟩
  | call op next ih =>
    rw [call_bind, runUnder] at h
    rw [runUnder]
    cases hserver : server op world with
    | error raised =>
      rw [hserver] at h
      cases hfate : fates op <;> rw [hfate] at h <;> cases h <;> exact .inl ⟨_, rfl, rfl⟩
    | ok answered =>
      rw [hserver] at h
      cases hfate : fates op with
      | answered =>
        rw [hfate] at h
        exact ih _ h
      | refused =>
        rw [hfate] at h
        cases h
        exact .inl ⟨_, rfl, rfl⟩
      | lost =>
        rw [hfate] at h
        cases h
        exact .inl ⟨_, rfl, rfl⟩

end Fates

end Program

/-- What holds before every call, when the program raises, and when it returns. -/
structure Spec (Failure View α : Type) where
  always : View → Prop
  thrown : Failure → View → Prop
  post : α → View → Prop

open Program

variable (server : Server Op Answer Failure World) (view : World → View)

/-- The program may run from any world that shows the view. -/
def Meets (spec : Spec Failure View α) : Program Op Answer Failure α → View → Prop
  | .pure value, seen => spec.always seen ∧ spec.post value seen
  | .throw failure, seen => spec.always seen ∧ spec.thrown failure seen
  | .call op next, seen => spec.always seen ∧ ∀ world, view world = seen →
      match server op world with
      | .ok (answer, after) => Meets spec (next answer) (view after)
      | .error failure => spec.thrown failure seen

variable {server view} {spec : Spec Failure View α} {program : Program Op Answer Failure α}
  {seen : View}

theorem Meets.always (h : Meets server view spec program seen) : spec.always seen := by
  cases program with
  | pure value => exact h.1
  | throw failure => exact h.1
  | call op next => exact h.1

theorem Meets.advance {world after : World} {rest : Program Op Answer Failure α}
    (h : Meets server view spec program (view world))
    (hcall : program.advance server world = some (rest, after)) :
    Meets server view spec rest (view after) := by
  cases program with
  | pure value => simp [Program.advance] at hcall
  | throw failure => simp [Program.advance] at hcall
  | call op next =>
    obtain ⟨halways, hnext⟩ := h
    have hanswer := hnext world rfl
    rw [advance_call] at hcall
    cases hserver : server op world with
    | ok result =>
      rw [hserver] at hanswer hcall
      cases hcall
      exact hanswer
    | error failure =>
      rw [hserver] at hanswer hcall
      cases hcall
      exact ⟨halways, hanswer⟩

/-- The rule of sequence: what the first part leaves is what the rest needs. -/
theorem Meets.bind {rest : α → Program Op Answer Failure β} {spec : Spec Failure View β}
    (h : Meets server view
      ⟨spec.always, spec.thrown, fun value => Meets server view spec (rest value)⟩
      program seen) :
    Meets server view spec (program >>= rest) seen := by
  induction program generalizing seen with
  | pure value => exact h.2
  | throw failure => exact h
  | call op next ih =>
    refine ⟨h.1, fun world hview => ?_⟩
    have hanswer := h.2 world hview
    cases hserver : server op world with
    | ok result =>
      rw [hserver] at hanswer
      exact ih _ hanswer
    | error failure =>
      rw [hserver] at hanswer
      exact hanswer

/-- The call may be answered so at some world that shows the view. -/
def Answers (server : Server Op Answer Failure World) (view : World → View) (seen : View)
    (op : Op) (answer : Answer op) (after : View) : Prop :=
  ∃ world world', view world = seen ∧ server op world = .ok (answer, world') ∧
    view world' = after

theorem Meets.call {op : Op} {next : Answer op → Program Op Answer Failure α}
    (halways : spec.always seen)
    (hthrown : ∀ world failure, server op world = .error failure → spec.thrown failure seen)
    (hnext : ∀ answer after, Answers server view seen op answer after →
      Meets server view spec (next answer) after) :
    Meets server view spec (.call op next) seen := by
  refine ⟨halways, fun world hview => ?_⟩
  cases hserver : server op world with
  | ok result => exact hnext result.1 (view result.2) ⟨world, result.2, hview, hserver, rfl⟩
  | error failure => exact hthrown world failure hserver

end Programs
