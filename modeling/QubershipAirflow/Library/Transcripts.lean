import QubershipAirflow.Library.Programs

/-! What a program exchanges with a world that may answer each call as it likes. The
failure of a call is one of its answers, so that the program can handle it. A
transcript ends where the program does, or where it is abandoned. -/
namespace Programs

variable {Op : Type} {Answer Reply : Op → Type} {Failure α β : Type}

namespace Program

def ask (op : Op) : Program Op (fun op => Except Failure (Reply op)) Failure (Reply op) :=
  .call op fun
    | .ok reply => .pure reply
    | .error failure => .throw failure

def ofExcept : Except Failure α → Program Op Answer Failure α
  | .ok value => .pure value
  | .error failure => .throw failure

/-- The program, with what it raises as a result. -/
def attempt : Program Op Answer Failure α → Program Op Answer Failure (Except Failure α)
  | .pure value => .pure (.ok value)
  | .throw failure => .pure (.error failure)
  | .call op next => .call op fun answer => (next answer).attempt

def answer {Reply : Type} (reply : Reply) :
    Program Op (fun _ => Reply) Failure α → Option (Op × Program Op (fun _ => Reply) Failure α)
  | .call op next => some (op, next reply)
  | _ => none

/-- What becomes of the program when every call has its fixed answer. -/
def against (answers : (op : Op) → Answer op) : Program Op Answer Failure α → Except Failure α
  | .pure value => .ok value
  | .throw failure => .error failure
  | .call op next => (next (answers op)).against answers

section Against

variable (answers : (op : Op) → Answer op)

@[simp] theorem against_pure (value : α) :
    (.pure value : Program Op Answer Failure α).against answers = .ok value := rfl

@[simp] theorem against_ofExcept (result : Except Failure α) :
    (ofExcept result : Program Op Answer Failure α).against answers = result := by
  cases result <;> rfl

@[simp] theorem against_bind (program : Program Op Answer Failure α)
    (rest : α → Program Op Answer Failure β) :
    (program >>= rest).against answers =
      program.against answers >>= fun value => (rest value).against answers := by
  induction program with
  | pure value => rfl
  | throw failure => rfl
  | call op next ih => exact ih _

@[simp] theorem against_ask (answers : (op : Op) → Except Failure (Reply op)) (op : Op) :
    (ask op : Program Op (fun op => Except Failure (Reply op)) Failure (Reply op)).against
      answers = answers op := by
  rw [ask, against]
  cases answers op <;> rfl

end Against

section Served

variable {World : Type} (server : Server Op Answer Failure World)

theorem run_bind (program : Program Op Answer Failure α)
    (rest : α → Program Op Answer Failure β) (world : World) :
    (program >>= rest).run server world =
      match program.run server world with
      | (.ok value, after) => (rest value).run server after
      | (.error failure, after) => (.error failure, after) := by
  cases hrun : program.run server world with
  | mk result after =>
    cases result with
    | ok value => exact run_bind_ok server hrun
    | error failure => exact run_bind_error server hrun

theorem run_ofExcept (result : Except Failure α) (world : World) :
    (ofExcept result : Program Op Answer Failure α).run server world = (result, world) := by
  cases result <;> rfl

theorem run_attempt (hserver : ∀ op world, ∃ answered, server op world = .ok answered)
    (program : Program Op Answer Failure α) (world : World) :
    program.attempt.run server world =
      (.ok (program.run server world).1, (program.run server world).2) := by
  induction program generalizing world with
  | pure value => rfl
  | throw failure => rfl
  | call op next ih =>
    obtain ⟨⟨answer, after⟩, hanswer⟩ := hserver op world
    rw [attempt, run_call_ok server hanswer, run_call_ok server hanswer]
    exact ih answer after

end Served

end Program

open Program

structure Exchange (Op : Type) (Answer : Op → Type) where
  op : Op
  answer : Answer op

/-- The program makes these calls and gets these answers. Without an outcome it is
abandoned there. -/
inductive Yields : Program Op Answer Failure α → List (Exchange Op Answer) →
    Option (Except Failure α) → Prop where
  | abandoned (program) : Yields program [] none
  | pure (value) : Yields (.pure value) [] (some (.ok value))
  | throw (failure) : Yields (.throw failure) [] (some (.error failure))
  | call {op next exchanged outcome} (answer : Answer op)
      (rest : Yields (next answer) exchanged outcome) :
      Yields (.call op next) (⟨op, answer⟩ :: exchanged) outcome

section Yields

variable {program : Program Op Answer Failure α} {first second : List (Exchange Op Answer)}

theorem Yields.ask {op : Op} (reply : Reply op) :
    Yields (ask op : Program Op (fun op => Except Failure (Reply op)) Failure (Reply op))
      [⟨op, .ok reply⟩] (some (.ok reply)) := by
  rw [Program.ask]
  exact .call _ (.pure reply)

theorem Yields.bind {rest : α → Program Op Answer Failure β} {value : α}
    {outcome : Option (Except Failure β)} (h : Yields program first (some (.ok value)))
    (hrest : Yields (rest value) second outcome) :
    Yields (program >>= rest) (first ++ second) outcome := by
  induction program generalizing first with
  | pure value =>
    cases h
    exact hrest
  | throw failure => cases h
  | call op next ih =>
    cases h with
    | call answer h => exact .call answer (ih _ h)

theorem Yields.bind_abandoned {rest : α → Program Op Answer Failure β}
    (h : Yields program first none) : Yields (program >>= rest) first none := by
  induction program generalizing first with
  | pure value =>
    cases h
    exact .abandoned _
  | throw failure =>
    cases h
    exact .abandoned _
  | call op next ih =>
    cases h with
    | abandoned => exact .abandoned _
    | call answer h => exact .call answer (ih _ h)

theorem Yields.attempt_abandoned (h : Yields program first none) :
    Yields program.attempt first none := by
  induction program generalizing first with
  | pure value =>
    cases h
    exact .abandoned _
  | throw failure =>
    cases h
    exact .abandoned _
  | call op next ih =>
    cases h with
    | abandoned => exact .abandoned _
    | call answer h => exact .call answer (ih _ h)

end Yields

theorem exists_yields_against (answers : (op : Op) → Answer op)
    (program : Program Op Answer Failure α) :
    ∃ exchanged, Yields program exchanged (some (program.against answers)) ∧
      ∀ exchange ∈ exchanged, exchange.answer = answers exchange.op := by
  induction program with
  | pure value => exact ⟨[], .pure value, by simp⟩
  | throw failure => exact ⟨[], .throw failure, by simp⟩
  | call op next ih =>
    obtain ⟨exchanged, hyields, hanswers⟩ := ih (answers op)
    refine ⟨⟨op, answers op⟩ :: exchanged, .call _ hyields, ?_⟩
    intro exchange hmem
    obtain rfl | hmem := List.mem_cons.1 hmem
    · rfl
    · exact hanswers exchange hmem

/-- Each call is allowed after what was exchanged before it, and what the program ends
with is allowed after all of it. -/
def Follows (allowed : List (Exchange Op Answer) → Op → Prop)
    (post : Except Failure α → List (Exchange Op Answer) → Prop) :
    List (Exchange Op Answer) → Program Op Answer Failure α → Prop
  | before, .pure value => post (.ok value) before
  | before, .throw failure => post (.error failure) before
  | before, .call op next => allowed before op ∧
      ∀ answer, Follows allowed post (before ++ [⟨op, answer⟩]) (next answer)

section Rules

variable {allowed : List (Exchange Op Answer) → Op → Prop}
  {post weaker : Except Failure α → List (Exchange Op Answer) → Prop}
  {before exchanged : List (Exchange Op Answer)} {program : Program Op Answer Failure α}

theorem Follows.yields {outcome : Option (Except Failure α)}
    (h : Follows allowed post before program) (hyields : Yields program exchanged outcome) :
    (∀ earlier exchange later, exchanged = earlier ++ exchange :: later →
        allowed (before ++ earlier) exchange.op) ∧
      ∀ result, outcome = some result → post result (before ++ exchanged) := by
  induction hyields generalizing before with
  | abandoned => simp
  | pure value => simpa [Follows] using h
  | throw failure => simpa [Follows] using h
  | @call op next exchanged outcome answer _ ih =>
    obtain ⟨hfirst, hnext⟩ := h
    obtain ⟨hcalls, hpost⟩ := ih (hnext answer)
    refine ⟨fun earlier exchange later hsplit => ?_, fun result hresult => ?_⟩
    · cases earlier with
      | nil =>
        cases hsplit
        rwa [List.append_nil]
      | cons first earlier =>
        cases hsplit
        simpa using hcalls earlier exchange later rfl
    · simpa using hpost result hresult

theorem Follows.mono (h : Follows allowed post before program)
    (hpost : ∀ result after, post result after → weaker result after) :
    Follows allowed weaker before program := by
  induction program generalizing before with
  | pure value => exact hpost _ _ h
  | throw failure => exact hpost _ _ h
  | call op next ih => exact ⟨h.1, fun answer => ih answer (h.2 answer)⟩

theorem Follows.bind {rest : α → Program Op Answer Failure β}
    {post : Except Failure β → List (Exchange Op Answer) → Prop}
    (h : Follows allowed (fun
      | .ok value, middle => Follows allowed post middle (rest value)
      | .error failure, middle => post (.error failure) middle) before program) :
    Follows allowed post before (program >>= rest) := by
  induction program generalizing before with
  | pure value => exact h
  | throw failure => exact h
  | call op next ih => exact ⟨h.1, fun answer => ih answer (h.2 answer)⟩

theorem Follows.attempt
    {post : Except Failure (Except Failure α) → List (Exchange Op Answer) → Prop}
    (h : Follows allowed (fun result => post (.ok result)) before program) :
    Follows allowed post before program.attempt := by
  induction program generalizing before with
  | pure value => exact h
  | throw failure => exact h
  | call op next ih => exact ⟨h.1, fun answer => ih answer (h.2 answer)⟩

theorem Follows.ofExcept {result : Except Failure α} (h : post result before) :
    Follows allowed post before (ofExcept result) := by
  cases result <;> exact h

theorem Follows.ofExcept_bind {result : Except Failure α} {rest : α → Program Op Answer Failure β}
    {post : Except Failure β → List (Exchange Op Answer) → Prop}
    (hraises : ∀ failure, post (.error failure) before)
    (hrest : ∀ value, result = .ok value → Follows allowed post before (rest value)) :
    Follows allowed post before (Program.ofExcept result >>= rest) := by
  cases result with
  | ok value => exact hrest value rfl
  | error failure => exact hraises failure

theorem Follows.ask {op : Op}
    {allowed : List (Exchange Op fun op => Except Failure (Reply op)) → Op → Prop}
    {post : Except Failure (Reply op) →
      List (Exchange Op fun op => Except Failure (Reply op)) → Prop}
    {before : List (Exchange Op fun op => Except Failure (Reply op))}
    (hallowed : allowed before op)
    (hpost : ∀ answer, post answer (before ++ [⟨op, answer⟩])) :
    Follows allowed post before (ask op) := by
  refine ⟨hallowed, fun answer => ?_⟩
  cases answer with
  | ok reply => exact hpost (.ok reply)
  | error failure => exact hpost (.error failure)

theorem Follows.answer {Reply : Type} {Op : Type}
    {allowed : List (Exchange Op fun _ => Reply) → Op → Prop}
    {post : Except Failure α → List (Exchange Op fun _ => Reply) → Prop}
    {before : List (Exchange Op fun _ => Reply)}
    {program rest : Program Op (fun _ => Reply) Failure α} {op : Op} {reply : Reply}
    (h : Follows allowed post before program) (hcall : program.answer reply = some (op, rest)) :
    Follows allowed post (before ++ [⟨op, reply⟩]) rest := by
  cases program with
  | pure value => cases hcall
  | throw failure => cases hcall
  | call op next =>
    cases hcall
    exact h.2 reply

end Rules

end Programs
