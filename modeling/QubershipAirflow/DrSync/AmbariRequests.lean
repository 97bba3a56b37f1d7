import QubershipAirflow.Library.Json

/-! Waiting for a request of Ambari: `check_request_completed` asks for its status every
ten seconds, until it is completed or the patience is over. -/
namespace QubershipAirflow.DrSync

/-- `content` is `none` for a body that is not UTF-8 or no JSON document. -/
structure AmbariAnswer where
  statusCode : Nat
  content : Option Json

inductive PollError where
  | exception (message : String)
  | python (err : PyError)
  deriving DecidableEq

def wrongStatusCode : PollError := .exception "WRONG RESPONSE STATUS CODE RECEIVED"

def timeoutReached : PollError := .exception "Timeout reached"

/-- `content_json["Requests"]["request_status"]` -/
def readRequestStatus (content : Json) : Except PyError Json := do
  (← content.getItem "Requests").getItem "request_status"

def AmbariAnswer.requestStatus (answer : AmbariAnswer) : Except PollError Json :=
  if answer.statusCode ≠ 200 then .error wrongStatusCode
  else match answer.content with
    | none => .error (.python (.valueError "Expecting value"))
    | some content => (readRequestStatus content).mapError .python

/-- `unanswered` is a request that waits for an answer. -/
inductive PollOutcome where
  | returned
  | raised (err : PollError)
  | unanswered
  deriving DecidableEq

structure PollResult where
  requests : Nat
  outcome : PollOutcome

/-- The loop, after `asked` requests. A finite sequence of answers ends with `none`. -/
def pollRequest (answers : Nat → Option AmbariAnswer) (timeout10 : Int) (asked : Nat) :
    PollResult :=
  match answers asked with
  | none => ⟨asked + 1, .unanswered⟩
  | some answer =>
    match answer.requestStatus with
    | .error err => ⟨asked + 1, .raised err⟩
    | .ok status =>
      if ¬ status.isText "COMPLETED" then
        if timeout10 - 1 < 0 then ⟨asked + 1, .raised timeoutReached⟩
        else pollRequest answers (timeout10 - 1) (asked + 1)
      else ⟨asked + 1, .returned⟩
termination_by timeout10.toNat

def checkRequestCompleted (answers : Nat → Option AmbariAnswer) : PollResult :=
  pollRequest answers 180 0

def AmbariAnswer.Readable (answer : AmbariAnswer) : Prop :=
  ∃ status, answer.requestStatus = .ok status

def AmbariAnswer.Completed (answer : AmbariAnswer) : Prop :=
  ∃ status, answer.requestStatus = .ok status ∧ status.isText "COMPLETED" = true

def AmbariAnswer.Pending (answer : AmbariAnswer) : Prop :=
  ∃ status, answer.requestStatus = .ok status ∧ status.isText "COMPLETED" = false

theorem AmbariAnswer.Pending.not_completed {answer : AmbariAnswer} (h : answer.Pending) :
    ¬ answer.Completed := by
  rintro ⟨status, hstatus, hcompleted⟩
  obtain ⟨other, hother, hpending⟩ := h
  rw [hstatus] at hother
  cases hother
  rw [hcompleted] at hpending
  cases hpending

theorem AmbariAnswer.Completed.readable {answer : AmbariAnswer} (h : answer.Completed) :
    answer.Readable :=
  ⟨h.choose, h.choose_spec.1⟩

inductive LastAnswer (answer : Option AmbariAnswer) (spent : Prop) : PollOutcome → Prop where
  | unanswered (h : answer = none) : LastAnswer answer spent .unanswered
  | refused {found : AmbariAnswer} {err : PollError} (h : answer = some found)
      (hrefused : found.requestStatus = .error err) : LastAnswer answer spent (.raised err)
  | completed {found : AmbariAnswer} (h : answer = some found) (hcompleted : found.Completed) :
      LastAnswer answer spent .returned
  | timeout {found : AmbariAnswer} (h : answer = some found) (hpending : found.Pending)
      (hspent : spent) : LastAnswer answer spent (.raised timeoutReached)

variable {answers : Nat → Option AmbariAnswer}

def Waits (answers : Nat → Option AmbariAnswer) (asked : Nat) : Prop :=
  ∃ answer, answers asked = some answer ∧ answer.Pending

theorem LastAnswer.imp {answer : Option AmbariAnswer} {spent spent' : Prop}
    {outcome : PollOutcome} (h : LastAnswer answer spent outcome) (himp : spent → spent') :
    LastAnswer answer spent' outcome := by
  cases h with
  | unanswered h => exact .unanswered h
  | refused h hrefused => exact .refused h hrefused
  | completed h hcompleted => exact .completed h hcompleted
  | timeout h hpending hspent => exact .timeout h hpending (himp hspent)

theorem LastAnswer.of_none {spent : Prop} {outcome : PollOutcome}
    (h : LastAnswer none spent outcome) : outcome = .unanswered := by
  cases h with
  | unanswered => rfl
  | refused h => cases h
  | completed h => cases h
  | timeout h => cases h

theorem LastAnswer.of_readable {answer : AmbariAnswer} {spent : Prop} {outcome : PollOutcome}
    (h : LastAnswer (some answer) spent outcome) (hreadable : answer.Readable) :
    answer.Completed ∧ outcome = .returned ∨ answer.Pending ∧ spent := by
  cases h with
  | unanswered h => cases h
  | refused h hrefused =>
    cases h
    obtain ⟨status, hstatus⟩ := hreadable
    rw [hrefused] at hstatus
    cases hstatus
  | completed h hcompleted =>
    cases h
    exact .inl ⟨hcompleted, rfl⟩
  | timeout h hpending hspent =>
    cases h
    exact .inr ⟨hpending, hspent⟩

theorem not_waits_of_none {asked : Nat} (h : answers asked = none) : ¬ Waits answers asked := by
  rintro ⟨waited, hwaited, -⟩
  rw [h] at hwaited
  cases hwaited

theorem not_waits_of_completed {asked : Nat} {answer : AmbariAnswer}
    (h : answers asked = some answer) (hcompleted : answer.Completed) :
    ¬ Waits answers asked := by
  rintro ⟨waited, hwaited, hpending⟩
  rw [h] at hwaited
  cases hwaited
  exact hpending.not_completed hcompleted

theorem LastAnswer.spent_of_waits {asked : Nat} {spent : Prop} {outcome : PollOutcome}
    (h : LastAnswer (answers asked) spent outcome) (hwaits : Waits answers asked) : spent := by
  obtain ⟨waited, hwaited, hpending⟩ := hwaits
  rw [hwaited] at h
  have hreadable : waited.Readable := ⟨hpending.choose, hpending.choose_spec.1⟩
  obtain ⟨hcompleted, -⟩ | ⟨-, hspent⟩ := h.of_readable hreadable
  · exact absurd hcompleted hpending.not_completed
  · exact hspent

theorem le_of_not_waits {more k : Nat} (hwaits : ∀ earlier < more, Waits answers earlier)
    (h : ¬ Waits answers k) : more ≤ k :=
  Nat.le_of_not_lt fun hlater => h (hwaits k hlater)

theorem pollRequest_round (answers : Nat → Option AmbariAnswer) (timeout10 : Int)
    (asked : Nat) :
    ((pollRequest answers timeout10 asked).requests = asked + 1 ∧
        LastAnswer (answers asked) (timeout10 < 1) (pollRequest answers timeout10 asked).outcome) ∨
      Waits answers asked ∧ 1 ≤ timeout10 ∧
        pollRequest answers timeout10 asked =
          pollRequest answers (timeout10 - 1) (asked + 1) := by
  rw [pollRequest]
  cases hanswer : answers asked with
  | none => exact .inl ⟨rfl, .unanswered rfl⟩
  | some answer =>
    cases hstatus : answer.requestStatus with
    | error err =>
      exact .inl ⟨by simp only [hstatus], by simpa only [hstatus] using .refused rfl hstatus⟩
    | ok status =>
      simp only [hstatus]
      cases hcompleted : status.isText "COMPLETED" with
      | true => exact .inl ⟨rfl, .completed rfl ⟨status, hstatus, hcompleted⟩⟩
      | false =>
        have hpending : answer.Pending := ⟨status, hstatus, hcompleted⟩
        simp only [Bool.false_eq_true, not_false_eq_true, if_true]
        by_cases hspent : timeout10 - 1 < 0
        · rw [if_pos hspent]
          exact .inl ⟨rfl, .timeout rfl hpending (by omega)⟩
        · rw [if_neg hspent]
          exact .inr ⟨⟨answer, hanswer, hpending⟩, by omega, rfl⟩

/-- The loop passes over pending answers, one for each unit of its patience. -/
theorem pollRequest_ends (answers : Nat → Option AmbariAnswer) (timeout10 asked : Nat) :
    ∃ more ≤ timeout10, (∀ earlier < more, Waits answers (asked + earlier)) ∧
      (pollRequest answers timeout10 asked).requests = asked + more + 1 ∧
      LastAnswer (answers (asked + more)) (more = timeout10)
        (pollRequest answers timeout10 asked).outcome := by
  induction timeout10 generalizing asked with
  | zero =>
    obtain ⟨hrequests, hlast⟩ | ⟨-, hpatience, -⟩ := pollRequest_round answers (0 : Nat) asked
    · exact ⟨0, Nat.le_refl 0, fun _ h => absurd h (Nat.not_lt_zero _), hrequests,
        hlast.imp fun _ => rfl⟩
    · omega
  | succ timeout10 ih =>
    obtain ⟨hrequests, hlast⟩ | ⟨hwaits, -, hround⟩ :=
      pollRequest_round answers (timeout10 + 1 : Nat) asked
    · exact ⟨0, Nat.zero_le _, fun _ h => absurd h (Nat.not_lt_zero _), hrequests,
        hlast.imp fun hspent => by omega⟩
    · obtain ⟨more, hmore, hwaited, hrequests, hlast⟩ := ih (asked + 1)
      have hpatience : ((timeout10 + 1 : Nat) : Int) - 1 = timeout10 := by omega
      have hplace : asked + (more + 1) = asked + 1 + more := by omega
      rw [hround, hpatience]
      refine ⟨more + 1, by omega, fun earlier hearlier => ?_, by omega, ?_⟩
      · cases earlier with
        | zero => exact hwaits
        | succ earlier =>
          have hthere := hwaited earlier (by omega)
          rwa [show asked + 1 + earlier = asked + (earlier + 1) by omega] at hthere
      · rw [hplace]
        exact hlast.imp fun hspent => by omega

section Whole

variable (answers)

/-- A request is the last one at the latest when 180 answers were pending. -/
theorem checkRequestCompleted_ends :
    ∃ more ≤ 180, (∀ earlier < more, Waits answers earlier) ∧
      (checkRequestCompleted answers).requests = more + 1 ∧
      LastAnswer (answers more) (more = 180) (checkRequestCompleted answers).outcome := by
  obtain ⟨more, hmore, hwaits, hrequests, hlast⟩ := pollRequest_ends answers 180 0
  simp only [Nat.zero_add] at hwaits hrequests hlast
  exact ⟨more, hmore, hwaits, hrequests, hlast⟩

/-- One of the first 181 answers says that the request is completed, and all answers
before it have a status that can be read. -/
def CompletedInTime : Prop :=
  ∃ k < 181, (∃ answer, answers k = some answer ∧ answer.Completed) ∧
    ∀ earlier < k, ∃ answer, answers earlier = some answer ∧ answer.Readable

theorem returned_iff :
    (checkRequestCompleted answers).outcome = .returned ↔ CompletedInTime answers := by
  obtain ⟨more, hmore, hwaits, -, hlast⟩ := checkRequestCompleted_ends answers
  constructor
  · intro hreturned
    rw [hreturned] at hlast
    cases hlast with
    | completed h hcompleted =>
      refine ⟨more, by omega, ⟨_, h, hcompleted⟩, fun earlier hearlier => ?_⟩
      obtain ⟨answer, hanswer, status, hstatus, -⟩ := hwaits earlier hearlier
      exact ⟨answer, hanswer, status, hstatus⟩
  · rintro ⟨k, hk, ⟨answer, hanswer, hcompleted⟩, hreadable⟩
    have hle : more ≤ k := le_of_not_waits hwaits (not_waits_of_completed hanswer hcompleted)
    obtain hlt | rfl := Nat.lt_or_eq_of_le hle
    · obtain ⟨last, hlastAnswer, hlastReadable⟩ := hreadable more hlt
      rw [hlastAnswer] at hlast
      obtain ⟨-, hreturned⟩ | ⟨-, hspent⟩ := hlast.of_readable hlastReadable
      · exact hreturned
      · omega
    · rw [hanswer] at hlast
      obtain ⟨-, hreturned⟩ | ⟨hpending, -⟩ := hlast.of_readable hcompleted.readable
      · exact hreturned
      · exact absurd hcompleted hpending.not_completed

theorem unanswered_iff :
    (checkRequestCompleted answers).outcome = .unanswered ↔
      ∃ k < 181, answers k = none ∧ ∀ earlier < k, Waits answers earlier := by
  obtain ⟨more, hmore, hwaits, -, hlast⟩ := checkRequestCompleted_ends answers
  constructor
  · intro hunanswered
    rw [hunanswered] at hlast
    cases hlast with
    | unanswered h => exact ⟨more, by omega, h, hwaits⟩
  · rintro ⟨k, hk, hnone, hearlier⟩
    have hle : more ≤ k := le_of_not_waits hwaits (not_waits_of_none hnone)
    obtain hlt | rfl := Nat.lt_or_eq_of_le hle
    · have hspent := hlast.spent_of_waits (hearlier more hlt)
      omega
    · rw [hnone] at hlast
      exact hlast.of_none

/-- The request loop ends after at most 181 requests. It returns exactly when the request is
completed in time, and otherwise raises, unless an answer is missing. -/
theorem checkRequestCompleted_spec :
    (checkRequestCompleted answers).requests ≤ 181 ∧
      ((checkRequestCompleted answers).outcome = .returned ↔ CompletedInTime answers) ∧
      ((∃ err, (checkRequestCompleted answers).outcome = .raised err) ↔
        ¬ CompletedInTime answers ∧
          ∀ k < 181, (∀ earlier < k, Waits answers earlier) → (answers k).isSome) := by
  refine ⟨?_, returned_iff answers, ?_⟩
  · obtain ⟨more, hmore, -, hrequests, -⟩ := checkRequestCompleted_ends answers
    omega
  · have hsupplied : (∀ k < 181, (∀ earlier < k, Waits answers earlier) →
        (answers k).isSome) ↔ (checkRequestCompleted answers).outcome ≠ .unanswered := by
      rw [Ne, unanswered_iff]
      simp only [not_exists, not_and, Option.isSome_iff_ne_none]
      exact forall₂_congr fun k _ => ⟨fun h hnone hwaits => h hwaits hnone,
        fun h hwaits hnone => h hnone hwaits⟩
    rw [hsupplied, ← returned_iff]
    cases (checkRequestCompleted answers).outcome with
    | returned => simp
    | raised err => simp
    | unanswered => simp

end Whole

def statusAnswer (status : String) : AmbariAnswer :=
  ⟨200, some (.obj [("Requests", .obj [("request_status", .str status)])])⟩

/-- An answer without a status ends the task, whatever the next one would say. -/
theorem checkRequestCompleted_unreadable :
    ¬ ∀ answers : Nat → Option AmbariAnswer,
      (checkRequestCompleted answers).outcome = .returned ↔
        ∃ k < 181, (∃ answer, answers k = some answer ∧ answer.Completed) ∧
          ∀ earlier < k, ∃ answer, answers earlier = some answer ∧ answer.statusCode = 200 := by
  intro hreturns
  let answers : Nat → Option AmbariAnswer := fun k =>
    [⟨200, some (.obj [])⟩, statusAnswer "COMPLETED"][k]?
  have hcompleted : (statusAnswer "COMPLETED").Completed := ⟨.str "COMPLETED", rfl, by decide⟩
  have hreturned : (checkRequestCompleted answers).outcome = .returned := by
    refine (hreturns answers).2 ⟨1, by omega, ⟨_, rfl, hcompleted⟩, fun earlier hearlier => ?_⟩
    obtain rfl : earlier = 0 := by omega
    exact ⟨_, rfl, rfl⟩
  obtain ⟨k, -, ⟨answer, hanswer, hdone⟩, hreadable⟩ := (returned_iff answers).1 hreturned
  cases k with
  | zero =>
    cases hanswer
    obtain ⟨status, hstatus, -⟩ := hdone
    cases hstatus
  | succ k =>
    obtain ⟨first, hfirst, status, hstatus⟩ := hreadable 0 (by omega)
    cases hfirst
    cases hstatus

end QubershipAirflow.DrSync
