import QubershipAirflow.DrSync.AmbariRequests
import QubershipAirflow.Library.Transcripts

/-! Stopping and starting Hive on the DR site: a request of Ambari, and then the wait for
its end. Ambari may answer anything. -/
namespace QubershipAirflow.DrSync

open Programs

inductive AmbariCall where
  | put (context state : String)
  | getRequest (requestNumber : Json)

abbrev HiveTask := Program AmbariCall (fun _ => AmbariAnswer) PollError

def AmbariAnswer.requestId (answer : AmbariAnswer) : Except PollError Json :=
  if answer.statusCode ≠ 202 then .error wrongStatusCode
  else match answer.content with
    | none => .error (.python (.valueError "Expecting value"))
    | some content =>
        (do (← content.getItem "Requests").getItem "id" : Except PyError Json).mapError .python

def checkResponse (answer : AmbariAnswer) : HiveTask Json :=
  match answer.requestId with
  | .ok requestId => .pure requestId
  | .error err => .throw err

def readAnswer (answer : AmbariAnswer) (waiting : HiveTask Unit) : HiveTask Unit :=
  match answer.requestStatus with
  | .error err => .throw err
  | .ok status => if ¬ status.isText "COMPLETED" then waiting else .pure ()

/-- The loop of `check_request_completed`, with this many rounds of patience left. -/
def pollUntilCompleted (requestNumber : Json) : Nat → HiveTask Unit
  | 0 => .call (.getRequest requestNumber) fun answer => readAnswer answer (.throw timeoutReached)
  | patience + 1 => .call (.getRequest requestNumber) fun answer =>
      readAnswer answer (pollUntilCompleted requestNumber patience)

def requestHiveState (context state : String) : HiveTask Unit := do
  let response ← Program.perform (.put context state)
  let requestId ← checkResponse response
  pollUntilCompleted requestId 180

def stopHiveService : HiveTask Unit := requestHiveState "Stop Hive service" "INSTALLED"

def startHiveService : HiveTask Unit := requestHiveState "Start Hive service" "STARTED"

def listedAnswers (answers : Nat → AmbariAnswer) :
    Program.Server AmbariCall (fun _ => AmbariAnswer) PollError Nat :=
  fun _ asked => .ok (answers asked, asked + 1)

inductive EndsAs : Except PollError Unit × Nat → PollResult → Prop where
  | returned (requests : Nat) : EndsAs (.ok (), requests) ⟨requests, .returned⟩
  | raised (err : PollError) (requests : Nat) :
      EndsAs (.error err, requests) ⟨requests, .raised err⟩

/-- The task's loop is the one of the request alone. -/
theorem pollUntilCompleted_run (answers : Nat → AmbariAnswer) (requestNumber : Json)
    (patience asked : Nat) :
    EndsAs ((pollUntilCompleted requestNumber patience).run (listedAnswers answers) asked)
      (pollRequest (fun place => some (answers place)) patience asked) := by
  induction patience generalizing asked with
  | zero =>
    rw [pollUntilCompleted, Program.run_call, pollRequest]
    simp only [listedAnswers, readAnswer]
    cases (answers asked).requestStatus with
    | error err => exact .raised err _
    | ok status =>
      cases hcompleted : status.isText "COMPLETED" with
      | true => simpa [hcompleted] using EndsAs.returned (asked + 1)
      | false => simpa [hcompleted] using EndsAs.raised timeoutReached (asked + 1)
  | succ patience ih =>
    rw [pollUntilCompleted, Program.run_call, pollRequest]
    simp only [listedAnswers, readAnswer]
    cases (answers asked).requestStatus with
    | error err => exact .raised err _
    | ok status =>
      cases hcompleted : status.isText "COMPLETED" with
      | true => simpa [hcompleted] using EndsAs.returned (asked + 1)
      | false =>
        have hleft : ((patience + 1 : Nat) : Int) - 1 = patience := by omega
        simp only [hcompleted, Bool.false_eq_true, not_false_eq_true, if_true, hleft]
        rw [if_neg (by omega)]
        exact ih (asked + 1)

abbrev AmbariTranscript := List (Exchange AmbariCall fun _ => AmbariAnswer)

def Polls (requestId : Json) (exchanged : AmbariTranscript) : Prop :=
  ∀ exchange ∈ exchanged, exchange.op = .getRequest requestId

/-- Ambari has accepted this request, and has reported it as completed in its last answer;
nothing else was asked for since. -/
def Brought (context state : String) (exchanged : AmbariTranscript) : Prop :=
  ∃ earlier answer requestId polls last,
    exchanged = earlier ++ ⟨.put context state, answer⟩ :: polls ++ [last] ∧
      answer.requestId = .ok requestId ∧ Polls requestId (polls ++ [last]) ∧
        last.answer.Completed

def Returns (context state : String) (result : Except PollError Unit)
    (exchanged : AmbariTranscript) : Prop :=
  result = .ok () → Brought context state exchanged

abbrev FollowsHive (context state : String) : AmbariTranscript → HiveTask Unit → Prop :=
  Follows (fun _ _ => True) (Returns context state)

section Hive

variable {context state : String} {earlier polls : AmbariTranscript}
  {accepted answer : AmbariAnswer} {requestId : Json}

theorem returns_error (err : PollError) (exchanged : AmbariTranscript) :
    Returns context state (.error err) exchanged := by
  rintro ⟨⟩

theorem readAnswer_follows {waiting : HiveTask Unit}
    (haccepted : accepted.requestId = .ok requestId) (hpolls : Polls requestId polls)
    (hwaiting : FollowsHive context state
      (earlier ++ ⟨.put context state, accepted⟩ :: polls ++
        [⟨.getRequest requestId, answer⟩]) waiting) :
    FollowsHive context state
      (earlier ++ ⟨.put context state, accepted⟩ :: polls ++
        [⟨.getRequest requestId, answer⟩]) (readAnswer answer waiting) := by
  unfold readAnswer
  cases hstatus : answer.requestStatus with
  | error err => exact returns_error err _
  | ok status =>
    cases htext : status.isText "COMPLETED" with
    | false => simpa [htext] using hwaiting
    | true =>
      simp only [htext, not_true_eq_false, if_false]
      refine fun _ => ⟨earlier, accepted, requestId, polls, _, rfl, haccepted, ?_,
        status, hstatus, htext⟩
      intro exchange hexchange
      obtain hbefore | hlast := List.mem_append.mp hexchange
      · exact hpolls exchange hbefore
      · rw [List.mem_singleton.mp hlast]

theorem pollUntilCompleted_follows (haccepted : accepted.requestId = .ok requestId)
    (hpolls : Polls requestId polls) (patience : Nat) :
    FollowsHive context state (earlier ++ ⟨.put context state, accepted⟩ :: polls)
      (pollUntilCompleted requestId patience) := by
  induction patience generalizing polls with
  | zero =>
    refine ⟨trivial, fun answer => readAnswer_follows haccepted hpolls ?_⟩
    exact returns_error timeoutReached _
  | succ patience ih =>
    refine ⟨trivial, fun answer => readAnswer_follows haccepted hpolls ?_⟩
    have hmore : Polls requestId (polls ++ [⟨.getRequest requestId, answer⟩]) := by
      intro exchange hexchange
      obtain hbefore | hlast := List.mem_append.mp hexchange
      · exact hpolls exchange hbefore
      · rw [List.mem_singleton.mp hlast]
    have hnext := ih hmore
    rwa [← List.cons_append, ← List.append_assoc] at hnext

/-- Stopping or starting Hive returns only when Ambari has accepted the request and reported
it as completed. -/
theorem requestHiveState_follows (context state : String) (before : AmbariTranscript) :
    FollowsHive context state before (requestHiveState context state) := by
  refine ⟨trivial, fun answer => ?_⟩
  change FollowsHive context state _ (checkResponse answer >>= fun requestId =>
    pollUntilCompleted requestId 180)
  refine Follows.bind ?_
  cases hid : answer.requestId with
  | error err =>
    simp only [checkResponse, hid]
    exact returns_error err _
  | ok requestId =>
    simp only [checkResponse, hid]
    exact pollUntilCompleted_follows hid (by simp [Polls]) 180

end Hive

end QubershipAirflow.DrSync
