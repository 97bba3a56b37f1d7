import QubershipAirflow.SiteManager.Failures

/-! The result of a call. When no recorded error is lost, DONE means that the wait
loop has ended and no API call of the call failed, and FAILED that one did. -/
namespace QubershipAirflow.SiteManager

open WaitGroup

def Mode.isSupported : Mode → Bool
  | .unsupported _ => false
  | _ => true

section Quiet

variable {m : DRManager} {ids : Identities} {cluster cluster' : Cluster} {call next : Call}

theorem Call.WellFormed.scaleLoop_done (h : call.WellFormed) (hdone : call.waitLoop = .done) :
    call.scaleLoop = .done :=
  h.waitStarted.mp (by simp [hdone])

theorem Call.WellFormed.scalers_finished (h : call.WellFormed) (hdone : call.scaleLoop = .done)
    {scaler : Scaler} (hmem : scaler ∈ call.scalers) : scaler.phase = .finished := by
  have hfinished := h.scalePool.quiet (by simp [hdone, ScaleLoopPhase.waited]) scaler hmem
  simpa [Scaler.isFinished] using hfinished

theorem Call.WellFormed.waiters_finished (h : call.WellFormed)
    (hwaited : call.waitLoop.waited = true) {waiter : Waiter} (hmem : waiter ∈ call.waiters) :
    waiter.phase = .finished := by
  have hfinished := h.waitPool.quiet hwaited waiter hmem
  simpa [Waiter.isFinished] using hfinished

theorem Call.WellFormed.not_pending (h : call.WellFormed) (hdone : call.waitLoop = .done)
    (hscale : ∀ err, call.caller ≠ .assignScaleErr err)
    (hwait : ∀ err, call.caller ≠ .assignWaitErr err) : ¬ call.Pending := by
  intro hpending
  cases hpending with
  | assignScale err at_ => exact hscale err at_
  | assignWait err at_ => exact hwait err at_
  | scaler err sends =>
    obtain ⟨scaler, hmem, hsends⟩ := sends
    simp [h.scalers_finished (h.scaleLoop_done hdone) hmem] at hsends
  | waiter err sends =>
    obtain ⟨waiter, hmem, hsends⟩ := sends
    simp [h.waiters_finished (by simp [hdone, WaitLoopPhase.waited]) hmem] at hsends
  | deletion message rest err sends => simp [hdone] at sends
  | workers message sends => simp [hdone] at sends

theorem Call.Moves.of_done (hmove : call.Moves m ids cluster cluster' next)
    (h : call.WellFormed) (hdone : call.waitLoop = .done) :
    call.stepCaller = some next ∧ cluster' = cluster := by
  have hscaleLoop := h.scaleLoop_done hdone
  have hscaler : ∀ {i : Nat} {scaler : Scaler}, call.scalers[i]? = some scaler →
      scaler.phase = .finished :=
    fun hget => h.scalers_finished hscaleLoop (List.mem_of_getElem? hget)
  have hwaiter : ∀ {i : Nat} {waiter : Waiter}, call.waiters[i]? = some waiter →
      waiter.phase = .finished :=
    fun hget => h.waiters_finished (by simp [hdone, WaitLoopPhase.waited])
      (List.mem_of_getElem? hget)
  cases hmove with
  | scaleChEnds at_ closed => simp [Call.stepCaller, at_, closed]
  | assignScaleErr at_ => simp [Call.stepCaller, at_]
  | enterWait at_ read => simp [Call.stepCaller, at_, read]
  | skipWait at_ read => simp [Call.stepCaller, at_, read]
  | waitChEnds at_ closed => simp [Call.stepCaller, at_, closed]
  | assignWaitErr at_ => simp [Call.stepCaller, at_]
  | decideDone at_ read => simp [Call.stepCaller, at_, read]
  | decideFailed at_ read => simp [Call.stepCaller, at_, read]
  | ret at_ => simp [Call.stepCaller, at_]
  | receiveScaled at_ sender sends => simp [hscaler sender] at sends
  | receiveScaleErr at_ sender sends => simp [hscaler sender] at sends
  | receiveWaited at_ sender sends => simp [hwaiter sender] at sends
  | receiveWaitErr at_ sender sends => simp [hwaiter sender] at sends
  | scalerDone goroutine at_ => simp [hscaler goroutine] at at_
  | scalerCall goroutine at_ => simp [hscaler goroutine, ScalePhase.isBusy] at at_
  | waiterDone goroutine at_ => simp [hwaiter goroutine] at at_
  | polled goroutine at_ => simp [hwaiter goroutine] at at_
  | waitTimeout goroutine at_ => simp [hwaiter goroutine] at at_
  | _ => simp_all

end Quiet

section Reported

variable {m : DRManager} {ids : Identities} {mode : Mode} {cluster cluster' : Cluster}
  {call next : Call}

def Call.FailedBefore (call : Call) : Prop := ∃ event ∈ call.trace, event.isFailure = true

structure Call.Reported (call : Call) : Prop where
  held : call.hasReturned = false → call.FailedBefore → call.err ≠ none ∨ call.Pending
  tested : call.caller = .testStatus → call.err ≠ none ∨ call.waitLoop = .done
  done : call.caller = .ret .done → call.err = none ∧ call.waitLoop = .done
  failed : call.caller = .ret .failed → call.err ≠ none
  returned : ∀ resp err, call.caller = .returned resp err →
    resp = respond call.mode .done ∧ err = none ∧ ¬ call.FailedBefore ∧ call.waitLoop = .done ∧
      call.late = [] ∨
    resp = respond call.mode .failed ∧ err ≠ none ∧ call.FailedBefore

theorem Call.start_reported (hmode : mode.isSupported = true) : (Call.start mode).Reported := by
  cases mode with
  | unsupported name => simp [Mode.isSupported] at hmode
  | _ =>
    refine ⟨fun _ hfailed => ?_, by simp [Call.start], by simp [Call.start],
      by simp [Call.start], by simp [Call.start]⟩
    simp [Call.FailedBefore, Call.start] at hfailed

theorem Call.Moves.losesErr_mono (hmove : call.Moves m ids cluster cluster' next)
    {loop : Loop} (h : call.LosesErr loop) : next.LosesErr loop :=
  h.imp fun _ => hmove.trace_mono

theorem Call.Moves.err_stays (hmove : call.Moves m ids cluster cluster' next)
    (hformed : call.WellFormed) (hlost : ∀ loop, ¬ next.LosesErr loop)
    (hret : call.hasReturned = false) (h : call.err ≠ none) : next.err ≠ none :=
  (hmove.err_kept hformed hret h).resolve_right fun ⟨loop, hlosing, _⟩ => hlost loop hlosing

theorem Call.Moves.held (hmove : call.Moves m ids cluster cluster' next)
    (hbefore : Call.Arises m ids mode call) (h : call.Reported)
    (hlost : ∀ loop, ¬ next.LosesErr loop)
    (hret : next.hasReturned = false) (hfailed : next.FailedBefore) :
    next.err ≠ none ∨ next.Pending := by
  have hcall := hmove.returned_mono hret
  obtain ⟨event, hevent, hfails⟩ := hfailed
  by_cases hold : event ∈ call.log
  · rw [← hbefore.trace_eq_log hcall] at hold
    rcases h.held hcall ⟨event, hold, hfails⟩ with herr | hpending
    · exact .inl (hmove.err_stays hbefore.wellFormed hlost hcall herr)
    · exact (hmove.pending_to hbefore.wellFormed hpending).symm
  · exact hmove.failure_to (List.mem_append_left _ hevent) hold hfails

theorem Call.Moves.tested (hmove : call.Moves m ids cluster cluster' next)
    (hformed : call.WellFormed) (h : call.Reported) (hlost : ∀ loop, ¬ next.LosesErr loop)
    (hat : next.caller = .testStatus) : next.err ≠ none ∨ next.waitLoop = .done := by
  have hstays : call.caller = .testStatus → next.err ≠ none ∨ next.waitLoop = .done := by
    intro hcall
    rcases h.tested hcall with herr | hdone
    · exact .inl (hmove.err_stays hformed hlost (by simp [Call.hasReturned, hcall]) herr)
    · have hstep := (hmove.of_done hformed hdone).1
      rw [Call.stepCaller, hcall] at hstep
      cases hstep
      exact .inr hdone
  cases hmove with
  | skipWait at_ read => exact .inl read
  | waitChEnds at_ closed => exact .inr (hformed.waitCh.mp closed)
  | assignWaitErr => exact .inl (by simp)
  | _ => first | (simp at hat; done) | exact hstays (by simpa using hat)

theorem Call.Moves.done_from (hmove : call.Moves m ids cluster cluster' next)
    (hformed : call.WellFormed) (h : call.Reported) (hat : next.caller = .ret .done) :
    next.err = none ∧ next.waitLoop = .done := by
  have hstays : call.caller ≠ .ret .done := by
    intro hcall
    have hstep := (hmove.of_done hformed (h.done hcall).2).1
    rw [Call.stepCaller, hcall] at hstep
    cases hstep
    simp at hat
  cases hmove with
  | decideDone at_ read => exact ⟨read, (h.tested at_).resolve_left (by simp [read])⟩
  | _ => first | (simp at hat; done) | exact absurd (by simpa using hat) hstays

theorem Call.Moves.failed_from (hmove : call.Moves m ids cluster cluster' next)
    (hformed : call.WellFormed) (h : call.Reported) (hlost : ∀ loop, ¬ next.LosesErr loop)
    (hat : next.caller = .ret .failed) : next.err ≠ none := by
  have hstays : call.caller = .ret .failed → next.err ≠ none := fun hcall =>
    hmove.err_stays hformed hlost (by simp [Call.hasReturned, hcall]) (h.failed hcall)
  cases hmove with
  | decideFailed at_ read => exact read
  | _ => first | (simp at hat; done) | exact hstays (by simpa using hat)

theorem Call.Moves.returned_from (hmove : call.Moves m ids cluster cluster' next)
    (hbefore : Call.Arises m ids mode call) (h : call.Reported) {resp : ControllerResponse}
    {err : Option Error} (hat : next.caller = .returned resp err) :
    resp = respond next.mode .done ∧ err = none ∧ ¬ next.FailedBefore ∧ next.waitLoop = .done ∧
      next.late = [] ∨
    resp = respond next.mode .failed ∧ err ≠ none ∧ next.FailedBefore := by
  have hformed := hbefore.wellFormed
  have hstays : call.caller = .returned resp err →
      resp = respond next.mode .done ∧ err = none ∧ ¬ next.FailedBefore ∧
        next.waitLoop = .done ∧ next.late = [] ∨
      resp = respond next.mode .failed ∧ err ≠ none ∧ next.FailedBefore := by
    intro hcall
    rw [hmove.mode_eq]
    rcases h.returned resp err hcall with ⟨-, -, -, hdone, -⟩ | ⟨hresp, herr, hfailed⟩
    · have hstep := (hmove.of_done hformed hdone).1
      simp [Call.stepCaller, hcall] at hstep
    · exact .inr ⟨hresp, herr, hfailed.imp fun _ hevent =>
        ⟨hmove.trace_mono hevent.1, hevent.2⟩⟩
  cases hmove with
  | @ret status at_ =>
    obtain ⟨rfl, rfl⟩ : respond call.mode status = resp ∧ call.err = err := by simpa using hat
    have hret : call.hasReturned = false := by simp [Call.hasReturned, at_]
    cases status with
    | done =>
      obtain ⟨hnone, hdone⟩ := h.done at_
      refine .inl ⟨rfl, hnone, fun hfailed => ?_, hdone, ?_⟩
      rotate_left
      · simp [Call.record, hret, hbefore.late_nil hret]
      have hclosed := hformed.waitCh.mpr hdone
      have hcall : call.FailedBefore := by
        simpa [Call.FailedBefore, hclosed, Call.record] using hfailed
      rcases h.held hret hcall with herr | hpending
      · exact herr hnone
      · exact hformed.not_pending hdone (by simp [at_]) (by simp [at_]) hpending
    | failed =>
      refine .inr ⟨rfl, h.failed at_, ?_⟩
      obtain ⟨event, hevent, hfails⟩ := hbefore.hasFailure (.inl (h.failed at_))
      rw [← hbefore.trace_eq_log hret] at hevent
      exact ⟨event, Call.mem_record_trace.mpr (.inl hevent), hfails⟩
  | _ => first | (simp at hat; done) | exact hstays (by simpa using hat)

theorem Call.Arises.reported (h : Call.Arises m ids mode call)
    (hmode : mode.isSupported = true) (hlost : ∀ loop, ¬ call.LosesErr loop) :
    call.Reported := by
  induction h with
  | start => exact Call.start_reported hmode
  | @move _ _ call next before same moves ih =>
    have hformed := before.wellFormed
    have hcall := ih fun loop h => hlost loop (moves.losesErr_mono h)
    exact ⟨moves.held before hcall hlost, moves.tested hformed hcall hlost,
      moves.done_from hformed hcall, moves.failed_from hformed hcall hlost,
      fun resp err => moves.returned_from before hcall⟩

end Reported

section Histories

variable {m : DRManager} {cluster : Cluster} {system : System}

def Call.ReportsFailures (call : Call) : Prop :=
  ∀ resp err, call.caller = .returned resp err →
    (call.FailedBefore → resp.status = .failed ∧ err ≠ none) ∧
    (¬ call.FailedBefore → resp.status = .done ∧ err = none)

theorem changeMode_reports_failures
    (hrun : Runs.Reaches (System.step m) (System.initial cluster) system)
    {call : Call} (hcall : call ∈ system.calls) (hmode : call.mode.isSupported = true)
    (hkept : ∀ loop, ¬ call.LosesErr loop) : call.ReportsFailures := by
  intro resp err hret
  have harises := (System.consistent hrun).2 call hcall
  have hreported := harises.reported hmode hkept
  rcases hreported.returned resp err hret with
    ⟨rfl, rfl, hnone, -⟩ | ⟨rfl, herr, hfailed⟩
  · exact ⟨fun hfailed => absurd hfailed hnone, fun _ => ⟨rfl, rfl⟩⟩
  · exact ⟨fun _ => ⟨rfl, herr⟩, fun hnone => absurd hfailed hnone⟩

def emptyCluster : Cluster := ⟨⟨[], List.nodup_nil⟩, ⟨[], List.nodup_nil⟩⟩

def unmapped : DRManager := ⟨⟨[], List.nodup_nil⟩, 0⟩

/-- STANDBY on an empty cluster; the scaling loop's listing of StatefulSets and what
follows from it are given. -/
def emptyStandby (listing : List Act) : List Act :=
  List.replicate 3 (.scaleLoop .ok) ++ listing ++ [.scaleLoop .ok, .scaleLoop .ok] ++
    List.replicate 6 (.waitLoop .ok) ++ [.waitLoop (.pods []), .waitLoop .ok, .waitLoop .ok] ++
    List.replicate 5 .caller

/-- The first listing of StatefulSets fails and the second succeeds. -/
theorem listing_failure_forgotten :
    ∃ system, Runs.Reaches (System.step unmapped) (System.initial emptyCluster) system ∧
      ∃ call ∈ system.calls, call.mode = .standby ∧ ¬ call.ReportsFailures := by
  obtain ⟨system, hrun, hcheck⟩ := Runs.exists_of_replay
    (System.step unmapped) (System.initial emptyCluster)
    (.start .standby ::
      (emptyStandby [.scaleLoop (.fault "unavailable"), .scaleLoop .ok]).map (Move.act 0))
    (fun system => system.calls.any fun call => call.mode = .standby ∧
      call.caller = .returned (respond .standby .done) none ∧
      call.trace.any Event.isFailure) (by decide)
  simp only [List.any_eq_true, decide_eq_true_eq] at hcheck
  obtain ⟨call, hmem, hmode, hret, hfailed⟩ := hcheck
  refine ⟨system, hrun, call, hmem, hmode, fun h => ?_⟩
  have hresp := ((h _ _ hret).1 (by simpa [Call.FailedBefore] using hfailed)).1
  simp [respond] at hresp

def scheduler : Workload :=
  ⟨"scheduler", 0, ⟨"uid-3", [("tier", "airflow"), ("component", "scheduler")], 2, ""⟩⟩

def schedulerCluster : Cluster := ⟨⟨[scheduler], by decide⟩, ⟨[], List.nodup_nil⟩⟩

def schedulerMap : DRManager := ⟨⟨[("scheduler", 2)], by decide⟩, 0⟩

def refusedStandby : List Act :=
  List.replicate 4 (.scaleLoop .ok) ++
    [.scaler 0 .ok, .scaler 0 .ok, .scaler 0 (.fault "refused"), .receive 0] ++
      List.replicate 4 .caller

theorem refused_standby_reports_failure :
    ∃ system, Runs.Reaches (System.step schedulerMap) (System.initial schedulerCluster) system ∧
      ∃ call ∈ system.calls, call.ReportsFailures ∧ ∃ resp err,
        call.caller = .returned resp err ∧ resp.status = .failed ∧ err ≠ none := by
  obtain ⟨system, hrun, hcheck⟩ := Runs.exists_of_replay
    (System.step schedulerMap) (System.initial schedulerCluster)
    (.start .standby :: refusedStandby.map (Move.act 0))
    (fun system => system.calls.any fun call => call.mode = .standby ∧
      call.hasReturned = true ∧ call.trace.any Event.isFailure ∧
      call.trace.all fun event => match event with
        | .errLost _ _ => false
        | _ => true) (by decide +kernel)
  simp only [List.any_eq_true, decide_eq_true_eq] at hcheck
  obtain ⟨call, hmem, hmode, hret, hfailed, hkept⟩ := hcheck
  have hreports : call.ReportsFailures := by
    refine changeMode_reports_failures hrun hmem ?_ ?_
    · rw [hmode]
      rfl
    · rintro loop ⟨err, hlost⟩
      have hnot := List.all_eq_true.mp hkept _ hlost
      simp at hnot
  cases hcaller : call.caller with
  | returned resp err =>
    obtain ⟨hstatus, herr⟩ :=
      (hreports resp err hcaller).1 (by simpa [Call.FailedBefore] using hfailed)
    exact ⟨system, hrun, call, hmem, hreports, resp, err, hcaller, hstatus, herr⟩
  | _ => simp [Call.hasReturned, hcaller] at hret

end Histories

end QubershipAirflow.SiteManager
