import QubershipAirflow.SiteManager.Completion

/-! What a call leaves behind when it returns. A call that returns after its second
channel was closed leaves no goroutine; one that returns before that leaves
goroutines that nobody receives from any more. -/
namespace QubershipAirflow.SiteManager

open WaitGroup

section Drained

variable {m : DRManager} {ids : Identities} {mode : Mode} {cluster cluster' : Cluster}
  {call next : Call}

theorem Call.Moves.supported (hmove : (Call.start mode).Moves m ids cluster cluster' next) :
    mode.isSupported = true := by
  cases mode with
  | unsupported name => cases hmove <;> simp_all [Call.start]
  | _ => rfl

theorem Call.Arises.eq_start (h : Call.Arises m ids mode call)
    (hmode : mode.isSupported = false) : call = Call.start mode := by
  induction h with
  | start => rfl
  | move before same moves ih =>
    subst ih
    simp [moves.supported] at hmode

theorem Call.Moves.not_returned (hmove : call.Moves m ids cluster cluster' next)
    (hformed : call.WellFormed) (hdone : call.waitLoop = .done) : call.hasReturned = false := by
  have hstep := (hmove.of_done hformed hdone).1
  cases hcaller : call.caller with
  | returned resp err => simp [Call.stepCaller, hcaller] at hstep
  | _ => simp [Call.hasReturned, hcaller]

theorem Call.Arises.drained (h : Call.Arises m ids mode call) (hmode : mode.isSupported = true)
    (hret : call.hasReturned = true) (hclosed : .returnedOpen ∉ call.trace) :
    call.waitLoop = .done ∧ call.late = [] := by
  induction h with
  | start => cases mode <;> simp_all [Mode.isSupported, Call.start, Call.hasReturned]
  | @move _ _ call next before same moves ih =>
    have hbefore : call.hasReturned = false := by
      by_contra hreturned
      rw [Bool.not_eq_false] at hreturned
      have hdone := (ih hreturned fun h => hclosed (moves.trace_mono h)).1
      simp [moves.not_returned before.wellFormed hdone] at hreturned
    cases moves with
    | ret at_ =>
      cases hch : call.waitChClosed with
      | false => exact absurd (Call.mem_record_trace.mpr (.inr ⟨hbefore, by simp [hch]⟩)) hclosed
      | true =>
        refine ⟨before.wellFormed.waitCh.mp hch, ?_⟩
        simp [Call.record, hbefore, before.late_nil hbefore]
    | _ => simp_all [Call.hasReturned]

theorem Call.Moves.sender_stays (hmove : call.Moves m ids cluster cluster' next)
    (hret : call.hasReturned = true) {i : Nat} {scaler : Scaler} {err : Option Error}
    (hget : call.scalers[i]? = some scaler) (hsends : scaler.phase = .send err) :
    next.scalers[i]? = some scaler := by
  have hother : ∀ {j : Nat} {other : Scaler} (scaler' : Scaler),
      call.scalers[j]? = some other → other.phase ≠ .send err →
      (call.scalers.set j scaler')[i]? = some scaler := by
    intro j other scaler' hother hphase
    rw [List.getElem?_set_ne, hget]
    rintro rfl
    rw [hget] at hother
    cases hother
    exact hphase hsends
  have hlt : i < call.scalers.length := (List.getElem?_eq_some_iff.mp hget).1
  cases hmove with
  | receiveScaled at_ => simp [Call.hasReturned, at_] at hret
  | receiveScaleErr at_ => simp [Call.hasReturned, at_] at hret
  | scaleDeployment => exact (List.getElem?_append_left hlt).trans hget
  | scaleStatefulSet => exact (List.getElem?_append_left hlt).trans hget
  | scalerDone goroutine at_ => exact hother _ goroutine (by simp [at_])
  | scalerCall goroutine at_ =>
    refine hother _ goroutine fun hphase => ?_
    simp [hphase, ScalePhase.isBusy] at at_
  | _ => simpa using hget

structure Call.LeavesAfterFailure (call : Call) : Prop where
  leaving : call.caller = .testStatus ∨ (∃ status, call.caller = .ret status) →
    call.waitChClosed = true ∨ call.HasFailure
  returned : .returnedOpen ∈ call.log → call.HasFailure

theorem Call.Moves.leaving (hmove : call.Moves m ids cluster cluster' next)
    (hbefore : Call.Arises m ids mode call) (h : call.LeavesAfterFailure)
    (hat : next.caller = .testStatus ∨ ∃ status, next.caller = .ret status) :
    next.waitChClosed = true ∨ next.HasFailure := by
  have hfailed := hmove.hasFailure_mono
  cases hmove with
  | skipWait at_ read => exact .inr (hfailed (hbefore.hasFailure (.inl read)))
  | waitChEnds at_ closed => exact .inl closed
  | assignWaitErr at_ =>
    exact .inr (hfailed (hbefore.hasFailure (.inr (.inl (.assignWait _ at_)))))
  | decideDone at_ => exact (h.leaving (.inl at_)).imp_right hfailed
  | decideFailed at_ => exact (h.leaving (.inl at_)).imp_right hfailed
  | closeWaitCh => exact .inl rfl
  | _ => first | (simp at hat; done) | exact (h.leaving (by simpa using hat)).imp (by simp) hfailed

theorem Call.Moves.returned_open (hmove : call.Moves m ids cluster cluster' next)
    (h : call.LeavesAfterFailure) (hmem : .returnedOpen ∈ next.log) : next.HasFailure := by
  by_cases hold : .returnedOpen ∈ call.log
  · exact hmove.hasFailure_mono (h.returned hold)
  · cases hmove.event_from hmem hold with
    | returnedOpen status at_ open_ =>
      have hleft := (h.leaving (.inr ⟨status, at_⟩)).resolve_left (by simp [open_])
      exact hmove.hasFailure_mono hleft
    | scaler _ _ _ _ _ outcome => cases outcome

theorem Call.Arises.leavesAfterFailure (h : Call.Arises m ids mode call) :
    call.LeavesAfterFailure := by
  induction h with
  | start =>
    refine ⟨?_, fun hmem => absurd hmem List.not_mem_nil⟩
    cases mode <;> simp [Call.start]
  | move before same moves ih => exact ⟨moves.leaving before ih, moves.returned_open ih⟩

end Drained

section Histories

variable {m : DRManager} {cluster : Cluster} {system : System}

/-- After its return a call has changed nothing, and can change nothing. -/
def System.QuietAfterReturn (m : DRManager) (system : System) (call : Call) : Prop :=
  call.hasReturned = true →
    (∀ event ∈ call.late, event.isChange = false) ∧
    ∀ act cluster' next, call.step m system.cluster act = some (cluster', next) →
      cluster' = system.cluster

theorem changeMode_quiet_after_return
    (hrun : Runs.Reaches (System.step m) (System.initial cluster) system)
    {call : Call} (hcall : call ∈ system.calls) (hclosed : .returnedOpen ∉ call.trace) :
    system.QuietAfterReturn m call := by
  intro hret
  have hconsistent := System.consistent hrun
  have harises := hconsistent.2 call hcall
  cases hmode : call.mode.isSupported with
  | true =>
    obtain ⟨hdone, hlate⟩ := harises.drained hmode hret hclosed
    refine ⟨by simp [hlate], fun act cluster' next hstep => ?_⟩
    have hbefore := (hconsistent.moves hcall hstep).not_returned harises.wellFormed hdone
    simp [hbefore] at hret
  | false =>
    have hstart := harises.eq_start hmode
    have hlate : call.late = [] := by
      rw [hstart]
      rfl
    refine ⟨by simp [hlate], fun act cluster' next hstep => ?_⟩
    have hmove := hconsistent.moves hcall hstep
    rw [hstart] at hmove
    simp [hmove.supported] at hmode

theorem changeMode_returns_closed
    (hrun : Runs.Reaches (System.step m) (System.initial cluster) system)
    {call : Call} (hcall : call ∈ system.calls) (hfailed : ¬ call.HasFailure) :
    .returnedOpen ∉ call.trace := by
  have harises := (System.consistent hrun).2 call hcall
  exact fun hopen => hfailed (harises.leavesAfterFailure.returned (List.mem_append_left _ hopen))

def twoComponents : Cluster where
  deployments := ⟨[scheduler,
    ⟨"api-server", 0, ⟨"uid-4", [("tier", "airflow"), ("component", "api-server")], 1, ""⟩⟩],
    by decide⟩
  statefulSets := ⟨[], List.nodup_nil⟩

def failedStandby (second : List Act) : List Act :=
  List.replicate 4 (.scaleLoop .ok) ++ [.scaler 0 (.fault "unavailable"), .receive 0,
    .caller, .caller, .caller, .caller] ++ second

theorem replicas_set_after_return :
    ∃ system, Runs.Reaches (System.step schedulerMap) (System.initial twoComponents) system ∧
      ∃ call ∈ system.calls, call.mode = .standby ∧
        ¬ system.QuietAfterReturn schedulerMap call := by
  obtain ⟨system, hrun, hcheck⟩ := Runs.exists_of_replay
    (System.step schedulerMap) (System.initial twoComponents)
    (.start .standby :: (failedStandby (List.replicate 3 (.scaler 1 .ok))).map (Move.act 0))
    (fun system => system.calls.any fun call => call.mode = .standby ∧
      call.hasReturned = true ∧ .updated .deployment "api-server" 0 ∈ call.late)
    (by decide +kernel)
  simp only [List.any_eq_true, decide_eq_true_eq] at hcheck
  obtain ⟨call, hmem, hmode, hret, hlate⟩ := hcheck
  refine ⟨system, hrun, call, hmem, hmode, fun h => ?_⟩
  have hnot := (h hret).1 _ hlate
  simp [Event.isChange] at hnot

theorem quiet_after_scheduler_standby :
    ∃ system, Runs.Reaches (System.step schedulerMap) (System.initial schedulerCluster) system ∧
      ∃ call ∈ system.calls, call.hasReturned = true ∧
        system.QuietAfterReturn schedulerMap call := by
  obtain ⟨system, hrun, hcheck⟩ := Runs.exists_of_replay
    (System.step schedulerMap) (System.initial schedulerCluster)
    (.start .standby :: (standbyScheduler [] []).map (Move.act 0))
    (fun system => system.calls.any fun call =>
      call.hasReturned = true ∧ .returnedOpen ∉ call.trace) (by decide +kernel)
  simp only [List.any_eq_true, decide_eq_true_eq] at hcheck
  obtain ⟨call, hmem, hret, hclosed⟩ := hcheck
  exact ⟨system, hrun, call, hmem, hret, changeMode_quiet_after_return hrun hmem hclosed⟩

inductive Goroutine where
  | scaleLoop
  | waitLoop
  | scaler (i : Nat)
  | waiter (i : Nat)

def Call.hasStarted (call : Call) : Goroutine → Prop
  | .scaleLoop => call.mode.isSupported = true
  | .waitLoop => call.waitLoop ≠ .notStarted
  | .scaler i => i < call.scalers.length
  | .waiter i => i < call.waiters.length

def Call.hasEnded (call : Call) : Goroutine → Prop
  | .scaleLoop => call.scaleLoop = .done ∨ call.scaleLoop = .abandoned
  | .waitLoop => call.waitLoop = .done
  | .scaler i => ∃ scaler, call.scalers[i]? = some scaler ∧ scaler.phase = .finished
  | .waiter i => ∃ waiter, call.waiters[i]? = some waiter ∧ waiter.phase = .finished

def System.NoLeak (m : DRManager) (system : System) (k : Nat) : Prop :=
  ∀ call, system.calls[k]? = some call → call.hasReturned = true →
    ∀ goroutine, call.hasStarted goroutine →
      ∃ later, Runs.Reaches (System.step m) system later ∧
        ∃ call', later.calls[k]? = some call' ∧ call'.hasEnded goroutine

theorem Call.WellFormed.hasEnded {call : Call} (h : call.WellFormed)
    (hdone : call.waitLoop = .done) (goroutine : Goroutine)
    (hstarted : call.hasStarted goroutine) : call.hasEnded goroutine := by
  have hscaleLoop := h.scaleLoop_done hdone
  cases goroutine with
  | scaleLoop => exact .inl hscaleLoop
  | waitLoop => exact hdone
  | scaler i =>
    have hget : call.scalers[i]? = some call.scalers[i] := List.getElem?_eq_getElem hstarted
    exact ⟨_, hget, h.scalers_finished hscaleLoop (List.mem_of_getElem? hget)⟩
  | waiter i =>
    have hget : call.waiters[i]? = some call.waiters[i] := List.getElem?_eq_getElem hstarted
    have hwaited : call.waitLoop.waited = true := by simp [hdone, WaitLoopPhase.waited]
    exact ⟨_, hget, h.waiters_finished hwaited (List.mem_of_getElem? hget)⟩

theorem changeMode_leaks_no_goroutine
    (hrun : Runs.Reaches (System.step m) (System.initial cluster) system) (k : Nat)
    (hclosed : ∀ call, system.calls[k]? = some call → .returnedOpen ∉ call.trace) :
    system.NoLeak m k := by
  intro call hget hret goroutine hstarted
  have harises := (System.consistent hrun).2 call (List.mem_of_getElem? hget)
  refine ⟨system, Runs.Reaches.refl system, call, hget, ?_⟩
  cases hmode : call.mode.isSupported with
  | true =>
    have hdone := (harises.drained hmode hret (hclosed call hget)).1
    exact harises.wellFormed.hasEnded hdone goroutine hstarted
  | false =>
    rw [harises.eq_start hmode] at hstarted
    cases goroutine <;> simp_all [Call.hasStarted, Call.start]

theorem System.sender_stays {later : System} {k i : Nat} {scaler : Scaler} {err : Option Error}
    (hconsistent : system.Consistent m cluster.identities)
    (hlater : Runs.Reaches (System.step m) system later) (hsends : scaler.phase = .send err)
    (hstuck : ∃ call, system.calls[k]? = some call ∧ call.hasReturned = true ∧
      call.scalers[i]? = some scaler) :
    ∃ call, later.calls[k]? = some call ∧ call.hasReturned = true ∧
      call.scalers[i]? = some scaler := by
  refine System.call_invariant (fun _ h hmove => ?_) hconsistent hlater hstuck
  exact ⟨hmove.returned_stays h.1, hmove.sender_stays h.1 h.2 hsends⟩

theorem second_failed_sender_leaks :
    ∃ system, Runs.Reaches (System.step schedulerMap) (System.initial twoComponents) system ∧
      ¬ system.NoLeak schedulerMap 0 := by
  obtain ⟨system, hrun, hcheck⟩ := Runs.exists_of_replay
    (System.step schedulerMap) (System.initial twoComponents)
    (.start .standby :: (failedStandby [.scaler 1 (.fault "unavailable")]).map (Move.act 0))
    (fun system => system.calls[0]?.any fun call => call.hasReturned = true ∧
      call.scalers[1]? = some ⟨.deployment, "api-server", 0, .send (some "unavailable")⟩)
    (by decide +kernel)
  refine ⟨system, hrun, fun h => ?_⟩
  simp only [Option.any_eq_true, decide_eq_true_eq] at hcheck
  obtain ⟨call, hcall, hret, hget⟩ := hcheck
  have hstarted : call.hasStarted (.scaler 1) := (List.getElem?_eq_some_iff.mp hget).1
  obtain ⟨later, hlater, call', hcall', scaler, hget', hphase⟩ := h call hcall hret _ hstarted
  obtain ⟨stuck, hstuck, -, hstays⟩ := System.sender_stays (System.consistent hrun) hlater rfl
    ⟨call, hcall, hret, hget⟩
  rw [hcall'] at hstuck
  cases hstuck
  rw [hget'] at hstays
  cases hstays
  simp at hphase

theorem scheduler_standby_leaks_nothing :
    ∃ system, Runs.Reaches (System.step schedulerMap) (System.initial schedulerCluster) system ∧
      system.NoLeak schedulerMap 0 ∧
      ∃ call, system.calls[0]? = some call ∧ call.hasReturned = true := by
  obtain ⟨system, hrun, hcheck⟩ := Runs.exists_of_replay
    (System.step schedulerMap) (System.initial schedulerCluster)
    (.start .standby :: (standbyScheduler [] []).map (Move.act 0))
    (fun system => system.calls[0]?.any fun call =>
      call.hasReturned = true ∧ .returnedOpen ∉ call.trace) (by decide +kernel)
  simp only [Option.any_eq_true, decide_eq_true_eq] at hcheck
  obtain ⟨call, hcall, hret, hclosed⟩ := hcheck
  refine ⟨system, hrun, changeMode_leaks_no_goroutine hrun 0 ?_, call, hcall, hret⟩
  intro other hother
  rw [hcall] at hother
  cases hother
  exact hclosed

end Histories

end QubershipAirflow.SiteManager
