import QubershipAirflow.SiteManager.Leftovers

/-! Whether somebody serves the calling goroutine. While it ranges over a channel,
the goroutines in the background can always bring a sender to its send or close
the channel, except after the Deployments could not be listed or after the
scaling loop lost an error. -/
namespace QubershipAirflow.SiteManager

open WaitGroup

section Entering

variable {m : DRManager} {ids : Identities} {mode : Mode} {cluster cluster' : Cluster}
  {call next : Call}

theorem Call.Arises.idle (h : Call.Arises m ids mode call) (hmode : mode.isSupported = true)
    (hphase : call.scaleLoop.started = false) :
    call.scalers = [] ∧ call.caller = .rangeScaleCh := by
  induction h with
  | start => cases mode <;> simp_all [Mode.isSupported, Call.start]
  | @move _ _ call next before same moves ih =>
    have hformed := before.wellFormed
    have hcall : call.scaleLoop.started = false := by
      cases moves <;> simp_all [ScaleLoopPhase.started]
    obtain ⟨hscalers, hcaller⟩ := ih hcall
    cases moves with
    | scaleChEnds at_ closed =>
      rw [hformed.scaleCh.mp closed] at hcall
      contradiction
    | _ => simp_all [ScaleLoopPhase.started]

theorem Call.Arises.listing_failed (h : Call.Arises m ids mode call)
    (hmode : mode.isSupported = true)
    (hphase : call.scaleLoop = .testDeployments ∧ call.err ≠ none ∨
      call.scaleLoop = .abandoned) : ∃ err, .listFailed .deployment err ∈ call.log := by
  induction h with
  | start => cases mode <;> simp_all [Mode.isSupported, Call.start]
  | @move cluster _ call next before same moves ih =>
    have hidle := before.idle hmode
    have hstays : (call.scaleLoop = .testDeployments ∧ call.err ≠ none ∨
        call.scaleLoop = .abandoned) → ∃ err, .listFailed .deployment err ∈ next.log :=
      fun hcall => (ih hcall).imp fun _ => moves.log_mono
    cases moves with
    | @listDeployments failure =>
      cases failure with
      | none => simp [Call.listDeployments] at hphase
      | some err => exact ⟨err, Call.mem_record_log.mpr (by simp)⟩
    | abandon at_ read => exact hstays (.inl ⟨at_, read⟩)
    | assignScaleErr at_ =>
      have hcaller := (hidle (by rcases hphase with hphase | hphase <;>
        simp_all [ScaleLoopPhase.started])).2
      simp [hcaller] at at_
    | assignWaitErr at_ =>
      have hcaller := (hidle (by rcases hphase with hphase | hphase <;>
        simp_all [ScaleLoopPhase.started])).2
      simp [hcaller] at at_
    | relist at_ =>
      have hdone := before.wellFormed.waitStarted.mp (by simp [at_])
      simp [hdone] at hphase
    | _ => first | (simp at hphase; done) | exact hstays (by simpa using hphase)

theorem Call.Arises.supported (h : Call.Arises m ids mode call)
    (hret : call.hasReturned = false) : mode.isSupported = true := by
  by_contra hmode
  rw [h.eq_start (Bool.not_eq_true _ ▸ hmode)] at hret
  cases mode <;> simp [Mode.isSupported, Call.start, Call.hasReturned] at hmode hret

structure Call.Entered (call : Call) : Prop where
  testing : call.caller = .testErr → call.err ≠ none ∨ call.scaleLoop = .done
  waiting : call.caller = .rangeWaitCh → call.scaleLoop = .done

theorem Call.Moves.testing (hmove : call.Moves m ids cluster cluster' next)
    (hformed : call.WellFormed) (h : call.Entered) (hlost : ¬ next.LosesErr .scale)
    (hat : next.caller = .testErr) : next.err ≠ none ∨ next.scaleLoop = .done := by
  have hstays : call.caller = .testErr → next.err ≠ none ∨ next.scaleLoop = .done := by
    intro hcaller
    rcases h.testing hcaller with herr | hdone
    · refine (hmove.err_kept hformed (by simp [Call.hasReturned, hcaller]) herr).imp_right ?_
      rintro ⟨loop, hlosing, hloop⟩
      cases loop with
      | scale => exact absurd hlosing hlost
      | wait => exact hmove.scaleLoop_done (hloop rfl)
    · exact .inr (hmove.scaleLoop_done hdone)
  cases hmove with
  | scaleChEnds at_ closed => exact .inr (hformed.scaleCh.mp closed)
  | assignScaleErr => exact .inl (by simp)
  | _ => first | (simp at hat; done) | exact hstays (by simpa using hat)

theorem Call.Moves.waiting (hmove : call.Moves m ids cluster cluster' next)
    (h : call.Entered) (hat : next.caller = .rangeWaitCh) : next.scaleLoop = .done := by
  have hstays : call.caller = .rangeWaitCh → next.scaleLoop = .done :=
    fun hcaller => hmove.scaleLoop_done (h.waiting hcaller)
  cases hmove with
  | enterWait at_ read => exact (h.testing at_).resolve_left (by simp [read])
  | receiveWaited at_ => exact hstays at_
  | _ => first | (simp at hat; done) | exact hstays (by simpa using hat)

theorem Call.Arises.entered (h : Call.Arises m ids mode call)
    (hlost : ¬ call.LosesErr .scale) : call.Entered := by
  induction h with
  | start => cases mode <;> exact ⟨by simp [Call.start], by simp [Call.start]⟩
  | move before same moves ih =>
    have hcall := ih fun h => hlost (moves.losesErr_mono h)
    exact ⟨moves.testing before.wellFormed hcall hlost, moves.waiting hcall⟩

end Entering

section Scheduling

variable {m : DRManager} {ids : Identities} {mode : Mode} {cluster cluster' : Cluster}
  {call next : Call}

theorem Call.Arises.step (h : Call.Arises m ids mode call) (hids : cluster.identities = ids)
    {act : Act} (hstep : call.step m cluster act = some (cluster', next)) :
    Call.Arises m ids mode next :=
  .move h hids (Call.step_moves hids
    (fun scaler hmem => (h.scaler_proper scaler hmem).sound) hstep)

theorem System.reaches_of_call {I G : Call → Prop} (weight : Call → Nat)
    (hstep : ∀ call, I call → ¬ G call → ∃ act next,
      call.step m cluster act = some (cluster, next) ∧ I next ∧ weight next < weight call)
    {system : System} {k : Nat} (hcluster : system.cluster = cluster)
    (hcall : system.calls[k]? = some call) (hI : I call) :
    ∃ later call', Runs.Reaches (System.step m) system later ∧ later.cluster = cluster ∧
      later.calls[k]? = some call' ∧ I call' ∧ G call' := by
  have hreach := Runs.reaches_of_measure (System.step m)
    (I := fun system => system.cluster = cluster ∧
      ∃ call, system.calls[k]? = some call ∧ I call)
    (G := fun system => system.cluster = cluster ∧
      ∃ call, system.calls[k]? = some call ∧ I call ∧ G call)
    (fun system => (system.calls[k]?.map weight).getD 0) ?_ system ⟨hcluster, call, hcall, hI⟩
  · obtain ⟨later, hlater, hsame, call', hcall', hI', hG⟩ := hreach
    exact ⟨later, call', hlater, hsame, hcall', hI', hG⟩
  · rintro system ⟨hcluster, call, hcall, hI⟩ hgoal
    obtain ⟨act, next, hnext, hI', hless⟩ := hstep call hI
      fun hG => hgoal ⟨hcluster, call, hcall, hI, hG⟩
    have hlt := (List.getElem?_eq_some_iff.mp hcall).1
    rw [← hcluster] at hnext
    refine ⟨.act k act, _, System.step_of_call hcall hnext,
      ⟨hcluster, next, by simp [hlt], hI'⟩, ?_⟩
    have hnow : (system.calls[k]?.map weight).getD 0 = weight call := by rw [hcall]; rfl
    have hthen : ((system.calls.set k next)[k]?.map weight).getD 0 = weight next := by simp [hlt]
    rwa [hnow, hthen]

end Scheduling

section Scaling

variable {m : DRManager} {ids : Identities} {mode : Mode} {cluster : Cluster} {call : Call}

structure Call.Scaling (m : DRManager) (ids : Identities) (mode : Mode) (call : Call) :
    Prop where
  arises : Call.Arises m ids mode call
  caller : call.caller = .rangeScaleCh
  listed : call.scaleLoop ≠ .abandoned
  tested : call.scaleLoop = .testDeployments → call.err = none

def ScaleLoopPhase.rank : ScaleLoopPhase → Nat
  | .listDeployments => 8
  | .testDeployments => 7
  | .scaleDeployments _ => 6
  | .listStatefulSets => 5
  | .testStatefulSets => 4
  | .scaleStatefulSets _ => 3
  | .waitGroup => 2
  | .closeCh => 1
  | .done | .abandoned => 0

def ScaleLoopPhase.isStarting : ScaleLoopPhase → Bool
  | .scaleDeployments (_ :: _) | .scaleStatefulSets (_ :: _) => true
  | _ => false

def ScalePhase.callsLeft : ScalePhase → Nat
  | .read _ _ => 2
  | .lookup | .write _ _ _ => 1
  | .send _ | .sent | .finished => 0

theorem getWorkload_fault (cluster : Cluster) (kind : Kind) (labelName labelValue : String)
    (err : Error) :
    ∃ message, getWorkload cluster kind labelName labelValue (some err) = .error message := by
  cases kind
  · exact ⟨_, rfl⟩
  · exact ⟨_, rfl⟩

theorem Scaler.step_fault (retries : Nat) (cluster : Cluster) {scaler : Scaler}
    (hbusy : scaler.phase.isBusy = true) (err : Error) :
    ∃ scaler' events, scaler.step retries cluster (.fault err) = some (cluster, scaler', events) ∧
      (scaler'.phase.isBusy = true ∨ ∃ sent, scaler'.phase = .send sent) ∧
      scaler'.phase.callsLeft < scaler.phase.callsLeft := by
  cases hphase : scaler.phase with
  | lookup =>
    obtain ⟨message, hmessage⟩ :=
      getWorkload_fault cluster scaler.kind "component" scaler.component err
    refine ⟨(scaler.fail message).1, (scaler.fail message).2, ?_, .inr ⟨some message, rfl⟩,
      by simp [Scaler.fail, ScalePhase.callsLeft]⟩
    simp [Scaler.step, hphase, Reply.failure, hmessage]
  | read name left =>
    refine ⟨{ scaler with phase := .write name (scaler.readObject cluster name (some err)) left },
      [], ?_, .inl rfl, by simp [ScalePhase.callsLeft]⟩
    simp [Scaler.step, hphase, Reply.failure]
  | write name object left =>
    have hfail : ∀ message, ∃ scaler' events,
        some (cluster, scaler.fail message) = some (cluster, scaler', events) ∧
        (scaler'.phase.isBusy = true ∨ ∃ sent, scaler'.phase = .send sent) ∧
        scaler'.phase.callsLeft < ScalePhase.callsLeft (.write name object left) :=
      fun message => ⟨_, _, rfl, .inr ⟨some message, rfl⟩,
        by simp [ScalePhase.callsLeft]⟩
    simp only [Scaler.step, hphase, Scaler.writeObject]
    split
    · exact hfail emptyName
    · exact hfail err
  | _ => simp [hphase, ScalePhase.isBusy] at hbusy

def Call.Sending (i : Nat) (call : Call) : Prop :=
  ∃ scaler, call.scalers[i]? = some scaler ∧
    (scaler.phase.isBusy = true ∨ ∃ err, scaler.phase = .send err)

theorem Call.Scaling.reaches_send {system : System} {k i : Nat}
    (h : call.caller = .rangeScaleCh) (hsending : call.Sending i)
    (hcall : system.calls[k]? = some call) :
    ∃ later call', Runs.Reaches (System.step m) system later ∧
      later.calls[k]? = some call' ∧ call'.caller = .rangeScaleCh ∧
      ∃ scaler ∈ call'.scalers, ∃ err, scaler.phase = .send err := by
  have hreach := System.reaches_of_call (m := m)
    (I := fun call => call.caller = .rangeScaleCh ∧ call.Sending i)
    (G := fun call => ∃ scaler, call.scalers[i]? = some scaler ∧
      ∃ err, scaler.phase = .send err)
    (fun call => (call.scalers[i]?.map fun scaler => scaler.phase.callsLeft).getD 0)
    ?_ (Eq.refl system.cluster) hcall ⟨h, hsending⟩
  · obtain ⟨later, call', hlater, -, hcall', ⟨hcaller, -⟩, scaler, hget, hsends⟩ := hreach
    exact ⟨later, call', hlater, hcall', hcaller, scaler, List.mem_of_getElem? hget, hsends⟩
  · rintro call ⟨hcaller, scaler, hget, hsending⟩ hgoal
    have hbusy : scaler.phase.isBusy = true :=
      hsending.resolve_right fun hsends => hgoal ⟨scaler, hget, hsends⟩
    obtain ⟨scaler', events, hstep, hnext, hless⟩ :=
      Scaler.step_fault m.conflictRetries system.cluster hbusy "unavailable"
    have hlt := (List.getElem?_eq_some_iff.mp hget).1
    refine ⟨.scaler i (.fault "unavailable"),
      { call.record events with scalers := call.scalers.set i scaler' }, ?_,
      ⟨hcaller, scaler', by simp [hlt], hnext⟩, ?_⟩
    · simp only [Call.step, Call.stepScaler, hget]
      split
      · rename_i hsent
        simp [hsent, ScalePhase.isBusy] at hbusy
      · simp [hstep]
    · have hnow : (call.scalers[i]?.map fun scaler => scaler.phase.callsLeft).getD 0 =
          scaler.phase.callsLeft := by rw [hget]; rfl
      rw [hnow]
      simpa [hlt] using hless

private theorem Call.Scaling.onward (h : call.Scaling m ids mode)
    (hids : cluster.identities = ids) {phase : ScaleLoopPhase} (reply : Reply) (next : Call)
    (hstep : call.stepScaleLoop m cluster reply = some next)
    (hcaller : next.caller = call.caller) (hlisted : next.scaleLoop ≠ .abandoned)
    (htested : next.scaleLoop = .testDeployments → next.err = none)
    (hscalers : next.scalers = call.scalers) (hless : next.scaleLoop.rank < phase.rank) :
    ∃ reply next, call.step m cluster (.scaleLoop reply) = some (cluster, next) ∧
      next.Scaling m ids mode ∧ next.scalers = call.scalers ∧
      next.scaleLoop.rank < phase.rank := by
  have hact : call.step m cluster (.scaleLoop reply) = some (cluster, next) := by
    simp [Call.step, hstep]
  exact ⟨reply, next, hact, ⟨h.arises.step hids hact, hcaller.trans h.caller, hlisted, htested⟩,
    hscalers, hless⟩

theorem Call.Scaling.advance (h : call.Scaling m ids mode) (hids : cluster.identities = ids)
    (hfinished : ∀ scaler ∈ call.scalers, scaler.phase = .finished)
    (hopen : call.scaleChClosed = false) (hloop : call.scaleLoop.isStarting = false) :
    ∃ reply next, call.step m cluster (.scaleLoop reply) = some (cluster, next) ∧
      next.Scaling m ids mode ∧ next.scalers = call.scalers ∧
      next.scaleLoop.rank < call.scaleLoop.rank := by
  have hformed := h.arises.wellFormed
  cases hphase : call.scaleLoop with
  | listDeployments =>
    exact h.onward hids .ok { call.listDeployments cluster none with scaleLoop := .testDeployments }
      (by simp [Call.stepScaleLoop, hphase, Reply.failure]) rfl (by simp) (fun _ => rfl) rfl
      (by simp [ScaleLoopPhase.rank])
  | testDeployments =>
    have hnone := h.tested hphase
    obtain ⟨items, hitems⟩ := Option.isSome_iff_exists.mp (hformed.deploymentsTest hphase hnone)
    exact h.onward hids .ok { call with scaleLoop := .scaleDeployments items }
      (by simp [Call.stepScaleLoop, hphase, hnone, hitems]) rfl (by simp) (by simp) rfl
      (by simp [ScaleLoopPhase.rank])
  | scaleDeployments rest =>
    cases rest with
    | nil =>
      exact h.onward hids .ok { call with scaleLoop := .listStatefulSets }
        (by simp [Call.stepScaleLoop, hphase]) rfl (by simp) (by simp) rfl
        (by simp [ScaleLoopPhase.rank])
    | cons item rest => simp [hphase, ScaleLoopPhase.isStarting] at hloop
  | listStatefulSets =>
    exact h.onward hids (.fault "unavailable")
      { call.listStatefulSets cluster .scale (some "unavailable") with
        scaleLoop := .testStatefulSets }
      (by simp [Call.stepScaleLoop, hphase, Reply.failure]) rfl (by simp) (by simp) rfl
      (by simp [ScaleLoopPhase.rank])
  | testStatefulSets =>
    by_cases hnone : call.err = none
    · obtain ⟨items, hitems⟩ :=
        Option.isSome_iff_exists.mp (hformed.statefulSetsTest (.inl hphase) hnone)
      exact h.onward hids .ok { call with scaleLoop := .scaleStatefulSets items }
        (by simp [Call.stepScaleLoop, hphase, hnone, hitems]) rfl (by simp) (by simp) rfl
        (by simp [ScaleLoopPhase.rank])
    · exact h.onward hids .ok { call with scaleLoop := .waitGroup }
        (by simp [Call.stepScaleLoop, hphase, hnone]) rfl (by simp) (by simp) rfl
        (by simp [ScaleLoopPhase.rank])
  | scaleStatefulSets rest =>
    cases rest with
    | nil =>
      exact h.onward hids .ok { call with scaleLoop := .waitGroup }
        (by simp [Call.stepScaleLoop, hphase]) rfl (by simp) (by simp) rfl
        (by simp [ScaleLoopPhase.rank])
    | cons item rest => simp [hphase, ScaleLoopPhase.isStarting] at hloop
  | waitGroup =>
    have hzero : call.wgScale = 0 := by
      rw [hformed.scalePool.counted, List.countP_eq_zero]
      intro scaler hmem
      simp [Scaler.isFinished, hfinished scaler hmem]
    exact h.onward hids .ok { call with scaleLoop := .closeCh }
      (by simp [Call.stepScaleLoop, hphase, hzero]) rfl (by simp) (by simp) rfl
      (by simp [ScaleLoopPhase.rank])
  | closeCh =>
    exact h.onward hids .ok
      { call with scaleChClosed := true, scaleLoop := .done, waitLoop := .begin }
      (by simp [Call.stepScaleLoop, hphase]) rfl (by simp) (by simp) rfl
      (by simp [ScaleLoopPhase.rank])
  | done => simp [hformed.scaleCh.mpr hphase] at hopen
  | abandoned => exact absurd hphase h.listed

theorem Call.Scaling.finish (h : call.Scaling m ids mode) (hids : cluster.identities = ids)
    {i : Nat} {scaler : Scaler} (hget : call.scalers[i]? = some scaler)
    (hsent : scaler.phase = .sent) :
    ∃ next, call.step m cluster (.scaler i .ok) = some (cluster, next) ∧
      next.Scaling m ids mode ∧ next.scaleLoop = call.scaleLoop ∧
      next.scalers = call.scalers.set i { scaler with phase := .finished } := by
  have hstep : call.step m cluster (.scaler i .ok) = some (cluster, { call with
      wgScale := call.wgScale - 1
      scalers := call.scalers.set i { scaler with phase := .finished } }) := by
    simp [Call.step, Call.stepScaler, hget, hsent]
  exact ⟨_, hstep, ⟨h.arises.step hids hstep, h.caller, h.listed, h.tested⟩, rfl, rfl⟩

def Scaler.isSent (scaler : Scaler) : Bool := scaler.phase = .sent

theorem Call.Scaling.reaches_sending (h : call.Scaling m ids mode) {system : System} {k : Nat}
    (hids : system.cluster.identities = ids) (hcall : system.calls[k]? = some call) :
    ∃ later call', Runs.Reaches (System.step m) system later ∧
      later.calls[k]? = some call' ∧ call'.Scaling m ids mode ∧
      (call'.scaleChClosed = true ∨ (∃ i, call'.Sending i) ∨
        call'.scaleLoop.isStarting = true) := by
  have hreach := System.reaches_of_call (m := m) (I := Call.Scaling m ids mode)
    (G := fun call => call.scaleChClosed = true ∨ (∃ i, call.Sending i) ∨
      call.scaleLoop.isStarting = true)
    (fun call => call.scaleLoop.rank + call.scalers.countP Scaler.isSent)
    ?_ (Eq.refl system.cluster) hcall h
  · obtain ⟨later, call', hlater, -, hcall', hscaling, hgoal⟩ := hreach
    exact ⟨later, call', hlater, hcall', hscaling, hgoal⟩
  · intro call h hgoal
    simp only [not_or, Bool.not_eq_true, not_exists] at hgoal
    obtain ⟨hopen, hquiet, hloop⟩ := hgoal
    by_cases hsent : ∃ (i : Nat) (scaler : Scaler), call.scalers[i]? = some scaler ∧
        scaler.phase = .sent
    · obtain ⟨i, scaler, hget, hsent⟩ := hsent
      obtain ⟨next, hstep, hnext, hsame, hscalers⟩ := h.finish hids hget hsent
      refine ⟨_, next, hstep, hnext, ?_⟩
      have hcount := countP_set Scaler.isSent hget { scaler with phase := .finished }
      simp only [Scaler.isSent, hsent, decide_true, if_true, reduceCtorEq, decide_false,
        Bool.false_eq_true, if_false] at hcount
      rw [hsame, hscalers]
      omega
    · have hfinished : ∀ scaler ∈ call.scalers, scaler.phase = .finished := by
        intro scaler hmem
        obtain ⟨i, hget⟩ := List.mem_iff_getElem?.mp hmem
        have hnot : ¬ (scaler.phase.isBusy = true ∨ ∃ err, scaler.phase = .send err) :=
          fun hsending => hquiet i ⟨scaler, hget, hsending⟩
        cases hphase : scaler.phase with
        | finished => rfl
        | sent => exact absurd ⟨i, scaler, hget, hphase⟩ hsent
        | _ => simp [hphase, ScalePhase.isBusy] at hnot
      obtain ⟨reply, next, hstep, hnext, hscalers, hless⟩ := h.advance hids hfinished hopen hloop
      refine ⟨_, next, hstep, hnext, ?_⟩
      rw [hscalers]
      omega

def Call.Served (call : Call) : Prop :=
  match call.caller with
  | .rangeScaleCh => call.scaleChClosed = true ∨
      ∃ scaler ∈ call.scalers, ∃ err, scaler.phase = .send err
  | .rangeWaitCh => call.waitChClosed = true ∨
      (∃ waiter ∈ call.waiters, ∃ err, waiter.phase = .send err) ∨
      (∃ message rest err, call.waitLoop = .sendDeleteErr message rest err) ∨
      ∃ message, call.waitLoop = .sendWorkersErr message
  | _ => False

theorem Call.Sending.reaches_served {i : Nat} (hsending : call.Sending i)
    (hcaller : call.caller = .rangeScaleCh) {system : System} {k : Nat}
    (hcall : system.calls[k]? = some call) :
    ∃ later call', Runs.Reaches (System.step m) system later ∧
      later.calls[k]? = some call' ∧ call'.Served := by
  obtain ⟨later, call', hlater, hcall', hcaller', hsends⟩ :=
    Call.Scaling.reaches_send (m := m) hcaller hsending hcall
  refine ⟨later, call', hlater, hcall', ?_⟩
  simp only [Call.Served, hcaller']
  exact .inr hsends

theorem Call.stepScaleLoop_starts (cluster : Cluster) (h : call.scaleLoop.isStarting = true) :
    ∃ next, call.stepScaleLoop m cluster .ok = some next ∧ next.caller = call.caller ∧
      next.Sending call.scalers.length := by
  cases hphase : call.scaleLoop with
  | scaleDeployments rest =>
    cases rest with
    | nil => simp [hphase, ScaleLoopPhase.isStarting] at h
    | cons item rest =>
      exact ⟨{ call with
          wgScale := call.wgScale + 1
          scalers := call.scalers ++ [m.startScaler call.mode .deployment item]
          scaleLoop := .scaleDeployments rest }, by simp [Call.stepScaleLoop, hphase], rfl,
        m.startScaler call.mode .deployment item, by simp, .inl rfl⟩
  | scaleStatefulSets rest =>
    cases rest with
    | nil => simp [hphase, ScaleLoopPhase.isStarting] at h
    | cons item rest =>
      exact ⟨{ call with
          wgScale := call.wgScale + 1
          scalers := call.scalers ++ [m.startScaler call.mode .statefulSet item]
          scaleLoop := .scaleStatefulSets rest }, by simp [Call.stepScaleLoop, hphase], rfl,
        m.startScaler call.mode .statefulSet item, by simp, .inl rfl⟩
  | _ => simp [hphase, ScaleLoopPhase.isStarting] at h

theorem Call.Scaling.reaches_served (h : call.Scaling m ids mode) {system : System} {k : Nat}
    (hids : system.cluster.identities = ids) (hcall : system.calls[k]? = some call) :
    ∃ later call', Runs.Reaches (System.step m) system later ∧
      later.calls[k]? = some call' ∧ call'.Served := by
  obtain ⟨middle, call', hmiddle, hcall', h', hclosed | ⟨i, hsending⟩ | hstarting⟩ :=
    h.reaches_sending hids hcall
  · refine ⟨middle, call', hmiddle, hcall', ?_⟩
    simp only [Call.Served, h'.caller]
    exact .inl hclosed
  · obtain ⟨later, last, hlater, hserved⟩ := hsending.reaches_served (m := m) h'.caller hcall'
    exact ⟨later, last, hmiddle.trans hlater, hserved⟩
  · obtain ⟨next, hstep, hcaller, hsending⟩ :=
      Call.stepScaleLoop_starts (m := m) middle.cluster hstarting
    have hact : System.step m middle (.act k (.scaleLoop .ok)) =
        some ⟨middle.cluster, middle.calls.set k next⟩ :=
      System.step_of_call hcall' (by simp [Call.step, hstep])
    have hlt := (List.getElem?_eq_some_iff.mp hcall').1
    have hnext : (System.mk middle.cluster (middle.calls.set k next)).calls[k]? = some next := by
      simp [hlt]
    obtain ⟨later, last, hlater, hserved⟩ :=
      hsending.reaches_served (m := m) (hcaller.trans h'.caller) hnext
    exact ⟨later, last, hmiddle.trans (hlater.head hact), hserved⟩

end Scaling

section Waiting

variable {m : DRManager} {ids : Identities} {mode : Mode} {cluster : Cluster} {call : Call}

structure Call.Waiting (m : DRManager) (ids : Identities) (mode : Mode) (call : Call) :
    Prop where
  arises : Call.Arises m ids mode call
  caller : call.caller = .rangeWaitCh
  started : call.scaleLoop = .done

def WaitLoopPhase.rank : WaitLoopPhase → Nat
  | .begin => 9
  | .waitDeployments _ => 8
  | .listStatefulSets => 7
  | .testStatefulSets => 6
  | .waitStatefulSets _ => 5
  | .waitGroup => 4
  | .listWorkers => 3
  | .deleteWorkers _ _ => 2
  | .closeCh => 1
  | .notStarted | .sendDeleteErr _ _ _ | .sendWorkersErr _ | .done => 0

def WaitLoopPhase.isStarting : WaitLoopPhase → Bool
  | .waitDeployments (_ :: _) | .waitStatefulSets (_ :: _) => true
  | _ => false

def Waiter.isSent (waiter : Waiter) : Bool := waiter.phase = .sent

theorem Call.Waiting.served_of_done (h : call.Waiting m ids mode) (hdone : call.waitLoop = .done) :
    call.Served := by
  simp only [Call.Served, h.caller]
  exact .inl (h.arises.wellFormed.waitCh.mpr hdone)

private theorem Call.Waiting.onward (h : call.Waiting m ids mode)
    (hids : cluster.identities = ids) {phase : WaitLoopPhase} (reply : Reply) (next : Call)
    (hstep : call.stepWaitLoop cluster reply = some next)
    (hcaller : next.caller = call.caller) (hstarted : next.scaleLoop = call.scaleLoop)
    (hwaiters : next.waiters = call.waiters) (hless : next.waitLoop.rank < phase.rank) :
    ∃ reply next, call.step m cluster (.waitLoop reply) = some (cluster, next) ∧
      next.Waiting m ids mode ∧ next.waiters = call.waiters ∧
      next.waitLoop.rank < phase.rank := by
  have hact : call.step m cluster (.waitLoop reply) = some (cluster, next) := by
    simp [Call.step, hstep]
  exact ⟨reply, next, hact, ⟨h.arises.step hids hact, hcaller.trans h.caller,
    hstarted.trans h.started⟩, hwaiters, hless⟩

theorem Call.Waiting.advance (h : call.Waiting m ids mode) (hids : cluster.identities = ids)
    (hfinished : ∀ waiter ∈ call.waiters, waiter.phase = .finished)
    (hserved : ¬ call.Served) (hloop : call.waitLoop.isStarting = false) :
    ∃ reply next, call.step m cluster (.waitLoop reply) = some (cluster, next) ∧
      next.Waiting m ids mode ∧ next.waiters = call.waiters ∧
      next.waitLoop.rank < call.waitLoop.rank := by
  have hformed := h.arises.wellFormed
  cases hphase : call.waitLoop with
  | notStarted => exact absurd hphase (hformed.waitStarted.mpr h.started)
  | begin =>
    obtain ⟨items, hitems⟩ := Option.isSome_iff_exists.mp
      (hformed.deployments (by simp [h.started, ScaleLoopPhase.started]))
    exact h.onward hids .ok { call with waitLoop := .waitDeployments items }
      (by simp [Call.stepWaitLoop, hphase, hitems]) rfl rfl rfl (by simp [WaitLoopPhase.rank])
  | waitDeployments rest =>
    cases rest with
    | nil =>
      exact h.onward hids .ok { call with waitLoop := .listStatefulSets }
        (by simp [Call.stepWaitLoop, hphase]) rfl rfl rfl (by simp [WaitLoopPhase.rank])
    | cons item rest => simp [hphase, WaitLoopPhase.isStarting] at hloop
  | listStatefulSets =>
    exact h.onward hids (.fault "unavailable")
      { call.listStatefulSets cluster .wait (some "unavailable") with
        waitLoop := .testStatefulSets }
      (by simp [Call.stepWaitLoop, hphase, Reply.failure]) rfl rfl rfl
      (by simp [WaitLoopPhase.rank])
  | testStatefulSets =>
    by_cases hnone : call.err = none
    · obtain ⟨items, hitems⟩ :=
        Option.isSome_iff_exists.mp (hformed.statefulSetsTest (.inr hphase) hnone)
      exact h.onward hids .ok { call with waitLoop := .waitStatefulSets items }
        (by simp [Call.stepWaitLoop, hphase, hnone, hitems]) rfl rfl rfl
        (by simp [WaitLoopPhase.rank])
    · exact h.onward hids .ok { call.record [.waitSkipped] with waitLoop := .waitGroup }
        (by simp [Call.stepWaitLoop, hphase, hnone]) rfl rfl rfl (by simp [WaitLoopPhase.rank])
  | waitStatefulSets rest =>
    cases rest with
    | nil =>
      exact h.onward hids .ok { call with waitLoop := .waitGroup }
        (by simp [Call.stepWaitLoop, hphase]) rfl rfl rfl (by simp [WaitLoopPhase.rank])
    | cons item rest => simp [hphase, WaitLoopPhase.isStarting] at hloop
  | waitGroup =>
    have hzero : call.wgWait = 0 := by
      rw [hformed.waitPool.counted, List.countP_eq_zero]
      intro waiter hmem
      simp [Waiter.isFinished, hfinished waiter hmem]
    exact h.onward hids .ok
      { call with waitLoop := if call.mode = .active then .closeCh else .listWorkers }
      (by simp [Call.stepWaitLoop, hphase, hzero]) rfl rfl rfl
      (by dsimp only; split <;> simp [WaitLoopPhase.rank])
  | listWorkers =>
    exact h.onward hids (.fault "unavailable")
      { call.record [.workersListFailed "unavailable"] with
        waitLoop := .sendWorkersErr (listFailure "unavailable") }
      (by simp [Call.stepWaitLoop, hphase, Call.stepWorkers]) rfl rfl rfl
      (by simp [WaitLoopPhase.rank])
  | deleteWorkers rest last =>
    cases rest with
    | nil =>
      cases last with
      | none =>
        exact h.onward hids .ok { call with waitLoop := .closeCh }
          (by simp [Call.stepWaitLoop, hphase, Call.stepWorkers]) rfl rfl rfl
          (by simp [WaitLoopPhase.rank])
      | some err =>
        exact h.onward hids .ok { call with waitLoop := .sendWorkersErr (listFailure err) }
          (by simp [Call.stepWaitLoop, hphase, Call.stepWorkers]) rfl rfl rfl
          (by simp [WaitLoopPhase.rank])
    | cons pod rest =>
      exact h.onward hids (.fault "unavailable")
        { call.record [.podDeleteFailed pod.name "unavailable"] with
          waitLoop := .sendDeleteErr (deleteFailure pod.name "unavailable") rest "unavailable" }
        (by simp [Call.stepWaitLoop, hphase, Call.stepWorkers]) rfl rfl rfl
        (by simp [WaitLoopPhase.rank])
  | sendDeleteErr message rest err =>
    exact absurd (by simp [Call.Served, h.caller, hphase]) hserved
  | sendWorkersErr message =>
    exact absurd (by simp [Call.Served, h.caller, hphase]) hserved
  | closeCh =>
    exact h.onward hids .ok { call with waitChClosed := true, waitLoop := .done }
      (by simp [Call.stepWaitLoop, hphase]) rfl rfl rfl (by simp [WaitLoopPhase.rank])
  | done => exact absurd (h.served_of_done hphase) hserved

theorem Call.Waiting.finish (h : call.Waiting m ids mode) (hids : cluster.identities = ids)
    {i : Nat} {waiter : Waiter} (hget : call.waiters[i]? = some waiter)
    (hsent : waiter.phase = .sent) :
    ∃ next, call.step m cluster (.waiter i .ok) = some (cluster, next) ∧
      next.Waiting m ids mode ∧ next.waitLoop = call.waitLoop ∧
      next.waiters = call.waiters.set i { waiter with phase := .finished } := by
  have hstep : call.step m cluster (.waiter i .ok) = some (cluster, { call with
      wgWait := call.wgWait - 1
      waiters := call.waiters.set i { waiter with phase := .finished } }) := by
    simp [Call.step, Call.stepWaiter, hget, hsent]
  exact ⟨_, hstep, ⟨h.arises.step hids hstep, h.caller, h.started⟩, rfl, rfl⟩

def Call.Polling (i : Nat) (call : Call) : Prop :=
  ∃ waiter, call.waiters[i]? = some waiter ∧ waiter.phase = .polling

theorem Call.Polling.reaches_served {i : Nat} (hpolling : call.Polling i)
    (hcaller : call.caller = .rangeWaitCh) {system : System} {k : Nat}
    (hcall : system.calls[k]? = some call) :
    ∃ later call', Runs.Reaches (System.step m) system later ∧
      later.calls[k]? = some call' ∧ call'.Served := by
  obtain ⟨waiter, hget, hphase⟩ := hpolling
  have hstep : call.step m system.cluster (.waiter i .timeout) = some (system.cluster,
      { call.record [.waitFailed waiter.component (timeoutError call.mode waiter.component)] with
        waiters := call.waiters.set i { waiter with
          phase := .send (some (timeoutError call.mode waiter.component)) } }) := by
    simp [Call.step, Call.stepWaiter, hget, hphase]
  have hlt := (List.getElem?_eq_some_iff.mp hcall).1
  refine ⟨_, _, Runs.Reaches.single (System.step_of_call hcall hstep),
    List.getElem?_set_self hlt, ?_⟩
  simp only [Call.Served, Call.record_caller, hcaller]
  exact .inr (.inl ⟨_, List.mem_set (List.getElem?_eq_some_iff.mp hget).1 _, _, rfl⟩)

theorem Call.Waiting.reaches_polling (h : call.Waiting m ids mode) {system : System} {k : Nat}
    (hids : system.cluster.identities = ids) (hcall : system.calls[k]? = some call) :
    ∃ later call', Runs.Reaches (System.step m) system later ∧
      later.calls[k]? = some call' ∧ call'.Waiting m ids mode ∧
      (call'.Served ∨ (∃ i, call'.Polling i) ∨ call'.waitLoop.isStarting = true) := by
  have hreach := System.reaches_of_call (m := m) (I := Call.Waiting m ids mode)
    (G := fun call => call.Served ∨ (∃ i, call.Polling i) ∨ call.waitLoop.isStarting = true)
    (fun call => call.waitLoop.rank + call.waiters.countP Waiter.isSent)
    ?_ (Eq.refl system.cluster) hcall h
  · obtain ⟨later, call', hlater, -, hcall', hwaiting, hgoal⟩ := hreach
    exact ⟨later, call', hlater, hcall', hwaiting, hgoal⟩
  · intro call h hgoal
    simp only [not_or, Bool.not_eq_true, not_exists] at hgoal
    obtain ⟨hserved, hquiet, hloop⟩ := hgoal
    by_cases hsent : ∃ (i : Nat) (waiter : Waiter), call.waiters[i]? = some waiter ∧
        waiter.phase = .sent
    · obtain ⟨i, waiter, hget, hsent⟩ := hsent
      obtain ⟨next, hstep, hnext, hsame, hwaiters⟩ := h.finish hids hget hsent
      refine ⟨_, next, hstep, hnext, ?_⟩
      have hcount := countP_set Waiter.isSent hget { waiter with phase := .finished }
      simp only [Waiter.isSent, hsent, decide_true, if_true, reduceCtorEq, decide_false,
        Bool.false_eq_true, if_false] at hcount
      rw [hsame, hwaiters]
      omega
    · have hfinished : ∀ waiter ∈ call.waiters, waiter.phase = .finished := by
        intro waiter hmem
        obtain ⟨i, hget⟩ := List.mem_iff_getElem?.mp hmem
        cases hphase : waiter.phase with
        | finished => rfl
        | sent => exact absurd ⟨i, waiter, hget, hphase⟩ hsent
        | polling => exact absurd ⟨waiter, hget, hphase⟩ (hquiet i)
        | send err =>
          refine absurd ?_ hserved
          simp only [Call.Served, h.caller]
          exact .inr (.inl ⟨waiter, hmem, err, hphase⟩)
      obtain ⟨reply, next, hstep, hnext, hwaiters, hless⟩ :=
        h.advance hids hfinished hserved hloop
      refine ⟨_, next, hstep, hnext, ?_⟩
      rw [hwaiters]
      omega

theorem Call.stepWaitLoop_starts (cluster : Cluster) (h : call.waitLoop.isStarting = true) :
    ∃ next, call.stepWaitLoop cluster .ok = some next ∧ next.caller = call.caller ∧
      next.Polling call.waiters.length := by
  cases hphase : call.waitLoop with
  | waitDeployments rest =>
    cases rest with
    | nil => simp [hphase, WaitLoopPhase.isStarting] at h
    | cons item rest =>
      exact ⟨{ call with
          wgWait := call.wgWait + 1
          waiters := call.waiters ++ [Waiter.start item]
          waitLoop := .waitDeployments rest }, by simp [Call.stepWaitLoop, hphase], rfl,
        Waiter.start item, by simp, rfl⟩
  | waitStatefulSets rest =>
    cases rest with
    | nil => simp [hphase, WaitLoopPhase.isStarting] at h
    | cons item rest =>
      exact ⟨{ call with
          wgWait := call.wgWait + 1
          waiters := call.waiters ++ [Waiter.start item]
          waitLoop := .waitStatefulSets rest }, by simp [Call.stepWaitLoop, hphase], rfl,
        Waiter.start item, by simp, rfl⟩
  | _ => simp [hphase, WaitLoopPhase.isStarting] at h

theorem Call.Waiting.reaches_served (h : call.Waiting m ids mode) {system : System} {k : Nat}
    (hids : system.cluster.identities = ids) (hcall : system.calls[k]? = some call) :
    ∃ later call', Runs.Reaches (System.step m) system later ∧
      later.calls[k]? = some call' ∧ call'.Served := by
  obtain ⟨middle, call', hmiddle, hcall', h', hserved | ⟨i, hpolling⟩ | hstarting⟩ :=
    h.reaches_polling hids hcall
  · exact ⟨middle, call', hmiddle, hcall', hserved⟩
  · obtain ⟨later, last, hlater, hserved⟩ := hpolling.reaches_served (m := m) h'.caller hcall'
    exact ⟨later, last, hmiddle.trans hlater, hserved⟩
  · obtain ⟨next, hstep, hcaller, hpolling⟩ :=
      Call.stepWaitLoop_starts middle.cluster hstarting
    have hact : System.step m middle (.act k (.waitLoop .ok)) =
        some ⟨middle.cluster, middle.calls.set k next⟩ :=
      System.step_of_call hcall' (by simp [Call.step, hstep])
    have hlt := (List.getElem?_eq_some_iff.mp hcall').1
    have hnext : (System.mk middle.cluster (middle.calls.set k next)).calls[k]? = some next := by
      simp [hlt]
    obtain ⟨later, last, hlater, hserved⟩ :=
      hpolling.reaches_served (m := m) (hcaller.trans h'.caller) hnext
    exact ⟨later, last, hmiddle.trans (hlater.head hact), hserved⟩

end Waiting

section Stuck

variable {m : DRManager} {cluster : Cluster} {system : System}

/-- The calling goroutine ranges over a channel that nobody can send on or close. -/
def System.Stuck (m : DRManager) (system : System) (k : Nat) : Prop :=
  ∃ call, system.calls[k]? = some call ∧
    (call.caller = .rangeScaleCh ∨ call.caller = .rangeWaitCh) ∧
    ∀ later, Runs.Reaches (System.step m) system later →
      ∀ call', later.calls[k]? = some call' → ¬ call'.Served

theorem changeMode_not_stuck
    (hrun : Runs.Reaches (System.step m) (System.initial cluster) system) (k : Nat)
    (hlisted : ∀ call err, system.calls[k]? = some call → .listFailed .deployment err ∉ call.trace)
    (hkept : ∀ call, system.calls[k]? = some call → ¬ call.LosesErr .scale) :
    ¬ system.Stuck m k := by
  rintro ⟨call, hcall, hwaits, hstuck⟩
  have hconsistent := System.consistent hrun
  have harises := hconsistent.2 call (List.mem_of_getElem? hcall)
  have hret : call.hasReturned = false := by
    rcases hwaits with hcaller | hcaller <;> simp [Call.hasReturned, hcaller]
  have hmode := harises.supported hret
  have hserved : ∃ later call', Runs.Reaches (System.step m) system later ∧
      later.calls[k]? = some call' ∧ call'.Served := by
    rcases hwaits with hcaller | hcaller
    · have hunlisted : ¬ ∃ err, .listFailed .deployment err ∈ call.log := by
        rintro ⟨err, hmem⟩
        rw [← harises.trace_eq_log hret] at hmem
        exact hlisted call err hcall hmem
      have hscaling : call.Scaling m cluster.identities call.mode := by
        refine ⟨harises, hcaller, fun hphase => ?_, fun hphase => ?_⟩
        · exact hunlisted (harises.listing_failed hmode (.inr hphase))
        · by_contra herr
          exact hunlisted (harises.listing_failed hmode (.inl ⟨hphase, herr⟩))
      exact hscaling.reaches_served hconsistent.1 hcall
    · have hwaiting : call.Waiting m cluster.identities call.mode :=
        ⟨harises, hcaller, (harises.entered (hkept call hcall)).waiting hcaller⟩
      exact hwaiting.reaches_served hconsistent.1 hcall
  obtain ⟨later, call', hlater, hcall', hserved⟩ := hserved
  exact hstuck later hlater call' hcall' hserved

theorem Call.Moves.not_abandoned {ids : Identities} {cluster cluster' : Cluster}
    {call next : Call} (hmove : call.Moves m ids cluster cluster' next)
    (hformed : call.WellFormed) (hcaller : call.caller = .rangeScaleCh)
    (hloop : call.scaleLoop = .abandoned) (hscalers : call.scalers = [])
    (hwaiters : call.waiters = []) : False := by
  have hnotStarted := hformed.notStarted (by simp [hloop])
  have hopen : call.scaleChClosed ≠ true := by simp [hformed.scaleCh, hloop]
  cases hmove <;> simp_all

theorem deployments_listing_failure_sticks :
    ∃ system, Runs.Reaches (System.step unmapped) (System.initial emptyCluster) system ∧
      system.Stuck unmapped 0 := by
  obtain ⟨system, hrun, hcheck⟩ := Runs.exists_of_replay
    (System.step unmapped) (System.initial emptyCluster)
    [.start .standby, .act 0 (.scaleLoop (.fault "unavailable")), .act 0 (.scaleLoop .ok)]
    (fun system => system.calls[0]?.any fun call => call.caller = .rangeScaleCh ∧
      call.scaleLoop = .abandoned ∧ call.scalers = [] ∧ call.waiters = []) (by decide)
  simp only [Option.any_eq_true, decide_eq_true_eq] at hcheck
  obtain ⟨call, hcall, hat⟩ := hcheck
  refine ⟨system, hrun, call, hcall, .inl hat.1, fun later hlater call' hcall' hserved => ?_⟩
  obtain ⟨same, hsame, hcaller, hloop, hscalers, -⟩ := System.call_invariant
    (P := fun call => call.caller = .rangeScaleCh ∧ call.scaleLoop = .abandoned ∧
      call.scalers = [] ∧ call.waiters = [])
    (fun harises hat hmove =>
      (hmove.not_abandoned harises.wellFormed hat.1 hat.2.1 hat.2.2.1 hat.2.2.2).elim)
    (System.consistent hrun) hlater ⟨call, hcall, hat⟩
  rw [hcall'] at hsame
  cases hsame
  have harises := (System.consistent (hrun.trans hlater)).2 call' (List.mem_of_getElem? hcall')
  simp [Call.Served, hcaller, hscalers, harises.wellFormed.scaleCh, hloop] at hserved

theorem scheduler_standby_not_stuck :
    ∃ system, Runs.Reaches (System.step schedulerMap) (System.initial schedulerCluster) system ∧
      ¬ system.Stuck schedulerMap 0 ∧
      ∃ call, system.calls[0]? = some call ∧ call.caller = .rangeWaitCh := by
  obtain ⟨system, hrun, hcheck⟩ := Runs.exists_of_replay
    (System.step schedulerMap) (System.initial schedulerCluster)
    (.start .standby :: ((standbyScheduler [] []).take 16).map (Move.act 0))
    (fun system => system.calls[0]?.any fun call => call.caller = .rangeWaitCh ∧
      call.trace.all fun event => match event with
        | .listFailed _ _ => false
        | .errLost _ _ => false
        | _ => true) (by decide +kernel)
  simp only [Option.any_eq_true, decide_eq_true_eq] at hcheck
  obtain ⟨call, hcall, hwaits, hclean⟩ := hcheck
  refine ⟨system, hrun, changeMode_not_stuck hrun 0 ?_ ?_, call, hcall, hwaits⟩
  · intro other err hother hfailed
    rw [hcall] at hother
    cases hother
    have hnot := List.all_eq_true.mp hclean _ hfailed
    simp at hnot
  · rintro other hother ⟨err, hlost⟩
    rw [hcall] at hother
    cases hother
    have hnot := List.all_eq_true.mp hclean _ hlost
    simp at hnot

end Stuck

end QubershipAirflow.SiteManager
