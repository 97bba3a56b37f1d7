import QubershipAirflow.SiteManager.Completion

/-! The channel and wait-group operations of a call. Each loop owns a channel and a
wait group: `scaleDownCh` or `scaleUpCh` with `wgScale`, and `waitScaleDownCh` or
`waitScaleUpCh` with `wgDown` or `wgUp`. No interleaving sends on a closed channel,
closes one twice, or adds to a group whose `Wait` has been called. -/
namespace QubershipAirflow.SiteManager

def Call.sends (call : Call) : Loop → Prop
  | .scale => ∃ scaler ∈ call.scalers, ∃ err, scaler.phase = .send err
  | .wait => (∃ waiter ∈ call.waiters, ∃ err, waiter.phase = .send err) ∨
      (∃ message rest err, call.waitLoop = .sendDeleteErr message rest err) ∨
      ∃ message, call.waitLoop = .sendWorkersErr message

def Call.closes (call : Call) : Loop → Prop
  | .scale => call.scaleLoop = .closeCh
  | .wait => call.waitLoop = .closeCh

def Call.adds (call : Call) : Loop → Prop
  | .scale => ∃ item rest, call.scaleLoop = .scaleDeployments (item :: rest) ∨
      call.scaleLoop = .scaleStatefulSets (item :: rest)
  | .wait => ∃ item rest, call.waitLoop = .waitDeployments (item :: rest) ∨
      call.waitLoop = .waitStatefulSets (item :: rest)

/-- The loop is at the `Wait` of its wait group, which may return from now on. -/
def Call.waits (call : Call) : Loop → Prop
  | .scale => call.scaleLoop = .waitGroup
  | .wait => call.waitLoop = .waitGroup

def Call.isClosed (call : Call) : Loop → Bool
  | .scale => call.scaleChClosed
  | .wait => call.waitChClosed

def Call.counter (call : Call) : Loop → Nat
  | .scale => call.wgScale
  | .wait => call.wgWait

section Steps

variable {m : DRManager} {ids : Identities} {cluster cluster' : Cluster} {call next : Call}
  {mode : Mode}

theorem Call.Moves.operation (hmove : call.Moves m ids cluster cluster' next) (loop : Loop) :
    (next.isClosed loop = call.isClosed loop ∨ call.closes loop) ∧
    (next.counter loop ≤ call.counter loop ∨ call.adds loop) := by
  cases loop <;> cases hmove <;>
    simp_all [Call.isClosed, Call.counter, Call.closes, Call.adds]

/-- At its `Wait` or past it, a loop adds nothing more. -/
def Call.PastAdds (call : Call) : Loop → Prop
  | .scale => call.scaleLoop = .waitGroup ∨ call.scaleLoop.waited = true
  | .wait => call.waitLoop = .waitGroup ∨ call.waitLoop.waited = true

theorem Call.Moves.pastAdds (hmove : call.Moves m ids cluster cluster' next)
    (hformed : call.WellFormed) {loop : Loop} (h : call.PastAdds loop) :
    next.PastAdds loop := by
  cases loop with
  | scale =>
    unfold Call.PastAdds at h ⊢
    cases hmove <;> simp_all [ScaleLoopPhase.waited]
  | wait =>
    have hdone : call.scaleLoop = .done := by
      refine hformed.waitStarted.mp ?_
      rintro hphase
      simp [Call.PastAdds, hphase, WaitLoopPhase.waited] at h
    unfold Call.PastAdds at h ⊢
    cases hmove <;> simp_all [WaitLoopPhase.waited]

theorem Call.PastAdds.not_adds {loop : Loop} (h : call.PastAdds loop) : ¬ call.adds loop := by
  cases loop with
  | scale =>
    rintro ⟨item, rest, hphase | hphase⟩ <;>
      simp [Call.PastAdds, hphase, ScaleLoopPhase.waited] at h
  | wait =>
    rintro ⟨item, rest, hphase | hphase⟩ <;>
      simp [Call.PastAdds, hphase, WaitLoopPhase.waited] at h

theorem Call.Moves.isClosed_mono (hmove : call.Moves m ids cluster cluster' next) {loop : Loop}
    (h : call.isClosed loop = true) : next.isClosed loop = true := by
  cases loop <;> cases hmove <;> simp_all [Call.isClosed]

/-- The loop that closes has waited for every sender. -/
theorem Call.WellFormed.closed_quiet (hformed : call.WellFormed) {loop : Loop}
    (h : call.isClosed loop = true) : ¬ call.sends loop ∧ ¬ call.closes loop := by
  cases loop with
  | scale =>
    have hdone := hformed.scaleCh.mp h
    refine ⟨?_, by simp [Call.closes, hdone]⟩
    rintro ⟨scaler, hmem, err, hsends⟩
    simp [hformed.scalers_finished hdone hmem] at hsends
  | wait =>
    have hdone := hformed.waitCh.mp h
    refine ⟨?_, by simp [Call.closes, hdone]⟩
    rintro (⟨waiter, hmem, err, hsends⟩ | ⟨message, rest, err, hphase⟩ | ⟨message, hphase⟩)
    · have hwaited : call.waitLoop.waited = true := by simp [hdone, WaitLoopPhase.waited]
      simp [hformed.waiters_finished hwaited hmem] at hsends
    · simp [hdone] at hphase
    · simp [hdone] at hphase

end Steps

section Histories

variable {m : DRManager} {cluster : Cluster} {system : System}

/-- From here on, the `k`-th call uses the loop's channel and wait group as Go allows. -/
def System.Legal (m : DRManager) (system : System) (k : Nat) (loop : Loop) : Prop :=
  ∀ call, system.calls[k]? = some call →
    ∀ later, Runs.Reaches (System.step m) system later →
      ∀ call', later.calls[k]? = some call' →
        (call.isClosed loop = true → ¬ call'.sends loop ∧ ¬ call'.closes loop) ∧
        (call.waits loop → ¬ call'.adds loop)

theorem changeMode_operations_legal
    (hrun : Runs.Reaches (System.step m) (System.initial cluster) system) (k : Nat)
    (loop : Loop) : system.Legal m k loop := by
  intro call hcall later hlater call' hcall'
  have hconsistent := System.consistent hrun
  have hformed' := ((System.consistent (hrun.trans hlater)).2 call'
    (List.mem_of_getElem? hcall')).wellFormed
  constructor
  · intro hclosed
    obtain ⟨same, hsame, hclosed'⟩ := System.call_invariant
      (P := fun call => call.isClosed loop = true) (fun _ h hmove => hmove.isClosed_mono h)
      hconsistent hlater ⟨call, hcall, hclosed⟩
    rw [hcall'] at hsame
    cases hsame
    exact hformed'.closed_quiet hclosed'
  · intro hwaits
    have hpast : call.PastAdds loop := by
      cases loop <;> exact Or.inl hwaits
    obtain ⟨same, hsame, hpast'⟩ := System.call_invariant
      (P := fun call => call.PastAdds loop)
      (fun harises h hmove => hmove.pastAdds harises.wellFormed h)
      hconsistent hlater ⟨call, hcall, hpast⟩
    rw [hcall'] at hsame
    cases hsame
    exact hpast'.not_adds

theorem scheduler_standby_legal :
    ∃ system, Runs.Reaches (System.step schedulerMap) (System.initial schedulerCluster) system ∧
      (∃ call, system.calls[0]? = some call ∧ call.isClosed .scale = true ∧ call.waits .wait) ∧
      system.Legal schedulerMap 0 .scale ∧ system.Legal schedulerMap 0 .wait := by
  obtain ⟨system, hrun, hcheck⟩ := Runs.exists_of_replay
    (System.step schedulerMap) (System.initial schedulerCluster)
    (.start .standby :: ((standbyScheduler [] []).take 22).map (Move.act 0))
    (fun system => system.calls[0]?.any fun call =>
      call.isClosed .scale = true ∧ call.waitLoop = .waitGroup) (by decide +kernel)
  simp only [Option.any_eq_true, decide_eq_true_eq] at hcheck
  obtain ⟨call, hcall, hclosed, hwaits⟩ := hcheck
  exact ⟨system, hrun, ⟨call, hcall, hclosed, hwaits⟩,
    changeMode_operations_legal hrun 0 .scale, changeMode_operations_legal hrun 0 .wait⟩

end Histories

end QubershipAirflow.SiteManager
