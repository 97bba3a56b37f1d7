import QubershipAirflow.SiteManager.Moves
import QubershipAirflow.Library.WaitGroup

/-! What holds of the goroutines of a call in every interleaving: the wait groups
count them, a channel is closed when its loop has ended, and a `nil` list is
never ranged over. A call is studied in context: between its own steps the
cluster may change in everything but the identities. -/
namespace QubershipAirflow.SiteManager

open WaitGroup

inductive Call.Arises (m : DRManager) (ids : Identities) (mode : Mode) : Call → Prop where
  | start : Arises m ids mode (Call.start mode)
  | move {cluster cluster' : Cluster} {call next : Call} (before : Arises m ids mode call)
      (same : cluster.identities = ids) (moves : call.Moves m ids cluster cluster' next) :
      Arises m ids mode next

def ScaleLoopPhase.waited : ScaleLoopPhase → Bool
  | .closeCh | .done => true
  | _ => false

def WaitLoopPhase.waited : WaitLoopPhase → Bool
  | .listWorkers | .deleteWorkers _ _ | .sendDeleteErr _ _ _ | .sendWorkersErr _ | .closeCh
  | .done => true
  | _ => false

def ScaleLoopPhase.started : ScaleLoopPhase → Bool
  | .listDeployments | .testDeployments | .abandoned => false
  | _ => true

structure Call.WellFormed (call : Call) : Prop where
  scalePool : Pool Scaler.isFinished call.scalers call.wgScale call.scaleLoop.waited
  waitPool : Pool Waiter.isFinished call.waiters call.wgWait call.waitLoop.waited
  scaleCh : call.scaleChClosed = true ↔ call.scaleLoop = .done
  waitCh : call.waitChClosed = true ↔ call.waitLoop = .done
  waitStarted : call.waitLoop ≠ .notStarted ↔ call.scaleLoop = .done
  deployments : call.scaleLoop.started = true → call.deploymentsList.isSome
  deploymentsTest : call.scaleLoop = .testDeployments → call.err = none →
    call.deploymentsList.isSome
  statefulSetsTest : call.scaleLoop = .testStatefulSets ∨ call.waitLoop = .testStatefulSets →
    call.err = none → call.statefulSetsList.isSome

theorem Call.start_wellFormed (mode : Mode) : (Call.start mode).WellFormed := by
  cases mode <;>
    exact ⟨Pool.empty _ _, Pool.empty _ _, by simp [Call.start], by simp [Call.start],
      by simp [Call.start], by simp [Call.start, ScaleLoopPhase.started],
      by simp [Call.start], by simp [Call.start]⟩

theorem Scaler.not_finished_of_busy {scaler : Scaler} (h : scaler.phase.isBusy = true) :
    scaler.isFinished = false := by
  unfold Scaler.isFinished
  cases hphase : scaler.phase <;> simp_all [ScalePhase.isBusy]

theorem Scaler.Outcome.not_finished {ids : Identities} {cluster next : Cluster}
    {scaler scaler' : Scaler} {events : List Event}
    (h : Scaler.Outcome ids cluster scaler next scaler' events) :
    scaler'.isFinished = false := by
  cases h with
  | onward busy sound => exact Scaler.not_finished_of_busy busy
  | accepted => rfl
  | refused => rfl

theorem Call.WellFormed.notStarted {call : Call} (h : call.WellFormed)
    (hloop : call.scaleLoop ≠ .done) : call.waitLoop = .notStarted := by
  by_contra hne
  exact hloop (h.waitStarted.mp hne)

section Preservation

variable {m : DRManager} {ids : Identities} {cluster cluster' : Cluster} {call next : Call}

private theorem Call.WellFormed.advanceScale (h : call.WellFormed) {phase phase' : ScaleLoopPhase}
    (at_ : call.scaleLoop = phase) (hfrom : phase ≠ .done)
    (hto : phase' ≠ .done ∧ phase' ≠ .testDeployments ∧ phase' ≠ .testStatefulSets)
    (hpool : Pool Scaler.isFinished call.scalers call.wgScale phase.waited →
      Pool Scaler.isFinished call.scalers call.wgScale phase'.waited)
    (hlist : phase'.started = true → phase.started = true ∨ call.deploymentsList.isSome) :
    Call.WellFormed { call with scaleLoop := phase' } := by
  subst at_
  have hnotStarted := h.notStarted hfrom
  exact { h with
    scalePool := hpool h.scalePool
    scaleCh := by simpa [hfrom, hto] using h.scaleCh
    waitStarted := by simp [hnotStarted, hto]
    deployments := fun hstarted => (hlist hstarted).elim h.deployments id
    deploymentsTest := fun hphase => absurd hphase hto.2.1
    statefulSetsTest := by simp [hto, hnotStarted] }

private theorem Call.WellFormed.advanceWait (h : call.WellFormed) {phase phase' : WaitLoopPhase}
    (at_ : call.waitLoop = phase) (hfrom : phase ≠ .notStarted ∧ phase ≠ .done)
    (hto : phase' ≠ .notStarted ∧ phase' ≠ .done ∧ phase' ≠ .testStatefulSets)
    (hpool : Pool Waiter.isFinished call.waiters call.wgWait phase.waited →
      Pool Waiter.isFinished call.waiters call.wgWait phase'.waited) :
    Call.WellFormed { call with waitLoop := phase' } := by
  subst at_
  have hdone : call.scaleLoop = .done := h.waitStarted.mp hfrom.1
  exact { h with
    waitPool := hpool h.waitPool
    waitCh := by simpa [hfrom, hto] using h.waitCh
    waitStarted := by simp [hdone, hto]
    statefulSetsTest := by simp [hto, hdone] }

private theorem Call.WellFormed.scalers (h : call.WellFormed) (scalers : List Scaler)
    (wgScale : Nat) (hpool : Pool Scaler.isFinished scalers wgScale call.scaleLoop.waited) :
    Call.WellFormed { call with scalers := scalers, wgScale := wgScale } :=
  { h with scalePool := hpool }

private theorem Call.WellFormed.waiters (h : call.WellFormed) (waiters : List Waiter)
    (wgWait : Nat) (hpool : Pool Waiter.isFinished waiters wgWait call.waitLoop.waited) :
    Call.WellFormed { call with waiters := waiters, wgWait := wgWait } :=
  { h with waitPool := hpool }

private theorem Call.WellFormed.spawnScaler (h : call.WellFormed)
    (hopen : call.scaleLoop.waited = false) (scaler : Scaler) (hbusy : scaler.isFinished = false) :
    Call.WellFormed { call with
      wgScale := call.wgScale + 1, scalers := call.scalers ++ [scaler] } := by
  have hpool := h.scalePool
  rw [hopen] at hpool
  exact h.scalers _ _ (hopen ▸ hpool.spawn scaler hbusy)

private theorem Call.WellFormed.spawnWaiter (h : call.WellFormed)
    (hopen : call.waitLoop.waited = false) (waiter : Waiter) (hbusy : waiter.isFinished = false) :
    Call.WellFormed { call with
      wgWait := call.wgWait + 1, waiters := call.waiters ++ [waiter] } := by
  have hpool := h.waitPool
  rw [hopen] at hpool
  exact h.waiters _ _ (hopen ▸ hpool.spawn waiter hbusy)

private theorem Call.WellFormed.callerLoops (h : call.WellFormed) (caller : CallerPhase)
    (events : List Event) :
    Call.WellFormed { call.record events with caller := caller } :=
  { h with }

private theorem Call.WellFormed.assignErr (h : call.WellFormed) (err : Error)
    (caller : CallerPhase) :
    Call.WellFormed { call with err := some err, caller := caller } :=
  { h with deploymentsTest := by simp, statefulSetsTest := by simp }

theorem Call.Moves.wellFormed (hmove : call.Moves m ids cluster cluster' next)
    (h : call.WellFormed) : next.WellFormed := by
  have hscale := h.scalePool
  have hwait := h.waitPool
  have hlist := h.deployments
  cases hmove with
  | scaleChEnds => exact { h with }
  | assignScaleErr => exact h.assignErr _ _
  | enterWait => exact { h with }
  | skipWait => exact { h with }
  | waitChEnds => exact { h with }
  | assignWaitErr => exact h.assignErr _ _
  | decideDone => exact { h with }
  | decideFailed => exact { h with }
  | ret => exact { h with }
  | receiveScaled at_ sender sends =>
    exact { h with scalePool := hscale.move sender (by simp [Scaler.isFinished, sends]) _ rfl }
  | receiveScaleErr at_ sender sends =>
    exact { h with scalePool := hscale.move sender (by simp [Scaler.isFinished, sends]) _ rfl }
  | receiveWaited at_ sender sends =>
    exact { h with waitPool := hwait.move sender (by simp [Waiter.isFinished, sends]) _ rfl }
  | receiveWaitErr at_ sender sends =>
    exact { h with waitPool := hwait.move sender (by simp [Waiter.isFinished, sends]) _ rfl }
  | @receiveDeleteErr _ rest err at_ sends =>
    have hnext : Call.WellFormed { call with waitLoop := .deleteWorkers rest (some err) } :=
      h.advanceWait sends (by simp) (by simp) id
    exact { hnext with }
  | receiveWorkersErr at_ sends =>
    have hnext : Call.WellFormed { call with waitLoop := .closeCh } :=
      h.advanceWait sends (by simp) (by simp) id
    exact { hnext with }
  | @listDeployments failure at_ =>
    rw [at_] at hscale
    have hnotStarted := h.notStarted (by simp [at_])
    exact {
      scalePool := by cases failure <;> exact hscale
      waitPool := by simpa using hwait
      scaleCh := by simpa [at_] using h.scaleCh
      waitCh := by simpa using h.waitCh
      waitStarted := by simp [hnotStarted]
      deployments := by simp [ScaleLoopPhase.started]
      deploymentsTest := by cases failure <;> simp [Call.listDeployments]
      statefulSetsTest := by simp [hnotStarted] }
  | passDeployments at_ read list =>
    exact h.advanceScale at_ (by simp) (by simp) id fun _ => .inr (by simp [list])
  | abandon at_ read =>
    exact h.advanceScale at_ (by simp) (by simp) id (by simp [ScaleLoopPhase.started])
  | scaledDeployments at_ =>
    exact h.advanceScale at_ (by simp) (by simp) id fun _ => .inl rfl
  | @scaleDeployment item rest at_ =>
    have hspawned := h.spawnScaler (by rw [at_]; rfl)
      (m.startScaler call.mode .deployment item) rfl
    exact hspawned.advanceScale at_ (by simp) (by simp) id fun _ => .inl rfl
  | @listStatefulSets failure at_ =>
    rw [at_] at hscale hlist
    have hnotStarted := h.notStarted (by simp [at_])
    exact {
      scalePool := by cases failure <;> exact hscale
      waitPool := by simpa using hwait
      scaleCh := by simpa [at_] using h.scaleCh
      waitCh := by simpa using h.waitCh
      waitStarted := by simp [hnotStarted]
      deployments := by cases failure <;> exact hlist
      deploymentsTest := by simp
      statefulSetsTest := by cases failure <;> simp [Call.listStatefulSets] }
  | passStatefulSets at_ read list =>
    exact h.advanceScale at_ (by simp) (by simp) id fun _ => .inl rfl
  | skipStatefulSets at_ read =>
    exact h.advanceScale at_ (by simp) (by simp) id fun _ => .inl rfl
  | scaledStatefulSets at_ =>
    exact h.advanceScale at_ (by simp) (by simp) id fun _ => .inl rfl
  | @scaleStatefulSet item rest at_ =>
    have hspawned := h.spawnScaler (by rw [at_]; rfl)
      (m.startScaler call.mode .statefulSet item) rfl
    exact hspawned.advanceScale at_ (by simp) (by simp) id fun _ => .inl rfl
  | scaleWaited at_ zero =>
    rw [zero] at hscale
    exact h.advanceScale at_ (by simp) (by simp) (fun _ => zero ▸ hscale.wait) fun _ => .inl rfl
  | closeScaleCh at_ =>
    rw [at_] at hscale hlist
    have hnotStarted := h.notStarted (by simp [at_])
    rw [hnotStarted] at hwait
    exact { h with
      scalePool := hscale
      waitPool := hwait
      scaleCh := by simp
      waitCh := by simpa [hnotStarted] using h.waitCh
      waitStarted := by simp
      deployments := hlist
      deploymentsTest := by simp
      statefulSetsTest := by simp }
  | scalerDone goroutine at_ =>
    exact h.scalers _ _ (hscale.done goroutine (by simp [Scaler.isFinished, at_]) _ rfl)
  | scalerCall goroutine at_ outcome =>
    have hpool := hscale.move goroutine (Scaler.not_finished_of_busy at_) _ outcome.not_finished
    exact (h.callerLoops call.caller _).scalers _ _ hpool
  | beginWait at_ list => exact h.advanceWait at_ (by simp) (by simp) id
  | waitedDeployments at_ => exact h.advanceWait at_ (by simp) (by simp) id
  | @waitDeployment item rest at_ =>
    have hspawned := h.spawnWaiter (by rw [at_]; rfl) (Waiter.start item) rfl
    exact hspawned.advanceWait at_ (by simp) (by simp) id
  | @relist failure at_ =>
    rw [at_] at hwait
    have hdone : call.scaleLoop = .done := h.waitStarted.mp (by simp [at_])
    exact {
      scalePool := by simpa using hscale
      waitPool := by cases failure <;> exact hwait
      scaleCh := by simpa using h.scaleCh
      waitCh := by simpa [at_] using h.waitCh
      waitStarted := by simp [hdone]
      deployments := by simpa using hlist
      deploymentsTest := by simp [hdone]
      statefulSetsTest := by cases failure <;> simp [Call.listStatefulSets] }
  | passRelisted at_ read list => exact h.advanceWait at_ (by simp) (by simp) id
  | skipRelisted at_ read =>
    exact (h.callerLoops call.caller _).advanceWait at_ (by simp) (by simp) id
  | waitedStatefulSets at_ => exact h.advanceWait at_ (by simp) (by simp) id
  | @waitStatefulSet item rest at_ =>
    have hspawned := h.spawnWaiter (by rw [at_]; rfl) (Waiter.start item) rfl
    exact hspawned.advanceWait at_ (by simp) (by simp) id
  | waitedUp at_ zero =>
    rw [zero] at hwait
    exact h.advanceWait at_ (by simp) (by simp) fun _ => zero ▸ hwait.wait
  | waitedDown at_ zero =>
    rw [zero] at hwait
    exact h.advanceWait at_ (by simp) (by simp) fun _ => zero ▸ hwait.wait
  | workersListed at_ =>
    exact (h.callerLoops call.caller _).advanceWait at_ (by simp) (by simp) id
  | workersListFailed at_ =>
    exact (h.callerLoops call.caller _).advanceWait at_ (by simp) (by simp) id
  | podDeleted at_ =>
    exact (h.callerLoops call.caller _).advanceWait at_ (by simp) (by simp) id
  | podDeleteFailed at_ =>
    exact (h.callerLoops call.caller _).advanceWait at_ (by simp) (by simp) id
  | workersDone at_ => exact h.advanceWait at_ (by simp) (by simp) id
  | workersErr at_ => exact h.advanceWait at_ (by simp) (by simp) id
  | closeWaitCh at_ =>
    rw [at_] at hwait
    have hdone : call.scaleLoop = .done := h.waitStarted.mp (by simp [at_])
    exact { h with
      waitPool := hwait
      waitCh := by simp
      waitStarted := by simp [hdone]
      statefulSetsTest := by simp [hdone] }
  | waiterDone goroutine at_ =>
    exact h.waiters _ _ (hwait.done goroutine (by simp [Waiter.isFinished, at_]) _ rfl)
  | @polled i waiter listing goroutine at_ =>
    have hpool := hwait.move goroutine (by simp [Waiter.isFinished, at_])
      { waiter with
        phase := if m.pollDone call.mode waiter.component listing then .send none
          else .polling } (by unfold Waiter.isFinished; split <;> rfl)
    exact (h.callerLoops call.caller _).waiters _ _ hpool
  | @waitTimeout i waiter goroutine at_ =>
    have hpool := hwait.move goroutine (by simp [Waiter.isFinished, at_])
      { waiter with phase := .send (some (timeoutError call.mode waiter.component)) } rfl
    exact (h.callerLoops call.caller _).waiters _ _ hpool

end Preservation

end QubershipAirflow.SiteManager
