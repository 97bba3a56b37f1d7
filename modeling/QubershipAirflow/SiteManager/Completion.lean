import QubershipAirflow.SiteManager.Reports
import QubershipAirflow.SiteManager.Coverage

/-! What a finished switchover has done: which replica counts were set when DONE is
returned, and what the polls had seen when executor pods were deleted. -/
namespace QubershipAirflow.SiteManager

section Scaled

variable {m : DRManager} {ids : Identities} {mode : Mode} {cluster : Cluster} {call : Call}
  {system : System}

/-- The replica count a switchover is meant to set, before Go's conversion. -/
def DRManager.count (m : DRManager) (mode : Mode) (component : String) : Int :=
  match mode with
  | .active => m.componentToReplicaMap.read component
  | _ => 0

/-- The count survives the conversion to `int32`. -/
def DRManager.Fits (m : DRManager) (mode : Mode) (component : String) : Prop :=
  -2147483648 ≤ m.count mode component ∧ m.count mode component < 2147483648

theorem DRManager.target_toInt {component : String} (h : m.Fits mode component) :
    (m.target mode component).toInt = m.count mode component := by
  cases mode with
  | active => exact Int32.toInt_ofInt_of_le h.1 h.2
  | _ => rfl

/-- The lookup by component label finds the workload itself or nothing. -/
def FindsItself (ids : Identities) (kind : Kind) (entry : String × Identity) : Prop :=
  lookupName ids kind (componentOf entry) = entry.1 ∨
    lookupName ids kind (componentOf entry) = ""

instance (ids : Identities) (kind : Kind) (entry : String × Identity) :
    Decidable (FindsItself ids kind entry) := inferInstanceAs (Decidable (_ ∨ _))

def Call.ScaledEach (m : DRManager) (call : Call) : Prop :=
  ∀ err, call.caller = .returned (respond call.mode .done) err →
    ∀ kind items, .listed kind items ∈ call.trace → ∀ workload ∈ items,
      ∃ replicas : Int32, .updated kind workload.name replicas ∈ call.trace ∧
        replicas.toInt = m.count call.mode workload.component

theorem Call.Arises.covers (h : Call.Arises m ids mode call) (hdone : call.scaleLoop = .done)
    (hfailed : ¬ call.FailedScaling) {kind : Kind} {entry : String × Identity}
    (hentry : entry ∈ tier ids kind) : call.Scales kind entry := by
  cases kind with
  | deployment =>
    exact h.scaled.deployments (by simp [hdone, ScaleLoopPhase.pastDeployments]) entry hentry
  | statefulSet =>
    have hcovered := h.scaled.statefulSets (by simp [hdone, ScaleLoopPhase.pastStatefulSets])
    exact hcovered.resolve_left hfailed entry hentry

/-- Without failures, the goroutine of a workload has had its update accepted. -/
theorem Call.Arises.updated (h : Call.Arises m ids mode call) (hdone : call.scaleLoop = .done)
    (hfailed : ¬ call.FailedScaling) {kind : Kind} {entry : String × Identity}
    (hentry : entry ∈ tier ids kind) :
    lookupName ids kind (componentOf entry) ≠ "" ∧
      .updated kind (lookupName ids kind (componentOf entry))
        (m.target mode (componentOf entry)) ∈ call.log := by
  obtain ⟨scaler, hmem, rfl, hcomponent⟩ := h.covers hdone hfailed hentry
  have hproper := h.scaler_proper scaler hmem
  have hsettled := hproper.settled
  unfold Scaler.Settled at hsettled
  simp only [h.wellFormed.scalers_finished hdone hmem] at hsettled
  rw [← hcomponent, ← hproper.target]
  refine hsettled.resolve_right ?_
  rintro ⟨err, hrefused⟩
  exact hfailed ⟨_, hrefused, rfl⟩

theorem changeMode_done_scales_each
    (hrun : Runs.Reaches (System.step m) (System.initial cluster) system)
    {call : Call} (hcall : call ∈ system.calls) (hmode : call.mode.isSupported = true)
    (hfinds : ∀ kind, ∀ entry ∈ tier cluster.identities kind,
      FindsItself cluster.identities kind entry)
    (hfits : ∀ kind, ∀ entry ∈ tier cluster.identities kind,
      m.Fits call.mode (componentOf entry))
    (hkept : ∀ loop, ¬ call.LosesErr loop) : call.ScaledEach m := by
  intro err hret kind items hlisted workload hworkload
  have harises := (System.consistent hrun).2 call hcall
  have hreported := harises.reported hmode hkept
  obtain ⟨-, -, hfailed, hdone, hlate⟩ := (hreported.returned _ err hret).resolve_right
    fun h => by simp [respond] at h
  have hlog : call.log = call.trace := by simp [Call.log, hlate]
  have hentry : workload.entry ∈ tier cluster.identities kind := by
    rw [← harises.lists.logged kind items (hlog ▸ hlisted)]
    exact List.mem_map_of_mem hworkload
  have hnone : ¬ call.FailedScaling := by
    rintro ⟨event, hevent, hscale⟩
    refine hfailed ⟨event, hlog ▸ hevent, ?_⟩
    cases event <;> simp_all [Event.isScaleFailure, Event.isFailure]
  obtain ⟨hnamed, hupdated⟩ := harises.updated (harises.wellFormed.scaleLoop_done hdone) hnone
    hentry
  rw [(hfinds kind _ hentry).resolve_right hnamed, hlog] at hupdated
  exact ⟨_, hupdated, DRManager.target_toInt (hfits kind _ hentry)⟩

def workerSets : List Workload :=
  [⟨"worker-default", 0, ⟨"uid-1", [("tier", "airflow"), ("component", "worker")], 1, ""⟩⟩,
    ⟨"worker-gpu", 0, ⟨"uid-2", [("tier", "airflow"), ("component", "worker")], 1, ""⟩⟩]

def workerCluster : Cluster := ⟨⟨workerSets, by decide⟩, ⟨[], List.nodup_nil⟩⟩

def scaleOne (i : Nat) : List Act :=
  [.scaler i .ok, .scaler i .ok, .scaler i .ok, .receive i, .scaler i .ok]

def waitOne (i : Nat) (pods : List Pod) : List Act :=
  [.waiter i (.pods pods), .receive i, .waiter i .ok]

def standbyTwoSets : List Act :=
  List.replicate 5 (.scaleLoop .ok) ++ scaleOne 0 ++ scaleOne 1 ++
    List.replicate 5 (.scaleLoop .ok) ++ [.caller, .caller] ++
    List.replicate 7 (.waitLoop .ok) ++ waitOne 0 [] ++ waitOne 1 [] ++
    [.waitLoop .ok, .waitLoop (.pods []), .waitLoop .ok, .waitLoop .ok,
      .caller, .caller, .caller]

theorem second_worker_set_not_scaled :
    ∃ system, Runs.Reaches (System.step unmapped) (System.initial workerCluster) system ∧
      ∃ call ∈ system.calls, call.mode = .standby ∧ ¬ call.ScaledEach unmapped := by
  obtain ⟨system, hrun, hcheck⟩ := Runs.exists_of_replay
    (System.step unmapped) (System.initial workerCluster)
    (.start .standby :: standbyTwoSets.map (Move.act 0))
    (fun system => system.calls.any fun call => call.mode = .standby ∧
      call.caller = .returned (respond .standby .done) none ∧
      .listed .deployment workerSets ∈ call.trace ∧
      call.trace.all fun event => match event with
        | .updated _ name _ => name = "worker-default"
        | _ => true) (by decide +kernel)
  simp only [List.any_eq_true, decide_eq_true_eq] at hcheck
  obtain ⟨call, hmem, hmode, hret, hlisted, honly⟩ := hcheck
  refine ⟨system, hrun, call, hmem, hmode, fun h => ?_⟩
  have hscaled := h none (hmode ▸ hret) _ _ hlisted
  obtain ⟨replicas, hupdated, -⟩ :=
    hscaled _ (List.mem_cons_of_mem _ (List.mem_singleton.mpr rfl))
  have hname := List.all_eq_true.mp honly _ hupdated
  simp at hname

def standbyScheduler (polled executors : List Pod) : List Act :=
  List.replicate 4 (.scaleLoop .ok) ++ scaleOne 0 ++
    List.replicate 5 (.scaleLoop .ok) ++ [.caller, .caller] ++
    List.replicate 6 (.waitLoop .ok) ++ waitOne 0 polled ++
    [.waitLoop .ok, .waitLoop (.pods executors)] ++
    executors.map (fun _ => .waitLoop .ok) ++ [.waitLoop .ok, .waitLoop .ok,
      .caller, .caller, .caller]

theorem scheduler_scaled_by_standby :
    ∃ system, Runs.Reaches (System.step schedulerMap) (System.initial schedulerCluster) system ∧
      ∃ call ∈ system.calls, call.caller = .returned (respond .standby .done) none ∧
        call.ScaledEach schedulerMap := by
  obtain ⟨system, hrun, hcheck⟩ := Runs.exists_of_replay
    (System.step schedulerMap) (System.initial schedulerCluster)
    (.start .standby :: (standbyScheduler [] []).map (Move.act 0))
    (fun system => system.calls.any fun call => call.mode = .standby ∧
      call.caller = .returned (respond .standby .done) none ∧
      call.trace.all fun event => match event with
        | .errLost _ _ => false
        | _ => true) (by decide +kernel)
  simp only [List.any_eq_true, decide_eq_true_eq] at hcheck
  obtain ⟨call, hmem, hmode, hret, hkept⟩ := hcheck
  refine ⟨system, hrun, call, hmem, hret, changeMode_done_scales_each hrun hmem ?_ ?_ ?_ ?_⟩
  · rw [hmode]
    rfl
  · intro kind
    cases kind
    · decide
    · decide
  · rw [hmode]
    intro kind entry _
    exact ⟨by simp [DRManager.count], by simp [DRManager.count]⟩
  · rintro loop ⟨err, hlost⟩
    have hnot := List.all_eq_true.mp hkept _ hlost
    simp at hnot

end Scaled

section Awaited

variable {m : DRManager} {ids : Identities} {mode : Mode} {cluster : Cluster} {call : Call}
  {system : System}

/-- Executor pods are deleted, and DONE is returned, only after a poll saw no ready
pod of each listed workload. -/
def Call.DeletesAfterDown (call : Call) : Prop :=
  (∃ name, .podDeleted name ∈ call.log) ∨
      (∃ err, call.caller = .returned (respond call.mode .done) err) →
    ∀ kind items, .listed kind items ∈ call.log → ∀ workload ∈ items,
      ∃ pods, .polled workload.component (.ok pods) ∈ call.log ∧
        readyCount pods "component" workload.component = 0

/-- Every poll was answered, with no ready pod or with all that are configured. -/
def DRManager.PollsDecide (m : DRManager) (call : Call) : Prop :=
  ∀ component listing, .polled component listing ∈ call.log → ∃ pods, listing = .ok pods ∧
    (readyCount pods "component" component = 0 ∨
      (readyCount pods "component" component : Int) = m.componentToReplicaMap.read component)

theorem DRManager.down_of_pollDone {call : Call} (h : m.PollsDecide call)
    (hmode : mode ≠ .active) {component : String} {listing : PodListing}
    (hpolled : .polled component listing ∈ call.log)
    (hdone : m.pollDone mode component listing = true) :
    ∃ pods, listing = .ok pods ∧ readyCount pods "component" component = 0 := by
  obtain ⟨pods, rfl, hzero | hall⟩ := h component listing hpolled
  · exact ⟨pods, rfl, hzero⟩
  · refine ⟨pods, rfl, ?_⟩
    have hnotUp : m.isComponentUp (.ok pods) "component" component = false := by
      cases mode with
      | active => exact absurd rfl hmode
      | _ => simpa [DRManager.pollDone] using hdone
    by_contra hne
    have hup := (m.isComponentUp_iff (.ok pods) "component" component).mpr
      ⟨pods, rfl, Nat.pos_of_ne_zero hne, hall⟩
    simp [hup] at hnotUp

theorem Call.Arises.waitsFor (h : Call.Arises m ids mode call)
    (hpast : call.waitLoop.waited = true) (hskipped : .waitSkipped ∉ call.log) {kind : Kind}
    {entry : String × Identity} (hentry : entry ∈ tier ids kind) : call.WaitsFor entry := by
  cases kind with
  | deployment =>
    refine h.awaited.deployments ?_ entry hentry
    revert hpast
    cases call.waitLoop <;> simp [WaitLoopPhase.waited, WaitLoopPhase.pastDeployments]
  | statefulSet =>
    refine (h.awaited.statefulSets ?_).resolve_left hskipped entry hentry
    revert hpast
    cases call.waitLoop <;> simp [WaitLoopPhase.waited, WaitLoopPhase.pastStatefulSets]

theorem Call.Arises.down (h : Call.Arises m ids mode call)
    (hmode : mode ≠ .active) (hpast : call.waitLoop.waited = true)
    (hskipped : .waitSkipped ∉ call.log)
    (hended : ∀ component err, .waitFailed component err ∉ call.log)
    (hpolls : m.PollsDecide call) {kind : Kind} {entry : String × Identity}
    (hentry : entry ∈ tier ids kind) :
    ∃ pods, .polled (componentOf entry) (.ok pods) ∈ call.log ∧
      readyCount pods "component" (componentOf entry) = 0 := by
  obtain ⟨waiter, hmem, hcomponent⟩ := h.waitsFor hpast hskipped hentry
  have hsettled := h.waiter_settled waiter hmem
  unfold Waiter.Settled at hsettled
  simp only [h.wellFormed.waiters_finished hpast hmem] at hsettled
  rw [hcomponent] at hsettled
  obtain ⟨listing, hpolled, hdone⟩ := hsettled.resolve_right
    fun ⟨err, hfailed⟩ => hended _ err hfailed
  obtain ⟨pods, rfl, hzero⟩ := DRManager.down_of_pollDone hpolls hmode hpolled hdone
  exact ⟨pods, hpolled, hzero⟩

theorem changeMode_deletes_after_down
    (hrun : Runs.Reaches (System.step m) (System.initial cluster) system)
    {call : Call} (hcall : call ∈ system.calls)
    (hmode : call.mode = .standby ∨ call.mode = .disabled)
    (hpolls : m.PollsDecide call)
    (hended : ∀ component err, .waitFailed component err ∉ call.log)
    (hskipped : .waitSkipped ∉ call.log)
    (hkept : ∀ loop, ¬ call.LosesErr loop) : call.DeletesAfterDown := by
  have harises := (System.consistent hrun).2 call hcall
  have hactive : call.mode ≠ .active := by
    rcases hmode with hmode | hmode <;> simp [hmode]
  have hsupported : call.mode.isSupported = true := by
    rcases hmode with hmode | hmode <;> simp [hmode, Mode.isSupported]
  have hpast : (∃ name, .podDeleted name ∈ call.log) ∨
      (∃ err, call.caller = .returned (respond call.mode .done) err) →
      call.waitLoop.waited = true := by
    rintro (⟨name, hdeleted⟩ | ⟨err, hret⟩)
    · have hlate := harises.workers_late hdeleted rfl
      revert hlate
      cases call.waitLoop <;> simp [WaitLoopPhase.pastWorkersListing, WaitLoopPhase.waited]
    · have hreported := harises.reported hsupported hkept
      obtain ⟨-, -, -, hdone, -⟩ := (hreported.returned _ err hret).resolve_right
        fun h => by simp [respond] at h
      simp [hdone, WaitLoopPhase.waited]
  intro hend kind items hlisted workload hworkload
  have hentry : workload.entry ∈ tier cluster.identities kind := by
    rw [← harises.lists.logged kind items hlisted]
    exact List.mem_map_of_mem hworkload
  exact harises.down hactive (hpast hend) hskipped hended hpolls hentry

def schedulerPod : Pod :=
  ⟨"scheduler-0", [("component", "scheduler")], .running, [⟨"Ready", "True"⟩]⟩

def executorPod : Pod :=
  ⟨"executor-0", [("component", "worker"), ("kubernetes_executor", "True")], .running, []⟩

/-- Two schedulers are configured; the poll finds one still ready. -/
theorem executor_deleted_beside_ready_scheduler :
    ∃ system, Runs.Reaches (System.step schedulerMap) (System.initial schedulerCluster) system ∧
      ∃ call ∈ system.calls, call.mode = .standby ∧ ¬ call.DeletesAfterDown := by
  obtain ⟨system, hrun, hcheck⟩ := Runs.exists_of_replay
    (System.step schedulerMap) (System.initial schedulerCluster)
    (.start .standby :: (standbyScheduler [schedulerPod] [executorPod]).map (Move.act 0))
    (fun system => system.calls.any fun call => call.mode = .standby ∧
      .podDeleted "executor-0" ∈ call.log ∧ .listed .deployment [scheduler] ∈ call.log ∧
      call.log.all fun event => match event with
        | .polled _ listing => listing = .ok [schedulerPod]
        | _ => true) (by decide +kernel)
  simp only [List.any_eq_true, decide_eq_true_eq] at hcheck
  obtain ⟨call, hmem, hmode, hdeleted, hlisted, honly⟩ := hcheck
  refine ⟨system, hrun, call, hmem, hmode, fun h => ?_⟩
  obtain ⟨pods, hpolled, hzero⟩ := h (.inl ⟨_, hdeleted⟩) _ _ hlisted _
    (List.mem_singleton.mpr rfl)
  have hpods := List.all_eq_true.mp honly _ hpolled
  simp only [decide_eq_true_eq, Except.ok.injEq] at hpods
  subst hpods
  revert hzero
  decide

/-- The poll finds the scheduler gone before an executor pod is deleted. -/
theorem executor_deleted_after_scheduler :
    ∃ system, Runs.Reaches (System.step schedulerMap) (System.initial schedulerCluster) system ∧
      ∃ call ∈ system.calls, .podDeleted "executor-0" ∈ call.log ∧ call.DeletesAfterDown := by
  obtain ⟨system, hrun, hcheck⟩ := Runs.exists_of_replay
    (System.step schedulerMap) (System.initial schedulerCluster)
    (.start .standby :: (standbyScheduler [] [executorPod]).map (Move.act 0))
    (fun system => system.calls.any fun call => call.mode = .standby ∧
      .podDeleted "executor-0" ∈ call.log ∧ .waitSkipped ∉ call.log ∧
      call.log.all fun event => match event with
        | .polled _ listing => listing = .ok []
        | .waitFailed _ _ => false
        | .errLost _ _ => false
        | _ => true) (by decide +kernel)
  simp only [List.any_eq_true, decide_eq_true_eq] at hcheck
  obtain ⟨call, hmem, hmode, hdeleted, hskipped, honly⟩ := hcheck
  refine ⟨system, hrun, call, hmem, hdeleted,
    changeMode_deletes_after_down hrun hmem (.inl hmode) ?_ ?_ hskipped ?_⟩
  · intro component listing hpolled
    have hpods := List.all_eq_true.mp honly _ hpolled
    exact ⟨[], by simpa using hpods, .inl rfl⟩
  · intro component err hfailed
    have hnot := List.all_eq_true.mp honly _ hfailed
    simp at hnot
  · rintro loop ⟨err, hlost⟩
    have hnot := List.all_eq_true.mp honly _ (List.mem_append_left _ hlost)
    simp at hnot

end Awaited

end QubershipAirflow.SiteManager
