import QubershipAirflow.SiteManager.Progress

/-! When a scale-up ends with DONE. A wait ends well at the first poll that finds as many
ready pods under the component label as the replica map gives, and more than none; it
fails when it runs out of time before. -/
namespace QubershipAirflow.SiteManager

def Event.isWait : Event → Bool
  | .polled _ _ | .waitFailed _ _ | .waitSkipped => true
  | _ => false

section Waits

inductive Call.WaitStep (m : DRManager) (call next : Call) : Prop where
  | quiet (waiters : next.waiters = call.waiters)
      (log : ∀ event ∈ next.log, event ∈ call.log ∨ event.isWait = false)
  | skipped (read : call.err ≠ none) (waiters : next.waiters = call.waiters)
      (log : ∀ event ∈ next.log, event ∈ call.log ∨ event = .waitSkipped)
  | started (item : Workload) (waiters : next.waiters = call.waiters ++ [Waiter.start item])
      (log : next.log = call.log)
  | onward (i : Nat) (waiter : Waiter) (phase : WaitPhase)
      (goroutine : call.waiters[i]? = some waiter)
      (settled : phase ≠ .polling)
      (waiters : next.waiters = call.waiters.set i ⟨waiter.component, phase⟩)
      (log : next.log = call.log)
  | polled (i : Nat) (waiter : Waiter) (listing : PodListing)
      (goroutine : call.waiters[i]? = some waiter) (at_ : waiter.phase = .polling)
      (waiters : next.waiters = call.waiters.set i ⟨waiter.component,
        if m.pollDone call.mode waiter.component listing then .send none else .polling⟩)
      (log : ∀ event ∈ next.log, event ∈ call.log ∨ event = .polled waiter.component listing)
  | timedOut (i : Nat) (waiter : Waiter) (err : Error)
      (goroutine : call.waiters[i]? = some waiter) (at_ : waiter.phase = .polling)
      (waiters : next.waiters = call.waiters.set i ⟨waiter.component, .send (some err)⟩)
      (log : ∀ event ∈ next.log, event ∈ call.log ∨ event = .waitFailed waiter.component err)

variable {m : DRManager} {ids : Identities} {mode : Mode} {cluster cluster' : Cluster}
  {call next : Call}

theorem Call.Moves.waitStep (hmove : call.Moves m ids cluster cluster' next) :
    Call.WaitStep m call next := by
  have hrecord : ∀ events : List Event, (∀ event ∈ events, event.isWait = false) →
      ∀ event ∈ (call.record events).log, event ∈ call.log ∨ event.isWait = false :=
    fun _ hevents event h => (Call.mem_record_log.mp h).imp_right (hevents event)
  cases hmove with
  | ret => exact .quiet rfl (hrecord _ (by split <;> simp [Event.isWait]))
  | receiveWaited at_ sender => exact .onward _ _ .sent sender (by simp) rfl rfl
  | receiveWaitErr at_ sender => exact .onward _ _ .sent sender (by simp) rfl rfl
  | @listDeployments failure =>
    refine .quiet (by simp) ?_
    cases failure with
    | none => exact hrecord (call.deploymentEvents cluster none) (by
        cases call.err <;> simp [Call.deploymentEvents, Event.isWait])
    | some err => exact hrecord [.listFailed .deployment err] (by simp [Event.isWait])
  | @listStatefulSets failure =>
    refine .quiet (by simp) ?_
    cases failure with
    | none => exact hrecord (call.listingEvents cluster .scale none) (by
        cases call.err <;> simp [Call.listingEvents, Event.isWait])
    | some err => exact hrecord [.listFailed .statefulSet err] (by simp [Event.isWait])
  | @relist failure =>
    refine .quiet (by simp) ?_
    cases failure with
    | none => exact hrecord (call.listingEvents cluster .wait none) (by
        cases call.err <;> simp [Call.listingEvents, Event.isWait])
    | some err => exact hrecord [.listFailed .statefulSet err] (by simp [Event.isWait])
  | scalerCall _ _ outcome =>
    refine .quiet rfl (hrecord _ ?_)
    cases outcome <;> simp [Event.isWait]
  | skipRelisted at_ read =>
    refine .skipped read rfl fun event h => ?_
    exact (Call.mem_record_log.mp h).imp_right List.mem_singleton.mp
  | @waitDeployment item => exact .started item rfl rfl
  | @waitStatefulSet item => exact .started item rfl rfl
  | workersListed => exact .quiet rfl (hrecord _ (by simp [Event.isWait]))
  | workersListFailed => exact .quiet rfl (hrecord _ (by simp [Event.isWait]))
  | podDeleted => exact .quiet rfl (hrecord _ (by simp [Event.isWait]))
  | podDeleteFailed => exact .quiet rfl (hrecord _ (by simp [Event.isWait]))
  | waiterDone goroutine => exact .onward _ _ .finished goroutine (by simp) rfl rfl
  | @polled i waiter listing goroutine at_ =>
    refine .polled i waiter listing goroutine at_ rfl fun event h => ?_
    exact (Call.mem_record_log.mp h).imp_right List.mem_singleton.mp
  | @waitTimeout i waiter goroutine at_ =>
    refine .timedOut i waiter _ goroutine at_ rfl fun event h => ?_
    exact (Call.mem_record_log.mp h).imp_right List.mem_singleton.mp
  | _ => exact .quiet rfl fun _ h => .inl h

theorem Call.Arises.failure_of_skipped (h : Call.Arises m ids mode call)
    (hmem : .waitSkipped ∈ call.log) : call.HasFailure := by
  induction h with
  | start => exact absurd hmem List.not_mem_nil
  | @move _ _ call next before same moves ih =>
    have hold : .waitSkipped ∈ call.log → next.HasFailure :=
      fun h => moves.hasFailure_mono (ih h)
    cases moves.waitStep with
    | quiet _ log => exact hold ((log _ hmem).resolve_right (by simp [Event.isWait]))
    | skipped read => exact moves.hasFailure_mono (before.hasFailure (.inl read))
    | started _ _ log => exact hold (log ▸ hmem)
    | onward _ _ _ _ _ _ log => exact hold (log ▸ hmem)
    | polled _ _ _ _ _ _ log => exact hold ((log _ hmem).resolve_right (by simp))
    | timedOut _ _ _ _ _ _ log => exact hold ((log _ hmem).resolve_right (by simp))

end Waits

section Enrolment

variable {m : DRManager} {ids : Identities} {mode : Mode} {cluster cluster' : Cluster}
  {call next : Call}

def tierComponents (ids : Identities) : List String :=
  (tier ids .deployment ++ tier ids .statefulSet).map componentOf

def Call.awaited (call : Call) : List String := call.waiters.map Waiter.component

/-- One goroutine waits for each listed workload, as far as the wait loop has come. -/
def Call.Enrolled (ids : Identities) (call : Call) : Prop :=
  match call.waitLoop with
  | .notStarted | .begin => call.awaited = []
  | .waitDeployments rest =>
      call.awaited ++ rest.map Workload.component = (tier ids .deployment).map componentOf
  | .listStatefulSets | .testStatefulSets =>
      call.awaited = (tier ids .deployment).map componentOf
  | .waitStatefulSets rest => call.awaited ++ rest.map Workload.component = tierComponents ids
  | _ => call.awaited <+: tierComponents ids

theorem Call.Enrolled.isPrefix (h : call.Enrolled ids) : call.awaited <+: tierComponents ids := by
  unfold Call.Enrolled at h
  unfold tierComponents at h ⊢
  rw [List.map_append] at h ⊢
  split at h
  · rw [h]
    exact List.nil_prefix
  · rw [h]
    exact List.nil_prefix
  · rw [← h]
    exact (List.prefix_append _ _).trans (List.prefix_append _ _)
  · rw [h]
    exact List.prefix_append _ _
  · rw [h]
    exact List.prefix_append _ _
  · exact ⟨_, h⟩
  · exact h

theorem map_component_eq {items : List Workload} {kind : Kind}
    (h : items.map Workload.entry = tier ids kind) :
    items.map Workload.component = (tier ids kind).map componentOf := by
  rw [← h, List.map_map]
  rfl

theorem Call.awaited_set {i : Nat} {waiter : Waiter} (hget : call.waiters[i]? = some waiter)
    (phase : WaitPhase) :
    (call.waiters.set i ⟨waiter.component, phase⟩).map Waiter.component = call.awaited := by
  obtain ⟨hlt, rfl⟩ := List.getElem?_eq_some_iff.mp hget
  rw [List.map_set]
  unfold Call.awaited
  rw [← List.getElem_map Waiter.component (h := by simpa using hlt)]
  exact List.set_getElem_self _

theorem Call.Enrolled.of_waiters (h : call.Enrolled ids) (hloop : next.waitLoop = call.waitLoop)
    (hwaiters : next.awaited = call.awaited) : next.Enrolled ids := by
  unfold Call.Enrolled at h ⊢
  rw [hloop, hwaiters]
  exact h

theorem Call.Moves.enrolled (hmove : call.Moves m ids cluster cluster' next)
    (hlists : call.Lists ids) (hformed : call.WellFormed) (h : call.Enrolled ids) :
    next.Enrolled ids := by
  have hprefix := h.isPrefix
  cases hmove with
  | receiveWaited at_ sender => exact h.of_waiters rfl (Call.awaited_set sender .sent)
  | receiveWaitErr at_ sender => exact h.of_waiters rfl (Call.awaited_set sender .sent)
  | waiterDone goroutine => exact h.of_waiters rfl (Call.awaited_set goroutine .finished)
  | polled goroutine => exact h.of_waiters rfl (Call.awaited_set goroutine _)
  | waitTimeout goroutine => exact h.of_waiters rfl (Call.awaited_set goroutine _)
  | listDeployments => exact h.of_waiters (by simp) (by simp [Call.awaited])
  | listStatefulSets => exact h.of_waiters (by simp) (by simp [Call.awaited])
  | closeScaleCh at_ =>
    have hphase := hformed.notStarted (by simp [at_])
    unfold Call.Enrolled at h ⊢
    simp only [hphase] at h
    exact h
  | beginWait at_ list =>
    unfold Call.Enrolled at h ⊢
    simp only [at_] at h
    change call.awaited ++ _ = _
    rw [h]
    exact map_component_eq (hlists.deployments _ list)
  | waitedDeployments at_ =>
    unfold Call.Enrolled at h ⊢
    simp only [at_, List.map_nil, List.append_nil] at h
    exact h
  | @waitDeployment item rest at_ =>
    unfold Call.Enrolled at h ⊢
    simp only [at_] at h
    simpa [Call.awaited, Waiter.start] using h
  | relist at_ =>
    unfold Call.Enrolled at h ⊢
    simp only [at_] at h
    simpa [Call.awaited] using h
  | passRelisted at_ read list =>
    unfold Call.Enrolled at h ⊢
    simp only [at_] at h
    change call.awaited ++ _ = _
    rw [h, map_component_eq (hlists.statefulSets _ list), tierComponents, List.map_append]
  | @waitStatefulSet item rest at_ =>
    unfold Call.Enrolled at h ⊢
    simp only [at_] at h
    simpa [Call.awaited, Waiter.start] using h
  | skipRelisted => exact hprefix
  | waitedStatefulSets => exact hprefix
  | waitedUp => exact hprefix
  | waitedDown => exact hprefix
  | workersListed => exact hprefix
  | workersListFailed => exact hprefix
  | podDeleted => exact hprefix
  | podDeleteFailed => exact hprefix
  | workersDone => exact hprefix
  | workersErr => exact hprefix
  | receiveDeleteErr => exact hprefix
  | receiveWorkersErr => exact hprefix
  | closeWaitCh => exact hprefix
  | _ => exact h

theorem Call.Arises.enrolled (h : Call.Arises m ids mode call) : call.Enrolled ids := by
  induction h with
  | start => rfl
  | move before same moves ih => exact moves.enrolled before.lists before.wellFormed ih

theorem Call.Arises.awaited_nodup (h : Call.Arises m ids mode call)
    (hdistinct : (tierComponents ids).Nodup) : call.awaited.Nodup :=
  hdistinct.sublist h.enrolled.isPrefix.sublist

theorem Call.Arises.awaited_tier (h : Call.Arises m ids mode call) {component : String}
    (hmem : component ∈ call.awaited) :
    ∃ kind, ∃ entry ∈ tier ids kind, componentOf entry = component := by
  obtain ⟨entry, hentry, hcomponent⟩ :=
    List.mem_map.mp (h.enrolled.isPrefix.subset hmem)
  rcases List.mem_append.mp hentry with hentry | hentry
  · exact ⟨.deployment, entry, hentry, hcomponent⟩
  · exact ⟨.statefulSet, entry, hentry, hcomponent⟩

end Enrolment

section Verdicts

variable {m : DRManager} {ids : Identities} {mode : Mode} {cluster cluster' : Cluster}
  {call next : Call}

def Call.SeenDone (m : DRManager) (call : Call) (component : String) : Prop :=
  ∃ listing, .polled component listing ∈ call.log ∧
    m.pollDone call.mode component listing = true

def Call.TimedOut (call : Call) (component : String) : Prop :=
  ∃ err, .waitFailed component err ∈ call.log

/-- A wait ends in one of two ways, and not in both. -/
structure Call.Verdicts (m : DRManager) (call : Call) : Prop where
  known : ∀ component, call.SeenDone m component ∨ call.TimedOut component →
    component ∈ call.awaited
  pending : ∀ waiter ∈ call.waiters, waiter.phase = .polling →
    ¬ call.SeenDone m waiter.component ∧ ¬ call.TimedOut waiter.component
  once : ∀ component, ¬ (call.SeenDone m component ∧ call.TimedOut component)

private theorem Call.Verdicts.of_none (h : call.Verdicts m)
    (hdone : ∀ component, next.SeenDone m component → call.SeenDone m component)
    (hout : ∀ component, next.TimedOut component → call.TimedOut component)
    (hawaited : ∀ component ∈ call.awaited, component ∈ next.awaited)
    (hpolling : ∀ waiter ∈ next.waiters, waiter.phase = .polling →
      waiter ∈ call.waiters ∨ waiter.component ∉ call.awaited) : next.Verdicts m := by
  refine ⟨fun component hended => ?_, fun waiter hmem hphase => ?_, fun component hended => ?_⟩
  · exact hawaited _ (h.known _ (hended.imp (hdone _) (hout _)))
  · rcases hpolling waiter hmem hphase with hold | hfresh
    · have hnot := h.pending waiter hold hphase
      exact ⟨fun hseen => hnot.1 (hdone _ hseen), fun htimed => hnot.2 (hout _ htimed)⟩
    · exact ⟨fun hseen => hfresh (h.known _ (.inl (hdone _ hseen))),
        fun htimed => hfresh (h.known _ (.inr (hout _ htimed)))⟩
  · exact h.once _ ⟨hdone _ hended.1, hout _ hended.2⟩

private theorem Call.Verdicts.of_one (h : call.Verdicts m) {i : Nat} {waiter : Waiter}
    {phase : WaitPhase} (hget : call.waiters[i]? = some waiter) (hsettled : phase ≠ .polling)
    (hwaiters : next.waiters = call.waiters.set i ⟨waiter.component, phase⟩)
    (hnodup : next.awaited.Nodup)
    (hothers : ∀ component, component ≠ waiter.component →
      (next.SeenDone m component → call.SeenDone m component) ∧
      (next.TimedOut component → call.TimedOut component))
    (hone : ¬ (next.SeenDone m waiter.component ∧ next.TimedOut waiter.component)) :
    next.Verdicts m := by
  have hawaited : next.awaited = call.awaited := by
    rw [Call.awaited, hwaiters]
    exact Call.awaited_set hget phase
  have hself : waiter.component ∈ call.awaited :=
    List.mem_map_of_mem (List.mem_of_getElem? hget)
  refine ⟨fun component hended => ?_, fun other hmem hphase => ?_, fun component hended => ?_⟩
  · rw [hawaited]
    by_cases heq : component = waiter.component
    · exact heq ▸ hself
    · exact h.known _ (hended.imp (hothers _ heq).1 (hothers _ heq).2)
  · -- a second goroutine for the component would be the one that has ended
    have hne : other.component ≠ waiter.component := by
      intro heq
      have hended : (⟨waiter.component, phase⟩ : Waiter) ∈ next.waiters := by
        rw [hwaiters]
        exact List.mem_set (List.getElem?_eq_some_iff.mp hget).1 _
      have hsame := List.inj_on_of_nodup_map hnodup hmem hended heq
      rw [hsame] at hphase
      exact hsettled hphase
    rw [hwaiters] at hmem
    have hold : other ∈ call.waiters := by
      refine (List.mem_or_eq_of_mem_set hmem).resolve_right fun heq => ?_
      exact hne (by rw [heq])
    have hnot := h.pending other hold hphase
    exact ⟨fun hseen => hnot.1 ((hothers _ hne).1 hseen),
      fun htimed => hnot.2 ((hothers _ hne).2 htimed)⟩
  · by_cases heq : component = waiter.component
    · exact hone (heq ▸ hended)
    · exact h.once _ ⟨(hothers _ heq).1 hended.1, (hothers _ heq).2 hended.2⟩

theorem Call.WaitStep.verdicts (hstep : Call.WaitStep m call next) (hmode : next.mode = call.mode)
    (hnodup : next.awaited.Nodup) (h : call.Verdicts m) : next.Verdicts m := by
  -- what an unchanged or foreign part of the log says of the waits
  have hdone : ∀ component, (∀ listing, .polled component listing ∈ next.log →
      m.pollDone call.mode component listing = true → .polled component listing ∈ call.log) →
      next.SeenDone m component → call.SeenDone m component := by
    rintro component hlog ⟨listing, hpolled, hseen⟩
    rw [hmode] at hseen
    exact ⟨listing, hlog listing hpolled hseen, hseen⟩
  have hout : ∀ component, (∀ err, .waitFailed component err ∈ next.log →
      .waitFailed component err ∈ call.log) →
      next.TimedOut component → call.TimedOut component :=
    fun component hlog => Exists.imp hlog
  cases hstep with
  | quiet waiters log =>
    refine h.of_none (fun c => hdone c fun listing hmem _ => ?_)
      (fun c => hout c fun err hmem => ?_) (by simp [Call.awaited, waiters])
      (fun waiter hmem _ => .inl (waiters ▸ hmem))
    · exact (log _ hmem).resolve_right (by simp [Event.isWait])
    · exact (log _ hmem).resolve_right (by simp [Event.isWait])
  | skipped _ waiters log =>
    refine h.of_none (fun c => hdone c fun listing hmem _ => ?_)
      (fun c => hout c fun err hmem => ?_) (by simp [Call.awaited, waiters])
      (fun waiter hmem _ => .inl (waiters ▸ hmem))
    · exact (log _ hmem).resolve_right (by simp)
    · exact (log _ hmem).resolve_right (by simp)
  | started item waiters log =>
    have hawaited : next.awaited = call.awaited ++ [item.component] := by
      simp [Call.awaited, waiters, Waiter.start]
    refine h.of_none (fun c => hdone c fun listing hmem _ => log ▸ hmem)
      (fun c => hout c fun err hmem => log ▸ hmem)
      (fun c hmem => hawaited ▸ List.mem_append_left _ hmem) (fun waiter hmem _ => ?_)
    rw [waiters] at hmem
    refine (List.mem_append.mp hmem).imp_right fun hfresh => ?_
    rw [List.mem_singleton.mp hfresh]
    rw [hawaited] at hnodup
    exact fun hold => List.disjoint_of_nodup_append hnodup hold (List.mem_singleton.mpr rfl)
  | onward i waiter phase goroutine settled waiters log =>
    refine h.of_none (fun c => hdone c fun listing hmem _ => log ▸ hmem)
      (fun c => hout c fun err hmem => log ▸ hmem) (fun c hmem => ?_) (fun other hmem hphase => ?_)
    · rwa [Call.awaited, waiters, Call.awaited_set goroutine]
    · rw [waiters] at hmem
      refine .inl ((List.mem_or_eq_of_mem_set hmem).resolve_right ?_)
      rintro rfl
      exact settled hphase
  | polled i waiter listing goroutine at_ waiters log =>
    have htimed : ∀ component, next.TimedOut component → call.TimedOut component :=
      fun c => hout c fun err hmem => (log _ hmem).resolve_right (by simp)
    cases hpoll : m.pollDone call.mode waiter.component listing with
    | true =>
      simp only [hpoll, if_true] at waiters
      refine h.of_one goroutine (by simp) waiters hnodup (fun c hne => ⟨?_, htimed c⟩) ?_
      · refine hdone c fun other hmem _ => (log _ hmem).resolve_right fun heq => ?_
        cases heq
        exact hne rfl
      · rintro ⟨-, hended⟩
        exact (h.pending waiter (List.mem_of_getElem? goroutine) at_).2 (htimed _ hended)
    | false =>
      simp only [hpoll, Bool.false_eq_true, if_false] at waiters
      refine h.of_none (fun c => hdone c fun other hmem hseen => ?_) htimed (fun c hmem => ?_)
        (fun other hmem _ => ?_)
      · refine (log _ hmem).resolve_right fun heq => ?_
        cases heq
        simp [hpoll] at hseen
      · rwa [Call.awaited, waiters, Call.awaited_set goroutine]
      · rw [waiters] at hmem
        refine .inl ((List.mem_or_eq_of_mem_set hmem).elim id ?_)
        rintro rfl
        rw [← at_]
        exact List.mem_of_getElem? goroutine
  | timedOut i waiter err goroutine at_ waiters log =>
    have hseen : ∀ component, next.SeenDone m component → call.SeenDone m component :=
      fun c => hdone c fun listing hmem _ => (log _ hmem).resolve_right (by simp)
    refine h.of_one goroutine (by simp) waiters hnodup (fun c hne => ⟨hseen c, ?_⟩) ?_
    · refine hout c fun other hmem => (log _ hmem).resolve_right fun heq => ?_
      cases heq
      exact hne rfl
    · rintro ⟨hended, -⟩
      exact (h.pending waiter (List.mem_of_getElem? goroutine) at_).1 (hseen _ hended)

theorem Call.Arises.verdicts (h : Call.Arises m ids mode call)
    (hdistinct : (tierComponents ids).Nodup) : call.Verdicts m := by
  induction h with
  | start =>
    have hlog : (Call.start mode).log = [] := rfl
    exact ⟨by simp [Call.SeenDone, Call.TimedOut, hlog], by simp [Call.start],
      by simp [Call.SeenDone, hlog]⟩
  | move before same moves ih =>
    exact moves.waitStep.verdicts moves.mode_eq
      ((before.move same moves).awaited_nodup hdistinct) ih

end Verdicts

section Steps

variable {m : DRManager} {ids : Identities} {mode : Mode} {cluster : Cluster} {call : Call}

theorem Call.Scaling.exists_step (h : call.Scaling m ids mode) (hids : cluster.identities = ids) :
    ∃ act next, call.step m cluster act = some next := by
  by_cases hclosed : call.scaleChClosed = true
  · exact ⟨.caller, Option.isSome_iff_exists.mp
      (by simp [Call.step, Call.stepCaller, h.caller, hclosed])⟩
  by_cases hstarting : call.scaleLoop.isStarting = true
  · obtain ⟨next, hstep, -⟩ := Call.stepScaleLoop_starts (m := m) cluster hstarting
    exact ⟨.scaleLoop .ok, (cluster, next), by simp [Call.step, hstep]⟩
  by_cases hfinished : ∀ scaler ∈ call.scalers, scaler.phase = .finished
  · obtain ⟨reply, next, hstep, -⟩ := h.advance hids hfinished (Bool.not_eq_true _ ▸ hclosed)
      (Bool.not_eq_true _ ▸ hstarting)
    exact ⟨_, _, hstep⟩
  · simp only [not_forall] at hfinished
    obtain ⟨scaler, hmem, hphase⟩ := hfinished
    obtain ⟨i, hget⟩ := List.mem_iff_getElem?.mp hmem
    cases hat : scaler.phase with
    | finished => exact absurd hat hphase
    | sent =>
      obtain ⟨next, hstep, -⟩ := h.finish hids hget hat
      exact ⟨_, _, hstep⟩
    | send err =>
      exact ⟨.receive i, Option.isSome_iff_exists.mp
        (by simp [Call.step, Call.receive, h.caller, hget, hat])⟩
    | _ =>
      obtain ⟨scaler', events, hstep, -⟩ := Scaler.step_fault m.conflictRetries cluster
        (by rw [hat]; rfl : scaler.phase.isBusy = true) "unavailable"
      exact ⟨.scaler i (.fault "unavailable"), Option.isSome_iff_exists.mp
        (by simp [Call.step, Call.stepScaler, hget, hat, hstep])⟩

theorem Call.Waiting.exists_step (h : call.Waiting m ids mode) (hids : cluster.identities = ids) :
    ∃ act next, call.step m cluster act = some next := by
  by_cases hserved : call.Served
  · simp only [Call.Served, h.caller] at hserved
    rcases hserved with
      hclosed | ⟨waiter, hmem, err, hat⟩ | ⟨message, rest, err, hat⟩ | ⟨message, hat⟩
    · exact ⟨.caller, Option.isSome_iff_exists.mp
        (by simp [Call.step, Call.stepCaller, h.caller, hclosed])⟩
    · obtain ⟨i, hget⟩ := List.mem_iff_getElem?.mp hmem
      exact ⟨.receive i, Option.isSome_iff_exists.mp
        (by simp [Call.step, Call.receive, h.caller, hget, hat])⟩
    · exact ⟨.receiveWorkers, Option.isSome_iff_exists.mp
        (by simp [Call.step, Call.receiveWorkers, h.caller, hat])⟩
    · exact ⟨.receiveWorkers, Option.isSome_iff_exists.mp
        (by simp [Call.step, Call.receiveWorkers, h.caller, hat])⟩
  by_cases hstarting : call.waitLoop.isStarting = true
  · obtain ⟨next, hstep, -⟩ := Call.stepWaitLoop_starts cluster hstarting
    exact ⟨.waitLoop .ok, (cluster, next), by simp [Call.step, hstep]⟩
  by_cases hfinished : ∀ waiter ∈ call.waiters, waiter.phase = .finished
  · obtain ⟨reply, next, hstep, -⟩ :=
      h.advance hids hfinished hserved (Bool.not_eq_true _ ▸ hstarting)
    exact ⟨_, _, hstep⟩
  · simp only [not_forall] at hfinished
    obtain ⟨waiter, hmem, hphase⟩ := hfinished
    obtain ⟨i, hget⟩ := List.mem_iff_getElem?.mp hmem
    cases hat : waiter.phase with
    | finished => exact absurd hat hphase
    | sent =>
      obtain ⟨next, hstep, -⟩ := h.finish hids hget hat
      exact ⟨_, _, hstep⟩
    | polling =>
      exact ⟨.waiter i .timeout, Option.isSome_iff_exists.mp
        (by simp [Call.step, Call.stepWaiter, hget, hat])⟩
    | send err =>
      refine absurd ?_ hserved
      simp only [Call.Served, h.caller]
      exact .inr (.inl ⟨waiter, hmem, err, hat⟩)

theorem Call.Arises.exists_step (h : Call.Arises m ids mode call)
    (hids : cluster.identities = ids) (hlisted : ∀ err, .listFailed .deployment err ∉ call.log)
    (hkept : ¬ call.LosesErr .scale) (hret : call.hasReturned = false) :
    ∃ act next, call.step m cluster act = some next := by
  have hfailed : ∀ {P : Prop}, (¬ P → ∃ err, .listFailed .deployment err ∈ call.log) → P :=
    fun hP => by_contra fun hnot => (hP hnot).elim hlisted
  have hmode := h.supported hret
  cases hcaller : call.caller with
  | rangeScaleCh =>
    have hscaling : call.Scaling m ids mode :=
      ⟨h, hcaller, fun hphase => hfailed fun _ => h.listing_failed hmode (.inr hphase),
        fun hphase => hfailed fun herr => h.listing_failed hmode (.inl ⟨hphase, herr⟩)⟩
    exact hscaling.exists_step hids
  | rangeWaitCh =>
    have hwaiting : call.Waiting m ids mode :=
      ⟨h, hcaller, (h.entered hkept).waiting hcaller⟩
    exact hwaiting.exists_step hids
  | returned => simp [Call.hasReturned, hcaller] at hret
  | _ =>
    exact ⟨.caller, Option.isSome_iff_exists.mp (by simp [Call.step, Call.stepCaller, hcaller])⟩

end Steps

section Histories

variable {m : DRManager} {ids : Identities} {cluster : Cluster} {call : Call} {system : System}
  (owner : Pod → Option (Kind × String))

/-- A call to the Kubernetes API that failed. A wait that runs out of time is none. -/
def Event.isApiError : Event → Bool
  | .listFailed _ _ | .scaleFailed _ _ _ | .polled _ (.error _) | .workersListFailed _
  | .podDeleteFailed _ _ => true
  | _ => false

/-- The running and ready pods of a workload. Which workload a pod belongs to is in its
owner reference, which the site manager does not read. -/
def ownedReady (kind : Kind) (name : String) (pods : List Pod) : Nat :=
  pods.countP fun pod => owner pod = some (kind, name) && isReady pod

/-- Some poll found as many ready pods of the workload as its scaling goroutine is to set. -/
def Call.FoundAsSet (m : DRManager) (call : Call) (kind : Kind) (entry : String × Identity) :
    Prop :=
  ∃ pods, .polled (componentOf entry) (.ok pods) ∈ call.log ∧
    (ownedReady owner kind entry.1 pods : Int) = (m.target call.mode (componentOf entry)).toInt

/-- The polls find ready pods of the workload under its component label and no others. -/
def Call.PollsOwn (call : Call) (kind : Kind) (entry : String × Identity) : Prop :=
  ∀ pods, .polled (componentOf entry) (.ok pods) ∈ call.log →
    readyCount pods "component" (componentOf entry) = ownedReady owner kind entry.1 pods

/-- The replica map has a count for the component that a wait for it can end with. -/
def DRManager.Awaitable (m : DRManager) (component : String) : Prop :=
  m.componentToReplicaMap.read component ≠ 0 ∧ m.Fits .active component

variable {owner} {kind : Kind} {entry : String × Identity}

theorem Call.foundAsSet_iff (hmode : call.mode = .active)
    (hcount : m.Awaitable (componentOf entry)) (howned : call.PollsOwn owner kind entry) :
    call.FoundAsSet owner m kind entry ↔ call.SeenDone m (componentOf entry) := by
  have htarget : (m.target .active (componentOf entry)).toInt =
      m.componentToReplicaMap.read (componentOf entry) := DRManager.target_toInt hcount.2
  unfold Call.FoundAsSet Call.SeenDone
  simp only [hmode, htarget, DRManager.pollDone, DRManager.isComponentUp_iff]
  constructor
  · rintro ⟨pods, hpolled, hfound⟩
    rw [← howned pods hpolled] at hfound
    have hpositive := hcount.1
    exact ⟨.ok pods, hpolled, pods, rfl, by omega, hfound⟩
  · rintro ⟨_, hpolled, pods, rfl, -, hfound⟩
    exact ⟨pods, hpolled, by rw [← howned pods hpolled]; exact hfound⟩

theorem Call.timedOut_of_failure (hclean : ∀ event ∈ call.log, event.isApiError = false)
    (h : call.HasFailure) : ∃ component, call.TimedOut component := by
  obtain ⟨event, hmem, hfails⟩ := h
  have hnot := hclean event hmem
  cases event with
  | waitFailed component err => exact ⟨component, err, hmem⟩
  | _ => simp_all [Event.isFailure, Event.isApiError]

theorem Call.Arises.seenDone {mode : Mode} (h : Call.Arises m ids mode call)
    (hdone : call.waitLoop = .done) (hfailed : ¬ call.HasFailure)
    (hentry : entry ∈ tier ids kind) : call.SeenDone m (componentOf entry) := by
  have hwaited : call.waitLoop.waited = true := by simp [hdone, WaitLoopPhase.waited]
  obtain ⟨waiter, hmem, hcomponent⟩ :=
    h.waitsFor hwaited (fun hskipped => hfailed (h.failure_of_skipped hskipped)) hentry
  have hsettled := h.waiter_settled waiter hmem
  unfold Waiter.Settled at hsettled
  simp only [h.wellFormed.waiters_finished hwaited hmem] at hsettled
  rw [hcomponent, ← h.mode_eq] at hsettled
  refine hsettled.resolve_right ?_
  rintro ⟨err, htimed⟩
  exact hfailed ⟨_, htimed, rfl⟩

/-- A scale-up without API errors comes to its end, and ends with DONE exactly when each
listed workload was found with as many ready pods as were set for it. -/
theorem changeMode_active_done_iff
    (hrun : Runs.Reaches (System.step m) (System.initial cluster) system)
    (hcall : call ∈ system.calls) (hmode : call.mode = .active)
    (hclean : ∀ event ∈ call.log, event.isApiError = false)
    (hdistinct : (tierComponents cluster.identities).Nodup)
    (hcounts : ∀ kind, ∀ entry ∈ tier cluster.identities kind, m.Awaitable (componentOf entry))
    (howned : ∀ kind, ∀ entry ∈ tier cluster.identities kind, call.PollsOwn owner kind entry)
    (hkept : ∀ loop, ¬ call.LosesErr loop) :
    ((∀ act, call.step m system.cluster act = none) → call.hasReturned = true) ∧
    ∀ resp err, call.caller = .returned resp err →
      (resp.status = .done ↔ ∀ kind, ∀ entry ∈ tier cluster.identities kind,
        call.FoundAsSet owner m kind entry) := by
  have hconsistent := System.consistent hrun
  have harises := hconsistent.2 call hcall
  have hreported := harises.reported (by rw [hmode]; rfl) hkept
  constructor
  · intro hstuck
    by_contra hret
    have hlisted : ∀ err, .listFailed .deployment err ∉ call.log := by
      intro err hmem
      have hnot := hclean _ hmem
      cases hnot
    obtain ⟨act, next, hstep⟩ := harises.exists_step hconsistent.1 hlisted (hkept .scale)
      (Bool.not_eq_true _ ▸ hret)
    rw [hstuck act] at hstep
    cases hstep
  · intro resp err hret
    have hfound : (∀ kind, ∀ entry ∈ tier cluster.identities kind,
        call.FoundAsSet owner m kind entry) ↔
        ∀ kind, ∀ entry ∈ tier cluster.identities kind, call.SeenDone m (componentOf entry) :=
      forall_congr' fun kind => forall₂_congr fun entry hentry =>
        Call.foundAsSet_iff hmode (hcounts kind entry hentry) (howned kind entry hentry)
    rw [hfound]
    rcases hreported.returned resp err hret with
      ⟨rfl, -, hnone, hdone, hlate⟩ | ⟨rfl, -, event, hevent, hfails⟩
    · have hfailed : ¬ call.HasFailure := by
        rintro ⟨event, hevent, hfails⟩
        rw [Call.log, hlate, List.append_nil] at hevent
        exact hnone ⟨event, hevent, hfails⟩
      exact ⟨fun _ kind entry hentry => harises.seenDone hdone hfailed hentry, fun _ => rfl⟩
    · refine iff_of_false (by simp [respond]) fun hseen => ?_
      have hverdicts := harises.verdicts hdistinct
      obtain ⟨component, htimed⟩ := Call.timedOut_of_failure hclean
        ⟨event, List.mem_append_left _ hevent, hfails⟩
      obtain ⟨kind, entry, hentry, rfl⟩ :=
        harises.awaited_tier (hverdicts.known component (.inr htimed))
      exact absurd ⟨hseen kind entry hentry, htimed⟩ (hverdicts.once _)

def scaleUpOne (outcome : List Act) : List Act :=
  List.replicate 4 (.scaleLoop .ok) ++ scaleOne 0 ++
    List.replicate 5 (.scaleLoop .ok) ++ [.caller, .caller] ++
    List.replicate 6 (.waitLoop .ok) ++ outcome

def schedulerPods : List Pod := ["scheduler-0", "scheduler-1"].map fun name =>
  ⟨name, [("component", "scheduler")], .running, [⟨"Ready", "True"⟩]⟩

def ownedByScheduler (pod : Pod) : Option (Kind × String) :=
  if pod ∈ schedulerPods then some (.deployment, "scheduler") else none

theorem eq_of_tier {only : Workload} (hdeployments : tier ids .deployment = [only.entry])
    (hstatefulSets : tier ids .statefulSet = []) (hentry : entry ∈ tier ids kind) :
    kind = .deployment ∧ entry = only.entry := by
  cases kind with
  | deployment =>
    rw [hdeployments] at hentry
    exact ⟨rfl, List.mem_singleton.mp hentry⟩
  | statefulSet =>
    rw [hstatefulSets] at hentry
    exact absurd hentry List.not_mem_nil

theorem schedulerCluster_tier (h : entry ∈ tier schedulerCluster.identities kind) :
    kind = .deployment ∧ entry = scheduler.entry :=
  eq_of_tier (by decide) (by decide) h

theorem scheduler_found_scaled_up :
    ∃ system, Runs.Reaches (System.step schedulerMap) (System.initial schedulerCluster) system ∧
      ∃ call ∈ system.calls, call.caller = .returned (respond .active .done) none ∧
        ∀ kind, ∀ entry ∈ tier schedulerCluster.identities kind,
          call.FoundAsSet ownedByScheduler schedulerMap kind entry := by
  obtain ⟨system, hrun, hcheck⟩ := Runs.exists_of_replay
    (System.step schedulerMap) (System.initial schedulerCluster)
    (.start .active :: (scaleUpOne (waitOne 0 schedulerPods ++
      [.waitLoop .ok, .waitLoop .ok, .caller, .caller, .caller])).map (Move.act 0))
    (fun system => system.calls.any fun call => call.mode = .active ∧
      call.caller = .returned (respond .active .done) none ∧
      call.log.all fun event => match event with
        | .errLost _ _ => false
        | .polled _ listing => listing = .ok schedulerPods
        | event => !event.isApiError) (by decide +kernel)
  simp only [List.any_eq_true, decide_eq_true_eq] at hcheck
  obtain ⟨call, hmem, hmode, hret, hlog⟩ := hcheck
  have hevent := fun event => List.all_eq_true.mp hlog event
  refine ⟨system, hrun, call, hmem, hret, ((changeMode_active_done_iff hrun hmem hmode ?_
    (by decide) ?_ ?_ ?_).2 _ _ hret).mp rfl⟩
  · intro event hmem
    have hok := hevent event hmem
    cases event with
    | errLost => cases hok
    | polled component listing =>
      simp only [decide_eq_true_eq] at hok
      subst hok
      rfl
    | _ => simpa using hok
  · intro kind entry hentry
    obtain ⟨-, rfl⟩ := schedulerCluster_tier hentry
    exact ⟨by decide, by decide, by decide⟩
  · intro kind entry hentry pods hpolled
    obtain ⟨rfl, rfl⟩ := schedulerCluster_tier hentry
    have hpods := hevent _ hpolled
    simp only [decide_eq_true_eq, Except.ok.injEq] at hpods
    subst hpods
    decide
  · rintro loop ⟨err, hlost⟩
    have hnot := hevent _ (List.mem_append_left _ hlost)
    cases hnot

def flowerOff : DRManager :=
  ⟨getEnvReplicaMap fun name => if name = "FLOWER_REPLICAS" then "0" else "", 5⟩

def flower : Workload :=
  ⟨"flower", 0, ⟨"uid-5", [("tier", "airflow"), ("component", "flower")], 0, ""⟩⟩

def flowerCluster : Cluster := ⟨⟨[flower], by decide⟩, ⟨[], List.nodup_nil⟩⟩

theorem flowerCluster_tier (h : entry ∈ tier flowerCluster.identities kind) :
    kind = .deployment ∧ entry = flower.entry :=
  eq_of_tier (by decide) (by decide) h

/-- Flower is set to no replicas and found with none, and the wait for it times out. -/
theorem flower_off_fails :
    ∃ system, Runs.Reaches (System.step flowerOff) (System.initial flowerCluster) system ∧
      ∃ call ∈ system.calls, call.mode = .active ∧
        (∀ event ∈ call.log, event.isApiError = false) ∧
        (∀ kind, ∀ entry ∈ tier flowerCluster.identities kind,
          flowerOff.componentToReplicaMap.hasEntry (componentOf entry)) ∧
        (∃ err, call.caller = .returned (respond .active .failed) err) ∧
        ∀ owner kind, ∀ entry ∈ tier flowerCluster.identities kind,
          call.FoundAsSet owner flowerOff kind entry := by
  obtain ⟨system, hrun, hcheck⟩ := Runs.exists_of_replay
    (System.step flowerOff) (System.initial flowerCluster)
    (.start .active :: (scaleUpOne [.waiter 0 (.pods []), .waiter 0 .timeout, .receive 0,
      .caller, .caller, .caller]).map (Move.act 0))
    (fun system => system.calls.any fun call => call.mode = .active ∧
      call.caller = .returned (respond .active .failed) (timeoutError .active "flower") ∧
      .polled "flower" (.ok []) ∈ call.log ∧
      call.log.all fun event => !event.isApiError) (by decide +kernel)
  simp only [List.any_eq_true, decide_eq_true_eq] at hcheck
  obtain ⟨call, hmem, hmode, hret, hpolled, hlog⟩ := hcheck
  refine ⟨system, hrun, call, hmem, hmode, fun event hevent => ?_, fun kind entry hentry => ?_,
    ⟨_, hret⟩, fun owner kind entry hentry => ?_⟩
  · simpa using List.all_eq_true.mp hlog event hevent
  · obtain ⟨-, rfl⟩ := flowerCluster_tier hentry
    exact rfl
  · obtain ⟨-, rfl⟩ := flowerCluster_tier hentry
    have htarget : (flowerOff.target .active (componentOf flower.entry)).toInt = 0 := by
      decide +kernel
    refine ⟨[], hpolled, ?_⟩
    rw [hmode, htarget]
    rfl

end Histories

end QubershipAirflow.SiteManager
