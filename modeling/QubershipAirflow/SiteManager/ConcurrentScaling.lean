import QubershipAirflow.Library.Runs
import QubershipAirflow.SiteManager.Scaling

/-! One `ScaleDeployment` or `ScaleStatefulSet` among other writers. Between any two
of its API calls others may create, change and delete workloads of both kinds. -/
namespace QubershipAirflow.SiteManager

open VersionedStore Runs

/-- The cluster with the versions of deleted workloads, the scaling goroutine, what it
has sent on its channel, and how many of its updates were accepted. -/
structure Scene where
  cluster : Cluster
  retired : Kind → String → Nat
  scaler : Scaler
  messages : List (Option Error)
  accepted : Nat

def Scene.archive (scene : Scene) (kind : Kind) : Archive String WorkloadBody :=
  ⟨scene.cluster.store kind, scene.retired kind⟩

inductive Turn where
  | call (reply : Reply)
  | send
  | other (kind : Kind) (write : Write String WorkloadBody)

def Turn.isOwn : Turn → Bool
  | .call _ => true
  | .send => true
  | .other _ _ => false

def Scene.write (scene : Scene) (kind : Kind) (write : Write String WorkloadBody) : Scene :=
  let archive := (scene.archive kind).write write
  { scene with
    cluster := scene.cluster.setStore kind archive.store
    retired := Function.update scene.retired kind archive.retired }

def Scene.step (conflictRetries : Nat) (scene : Scene) : Turn → Option Scene
  | .call reply =>
      (scene.scaler.step conflictRetries scene.cluster reply).map fun (cluster, scaler, events) =>
        { scene with
          cluster := cluster
          scaler := scaler
          accepted := scene.accepted + events.countP Event.isChange }
  | .send =>
      match scene.scaler.phase with
      | .send err => some
          { scene with
            scaler := { scene.scaler with phase := .sent }
            messages := scene.messages ++ [err] }
      | _ => none
  | .other kind write => some (scene.write kind write)

structure Scene.Starts (scene : Scene) : Prop where
  phase : scene.scaler.phase = .lookup
  messages : scene.messages = []
  accepted : scene.accepted = 0

inductive Scaler.Calls (conflictRetries : Nat) (cluster : Cluster) (scaler : Scaler) :
    Cluster → Scaler → List Event → Prop where
  | found (name : String) (hphase : scaler.phase = .lookup) :
      Calls conflictRetries cluster scaler cluster
        { scaler with phase := .read name conflictRetries } []
  | reads (name : String) (retries : Nat) (failure : Option Error)
      (hphase : scaler.phase = .read name retries) :
      Calls conflictRetries cluster scaler cluster
        { scaler with phase := .write name (scaler.readObject cluster name failure) retries } []
  | retries (name : String) (object : Workload) (retries : Nat)
      (hphase : scaler.phase = .write name object (retries + 1)) :
      Calls conflictRetries cluster scaler cluster
        { scaler with phase := .read name retries } []
  | refused (err : Error) (hbusy : scaler.phase.isBusy = true) :
      Calls conflictRetries cluster scaler cluster { scaler with phase := .send (some err) }
        [.scaleFailed scaler.kind scaler.component err]
  | accepted (name : String) (object : Workload) (retries : Nat) (store : WorkloadStore)
      (hphase : scaler.phase = .write name object retries) (hnamed : object.name ≠ "")
      (hupdate : (cluster.store scaler.kind).update object = .ok store) :
      Calls conflictRetries cluster scaler (cluster.setStore scaler.kind store)
        { scaler with phase := .send none }
        [.updated scaler.kind object.name object.body.replicas]

theorem Scaler.retry_calls {conflictRetries : Nat} {cluster : Cluster} {scaler : Scaler}
    {name : String} {object : Workload} {retries : Nat}
    (hphase : scaler.phase = .write name object retries) :
    Scaler.Calls conflictRetries cluster scaler cluster (scaler.retry name retries).1
      (scaler.retry name retries).2 := by
  cases retries with
  | zero => exact .refused _ (by rw [hphase]; rfl)
  | succ retries => exact .retries name object retries hphase

theorem Scaler.retry_calls_of_eq {conflictRetries : Nat} {cluster next : Cluster}
    {scaler scaler' : Scaler} {name : String} {object : Workload} {retries : Nat}
    {events : List Event} (hphase : scaler.phase = .write name object retries)
    (h : some (cluster, scaler.retry name retries) = some (next, scaler', events)) :
    Scaler.Calls conflictRetries cluster scaler next scaler' events := by
  obtain ⟨rfl, hretry⟩ := Prod.mk.inj (Option.some.inj h)
  have hcalls := @Scaler.retry_calls conflictRetries cluster scaler name object retries hphase
  rwa [hretry] at hcalls

theorem Scaler.step_calls {conflictRetries : Nat} {cluster next : Cluster}
    {scaler scaler' : Scaler} {reply : Reply} {events : List Event}
    (h : scaler.step conflictRetries cluster reply = some (next, scaler', events)) :
    Scaler.Calls conflictRetries cluster scaler next scaler' events := by
  unfold Scaler.step at h
  split at h
  case h_1 hphase =>
    obtain ⟨failure, -, h⟩ := Option.map_eq_some_iff.mp h
    split at h
    · cases h
      exact .found _ hphase
    · cases h
      exact .refused _ (by rw [hphase]; rfl)
  case h_2 name retries hphase =>
    obtain ⟨failure, -, h⟩ := Option.map_eq_some_iff.mp h
    cases h
    exact .reads name retries failure hphase
  case h_3 name object retries hphase =>
    have hbusy : scaler.phase.isBusy = true := by rw [hphase]; rfl
    unfold Scaler.writeObject at h
    split at h
    · cases h
      exact .refused _ hbusy
    · rename_i hnamed
      split at h
      · split at h
        · rename_i store hupdate
          cases h
          exact .accepted name object retries store hphase hnamed hupdate
        · cases h
          exact .refused _ hbusy
        · exact Scaler.retry_calls_of_eq hphase h
      · exact Scaler.retry_calls_of_eq hphase h
      · cases h
        exact .refused _ hbusy
      · contradiction
  all_goals contradiction

def Scene.Remembers (scene : Scene) : Prop :=
  ∀ name object retries, scene.scaler.phase = .write name object retries → object.name ≠ "" →
    ∃ held : Workload, (scene.archive scene.scaler.kind).Knows held ∧
      object = held.withReplicas scene.scaler.replicas

def Scene.Reports (scene : Scene) : Prop :=
  match scene.scaler.phase with
  | .lookup | .read _ _ | .write _ _ _ => scene.messages = [] ∧ scene.accepted = 0
  | .send err => scene.messages = [] ∧ (err = none ↔ 0 < scene.accepted)
  | .sent => ∃ err, scene.messages = [err] ∧ (err = none ↔ 0 < scene.accepted)
  | .finished => False

theorem Scaler.readObject_remembers {cluster : Cluster} {retired : Kind → String → Nat}
    {scaler : Scaler} {name : String} {failure : Option Error}
    (hnamed : (scaler.readObject cluster name failure).name ≠ "") :
    ∃ held : Workload,
      (⟨cluster.store scaler.kind, retired scaler.kind⟩ : Archive String WorkloadBody).Knows held ∧
      scaler.readObject cluster name failure = held.withReplicas scaler.replicas := by
  unfold Scaler.readObject at hnamed ⊢
  split at hnamed
  · exact absurd rfl hnamed
  · rename_i hget
    rw [if_neg hget]
    cases hstored : (cluster.store scaler.kind).get name with
    | none =>
      rw [hstored] at hnamed
      exact absurd rfl hnamed
    | some stored => exact ⟨stored, Archive.knows_of_get hstored, rfl⟩

theorem Scene.archive_write_self (scene : Scene) (kind : Kind)
    (write : Write String WorkloadBody) :
    (scene.write kind write).archive kind = (scene.archive kind).write write := by
  simp [Scene.write, Scene.archive]

theorem Scene.archive_write_ne (scene : Scene) {kind other : Kind}
    (write : Write String WorkloadBody) (h : other ≠ kind) :
    (scene.write kind write).archive other = scene.archive other := by
  simp [Scene.write, Scene.archive, Cluster.store_setStore_ne scene.cluster _ h, h]

section Steps

variable {conflictRetries : Nat} {scene next : Scene} {turn : Turn}

theorem Scene.Remembers.step (h : scene.Remembers)
    (hstep : scene.step conflictRetries turn = some next) : next.Remembers := by
  cases turn with
  | call reply =>
    obtain ⟨⟨cluster, scaler, events⟩, hcall, rfl⟩ := Option.map_eq_some_iff.mp hstep
    intro name object retries hphase hnamed
    cases Scaler.step_calls hcall with
    | found => cases hphase
    | reads name retries failure hread =>
      cases hphase
      exact Scaler.readObject_remembers hnamed
    | retries => cases hphase
    | refused => cases hphase
    | accepted => cases hphase
  | send =>
    simp only [Scene.step] at hstep
    split at hstep
    · cases hstep
      intro name object retries hphase
      cases hphase
    · cases hstep
  | other kind write =>
    cases hstep
    intro name object retries hphase hnamed
    obtain ⟨held, hknows, hobject⟩ := h name object retries hphase hnamed
    refine ⟨held, ?_, hobject⟩
    change ((scene.write kind write).archive scene.scaler.kind).Knows held
    by_cases hkind : scene.scaler.kind = kind
    · rw [hkind, scene.archive_write_self]
      exact (hkind ▸ hknows).write write
    · rw [scene.archive_write_ne write hkind]
      exact hknows

theorem Scene.Reports.of_busy (h : scene.Reports) (hbusy : scene.scaler.phase.isBusy = true) :
    scene.messages = [] ∧ scene.accepted = 0 := by
  unfold Scene.Reports at h
  cases hphase : scene.scaler.phase <;> rw [hphase] at h hbusy <;> first | exact h | cases hbusy

theorem Scene.Reports.step (h : scene.Reports)
    (hstep : scene.step conflictRetries turn = some next) : next.Reports := by
  cases turn with
  | call reply =>
    obtain ⟨⟨cluster, scaler, events⟩, hcall, rfl⟩ := Option.map_eq_some_iff.mp hstep
    cases Scaler.step_calls hcall with
    | found name hphase => exact h.of_busy (by rw [hphase]; rfl)
    | reads name retries failure hphase => exact h.of_busy (by rw [hphase]; rfl)
    | retries name object retries hphase => exact h.of_busy (by rw [hphase]; rfl)
    | refused err hbusy =>
      obtain ⟨hmessages, haccepted⟩ := h.of_busy hbusy
      exact ⟨hmessages, by simp [haccepted, Event.isChange]⟩
    | accepted name object retries store hphase =>
      obtain ⟨hmessages, -⟩ := h.of_busy (by rw [hphase]; rfl)
      exact ⟨hmessages, by simp [Event.isChange]⟩
  | send =>
    simp only [Scene.step] at hstep
    split at hstep
    · rename_i err hphase
      cases hstep
      unfold Scene.Reports at h
      rw [hphase] at h
      exact ⟨err, by simp [h.1], h.2⟩
    · cases hstep
  | other kind write =>
    cases hstep
    exact h

theorem Scene.step_asked (hstep : scene.step conflictRetries turn = some next) :
    next.scaler.kind = scene.scaler.kind ∧ next.scaler.replicas = scene.scaler.replicas := by
  cases turn with
  | call reply =>
    obtain ⟨⟨cluster, scaler, events⟩, hcall, rfl⟩ := Option.map_eq_some_iff.mp hstep
    cases Scaler.step_calls hcall <;> exact ⟨rfl, rfl⟩
  | send =>
    simp only [Scene.step] at hstep
    split at hstep
    · cases hstep
      exact ⟨rfl, rfl⟩
    · cases hstep
  | other kind write =>
    cases hstep
    exact ⟨rfl, rfl⟩

/-- An update was accepted: it replaced the stored object by the same one with the
replica count, under its next version, and nothing else. -/
structure Scene.Accepts (kind : Kind) (replicas : Int32) (scene next : Scene) : Prop where
  counted : next.accepted = scene.accepted + 1
  replaced : ∃ stored : Workload, (scene.cluster.store kind).get stored.name = some stored ∧
    (next.cluster.store kind).get stored.name =
      some { stored.withReplicas replicas with version := stored.version + 1 } ∧
    ∀ other name, ¬ (other = kind ∧ name = stored.name) →
      (next.cluster.store other).get name = (scene.cluster.store other).get name

/-- No update was accepted, and the cluster is as it was. -/
structure Scene.Leaves (scene next : Scene) : Prop where
  counted : next.accepted = scene.accepted
  same : next.cluster = scene.cluster

theorem Scene.Remembers.accepts (h : scene.Remembers) {name : String} {object : Workload}
    {retries : Nat} {store : WorkloadStore}
    (hphase : scene.scaler.phase = .write name object retries) (hnamed : object.name ≠ "")
    (hupdate : (scene.cluster.store scene.scaler.kind).update object = .ok store)
    (hcluster : next.cluster = scene.cluster.setStore scene.scaler.kind store)
    (hcounted : next.accepted = scene.accepted + 1) :
    Scene.Accepts scene.scaler.kind scene.scaler.replicas scene next := by
  obtain ⟨held, hknows, rfl⟩ := h name object retries hphase hnamed
  obtain ⟨hstored, hwritten, hframe⟩ := hknows.update hupdate
  refine ⟨hcounted, held, hstored, ?_, fun other name hother => ?_⟩
  · rw [hcluster, Cluster.store_setStore_self]
    exact hwritten
  · rw [hcluster]
    by_cases hkind : other = scene.scaler.kind
    · subst hkind
      rw [Cluster.store_setStore_self]
      exact hframe name fun hname => hother ⟨rfl, hname⟩
    · rw [Cluster.store_setStore_ne _ _ hkind]

theorem Scene.step_own (h : scene.Remembers) (hown : turn.isOwn = true)
    (hstep : scene.step conflictRetries turn = some next) :
    scene.Leaves next ∨ Scene.Accepts scene.scaler.kind scene.scaler.replicas scene next := by
  cases turn with
  | call reply =>
    obtain ⟨⟨cluster, scaler, events⟩, hcall, rfl⟩ := Option.map_eq_some_iff.mp hstep
    cases Scaler.step_calls hcall with
    | found => exact .inl ⟨rfl, rfl⟩
    | reads => exact .inl ⟨rfl, rfl⟩
    | retries => exact .inl ⟨rfl, rfl⟩
    | refused => exact .inl ⟨rfl, rfl⟩
    | accepted name object retries store hphase hnamed hupdate =>
      exact .inr (h.accepts hphase hnamed hupdate rfl rfl)
  | send =>
    simp only [Scene.step] at hstep
    split at hstep
    · cases hstep
      exact .inl ⟨rfl, rfl⟩
    · cases hstep
  | other kind write => cases hown

def ScalePhase.turnsLeft (conflictRetries : Nat) : ScalePhase → Nat
  | .lookup => 2 * conflictRetries + 4
  | .read _ retries => 2 * retries + 3
  | .write _ _ retries => 2 * retries + 2
  | .send _ => 1
  | .sent | .finished => 0

theorem Scene.step_turnsLeft (hstep : scene.step conflictRetries turn = some next) :
    (if turn.isOwn then 1 else 0) + next.scaler.phase.turnsLeft conflictRetries ≤
      scene.scaler.phase.turnsLeft conflictRetries := by
  cases turn with
  | call reply =>
    obtain ⟨⟨cluster, scaler, events⟩, hcall, rfl⟩ := Option.map_eq_some_iff.mp hstep
    cases Scaler.step_calls hcall with
    | found name hphase => simp [hphase, ScalePhase.turnsLeft, Turn.isOwn]; omega
    | reads name retries failure hphase =>
      simp [hphase, ScalePhase.turnsLeft, Turn.isOwn]
      omega
    | retries name object retries hphase =>
      simp [hphase, ScalePhase.turnsLeft, Turn.isOwn]
      omega
    | refused err hbusy =>
      cases hphase : scene.scaler.phase <;> rw [hphase] at hbusy <;>
        simp [ScalePhase.turnsLeft, Turn.isOwn] <;> first | omega | cases hbusy
    | accepted name object retries store hphase =>
      simp [hphase, ScalePhase.turnsLeft, Turn.isOwn]
  | send =>
    simp only [Scene.step] at hstep
    split at hstep
    · rename_i err hphase
      cases hstep
      simp [hphase, ScalePhase.turnsLeft, Turn.isOwn]
    · cases hstep
  | other kind write =>
    cases hstep
    simp [Turn.isOwn, Scene.write]

/-- Whatever is not yet sent, some answer or a reader moves the goroutine on. -/
theorem Scene.exists_own_step (scene : Scene)
    (hphase : 0 < scene.scaler.phase.turnsLeft conflictRetries) :
    ∃ turn next, turn.isOwn = true ∧ scene.step conflictRetries turn = some next := by
  have hcall : ∀ reply, (scene.scaler.step conflictRetries scene.cluster reply).isSome →
      ∃ turn next, turn.isOwn = true ∧ scene.step conflictRetries turn = some next := by
    intro reply hreply
    obtain ⟨result, hresult⟩ := Option.isSome_iff_exists.mp hreply
    exact ⟨.call reply, _, rfl, by rw [Scene.step, hresult]; rfl⟩
  cases hscaler : scene.scaler.phase with
  | lookup =>
    refine hcall (.fault "") ?_
    simp only [Scaler.step, hscaler, Reply.failure, Option.map_some, Option.isSome_some]
  | read name retries =>
    refine hcall .ok ?_
    simp only [Scaler.step, hscaler, Reply.failure, Option.map_some, Option.isSome_some]
  | write name object retries =>
    refine hcall (.fault "") ?_
    simp only [Scaler.step, hscaler, Scaler.writeObject]
    split <;> rfl
  | send err =>
    refine ⟨.send, { scene with
      scaler := { scene.scaler with phase := .sent }
      messages := scene.messages ++ [err] }, rfl, ?_⟩
    simp only [Scene.step, hscaler]
  | sent =>
    rw [hscaler] at hphase
    cases hphase
  | finished =>
    rw [hscaler] at hphase
    cases hphase

end Steps

section Runs

variable {conflictRetries : Nat} {start scene : Scene}

theorem Scene.Starts.remembers (h : start.Starts) : start.Remembers := by
  intro name object retries hphase
  rw [h.phase] at hphase
  cases hphase

theorem Scene.Starts.reports (h : start.Starts) : start.Reports := by
  unfold Scene.Reports
  rw [h.phase]
  exact ⟨h.messages, h.accepted⟩

structure Scene.Sound (start scene : Scene) : Prop where
  remembers : scene.Remembers
  reports : scene.Reports
  kind : scene.scaler.kind = start.scaler.kind
  replicas : scene.scaler.replicas = start.scaler.replicas

theorem Scene.Starts.sound (h : start.Starts)
    (hrun : Reaches (Scene.step conflictRetries) start scene) : Scene.Sound start scene := by
  refine hrun.invariant (I := Scene.Sound start) ?_ ⟨h.remembers, h.reports, rfl, rfl⟩
  intro state turn next hstate hstep
  obtain ⟨hkind, hreplicas⟩ := Scene.step_asked hstep
  exact ⟨hstate.remembers.step hstep, hstate.reports.step hstep, hkind.trans hstate.kind,
    hreplicas.trans hstate.replicas⟩

theorem Scene.Reports.length_le (h : scene.Reports) : scene.messages.length ≤ 1 := by
  unfold Scene.Reports at h
  split at h
  · simp [h.1]
  · simp [h.1]
  · simp [h.1]
  · simp [h.1]
  · obtain ⟨err, hmessages, -⟩ := h
    simp [hmessages]
  · exact h.elim

theorem Scene.Reports.of_mem (h : scene.Reports) {err : Option Error}
    (herr : err ∈ scene.messages) : err = none ↔ 0 < scene.accepted := by
  unfold Scene.Reports at h
  split at h
  · simp [h.1] at herr
  · simp [h.1] at herr
  · simp [h.1] at herr
  · simp [h.1] at herr
  · obtain ⟨sent, hmessages, hsent⟩ := h
    rw [hmessages, List.mem_singleton] at herr
    exact herr ▸ hsent
  · exact h.elim

theorem Scene.Reports.length_of_stuck (h : scene.Reports)
    (hstuck : ∀ turn : Turn, turn.isOwn = true → scene.step conflictRetries turn = none) :
    scene.messages.length = 1 := by
  have hleft : scene.scaler.phase.turnsLeft conflictRetries = 0 := by
    by_contra hne
    obtain ⟨turn, next, hown, hstep⟩ := scene.exists_own_step (Nat.pos_of_ne_zero hne)
    rw [hstuck turn hown] at hstep
    cases hstep
  unfold Scene.Reports at h
  split at h <;> rename_i hphase <;> rw [hphase] at hleft
  case h_5 =>
    obtain ⟨err, hmessages, -⟩ := h
    simp [hmessages]
  case h_6 => exact h.elim
  all_goals simp [ScalePhase.turnsLeft] at hleft

/-- However other writers interleave, the goroutine comes to an end, sends exactly one
message, sends `nil` exactly when an update of its own was accepted, and changes nothing
but the replica count of the object as it is stored at that moment. -/
theorem scaling_loses_no_update {turns : List Turn} (hstart : start.Starts)
    (hrun : exec (Scene.step conflictRetries) start turns = some scene) :
    (turns.countP Turn.isOwn ≤ 2 * conflictRetries + 4 ∧ scene.messages.length ≤ 1 ∧
      ((∀ turn : Turn, turn.isOwn = true → scene.step conflictRetries turn = none) →
        scene.messages.length = 1)) ∧
    (∀ err ∈ scene.messages, err = none ↔ 0 < scene.accepted) ∧
    ∀ turn next, turn.isOwn = true → scene.step conflictRetries turn = some next →
      scene.Leaves next ∨
        Scene.Accepts start.scaler.kind start.scaler.replicas scene next := by
  have hsound := hstart.sound ⟨turns, hrun⟩
  refine ⟨⟨?_, hsound.reports.length_le, hsound.reports.length_of_stuck⟩,
    fun err herr => hsound.reports.of_mem herr, fun turn next hown hstep => ?_⟩
  · have hcount := @exec_countP_le _ _ _ (fun _ => True)
      (fun state => state.scaler.phase.turnsLeft conflictRetries) Turn.isOwn
      (fun _ _ _ _ hstep => ⟨trivial, Scene.step_turnsLeft hstep⟩) _ _ _ trivial hrun
    rw [hstart.phase] at hcount
    exact Nat.le_of_add_right_le hcount
  · have hown := Scene.step_own hsound.remembers hown hstep
    rwa [hsound.kind, hsound.replicas] at hown

private def workerScene : Scene where
  cluster :=
    { deployments :=
        ⟨[⟨"airflow-worker", 7, ⟨"u1", [("component", "worker")], 2, "v1"⟩⟩], by decide⟩
      statefulSets := ⟨[], List.nodup_nil⟩ }
  retired := fun _ _ => 0
  scaler := ⟨.deployment, "worker", 0, .lookup⟩
  messages := []
  accepted := 0

private def overtaken : List Turn :=
  [.call .ok, .call .ok,
   .other .deployment (.save "airflow-worker" ⟨"u1", [("component", "worker")], 3, "v2"⟩),
   .call .ok, .call .ok, .call .ok, .send]

theorem scaling_loses_no_update_overtaken :
    ∃ scene, exec (Scene.step 4) workerScene overtaken = some scene ∧
      scene.messages = [none] ∧ 0 < scene.accepted ∧
      scene.cluster.deployments.get "airflow-worker" =
        some ⟨"airflow-worker", 9, ⟨"u1", [("component", "worker")], 0, "v2"⟩⟩ := by
  have hcheck : (exec (Scene.step 4) workerScene overtaken).map (fun scene => decide
      (scene.messages = [none] ∧ scene.cluster.deployments.get "airflow-worker" =
        some ⟨"airflow-worker", 9, ⟨"u1", [("component", "worker")], 0, "v2"⟩⟩)) = some true := by
    decide +kernel
  obtain ⟨scene, hrun, hcheck⟩ := Option.map_eq_some_iff.mp hcheck
  obtain ⟨hmessages, hstored⟩ := of_decide_eq_true hcheck
  have hnil := (scaling_loses_no_update ⟨rfl, rfl, rfl⟩ hrun).2.1 none (by simp [hmessages])
  exact ⟨scene, hrun, hmessages, hnil.mp rfl, hstored⟩

end Runs

end QubershipAirflow.SiteManager
