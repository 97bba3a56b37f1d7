import QubershipAirflow.SiteManager.Readiness

/-! The reports on two cluster states compared: what may change between them when the
states differ in the optional components, in one ready pod, or in the pods of the
KubernetesExecutor. -/
namespace QubershipAirflow.SiteManager

open VersionedStore

section Endings

def Passes (readings : List Reading) (unknowns : Nat) : Prop :=
  .down ∉ readings ∧ .degraded ∉ readings ∧ unknowns + readings.count .unknown < 8

/-- A component that is down ends the loop, or readings that say nothing are left
at its end. -/
def EndsDown (readings : List Reading) (unknowns : Nat) : Prop :=
  (∃ first rest, readings = first ++ .down :: rest ∧ Passes first unknowns) ∨
    Passes readings unknowns ∧ 0 < unknowns + readings.count .unknown

/-- A component short of pods ends the loop, or the eighth reading that says nothing. -/
def EndsDegraded (readings : List Reading) (unknowns : Nat) : Prop :=
  ∃ first reading rest, readings = first ++ reading :: rest ∧ Passes first unknowns ∧
    (reading = .degraded ∨ reading = .unknown ∧ unknowns + first.count .unknown = 7)

theorem passes_nil {unknowns : Nat} : Passes [] unknowns ↔ unknowns < 8 := by
  simp [Passes]

theorem passes_cons {reading : Reading} {rest : List Reading} {unknowns : Nat} :
    Passes (reading :: rest) unknowns ↔
      reading = .up ∧ Passes rest unknowns ∨
        reading = .unknown ∧ Passes rest (unknowns + 1) := by
  cases reading <;> simp [Passes]
  omega

theorem settle_passes {earlier : List Reading} {unknowns : Nat} (later : List Reading)
    (h : Passes earlier unknowns) :
    settle (earlier ++ later) unknowns =
      settle later (unknowns + earlier.count .unknown) := by
  induction earlier generalizing unknowns with
  | nil => rfl
  | cons reading rest ih =>
    rcases passes_cons.mp h with ⟨rfl, hrest⟩ | ⟨rfl, hrest⟩
    · rw [List.cons_append, settle, ih hrest]
      rfl
    · have hbound : unknowns + 1 < 8 := by
        have := hrest.2.2
        omega
      rw [List.cons_append, settle, if_neg (by omega), ih hrest, List.count_cons_self]
      congr 1
      omega

theorem passes_or_stops (readings : List Reading) {unknowns : Nat} (h : unknowns < 8) :
    Passes readings unknowns ∨ ∃ first reading rest, readings = first ++ reading :: rest ∧
      Passes first unknowns ∧ (reading = .down ∨ reading = .degraded ∨
        reading = .unknown ∧ unknowns + first.count .unknown = 7) := by
  induction readings generalizing unknowns with
  | nil => exact .inl (passes_nil.mpr h)
  | cons reading rest ih =>
    cases reading with
    | down => exact .inr ⟨[], .down, rest, rfl, passes_nil.mpr h, .inl rfl⟩
    | degraded => exact .inr ⟨[], .degraded, rest, rfl, passes_nil.mpr h, .inr (.inl rfl)⟩
    | up =>
      rcases ih h with hpasses | ⟨first, reading, rest, rfl, hfirst, hends⟩
      · exact .inl (passes_cons.mpr (.inl ⟨rfl, hpasses⟩))
      · exact .inr ⟨.up :: first, reading, rest, rfl, passes_cons.mpr (.inl ⟨rfl, hfirst⟩),
          by simpa using hends⟩
    | unknown =>
      by_cases hlast : unknowns = 7
      · exact .inr ⟨[], .unknown, rest, rfl, passes_nil.mpr h, .inr (.inr ⟨rfl, by simpa⟩)⟩
      · rcases @ih (unknowns + 1) (by omega) with
          hpasses | ⟨first, reading, rest, rfl, hfirst, hends⟩
        · exact .inl (passes_cons.mpr (.inr ⟨rfl, hpasses⟩))
        · refine .inr ⟨.unknown :: first, reading, rest, rfl,
            passes_cons.mpr (.inr ⟨rfl, hfirst⟩), ?_⟩
          rw [List.count_cons_self]
          grind

theorem settle_of_passes {readings : List Reading} {unknowns : Nat}
    (h : Passes readings unknowns) :
    settle readings unknowns =
      if unknowns + readings.count .unknown = 0 then none else some .down := by
  have hsettle := settle_passes [] h
  rwa [List.append_nil] at hsettle

theorem settle_down_iff {readings : List Reading} {unknowns : Nat} (h : unknowns < 8) :
    settle readings unknowns = some .down ↔ EndsDown readings unknowns := by
  constructor
  · intro hdown
    rcases passes_or_stops readings h with hpasses | ⟨first, reading, rest, rfl, hfirst, hends⟩
    · rw [settle_of_passes hpasses] at hdown
      split_ifs at hdown with hzero
      exact .inr ⟨hpasses, Nat.pos_of_ne_zero hzero⟩
    · rw [settle_passes _ hfirst] at hdown
      rcases hends with rfl | rfl | ⟨rfl, hcount⟩
      · exact .inl ⟨first, rest, rfl, hfirst⟩
      · simp [settle] at hdown
      · simp [settle, hcount] at hdown
  · rintro (⟨first, rest, rfl, hfirst⟩ | ⟨hpasses, hpos⟩)
    · rw [settle_passes _ hfirst]
      rfl
    · rw [settle_of_passes hpasses, if_neg (by omega)]

theorem settle_degraded_iff {readings : List Reading} {unknowns : Nat} (h : unknowns < 8) :
    settle readings unknowns = some .degraded ↔ EndsDegraded readings unknowns := by
  constructor
  · intro hdegraded
    rcases passes_or_stops readings h with hpasses | ⟨first, reading, rest, rfl, hfirst, hends⟩
    · rw [settle_of_passes hpasses] at hdegraded
      split_ifs at hdegraded
      cases hdegraded
    · rw [settle_passes _ hfirst] at hdegraded
      rcases hends with rfl | hends
      · cases hdegraded
      · exact ⟨first, reading, rest, rfl, hfirst, hends⟩
  · rintro ⟨first, reading, rest, rfl, hfirst, rfl | ⟨rfl, hcount⟩⟩
    · rw [settle_passes _ hfirst]
      rfl
    · rw [settle_passes _ hfirst, settle, if_pos hcount]

theorem settle_stopped {earlier : List Reading} {unknowns : Nat} (h : unknowns < 8)
    (hstops : ¬ Passes earlier unknowns) (first second : List Reading) :
    settle (earlier ++ first) unknowns = settle (earlier ++ second) unknowns := by
  obtain hpasses | ⟨left, reading, right, rfl, hleft, hends⟩ := passes_or_stops earlier h
  · exact absurd hpasses hstops
  · rw [List.append_assoc, List.append_assoc, settle_passes _ hleft, settle_passes _ hleft]
    rcases hends with rfl | rfl | ⟨rfl, hcount⟩
    · rfl
    · rfl
    · simp [settle, hcount]

theorem settle_all_up {earlier : List Reading} (h : ∀ reading ∈ earlier, reading = .up)
    (later : List Reading) (unknowns : Nat) :
    settle (earlier ++ later) unknowns = settle later unknowns := by
  induction earlier with
  | nil => rfl
  | cons reading rest ih =>
    obtain ⟨rfl, hrest⟩ := List.forall_mem_cons.mp h
    rw [List.cons_append, settle, ih hrest]

theorem settle_degraded_succ {readings : List Reading} {unknowns : Nat}
    (h : settle readings unknowns = some .degraded) :
    settle readings (unknowns + 1) = some .degraded ∨ unknowns = 7 := by
  induction readings generalizing unknowns with
  | nil => simp [settle] at h
  | cons reading rest ih =>
    cases reading with
    | up => exact ih h
    | down => simp [settle] at h
    | degraded => exact .inl rfl
    | unknown =>
      by_cases hlast : unknowns = 7
      · exact .inr hlast
      · rw [settle, if_neg hlast] at h
        by_cases hnext : unknowns + 1 = 7
        · exact .inl (by rw [settle, if_pos hnext])
        · rw [settle, if_neg hnext]
          exact .inl ((ih h).resolve_right hnext)

end Endings

section Listings

def SameListing (p : Pod → Bool) : PodListing → PodListing → Prop
  | .ok first, .ok second => (first.filter p).Perm (second.filter p)
  | .error first, .error second => first = second
  | _, _ => False

theorem readyCount_filter {p : Pod → Bool} {component : String}
    (hp : ∀ pod : Pod, pod.labels.lookup "component" = some component → p pod = true)
    (pods : List Pod) :
    readyCount (pods.filter p) "component" component = readyCount pods "component" component := by
  simp only [readyCount, runningPods, List.filter_filter, List.countP_filter]
  refine List.countP_congr fun pod _ => ?_
  have hpod := hp pod
  simp only [Selector.selects, List.all_cons, List.all_nil, Bool.and_true]
  grind

theorem readyCount_perm {first second : List Pod} (h : first.Perm second)
    (component : String) :
    readyCount first "component" component = readyCount second "component" component :=
  (h.filter _).countP_eq _

theorem Observation.reading_same {first second : Observation} {entry : String × Int}
    {p : Pod → Bool}
    (hp : ∀ pod : Pod, pod.labels.lookup "component" = some entry.1 → p pod = true)
    (h : SameListing p (first.pods entry.1) (second.pods entry.1)) :
    first.reading entry = second.reading entry := by
  unfold Observation.reading
  unfold SameListing at h
  split at h
  · rename_i left right hleft hright
    rw [hleft, hright]
    simp only [← readyCount_filter hp left, ← readyCount_filter hp right, readyCount_perm h]
  · rename_i left right hleft hright
    rw [hleft, hright]
  · contradiction

theorem Observation.readings_congr {first second : Observation} {order : List (String × Int)}
    (h : ∀ entry ∈ order, first.considers entry = second.considers entry ∧
      (first.considers entry = true → first.reading entry = second.reading entry)) :
    first.readings order = second.readings order := by
  unfold Observation.readings
  have hfilter : order.filter first.considers = order.filter second.considers :=
    List.filter_congr fun entry hentry => (h entry hentry).1
  rw [← hfilter]
  refine List.map_congr_left fun entry hentry => ?_
  rw [List.mem_filter] at hentry
  exact (h entry hentry.1).2 hentry.2

end Listings

section Optional

def isOptional (component : String) : Bool := component = "flower" ∨ component = "statsd"

structure AgreeBeyondOptional (first second : Observation) : Prop where
  deployments : (first.deployments.objects.filter fun deployment : Workload =>
      !isOptional deployment.component) =
    second.deployments.objects.filter fun deployment : Workload => !isOptional deployment.component
  failures : ∀ component, isOptional component = false →
    first.deploymentFailure component = second.deploymentFailure component
  pods : ∀ component, isOptional component = false →
    SameListing (fun pod => !isOptional (pod.labels.read "component"))
      (first.pods component) (second.pods component)

variable {first second : Observation}

theorem AgreeBeyondOptional.isComponentDeployed (h : AgreeBeyondOptional first second)
    {component : String} (hcomponent : isOptional component = false) :
    first.isComponentDeployed component = second.isComponentDeployed component := by
  have hselect : ∀ deployments : WorkloadStore,
      deployments.select [("component", component)] =
        (deployments.objects.filter fun deployment : Workload =>
            !isOptional deployment.component).filter fun deployment : Workload =>
          Selector.selects [("component", component)] deployment.body.labels := by
    intro deployments
    rw [List.filter_filter]
    refine List.filter_congr fun deployment _ => ?_
    simp only [Selector.selects, List.all_cons, List.all_nil, Bool.and_true, Workload.component,
      Labels.read]
    grind
  unfold Observation.isComponentDeployed getDeployment
  rw [h.failures component hcomponent, hselect, hselect, h.deployments]

theorem AgreeBeyondOptional.readings (h : AgreeBeyondOptional first second)
    (order : List (String × Int)) : first.readings order = second.readings order := by
  refine Observation.readings_congr fun entry _ => ⟨?_, fun hconsiders => ?_⟩
  · have hworker : isOptional "worker" = false := by decide
    simp only [Observation.considers, h.isComponentDeployed hworker]
  · have haside := ((first.considers_iff entry).mp hconsiders).1
    have hmandatory : isOptional entry.1 = false := by simpa [isOptional] using haside
    refine Observation.reading_same (fun pod hpod => ?_) (h.pods entry.1 hmandatory)
    simp [Labels.read, hpod, hmandatory]

theorem Observation.readings_mandatory (seen : Observation) (order : List (String × Int)) :
    seen.readings (order.filter fun entry => !isOptional entry.1) = seen.readings order := by
  unfold Observation.readings
  rw [List.filter_filter]
  congr 1
  refine List.filter_congr fun entry _ => ?_
  simp only [Observation.considers, isOptional]
  grind

theorem getAirflowStatus_optional_degrades {m₁ m₂ : DRManager} {order₁ order₂ : List (String × Int)}
    (hagree : AgreeBeyondOptional first second)
    (hmaps : (order₁.filter fun entry => !isOptional entry.1) =
      order₂.filter fun entry => !isOptional entry.1) :
    (m₁.getAirflowStatus first order₁ = .down ↔ m₂.getAirflowStatus second order₂ = .down) ∧
      (m₁.getAirflowStatus first order₁ = .up →
        m₂.getAirflowStatus second order₂ = .up ∨
          m₂.getAirflowStatus second order₂ = .degraded) ∧
      (m₂.getAirflowStatus second order₂ = .up →
        m₁.getAirflowStatus first order₁ = .up ∨
          m₁.getAirflowStatus first order₁ = .degraded) := by
  have hreadings : first.readings order₁ = second.readings order₂ := by
    rw [← first.readings_mandatory, ← second.readings_mandatory, hmaps, hagree.readings]
  rw [m₁.getAirflowStatus_eq, m₂.getAirflowStatus_eq, hreadings]
  cases settle (second.readings order₂) 0 with
  | none =>
    simp only [Option.getD_none]
    split_ifs <;> simp
  | some health => cases health <;> simp

/-- Flower appears idle in one state and is not installed in the other. -/
theorem getAirflowStatus_optional_degrades_flower :
    (flowerMap.getAirflowStatus (idleFlower none) [("flower", 1), ("scheduler", 1)] = .down ↔
        flowerMap.getAirflowStatus schedulerAlone [("scheduler", 1), ("flower", 1)] = .down) ∧
      (flowerMap.getAirflowStatus (idleFlower none) [("flower", 1), ("scheduler", 1)] = .up →
        flowerMap.getAirflowStatus schedulerAlone [("scheduler", 1), ("flower", 1)] = .up ∨
          flowerMap.getAirflowStatus schedulerAlone [("scheduler", 1), ("flower", 1)] =
            .degraded) ∧
      (flowerMap.getAirflowStatus schedulerAlone [("scheduler", 1), ("flower", 1)] = .up →
        flowerMap.getAirflowStatus (idleFlower none) [("flower", 1), ("scheduler", 1)] = .up ∨
          flowerMap.getAirflowStatus (idleFlower none) [("flower", 1), ("scheduler", 1)] =
            .degraded) :=
  getAirflowStatus_optional_degrades ⟨by decide, fun _ _ => rfl, fun _ _ => .refl _⟩ (by decide)

end Optional

section OneComponent

structure AgreeBeside (component : String) (first second : Observation) : Prop where
  deployed : ∀ name, first.isComponentDeployed name = second.isComponentDeployed name
  reading : ∀ entry : String × Int, entry.1 ≠ component →
    first.reading entry = second.reading entry

variable {m : DRManager} {component : String} {first second : Observation}
  {order : List (String × Int)}

theorem Observation.isComponentDeployed_congr
    (hdeployments : first.deployments = second.deployments)
    (hfailures : first.deploymentFailure = second.deploymentFailure) (name : String) :
    first.isComponentDeployed name = second.isComponentDeployed name := by
  unfold Observation.isComponentDeployed
  rw [hdeployments, hfailures]

theorem AgreeBeside.considers (h : AgreeBeside component first second)
    (entry : String × Int) : first.considers entry = second.considers entry := by
  simp only [Observation.considers, h.deployed]

theorem AgreeBeside.readings (h : AgreeBeside component first second)
    (hnames : ∀ entry ∈ order, first.considers entry = true → entry.1 ≠ component) :
    first.readings order = second.readings order :=
  Observation.readings_congr fun entry hentry =>
    ⟨h.considers entry, fun hconsiders => h.reading entry (hnames entry hentry hconsiders)⟩

theorem Observation.readings_split (seen : Observation) {entry : String × Int}
    (hconsiders : seen.considers entry = true) (earlier later : List (String × Int)) :
    seen.readings (earlier ++ entry :: later) =
      seen.readings earlier ++ seen.reading entry :: seen.readings later := by
  simp [Observation.readings, hconsiders]

theorem ReplicaMap.other_names {replicaMap : ReplicaMap} {entry : String × Int}
    {earlier later : List (String × Int)}
    (horder : (earlier ++ entry :: later).Perm replicaMap.entries) :
    (∀ other ∈ earlier, other.1 ≠ entry.1) ∧ ∀ other ∈ later, other.1 ≠ entry.1 := by
  have hkeyed := (horder.map Prod.fst).nodup_iff.mpr replicaMap.keyed
  rw [List.map_append, List.map_cons, List.nodup_append, List.nodup_cons] at hkeyed
  obtain ⟨-, ⟨hlater, -⟩, hearlier⟩ := hkeyed
  exact ⟨fun other hother => hearlier _ (List.mem_map_of_mem hother) _ (by simp),
    fun other hother h => hlater (h ▸ List.mem_map_of_mem hother)⟩

theorem AgreeBeside.readings_split (h : AgreeBeside component first second) {replicas : Int}
    {earlier later : List (String × Int)}
    (horder : (earlier ++ (component, replicas) :: later).Perm m.componentToReplicaMap.entries)
    (hconsiders : first.considers (component, replicas) = true) :
    first.readings (earlier ++ (component, replicas) :: later) =
        first.readings earlier ++
          first.reading (component, replicas) :: first.readings later ∧
      second.readings (earlier ++ (component, replicas) :: later) =
        first.readings earlier ++
          second.reading (component, replicas) :: first.readings later := by
  obtain ⟨hearlier, hlater⟩ := ReplicaMap.other_names horder
  refine ⟨first.readings_split hconsiders _ _, ?_⟩
  rw [second.readings_split (by rwa [← h.considers]), h.readings fun entry hentry _ =>
    hearlier entry hentry, h.readings fun entry hentry _ => hlater entry hentry]

theorem AgreeBeside.isImpaired (h : AgreeBeside component first second)
    {name : String} (hname : name ≠ component) :
    m.isImpaired first name = m.isImpaired second name := by
  have hreading : first.reading (name, m.componentToReplicaMap.read name) =
      second.reading (name, m.componentToReplicaMap.read name) := h.reading _ hname
  rw [Bool.eq_iff_iff, m.isImpaired_iff_reading, m.isImpaired_iff_reading, h.deployed, hreading]

def DRManager.optionalHealth (m : DRManager) (seen : Observation) : Health :=
  if m.isImpaired seen "flower" ∨ m.isImpaired seen "statsd" then .degraded else .up

theorem DRManager.optionalHealth_ne_down (seen : Observation) :
    m.optionalHealth seen ≠ .down := by
  unfold DRManager.optionalHealth
  split_ifs <;> simp

theorem DRManager.getAirflowStatus_eq_settle (m : DRManager) (seen : Observation)
    (order : List (String × Int)) :
    m.getAirflowStatus seen order =
      (settle (seen.readings order) 0).getD (m.optionalHealth seen) :=
  m.getAirflowStatus_eq seen order

theorem AgreeBeside.optionalHealth (h : AgreeBeside component first second)
    (hmandatory : isOptional component = false) :
    m.optionalHealth first = m.optionalHealth second := by
  have hne : ∀ name, isOptional name = true → name ≠ component := by
    rintro name hname rfl
    simp [hname] at hmandatory
  rw [DRManager.optionalHealth, DRManager.optionalHealth, h.isImpaired (hne _ (by decide)),
    h.isImpaired (hne _ (by decide))]

theorem Observation.mandatory_of_considers {seen : Observation} {entry : String × Int}
    (h : seen.considers entry = true) : isOptional entry.1 = false := by
  simpa [isOptional] using ((seen.considers_iff entry).mp h).1

end OneComponent

section OnePodMore

def Health.level : Health → Nat
  | .down => 0
  | .degraded => 1
  | .up => 2

instance : LE Health := ⟨fun first second => first.level ≤ second.level⟩

instance (first second : Health) : Decidable (first ≤ second) :=
  inferInstanceAs (Decidable (first.level ≤ second.level))

structure OneMoreReady (component : String) (before after : Observation) : Prop where
  deployments : after.deployments = before.deployments
  failures : after.deploymentFailure = before.deploymentFailure
  listed : ∀ name, ∃ pods pods', before.pods name = .ok pods ∧ after.pods name = .ok pods' ∧
    readyCount pods' "component" name =
      readyCount pods "component" name + if name = component then 1 else 0

variable {m : DRManager} {component : String} {before after : Observation}
  {order : List (String × Int)}

theorem OneMoreReady.beside (h : OneMoreReady component before after) :
    AgreeBeside component before after where
  deployed := Observation.isComponentDeployed_congr h.deployments.symm h.failures.symm
  reading := by
    intro entry hname
    obtain ⟨pods, pods', hpods, hpods', hcount⟩ := h.listed entry.1
    simp only [Observation.reading, hpods, hpods', hcount, if_neg hname, Nat.add_zero]

def Observation.lacksOne (seen : Observation) (component : String) (replicas : Int) : Prop :=
  ∃ pods, seen.pods component = .ok pods ∧ 0 < readyCount pods "component" component ∧
    (readyCount pods "component" component : Int) + 1 = replicas

theorem OneMoreReady.reading_same (h : OneMoreReady component before after) (replicas : Int) :
    before.reading (component, replicas) = .down ∨
    before.reading (component, replicas) = after.reading (component, replicas) ∨
    (before.reading (component, replicas) = .degraded ∧
      after.reading (component, replicas) = .up) ∨
    (before.reading (component, replicas) = .up ∧
      after.reading (component, replicas) = .unknown) := by
  obtain ⟨pods, pods', hpods, hpods', hcount⟩ := h.listed component
  rw [if_pos rfl] at hcount
  simp only [Observation.reading, hpods, hpods', hcount]
  split_ifs <;> first | omega | simp

theorem OneMoreReady.lacksOne (h : OneMoreReady component before after) {replicas : Int}
    (hdegraded : before.reading (component, replicas) = .degraded)
    (hup : after.reading (component, replicas) = .up) : before.lacksOne component replicas := by
  obtain ⟨pods, pods', hpods, hpods', hcount⟩ := h.listed component
  rw [if_pos rfl] at hcount
  simp only [Observation.reading, hpods, hpods', hcount] at hdegraded hup
  refine ⟨pods, hpods, ?_⟩
  split_ifs at hdegraded hup
  omega

theorem OneMoreReady.reading_up (h : OneMoreReady component before after) {replicas : Int}
    (hup : before.reading (component, replicas) = .up) :
    after.reading (component, replicas) = .unknown := by
  obtain ⟨pods, pods', hpods, hpods', hcount⟩ := h.listed component
  rw [if_pos rfl] at hcount
  obtain ⟨hpos, listed, hlisted, hready⟩ := (before.reading_up_iff (component, replicas)).mp hup
  rw [hpods] at hlisted
  cases hlisted
  dsimp only at hpos hready
  simp only [Observation.reading, hpods', hcount]
  split_ifs <;> first | rfl | omega

theorem OneMoreReady.reading_lacksOne (h : OneMoreReady component before after)
    {replicas : Int} (hlacks : before.lacksOne component replicas) :
    before.reading (component, replicas) = .degraded ∧
      after.reading (component, replicas) = .up := by
  obtain ⟨pods, pods', hpods, hpods', hcount⟩ := h.listed component
  rw [if_pos rfl] at hcount
  obtain ⟨listed, hlisted, hpos, hready⟩ := hlacks
  rw [hpods] at hlisted
  cases hlisted
  simp only [Observation.reading, hpods, hpods', hcount]
  constructor
  · split_ifs <;> first | rfl | omega
  · split_ifs <;> first | rfl | omega

/-- All is as configured, the component of the new pod included. -/
structure DRManager.OneTooMany (m : DRManager) (seen : Observation) (component : String) :
    Prop where
  mandatory : ∀ entry ∈ m.componentToReplicaMap.entries, seen.considers entry →
    seen.asConfigured entry.1 entry.2
  counted : (∃ replicas, (component, replicas) ∈ m.componentToReplicaMap.entries ∧
      seen.considers (component, replicas)) ∨
    isOptional component ∧ seen.isComponentDeployed component ∧
      ∀ name, isOptional name → seen.isComponentDeployed name →
        seen.asConfigured name (m.componentToReplicaMap.read name)

/-- The new pod is the last that was missing, and another component is down or has
pods in surplus. The loop left off as degraded before it came to that one. -/
def Observation.LaysBare (seen : Observation) (component : String)
    (order : List (String × Int)) : Prop :=
  ∃ earlier later replicas, order = earlier ++ (component, replicas) :: later ∧
    seen.considers (component, replicas) ∧ seen.lacksOne component replicas ∧
    Passes (seen.readings earlier) 0 ∧
    EndsDown (seen.readings later) ((seen.readings earlier).count .unknown)

theorem Health.down_le (health : Health) : .down ≤ health := Nat.zero_le _

theorem Health.le_refl (health : Health) : health ≤ health := Nat.le_refl _

/-- A changed reading makes the answer worse in two cases only. `rest` is the answer
where all readings are up. -/
theorem settle_worse {earlier later : List Reading} {first second : Reading} {rest : Health}
    (hrest : rest ≠ .down)
    (hnext : first = .down ∨ first = second ∨ (first = .degraded ∧ second = .up) ∨
      (first = .up ∧ second = .unknown))
    (hworse : ¬ (settle (earlier ++ first :: later) 0).getD rest ≤
      (settle (earlier ++ second :: later) 0).getD rest) :
    Passes earlier 0 ∧
      (first = .degraded ∧ second = .up ∧ EndsDown later (earlier.count .unknown) ∨
        first = .up ∧ ∀ reading ∈ earlier ++ first :: later, reading = .up) := by
  by_cases hpasses : Passes earlier 0
  · have hfew : earlier.count .unknown < 8 := by simpa using hpasses.2.2
    rw [settle_passes _ hpasses, settle_passes _ hpasses, Nat.zero_add] at hworse
    refine ⟨hpasses, ?_⟩
    rcases hnext with rfl | rfl | ⟨rfl, rfl⟩ | ⟨rfl, rfl⟩
    · exact absurd (Health.down_le _) hworse
    · exact absurd (Health.le_refl _) hworse
    · refine .inl ⟨rfl, rfl, (settle_down_iff hfew).mp ?_⟩
      simp only [settle, Option.getD_some] at hworse
      cases hsettle : settle later (earlier.count .unknown) with
      | none =>
        rw [hsettle] at hworse
        cases rest <;> first | exact absurd rfl hrest | exact absurd (by decide) hworse
      | some health =>
        rw [hsettle, Option.getD_some] at hworse
        cases health <;> first | rfl | exact absurd (by decide) hworse
    · refine .inr ⟨rfl, ?_⟩
      simp only [settle] at hworse
      cases hsettle : settle later (earlier.count .unknown) with
      | none =>
        obtain ⟨hzero, hlater⟩ := settle_eq_none_iff.mp hsettle
        have hall : settle (earlier ++ .up :: later) 0 = none := by
          rw [settle_passes _ hpasses, hzero]
          exact settle_eq_none_iff.mpr ⟨rfl, by simpa using hlater⟩
        exact (settle_eq_none_iff.mp hall).2
      | some health =>
        rw [hsettle] at hworse
        cases health with
        | down => exact absurd (Health.down_le _) hworse
        | up => exact absurd hsettle (settle_ne_up _ _)
        | degraded =>
          split_ifs at hworse with hlast
          · exact absurd (Health.le_refl _) hworse
          · rw [(settle_degraded_succ hsettle).resolve_right hlast] at hworse
            exact absurd (Health.le_refl _) hworse
  · rw [settle_stopped (by omega) hpasses (first :: later) (second :: later)] at hworse
    exact absurd (Health.le_refl _) hworse

theorem DRManager.optionalHealth_up_iff_unimpaired {seen : Observation} :
    m.optionalHealth seen = .up ↔ ∀ name, isOptional name → m.isImpaired seen name = false := by
  simp [DRManager.optionalHealth, isOptional]

theorem DRManager.optionalHealth_up_iff {seen : Observation} :
    m.optionalHealth seen = .up ↔ ∀ name, isOptional name → seen.isComponentDeployed name →
      seen.asConfigured name (m.componentToReplicaMap.read name) := by
  rw [m.optionalHealth_up_iff_unimpaired]
  simp only [← Bool.not_eq_true, m.isImpaired_iff_reading, Ne, seen.reading_up_iff, not_and,
    not_not]

theorem OneMoreReady.optionalHealth_worse (h : OneMoreReady component before after)
    (hworse : ¬ m.optionalHealth before ≤ m.optionalHealth after) :
    isOptional component ∧ before.isComponentDeployed component ∧
      ∀ name, isOptional name → before.isComponentDeployed name →
        before.asConfigured name (m.componentToReplicaMap.read name) := by
  have hup : m.optionalHealth before = .up := by
    cases hhealth : m.optionalHealth before with
    | up => rfl
    | down => exact absurd hhealth (m.optionalHealth_ne_down before)
    | degraded =>
      rw [hhealth] at hworse
      cases hafter : m.optionalHealth after <;> rw [hafter] at hworse
      · exact absurd hafter (m.optionalHealth_ne_down after)
      · exact absurd (by decide) hworse
      · exact absurd (by decide) hworse
  have hconfigured := m.optionalHealth_up_iff.mp hup
  obtain ⟨name, hname, himpaired⟩ : ∃ name, isOptional name ∧ m.isImpaired after name := by
    by_contra hnone
    have hafter : m.optionalHealth after = .up :=
      m.optionalHealth_up_iff_unimpaired.mpr fun name hname =>
        Bool.eq_false_iff.mpr fun himpaired => hnone ⟨name, hname, himpaired⟩
    refine hworse ?_
    rw [hup, hafter]
    exact Health.le_refl _
  have hsame : name = component := by
    by_contra hne
    rw [← h.beside.isImpaired hne, m.isImpaired_iff_reading] at himpaired
    exact himpaired.2 ((before.reading_up_iff _).mpr (hconfigured name hname himpaired.1))
  subst hsame
  rw [m.isImpaired_iff_reading, ← h.beside.deployed] at himpaired
  exact ⟨hname, himpaired.1, hconfigured⟩

theorem Observation.readings_up_iff {seen : Observation}
    (horder : order.Perm m.componentToReplicaMap.entries) :
    (∀ reading ∈ seen.readings order, reading = .up) ↔
      ∀ entry ∈ m.componentToReplicaMap.entries, seen.considers entry →
        seen.asConfigured entry.1 entry.2 := by
  simp only [Observation.readings, List.forall_mem_map, List.mem_filter, seen.reading_up_iff,
    horder.mem_iff]
  grind

theorem DRManager.OneTooMany.worse (htoo : m.OneTooMany before component)
    (horder : order.Perm m.componentToReplicaMap.entries)
    (h : OneMoreReady component before after) :
    ¬ m.getAirflowStatus before order ≤ m.getAirflowStatus after order := by
  have hup := (Observation.readings_up_iff horder).mpr htoo.mandatory
  rw [m.getAirflowStatus_eq_settle, m.getAirflowStatus_eq_settle, settle_eq_none_iff.mpr ⟨rfl, hup⟩]
  rcases htoo.counted with ⟨replicas, hentry, hconsiders⟩ | ⟨hoptional, hdeployed, hconfigured⟩
  · obtain ⟨earlier, later, rfl⟩ := List.append_of_mem (horder.mem_iff.mpr hentry)
    obtain ⟨hbefore, hafter⟩ := h.beside.readings_split horder hconsiders
    rw [hbefore] at hup
    rw [hafter, h.reading_up (hup _ (by simp))]
    have hearlier : ∀ reading ∈ before.readings earlier, reading = .up :=
      fun reading hreading => hup reading (by simp [hreading])
    have hlater : ∀ reading ∈ before.readings later, reading = .up :=
      fun reading hreading => hup reading (by simp [hreading])
    have hdown : settle (before.readings earlier ++ .unknown :: before.readings later) 0 =
        some .down := by
      have hend := settle_all_up hlater [] 1
      rw [List.append_nil] at hend
      rw [settle_all_up hearlier, settle, if_neg (by omega), hend]
      rfl
    have hne := m.optionalHealth_ne_down before
    rw [hdown, Option.getD_none, Option.getD_some]
    cases hhealth : m.optionalHealth before <;>
      first | exact absurd hhealth hne | decide
  · have hnames : ∀ entry ∈ order, before.considers entry = true → entry.1 ≠ component := by
      rintro entry - hconsiders rfl
      simp [Observation.mandatory_of_considers hconsiders] at hoptional
    rw [← h.beside.readings hnames, settle_eq_none_iff.mpr ⟨rfl, hup⟩]
    have himpaired : m.isImpaired after component = true := by
      have hbefore := (before.reading_up_iff
        (component, m.componentToReplicaMap.read component)).mpr
          (hconfigured component hoptional hdeployed)
      have hreading := h.reading_up hbefore
      rw [m.isImpaired_iff_reading, ← h.beside.deployed, hreading]
      exact ⟨hdeployed, by simp⟩
    have hone : m.isImpaired after "flower" = true ∨ m.isImpaired after "statsd" = true := by
      rcases (by simpa [isOptional] using hoptional : component = "flower" ∨
        component = "statsd") with rfl | rfl
      · exact .inl himpaired
      · exact .inr himpaired
    have hup : m.optionalHealth before = .up := m.optionalHealth_up_iff.mpr hconfigured
    have hdegraded : m.optionalHealth after = .degraded := if_pos hone
    rw [Option.getD_none, Option.getD_none, hup, hdegraded]
    decide

theorem Observation.LaysBare.worse (hbare : before.LaysBare component order)
    (horder : order.Perm m.componentToReplicaMap.entries)
    (h : OneMoreReady component before after) :
    ¬ m.getAirflowStatus before order ≤ m.getAirflowStatus after order := by
  obtain ⟨earlier, later, replicas, rfl, hconsiders, hlacks, hpasses, hends⟩ := hbare
  obtain ⟨hbefore, hafter⟩ := h.beside.readings_split horder hconsiders
  obtain ⟨hdegraded, hup⟩ := h.reading_lacksOne hlacks
  have hfew : (before.readings earlier).count .unknown < 8 := by simpa using hpasses.2.2
  have hdown : settle (.up :: before.readings later) ((before.readings earlier).count .unknown) =
      some .down := by
    rw [settle]
    exact (settle_down_iff hfew).mpr hends
  rw [m.getAirflowStatus_eq_settle, m.getAirflowStatus_eq_settle, hbefore, hafter, hdegraded, hup,
    settle_passes _ hpasses, settle_passes _ hpasses, Nat.zero_add, hdown]
  simp only [settle, Option.getD_some]
  decide

theorem getAirflowStatus_monotone_iff (horder : order.Perm m.componentToReplicaMap.entries)
    (h : OneMoreReady component before after) :
    m.getAirflowStatus before order ≤ m.getAirflowStatus after order ↔
      ¬ (m.OneTooMany before component ∨ before.LaysBare component order) := by
  constructor
  · rintro hle (htoo | hbare)
    · exact htoo.worse horder h hle
    · exact hbare.worse horder h hle
  · intro hnone
    by_contra hworse
    refine hnone ?_
    rw [m.getAirflowStatus_eq_settle, m.getAirflowStatus_eq_settle] at hworse
    by_cases hcounted : ∃ entry ∈ order, before.considers entry = true ∧ entry.1 = component
    · obtain ⟨⟨name, replicas⟩, hentry, hconsiders, hname⟩ := hcounted
      obtain rfl : name = component := hname
      obtain ⟨earlier, later, rfl⟩ := List.append_of_mem hentry
      obtain ⟨hbefore, hafter⟩ := h.beside.readings_split horder hconsiders
      have hsame := h.beside.optionalHealth (m := m) (Observation.mandatory_of_considers hconsiders)
      rw [hbefore, hafter, ← hsame] at hworse
      obtain ⟨hpasses, ⟨hdegraded, hup, hends⟩ | ⟨hup, hall⟩⟩ :=
        settle_worse (m.optionalHealth_ne_down before) (h.reading_same replicas) hworse
      · exact .inr ⟨earlier, later, replicas, rfl, hconsiders, h.lacksOne hdegraded hup,
          hpasses, hends⟩
      · refine .inl ⟨(Observation.readings_up_iff horder).mp (hbefore ▸ hall), .inl
          ⟨replicas, horder.mem_iff.mp hentry, hconsiders⟩⟩
    · have hnames : ∀ entry ∈ order, before.considers entry = true → entry.1 ≠ component :=
        fun entry hentry hconsiders hname => hcounted ⟨entry, hentry, hconsiders, hname⟩
      rw [← h.beside.readings hnames] at hworse
      cases hsettle : settle (before.readings order) 0 with
      | some health =>
        rw [hsettle] at hworse
        exact absurd (Health.le_refl _) hworse
      | none =>
        rw [hsettle, Option.getD_none, Option.getD_none] at hworse
        obtain ⟨hoptional, hdeployed, hconfigured⟩ := h.optionalHealth_worse hworse
        exact .inl ⟨(Observation.readings_up_iff horder).mp (settle_eq_none_iff.mp hsettle).2,
          .inr ⟨hoptional, hdeployed, hconfigured⟩⟩

def schedulerOnly : DRManager := ⟨⟨[("scheduler", 1)], by decide⟩, 0⟩

def runningSchedulers (names : List String) : Observation where
  deployments := ⟨[], List.nodup_nil⟩
  deploymentFailure := fun _ => none
  pods := fun _ => .ok (names.map fun name =>
    ⟨name, [("component", "scheduler")], .running, [⟨"Ready", "True"⟩]⟩)

/-- A rolling update runs a new pod beside the old one. -/
theorem runningSchedulers_more (name : String) (names : List String) :
    OneMoreReady "scheduler" (runningSchedulers names) (runningSchedulers (name :: names)) := by
  refine ⟨rfl, rfl, fun component => ⟨_, _, rfl, rfl, ?_⟩⟩
  have hready : isReady ⟨name, [("component", "scheduler")], .running, [⟨"Ready", "True"⟩]⟩ =
      true := rfl
  by_cases hcomponent : component = "scheduler"
  · subst hcomponent
    simp [readyCount, runningPods, Selector.selects, hready]
  · simp [readyCount, runningPods, Selector.selects, Ne.symm hcomponent, hcomponent]

theorem getAirflowStatus_monotone_iff_schedulers :
    schedulerOnly.getAirflowStatus (runningSchedulers []) [("scheduler", 1)] ≤
        schedulerOnly.getAirflowStatus (runningSchedulers ["scheduler-0"]) [("scheduler", 1)] ↔
      ¬ (schedulerOnly.OneTooMany (runningSchedulers []) "scheduler" ∨
        (runningSchedulers []).LaysBare "scheduler" [("scheduler", 1)]) :=
  getAirflowStatus_monotone_iff (.refl _) (runningSchedulers_more "scheduler-0" [])

theorem getAirflowStatus_down_in_surplus :
    ¬ ∀ (m : DRManager) (component : String) (before after : Observation)
        (order : List (String × Int)),
      order.Perm m.componentToReplicaMap.entries → OneMoreReady component before after →
      m.getAirflowStatus before order ≤ m.getAirflowStatus after order := by
  intro h
  have hle := h schedulerOnly "scheduler" _ _ [("scheduler", 1)] (.refl _)
    (runningSchedulers_more "scheduler-1" ["scheduler-0"])
  exact absurd hle (by decide)

end OnePodMore

end QubershipAirflow.SiteManager
