import QubershipAirflow.SiteManager.Scaling

/-! The health report. The loop ranges over a Go map, so it may visit the entries
in any order; it multiplies their status codes and stops at the first product that
is not positive. The product is an `int`: it wraps at 64 bits. -/
namespace QubershipAirflow.SiteManager

/-- `AirflowStatus.Status` -/
inductive Health where
  | down
  | degraded
  | up
  deriving DecidableEq, Repr

/-- The cluster while one report is computed: Deployments and the failure of the
listing that looks a component's up, and the answer to each pod listing. -/
structure Observation where
  deployments : WorkloadStore
  deploymentFailure : String → Option Error
  pods : String → PodListing

def Observation.isComponentDeployed (seen : Observation) (labelValue : String) : Bool :=
  match getDeployment seen.deployments "component" labelValue
      (seen.deploymentFailure labelValue) with
  | .error _ => false
  | .ok deployment => deployment.body.uid ≠ ""

def Observation.getComponentStatus (seen : Observation) (componentName : String)
    (replicas : Int) : Int :=
  SiteManager.getComponentStatus (seen.pods componentName) "component" componentName replicas

/-- The `for` loop of `getAirflowStatus` over the entries still to be visited. -/
def Observation.visit (seen : Observation) :
    List (String × Int) → Int64 → Health → Int64 × Health
  | [], componentsStatus, status => (componentsStatus, status)
  | (componentName, replicas) :: rest, componentsStatus, status =>
      if componentName = "flower" ∨ componentName = "statsd" then
        seen.visit rest componentsStatus status
      else if componentName = "worker" ∧ !seen.isComponentDeployed "worker" then
        seen.visit rest componentsStatus status
      else
        let componentsStatus :=
          componentsStatus * Int64.ofInt (seen.getComponentStatus componentName replicas)
        if componentsStatus = 0 then (componentsStatus, .down)
        else if componentsStatus < 0 then (componentsStatus, .degraded)
        else seen.visit rest componentsStatus status

def DRManager.isImpaired (m : DRManager) (seen : Observation) (componentName : String) :
    Bool :=
  seen.isComponentDeployed componentName &&
    seen.getComponentStatus componentName (m.componentToReplicaMap.read componentName) ≠ 1

/-- `getAirflowStatus` when the loop visits the entries in the given order. -/
def DRManager.getAirflowStatus (m : DRManager) (seen : Observation)
    (order : List (String × Int)) : Health :=
  let (componentsStatus, status) := seen.visit order 1 .down
  let status := if componentsStatus = 1 then .up else status
  let status :=
    if m.isImpaired seen "flower" ∧ componentsStatus = 1 then .degraded else status
  if m.isImpaired seen "statsd" ∧ componentsStatus = 1 then .degraded else status

section Readings

/-- What one listing says about a component. `unknown` is a failed listing or more
ready pods than configured. -/
inductive Reading where
  | up
  | down
  | degraded
  | unknown
  deriving DecidableEq, Repr

def Reading.code : Reading → Int
  | .up => 1
  | .down => 0
  | .degraded => -10
  | .unknown => 10000

def Observation.reading (seen : Observation) (entry : String × Int) : Reading :=
  match seen.pods entry.1 with
  | .error _ => .unknown
  | .ok pods =>
      let readyPods : Int := readyCount pods "component" entry.1
      if readyPods = 0 then .down
      else if readyPods < entry.2 then .degraded
      else if readyPods = entry.2 then .up
      else .unknown

theorem Observation.getComponentStatus_eq (seen : Observation) (entry : String × Int) :
    seen.getComponentStatus entry.1 entry.2 = (seen.reading entry).code := by
  unfold Observation.getComponentStatus SiteManager.getComponentStatus Observation.reading
  cases seen.pods entry.1 with
  | error err => rfl
  | ok pods =>
    simp only
    split_ifs <;> first | rfl | omega

def Observation.considers (seen : Observation) (entry : String × Int) : Bool :=
  entry.1 ≠ "flower" && entry.1 ≠ "statsd" &&
    (entry.1 ≠ "worker" || seen.isComponentDeployed "worker")

def Observation.readings (seen : Observation) (order : List (String × Int)) : List Reading :=
  (order.filter seen.considers).map seen.reading

/-- The answer of the loop after `unknowns` readings of 10000: `none` when it leaves
the product at 1, and Flower and StatsD decide. The eighth 10000 overflows. -/
def settle : List Reading → Nat → Option Health
  | [], unknowns => if unknowns = 0 then none else some .down
  | .up :: rest, unknowns => settle rest unknowns
  | .down :: _, _ => some .down
  | .degraded :: _, _ => some .degraded
  | .unknown :: rest, unknowns =>
      if unknowns = 7 then some .degraded else settle rest (unknowns + 1)

def verdict (result : Int64 × Health) : Option Health :=
  if result.1 = 1 then none else some result.2

theorem verdict_negative {product : Int64} {other : Int64 × Health} (h : product < 0) :
    verdict (if product = 0 then (product, .down)
      else if product < 0 then (product, .degraded) else other) = some .degraded := by
  have hzero : product ≠ 0 := by
    rintro rfl
    exact absurd h (by decide)
  have hone : product ≠ 1 := by
    rintro rfl
    exact absurd h (by decide)
  simp [verdict, h, hzero, hone]

def factor : Nat → Int64
  | 0 => 1
  | unknowns + 1 => factor unknowns * 10000

theorem factor_pos : ∀ n < 8, 0 < factor n := by decide

theorem factor_degraded : ∀ n < 8, factor n * -10 < 0 := by decide

theorem factor_overflows : factor 8 < 0 := by decide

theorem factor_eq_one : ∀ n < 8, factor n = 1 → n = 0 := by decide

theorem Observation.considers_iff (seen : Observation) (entry : String × Int) :
    seen.considers entry = true ↔ ¬ (entry.1 = "flower" ∨ entry.1 = "statsd") ∧
      ¬ (entry.1 = "worker" ∧ !seen.isComponentDeployed "worker") := by
  simp only [considers]
  grind

theorem Observation.visit_skips (seen : Observation) {entry : String × Int}
    {order : List (String × Int)} (product : Int64) (status : Health)
    (h : seen.considers entry = false) :
    seen.visit (entry :: order) product status = seen.visit order product status := by
  rw [← Bool.not_eq_true, seen.considers_iff] at h
  simp only [Observation.visit]
  by_cases haside : entry.1 = "flower" ∨ entry.1 = "statsd"
  · rw [if_pos haside]
  · by_cases hworker : entry.1 = "worker" ∧ !seen.isComponentDeployed "worker"
    · rw [if_neg haside, if_pos hworker]
    · exact absurd ⟨haside, hworker⟩ h

theorem Observation.visit_takes (seen : Observation) {entry : String × Int}
    {order : List (String × Int)} (product : Int64) (status : Health)
    (h : seen.considers entry = true) :
    seen.visit (entry :: order) product status =
      let product := product * Int64.ofInt (seen.reading entry).code
      if product = 0 then (product, .down)
      else if product < 0 then (product, .degraded)
      else seen.visit order product status := by
  obtain ⟨haside, hworker⟩ := (seen.considers_iff entry).mp h
  simp only [Observation.visit, if_neg haside, if_neg hworker, seen.getComponentStatus_eq entry]

/-- The loop over the entries is `settle` over their readings. -/
theorem Observation.visit_settles (seen : Observation) (order : List (String × Int))
    {unknowns : Nat} (h : unknowns < 8) :
    verdict (seen.visit order (factor unknowns) .down) = settle (seen.readings order) unknowns := by
  induction order generalizing unknowns with
  | nil =>
    by_cases hzero : unknowns = 0
    · simp [hzero, visit, readings, settle, verdict, factor]
    · have hone : factor unknowns ≠ 1 := fun hone => hzero (factor_eq_one _ h hone)
      simp [hzero, hone, visit, readings, settle, verdict]
  | cons entry rest ih =>
    cases hconsiders : seen.considers entry with
    | false =>
      rw [seen.visit_skips _ _ hconsiders, ih h]
      simp [readings, hconsiders]
    | true =>
      rw [seen.visit_takes _ _ hconsiders]
      have hreadings : seen.readings (entry :: rest) =
          seen.reading entry :: seen.readings rest := by
        simp [readings, hconsiders]
      rw [hreadings]
      cases hreading : seen.reading entry with
      | up =>
        have hsame : factor unknowns * Int64.ofInt Reading.up.code = factor unknowns := by
          simp [Reading.code]
        have hpos := factor_pos unknowns h
        simp only [hsame, settle]
        rw [if_neg (by rintro hzero; simp [hzero] at hpos), if_neg (Int64.lt_asymm hpos), ih h]
      | down =>
        have hzero : factor unknowns * Int64.ofInt Reading.down.code = 0 := by
          simp [Reading.code]
        simp [hzero, settle, verdict]
      | degraded =>
        have hneg : factor unknowns * Int64.ofInt Reading.degraded.code < 0 :=
          factor_degraded unknowns h
        simp only [settle]
        exact verdict_negative hneg
      | unknown =>
        have hnext : factor unknowns * Int64.ofInt Reading.unknown.code =
            factor (unknowns + 1) := rfl
        simp only [hnext, settle]
        by_cases hlast : unknowns = 7
        · rw [if_pos hlast, hlast]
          exact verdict_negative factor_overflows
        · have hpos := factor_pos (unknowns + 1) (by omega)
          rw [if_neg (by rintro hzero; simp [hzero] at hpos), if_neg (Int64.lt_asymm hpos),
            if_neg hlast, ih (by omega)]

theorem DRManager.getAirflowStatus_eq (m : DRManager) (seen : Observation)
    (order : List (String × Int)) :
    m.getAirflowStatus seen order = (settle (seen.readings order) 0).getD
      (if m.isImpaired seen "flower" ∨ m.isImpaired seen "statsd" then .degraded else .up) := by
  have hsettles : verdict (seen.visit order 1 .down) = settle (seen.readings order) 0 :=
    seen.visit_settles order (by decide : 0 < 8)
  rw [← hsettles]
  unfold getAirflowStatus verdict
  by_cases hone : (seen.visit order 1 .down).1 = 1
  · simp only [hone, and_true, if_true, Option.getD_none]
    grind
  · simp [hone]

section Orders

/-- The readings of two kinds that end the loop with different answers are both
there. Listings that say nothing count as the second kind from the eighth on. -/
def Mixed (readings : List Reading) : Prop :=
  .down ∈ readings ∧ (.degraded ∈ readings ∨ 8 ≤ readings.count .unknown)

/-- Without a component that is down, the answer is a function of what the
readings contain. -/
theorem settle_of_none_down {readings : List Reading} {unknowns : Nat} (h : unknowns < 8)
    (hdown : .down ∉ readings) :
    settle readings unknowns =
      if .degraded ∈ readings ∨ 8 ≤ unknowns + readings.count .unknown then some .degraded
      else if unknowns + readings.count .unknown = 0 then none else some .down := by
  induction readings generalizing unknowns with
  | nil =>
    have hsmall : ¬ 8 ≤ unknowns := by omega
    by_cases hzero : unknowns = 0 <;> simp [settle, hsmall, hzero]
  | cons reading rest ih =>
    cases reading with
    | up => simp_all [settle]
    | down => simp at hdown
    | degraded => simp [settle]
    | unknown =>
      have hmem : .degraded ∈ Reading.unknown :: rest ↔ .degraded ∈ rest := by simp
      simp only [settle, List.count_cons_self, hmem]
      by_cases hlast : unknowns = 7
      · rw [if_pos hlast, if_pos (Or.inr (by omega))]
      · have hadd : unknowns + (rest.count .unknown + 1) =
            unknowns + 1 + rest.count .unknown := by omega
        rw [if_neg hlast, hadd]
        exact ih (by omega) (by simpa using hdown)

/-- A component that is down decides, unless something ends the loop before it. -/
theorem settle_of_down {readings : List Reading} {unknowns : Nat}
    (hdown : .down ∈ readings) (hdegraded : .degraded ∉ readings)
    (hfew : unknowns + readings.count .unknown < 8) :
    settle readings unknowns = some .down := by
  induction readings generalizing unknowns with
  | nil => simp at hdown
  | cons reading rest ih =>
    cases reading with
    | up => exact ih (by simpa using hdown) (by simpa using hdegraded) (by simpa using hfew)
    | down => rfl
    | degraded => simp at hdegraded
    | unknown =>
      rw [List.count_cons_self] at hfew
      rw [settle, if_neg (by omega)]
      exact ih (by simpa using hdown) (by simpa using hdegraded) (by omega)

/-- What ends the loop as degraded ends it before anything that follows. -/
theorem settle_append {first second : List Reading} {unknowns : Nat} (h : unknowns < 8)
    (hdown : .down ∉ first)
    (hends : .degraded ∈ first ∨ 8 ≤ unknowns + first.count .unknown) :
    settle (first ++ second) unknowns = some .degraded := by
  induction first generalizing unknowns with
  | nil => simp at hends; omega
  | cons reading rest ih =>
    cases reading with
    | up => exact ih h (by simpa using hdown) (by simpa using hends)
    | down => simp at hdown
    | degraded => rfl
    | unknown =>
      rw [List.count_cons_self] at hends
      rw [List.cons_append, settle]
      by_cases hlast : unknowns = 7
      · rw [if_pos hlast]
      · rw [if_neg hlast]
        refine ih (by omega) (by simpa using hdown) ?_
        rcases hends with hmem | hcount
        · exact .inl (by simpa using hmem)
        · exact .inr (by omega)

theorem settle_perm {first second : List Reading} (hperm : first.Perm second)
    (hmixed : ¬ Mixed first) : settle first 0 = settle second 0 := by
  by_cases hdown : .down ∈ first
  · have hrest : .degraded ∉ first ∧ first.count .unknown < 8 := by
      unfold Mixed at hmixed
      grind
    rw [settle_of_down hdown hrest.1 (by omega), settle_of_down (hperm.mem_iff.mp hdown)
      (fun h => hrest.1 (hperm.mem_iff.mpr h)) (by rw [← hperm.count_eq]; omega)]
  · rw [settle_of_none_down (by omega) hdown,
      settle_of_none_down (by omega) (fun h => hdown (hperm.mem_iff.mpr h))]
    simp only [hperm.count_eq, hperm.mem_iff]

/-- Mixed readings can be put in an order that answers degraded and in one that
answers down. -/
theorem settle_mixed {readings : List Reading} (hmixed : Mixed readings) :
    settle (readings.filter (· ≠ .down) ++ readings.filter (! · ≠ .down)) 0 =
        some .degraded ∧
      settle (readings.filter (· = .down) ++ readings.filter (! · = .down)) 0 =
        some .down := by
  obtain ⟨hdown, hends⟩ := hmixed
  constructor
  · refine settle_append (by omega) (by simp) ?_
    rw [Nat.zero_add, List.count_filter (by simp)]
    simpa using hends
  · have hmem : Reading.down ∈ readings.filter (· = .down) := by simpa using hdown
    have hall : ∀ reading ∈ readings.filter (· = .down), reading = .down := by simp
    cases hfilter : readings.filter (· = .down) with
    | nil => simp [hfilter] at hmem
    | cons reading rest =>
      have hreading := hall reading (by simp [hfilter])
      subst hreading
      rfl

end Orders

end Readings

section OrderIndependence

variable (m : DRManager) (seen : Observation)

theorem Observation.readings_perm {first second : List (String × Int)}
    (hperm : first.Perm second) : (seen.readings first).Perm (seen.readings second) :=
  (hperm.filter _).map _

/-- Every order of the readings comes from an order of the entries. -/
theorem Observation.readings_partition (order : List (String × Int)) (p : Reading → Bool) :
    seen.readings (order.filter (p ∘ seen.reading) ++
        order.filter fun entry => !(p ∘ seen.reading) entry) =
      (seen.readings order).filter p ++ (seen.readings order).filter fun reading => !p reading := by
  simp only [readings, List.filter_append, List.map_append, List.filter_map, List.filter_filter,
    Function.comp_def, Bool.and_comm]

theorem getAirflowStatus_order_independent_iff :
    (∀ first second : List (String × Int),
        first.Perm m.componentToReplicaMap.entries →
        second.Perm m.componentToReplicaMap.entries →
        m.getAirflowStatus seen first = m.getAirflowStatus seen second) ↔
      ¬ Mixed (seen.readings m.componentToReplicaMap.entries) := by
  set entries := m.componentToReplicaMap.entries
  constructor
  · intro hsame hmixed
    obtain ⟨hdegraded, hdown⟩ := settle_mixed hmixed
    have h := hsame _ _
      (List.filter_append_perm ((fun reading => decide (reading ≠ .down)) ∘ seen.reading) entries)
      (List.filter_append_perm ((fun reading => decide (reading = .down)) ∘ seen.reading) entries)
    rw [m.getAirflowStatus_eq, m.getAirflowStatus_eq, seen.readings_partition,
      seen.readings_partition, hdegraded, hdown] at h
    simp at h
  · intro hmixed first second hfirst hsecond
    have hperm := seen.readings_perm (hfirst.trans hsecond.symm)
    have hclear : ¬ Mixed (seen.readings first) := by
      have hentries := seen.readings_perm hfirst
      unfold Mixed at hmixed ⊢
      rwa [hentries.mem_iff, hentries.mem_iff, hentries.count_eq]
    rw [m.getAirflowStatus_eq, m.getAirflowStatus_eq, settle_perm hperm hclear]

def mixedMap : DRManager := ⟨⟨[("scheduler", 2), ("api-server", 1)], by decide⟩, 0⟩

def mixedPods : Observation where
  deployments := ⟨[], List.nodup_nil⟩
  deploymentFailure := fun _ => none
  pods := fun _ => .ok [⟨"scheduler-0", [("component", "scheduler")], .running,
    [⟨"Ready", "True"⟩]⟩]

theorem getAirflowStatus_mixed_differs :
    ¬ ∀ (m : DRManager) (seen : Observation) (first second : List (String × Int)),
      first.Perm m.componentToReplicaMap.entries →
      second.Perm m.componentToReplicaMap.entries →
      m.getAirflowStatus seen first = m.getAirflowStatus seen second := by
  intro h
  have hsame := h mixedMap mixedPods [("scheduler", 2), ("api-server", 1)]
    [("api-server", 1), ("scheduler", 2)] (.refl _) (.swap _ _ _)
  exact absurd hsame (by decide)

end OrderIndependence

end QubershipAirflow.SiteManager
