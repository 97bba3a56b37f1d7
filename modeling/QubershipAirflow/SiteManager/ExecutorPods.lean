import QubershipAirflow.SiteManager.HealthChanges

/-! The pods of the KubernetesExecutor in the health report. They carry the label by
which the report counts the Celery workers, so they shift the reading of the workers;
whether the answer shifts with it depends on the other components. -/
namespace QubershipAirflow.SiteManager

section Masking

/-- The two readings of one entry lead to the same answer: `later` are the readings of
the entries that follow, and `impaired` says that Flower or StatsD is. -/
inductive Masked (later : List Reading) (unknowns : Nat) (impaired : Prop) :
    Reading → Reading → Prop where
  | downUp (ends : EndsDown later unknowns) : Masked later unknowns impaired .down .up
  | downUnknown (few : unknowns < 7) (ends : EndsDown later (unknowns + 1)) :
      Masked later unknowns impaired .down .unknown
  | degradedUp (ends : EndsDegraded later unknowns) :
      Masked later unknowns impaired .degraded .up
  | degradedOptional (none : unknowns = 0) (up : ∀ reading ∈ later, reading = .up)
      (optional : impaired) : Masked later unknowns impaired .degraded .up
  | degradedUnknown (ends : unknowns = 7 ∨ EndsDegraded later (unknowns + 1)) :
      Masked later unknowns impaired .degraded .unknown
  | upUnknownDown (few : unknowns < 7) (ends : EndsDown later unknowns)
      (ends' : EndsDown later (unknowns + 1)) : Masked later unknowns impaired .up .unknown
  | upUnknownDegraded (ends : EndsDegraded later unknowns) :
      Masked later unknowns impaired .up .unknown

variable {later : List Reading} {unknowns : Nat} {rest : Health}

theorem settle_getD_down (h : unknowns < 8) (hrest : rest ≠ .down) :
    (settle later unknowns).getD rest = .down ↔ EndsDown later unknowns := by
  rw [← settle_down_iff h]
  cases settle later unknowns with
  | none => simp [hrest]
  | some health => simp

theorem settle_getD_degraded (h : unknowns < 8) :
    (settle later unknowns).getD rest = .degraded ↔ EndsDegraded later unknowns ∨
      unknowns = 0 ∧ (∀ reading ∈ later, reading = .up) ∧ rest = .degraded := by
  rw [← settle_degraded_iff h]
  cases hsettle : settle later unknowns with
  | none =>
    obtain ⟨hzero, hup⟩ := settle_eq_none_iff.mp hsettle
    simpa [hzero] using fun _ => hup
  | some health =>
    have hnot : ¬ (unknowns = 0 ∧ ∀ reading ∈ later, reading = .up) := by
      rw [← settle_eq_none_iff, hsettle]
      simp
    simp only [Option.getD_some, Option.some.injEq]
    tauto

theorem settle_getD_unknown :
    (settle (.unknown :: later) unknowns).getD rest =
      if unknowns = 7 then .degraded else (settle later (unknowns + 1)).getD rest := by
  rw [settle]
  split_ifs <;> rfl

theorem Masked.same {impaired : Prop} {first second : Reading}
    (hmasked : Masked later unknowns impaired first second) (h : unknowns < 8)
    (hrest : rest ≠ .down) (himpaired : rest = .degraded ↔ impaired) :
    (settle (first :: later) unknowns).getD rest =
      (settle (second :: later) unknowns).getD rest := by
  cases hmasked with
  | downUp ends => exact ((settle_getD_down h hrest).mpr ends).symm
  | downUnknown few ends =>
    rw [settle_getD_unknown, if_neg (by omega), (settle_getD_down (by omega) hrest).mpr ends]
    rfl
  | degradedUp ends => exact ((settle_getD_degraded h).mpr (.inl ends)).symm
  | degradedOptional none up optional =>
    exact ((settle_getD_degraded h).mpr (.inr ⟨none, up, himpaired.mpr optional⟩)).symm
  | degradedUnknown ends =>
    rw [settle_getD_unknown]
    split_ifs with hlast
    · rfl
    · exact ((settle_getD_degraded (by omega)).mpr (.inl (ends.resolve_left hlast))).symm
  | upUnknownDown few ends ends' =>
    rw [settle_getD_unknown, if_neg (by omega), (settle_getD_down (by omega) hrest).mpr ends',
      settle]
    exact (settle_getD_down h hrest).mpr ends
  | upUnknownDegraded ends =>
    have hdegraded := (settle_degraded_iff h).mpr ends
    rw [settle_getD_unknown, settle, hdegraded]
    split_ifs with hlast
    · rfl
    · rw [(settle_degraded_succ hdegraded).resolve_right hlast]

theorem masked_down {impaired : Prop} {reading : Reading} (h : unknowns < 8)
    (hrest : rest ≠ .down) (hdown : (settle (reading :: later) unknowns).getD rest = .down) :
    reading = .down ∨ Masked later unknowns impaired .down reading := by
  cases reading with
  | down => exact .inl rfl
  | degraded => cases hdown
  | up => exact .inr (.downUp ((settle_getD_down h hrest).mp hdown))
  | unknown =>
    rw [settle_getD_unknown] at hdown
    split_ifs at hdown with hlast
    exact .inr (.downUnknown (by omega) ((settle_getD_down (by omega) hrest).mp hdown))

theorem masked_degraded {impaired : Prop} {reading : Reading} (h : unknowns < 8)
    (himpaired : rest = .degraded ↔ impaired)
    (hdegraded : (settle (reading :: later) unknowns).getD rest = .degraded) :
    reading = .degraded ∨ Masked later unknowns impaired .degraded reading := by
  cases reading with
  | down => cases hdegraded
  | degraded => exact .inl rfl
  | up =>
    rw [settle] at hdegraded
    rcases (settle_getD_degraded h).mp hdegraded with hends | ⟨hzero, hup, hoptional⟩
    · exact .inr (.degradedUp hends)
    · exact .inr (.degradedOptional hzero hup (himpaired.mp hoptional))
  | unknown =>
    rw [settle_getD_unknown] at hdegraded
    split_ifs at hdegraded with hlast
    · exact .inr (.degradedUnknown (.inl hlast))
    · rcases (settle_getD_degraded (by omega)).mp hdegraded with hends | ⟨hzero, -⟩
      · exact .inr (.degradedUnknown (.inr hends))
      · omega

theorem masked_up_unknown {impaired : Prop} (h : unknowns < 8) (hrest : rest ≠ .down)
    (hsame : (settle (.up :: later) unknowns).getD rest =
      (settle (.unknown :: later) unknowns).getD rest) :
    Masked later unknowns impaired .up .unknown := by
  rw [settle_getD_unknown, settle] at hsame
  cases hsettle : settle later unknowns with
  | none =>
    -- all readings are up, so the other answer is `down`
    obtain ⟨rfl, hup⟩ := settle_eq_none_iff.mp hsettle
    have hdown := settle_all_up hup [] 1
    rw [List.append_nil] at hdown
    rw [hsettle, if_neg (by omega), hdown] at hsame
    exact absurd hsame hrest
  | some health =>
    cases health with
    | up => exact absurd hsettle (settle_ne_up _ _)
    | degraded => exact .upUnknownDegraded ((settle_degraded_iff h).mp hsettle)
    | down =>
      rw [hsettle, Option.getD_some] at hsame
      split_ifs at hsame with hlast
      exact .upUnknownDown (by omega) ((settle_down_iff h).mp hsettle)
        ((settle_getD_down (by omega) hrest).mp hsame.symm)

theorem masked_of_same {impaired : Prop} {first second : Reading} (h : unknowns < 8)
    (hrest : rest ≠ .down) (himpaired : rest = .degraded ↔ impaired)
    (hsame : (settle (first :: later) unknowns).getD rest =
      (settle (second :: later) unknowns).getD rest) :
    first = second ∨ Masked later unknowns impaired first second ∨
      Masked later unknowns impaired second first := by
  cases first with
  | down =>
    rcases masked_down h hrest hsame.symm with hsecond | hmasked
    · exact .inl hsecond.symm
    · exact .inr (.inl hmasked)
  | degraded =>
    rcases masked_degraded h himpaired hsame.symm with hsecond | hmasked
    · exact .inl hsecond.symm
    · exact .inr (.inl hmasked)
  | up =>
    cases second with
    | up => exact .inl rfl
    | down => exact .inr (.inr ((masked_down h hrest hsame).resolve_left (by simp)))
    | degraded => exact .inr (.inr ((masked_degraded h himpaired hsame).resolve_left (by simp)))
    | unknown => exact .inr (.inl (masked_up_unknown h hrest hsame))
  | unknown =>
    cases second with
    | up => exact .inr (.inr (masked_up_unknown h hrest hsame.symm))
    | down => exact .inr (.inr ((masked_down h hrest hsame).resolve_left (by simp)))
    | degraded => exact .inr (.inr ((masked_degraded h himpaired hsame).resolve_left (by simp)))
    | unknown => exact .inl rfl

end Masking

section ExecutorPods

structure DifferInExecutors (first second : Observation) : Prop where
  deployments : first.deployments = second.deployments
  failures : first.deploymentFailure = second.deploymentFailure
  pods : ∀ component, SameListing (fun pod => !workerSelector.selects pod.labels)
    (first.pods component) (second.pods component)

variable {m : DRManager} {first second : Observation} {order : List (String × Int)}

theorem DifferInExecutors.beside (h : DifferInExecutors first second) :
    AgreeBeside "worker" first second where
  deployed := Observation.isComponentDeployed_congr h.deployments h.failures
  reading := by
    intro entry hname
    refine Observation.reading_same (fun pod hpod => ?_) (h.pods entry.1)
    simp [workerSelector, Selector.selects, hpod, hname]

/-- What the pods change goes unnoticed: the entry of the workers is not reached, the
pods leave its reading as it is, or the other entries mask the change. -/
def DRManager.Unnoticed (m : DRManager) (first second : Observation)
    (order : List (String × Int)) : Prop :=
  ∀ earlier later replicas, order = earlier ++ ("worker", replicas) :: later →
    first.considers ("worker", replicas) → Passes (first.readings earlier) 0 →
    let masked := Masked (first.readings later) ((first.readings earlier).count .unknown)
      (m.isImpaired first "flower" ∨ m.isImpaired first "statsd")
    let before := first.reading ("worker", replicas)
    let after := second.reading ("worker", replicas)
    before = after ∨ masked before after ∨ masked after before

theorem DRManager.optionalHealth_degraded_iff (seen : Observation) :
    m.optionalHealth seen = .degraded ↔
      m.isImpaired seen "flower" ∨ m.isImpaired seen "statsd" := by
  unfold DRManager.optionalHealth
  split_ifs with himpaired <;> simp [himpaired]

theorem getAirflowStatus_executors_iff (horder : order.Perm m.componentToReplicaMap.entries)
    (h : DifferInExecutors first second) :
    m.getAirflowStatus first order = m.getAirflowStatus second order ↔
      m.Unnoticed first second order := by
  have hrest := m.optionalHealth_ne_down first
  have himpaired := m.optionalHealth_degraded_iff first
  rw [m.getAirflowStatus_eq_settle, m.getAirflowStatus_eq_settle,
    ← h.beside.optionalHealth (by decide)]
  constructor
  · rintro hsame earlier later replicas rfl hconsiders hpasses
    obtain ⟨hfirst, hsecond⟩ := h.beside.readings_split horder hconsiders
    rw [hfirst, hsecond, settle_passes _ hpasses, settle_passes _ hpasses, Nat.zero_add] at hsame
    exact masked_of_same (by simpa using hpasses.2.2) hrest himpaired hsame
  · intro hunnoticed
    by_cases hcounted : ∃ entry ∈ order, first.considers entry = true ∧ entry.1 = "worker"
    · obtain ⟨⟨name, replicas⟩, hentry, hconsiders, hname⟩ := hcounted
      obtain rfl : name = "worker" := hname
      obtain ⟨earlier, later, rfl⟩ := List.append_of_mem hentry
      obtain ⟨hfirst, hsecond⟩ := h.beside.readings_split horder hconsiders
      rw [hfirst, hsecond]
      by_cases hpasses : Passes (first.readings earlier) 0
      · have hfew : (first.readings earlier).count .unknown < 8 := by simpa using hpasses.2.2
        rw [settle_passes _ hpasses, settle_passes _ hpasses, Nat.zero_add]
        obtain hsame | hmasked | hmasked := hunnoticed earlier later replicas rfl hconsiders hpasses
        · rw [hsame]
        · exact hmasked.same hfew hrest himpaired
        · exact (hmasked.same hfew hrest himpaired).symm
      · rw [settle_stopped (by omega) hpasses (first.reading ("worker", replicas) :: _)
          (second.reading ("worker", replicas) :: first.readings later)]
    · have hnames : ∀ entry ∈ order, first.considers entry = true → entry.1 ≠ "worker" :=
        fun entry hentry hconsiders hname => hcounted ⟨entry, hentry, hconsiders, hname⟩
      rw [h.beside.readings hnames]

def celeryWorkers (executors : List Pod) : Observation where
  deployments := ⟨[⟨"worker", 1, ⟨"83c0", [("component", "worker")], 1, ""⟩⟩], by simp⟩
  deploymentFailure := fun _ => none
  pods := fun _ => .ok (⟨"worker-0", [("component", "worker")], .running,
    [⟨"Ready", "True"⟩]⟩ :: executors)

def taskPod : Pod := ⟨"example-task-1", [("component", "worker"), ("kubernetes_executor", "True")],
  .running, [⟨"Ready", "True"⟩]⟩

def workerOnly : DRManager := ⟨⟨[("worker", 1)], by decide⟩, 0⟩

theorem celeryWorkers_differ :
    DifferInExecutors (celeryWorkers []) (celeryWorkers [taskPod]) :=
  ⟨rfl, rfl, fun _ => .refl _⟩

theorem getAirflowStatus_executors_iff_task :
    workerOnly.getAirflowStatus (celeryWorkers []) [("worker", 1)] =
        workerOnly.getAirflowStatus (celeryWorkers [taskPod]) [("worker", 1)] ↔
      workerOnly.Unnoticed (celeryWorkers []) (celeryWorkers [taskPod]) [("worker", 1)] :=
  getAirflowStatus_executors_iff (.refl _) celeryWorkers_differ

theorem getAirflowStatus_down_for_task :
    ¬ ∀ (m : DRManager) (first second : Observation) (order : List (String × Int)),
      order.Perm m.componentToReplicaMap.entries → DifferInExecutors first second →
      m.getAirflowStatus first order = m.getAirflowStatus second order := by
  intro h
  exact absurd (h workerOnly _ _ [("worker", 1)] (.refl _) celeryWorkers_differ) (by decide)

end ExecutorPods

end QubershipAirflow.SiteManager
