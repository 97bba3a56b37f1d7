import Mathlib.Logic.Function.Basic

/-! Values that are settled one after another: each visit leaves what it finds at a key if
that is as good as its own value, and replaces it otherwise. The last visit decides, so
all visits are content in the end exactly where those of one key agree. -/
namespace Settling

variable {K V : Type} [DecidableEq K] (same : V → V → Bool)

def settle (store : K → V) (visit : K × V) : K → V :=
  if same visit.2 (store visit.1) then store else Function.update store visit.1 visit.2

def settleAll (store : K → V) (visits : List (K × V)) : K → V :=
  visits.foldl (settle same) store

variable {same} {store : K → V} {visit : K × V} {visits rest : List (K × V)} {key : K} {value : V}

@[simp] theorem settleAll_nil : settleAll same store [] = store := rfl

@[simp] theorem settleAll_cons : settleAll same store (visit :: visits) =
    settleAll same (settle same store visit) visits := rfl

theorem settleAll_append : settleAll same store (visits ++ rest) =
    settleAll same (settleAll same store visits) rest :=
  List.foldl_append

theorem settle_of_ne (h : key ≠ visit.1) : settle same store visit key = store key := by
  unfold settle
  split
  · rfl
  · exact Function.update_of_ne h _ _

theorem settle_self (equivalence : Equivalence fun first second => same first second = true) :
    same visit.2 (settle same store visit visit.1) = true := by
  unfold settle
  split
  · assumption
  · rw [Function.update_self]
    exact equivalence.refl _

/-- A content key stays so when it is visited with an equal value only. -/
theorem settle_keeps (h : same value (store key) = true)
    (hvisit : visit.1 = key → same value visit.2 = true) :
    same value (settle same store visit key) = true := by
  by_cases hkey : key = visit.1
  · unfold settle
    split
    · exact h
    · rw [hkey, Function.update_self]
      exact hvisit hkey.symm
  · rw [settle_of_ne hkey]
    exact h

theorem settleAll_keeps (h : same value (store key) = true)
    (hvisits : ∀ visit ∈ visits, visit.1 = key → same value visit.2 = true) :
    same value (settleAll same store visits key) = true := by
  induction visits generalizing store with
  | nil => exact h
  | cons visit visits ih =>
      exact ih (settle_keeps h (hvisits visit List.mem_cons_self))
        fun other hother => hvisits other (List.mem_cons_of_mem _ hother)

theorem settleAll_content
    (equivalence : Equivalence fun first second => same first second = true)
    (h : ∀ visit ∈ visits, ∀ other ∈ visits, other.1 = visit.1 →
      same visit.2 other.2 = true) :
    ∀ visit ∈ visits, same visit.2 (settleAll same store visits visit.1) = true := by
  induction visits generalizing store with
  | nil => simp
  | cons first rest ih =>
      intro visit hvisit
      rcases List.mem_cons.mp hvisit with rfl | hrest
      · rw [settleAll_cons]
        exact settleAll_keeps (settle_self equivalence) fun other hother =>
          h visit hvisit other (List.mem_cons_of_mem _ hother)
      · exact ih (fun visit hvisit other hother =>
          h visit (List.mem_cons_of_mem _ hvisit) other (List.mem_cons_of_mem _ hother))
          visit hrest

theorem settleAll_content_iff
    (equivalence : Equivalence fun first second => same first second = true) :
    (∀ visit ∈ visits, same visit.2 (settleAll same store visits visit.1) = true) ↔
      ∀ visit ∈ visits, ∀ other ∈ visits, other.1 = visit.1 →
        same visit.2 other.2 = true := by
  constructor
  · intro h visit hvisit other hother hkey
    have hfound := h other hother
    rw [hkey] at hfound
    exact equivalence.trans (h visit hvisit) (equivalence.symm hfound)
  · exact settleAll_content equivalence

/-- A visit of a run that may be refused: it settles a key, or is refused where the key
holds something else, or is always refused. -/
inductive Visit (K V : Type) where
  | settle (key : K) (value : V)
  | check (key : K) (value : V)
  | stop

structure Ledger (K V : Type) where
  store : K → V
  written : List K

def Ledger.write (ledger : Ledger K V) (key : K) (value : V) : Ledger K V where
  store := Function.update ledger.store key value
  written := key :: ledger.written

/-- The ledger after a visit, unless the visit is refused. -/
def Visit.pass (same : V → V → Bool) (ledger : Ledger K V) : Visit K V → Option (Ledger K V)
  | settle key value =>
      some (if same value (ledger.store key) then ledger else ledger.write key value)
  | check key value => if same value (ledger.store key) then some ledger else none
  | stop => none

def ledgers (same : V → V → Bool) (ledger : Ledger K V) : List (Visit K V) → List (Ledger K V)
  | [] => [ledger]
  | visit :: rest => ledger :: match visit.pass same ledger with
      | some next => ledgers same next rest
      | none => []

def final (same : V → V → Bool) (ledger : Ledger K V) : List (Visit K V) → Option (Ledger K V)
  | [] => some ledger
  | visit :: rest => (visit.pass same ledger).bind fun next => final same next rest

section Refusals

variable {start mid ledger : Ledger K V} {visit : Visit K V} {first second : List (Visit K V)}
  {touched : K → Prop}

theorem Ledger.write_store_of_ne {key other : K} {value : V} (h : other ≠ key) :
    (ledger.write key value).store other = ledger.store other :=
  Function.update_of_ne h _ _

theorem Ledger.write_store_self {key : K} {value : V} :
    (ledger.write key value).store key = value :=
  Function.update_self _ _ _

theorem self_mem_ledgers (same : V → V → Bool) (start : Ledger K V) (visits : List (Visit K V)) :
    start ∈ ledgers same start visits := by
  cases visits <;> simp [ledgers]

theorem final_append : final same start (first ++ second) =
    (final same start first).bind fun mid => final same mid second := by
  induction first generalizing start with
  | nil => rfl
  | cons visit first ih =>
      rw [List.cons_append, final, final, Option.bind_assoc]
      exact congrArg _ (funext fun next => ih)

theorem final_mem (h : final same start first = some ledger) :
    ledger ∈ ledgers same start first := by
  induction first generalizing start with
  | nil =>
      cases h
      exact List.mem_singleton.mpr rfl
  | cons visit first ih =>
      obtain ⟨next, hnext, h⟩ := Option.bind_eq_some_iff.mp h
      rw [ledgers, hnext]
      exact List.mem_cons_of_mem _ (ih h)

theorem pass_of_final (h : final same start first = some ledger) (hvisit : visit ∈ first) :
    ∃ mid ∈ ledgers same start first, ∃ next, visit.pass same mid = some next := by
  induction first generalizing start with
  | nil => cases hvisit
  | cons other first ih =>
      obtain ⟨next, hnext, hrest⟩ := Option.bind_eq_some_iff.mp h
      rcases List.mem_cons.mp hvisit with rfl | hvisit
      · exact ⟨start, self_mem_ledgers .., next, hnext⟩
      · obtain ⟨mid, hmid, hpass⟩ := ih hrest hvisit
        refine ⟨mid, ?_, hpass⟩
        rw [ledgers, hnext]
        exact List.mem_cons_of_mem _ hmid

theorem mem_ledgers_append : ledger ∈ ledgers same start (first ++ second) ↔
    ledger ∈ ledgers same start first ∨
      ∃ mid, final same start first = some mid ∧ ledger ∈ ledgers same mid second := by
  induction first generalizing start with
  | nil =>
      have hmem : start ∈ ledgers same start second := self_mem_ledgers ..
      simp only [List.nil_append, ledgers, List.mem_singleton, final, Option.some.injEq,
        exists_eq_left']
      constructor
      · exact .inr
      · rintro (rfl | h)
        · exact hmem
        · exact h
  | cons visit first ih =>
      rw [List.cons_append, ledgers, ledgers, final]
      cases hpass : visit.pass same start with
      | none => simp
      | some next =>
          simp only [List.mem_cons, Option.bind_some, ih]
          rw [or_assoc]

/-- A run writes no touched key if before each visit that would do so one is refused. -/
theorem not_touched_of_mem_ledgers (h : ∀ before key value after,
      first = before ++ .settle key value :: after → touched key →
        same value (start.store key) = false → final same start before = none)
    (hledger : ledger ∈ ledgers same start first) {key : K} (hkey : key ∈ ledger.written) :
    key ∈ start.written ∨ ¬ touched key := by
  induction first generalizing start with
  | nil =>
      rw [ledgers, List.mem_singleton] at hledger
      exact .inl (hledger ▸ hkey)
  | cons visit first ih =>
      rw [ledgers, List.mem_cons] at hledger
      rcases hledger with rfl | hledger
      · exact .inl hkey
      · have hskip : visit.pass same start = some start → key ∈ start.written ∨ ¬ touched key := by
          intro hpass
          rw [hpass] at hledger
          refine ih (fun before key value after heq htouched hdiffers => ?_) hledger
          have hnone := h (visit :: before) key value after (by rw [heq]; rfl) htouched hdiffers
          rwa [final, hpass, Option.bind_some] at hnone
        cases visit with
        | stop => simp [Visit.pass] at hledger
        | check found value =>
            by_cases hsame : same value (start.store found) = true
            · exact hskip (by simp [Visit.pass, hsame])
            · simp [Visit.pass, hsame] at hledger
        | settle found value =>
            by_cases hsame : same value (start.store found) = true
            · exact hskip (by simp [Visit.pass, hsame])
            · have hpass : (Visit.settle found value).pass same start =
                  some (start.write found value) := by simp [Visit.pass, hsame]
              have huntouched : ¬ touched found := fun htouched => by
                have hnone := h [] found value first rfl htouched (by simpa using hsame)
                cases hnone
              have hafter : ∀ before key other after,
                  first = before ++ .settle key other :: after → touched key →
                    same other ((start.write found value).store key) = false →
                      final same (start.write found value) before = none := by
                intro before key other after heq htouched hdiffers
                have hne : key ≠ found := fun heq => huntouched (heq ▸ htouched)
                rw [Ledger.write_store_of_ne hne] at hdiffers
                have hnone := h (.settle found value :: before) key other after
                  (by rw [heq]; rfl) htouched hdiffers
                rwa [final, hpass, Option.bind_some] at hnone
              rw [hpass] at hledger
              have hrest := ih hafter hledger
              rcases hrest with hwritten | huntouched'
              · rcases List.mem_cons.mp hwritten with rfl | hwritten
                · exact .inr huntouched
                · exact .inl hwritten
              · exact .inr huntouched'

end Refusals

end Settling
