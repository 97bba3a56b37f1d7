import Mathlib.Data.List.Sort
import QubershipAirflow.Library.JsonLocations

/-! Python's `==` on JSON documents: `True`, `1` and `1.0` are equal, and a dict is equal
to one with the same keys and equal values in any order. -/
namespace Json

def keyLe (first second : String × Json) : Prop := first.1 ≤ second.1

instance : DecidableRel keyLe := fun first second =>
  inferInstanceAs (Decidable (first.1 ≤ second.1))
instance : Std.Total keyLe := ⟨fun first second => String.le_total first.1 second.1⟩
instance : IsTrans (String × Json) keyLe := ⟨fun _ _ _ => String.le_trans⟩

mutual

/-- What `==` looks at. -/
def canonical : Json → Json
  | null => null
  | bool value => float (if value then 1 else 0)
  | int value => float value
  | float value => float value
  | str text => str text
  | arr items => arr (canonicalItems items)
  | obj fields => obj ((canonicalFields fields).insertionSort keyLe)

def canonicalItems : List Json → List Json
  | [] => []
  | item :: rest => canonical item :: canonicalItems rest

def canonicalFields : List (String × Json) → List (String × Json)
  | [] => []
  | (key, value) :: rest => (key, canonical value) :: canonicalFields rest

end

mutual

def beq : Json → Json → Bool
  | null, null => true
  | bool first, bool second => first = second
  | int first, int second => first = second
  | float first, float second => first = second
  | str first, str second => first = second
  | arr first, arr second => beqItems first second
  | obj first, obj second => beqFields first second
  | _, _ => false

def beqItems : List Json → List Json → Bool
  | [], [] => true
  | first :: firsts, second :: seconds => beq first second && beqItems firsts seconds
  | _, _ => false

def beqFields : List (String × Json) → List (String × Json) → Bool
  | [], [] => true
  | (key, first) :: firsts, (other, second) :: seconds =>
      key = other && beq first second && beqFields firsts seconds
  | _, _ => false

end

/-- `first == second` -/
def pyEq (first second : Json) : Bool := beq first.canonical second.canonical

mutual

theorem beq_iff : ∀ first second : Json, beq first second = true ↔ first = second
  | null, second => by cases second <;> simp [beq]
  | bool _, second => by cases second <;> simp [beq]
  | int _, second => by cases second <;> simp [beq]
  | float _, second => by cases second <;> simp [beq]
  | str _, second => by cases second <;> simp [beq]
  | arr items, second => by
      cases second with
      | arr others => simp [beq, beqItems_iff items others]
      | _ => simp [beq]
  | obj fields, second => by
      cases second with
      | obj others => simp [beq, beqFields_iff fields others]
      | _ => simp [beq]

theorem beqItems_iff : ∀ firsts seconds : List Json,
    beqItems firsts seconds = true ↔ firsts = seconds
  | [], seconds => by cases seconds <;> simp [beqItems]
  | first :: firsts, seconds => by
      cases seconds with
      | nil => simp [beqItems]
      | cons second seconds => simp [beqItems, beq_iff first second, beqItems_iff firsts seconds]

theorem beqFields_iff : ∀ firsts seconds : List (String × Json),
    beqFields firsts seconds = true ↔ firsts = seconds
  | [], seconds => by cases seconds <;> simp [beqFields]
  | (key, first) :: firsts, seconds => by
      cases seconds with
      | nil => simp [beqFields]
      | cons entry seconds =>
          simp [beqFields, beq_iff first entry.2, beqFields_iff firsts seconds, Prod.ext_iff]

end

instance : DecidableEq Json := fun first second => decidable_of_iff _ (beq_iff first second)

section Equality

variable {first second third : Json}

theorem pyEq_iff : pyEq first second = true ↔ first.canonical = second.canonical :=
  beq_iff _ _

@[simp] theorem pyEq_refl (value : Json) : pyEq value value = true := pyEq_iff.mpr rfl

theorem pyEq_symm (h : pyEq first second = true) : pyEq second first = true :=
  pyEq_iff.mpr (pyEq_iff.mp h).symm

theorem pyEq_trans (h : pyEq first second = true) (h' : pyEq second third = true) :
    pyEq first third = true :=
  pyEq_iff.mpr ((pyEq_iff.mp h).trans (pyEq_iff.mp h'))

theorem canonicalFields_eq_map (fields : List (String × Json)) :
    canonicalFields fields = fields.map fun field => (field.1, field.2.canonical) := by
  induction fields with
  | nil => rfl
  | cons field rest ih => rw [canonicalFields, ih]; rfl

theorem pyEq_obj_iff {fields others : List (String × Json)}
    (keyed : (fields.map Prod.fst).Nodup) :
    pyEq (obj fields) (obj others) = true ↔
      (canonicalFields fields).Perm (canonicalFields others) := by
  have hfields := List.perm_insertionSort keyLe (canonicalFields fields)
  have hothers := List.perm_insertionSort keyLe (canonicalFields others)
  rw [pyEq_iff, canonical, canonical, obj.injEq]
  constructor
  · intro h
    exact hfields.symm.trans (h ▸ hothers)
  · intro h
    have hkeyed : ((canonicalFields fields).map Prod.fst).Nodup := by
      rw [canonicalFields_eq_map, List.map_map]
      exact keyed
    refine List.Perm.eq_of_pairwise (fun a b ha hb hle hge => ?_)
      (List.pairwise_insertionSort keyLe _) (List.pairwise_insertionSort keyLe _)
      (hfields.trans (h.trans hothers.symm))
    have hb' := h.mem_iff.mpr (hothers.mem_iff.mp hb)
    exact List.inj_on_of_nodup_map hkeyed (hfields.mem_iff.mp ha) hb' (String.le_antisymm hle hge)

theorem lookup_orderedInsert (field : String × Json) (fields : List (String × Json))
    (key : String) : (fields.orderedInsert keyLe field).lookup key =
      if key = field.1 then some field.2 else fields.lookup key := by
  induction fields with
  | nil => exact lookup_entry [] key field.2 field.1
  | cons other rest ih =>
      by_cases hle : keyLe field other
      · rw [List.orderedInsert_cons_of_le keyLe rest hle]
        exact lookup_entry _ key field.2 field.1
      · rw [List.orderedInsert_of_not_le keyLe rest hle]
        have hne : field.1 ≠ other.1 := by
          intro h
          have hself : keyLe field other := by
            unfold keyLe
            exact h ▸ String.le_refl _
          exact hle hself
        rw [lookup_entry rest key other.2 other.1,
          lookup_entry _ key other.2 other.1, ih]
        by_cases hkey : key = other.1
        · rw [if_pos hkey, if_pos hkey, if_neg fun h => hne (h.symm.trans hkey)]
        · rw [if_neg hkey, if_neg hkey]

theorem lookup_canonical (fields : List (String × Json)) (key : String) :
    ((canonicalFields fields).insertionSort keyLe).lookup key =
      (fields.lookup key).map canonical := by
  have hsorted : ∀ fields : List (String × Json),
      (fields.insertionSort keyLe).lookup key = fields.lookup key := by
    intro fields
    induction fields with
    | nil => rfl
    | cons field rest ih =>
        rw [List.insertionSort_cons, lookup_orderedInsert, ih]
        exact (lookup_entry rest key field.2 field.1).symm
  rw [hsorted, canonicalFields_eq_map]
  exact lookup_map_values fields key fun _ value => value.canonical

theorem canonical_at? (h : pyEq first second = true) (place : List String) :
    (first.at? place).map canonical = (second.at? place).map canonical := by
  induction place generalizing first second with
  | nil => exact congrArg some (pyEq_iff.mp h)
  | cons key rest ih =>
      rw [pyEq_iff] at h
      cases first with
      | obj fields =>
          cases second with
          | obj others =>
              have hfields := congrArg (List.lookup key) (obj.inj h)
              rw [lookup_canonical, lookup_canonical] at hfields
              rw [at?_obj_cons, at?_obj_cons]
              cases hfirst : fields.lookup key with
              | none =>
                  rw [hfirst, Option.map_none, eq_comm, Option.map_eq_none_iff] at hfields
                  rw [hfields]
              | some child =>
                  rw [hfirst, Option.map_some, eq_comm, Option.map_eq_some_iff] at hfields
                  obtain ⟨other, hother, hsame⟩ := hfields
                  rw [hother]
                  exact ih (pyEq_iff.mpr hsame.symm)
          | _ => simp [canonical] at h
      | _ => cases second <;> simp_all [canonical, at?]

example : pyEq (obj [("b", int 1), ("a", bool true)]) (obj [("a", float 1), ("b", float 1)]) =
    true := by decide

end Equality

end Json
