import Mathlib.Data.List.Infix
import Mathlib.Data.Rat.Init

/-! JSON documents as Python reads them. A dict keeps its keys once, in the order of
insertion; numbers are finite. Operators that Python refuses raise. -/

inductive Json where
  | null
  | bool (value : Bool)
  | int (value : Int)
  | float (value : Rat)
  | str (value : String)
  | arr (items : List Json)
  | obj (fields : List (String × Json))
  deriving Repr

inductive PyError where
  | keyError (key : String)
  | typeError
  | valueError (message : String)
  | attributeError
  | requestError
  | osError
  deriving DecidableEq, Repr

namespace PyError

theorem bind_ok_iff {ε α β : Type} {x : Except ε α} {f : α → Except ε β} {b : β} :
    (x >>= f) = .ok b ↔ ∃ a, x = .ok a ∧ f a = .ok b := by
  cases x <;> simp [bind, Except.bind]

theorem map_ok_iff {ε α β : Type} {x : Except ε α} {f : α → β} {b : β} :
    (f <$> x) = .ok b ↔ ∃ a, x = .ok a ∧ f a = b := by
  cases x <;> simp [Functor.map, Except.map]

end PyError

namespace Json

/-- `key in container` -/
def contains (key : String) : Json → Except PyError Bool
  | obj fields => .ok (fields.lookup key).isSome
  | arr items => .ok <| items.any fun item => match item with
      | str text => text = key
      | _ => false
  | str text => .ok (key.toList <:+: text.toList)
  | _ => .error .typeError

/-- `container[key]` with a text as the key. -/
def getItem (key : String) : Json → Except PyError Json
  | obj fields => match fields.lookup key with
      | some value => .ok value
      | none => .error (.keyError key)
  | _ => .error .typeError

/-- `value == text` -/
def isText (text : String) : Json → Bool
  | str value => value = text
  | _ => false

/-- `first | second` of two dicts: the entries of the second win, in the places that
the first gave to their keys. -/
def union : Json → Json → Except PyError Json
  | obj first, obj second => .ok <| obj <|
      first.map (fun field => (field.1, (second.lookup field.1).getD field.2)) ++
        second.filter fun field => (first.lookup field.1).isNone
  | _, _ => .error .typeError

/-- `str(value)`; `repr` writes what is neither a text, a constant nor an integer. -/
def format (repr : Json → String) : Json → String
  | null => "None"
  | bool true => "True"
  | bool false => "False"
  | int value => toString value
  | str text => text
  | value => repr value

@[simp] theorem format_str (repr : Json → String) (text : String) :
    (str text).format repr = text := rfl

/-- `value in positive_values`: `1` and `1.0` are equal to `True`. -/
def isPositive : Json → Bool
  | bool value => value
  | int value => value = 1
  | float value => value = 1
  | str text => text ∈ ["true", "True", "yes", "Yes"]
  | _ => false

section Dicts

variable {α : Type} (fields : List (String × α)) (key : String) (value : α)

theorem lookup_entry (name : String) :
    ((name, value) :: fields).lookup key =
      if key = name then some value else fields.lookup key := by
  by_cases h : key = name
  · simp [h]
  · simp [List.lookup_cons, beq_false_of_ne h, h]

theorem lookup_isSome_iff : (fields.lookup key).isSome = true ↔ key ∈ fields.map Prod.fst := by
  induction fields with
  | nil => simp
  | cons entry fields ih =>
      obtain ⟨name, value⟩ := entry
      rw [lookup_entry, List.map_cons, List.mem_cons, ← ih]
      by_cases h : key = name <;> simp [h]

theorem lookup_eq_none_iff_notMem : fields.lookup key = none ↔ key ∉ fields.map Prod.fst := by
  rw [← Option.not_isSome_iff_eq_none, lookup_isSome_iff]

theorem mem_keys_of_lookup {fields : List (String × α)} {key : String} {value : α}
    (h : fields.lookup key = some value) : key ∈ fields.map Prod.fst :=
  (lookup_isSome_iff fields key).mp (Option.isSome_of_eq_some h)

theorem mem_of_lookup {fields : List (String × α)} {key : String} {value : α}
    (h : fields.lookup key = some value) : (key, value) ∈ fields := by
  obtain ⟨before, after, rfl, -⟩ := List.lookup_eq_some_iff.mp h
  simp

theorem lookup_filter_keys (p : String → Bool) :
    (fields.filter fun field => p field.1).lookup key =
      if p key then fields.lookup key else none := by
  induction fields with
  | nil => simp
  | cons field fields ih =>
      obtain ⟨name, value⟩ := field
      by_cases hkey : key = name
      · subst hkey
        by_cases hp : p key = true
        · simp [hp]
        · simpa [hp] using ih
      · by_cases hp : p name = true
        · simp only [List.filter_cons, hp, if_true, lookup_entry, if_neg hkey, ih]
        · rw [List.filter_cons, if_neg hp, lookup_entry, if_neg hkey, ih]

theorem lookup_map_values {β : Type} (f : String → α → β) :
    (fields.map fun field => (field.1, f field.1 field.2)).lookup key =
      (fields.lookup key).map (f key) := by
  induction fields with
  | nil => rfl
  | cons field fields ih =>
      obtain ⟨name, value⟩ := field
      rw [List.map_cons, List.lookup_cons, List.lookup_cons, ih]
      by_cases hkey : key = name
      · subst hkey
        simp
      · rw [beq_false_of_ne hkey]

theorem union_obj (first second : List (String × Json)) :
    ∃ fields, (obj first).union (obj second) = .ok (obj fields) ∧
      ∀ key, fields.lookup key = (second.lookup key).or (first.lookup key) := by
  refine ⟨_, rfl, fun key => ?_⟩
  rw [List.lookup_append, lookup_filter_keys second key fun key => (first.lookup key).isNone,
    lookup_map_values first key fun key value => (second.lookup key).getD value]
  cases first.lookup key <;> cases second.lookup key <;> rfl

end Dicts

end Json
