import QubershipAirflow.Library.Settling
import QubershipAirflow.Schema.Generation

/-! What a comparison visits: the outermost defaults that the schema declares for a tree
of values, in the order of the loop, and how the code settles them one by one. -/
namespace QubershipAirflow.Schema

open Json Settling
open PyError (bind_ok_iff)

section Declared

def hasDefault (schema : Json) (place : Place) : Bool := (schema.at? (place ++ ["default"])).isSome

def defaultAt (schema : Json) (place : Place) : Json :=
  (schema.at? (place ++ ["default"])).getD .null

/-- The properties of an element, or through its reference when it has none. -/
def propertiesAt (schema : Json) (place : Place) : Option Place :=
  if (schema.at? (place ++ ["properties"])).isSome then some (place ++ ["properties"])
  else (schema.at? (place ++ ["$ref"])).bind fun ref =>
    (refPath ref).toOption.map fun path => path ++ ["properties"]

def childAt (schema : Json) (place : Place) (key : String) : Option Place :=
  (propertiesAt schema place).bind fun properties =>
    if (schema.at? (properties ++ [key])).isSome then some (properties ++ [key]) else none

/-- The outermost default on a path of keys below a place, and the value there. -/
inductive OutermostDefault (schema : Json) :
    Place → Json → List String → Place → Json → Prop where
  | here {place : Place} {value : Json} {path : List String}
      (declared : hasDefault schema place = true) :
      OutermostDefault schema place value path place value
  | inside {place child node : Place} {fields : List (String × Json)} {key : String}
      {value found : Json} {path : List String} (undeclared : hasDefault schema place = false)
      (item : (key, value) ∈ fields) (property : childAt schema place key = some child)
      (outermost : OutermostDefault schema child value path node found) :
      OutermostDefault schema place (.obj fields) (key :: path) node found

mutual

def visits (schema : Json) : Json → Place → List (Place × Json)
  | .obj fields, place =>
      if hasDefault schema place then [(place, .obj fields)] else visitsBelow schema fields place
  | value, place => if hasDefault schema place then [(place, value)] else []

def visitsBelow (schema : Json) : List (String × Json) → Place → List (Place × Json)
  | [], _ => []
  | (key, value) :: rest, place =>
      (match childAt schema place key with
        | some child => visits schema value child
        | none => []) ++ visitsBelow schema rest place

end

mutual

def consulted (schema : Json) : Json → Place → List Place
  | .obj fields, place =>
      place :: if hasDefault schema place then [] else consultedBelow schema fields place
  | _, place => [place]

def consultedBelow (schema : Json) : List (String × Json) → Place → List Place
  | [], _ => []
  | (key, value) :: rest, place =>
      (propertiesAt schema place).toList ++ (match childAt schema place key with
        | some child => consulted schema value child
        | none => []) ++ consultedBelow schema rest place

end

variable {schema : Json} {place node : Place} {found : Json}

theorem mem_visitsBelow_cons {key : String} {value : Json} {rest : List (String × Json)}
    {visit : Place × Json} : visit ∈ visitsBelow schema ((key, value) :: rest) place ↔
      (∃ child, childAt schema place key = some child ∧ visit ∈ visits schema value child) ∨
        visit ∈ visitsBelow schema rest place := by
  rw [visitsBelow, List.mem_append]
  cases childAt schema place key <;> simp

theorem mem_consultedBelow_cons {key : String} {value : Json} {rest : List (String × Json)}
    {read : Place} : read ∈ consultedBelow schema ((key, value) :: rest) place ↔
      read ∈ propertiesAt schema place ∨
        (∃ child, childAt schema place key = some child ∧ read ∈ consulted schema value child) ∨
          read ∈ consultedBelow schema rest place := by
  rw [consultedBelow, List.mem_append, List.mem_append, Option.mem_toList, or_assoc]
  cases childAt schema place key <;> simp

mutual

theorem mem_visits_iff : ∀ (value : Json) (place : Place),
    (node, found) ∈ visits schema value place ↔
      ∃ path, OutermostDefault schema place value path node found
  | .obj fields, place => by
      by_cases hdefault : hasDefault schema place = true
      · rw [visits, if_pos hdefault, List.mem_singleton, Prod.mk.injEq]
        constructor
        · rintro ⟨rfl, rfl⟩
          exact ⟨[], .here hdefault⟩
        · rintro ⟨path, houtermost⟩
          cases houtermost with
          | here => exact ⟨rfl, rfl⟩
          | inside undeclared => simp [hdefault] at undeclared
      · have hundeclared : hasDefault schema place = false := by simpa using hdefault
        rw [visits, if_neg hdefault, mem_visitsBelow_iff fields place]
        constructor
        · rintro ⟨key, value, child, path, hitem, hchild, houtermost⟩
          exact ⟨key :: path, .inside hundeclared hitem hchild houtermost⟩
        · rintro ⟨path, houtermost⟩
          cases houtermost with
          | here declared => exact absurd declared hdefault
          | inside undeclared item property outermost =>
              exact ⟨_, _, _, _, item, property, outermost⟩
  | .null, place | .bool _, place | .int _, place | .float _, place | .str _, place
  | .arr _, place => by
      by_cases hdefault : hasDefault schema place = true
      · rw [visits, if_pos hdefault, List.mem_singleton, Prod.mk.injEq]
        constructor
        · rintro ⟨rfl, rfl⟩
          exact ⟨[], .here hdefault⟩
        · rintro ⟨path, houtermost⟩
          cases houtermost
          exact ⟨rfl, rfl⟩
        · simp
      · rw [visits, if_neg hdefault]
        constructor
        · simp
        · rintro ⟨path, houtermost⟩
          cases houtermost with
          | here declared => exact absurd declared hdefault
        · simp

theorem mem_visitsBelow_iff : ∀ (fields : List (String × Json)) (place : Place),
    (node, found) ∈ visitsBelow schema fields place ↔
      ∃ key value child path, (key, value) ∈ fields ∧ childAt schema place key = some child ∧
        OutermostDefault schema child value path node found
  | [], place => by simp [visitsBelow]
  | (key, value) :: rest, place => by
      rw [mem_visitsBelow_cons, mem_visitsBelow_iff rest place]
      simp only [mem_visits_iff value]
      constructor
      · rintro (⟨child, hchild, path, houtermost⟩ | ⟨key', value', child, path, hitem, hrest⟩)
        · exact ⟨key, value, child, path, List.mem_cons_self, hchild, houtermost⟩
        · exact ⟨key', value', child, path, List.mem_cons_of_mem _ hitem, hrest⟩
      · rintro ⟨key', value', child, path, hitem, hchild, houtermost⟩
        rcases List.mem_cons.mp hitem with heq | hitem
        · cases heq
          exact .inl ⟨child, hchild, path, houtermost⟩
        · exact .inr ⟨key', value', child, path, hitem, hchild, houtermost⟩

end

end Declared

section Steps

variable {schema schema' value found : Json} {current properties child : Place}
  {key : String} {shared : Bool} {outcome : Outcome}

theorem propertiesAt_of_read
    (h : elementProperties schema current = .ok (properties, shared))
    (hread : schema.read properties = .ok found) :
    propertiesAt schema current = some properties := by
  obtain ⟨element, helement, h⟩ := bind_ok_iff.mp h
  obtain ⟨own, hown, h⟩ := bind_ok_iff.mp h
  rw [read_eq_ok_iff] at helement hread
  cases own with
  | true =>
      cases h
      simp [propertiesAt, hread]
  | false =>
      obtain ⟨ref, href, h⟩ := bind_ok_iff.mp h
      obtain ⟨path, hpath, h⟩ := bind_ok_iff.mp h
      cases h
      have hnone := at?_snoc_of_not_contains helement hown
      have hfound := at?_snoc_eq_some_iff.mpr ⟨element, helement, href⟩
      simp [propertiesAt, hnone, hfound, hpath, Except.toOption]

theorem hasDefault_of_at? {default : Json}
    (h : schema.at? (current ++ ["default"]) = some default) :
    hasDefault schema current = true := by
  rw [hasDefault, h]
  rfl

theorem hasDefault_of_not_contains {element : Json} (h : schema.at? current = some element)
    (hcontains : element.contains "default" = .ok false) : hasDefault schema current = false := by
  rw [hasDefault, at?_snoc_of_not_contains h hcontains]
  rfl

theorem compareKey_cases (h : compareKey schema current key value = .ok outcome) :
    (childAt schema current key = none ∧ outcome = .settled schema) ∨
    ∃ child, childAt schema current key = some child ∧
      ((hasDefault schema child = false ∧ outcome = .below child) ∨
        ∃ found, schema.at? (child ++ ["default"]) = some found ∧
          ((value.pyEq found = true ∧ outcome = .settled schema) ∨
            (value.pyEq found = false ∧ ∃ schema',
              schema.assign child "default" value = .ok schema' ∧
                outcome = .settled schema'))) := by
  obtain ⟨⟨properties, shared⟩, hproperties, h⟩ := bind_ok_iff.mp h
  obtain ⟨dict, hdict, h⟩ := bind_ok_iff.mp h
  obtain ⟨contained, hcontained, h⟩ := bind_ok_iff.mp h
  have hat := propertiesAt_of_read hproperties hdict
  rw [read_eq_ok_iff] at hdict
  cases contained with
  | false =>
      cases h
      have hnone := at?_snoc_of_not_contains hdict hcontained
      exact .inl ⟨by simp [childAt, hat, hnone], rfl⟩
  | true =>
      obtain ⟨element, helement, h⟩ := bind_ok_iff.mp h
      obtain ⟨declared, hdeclared, h⟩ := bind_ok_iff.mp h
      rw [read_eq_ok_iff] at helement
      have hchild : childAt schema current key = some (properties ++ [key]) := by
        simp [childAt, hat, helement]
      refine .inr ⟨_, hchild, ?_⟩
      cases declared with
      | false =>
          cases h
          exact .inl ⟨hasDefault_of_not_contains helement hdeclared, rfl⟩
      | true =>
          obtain ⟨found, hfound, h⟩ := bind_ok_iff.mp h
          refine .inr ⟨found, at?_snoc_eq_some_iff.mpr ⟨element, helement, hfound⟩, ?_⟩
          cases heq : value.pyEq found with
          | true =>
              simp only [heq, if_true] at h
              cases h
              exact .inl ⟨rfl, rfl⟩
          | false =>
              simp only [heq, Bool.false_eq_true, if_false] at h
              cases shared with
              | true => cases h
              | false =>
                  obtain ⟨schema', hassign, h⟩ := bind_ok_iff.mp h
                  cases h
                  exact .inr ⟨rfl, schema', hassign, rfl⟩

theorem updateParam_cases {valuesData : Json} {valuesParam : String}
    (h : updateParam valuesData schema valuesParam = .ok schema') :
    ∃ value, valuesData.at? (pathOf valuesParam) = some value ∧
      ((hasDefault schema (paramPlace valuesParam) = false ∧
          compareComplexElement value (paramPlace valuesParam) schema = .ok schema') ∨
        ∃ found, schema.at? (paramPlace valuesParam ++ ["default"]) = some found ∧
          ((value.pyEq found = true ∧ schema' = schema) ∨
            (value.pyEq found = false ∧
              schema.assign (paramPlace valuesParam) "default" value = .ok schema'))) := by
  obtain ⟨element, helement, h⟩ := bind_ok_iff.mp h
  obtain ⟨value, hvalue, h⟩ := bind_ok_iff.mp h
  obtain ⟨declared, hdeclared, h⟩ := bind_ok_iff.mp h
  rw [read_eq_ok_iff] at helement hvalue
  refine ⟨value, hvalue, ?_⟩
  cases declared with
  | false =>
      exact .inl ⟨hasDefault_of_not_contains helement hdeclared, h⟩
  | true =>
      obtain ⟨found, hfound, h⟩ := bind_ok_iff.mp h
      refine .inr ⟨found, at?_snoc_eq_some_iff.mpr ⟨element, helement, hfound⟩, ?_⟩
      cases heq : value.pyEq found with
      | true =>
          simp only [heq, if_true] at h
          cases h
          exact .inl ⟨rfl, rfl⟩
      | false =>
          simp only [heq, Bool.false_eq_true, if_false] at h
          exact .inr ⟨rfl, h⟩

end Steps

end QubershipAirflow.Schema
