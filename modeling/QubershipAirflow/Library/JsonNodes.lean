import QubershipAirflow.Library.Json
import QubershipAirflow.Library.Lists

/-! The nodes of a JSON document, and induction over them. -/
namespace Json

/-- Induction over a document whose containers are lists and dicts. -/
@[elab_as_elim] theorem induction {motive : Json → Prop}
    (leaf : ∀ node, (∀ items, node ≠ arr items) → (∀ fields, node ≠ obj fields) → motive node)
    (arr : ∀ items, (∀ item ∈ items, motive item) → motive (arr items))
    (obj : ∀ fields, (∀ field ∈ fields, motive field.2) → motive (obj fields)) :
    ∀ node, motive node
  | .arr items => arr items fun item _ => induction leaf arr obj item
  | .obj fields => obj fields fun field _ => induction leaf arr obj field.2
  | .null | .bool _ | .int _ | .float _ | .str _ => leaf _ (by simp) (by simp)
termination_by node => sizeOf node
decreasing_by
  · have hsize := List.sizeOf_lt_of_mem ‹_›
    simp only [Json.arr.sizeOf_spec]
    omega
  · have hsize := List.sizeOf_lt_of_mem ‹_›
    have hvalue : sizeOf field.2 < sizeOf field := by
      cases field
      simp only [Prod.mk.sizeOf_spec]
      omega
    simp only [Json.obj.sizeOf_spec]
    omega

/-- A node of the document below fields that `enters` lets pass. -/
inductive Within (enters : List (String × Json) → String → Prop) : Json → Json → Prop where
  | here (node : Json) : Within enters node node
  | item {items : List Json} {item node : Json} (hitem : item ∈ items)
      (hbelow : Within enters item node) : Within enters (arr items) node
  | field {fields : List (String × Json)} {key : String} {value node : Json}
      (hfield : (key, value) ∈ fields) (henters : enters fields key)
      (hbelow : Within enters value node) : Within enters (obj fields) node

section Nodes

variable {enters : List (String × Json) → String → Prop} {P : Json → Prop} {node found : Json}
  {items : List Json} {fields : List (String × Json)}

theorem Within.eq_of_leaf (h : Within enters node found) (hitems : ∀ items, node ≠ arr items)
    (hfields : ∀ fields, node ≠ obj fields) : found = node := by
  cases h with
  | here => rfl
  | item => exact absurd rfl (hitems _)
  | field => exact absurd rfl (hfields _)

theorem forall_within_arr : (∀ found, Within enters (arr items) found → P found) ↔
    P (arr items) ∧ ∀ item ∈ items, ∀ found, Within enters item found → P found := by
  constructor
  · intro h
    exact ⟨h _ (.here _), fun item hitem found hfound => h found (.item hitem hfound)⟩
  · rintro ⟨hhere, hitems⟩ found hfound
    cases hfound with
    | here => exact hhere
    | item hitem hbelow => exact hitems _ hitem found hbelow

theorem forall_within_obj : (∀ found, Within enters (obj fields) found → P found) ↔
    P (obj fields) ∧ ∀ field ∈ fields, enters fields field.1 →
      ∀ found, Within enters field.2 found → P found := by
  constructor
  · intro h
    exact ⟨h _ (.here _), fun field hfield henters found hfound =>
      h found (.field hfield henters hfound)⟩
  · rintro ⟨hhere, hfields⟩ found hfound
    cases hfound with
    | here => exact hhere
    | field hfield henters hbelow => exact hfields _ hfield henters found hbelow

theorem forall_within_eq {α : Type} {f : α → Json} {Q : α → Prop} :
    (∀ x, Within enters node (f x) → Q x) ↔
      ∀ found, Within enters node found → ∀ x, found = f x → Q x := by
  constructor
  · rintro h _ hfound x rfl
    exact h x hfound
  · intro h x hfound
    exact h _ hfound x rfl

end Nodes

theorem lookup_forall₂ {R : String × Json → String × Json → Prop}
    {first second : List (String × Json)} (hkeys : ∀ field field', R field field' →
      field'.1 = field.1) (h : List.Forall₂ R first second) (key : String) :
    first.lookup key = none ∧ second.lookup key = none ∨
      ∃ value value', first.lookup key = some value ∧ second.lookup key = some value' ∧
        R (key, value) (key, value') := by
  induction h with
  | nil => exact .inl ⟨rfl, rfl⟩
  | @cons field field' _ _ hhead _ ih =>
      obtain ⟨name, value⟩ := field
      obtain ⟨name', value'⟩ := field'
      obtain rfl : name' = name := hkeys _ _ hhead
      rw [lookup_entry, lookup_entry]
      by_cases hkey : key = name'
      · subst hkey
        rw [if_pos rfl, if_pos rfl]
        exact .inr ⟨value, value', rfl, rfl, hhead⟩
      · rw [if_neg hkey, if_neg hkey]
        exact ih

end Json
