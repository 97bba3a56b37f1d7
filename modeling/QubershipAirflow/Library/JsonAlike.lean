import QubershipAirflow.Library.JsonLocations

/-! Documents that differ in the order of their dicts' keys only. -/
namespace Json

/-- What is seen of a value without looking into it, if it is a dict. -/
def face : Json → Json
  | obj _ => obj []
  | value => value

def view (found : Option Json) (place : List String) : Option Json :=
  (found.bind fun root => root.at? place).map face

def Alike (first second : Option Json) : Prop := view first = view second

/-- What is neither above nor below a place is the same in both. -/
def SameApart (place : List String) (root root' : Json) : Prop :=
  ∀ target, ¬ place <+: target → ¬ target <+: place → root'.at? target = root.at? target

section Alikes

variable {first second third : Option Json} {root root' root'' value : Json}
  {fields others : List (String × Json)} {key : String} {place rest : List String}

theorem Alike.refl (found : Option Json) : Alike found found := rfl

theorem Alike.symm (h : Alike first second) : Alike second first := Eq.symm h

theorem Alike.trans (h : Alike first second) (h' : Alike second third) : Alike first third :=
  Eq.trans h h'

theorem view_nil (found : Option Json) : view found [] = found.map face := by
  cases found <;> rfl

theorem view_at? : view (root.at? place) rest = view (some root) (place ++ rest) := by
  rw [view, view, Option.bind_some, at?_append]

theorem Alike.at? (h : Alike (some root) (some root')) (place : List String) :
    Alike (root.at? place) (root'.at? place) := by
  funext rest
  rw [view_at?, view_at?, h]

theorem face_eq_obj_iff : face value = obj [] ↔ ∃ fields, value = obj fields := by
  cases value <;> simp [face]

theorem Alike.isSome_eq (h : Alike first second) : second.isSome = first.isSome := by
  have hview := congrFun h []
  rw [view_nil, view_nil] at hview
  rw [← Option.isSome_map (f := face), ← hview, Option.isSome_map]

theorem Alike.exists_some (h : Alike (some root) second) : ∃ root', second = some root' := by
  rw [← Option.isSome_iff_exists, h.isSome_eq]
  rfl

theorem Alike.eq_of_not_obj (h : Alike (some root) second) (hroot : ∀ fields, root ≠ obj fields) :
    second = some root := by
  obtain ⟨root', rfl⟩ := h.exists_some
  have hview := congrFun h []
  rw [view_nil, view_nil, Option.map_some, Option.map_some, Option.some.injEq] at hview
  have hface : face root = root := by
    cases root with
    | obj fields => exact absurd rfl (hroot fields)
    | _ => rfl
  cases root' with
  | obj others =>
      obtain ⟨fields, rfl⟩ := face_eq_obj_iff.mp hview
      exact absurd rfl (hroot fields)
  | _ =>
      rw [hface] at hview
      rw [hview]
      rfl

theorem alike_obj (h : ∀ key, Alike (fields.lookup key) (others.lookup key)) :
    Alike (some (obj fields)) (some (obj others)) := by
  funext place
  cases place with
  | nil => rfl
  | cons key rest =>
      have hkey := congrFun (h key) rest
      rw [view, view, Option.bind_some, Option.bind_some, at?_obj_cons, at?_obj_cons]
      exact hkey

theorem at?_obj_key : (obj fields).at? [key] = fields.lookup key := by
  rw [at?_obj_cons]
  cases fields.lookup key <;> rfl

theorem exists_obj_of_at?_cons (h : root.at? (key :: rest) = some value) :
    ∃ fields, root = obj fields := by
  cases root with
  | obj fields => exact ⟨fields, rfl⟩
  | _ => cases h

theorem exists_obj_above (h : (root.at? (place ++ key :: rest)).isSome = true) :
    ∃ fields, root.at? place = some (obj fields) := by
  rw [at?_append] at h
  cases hplace : root.at? place with
  | none => simp [hplace] at h
  | some found =>
      rw [hplace, Option.bind_some] at h
      obtain ⟨value, hvalue⟩ := Option.isSome_iff_exists.mp h
      obtain ⟨fields, rfl⟩ := exists_obj_of_at?_cons hvalue
      exact ⟨fields, rfl⟩

theorem SameApart.refl (place : List String) (root : Json) : SameApart place root root :=
  fun _ _ _ => rfl

theorem SameApart.trans (h : SameApart place root root') (h' : SameApart place root' root'') :
    SameApart place root root'' := by
  intro target hbelow habove
  rw [h' target hbelow habove, h target hbelow habove]

theorem SameApart.above (h : SameApart (place ++ rest) root root') :
    SameApart place root root' := by
  intro target hbelow habove
  apply h target
  · exact fun hprefix => hbelow ((List.prefix_append place rest).trans hprefix)
  · intro hprefix
    rcases List.prefix_or_prefix_of_prefix hprefix (List.prefix_append place rest) with h | h
    · exact habove h
    · exact hbelow h

theorem SameApart.of_assign (h : root.assign place key value = .ok root') :
    SameApart (place ++ [key]) root root' :=
  fun _ hbelow habove => at?_assign_apart h hbelow habove

end Alikes

end Json
