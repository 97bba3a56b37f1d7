import QubershipAirflow.Library.Json

/-! Places in a JSON document, by the keys that lead to them, and Python's assignment to
an item at a place. -/
namespace Json

open PyError (bind_ok_iff)

/-- `value[key]...[key]` -/
def read : Json → List String → Except PyError Json
  | value, [] => .ok value
  | value, key :: rest => do read (← value.getItem key) rest

def at? : Json → List String → Option Json
  | value, [] => some value
  | obj fields, key :: rest => match fields.lookup key with
      | some child => child.at? rest
      | none => none
  | _, _ :: _ => none

/-- A new key comes last. -/
def insertField (fields : List (String × Json)) (key : String) (value : Json) :
    List (String × Json) :=
  if key ∈ fields.map Prod.fst then
    fields.map fun field => if field.1 = key then (key, value) else field
  else fields ++ [(key, value)]

/-- `root[key] = value` -/
def setItem (root : Json) (key : String) (value : Json) : Except PyError Json :=
  match root with
  | obj fields => .ok (obj (insertField fields key value))
  | _ => .error .typeError

/-- `root[step]...[step][key] = value` -/
def assign (root : Json) (place : List String) (key : String) (value : Json) :
    Except PyError Json :=
  match place with
  | [] => root.setItem key value
  | step :: rest => do
      let child ← root.getItem step
      root.setItem step (← assign child rest key value)

/-- Nothing at all, dicts with the same keys, or the same value. -/
def SameShape : Option Json → Option Json → Prop
  | some (obj first), some (obj second) => first.map Prod.fst = second.map Prod.fst
  | first, second => first = second

section Places

variable {root root' value : Json} {fields : List (String × Json)} {key other : String}
  {place target : List String}

theorem read_eq_ok_iff : root.read place = .ok value ↔ root.at? place = some value := by
  induction place generalizing root with
  | nil => simp [read, at?]
  | cons key rest ih =>
      cases root with
      | obj fields =>
          cases hlookup : fields.lookup key with
          | none => simp [read, at?, getItem, hlookup, bind, Except.bind]
          | some child => simp [read, at?, getItem, hlookup, bind, Except.bind, ih]
      | _ => simp [read, at?, getItem, bind, Except.bind]

theorem at?_append (rest : List String) :
    root.at? (place ++ rest) = (root.at? place).bind fun value => value.at? rest := by
  induction place generalizing root with
  | nil => rfl
  | cons key place ih =>
      cases root with
      | obj fields => cases hlookup : fields.lookup key <;> simp [at?, hlookup, ih]
      | _ => rfl

theorem SameShape.refl (found : Option Json) : SameShape found found := by
  cases found with
  | none => rfl
  | some value => cases value <;> rfl

theorem SameShape.trans {first second third : Option Json} (h : SameShape first second)
    (h' : SameShape second third) : SameShape first third := by
  cases first with
  | none => cases h; exact h'
  | some value =>
      cases value with
      | obj fields =>
          match second, h with
          | some (obj others), h =>
              match third, h' with
              | some (obj fields'), h' => exact Eq.trans h h'
      | _ => cases h; exact h'

theorem SameShape.symm {first second : Option Json} (h : SameShape first second) :
    SameShape second first := by
  cases first with
  | none => cases h; rfl
  | some value =>
      cases value with
      | obj fields =>
          match second, h with
          | some (obj others), h => exact Eq.symm h
      | _ => cases h; rfl

theorem SameShape.exists_obj {found : Option Json} (h : SameShape (some (obj fields)) found) :
    ∃ others, found = some (obj others) ∧ others.map Prod.fst = fields.map Prod.fst := by
  match found, h with
  | some (obj others), h => exact ⟨others, rfl, Eq.symm h⟩

theorem SameShape.eq_none {found : Option Json} (h : SameShape none found) : found = none := by
  cases h
  rfl

theorem SameShape.exists_some {first : Json} {found : Option Json}
    (h : SameShape (some first) found) : ∃ second, found = some second := by
  cases first with
  | obj fields =>
      obtain ⟨others, rfl, -⟩ := h.exists_obj
      exact ⟨_, rfl⟩
  | _ =>
      cases h
      exact ⟨_, rfl⟩

theorem SameShape.contains_eq {first second : Json}
    (h : SameShape (some first) (some second)) (key : String) :
    second.contains key = first.contains key := by
  cases first with
  | obj fields =>
      obtain ⟨others, heq, hkeys⟩ := h.exists_obj
      cases heq
      rw [contains, contains, Except.ok.injEq, Bool.eq_iff_iff, lookup_isSome_iff,
        lookup_isSome_iff, hkeys]
  | _ =>
      cases h
      rfl

theorem SameShape.bind_eq {α : Type} {first second : Option Json} {f : Json → Option α}
    (h : SameShape first second) (hf : ∀ fields, f (obj fields) = none) :
    second.bind f = first.bind f := by
  cases first with
  | none => cases h; rfl
  | some value =>
      cases value with
      | obj fields =>
          obtain ⟨others, rfl, -⟩ := h.exists_obj
          simp [hf]
      | _ => cases h; rfl

theorem lookup_replaced (h : key ∈ fields.map Prod.fst) :
    (fields.map fun field => if field.1 = key then (key, value) else field).lookup other =
      if other = key then some value else fields.lookup other := by
  induction fields with
  | nil => simp at h
  | cons field fields ih =>
      obtain ⟨name, found⟩ := field
      rw [List.map_cons, lookup_entry]
      by_cases hname : name = key
      · rw [if_pos hname, lookup_entry, hname]
        by_cases hother : other = key
        · rw [if_pos hother, if_pos hother]
        · rw [if_neg hother, if_neg hother, if_neg hother]
          by_cases hrest : key ∈ fields.map Prod.fst
          · rw [ih hrest, if_neg hother]
          · have hsame : ∀ field ∈ fields,
                (if field.1 = key then (key, value) else field) = field := by
              intro field hfield
              exact if_neg fun heq => hrest (List.mem_map.mpr ⟨field, hfield, heq⟩)
            rw [List.map_congr_left hsame, List.map_id']
      · have hrest : key ∈ fields.map Prod.fst := by
          simpa [Ne.symm hname] using h
        rw [if_neg hname, lookup_entry, ih hrest]
        by_cases hother : other = name
        · rw [if_pos hother, if_neg (hother ▸ hname), if_pos hother]
        · rw [if_neg hother, if_neg hother]

theorem lookup_insertField : (insertField fields key value).lookup other =
    if other = key then some value else fields.lookup other := by
  unfold insertField
  by_cases hkey : key ∈ fields.map Prod.fst
  · rw [if_pos hkey, lookup_replaced hkey]
  · have hnone : fields.lookup key = none := (lookup_eq_none_iff_notMem fields key).mpr hkey
    rw [if_neg hkey, List.lookup_append, lookup_entry, List.lookup_nil]
    by_cases h : other = key
    · rw [if_pos h, if_pos h, h, hnone, Option.none_or]
    · rw [if_neg h, if_neg h, Option.or_none]

theorem keys_insertField (h : key ∈ fields.map Prod.fst) :
    (insertField fields key value).map Prod.fst = fields.map Prod.fst := by
  rw [insertField, if_pos h, List.map_map]
  apply List.map_congr_left
  intro field _
  simp only [Function.comp_apply]
  split
  · rename_i hfield
    exact hfield.symm
  · rfl

theorem setItem_eq_ok_iff : root.setItem key value = .ok root' ↔
    ∃ fields, root = obj fields ∧ root' = obj (insertField fields key value) := by
  cases root with
  | obj fields => simp [setItem, eq_comm]
  | _ => simp [setItem]

theorem getItem_eq_ok_iff : root.getItem key = .ok value ↔
    ∃ fields, root = obj fields ∧ fields.lookup key = some value := by
  cases root with
  | obj fields => cases hlookup : fields.lookup key <;> simp [getItem, hlookup]
  | _ => simp [getItem]

theorem at?_obj_cons (fields : List (String × Json)) (key : String) (rest : List String) :
    (obj fields).at? (key :: rest) = (fields.lookup key).bind fun child => child.at? rest := by
  cases hlookup : fields.lookup key <;> simp [at?, hlookup]

theorem at?_key_eq_some_iff : root.at? [key] = some value ↔ root.getItem key = .ok value := by
  cases root with
  | obj fields => cases hlookup : fields.lookup key <;> simp [at?, getItem, hlookup]
  | _ => simp [at?, getItem]

theorem at?_key_of_not_contains (h : root.contains key = .ok false) : root.at? [key] = none := by
  cases root with
  | obj fields =>
      have hlookup : fields.lookup key = none := by simpa [contains] using h
      simp [at?, hlookup]
  | _ => rfl

theorem at?_snoc_eq_some_iff : root.at? (place ++ [key]) = some value ↔
    ∃ element, root.at? place = some element ∧ element.getItem key = .ok value := by
  rw [at?_append, Option.bind_eq_some_iff]
  exact exists_congr fun element => and_congr_right fun _ => at?_key_eq_some_iff

theorem at?_snoc_isSome_iff : (root.at? (place ++ [key])).isSome = true ↔
    ∃ fields, root.at? place = some (obj fields) ∧ key ∈ fields.map Prod.fst := by
  rw [Option.isSome_iff_exists]
  constructor
  · rintro ⟨value, hvalue⟩
    obtain ⟨element, helement, hitem⟩ := at?_snoc_eq_some_iff.mp hvalue
    obtain ⟨fields, rfl, hlookup⟩ := getItem_eq_ok_iff.mp hitem
    exact ⟨fields, helement, mem_keys_of_lookup hlookup⟩
  · rintro ⟨fields, hfields, hkey⟩
    obtain ⟨value, hvalue⟩ := Option.isSome_iff_exists.mp ((lookup_isSome_iff _ _).mpr hkey)
    exact ⟨value, at?_snoc_eq_some_iff.mpr
      ⟨_, hfields, getItem_eq_ok_iff.mpr ⟨fields, rfl, hvalue⟩⟩⟩

theorem at?_snoc_of_not_contains (h : root.at? place = some value)
    (hcontains : value.contains key = .ok false) : root.at? (place ++ [key]) = none := by
  rw [at?_append, h, Option.bind_some, at?_key_of_not_contains hcontains]

theorem assign_cons_eq_ok_iff {step : String} :
    root.assign (step :: place) key value = .ok root' ↔
      ∃ fields child child', root = obj fields ∧ fields.lookup step = some child ∧
        child.assign place key value = .ok child' ∧
        root' = obj (insertField fields step child') := by
  simp only [assign, bind_ok_iff, getItem_eq_ok_iff, setItem_eq_ok_iff]
  constructor
  · rintro ⟨child, ⟨fields, rfl, hchild⟩, child', hassign, others, hroot, rfl⟩
    cases hroot
    exact ⟨fields, child, child', rfl, hchild, hassign, rfl⟩
  · rintro ⟨fields, child, child', rfl, hchild, hassign, rfl⟩
    exact ⟨child, ⟨fields, rfl, hchild⟩, child', hassign, fields, rfl, rfl⟩

theorem assign_of_dict (key : String) (value : Json) (h : root.at? place = some (obj fields)) :
    ∃ root', root.assign place key value = .ok root' ∧
      root'.at? place = some (obj (insertField fields key value)) := by
  induction place generalizing root with
  | nil =>
      cases h
      exact ⟨_, rfl, rfl⟩
  | cons step place ih =>
      cases root with
      | obj others =>
          rw [at?_obj_cons] at h
          cases hchild : others.lookup step with
          | none => simp [hchild] at h
          | some child =>
              rw [hchild] at h
              obtain ⟨child', hchild', hfound⟩ := ih h
              refine ⟨_, assign_cons_eq_ok_iff.mpr
                ⟨others, child, child', rfl, hchild, hchild', rfl⟩, ?_⟩
              rw [at?_obj_cons, lookup_insertField, if_pos rfl]
              exact hfound
      | _ => simp [at?] at h

theorem exists_assign (h : (root.at? (place ++ [key])).isSome = true) :
    ∃ root', root.assign place key value = .ok root' := by
  obtain ⟨fields, hfields, -⟩ := at?_snoc_isSome_iff.mp h
  obtain ⟨root', hroot', -⟩ := assign_of_dict key value hfields
  exact ⟨root', hroot'⟩

theorem at?_assign (h : root.assign place key value = .ok root') :
    root'.at? (place ++ [key]) = some value := by
  induction place generalizing root root' with
  | nil =>
      obtain ⟨fields, rfl, rfl⟩ := setItem_eq_ok_iff.mp h
      simp [at?_obj_cons, lookup_insertField, at?]
  | cons step place ih =>
      obtain ⟨fields, child, child', rfl, -, hassign, rfl⟩ := assign_cons_eq_ok_iff.mp h
      simp [at?_obj_cons, lookup_insertField, ih hassign]

theorem at?_assign_apart (h : root.assign place key value = .ok root')
    (hbelow : ¬ place ++ [key] <+: target) (habove : ¬ target <+: place ++ [key]) :
    root'.at? target = root.at? target := by
  induction place generalizing root root' target with
  | nil =>
      obtain ⟨fields, rfl, rfl⟩ := setItem_eq_ok_iff.mp h
      cases target with
      | nil => exact absurd List.nil_prefix habove
      | cons first rest =>
          have hne : first ≠ key := by
            rintro rfl
            exact hbelow (List.cons_prefix_cons.mpr ⟨rfl, List.nil_prefix⟩)
          rw [at?_obj_cons, at?_obj_cons, lookup_insertField, if_neg hne]
  | cons step place ih =>
      obtain ⟨fields, child, child', rfl, hchild, hassign, rfl⟩ := assign_cons_eq_ok_iff.mp h
      cases target with
      | nil => exact absurd List.nil_prefix habove
      | cons first rest =>
          rw [at?_obj_cons, at?_obj_cons, lookup_insertField]
          by_cases hfirst : first = step
          · subst hfirst
            have hrest := ih hassign
              (fun hprefix => hbelow (List.cons_prefix_cons.mpr ⟨rfl, hprefix⟩))
              (fun hprefix => habove (List.cons_prefix_cons.mpr ⟨rfl, hprefix⟩))
            rw [if_pos rfl, hchild]
            exact hrest
          · rw [if_neg hfirst]

theorem sameShape_assign (h : root.assign place key value = .ok root')
    (hexists : (root.at? (place ++ [key])).isSome = true)
    (hbelow : ¬ place ++ [key] <+: target) :
    SameShape (root.at? target) (root'.at? target) := by
  induction place generalizing root root' target with
  | nil =>
      obtain ⟨fields, rfl, rfl⟩ := setItem_eq_ok_iff.mp h
      cases target with
      | nil =>
          have hkey : key ∈ fields.map Prod.fst := by
            rw [← lookup_isSome_iff]
            rw [List.nil_append, at?_obj_cons] at hexists
            exact Option.isSome_of_isSome_bind hexists
          exact (keys_insertField hkey).symm
      | cons first rest =>
          have hne : first ≠ key := by
            rintro rfl
            exact hbelow (List.cons_prefix_cons.mpr ⟨rfl, List.nil_prefix⟩)
          rw [at?_obj_cons, at?_obj_cons, lookup_insertField, if_neg hne]
          exact SameShape.refl _
  | cons step place ih =>
      obtain ⟨fields, child, child', rfl, hchild, hassign, rfl⟩ := assign_cons_eq_ok_iff.mp h
      cases target with
      | nil =>
          have hstep : step ∈ fields.map Prod.fst := mem_keys_of_lookup hchild
          exact (keys_insertField hstep).symm
      | cons first rest =>
          rw [at?_obj_cons, at?_obj_cons, lookup_insertField]
          by_cases hfirst : first = step
          · subst hfirst
            rw [List.cons_append, at?_obj_cons, hchild] at hexists
            have hrest := ih hassign hexists
              (fun hprefix => hbelow (List.cons_prefix_cons.mpr ⟨rfl, hprefix⟩))
            rw [if_pos rfl, hchild]
            exact hrest
          · rw [if_neg hfirst]
            exact SameShape.refl _

end Places

end Json
