import QubershipAirflow.Library.Outlines
import QubershipAirflow.Schema.References

/-! The reused schema while it is made: an outline of the kept parameters, drawn over the
community schema. -/
namespace QubershipAirflow.Schema

open Json
open PyError (bind_ok_iff)

/-- A keyword of a node that is there for its kept properties only. -/
def sketchedKeyword (node : Json) (key : String) : Option Json :=
  if key = "additionalProperties" then (node.at? [key]).map fun _ => .bool true
  else node.at? [key]

/-- What the code has made of a node, if the outline says what it has kept of it. -/
def Renders (communitySchema : Json) : Outline String → Option Json → Option Json → Prop
  | .absent, _, found => found = none
  | .whole, original, found => ∃ node copied, original = some node ∧ found = some copied ∧
      Copyable communitySchema node ∧ Inlines communitySchema node copied
  | .part below, original, found => ∃ node element, original = some node ∧
      found = some element ∧
      (∀ key, key ≠ "properties" → element.at? [key] = sketchedKeyword node key) ∧
      (∃ properties, element.at? ["properties"] = some (.obj properties)) ∧
      ∀ key, Renders communitySchema (below key) (node.at? ["properties", key])
        (element.at? ["properties", key])

def RendersBelow (communitySchema : Json) (below : String → Outline String)
    (node element : Json) : Prop :=
  (∃ properties, element.at? ["properties"] = some (.obj properties)) ∧
    ∀ key, Renders communitySchema (below key) (node.at? ["properties", key])
      (element.at? ["properties", key])

section Steps

variable {communitySchema node element child original root root' : Json}
  {properties : List (String × Json)} {below : String → Outline String} {outline : Outline String}
  {current : Place} {key : String} {rest : List String}

theorem property_eq_ok_iff :
    property node key = .ok child ↔ node.at? ["properties", key] = some child := by
  rw [property, bind_ok_iff, show ["properties", key] = ["properties"] ++ [key] from rfl,
    at?_snoc_eq_some_iff]
  exact exists_congr fun _ => and_congr_left fun _ => at?_key_eq_some_iff.symm

theorem hasProperty_eq (h : element.at? ["properties"] = some (.obj properties)) :
    hasProperty element key = .ok (element.at? ["properties", key]).isSome := by
  obtain ⟨fields, rfl⟩ := exists_obj_of_at?_cons h
  rw [at?_obj_key] at h
  rw [at?_obj_cons, h, Option.bind_some, at?_obj_key]
  simp [hasProperty, contains, getItem, h, bind, Except.bind]

theorem reuseParam_present (hread : root.at? current = some element)
    (hchild : element.at? ["properties", key] = some child)
    (hnode : node.at? ["properties", key] = some original) :
    reuseParam communitySchema (key :: rest) current node root =
      reuseParam communitySchema rest (current ++ ["properties", key]) original root := by
  have habove : (element.at? (["properties"] ++ [key])).isSome = true :=
    Option.isSome_of_eq_some hchild
  obtain ⟨properties, hproperties⟩ := exists_obj_above habove
  rw [reuseParam, read_eq_ok_iff.mpr hread]
  simp only [bind, Except.bind]
  rw [hasProperty_eq hproperties, hchild]
  simp only [Option.isSome_some, if_true]
  rw [property_eq_ok_iff.mpr hchild, property_eq_ok_iff.mpr hnode]

theorem reuseParam_last (hread : root.at? current = some element)
    (hproperties : element.at? ["properties"] = some (.obj properties))
    (hchild : element.at? ["properties", key] = none)
    (hnode : node.at? ["properties", key] = some original) :
    reuseParam communitySchema [key] current node root = (do
      let copied ← inlineReference communitySchema original
      root.assign (current ++ ["properties"]) key copied) := by
  rw [reuseParam, read_eq_ok_iff.mpr hread]
  simp only [bind, Except.bind]
  rw [hasProperty_eq hproperties, hchild]
  simp only [Option.isSome_none, Bool.false_eq_true, if_false, List.isEmpty_nil, if_true]
  rw [property_eq_ok_iff.mpr hnode]

theorem renders_whole_iff : Renders communitySchema .whole (some node) (some element) ↔
    Copyable communitySchema node ∧ Inlines communitySchema node element := by
  constructor
  · rintro ⟨_, _, hnode, helement, h⟩
    cases hnode
    cases helement
    exact h
  · intro h
    exact ⟨node, element, rfl, rfl, h⟩

theorem renders_part_iff : Renders communitySchema (.part below) (some node) (some element) ↔
    (∀ key, key ≠ "properties" → element.at? [key] = sketchedKeyword node key) ∧
      RendersBelow communitySchema below node element := by
  constructor
  · rintro ⟨_, _, hnode, helement, h⟩
    cases hnode
    cases helement
    exact h
  · intro h
    exact ⟨node, element, rfl, rfl, h⟩

theorem Renders.exists_some {original found : Option Json}
    (h : Renders communitySchema outline original found) (hne : outline ≠ .absent) :
    ∃ node element, original = some node ∧ found = some element := by
  cases outline with
  | absent => exact absurd rfl hne
  | whole =>
      obtain ⟨node, element, hnode, helement, -⟩ := h
      exact ⟨node, element, hnode, helement⟩
  | part =>
      obtain ⟨node, element, hnode, helement, -⟩ := h
      exact ⟨node, element, hnode, helement⟩

theorem Renders.ne_absent {original : Option Json}
    (h : Renders communitySchema outline original (some element)) : outline ≠ .absent := by
  rintro rfl
  cases h

theorem RendersBelow.exists_child (h : RendersBelow communitySchema below node element)
    (hnode : node.at? ["properties", key] = some original) (hne : below key ≠ .absent) :
    ∃ child, element.at? ["properties", key] = some child ∧
      Renders communitySchema (below key) (some original) (some child) := by
  have hkey := h.2 key
  obtain ⟨_, child, -, hchild⟩ := hkey.exists_some hne
  rw [hnode, hchild] at hkey
  exact ⟨child, hchild, hkey⟩

theorem renders_sketch {fields sketched : List (String × Json)}
    (hproperties : sketched.lookup "properties" = some (.obj []))
    (hkeywords : ∀ key, key ≠ "properties" →
      sketched.lookup key = sketchedKeyword (.obj fields) key) :
    Renders communitySchema (.part fun _ => .absent) (some (.obj fields))
      (some (.obj sketched)) := by
  refine ⟨_, _, rfl, rfl, ?_, ⟨[], ?_⟩, ?_⟩
  · intro key hkey
    rw [at?_obj_key]
    exact hkeywords key hkey
  · rw [at?_obj_key]
    exact hproperties
  · intro key
    rw [at?_obj_cons, at?_obj_cons, hproperties]
    rfl

/-- The assignments that leave a copied node without its properties. -/
theorem exists_sketch {place : Place} {fields : List (String × Json)}
    (h : root.at? place = some (.obj fields)) :
    ∃ root' sketched, (do
      let customized ← root.assign place "properties" (.obj [])
      if ← (← customized.read place).contains "additionalProperties" then
        customized.assign place "additionalProperties" (.bool true)
      else pure customized) = .ok root' ∧
      root'.at? place = some sketched ∧ SameApart place root root' ∧
      Renders communitySchema (.part fun _ => .absent) (some (.obj fields)) (some sketched) := by
  obtain ⟨emptied, hemptied, hfound⟩ := assign_of_dict "properties" (.obj []) h
  have hapart : SameApart place root emptied := (SameApart.of_assign hemptied).above
  have hlookup : (insertField fields "properties" (.obj [])).lookup "additionalProperties" =
      fields.lookup "additionalProperties" := by
    rw [lookup_insertField, if_neg (by decide)]
  have hread : emptied.read place = .ok (.obj (insertField fields "properties" (.obj []))) :=
    read_eq_ok_iff.mpr hfound
  cases hadditional : fields.lookup "additionalProperties" with
  | none =>
      refine ⟨emptied, _, ?_, hfound, hapart, renders_sketch ?_ ?_⟩
      · rw [hemptied]
        simp [bind, Except.bind, hread, contains, hlookup, hadditional]
        rfl
      · rw [lookup_insertField, if_pos rfl]
      · intro key hkey
        rw [lookup_insertField, if_neg hkey, sketchedKeyword, at?_obj_key]
        split
        · subst key
          rw [hadditional]
          rfl
        · rfl
  | some value =>
      obtain ⟨opened, hopened, hsketched⟩ :=
        assign_of_dict "additionalProperties" (.bool true) hfound
      refine ⟨opened, _, ?_, hsketched, hapart.trans (SameApart.of_assign hopened).above,
        renders_sketch ?_ ?_⟩
      · rw [hemptied]
        simp [bind, Except.bind, hread, contains, hlookup, hadditional, hopened]
      · rw [lookup_insertField, if_neg (by decide), lookup_insertField, if_pos rfl]
      · intro key hkey
        rw [lookup_insertField, sketchedKeyword, at?_obj_key]
        split
        · subst key
          rw [hadditional]
          rfl
        · rw [lookup_insertField, if_neg hkey]

theorem reuseParam_through {fields : List (String × Json)} (hread : root.at? current = some element)
    (hproperties : element.at? ["properties"] = some (.obj properties))
    (hchild : element.at? ["properties", key] = none)
    (hnode : node.at? ["properties", key] = some (.obj fields)) (hrest : rest ≠ []) :
    ∃ root' sketched, reuseParam communitySchema (key :: rest) current node root =
        reuseParam communitySchema rest (current ++ ["properties", key]) (.obj fields) root' ∧
      root'.at? (current ++ ["properties", key]) = some sketched ∧
      SameApart (current ++ ["properties", key]) root root' ∧
      Renders communitySchema (.part fun _ => .absent) (some (.obj fields)) (some sketched) := by
  have hplace : current ++ ["properties", key] = (current ++ ["properties"]) ++ [key] := by simp
  have hdict : root.at? (current ++ ["properties"]) = some (.obj properties) := by
    rw [at?_append, hread]
    exact hproperties
  obtain ⟨copied, hcopied, -⟩ := assign_of_dict key (.obj fields) hdict
  have hfound : copied.at? (current ++ ["properties", key]) = some (.obj fields) := by
    rw [hplace]
    exact at?_assign hcopied
  obtain ⟨root', sketched, hsketch, hsketched, hapart, hrenders⟩ :=
    @exists_sketch communitySchema _ _ _ hfound
  have hcopiedApart : SameApart (current ++ ["properties", key]) root copied := by
    rw [hplace]
    exact SameApart.of_assign hcopied
  refine ⟨root', sketched, ?_, hsketched, hcopiedApart.trans hapart, hrenders⟩
  rw [reuseParam, read_eq_ok_iff.mpr hread]
  simp only [bind, Except.bind]
  rw [hasProperty_eq hproperties, hchild]
  simp only [Option.isSome_none, Bool.false_eq_true, if_false, List.isEmpty_iff, hrest]
  rw [property_eq_ok_iff.mpr hnode]
  obtain ⟨emptied, hemptied, hsketch⟩ := bind_ok_iff.mp hsketch
  obtain ⟨elementRead, helement, hsketch⟩ := bind_ok_iff.mp hsketch
  obtain ⟨additional, hadditional, hsketch⟩ := bind_ok_iff.mp hsketch
  simp only [hcopied, hemptied, helement, hadditional]
  cases additional with
  | false =>
      cases hsketch
      rfl
  | true =>
      rw [if_pos rfl] at hsketch ⊢
      rw [hsketch]

theorem reuseParam_inside {path : List String} (hread : root.at? current = some node)
    (hpath : (node.at? (nodePlace path)).isSome = true) :
    reuseParam communitySchema path current node root = .ok root := by
  induction path generalizing current node with
  | nil => rfl
  | cons key rest ih =>
      rw [at?_nodePlace_cons] at hpath
      obtain ⟨child, hchild⟩ := Option.isSome_iff_exists.mp (Option.isSome_of_isSome_bind hpath)
      rw [hchild, Option.bind_some] at hpath
      rw [reuseParam_present hread hchild hchild]
      apply ih _ hpath
      rw [at?_append, hread]
      exact hchild

theorem RendersBelow.update {child' : Json} (h : RendersBelow communitySchema below node element)
    (hread : root.at? current = some element)
    (hchild : root'.at? (current ++ ["properties", key]) = some child')
    (hrenders : Renders communitySchema outline (node.at? ["properties", key]) (some child'))
    (hapart : SameApart (current ++ ["properties", key]) root root') :
    ∃ element', root'.at? current = some element' ∧
      RendersBelow communitySchema (Function.update below key outline) node element' ∧
      ∀ keyword, keyword ≠ "properties" → element'.at? [keyword] = element.at? [keyword] := by
  obtain ⟨fields, hfields⟩ := exists_obj_above (Option.isSome_of_eq_some hchild)
  have hat (place : Place) : (Json.obj fields).at? place = root'.at? (current ++ place) := by
    rw [at?_append, hfields]
    rfl
  have hold (place : Place) : element.at? place = root.at? (current ++ place) := by
    rw [at?_append, hread]
    rfl
  refine ⟨_, hfields, ⟨?_, ?_⟩, ?_⟩
  · have hkey : (root'.at? ((current ++ ["properties"]) ++ [key])).isSome = true := by
      rw [List.append_assoc]
      exact Option.isSome_of_eq_some hchild
    obtain ⟨properties, hproperties⟩ := exists_obj_above hkey
    exact ⟨properties, (hat _).trans hproperties⟩
  · intro other
    by_cases hother : other = key
    · subst hother
      rw [Function.update_self, hat, hchild]
      exact hrenders
    · rw [Function.update_of_ne hother, hat, hapart]
      · rw [← hold]
        exact h.2 other
      · simp [Ne.symm hother]
      · simp [hother]
  · intro keyword hkeyword
    rw [hat, hold, hapart]
    · simp [Ne.symm hkeyword]
    · simp [hkeyword]

/-- A parameter is drawn into what is found at a place, or it cannot be copied. -/
def Draws (communitySchema : Json) (path : List String) (current : Place) (node root : Json)
    (drawn : Json → Prop) : Prop :=
  (∃ root' element', reuseParam communitySchema path current node root = .ok root' ∧
    root'.at? current = some element' ∧ drawn element' ∧ SameApart current root root') ∨
  (∃ error, reuseParam communitySchema path current node root = .error error) ∧
    ∀ target, node.at? (nodePlace path) = some target → ¬ Copyable communitySchema target

/-- A parameter is drawn into an element when its rest is drawn into the property. -/
theorem Draws.lift (hbelow : RendersBelow communitySchema below node element)
    (hread : root.at? current = some element)
    (hnode : node.at? ["properties", key] = some original)
    (hstep : reuseParam communitySchema (key :: rest) current node root =
      reuseParam communitySchema rest (current ++ ["properties", key]) original root')
    (hapart : SameApart (current ++ ["properties", key]) root root')
    (h : Draws communitySchema rest (current ++ ["properties", key]) original root' fun child' =>
      Renders communitySchema outline (some original) (some child')) :
    Draws communitySchema (key :: rest) current node root fun element' =>
      RendersBelow communitySchema (Function.update below key outline) node element' ∧
        ∀ keyword, keyword ≠ "properties" → element'.at? [keyword] = element.at? [keyword] := by
  rw [Draws, hstep]
  rcases h with ⟨drawn, child', hok, hchild, hrenders, hchanged⟩ | ⟨herror, hrefused⟩
  · have hall := hapart.trans hchanged
    rw [← hnode] at hrenders
    obtain ⟨element', helement', hdrawn, hkeywords⟩ := hbelow.update hread hchild hrenders hall
    exact .inl ⟨drawn, element', hok, helement', ⟨hdrawn, hkeywords⟩, hall.above⟩
  · refine .inr ⟨herror, fun target htarget => hrefused target ?_⟩
    rw [at?_nodePlace_cons, hnode] at htarget
    exact htarget

theorem draws_below (hbelow : RendersBelow communitySchema below node element)
    (hread : root.at? current = some element)
    (hexists : (node.at? (nodePlace (key :: rest))).isSome = true)
    (hrest : ∀ {current : Place} {node element root : Json} {outline : Outline String},
      Renders communitySchema outline (some node) (some element) →
      root.at? current = some element → (node.at? (nodePlace rest)).isSome = true →
      Draws communitySchema rest current node root fun element' =>
        Renders communitySchema (outline.keep rest) (some node) (some element')) :
    Draws communitySchema (key :: rest) current node root fun element' =>
      RendersBelow communitySchema (Outline.keepBelow below (key :: rest)) node element' ∧
        ∀ keyword, keyword ≠ "properties" → element'.at? [keyword] = element.at? [keyword] := by
  rw [at?_nodePlace_cons] at hexists
  obtain ⟨original, horiginal⟩ := Option.isSome_iff_exists.mp (Option.isSome_of_isSome_bind hexists)
  rw [horiginal, Option.bind_some] at hexists
  have hkey := hbelow.2 key
  rw [horiginal] at hkey
  cases hfound : element.at? ["properties", key] with
  | some child =>
      rw [hfound] at hkey
      apply Draws.lift hbelow hread horiginal (reuseParam_present hread hfound horiginal)
        (SameApart.refl _ _)
      apply hrest hkey _ hexists
      rw [at?_append, hread]
      exact hfound
  | none =>
      have habsent : below key = .absent := by
        by_contra hne
        obtain ⟨_, child, -, hchild⟩ := hkey.exists_some hne
        cases hfound.symm.trans hchild
      obtain ⟨properties, hproperties⟩ := hbelow.1
      rw [Outline.keepBelow, habsent]
      cases rest with
      | nil =>
          have hplace : current ++ ["properties", key] = (current ++ ["properties"]) ++ [key] := by
            simp
          rw [Draws, reuseParam_last hread hproperties hfound horiginal]
          rcases @inlineReference_spec communitySchema original with
            ⟨copied, hcopied, hcopyable, hinlines⟩ | ⟨⟨error, herror⟩, hrefused⟩
          · have hdict : root.at? (current ++ ["properties"]) = some (.obj properties) := by
              rw [at?_append, hread]
              exact hproperties
            obtain ⟨root', hroot', -⟩ := assign_of_dict key copied hdict
            have hchild : root'.at? (current ++ ["properties", key]) = some copied := by
              rw [hplace]
              exact at?_assign hroot'
            have hapart : SameApart (current ++ ["properties", key]) root root' := by
              rw [hplace]
              exact SameApart.of_assign hroot'
            have hrenders : Renders communitySchema .whole (node.at? ["properties", key])
                (some copied) := ⟨original, copied, horiginal, rfl, hcopyable, hinlines⟩
            obtain ⟨element', helement', hdrawn, hkeywords⟩ :=
              hbelow.update hread hchild hrenders hapart
            refine .inl ⟨root', element', ?_, helement', ⟨hdrawn, hkeywords⟩, hapart.above⟩
            rw [hcopied]
            exact hroot'
          · refine .inr ⟨⟨error, by rw [herror]; rfl⟩, fun target htarget => ?_⟩
            rw [at?_nodePlace_cons, horiginal] at htarget
            cases htarget
            exact hrefused
      | cons next rest =>
          -- The rest goes on in a sketch that has no properties yet.
          have hdict :
              (original.at? ([] ++ "properties" :: next :: nodePlace rest)).isSome = true :=
            hexists
          obtain ⟨fields, hfields⟩ := exists_obj_above hdict
          cases hfields
          obtain ⟨root', sketched, hstep, hsketched, hapart, hrenders⟩ :=
            reuseParam_through hread hproperties hfound horiginal (List.cons_ne_nil next rest)
          have hdrawn := hrest hrenders hsketched hexists
          exact Draws.lift hbelow hread horiginal hstep hapart hdrawn

theorem reuseParam_draws {path : List String}
    (h : Renders communitySchema outline (some node) (some element))
    (hread : root.at? current = some element)
    (hexists : (node.at? (nodePlace path)).isSome = true) :
    Draws communitySchema path current node root fun element' =>
      Renders communitySchema (outline.keep path) (some node) (some element') := by
  induction path generalizing current node element root outline with
  | nil =>
      refine .inl ⟨root, element, rfl, hread, ?_, SameApart.refl _ _⟩
      cases outline with
      | absent => cases h
      | whole => exact h
      | part => exact h
  | cons key rest ih =>
      cases outline with
      | absent => cases h
      | whole =>
          have hproperties : node.at? ["properties"] ≠ none := by
            intro hnone
            rw [nodePlace_cons, ← List.singleton_append, at?_append, hnone] at hexists
            cases hexists
          have hinlines := (renders_whole_iff.mp h).2
          obtain rfl := hinlines.eq_of_properties hproperties
          exact .inl ⟨root, _, reuseParam_inside hread hexists, hread, h, SameApart.refl _ _⟩
      | part below =>
          obtain ⟨hkeywords, hbelow⟩ := renders_part_iff.mp h
          rcases draws_below hbelow hread hexists ih with
            ⟨root', element', hok, helement', ⟨hdrawn, hsame⟩, hapart⟩ | hrefused
          · refine .inl ⟨root', element', hok, helement', renders_part_iff.mpr ⟨?_, hdrawn⟩,
              hapart⟩
            intro keyword hkeyword
            rw [hsame keyword hkeyword, hkeywords keyword hkeyword]
          · exact .inr hrefused

end Steps

end QubershipAirflow.Schema
