import QubershipAirflow.Library.JsonAlike
import QubershipAirflow.Schema.ValuesChecks

/-! References of the community schema to its definitions, and the copies that have the
definition in their place. -/
namespace QubershipAirflow.Schema

open Json
open PyError (bind_ok_iff)

/-- A reference to a definition, from a node without properties of its own. -/
def NamesDefinition (communitySchema : Json) (fields defined : List (String × Json)) : Prop :=
  fields.lookup "properties" = none ∧ ∃ ref path, fields.lookup "$ref" = some ref ∧
    refPath ref = .ok path ∧ communitySchema.at? path = some (.obj defined)

/-- A node itself, or the definition that it is a bare reference to, under its own
keywords. -/
inductive Inlines (communitySchema : Json) : Json → Json → Prop where
  | whole {node : Json} (hwhole : node.at? ["$ref"] = none ∨ node.at? ["properties"] ≠ none) :
      Inlines communitySchema node node
  | reference {fields defined inlined : List (String × Json)}
      (hnames : NamesDefinition communitySchema fields defined)
      (hinlined : ∀ key, inlined.lookup key =
        (if key = "$ref" then none else fields.lookup key).or (defined.lookup key)) :
      Inlines communitySchema (.obj fields) (.obj inlined)

/-- A node in which keywords can be looked for; a bare reference names a definition. -/
inductive Copyable (communitySchema : Json) : Json → Prop where
  | plain {node : Json} (href : node.contains "$ref" = .ok false) : Copyable communitySchema node
  | properties {node : Json} (href : node.contains "$ref" = .ok true)
      (hproperties : node.contains "properties" = .ok true) : Copyable communitySchema node
  | reference {fields defined : List (String × Json)}
      (hnames : NamesDefinition communitySchema fields defined) :
      Copyable communitySchema (.obj fields)

section Copies

variable {communitySchema node copied : Json} {fields defined : List (String × Json)}

theorem NamesDefinition.unique {other : List (String × Json)}
    (h : NamesDefinition communitySchema fields defined)
    (h' : NamesDefinition communitySchema fields other) : other = defined := by
  obtain ⟨-, ref, path, href, hpath, hdefined⟩ := h
  obtain ⟨-, ref', path', href', hpath', hother⟩ := h'
  cases href.symm.trans href'
  cases hpath.symm.trans hpath'
  cases hdefined.symm.trans hother
  rfl

theorem NamesDefinition.not_whole (h : NamesDefinition communitySchema fields defined) :
    ¬ ((Json.obj fields).at? ["$ref"] = none ∨ (Json.obj fields).at? ["properties"] ≠ none) := by
  obtain ⟨hproperties, ref, path, href, -⟩ := h
  simp [at?_obj_key, href, hproperties]

theorem Inlines.alike {other : Json} (h : Inlines communitySchema node copied)
    (h' : Inlines communitySchema node other) : Alike (some copied) (some other) := by
  cases h with
  | whole hwhole =>
      cases h' with
      | whole => exact Alike.refl _
      | reference hnames => exact absurd hwhole hnames.not_whole
  | reference hnames hinlined =>
      cases h' with
      | whole hwhole => exact absurd hwhole hnames.not_whole
      | reference hnames' hinlined' =>
          obtain rfl := hnames.unique hnames'
          apply alike_obj
          intro key
          rw [hinlined, hinlined']
          exact Alike.refl _

theorem Inlines.eq_of_properties (h : Inlines communitySchema node copied)
    (hproperties : node.at? ["properties"] ≠ none) : copied = node := by
  cases h with
  | whole => rfl
  | reference hnames => exact absurd (.inr hproperties) hnames.not_whole

theorem Inlines.eq_of_plain (h : Inlines communitySchema node copied)
    (hplain : node.at? ["$ref"] = none) : copied = node := by
  cases h with
  | whole => rfl
  | reference hnames => exact absurd (.inl hplain) hnames.not_whole

theorem lookup_inlined (copied defined : List (String × Json)) (key : String) :
    (defined.foldl
      (fun copied field =>
        if field.1 ∈ copied.map Prod.fst then copied else copied ++ [field]) copied).lookup key =
      (copied.lookup key).or (defined.lookup key) := by
  induction defined generalizing copied with
  | nil => simp
  | cons field defined ih =>
      obtain ⟨name, value⟩ := field
      rw [List.foldl_cons, ih, lookup_entry]
      by_cases hname : name ∈ copied.map Prod.fst
      · rw [if_pos hname]
        by_cases hkey : key = name
        · subst hkey
          obtain ⟨found, hfound⟩ :=
            Option.isSome_iff_exists.mp ((lookup_isSome_iff _ _).mpr hname)
          rw [hfound, Option.some_or, Option.some_or]
        · rw [if_neg hkey]
      · rw [if_neg hname, List.lookup_append, lookup_entry, List.lookup_nil]
        by_cases hkey : key = name
        · rw [if_pos hkey, if_pos hkey]
          cases copied.lookup key <;> rfl
        · rw [if_neg hkey, if_neg hkey, Option.or_none]

theorem inlineReference_bare {ref : Json} (hproperties : fields.lookup "properties" = none)
    (href : fields.lookup "$ref" = some ref) :
    inlineReference communitySchema (.obj fields) = (do
      let refDef ← communitySchema.read (← refPath ref)
      match refDef with
      | .obj defined => return .obj (defined.foldl
          (fun copied field =>
            if field.1 ∈ copied.map Prod.fst then copied else copied ++ [field])
          (fields.filter fun field => field.1 ≠ "$ref"))
      | _ => throw .attributeError) := by
  simp only [inlineReference, contains, getItem, href, hproperties, Option.isSome_some,
    Option.isSome_none, Except.bind, bind, Bool.not_false, Bool.and_self, if_true]
  cases hpath : refPath ref with
  | error => rfl
  | ok path =>
      dsimp only
      cases communitySchema.read path with
      | error => rfl
      | ok refDef => cases refDef <;> rfl

theorem namesDefinition_iff {ref : Json} (hproperties : fields.lookup "properties" = none)
    (href : fields.lookup "$ref" = some ref) : NamesDefinition communitySchema fields defined ↔
      ∃ path, refPath ref = .ok path ∧ communitySchema.at? path = some (.obj defined) := by
  simp [NamesDefinition, hproperties, href]

theorem inlineReference_reference {ref : Json} (hproperties : fields.lookup "properties" = none)
    (href : fields.lookup "$ref" = some ref) :
    (∃ defined inlined, NamesDefinition communitySchema fields defined ∧
      inlineReference communitySchema (.obj fields) = .ok (.obj inlined) ∧
      ∀ key, inlined.lookup key =
        (if key = "$ref" then none else fields.lookup key).or (defined.lookup key)) ∨
    (∃ error, inlineReference communitySchema (.obj fields) = .error error) ∧
      ∀ defined, ¬ NamesDefinition communitySchema fields defined := by
  rw [inlineReference_bare hproperties href]
  cases hpath : refPath ref with
  | error error =>
      refine .inr ⟨⟨error, rfl⟩, ?_⟩
      intro defined hnames
      obtain ⟨path, hpath', -⟩ := (namesDefinition_iff hproperties href).mp hnames
      cases hpath.symm.trans hpath'
  | ok path =>
      cases hread : communitySchema.read path with
      | error error =>
          refine .inr ⟨⟨error, by simp [bind, Except.bind, hread]⟩, ?_⟩
          intro defined hnames
          obtain ⟨path', hpath', hdefined⟩ := (namesDefinition_iff hproperties href).mp hnames
          cases hpath.symm.trans hpath'
          cases hread.symm.trans (read_eq_ok_iff.mpr hdefined)
      | ok refDef =>
          cases refDef with
          | obj defined =>
              refine .inl ⟨defined, _, ⟨hproperties, ref, path, href, hpath,
                read_eq_ok_iff.mp hread⟩, by simp only [bind, Except.bind, hread]; rfl, ?_⟩
              intro key
              rw [lookup_inlined, lookup_filter_keys fields key fun name => name ≠ "$ref"]
              by_cases hkey : key = "$ref" <;> simp [hkey]
          | _ =>
              refine .inr ⟨⟨_, by simp only [bind, Except.bind, hread]; rfl⟩, ?_⟩
              intro defined hnames
              obtain ⟨path', hpath', hdefined⟩ := (namesDefinition_iff hproperties href).mp hnames
              cases hpath.symm.trans hpath'
              cases (read_eq_ok_iff.mp hread).symm.trans hdefined

theorem inlineReference_spec :
    (∃ copied, inlineReference communitySchema node = .ok copied ∧
      Copyable communitySchema node ∧ Inlines communitySchema node copied) ∨
    (∃ error, inlineReference communitySchema node = .error error) ∧
      ¬ Copyable communitySchema node := by
  cases href : node.contains "$ref" with
  | error error =>
      refine .inr ⟨⟨error, by simp [inlineReference, href, bind, Except.bind]⟩, ?_⟩
      intro hcopyable
      cases hcopyable with
      | plain h => cases href.symm.trans h
      | properties h => cases href.symm.trans h
      | reference => cases href
  | ok named =>
  cases hproperties : node.contains "properties" with
  | error error => cases node <;> simp [contains] at href hproperties
  | ok own =>
  cases named with
  | false =>
      refine .inl ⟨node, ?_, .plain href, .whole (.inl (at?_key_of_not_contains href))⟩
      simp only [inlineReference, href, hproperties, bind, Except.bind]
      rfl
  | true =>
  cases own with
  | true =>
      refine .inl ⟨node, ?_, .properties href hproperties, .whole ?_⟩
      · simp only [inlineReference, href, hproperties, bind, Except.bind]
        rfl
      · cases node with
        | obj fields =>
            right
            rw [at?_obj_key, ← Option.isSome_iff_ne_none]
            exact Except.ok.inj hproperties
        | _ => exact .inl rfl
  | false =>
      cases node with
      | obj fields =>
          have hlookup : fields.lookup "properties" = none := by simpa [contains] using hproperties
          obtain ⟨ref, hname⟩ := Option.isSome_iff_exists.mp (Except.ok.inj href)
          have hreference := @inlineReference_reference communitySchema fields ref hlookup hname
          rcases hreference with ⟨defined, inlined, hnames, hok, hinlined⟩ | ⟨herror, hnone⟩
          · exact .inl ⟨_, hok, .reference hnames, .reference hnames hinlined⟩
          · refine .inr ⟨herror, fun hcopyable => ?_⟩
            cases hcopyable with
            | plain h => cases href.symm.trans h
            | properties _ h => cases hproperties.symm.trans h
            | reference hnames => exact hnone _ hnames
      | _ =>
          refine .inr ⟨⟨.typeError,
            by simp [inlineReference, href, hproperties, bind, Except.bind, getItem]⟩, ?_⟩
          intro hcopyable
          cases hcopyable with
          | plain h => cases href.symm.trans h
          | properties _ h => cases hproperties.symm.trans h

end Copies

end QubershipAirflow.Schema
