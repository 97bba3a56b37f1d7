import QubershipAirflow.Schema.Projection

/-! Kept parameters that are references. A definition is put in the place of a bare
reference; where the definition is one itself, the copy is a reference again. -/
namespace QubershipAirflow.Schema

open Json
open PyError (bind_ok_iff)

/-- `"$ref" in copied and "properties" not in copied` -/
def BareReference (node : Json) : Prop :=
  (node.at? ["$ref"]).isSome = true ∧ node.at? ["properties"] = none

/-- The definitions that a node leads to, one by one, end in one without properties. -/
inductive EndsWithoutProperties (communitySchema : Json) : Json → Prop where
  | last {fields defined : List (String × Json)}
      (hnames : NamesDefinition communitySchema fields defined)
      (hproperties : defined.lookup "properties" = none)
      (hlast : ∀ next, ¬ NamesDefinition communitySchema defined next) :
      EndsWithoutProperties communitySchema (.obj fields)
  | next {fields defined : List (String × Json)}
      (hnames : NamesDefinition communitySchema fields defined)
      (hends : EndsWithoutProperties communitySchema (.obj defined)) :
      EndsWithoutProperties communitySchema (.obj fields)

def NamesReference (communitySchema node : Json) : Prop :=
  ∃ fields defined, node = .obj fields ∧ NamesDefinition communitySchema fields defined ∧
    BareReference (.obj defined)

section Copies

variable {communitySchema node copied : Json} {fields defined : List (String × Json)}

theorem bareReference_obj : BareReference (.obj fields) ↔
    (fields.lookup "$ref").isSome = true ∧ fields.lookup "properties" = none := by
  rw [BareReference, at?_obj_key, at?_obj_key]

theorem NamesDefinition.bareReference (h : NamesDefinition communitySchema fields defined) :
    BareReference (.obj fields) := by
  obtain ⟨hproperties, ref, path, href, -⟩ := h
  exact bareReference_obj.2 ⟨Option.isSome_of_eq_some href, hproperties⟩

theorem not_endsWithoutProperties (hnames : NamesDefinition communitySchema fields defined)
    (hproperties : defined.lookup "properties" ≠ none) :
    ¬ EndsWithoutProperties communitySchema (.obj fields) := by
  intro h
  cases h with
  | last hother hnone => exact hproperties (hnames.unique hother ▸ hnone)
  | next hother hends =>
      rw [hnames.unique hother] at hends
      cases hends with
      | last hnext => exact hproperties hnext.1
      | next hnext => exact hproperties hnext.1

theorem NamesDefinition.endsWithoutProperties_iff {further : List (String × Json)}
    (hnames : NamesDefinition communitySchema fields defined)
    (hfurther : NamesDefinition communitySchema defined further) :
    EndsWithoutProperties communitySchema (.obj fields) ↔
      EndsWithoutProperties communitySchema (.obj defined) := by
  constructor
  · intro h
    cases h with
    | last hother _ hlast =>
        rw [hnames.unique hother] at hlast
        exact absurd hfurther (hlast further)
    | next hother hends => exact hnames.unique hother ▸ hends
  · exact .next hnames

theorem Inlines.bareReference_iff (h : Inlines communitySchema node copied) :
    BareReference copied ↔ BareReference node ∧ NamesReference communitySchema node := by
  cases h with
  | whole hwhole =>
      have hnot : ¬ BareReference node := by
        rintro ⟨href, hproperties⟩
        rcases hwhole with hnone | hsome
        · rw [hnone] at href
          cases href
        · exact hsome hproperties
      exact ⟨fun h => absurd h hnot, fun h => h.1⟩
  | @reference fields defined inlined hnames hinlined =>
      have hsame : BareReference (.obj inlined) ↔ BareReference (.obj defined) := by
        rw [bareReference_obj, bareReference_obj, hinlined, hinlined, if_pos rfl,
          if_neg (by decide), hnames.1, Option.none_or, Option.none_or]
      rw [hsame, and_iff_right hnames.bareReference]
      constructor
      · exact fun hbare => ⟨_, _, rfl, hnames, hbare⟩
      · rintro ⟨_, other, heq, hother, hbare⟩
        cases heq
        rwa [hnames.unique hother] at hbare

end Copies

section Runs

variable {communitySchema node root root' result : Json} {kept : List String}
  {path current : List String}

theorem exists_of_reuseParam_ok
    (h : reuseParam communitySchema path current node root = .ok root') :
    (node.at? (nodePlace path)).isSome = true := by
  induction path generalizing current node root with
  | nil => rfl
  | cons key rest ih =>
      rw [at?_nodePlace_cons]
      rw [reuseParam] at h
      obtain ⟨element, -, h⟩ := bind_ok_iff.mp h
      obtain ⟨present, -, h⟩ := bind_ok_iff.mp h
      cases present with
      | true =>
          obtain ⟨-, -, h⟩ := bind_ok_iff.mp h
          obtain ⟨child, hchild, h⟩ := bind_ok_iff.mp h
          rw [property_eq_ok_iff.mp hchild]
          exact ih h
      | false =>
          cases rest with
          | nil =>
              obtain ⟨child, hchild, -⟩ := bind_ok_iff.mp h
              rw [property_eq_ok_iff.mp hchild]
              rfl
          | cons next rest =>
              obtain ⟨child, hchild, h⟩ := bind_ok_iff.mp h
              obtain ⟨copied, -, h⟩ := bind_ok_iff.mp h
              obtain ⟨emptied, -, h⟩ := bind_ok_iff.mp h
              obtain ⟨sketched, -, h⟩ := bind_ok_iff.mp h
              obtain ⟨additional, -, h⟩ := bind_ok_iff.mp h
              rw [property_eq_ok_iff.mp hchild, Option.bind_some]
              cases additional with
              | false => exact ih h
              | true =>
                  obtain ⟨opened, -, h⟩ := bind_ok_iff.mp h
                  exact ih h

theorem exist_of_reuseParams_ok
    (h : kept.foldlM (fun customized valuesParam =>
      reuseParam communitySchema (pathOf valuesParam) [] communitySchema customized) root =
        .ok root') :
    Exist (keptPaths kept) communitySchema := by
  induction kept generalizing root with
  | nil => exact fun path hpath => absurd hpath List.not_mem_nil
  | cons param kept ih =>
      rw [List.foldlM_cons] at h
      obtain ⟨customized, hparam, hrest⟩ := bind_ok_iff.mp h
      intro path hpath
      rcases List.mem_cons.mp hpath with rfl | hpath
      · exact exists_of_reuseParam_ok hparam
      · exact ih hrest path hpath

theorem drawn_of_ok (h : reuseExistingParams communitySchema kept = .ok result) :
    Exist (keptPaths kept) communitySchema ∧
      Drawn communitySchema (kept.map pathOf) result := by
  obtain ⟨globals, -, hparams⟩ := bind_ok_iff.mp h
  have hexist := exist_of_reuseParams_ok hparams
  refine ⟨hexist, ?_⟩
  rcases reuseExistingParams_draws hexist with ⟨other, hother, hdrawn, -⟩ | ⟨⟨error, herror⟩, -⟩
  · cases hother.symm.trans h
    exact hdrawn
  · cases herror.symm.trans h

end Runs

section Results

variable {communitySchema node element original result : Json} {kept : List String}
  {paths : List (List String)} {path : List String} {key : String}

theorem pathsBelow_restsAt (paths : List (List String)) (key : String) :
    pathsBelow {path | path ∈ paths} key = {path | path ∈ restsAt paths key} := by
  ext rest
  exact Outline.mem_restsAt.symm

/-- A kept node is a reference where it was one and has not been replaced by more than
that: inside another copy, or by a definition that is one. -/
theorem Renders.exists_found
    (h : Renders communitySchema (.ofList paths) (some node) (some element))
    (hexist : Exist {path | path ∈ paths} node) (hpath : path ∈ paths)
    (horiginal : node.at? (nodePlace path) = some original) :
    ∃ found, element.at? (nodePlace path) = some found ∧ (BareReference found ↔
      BareReference original ∧
        (ComesInside path paths ∨ NamesReference communitySchema original)) := by
  induction path generalizing paths node element with
  | nil =>
      cases horiginal
      refine ⟨element, rfl, ?_⟩
      rw [or_iff_right Outline.not_comesInside_nil]
      cases paths with
      | nil => simp at hpath
      | cons first paths =>
      cases first with
      | nil =>
          rw [Outline.ofList_nil_cons, renders_whole_iff] at h
          exact h.2.bareReference_iff
      | cons key rest =>
          rw [Outline.ofList_cons_cons, renders_part_iff] at h
          obtain ⟨properties, hproperties⟩ := h.2.1
          have hlonger : key :: rest ∈ {path | path ∈ (key :: rest) :: paths} := List.mem_cons_self
          obtain ⟨others, hothers⟩ := hexist.hasProperties hlonger
          refine iff_of_false (fun hbare => ?_) fun hbare => ?_
          · cases hproperties.symm.trans hbare.2
          · cases hothers.symm.trans hbare.1.2
  | cons key rest ih =>
      obtain ⟨child, hchild⟩ := hexist.exists_child hpath
      rw [at?_nodePlace_of_child hchild] at horiginal
      cases paths with
      | nil => simp at hpath
      | cons first paths =>
      cases first with
      | nil =>
          -- All of the node is there, and what is kept below it changes nothing.
          rw [Outline.ofList_nil_cons, renders_whole_iff] at h
          obtain ⟨properties, hproperties⟩ := hexist.hasProperties hpath
          obtain rfl := h.2.eq_of_properties (by simp [hproperties])
          refine ⟨original, (at?_nodePlace_of_child hchild rest).trans horiginal, ?_⟩
          rw [and_iff_left (.inl Outline.comesInside_of_head)]
      | cons other others =>
          rw [Outline.ofList_cons_cons, renders_part_iff] at h
          have hrest : rest ∈ restsAt ((other :: others) :: paths) key :=
            Outline.mem_restsAt.2 hpath
          obtain ⟨found, hfound, hrenders⟩ :=
            h.2.exists_child hchild (Outline.ofList_ne_absent hrest)
          have hbelow := hexist.below hchild
          rw [pathsBelow_restsAt] at hbelow
          rw [at?_nodePlace_of_child hfound,
            Outline.comesInside_cons (by simp [Outline.comesFirst_nil_cons])]
          exact ih hrenders hbelow hrest horiginal

theorem not_comesFirst_nil (kept : List String) : ¬ ComesFirst [] (kept.map pathOf) := by
  intro h
  obtain ⟨param, -, hparam⟩ := List.mem_map.mp (List.mem_of_find?_eq_some h)
  exact pathOf_ne_nil param hparam

theorem Drawn.exists_found {param : String}
    (h : Drawn communitySchema (kept.map pathOf) result)
    (hexist : Exist (keptPaths kept) communitySchema) (hparam : param ∈ kept) :
    ∃ original found, communitySchema.at? (paramPlace param) = some original ∧
      result.at? (paramPlace param) = some found ∧ (BareReference found ↔
        BareReference original ∧ (ComesInside (pathOf param) (kept.map pathOf) ∨
          NamesReference communitySchema original)) := by
  have hmem : pathOf param ∈ keptPaths kept := List.mem_map_of_mem hparam
  have hplace : paramPlace param = nodePlace (pathOf param) := rfl
  obtain ⟨original, horiginal⟩ := Option.isSome_iff_exists.mp (hexist _ hmem)
  rw [hplace]
  cases hpath : pathOf param with
  | nil => exact absurd hpath (pathOf_ne_nil param)
  | cons key rest =>
      rw [hpath] at hmem horiginal
      obtain ⟨child, element, hchild, helement, hrenders⟩ := h.child hexist hmem
      rw [Outline.ofPaths_eq_ofList] at hrenders
      have hbelow := hexist.below hchild
      rw [keptPaths, pathsBelow_restsAt] at hbelow
      rw [at?_nodePlace_of_child hchild] at horiginal
      rw [at?_nodePlace_of_child hchild, at?_nodePlace_of_child helement,
        Outline.comesInside_cons (not_comesFirst_nil kept)]
      obtain ⟨found, hfound⟩ :=
        hrenders.exists_found hbelow (Outline.mem_restsAt.2 hmem) horiginal
      exact ⟨original, found, horiginal, hfound⟩

/-- No kept parameter is a bare reference, unless its definitions have no properties. -/
def SeenInlined (communitySchema : Json) (kept : List String) (result : Json) : Prop :=
  ∀ param ∈ kept, ∃ node element, communitySchema.at? (paramPlace param) = some node ∧
    result.at? (paramPlace param) = some element ∧
    (BareReference element → EndsWithoutProperties communitySchema node)

theorem reuseExistingParams_seenInlined_iff
    (h : reuseExistingParams communitySchema kept = .ok result) :
    SeenInlined communitySchema kept result ↔
      ∀ param ∈ kept, ∀ node, communitySchema.at? (paramPlace param) = some node →
        BareReference node →
        ComesInside (pathOf param) (kept.map pathOf) ∨ NamesReference communitySchema node →
        EndsWithoutProperties communitySchema node := by
  obtain ⟨hexist, hdrawn⟩ := drawn_of_ok h
  refine forall₂_congr fun param hparam => ?_
  obtain ⟨original, found, horiginal, hfound, hbare⟩ := hdrawn.exists_found hexist hparam
  constructor
  · rintro ⟨node, element, hnode, helement, hends⟩ _ hnode' hbare' hstays
    cases hnode.symm.trans hnode'
    cases horiginal.symm.trans hnode
    cases hfound.symm.trans helement
    exact hends (hbare.2 ⟨hbare', hstays⟩)
  · intro hends
    refine ⟨original, found, horiginal, hfound, fun hfoundBare => ?_⟩
    obtain ⟨hbare', hstays⟩ := hbare.1 hfoundBare
    exact hends original horiginal hbare' hstays

end Results

def labelsSchema (definitions : List (String × Json)) : Json :=
  .obj [("$schema", .str "http://json-schema.org/draft-07/schema#"), ("description", .str ""),
    ("type", .str "object"), ("definitions", .obj definitions),
    ("properties", .obj [("labels", .obj [("$ref", .str "#/definitions/labels")])])]

def definedLabels : Json := labelsSchema [("labels", .obj [("properties", .obj [])])]

def renamedLabels : Json :=
  labelsSchema [("labels", .obj [("$ref", .str "#/definitions/common")]),
    ("common", .obj [("properties", .obj [])])]

theorem definedLabels_seenInlined : ∃ result,
    reuseExistingParams definedLabels ["labels"] = .ok result ∧
      SeenInlined definedLabels ["labels"] result := by
  refine ⟨_, rfl, (reuseExistingParams_seenInlined_iff rfl).mpr ?_⟩
  rw [List.forall_mem_singleton]
  rintro _ ⟨⟩ - (⟨above, hfirst, habove, hne⟩ | ⟨_, defined, ⟨⟩, hnames, hbare⟩)
  · rcases List.prefix_cons_iff.mp habove with rfl | ⟨rest, rfl, hrest⟩
    · exact absurd hfirst (not_comesFirst_nil _)
    · exact absurd (List.prefix_nil.mp hrest ▸ rfl) hne
  · have hdefined : NamesDefinition definedLabels [("$ref", .str "#/definitions/labels")]
        [("properties", .obj [])] := ⟨rfl, _, _, rfl, rfl, rfl⟩
    obtain rfl := hdefined.unique hnames
    cases hbare.1

theorem renamedLabels_stay_reference : ∃ result,
    reuseExistingParams renamedLabels ["labels"] = .ok result ∧
      ¬ SeenInlined renamedLabels ["labels"] result := by
  refine ⟨_, rfl, fun hseen => ?_⟩
  obtain ⟨node, element, hnode, helement, hends⟩ := hseen "labels" List.mem_cons_self
  cases hnode
  cases helement
  have hnames : NamesDefinition renamedLabels [("$ref", .str "#/definitions/labels")]
      [("$ref", .str "#/definitions/common")] := ⟨rfl, _, _, rfl, rfl, rfl⟩
  have hfurther : NamesDefinition renamedLabels [("$ref", .str "#/definitions/common")]
      [("properties", .obj [])] := ⟨rfl, _, _, rfl, rfl, rfl⟩
  rw [hnames.endsWithoutProperties_iff hfurther] at hends
  exact not_endsWithoutProperties hfurther (by simp) (hends ⟨rfl, rfl⟩)

end QubershipAirflow.Schema
