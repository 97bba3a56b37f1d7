import QubershipAirflow.Schema.Overlaps

/-! The reused schema as a projection of the community schema to the kept parameters, and
when it is one. -/
namespace QubershipAirflow.Schema

open Json
open PyError (bind_ok_iff)

def keptPaths (kept : List String) : Set (List String) := {path | path ∈ kept.map pathOf}

/-- The property paths of the result are those of the kept parameters; each parameter has
its subtree of the community schema. -/
structure IsProjection (communitySchema : Json) (kept : List String) (result : Json) : Prop where
  resolves : ∀ path, path ≠ [] → ((result.at? (nodePlace path)).isSome = true ↔
    (∃ param ∈ keptPaths kept, path <+: param) ∨
    ∃ param ∈ keptPaths kept, ∃ rest node copied, path = param ++ rest ∧
      communitySchema.at? (nodePlace param) = some node ∧
      Inlines communitySchema node copied ∧ (copied.at? (nodePlace rest)).isSome = true)
  subtrees : ∀ param ∈ keptPaths kept, ∃ node copied,
    communitySchema.at? (nodePlace param) = some node ∧
      Inlines communitySchema node copied ∧ Alike (result.at? (nodePlace param)) (some copied)

/-- The result is the projection, the same in any order of the kept parameters. -/
def Projects (communitySchema : Json) (kept : List String) : Prop :=
  ∃ result, reuseExistingParams communitySchema kept = .ok result ∧
    IsProjection communitySchema kept result ∧
    ∀ reordered : List String, reordered.Perm kept →
      ∃ other, reuseExistingParams communitySchema reordered = .ok other ∧
        Alike (some other) (some result)

/-- The schema has the global keywords, the kept nodes can be copied, and a sketch that is
made of a kept parameter for a longer one loses nothing. -/
structure Reusable (communitySchema : Json) (kept : List String) : Prop where
  globals : ∀ keyword ∈ globalParamsToKeep, (communitySchema.at? [keyword]).isSome = true
  copyable : ∀ param ∈ keptPaths kept, ∀ node,
    communitySchema.at? (nodePlace param) = some node → Copyable communitySchema node
  overlaps : OverlapsWhole communitySchema (keptPaths kept) communitySchema

section Runs

variable {communitySchema root root' result : Json} {kept : List String}
  {below : String → Outline String} {path rest : List String} {key : String}

theorem pathOf_ne_nil (valuesParam : String) : pathOf valuesParam ≠ [] := by
  simp [pathOf, splitAt]

theorem ne_nil_of_mem_keptPaths (h : path ∈ keptPaths kept) : path ≠ [] := by
  obtain ⟨param, -, rfl⟩ := List.mem_map.mp h
  exact pathOf_ne_nil param

theorem keptPaths_perm {reordered : List String} (h : reordered.Perm kept) :
    keptPaths reordered = keptPaths kept := by
  ext path
  exact (h.map pathOf).mem_iff

theorem readGlobals_ok (keywords : List String)
    (h : ∀ keyword ∈ keywords, (communitySchema.at? [keyword]).isSome = true) :
    ∃ globals, (keywords.mapM fun globalParam => do
      return (globalParam, ← communitySchema.getItem globalParam)) = Except.ok globals := by
  induction keywords with
  | nil => exact ⟨[], rfl⟩
  | cons keyword keywords ih =>
      obtain ⟨hkeyword, hkeywords⟩ := List.forall_mem_cons.mp h
      obtain ⟨value, hvalue⟩ := Option.isSome_iff_exists.mp hkeyword
      obtain ⟨globals, hglobals⟩ := ih hkeywords
      refine ⟨(keyword, value) :: globals, ?_⟩
      rw [List.mapM_cons, at?_key_eq_some_iff.mp hvalue, hglobals]
      rfl

theorem of_readGlobals_ok {keywords : List String} {globals : List (String × Json)}
    (h : (keywords.mapM fun globalParam => do
      return (globalParam, ← communitySchema.getItem globalParam)) = Except.ok globals) :
    (∀ keyword ∈ keywords, (communitySchema.at? [keyword]).isSome = true) ∧
      ∀ keyword, globals.lookup keyword =
        if keyword ∈ keywords then communitySchema.at? [keyword] else none := by
  induction keywords generalizing globals with
  | nil =>
      cases h
      simp
  | cons first keywords ih =>
      rw [List.mapM_cons] at h
      obtain ⟨field, hfield, h⟩ := bind_ok_iff.mp h
      obtain ⟨value, hvalue, hpair⟩ := bind_ok_iff.mp hfield
      obtain ⟨rest, hrest, h⟩ := bind_ok_iff.mp h
      cases hpair
      cases h
      obtain ⟨hall, hlookup⟩ := ih hrest
      have hfirst := at?_key_eq_some_iff.mpr hvalue
      refine ⟨List.forall_mem_cons.mpr ⟨Option.isSome_of_eq_some hfirst, hall⟩, ?_⟩
      intro keyword
      rw [lookup_entry, hlookup]
      by_cases hkeyword : keyword = first
      · subst hkeyword
        rw [if_pos rfl, if_pos List.mem_cons_self, hfirst]
      · rw [if_neg hkeyword]
        simp only [List.mem_cons, hkeyword, false_or]

theorem reuseParams_draw (hbelow : RendersBelow communitySchema below communitySchema root)
    (hexist : Exist (keptPaths kept) communitySchema) :
    (∃ root', kept.foldlM (fun customized valuesParam =>
        reuseParam communitySchema (pathOf valuesParam) [] communitySchema customized) root =
          .ok root' ∧
      RendersBelow communitySchema ((kept.map pathOf).foldl Outline.keepBelow below)
        communitySchema root' ∧
      ∀ keyword, keyword ≠ "properties" → root'.at? [keyword] = root.at? [keyword]) ∨
    (∃ error, kept.foldlM (fun customized valuesParam =>
        reuseParam communitySchema (pathOf valuesParam) [] communitySchema customized) root =
          .error error) ∧
      ∃ param ∈ keptPaths kept, ∀ node, communitySchema.at? (nodePlace param) = some node →
        ¬ Copyable communitySchema node := by
  induction kept generalizing root below with
  | nil => exact .inl ⟨root, rfl, hbelow, fun _ _ => rfl⟩
  | cons param kept ih =>
      have hrest : Exist (keptPaths kept) communitySchema := by
        intro path hpath
        exact hexist path (List.mem_cons_of_mem _ hpath)
      have hparam := hexist (pathOf param) List.mem_cons_self
      rw [List.foldlM_cons]
      cases hpath : pathOf param with
      | nil => exact absurd hpath (pathOf_ne_nil param)
      | cons key rest =>
      rw [hpath] at hparam
      have hread : root.at? [] = some root := rfl
      rcases draws_below hbelow hread hparam reuseParam_draws with
        ⟨drawn, element, hok, helement, ⟨hdrawn, hkeywords⟩, -⟩ | ⟨⟨error, herror⟩, hrefused⟩
      · cases helement
        rw [hok, List.map_cons, List.foldl_cons, hpath]
        rcases ih hdrawn hrest with
          ⟨root', hrun, hrendered, hsame⟩ | ⟨⟨error, herror⟩, refused, hmem, hrefused⟩
        · refine .inl ⟨root', hrun, hrendered, fun keyword hkeyword => ?_⟩
          rw [hsame keyword hkeyword, hkeywords keyword hkeyword]
        · exact .inr ⟨⟨error, herror⟩, refused, List.mem_cons_of_mem _ hmem, hrefused⟩
      · refine .inr ⟨⟨error, by rw [herror]; rfl⟩, key :: rest, ?_, hrefused⟩
        rw [← hpath]
        exact List.mem_cons_self

structure Drawn (communitySchema : Json) (paths : List (List String)) (result : Json) : Prop where
  below : RendersBelow communitySchema (Outline.ofPaths paths) communitySchema result
  keywords : ∀ keyword, keyword ≠ "properties" → result.at? [keyword] =
    if keyword ∈ globalParamsToKeep then communitySchema.at? [keyword] else none

theorem reuseExistingParams_draws (hexist : Exist (keptPaths kept) communitySchema) :
    (∃ result, reuseExistingParams communitySchema kept = .ok result ∧
      Drawn communitySchema (kept.map pathOf) result ∧
      ∀ keyword ∈ globalParamsToKeep, (communitySchema.at? [keyword]).isSome = true) ∨
    (∃ error, reuseExistingParams communitySchema kept = .error error) ∧
      ¬ Reusable communitySchema kept := by
  cases hglobals : globalParamsToKeep.mapM (m := Except PyError) fun globalParam => do
      return (globalParam, ← communitySchema.getItem globalParam) with
  | error error =>
      refine .inr ⟨⟨error, ?_⟩, fun hreusable => ?_⟩
      · rw [reuseExistingParams, hglobals]
        rfl
      · obtain ⟨globals, hok⟩ := readGlobals_ok _ hreusable.globals
        cases hglobals.symm.trans hok
  | ok globals =>
      obtain ⟨hall, hlookup⟩ := of_readGlobals_ok hglobals
      have hinitial : ∀ keyword, (globals ++ [("properties", Json.obj [])]).lookup keyword =
          (if keyword ∈ globalParamsToKeep then communitySchema.at? [keyword] else none).or
            (if keyword = "properties" then some (Json.obj []) else none) := by
        intro keyword
        rw [List.lookup_append, hlookup, lookup_entry, List.lookup_nil]
      have hproperties :
          (globals ++ [("properties", Json.obj [])]).lookup "properties" = some (Json.obj []) := by
        rw [hinitial, if_neg (by decide), if_pos rfl, Option.none_or]
      have hbelow : RendersBelow communitySchema (fun _ => .absent) communitySchema
          (.obj (globals ++ [("properties", .obj [])])) := by
        refine ⟨⟨[], ?_⟩, fun key => ?_⟩
        · rw [at?_obj_key]
          exact hproperties
        · rw [at?_obj_cons, hproperties]
          rfl
      rw [reuseExistingParams, hglobals]
      rcases reuseParams_draw hbelow hexist with
        ⟨result, hrun, hrendered, hsame⟩ | ⟨⟨error, herror⟩, param, hparam, hrefused⟩
      · refine .inl ⟨result, hrun, ⟨hrendered, fun keyword hkeyword => ?_⟩, hall⟩
        rw [hsame keyword hkeyword, at?_obj_key, hinitial, if_neg hkeyword, Option.or_none]
      · refine .inr ⟨⟨error, herror⟩, fun hreusable => ?_⟩
        obtain ⟨node, hnode⟩ := Option.isSome_iff_exists.mp (hexist param hparam)
        exact hrefused node hnode (hreusable.copyable param hparam node hnode)

end Runs

section Results

variable {communitySchema result other node copied : Json} {kept reordered : List String}
  {path rest : List String} {key : String}

theorem Drawn.child (h : Drawn communitySchema (kept.map pathOf) result)
    (hexist : Exist (keptPaths kept) communitySchema) (hpath : key :: rest ∈ keptPaths kept) :
    ∃ child element, communitySchema.at? ["properties", key] = some child ∧
      result.at? ["properties", key] = some element ∧
      Renders communitySchema (Outline.ofPaths (kept.map pathOf) key) (some child)
        (some element) := by
  obtain ⟨child, hchild⟩ := hexist.exists_child hpath
  have hout := Outline.outlines_ofPaths (kept.map pathOf) key
  obtain ⟨element, helement, hrenders⟩ :=
    h.below.exists_child hchild (hout.nonempty_iff.mp ⟨rest, hpath⟩)
  exact ⟨child, element, hchild, helement, hrenders⟩

theorem Drawn.alike_at (h : Drawn communitySchema (kept.map pathOf) result)
    (hexist : Exist (keptPaths kept) communitySchema)
    (hoverlaps : OverlapsWhole communitySchema (keptPaths kept) communitySchema)
    (hpath : path ∈ keptPaths kept) (hnode : communitySchema.at? (nodePlace path) = some node)
    (hinlines : Inlines communitySchema node copied) :
    Alike (result.at? (nodePlace path)) (some copied) := by
  cases path with
  | nil => exact absurd rfl (ne_nil_of_mem_keptPaths hpath)
  | cons key rest =>
      obtain ⟨child, element, hchild, helement, hrenders⟩ := h.child hexist hpath
      rw [at?_nodePlace_of_child hchild] at hnode
      rw [at?_nodePlace_of_child helement]
      exact hrenders.alike_at (Outline.outlines_ofPaths _ key) (hexist.below hchild)
        (hoverlaps.below hchild) hpath hnode hinlines

theorem Drawn.resolves (h : Drawn communitySchema (kept.map pathOf) result) (hne : path ≠ [])
    (hpath : (result.at? (nodePlace path)).isSome = true) :
    (∃ param ∈ keptPaths kept, path <+: param) ∨
    ∃ param ∈ keptPaths kept, ∃ rest node copied, path = param ++ rest ∧
      communitySchema.at? (nodePlace param) = some node ∧
      Inlines communitySchema node copied ∧ (copied.at? (nodePlace rest)).isSome = true := by
  cases path with
  | nil => exact absurd rfl hne
  | cons key path =>
      rw [at?_nodePlace_cons] at hpath
      obtain ⟨element, helement⟩ := Option.isSome_iff_exists.mp (Option.isSome_of_isSome_bind hpath)
      rw [helement, Option.bind_some] at hpath
      have hkey := h.below.2 key
      rw [helement] at hkey
      rcases hkey.resolves (Outline.outlines_ofPaths _ key) hpath with
        ⟨param, hparam, hprefix⟩ |
        ⟨param, hparam, rest, child, node, copied, rfl, hchild, hnode, hinlines, hrest⟩
      · exact .inl ⟨key :: param, hparam, List.cons_prefix_cons.mpr ⟨rfl, hprefix⟩⟩
      · refine .inr ⟨key :: param, hparam, rest, node, copied, rfl, ?_, hinlines, hrest⟩
        rw [at?_nodePlace_of_child hchild]
        exact hnode

theorem Drawn.alike (h : Drawn communitySchema (kept.map pathOf) result)
    (h' : Drawn communitySchema (reordered.map pathOf) other)
    (hperm : reordered.Perm kept) (hexist : Exist (keptPaths kept) communitySchema)
    (hoverlaps : OverlapsWhole communitySchema (keptPaths kept) communitySchema) :
    Alike (some other) (some result) := by
  obtain ⟨properties, hproperties⟩ := h.below.1
  obtain ⟨others, hothers⟩ := h'.below.1
  refine alike_of_properties hothers hproperties ?_ ?_
  · intro keyword hkeyword
    rw [h'.keywords keyword hkeyword, h.keywords keyword hkeyword]
  · intro key
    have hout : Outline.Outlines (pathsBelow (keptPaths kept) key)
        (Outline.ofPaths (reordered.map pathOf) key) := by
      rw [← keptPaths_perm hperm]
      exact Outline.outlines_ofPaths _ key
    exact Renders.alike hout (Outline.outlines_ofPaths _ key) (h'.below.2 key) (h.below.2 key)
      (fun _ hchild => hexist.below hchild) (fun _ hchild => hoverlaps.below hchild)

theorem Reusable.exists_copied (h : Reusable communitySchema kept)
    (hexist : Exist (keptPaths kept) communitySchema) (hpath : path ∈ keptPaths kept) :
    ∃ node copied, communitySchema.at? (nodePlace path) = some node ∧
      Inlines communitySchema node copied := by
  obtain ⟨node, hnode⟩ := Option.isSome_iff_exists.mp (hexist path hpath)
  rcases @inlineReference_spec communitySchema node with ⟨copied, -, -, hinlines⟩ | ⟨-, hrefused⟩
  · exact ⟨node, copied, hnode, hinlines⟩
  · exact absurd (h.copyable path hpath node hnode) hrefused

theorem Drawn.isProjection (h : Drawn communitySchema (kept.map pathOf) result)
    (hexist : Exist (keptPaths kept) communitySchema) (hreusable : Reusable communitySchema kept) :
    IsProjection communitySchema kept result := by
  have hsubtrees : ∀ param ∈ keptPaths kept, ∃ node copied,
      communitySchema.at? (nodePlace param) = some node ∧
        Inlines communitySchema node copied ∧
        Alike (result.at? (nodePlace param)) (some copied) := by
    intro param hparam
    obtain ⟨node, copied, hnode, hinlines⟩ := hreusable.exists_copied hexist hparam
    exact ⟨node, copied, hnode, hinlines,
      h.alike_at hexist hreusable.overlaps hparam hnode hinlines⟩
  refine ⟨fun path hne => ⟨h.resolves hne, ?_⟩, hsubtrees⟩
  rintro (⟨param, hparam, rest, rfl⟩ |
    ⟨param, hparam, rest, node, copied, rfl, hnode, hinlines, hrest⟩)
  · obtain ⟨node, copied, -, -, halike⟩ := hsubtrees _ hparam
    have hsome := halike.symm.isSome_eq
    rw [nodePlace_append, at?_append] at hsome
    exact Option.isSome_of_isSome_bind hsome
  · have halike := h.alike_at hexist hreusable.overlaps hparam hnode hinlines
    obtain ⟨element, helement⟩ := halike.symm.exists_some
    rw [nodePlace_append, at?_append, helement, Option.bind_some]
    rw [helement] at halike
    rw [← (halike.at? (nodePlace rest)).isSome_eq]
    exact hrest

theorem projects_of_reusable (hexist : Exist (keptPaths kept) communitySchema)
    (h : Reusable communitySchema kept) : Projects communitySchema kept := by
  rcases reuseExistingParams_draws hexist with ⟨result, hok, hdrawn, -⟩ | ⟨-, hnot⟩
  · refine ⟨result, hok, hdrawn.isProjection hexist h, fun reordered hperm => ?_⟩
    -- The condition speaks of the set of paths, so it holds in any order.
    have hsame := keptPaths_perm hperm
    have hreordered : Reusable communitySchema reordered :=
      ⟨h.globals, by rw [hsame]; exact h.copyable, by rw [hsame]; exact h.overlaps⟩
    rcases reuseExistingParams_draws (hsame ▸ hexist) with
      ⟨other, hother, hdrawn', -⟩ | ⟨-, hnot⟩
    · exact ⟨other, hother, hdrawn.alike hdrawn' hperm hexist h.overlaps⟩
    · exact absurd hreordered hnot
  · exact absurd h hnot

theorem Projects.exists_first (h : Projects communitySchema kept)
    (hexist : Exist (keptPaths kept) communitySchema) (hpath : path ∈ keptPaths kept) :
    ∃ (result : Json) (others : List String) (other : Json),
      IsProjection communitySchema kept result ∧
      others.Perm kept ∧ Drawn communitySchema (others.map pathOf) other ∧
      Alike (some other) (some result) ∧
      ∀ key rest, path = key :: rest →
        Outline.Reaches rest (Outline.ofPaths (others.map pathOf) key) := by
  obtain ⟨result, -, hprojection, horder⟩ := h
  obtain ⟨param, hparam, rfl⟩ := List.mem_map.mp hpath
  have hperm : (param :: kept.erase param).Perm kept := (List.perm_cons_erase hparam).symm
  obtain ⟨other, hother, halike⟩ := horder _ hperm
  refine ⟨result, _, other, hprojection, hperm, ?_, halike, ?_⟩
  · rw [← keptPaths_perm hperm] at hexist
    rcases reuseExistingParams_draws hexist with ⟨_, hok, hdrawn, -⟩ | ⟨⟨error, herror⟩, -⟩
    · cases hother.symm.trans hok
      exact hdrawn
    · cases hother.symm.trans herror
  · intro key rest hfirst
    rw [List.map_cons, hfirst]
    exact Outline.reaches_ofPaths key rest _

theorem Projects.copyable (h : Projects communitySchema kept)
    (hexist : Exist (keptPaths kept) communitySchema) (hpath : path ∈ keptPaths kept)
    (hnode : communitySchema.at? (nodePlace path) = some node) : Copyable communitySchema node := by
  obtain ⟨result, others, other, -, -, hdrawn, -, hreaches⟩ := h.exists_first hexist hpath
  cases path with
  | nil => exact absurd rfl (ne_nil_of_mem_keptPaths hpath)
  | cons key rest =>
      rw [at?_nodePlace_cons] at hnode
      obtain ⟨child, hchild, hnode⟩ := Option.bind_eq_some_iff.mp hnode
      have hkey := hdrawn.below.2 key
      rw [hchild] at hkey
      exact hkey.copyable (hreaches key rest rfl) hnode

theorem IsProjection.alike_node (h : IsProjection communitySchema kept result)
    (hexist : Exist (keptPaths kept) communitySchema) (hpath : path ∈ keptPaths kept)
    (hextended : path ++ key :: rest ∈ keptPaths kept) :
    Alike (result.at? (nodePlace path)) (communitySchema.at? (nodePlace path)) := by
  obtain ⟨node, copied, hnode, hinlines, halike⟩ := h.subtrees path hpath
  have hbelow := hexist _ hextended
  rw [nodePlace_append, at?_append, hnode, Option.bind_some, at?_nodePlace_cons] at hbelow
  have hproperties : node.at? ["properties"] ≠ none := by
    intro hnone
    rw [show ["properties", key] = ["properties"] ++ [key] from rfl, at?_append, hnone] at hbelow
    cases hbelow
  rw [hnode, ← hinlines.eq_of_properties hproperties]
  exact halike

theorem Projects.overlapsWhole (h : Projects communitySchema kept)
    (hexist : Exist (keptPaths kept) communitySchema) :
    OverlapsWhole communitySchema (keptPaths kept) communitySchema := by
  rintro path hpath _ hextended ⟨rest, rfl⟩ hne
  -- With the longer parameter first, all that is above it is sketched for it.
  obtain ⟨result, others, other, hprojection, hperm, hdrawn, halike, hreaches⟩ :=
    h.exists_first hexist hextended
  cases rest with
  | nil => simp at hne
  | cons next rest =>
  have hnode := (halike.at? (nodePlace path)).trans
    (hprojection.alike_node hexist hpath hextended)
  cases path with
  | nil => exact absurd rfl (ne_nil_of_mem_keptPaths hpath)
  | cons key path =>
      rw [← keptPaths_perm hperm] at hexist hextended ⊢
      obtain ⟨child, element, hchild, helement, hrenders⟩ := hdrawn.child hexist hextended
      rw [at?_nodePlace_of_child hchild, at?_nodePlace_of_child helement] at hnode
      rw [List.cons_append, keptWhole_cons_iff hchild]
      exact hrenders.keptWhole (Outline.outlines_ofPaths _ key) (hexist.below hchild)
        (hreaches key _ rfl) hextended hnode

theorem reuseExistingParams_projects_iff (communitySchema : Json) (kept : List String)
    (hexist : ∀ param ∈ kept, (communitySchema.at? (paramPlace param)).isSome = true) :
    Projects communitySchema kept ↔ Reusable communitySchema kept := by
  have hpaths : Exist (keptPaths kept) communitySchema := by
    intro path hpath
    obtain ⟨param, hparam, rfl⟩ := List.mem_map.mp hpath
    exact hexist param hparam
  refine ⟨fun h => ⟨?_, ?_, h.overlapsWhole hpaths⟩, projects_of_reusable hpaths⟩
  · obtain ⟨result, hok, -⟩ := h
    rcases reuseExistingParams_draws hpaths with ⟨_, -, -, hall⟩ | ⟨⟨error, herror⟩, -⟩
    · exact hall
    · cases hok.symm.trans herror
  · intro param hparam node hnode
    exact h.copyable hpaths hparam hnode

end Results

def jobSchema (properties : List (String × Json)) : Json :=
  .obj [("$schema", .str "http://json-schema.org/draft-07/schema#"), ("description", .str ""),
    ("type", .str "object"), ("definitions", .obj []),
    ("properties", .obj [("createUserJob", .obj [("properties", .obj properties)])])]

def keptJob : List String := ["createUserJob.enabled", "createUserJob"]

def enabledProperty : String × Json := ("enabled", .obj [("type", .str "boolean")])

theorem keptJob_paths : keptPaths keptJob = {["createUserJob", "enabled"], ["createUserJob"]} := by
  have hpaths : keptJob.map pathOf = [["createUserJob", "enabled"], ["createUserJob"]] := by
    decide
  ext path
  rw [keptPaths, hpaths]
  simp

theorem only_property_projects : Projects (jobSchema [enabledProperty]) keptJob := by
  have hexist : ∀ param ∈ keptJob,
      ((jobSchema [enabledProperty]).at? (paramPlace param)).isSome = true := by decide
  refine (reuseExistingParams_projects_iff _ _ hexist).mpr ⟨by decide, ?_, ?_⟩
  · rw [keptJob_paths]
    rintro _ (rfl | rfl) node ⟨⟩
    · exact .plain rfl
    · exact .plain rfl
  · rw [keptJob_paths]
    rintro _ (rfl | rfl) _ (rfl | rfl) hprefix hne
    · exact absurd rfl hne
    · exact absurd hprefix (by decide)
    · refine ⟨?_, fun between habove hbelow hother => ?_⟩
      · rintro _ copied ⟨⟩ hinlines
        rw [hinlines.eq_of_plain rfl]
        exact Alike.refl _
      · have hcases := (@List.prefix_concat_iff _ between ["createUserJob"] "enabled").mp hbelow
        rcases hcases with heq | hbelow
        · exact absurd heq hother
        · obtain rfl := List.IsPrefix.eq_of_length_le hbelow habove.length_le
          rintro _ ⟨⟩
          have hadditional : (Json.obj [("properties", .obj [enabledProperty])]).at?
              ["additionalProperties"] = none := rfl
          refine ⟨by simp [hadditional], fun key hkey => ?_⟩
          have hproperty : (Json.obj [("properties", .obj [enabledProperty])]).at?
              ["properties", key] = if key = "enabled" then some enabledProperty.2 else none := by
            rw [at?_obj_cons, lookup_entry, if_pos rfl, Option.bind_some, at?_obj_key,
              enabledProperty, lookup_entry, List.lookup_nil]
          rw [hproperty] at hkey
          by_cases hname : key = "enabled"
          · exact ⟨_, .inl rfl, by rw [hname]; decide⟩
          · rw [if_neg hname] at hkey
            cases hkey
    · exact absurd rfl hne

/-- The job has lost its other property. -/
theorem resources_dropped :
    (∀ param ∈ keptJob, ((jobSchema [enabledProperty, ("resources", .obj [])]).at?
      (paramPlace param)).isSome = true) ∧
    ¬ Projects (jobSchema [enabledProperty, ("resources", .obj [])]) keptJob := by
  refine ⟨by decide, ?_⟩
  rintro ⟨result, hok, ⟨-, hsubtrees⟩, -⟩
  obtain ⟨node, copied, hnode, hinlines, halike⟩ := hsubtrees ["createUserJob"]
    (by rw [keptJob_paths]; exact .inr rfl)
  cases hnode
  rw [hinlines.eq_of_plain rfl] at halike
  cases hok
  have hview := congrFun halike ["properties", "resources"]
  change none = some _ at hview
  cases hview

end QubershipAirflow.Schema
