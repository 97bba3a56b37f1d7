import QubershipAirflow.Schema.ValuesChecks

/-! The merge of the additional schema's properties into those of the generated schema. The
override's nodes win, and where both sides have properties these are merged in turn. -/
namespace QubershipAirflow.Schema

open Json
open PyError (bind_ok_iff)

section Merge

/-- `result[key]`, if `key in result`. -/
def itemIn (result : Json) (key : String) : Except PyError (Option Json) := do
  if ← result.contains key then some <$> result.getItem key else return none

mutual

def deepMergeSchemaProperties (base : Json) : Json → Except PyError Json
  | .obj override => mergeItems base override
  | _ => .error .attributeError

/-- `for key, value in override.items()` -/
def mergeItems (result : Json) : List (String × Json) → Except PyError Json
  | [] => .ok result
  | (key, value) :: rest => do
      let merged ← mergeNode (← itemIn result key) value
      mergeItems (← result.setItem key merged) rest

/-- The new node at a key: the override's, unless both are dicts with properties. -/
def mergeNode (found : Option Json) : Json → Except PyError Json
  | .obj fields =>
      match found with
      | some (.obj base) =>
          match base.lookup "properties" with
          | some properties => mergePropertiesOf base properties fields (.obj fields)
          | none => .ok (.obj fields)
      | _ => .ok (.obj fields)
  | value => .ok value

/-- `merged["properties"] = deep_merge(base["properties"], value["properties"])` -/
def mergePropertiesOf (base : List (String × Json)) (properties : Json) :
    List (String × Json) → Json → Except PyError Json
  | [], value => .ok value
  | (name, override) :: rest, value =>
      if name = "properties" then do
        let merged ← deepMergeSchemaProperties properties override
        return .obj (insertField base "properties" merged)
      else mergePropertiesOf base properties rest value

end

end Merge

def memberPlace (path : List String) : Place := path.flatMap fun key => [key, "properties"]

/-- All properties are dicts, which have their keys once. -/
def PropertyMap (properties : Json) : Prop :=
  ∀ path found, properties.at? (memberPlace path) = some found →
    ∃ fields, found = .obj fields ∧ (fields.map Prod.fst).Nodup

def HasProperties (node : Json) : Prop := (node.at? ["properties"]).isSome

/-- The override has a node at this path, and not both sides have properties there. -/
def Replaces (base override : Json) (key : String) (path : List String) : Prop :=
  ∃ node, override.at? (key :: nodePlace path) = some node ∧
    ¬ (HasProperties node ∧
      ∃ other, base.at? (key :: nodePlace path) = some other ∧ HasProperties other)

def SameKeywords (first second : Json) : Prop :=
  ∀ keyword rest, keyword ≠ "properties" →
    first.at? (keyword :: rest) = second.at? (keyword :: rest)

/-- The structural merge of two property maps in which the override wins. -/
structure IsMerge (base override result : Json) : Prop where
  overridden : ∀ key path node, override.at? (key :: nodePlace path) = some node →
    Replaces base override key path → result.at? (key :: nodePlace path) = some node
  kept : ∀ key path node, base.at? (key :: nodePlace path) = some node →
    (∀ before after, path = before ++ after → ¬ Replaces base override key before) →
    ∃ found, result.at? (key :: nodePlace path) = some found ∧ SameKeywords found node ∧
      (override.at? (key :: nodePlace path) = none → found = node)
  merged : ∀ key path node other, base.at? (key :: nodePlace path) = some node →
    override.at? (key :: nodePlace path) = some other → HasProperties node →
    HasProperties other →
    ∃ found, result.at? (key :: nodePlace path) = some found ∧ SameKeywords found node
  nothingElse : ∀ key path, (result.at? (key :: nodePlace path)).isSome →
    (base.at? (key :: nodePlace path)).isSome ∨ (override.at? (key :: nodePlace path)).isSome

section OneLevel

variable {base override fields items : List (String × Json)} {key : String}
  {properties value node merged result : Json} {found : Option Json}

theorem at?_properties_obj : (Json.obj fields).at? ["properties"] = fields.lookup "properties" := by
  rw [at?_obj_cons]
  cases fields.lookup "properties" <;> rfl

theorem sameKeywords_insertField (fields : List (String × Json)) (value : Json) :
    SameKeywords (.obj (insertField fields "properties" value)) (.obj fields) := by
  intro keyword rest hne
  rw [at?_obj_cons, at?_obj_cons, lookup_insertField, if_neg hne]

theorem mergePropertiesOf_cases
    (h : mergePropertiesOf base properties fields value = .ok merged) :
    (∃ override inner, fields.lookup "properties" = some override ∧
        deepMergeSchemaProperties properties override = .ok inner ∧
        merged = .obj (insertField base "properties" inner)) ∨
      fields.lookup "properties" = none ∧ merged = value := by
  induction fields with
  | nil =>
      rw [mergePropertiesOf] at h
      cases h
      exact .inr ⟨rfl, rfl⟩
  | cons field rest ih =>
      obtain ⟨name, override⟩ := field
      rw [mergePropertiesOf] at h
      rw [lookup_entry]
      by_cases hname : name = "properties"
      · rw [if_pos hname] at h
        obtain ⟨inner, hinner, h⟩ := bind_ok_iff.mp h
        cases h
        rw [if_pos hname.symm]
        exact .inl ⟨override, inner, rfl, hinner, rfl⟩
      · rw [if_neg hname] at h
        rw [if_neg (Ne.symm hname)]
        exact ih h

theorem mergeNode_cases (h : mergeNode found value = .ok merged) :
    (∃ node properties override inner, found = some node ∧
        node.at? ["properties"] = some properties ∧ value.at? ["properties"] = some override ∧
        deepMergeSchemaProperties properties override = .ok inner ∧
        merged.at? ["properties"] = some inner ∧ SameKeywords merged node) ∨
      ¬ (HasProperties value ∧ ∃ node, found = some node ∧ HasProperties node) ∧
        merged = value := by
  cases value with
  | obj fields =>
      rw [mergeNode.eq_def] at h
      dsimp only at h
      split at h
      · rename_i base
        split at h
        · rename_i properties hproperties
          rcases mergePropertiesOf_cases h with ⟨override, inner, hoverride, hinner, rfl⟩ |
            ⟨hnone, rfl⟩
          · refine .inl ⟨.obj base, properties, override, inner, rfl, ?_, ?_, hinner, ?_,
              sameKeywords_insertField base inner⟩
            · rw [at?_properties_obj, hproperties]
            · rw [at?_properties_obj, hoverride]
            · rw [at?_properties_obj, lookup_insertField, if_pos rfl]
          · refine .inr ⟨?_, rfl⟩
            rintro ⟨hhas, -⟩
            rw [HasProperties, at?_properties_obj, hnone] at hhas
            cases hhas
        · rename_i hnone
          cases h
          refine .inr ⟨?_, rfl⟩
          rintro ⟨-, _, hnode, hhas⟩
          cases hnode
          rw [HasProperties, at?_properties_obj, hnone] at hhas
          cases hhas
      · rename_i hother
        cases h
        refine .inr ⟨?_, rfl⟩
        rintro ⟨-, node, rfl, hhas⟩
        cases node with
        | obj base => exact hother base rfl
        | _ => cases hhas
  | _ =>
      rw [mergeNode.eq_def] at h
      cases h
      refine .inr ⟨?_, rfl⟩
      rintro ⟨hhas, -⟩
      cases hhas

theorem itemIn_obj : itemIn (.obj fields) key = .ok (fields.lookup key) := by
  unfold itemIn
  cases hlookup : fields.lookup key <;>
    simp [contains, getItem, hlookup, bind, Except.bind, pure, Except.pure]

theorem mergeItems_cases (hkeys : (items.map Prod.fst).Nodup)
    (h : mergeItems (.obj fields) items = .ok result) :
    ∃ fields', result = .obj fields' ∧ ∀ key,
      (items.lookup key = none → fields'.lookup key = fields.lookup key) ∧
      ∀ value, items.lookup key = some value → ∃ merged,
        fields'.lookup key = some merged ∧ mergeNode (fields.lookup key) value = .ok merged := by
  induction items generalizing fields with
  | nil =>
      rw [mergeItems] at h
      cases h
      exact ⟨fields, rfl, fun key => ⟨fun _ => rfl, fun _ h => by cases h⟩⟩
  | cons item rest ih =>
      obtain ⟨name, value⟩ := item
      rw [mergeItems] at h
      obtain ⟨found, hfound, h⟩ := bind_ok_iff.mp h
      rw [itemIn_obj, Except.ok.injEq] at hfound
      subst hfound
      obtain ⟨merged, hmerged, h⟩ := bind_ok_iff.mp h
      obtain ⟨_, hset, h⟩ := bind_ok_iff.mp h
      cases hset
      rw [List.map_cons, List.nodup_cons] at hkeys
      have hrest : rest.lookup name = none := (lookup_eq_none_iff_notMem rest name).mpr hkeys.1
      obtain ⟨fields', rfl, hfields'⟩ := ih hkeys.2 h
      refine ⟨fields', rfl, fun key => ?_⟩
      obtain ⟨hnone, hsome⟩ := hfields' key
      rw [lookup_entry]
      by_cases hkey : key = name
      · subst hkey
        rw [if_pos rfl]
        refine ⟨?_, ?_⟩
        · rintro ⟨⟩
        · rintro _ ⟨⟩
          exact ⟨merged, by rw [hnone hrest, lookup_insertField, if_pos rfl], hmerged⟩
      · rw [if_neg hkey]
        rw [lookup_insertField, if_neg hkey] at hnone hsome
        exact ⟨hnone, hsome⟩

end OneLevel

section Paths

variable {base override result properties inner : Json} {key next : String} {path : List String}

theorem PropertyMap.exists_fields (h : PropertyMap properties) :
    ∃ fields, properties = .obj fields ∧ (fields.map Prod.fst).Nodup := h [] properties rfl

theorem PropertyMap.below (h : PropertyMap properties)
    (hinner : properties.at? [key, "properties"] = some inner) : PropertyMap inner := by
  intro path found hfound
  refine h (key :: path) found ?_
  have happend : memberPlace (key :: path) = [key, "properties"] ++ memberPlace path := rfl
  rw [happend, at?_append, hinner, Option.bind_some, hfound]

theorem at?_nodePlace_below : base.at? (key :: nodePlace (next :: path)) =
    (base.at? [key, "properties"]).bind fun inner => inner.at? (next :: nodePlace path) := by
  rw [← at?_append]
  rfl

theorem at?_nodePlace_key : base.at? (key :: nodePlace path) =
    (base.at? [key]).bind fun node => node.at? (nodePlace path) := by
  rw [← at?_append]
  rfl

theorem Replaces.lift (h : Replaces properties inner next path)
    (hproperties : base.at? [key, "properties"] = some properties)
    (hinner : override.at? [key, "properties"] = some inner) :
    Replaces base override key (next :: path) := by
  unfold Replaces
  rw [at?_nodePlace_below, at?_nodePlace_below, hproperties, hinner]
  exact h

theorem at?_singleton (fields : List (String × Json)) :
    (Json.obj fields).at? [key] = fields.lookup key := by
  rw [at?_obj_cons]
  cases fields.lookup key <;> rfl

theorem hasProperties_iff {node : Json} (hnode : base.at? [key] = some node) :
    HasProperties node ↔ (base.at? [key, "properties"]).isSome := by
  have happend : [key, "properties"] = [key] ++ ["properties"] := rfl
  rw [happend, at?_append, hnode]
  rfl

theorem HasProperties.above {node : Json} (h : HasProperties node) {before after : List String}
    (hnode : base.at? (key :: nodePlace (before ++ after)) = some node) :
    ∃ other, base.at? (key :: nodePlace before) = some other ∧ HasProperties other := by
  rw [nodePlace_append, ← List.cons_append, at?_append, Option.bind_eq_some_iff] at hnode
  obtain ⟨other, hother, hbelow⟩ := hnode
  refine ⟨other, hother, ?_⟩
  cases after with
  | nil =>
      cases hbelow
      exact h
  | cons next after =>
      have happend : nodePlace (next :: after) = ["properties"] ++ next :: nodePlace after := rfl
      rw [happend, at?_append] at hbelow
      exact Option.isSome_of_isSome_bind (by rw [hbelow]; rfl)

theorem merge_key (hbase : PropertyMap base) (hoverride : PropertyMap override)
    (h : deepMergeSchemaProperties base override = .ok result) (key : String) :
    override.at? [key] = none ∧ result.at? [key] = base.at? [key] ∨
    Replaces base override key [] ∧ result.at? [key] = override.at? [key] ∨
    ∃ node found properties inner merged, base.at? [key] = some node ∧
      result.at? [key] = some found ∧ SameKeywords found node ∧
      base.at? [key, "properties"] = some properties ∧
      override.at? [key, "properties"] = some inner ∧
      result.at? [key, "properties"] = some merged ∧
      deepMergeSchemaProperties properties inner = .ok merged := by
  obtain ⟨fields, rfl, -⟩ := hbase.exists_fields
  obtain ⟨items, rfl, hkeys⟩ := hoverride.exists_fields
  rw [deepMergeSchemaProperties] at h
  obtain ⟨fields', rfl, hfields'⟩ := mergeItems_cases hkeys h
  obtain ⟨hnone, hsome⟩ := hfields' key
  simp only [at?_singleton]
  cases hlookup : items.lookup key with
  | none => exact .inl ⟨rfl, hnone hlookup⟩
  | some value =>
      obtain ⟨merged, hmerged, hnode⟩ := hsome value hlookup
      rcases mergeNode_cases hnode with
        ⟨node, properties, inner, below, hfound, hproperties, hinner, hbelow, hmember, hsame⟩ |
        ⟨hnot, rfl⟩
      · refine .inr (.inr ⟨node, merged, properties, inner, below, hfound, hmerged, hsame,
          ?_, ?_, ?_, hbelow⟩)
        · rw [at?_obj_cons, hfound, Option.bind_some, hproperties]
        · rw [at?_obj_cons, hlookup, Option.bind_some, hinner]
        · rw [at?_obj_cons, hmerged, Option.bind_some, hmember]
      · refine .inr (.inl ⟨⟨merged, ?_, ?_⟩, hmerged⟩)
        · exact (at?_singleton items).trans hlookup
        · rintro ⟨hhas, other, hother, hotherHas⟩
          exact hnot ⟨hhas, other, (at?_singleton fields).symm.trans hother, hotherHas⟩

/-- At each path the result has the node of the base, where the override has none; the
override's, where a node on the way was replaced; or a merge of both. -/
theorem merge_path (hbase : PropertyMap base) (hoverride : PropertyMap override)
    (h : deepMergeSchemaProperties base override = .ok result) (key : String)
    (path : List String) :
    override.at? (key :: nodePlace path) = none ∧
      result.at? (key :: nodePlace path) = base.at? (key :: nodePlace path) ∨
    (∃ before after, path = before ++ after ∧ Replaces base override key before) ∧
      result.at? (key :: nodePlace path) = override.at? (key :: nodePlace path) ∨
    ∃ node other found, base.at? (key :: nodePlace path) = some node ∧
      override.at? (key :: nodePlace path) = some other ∧
      HasProperties node ∧ HasProperties other ∧
      result.at? (key :: nodePlace path) = some found ∧ SameKeywords found node := by
  induction path generalizing base override result key with
  | nil =>
      rcases merge_key hbase hoverride h key with hnone | ⟨hreplaces, hsame⟩ |
        ⟨node, found, properties, inner, merged, hnode, hfound, hsame, hproperties, hinner, -, -⟩
      · exact .inl hnone
      · exact .inr (.inl ⟨⟨[], [], rfl, hreplaces⟩, hsame⟩)
      · obtain ⟨other, hother⟩ : ∃ other, override.at? [key] = some other := by
          have happend : [key, "properties"] = [key] ++ ["properties"] := rfl
          rw [happend, at?_append] at hinner
          exact Option.isSome_iff_exists.mp (Option.isSome_of_isSome_bind (by rw [hinner]; rfl))
        refine .inr (.inr ⟨node, other, found, hnode, hother, ?_, ?_, hfound, hsame⟩)
        · rw [hasProperties_iff hnode, hproperties]
          rfl
        · rw [hasProperties_iff hother, hinner]
          rfl
  | cons next path ih =>
      rcases merge_key hbase hoverride h key with ⟨hnone, hsame⟩ | ⟨hreplaces, hsame⟩ |
        ⟨node, found, properties, inner, merged, -, -, -, hproperties, hinner, hmerged, hbelow⟩
      · rw [at?_nodePlace_key, hnone, at?_nodePlace_key, hsame, ← at?_nodePlace_key]
        exact .inl ⟨rfl, rfl⟩
      · refine .inr (.inl ⟨⟨[], next :: path, rfl, hreplaces⟩, ?_⟩)
        rw [at?_nodePlace_key, hsame, ← at?_nodePlace_key]
      · have hinduction := ih (hbase.below hproperties) (hoverride.below hinner) hbelow next
        simp only [at?_nodePlace_below, hproperties, hinner, hmerged, Option.bind_some]
        rcases hinduction with hnone | ⟨⟨before, after, rfl, hreplaces⟩, hsame⟩ | hmerge
        · exact .inl hnone
        · exact .inr (.inl ⟨⟨next :: before, after, rfl,
            hreplaces.lift hproperties hinner⟩, hsame⟩)
        · exact .inr (.inr hmerge)

theorem isMerge_of_ok (hbase : PropertyMap base) (hoverride : PropertyMap override)
    (h : deepMergeSchemaProperties base override = .ok result) :
    IsMerge base override result where
  overridden key path node hnode hreplaces := by
    rcases merge_path hbase hoverride h key path with ⟨hnone, -⟩ | ⟨-, hsame⟩ |
      ⟨other, node', found, hother, hnode', hhas, hhas', -, -⟩
    · rw [hnode] at hnone
      cases hnone
    · rw [hsame, hnode]
    · obtain ⟨node'', hnode'', hnot⟩ := hreplaces
      rw [hnode'] at hnode''
      cases hnode''
      exact absurd ⟨hhas', other, hother, hhas⟩ hnot
  kept key path node hnode hnot := by
    rcases merge_path hbase hoverride h key path with ⟨-, hsame⟩ |
      ⟨⟨before, after, rfl, hreplaces⟩, -⟩ |
      ⟨node', other, found, hnode', hother, -, -, hfound, hsame⟩
    · exact ⟨node, hsame.trans hnode, fun _ _ _ => rfl, fun _ => rfl⟩
    · exact absurd hreplaces (hnot before after rfl)
    · rw [hnode] at hnode'
      cases hnode'
      refine ⟨found, hfound, hsame, fun hnone => ?_⟩
      rw [hother] at hnone
      cases hnone
  merged key path node other hnode hother hhas hhas' := by
    rcases merge_path hbase hoverride h key path with ⟨hnone, -⟩ |
      ⟨⟨before, after, rfl, replaced, hreplaced, hnot⟩, -⟩ |
      ⟨node', -, found, hnode', -, -, -, hfound, hsame⟩
    · rw [hother] at hnone
      cases hnone
    · obtain ⟨node', hnode', hhas''⟩ := hhas'.above hother
      rw [hreplaced] at hnode'
      cases hnode'
      exact absurd ⟨hhas'', hhas.above hnode⟩ hnot
    · rw [hnode] at hnode'
      cases hnode'
      exact ⟨found, hfound, hsame⟩
  nothingElse key path hsome := by
    rcases merge_path hbase hoverride h key path with ⟨-, hsame⟩ | ⟨-, hsame⟩ |
      ⟨node, -, -, hnode, -⟩
    · exact .inl (hsame ▸ hsome)
    · exact .inr (hsame ▸ hsome)
    · exact .inl (by rw [hnode]; rfl)

end Paths

section Termination

def WellFormed (node : Json) : Prop :=
  ∀ properties, node.at? ["properties"] = some properties → PropertyMap properties

theorem PropertyMap.wellFormed {fields : List (String × Json)} {key : String} {node : Json}
    (h : PropertyMap (.obj fields)) (hnode : fields.lookup key = some node) :
    WellFormed node := by
  intro properties hproperties
  have hbelow : (Json.obj fields).at? [key, "properties"] = some properties := by
    rw [at?_obj_cons, hnode, Option.bind_some, hproperties]
  exact h.below hbelow

theorem propertyMap_of_wellFormed {fields : List (String × Json)}
    (hkeys : (fields.map Prod.fst).Nodup)
    (hnodes : ∀ field ∈ fields, WellFormed field.2) : PropertyMap (.obj fields) := by
  intro path found hfound
  cases path with
  | nil =>
      cases hfound
      exact ⟨fields, rfl, hkeys⟩
  | cons key path =>
      have happend : memberPlace (key :: path) = key :: (["properties"] ++ memberPlace path) := rfl
      rw [happend, at?_obj_cons, Option.bind_eq_some_iff] at hfound
      obtain ⟨node, hnode, hbelow⟩ := hfound
      rw [at?_append, Option.bind_eq_some_iff] at hbelow
      obtain ⟨properties, hproperties, hbelow⟩ := hbelow
      exact hnodes (key, node) (mem_of_lookup hnode) properties hproperties path found hbelow

mutual

theorem deepMergeSchemaProperties_ok : ∀ override base : Json, PropertyMap base →
    PropertyMap override → ∃ result, deepMergeSchemaProperties base override = .ok result
  | .obj items, base, hbase, hoverride => by
      obtain ⟨fields, rfl, -⟩ := hbase.exists_fields
      obtain ⟨_, hitems, hkeys⟩ := hoverride.exists_fields
      cases hitems
      rw [deepMergeSchemaProperties]
      exact mergeItems_ok items fields hkeys (fun _ _ hvalue => hoverride.wellFormed hvalue)
        fun _ _ _ hnode => hbase.wellFormed hnode
  | .null, _, _, hoverride | .bool _, _, _, hoverride | .int _, _, _, hoverride
  | .float _, _, _, hoverride | .str _, _, _, hoverride | .arr _, _, _, hoverride => by
      obtain ⟨_, hitems, -⟩ := hoverride.exists_fields
      cases hitems

theorem mergeItems_ok : ∀ (items fields : List (String × Json)),
    (items.map Prod.fst).Nodup → (∀ key value, items.lookup key = some value → WellFormed value) →
    (∀ key node, key ∈ items.map Prod.fst → fields.lookup key = some node → WellFormed node) →
    ∃ result, mergeItems (.obj fields) items = .ok result
  | [], fields, _, _, _ => ⟨.obj fields, by rw [mergeItems]⟩
  | (key, value) :: rest, fields, hkeys, hvalues, hnodes => by
      rw [List.map_cons, List.nodup_cons] at hkeys
      have hne : ∀ name ∈ rest.map Prod.fst, name ≠ key := by
        rintro _ hmem rfl
        exact hkeys.1 hmem
      obtain ⟨merged, hmerged⟩ := mergeNode_ok value (fields.lookup key)
        (hvalues key value (by rw [lookup_entry, if_pos rfl]))
        fun node hnode => hnodes key node List.mem_cons_self hnode
      have hvalues' : ∀ name other, rest.lookup name = some other → WellFormed other := by
        intro name other hother
        refine hvalues name other ?_
        have hmem : name ∈ rest.map Prod.fst := mem_keys_of_lookup hother
        rw [lookup_entry, if_neg (hne name hmem), hother]
      have hnodes' : ∀ name node, name ∈ rest.map Prod.fst →
          (insertField fields key merged).lookup name = some node → WellFormed node := by
        intro name node hmem hnode
        rw [lookup_insertField, if_neg (hne name hmem)] at hnode
        exact hnodes name node (List.mem_cons_of_mem _ hmem) hnode
      obtain ⟨result, hresult⟩ :=
        mergeItems_ok rest (insertField fields key merged) hkeys.2 hvalues' hnodes'
      refine ⟨result, ?_⟩
      rw [mergeItems, itemIn_obj]
      simp only [bind, Except.bind, hmerged, setItem, hresult]

theorem mergeNode_ok : ∀ (value : Json) (found : Option Json), WellFormed value →
    (∀ node, found = some node → WellFormed node) →
    ∃ merged, mergeNode found value = .ok merged
  | .obj fields, found, hvalue, hfound => by
      rw [mergeNode.eq_def]
      dsimp only
      split
      · rename_i base
        split
        · rename_i properties hproperties
          refine mergePropertiesOf_ok fields base properties (.obj fields) ?_ ?_
          · exact hfound _ rfl properties (at?_properties_obj.trans hproperties)
          · intro override hoverride
            exact hvalue override (at?_properties_obj.trans hoverride)
        · exact ⟨_, rfl⟩
      · exact ⟨_, rfl⟩
  | .null, _, _, _ | .bool _, _, _, _ | .int _, _, _, _ | .float _, _, _, _
  | .str _, _, _, _ | .arr _, _, _, _ => ⟨_, by rw [mergeNode.eq_def]⟩

theorem mergePropertiesOf_ok : ∀ (fields base : List (String × Json)) (properties value : Json),
    PropertyMap properties →
    (∀ override, fields.lookup "properties" = some override → PropertyMap override) →
    ∃ merged, mergePropertiesOf base properties fields value = .ok merged
  | [], _, _, value, _, _ => ⟨value, by rw [mergePropertiesOf]⟩
  | (name, override) :: rest, base, properties, value, hproperties, hoverride => by
      rw [mergePropertiesOf]
      by_cases hname : name = "properties"
      · rw [if_pos hname]
        obtain ⟨merged, hmerged⟩ := deepMergeSchemaProperties_ok override properties hproperties
          (hoverride override (by rw [lookup_entry, if_pos hname.symm]))
        exact ⟨_, by simp only [bind, Except.bind, hmerged]; rfl⟩
      · rw [if_neg hname]
        refine mergePropertiesOf_ok rest base properties value hproperties ?_
        intro other hother
        exact hoverride other (by rw [lookup_entry, if_neg (Ne.symm hname), hother])

end

end Termination

/-- The merge of two property maps succeeds, and the override's nodes win in it. -/
theorem deepMergeSchemaProperties_isMerge {base override : Json} (hbase : PropertyMap base)
    (hoverride : PropertyMap override) : ∃ result,
    deepMergeSchemaProperties base override = .ok result ∧ IsMerge base override result := by
  obtain ⟨result, hresult⟩ := deepMergeSchemaProperties_ok override base hbase hoverride
  exact ⟨result, hresult, isMerge_of_ok hbase hoverride hresult⟩

def imageProperties (tag : List (String × Json)) : Json :=
  .obj [("image", .obj [("type", .str "object"), ("properties", .obj [("tag", .obj tag)])])]

theorem imageProperties_propertyMap (tag : List (String × Json))
    (hleaf : tag.lookup "properties" = none) : PropertyMap (imageProperties tag) := by
  have hproperties : PropertyMap (.obj [("tag", .obj tag)]) := by
    refine propertyMap_of_wellFormed (by simp) fun field hfield => ?_
    rw [List.mem_singleton] at hfield
    subst hfield
    intro properties hproperties
    rw [at?_properties_obj, hleaf] at hproperties
    cases hproperties
  refine propertyMap_of_wellFormed (by simp) fun field hfield => ?_
  rw [List.mem_singleton] at hfield
  subst hfield
  rintro _ ⟨⟩
  exact hproperties

theorem image_tags_merge : ∃ result,
    deepMergeSchemaProperties (imageProperties [("type", .str "string")])
      (imageProperties [("default", .str "2.10")]) = .ok result ∧
    IsMerge (imageProperties [("type", .str "string")])
      (imageProperties [("default", .str "2.10")]) result :=
  deepMergeSchemaProperties_isMerge (imageProperties_propertyMap _ rfl)
    (imageProperties_propertyMap _ rfl)

end QubershipAirflow.Schema
