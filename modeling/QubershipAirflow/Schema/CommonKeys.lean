import QubershipAirflow.Library.JsonNodes
import QubershipAirflow.Schema.Merge

/-! Keys that are removed from a whole schema, or get another name all over it. The walk
goes from dict to dict; it does not enter arrays, nor what it has just renamed. -/
namespace QubershipAirflow.Schema

open Json

mutual

def removeCommonKey (excessiveKey : String) : Json → Json
  | .obj fields => .obj (removeFromFields excessiveKey fields)
  | node => node

/-- `for key in list(current_element.keys())` -/
def removeFromFields (excessiveKey : String) : List (String × Json) → List (String × Json)
  | [] => []
  | (key, value) :: rest =>
      if key = excessiveKey then removeFromFields excessiveKey rest
      else (key, removeCommonKey excessiveKey value) :: removeFromFields excessiveKey rest

end

/-- A value of a dict whose keys are being replaced, and what the walk makes of it. -/
structure Walked where
  now : Json
  walked : Json

def Walked.walk (value : Walked) : Walked := ⟨value.walked, value.walked⟩

/-- `current_element[key] = value` -/
def assignEntry (entries : List (String × Walked)) (key : String) (value : Walked) :
    List (String × Walked) :=
  if key ∈ entries.map Prod.fst then
    entries.map fun entry => if entry.1 = key then (key, value) else entry
  else entries ++ [(key, value)]

/-- The renamed entry is a new one, or takes the place of one that has the new key. -/
def renameEntry (oldKey newKey : String) (entries : List (String × Walked)) :
    List (String × Walked) :=
  match entries.lookup oldKey with
  | some value => (assignEntry entries newKey value).filter fun entry => entry.1 ≠ oldKey
  | none => entries

def walkEntry (key : String) (entries : List (String × Walked)) : List (String × Walked) :=
  entries.map fun entry => if entry.1 = key then (key, entry.2.walk) else entry

/-- The loop over the keys that the dict had before it. -/
def replaceKeys (oldKey newKey : String) :
    List String → List (String × Walked) → List (String × Walked)
  | [], entries => entries
  | key :: keys, entries =>
      if key = oldKey then replaceKeys oldKey newKey keys (renameEntry oldKey newKey entries)
      else replaceKeys oldKey newKey keys (walkEntry key entries)

mutual

def replaceCommonKey (oldKey newKey : String) : Json → Json
  | .obj fields => .obj <|
      (replaceKeys oldKey newKey (fields.map Prod.fst) (walkedFields oldKey newKey fields)).map
        fun entry => (entry.1, entry.2.now)
  | node => node

def walkedFields (oldKey newKey : String) : List (String × Json) → List (String × Walked)
  | [] => []
  | (key, value) :: rest =>
      (key, ⟨value, replaceCommonKey oldKey newKey value⟩) :: walkedFields oldKey newKey rest

end

/-! ## All objects of a document -/

abbrev Everywhere : Json → Json → Prop := Within fun _ _ => True

def KeyFree (key : String) (node : Json) : Prop :=
  ∀ fields, Everywhere node (.obj fields) → fields.lookup key = none

section KeyFree

variable {key : String} {node : Json} {items : List Json} {fields : List (String × Json)}

theorem keyFree_iff_forall : KeyFree key node ↔
    ∀ found, Everywhere node found → ∀ fields, found = .obj fields → fields.lookup key = none :=
  forall_within_eq

theorem keyFree_leaf (hitems : ∀ items, node ≠ .arr items)
    (hfields : ∀ fields, node ≠ .obj fields) : KeyFree key node := by
  intro fields hbelow
  exact absurd (hbelow.eq_of_leaf hitems hfields).symm (hfields fields)

theorem keyFree_arr : KeyFree key (.arr items) ↔ ∀ item ∈ items, KeyFree key item := by
  simp only [keyFree_iff_forall, forall_within_arr, reduceCtorEq, false_implies, implies_true,
    true_and]

theorem keyFree_obj : KeyFree key (.obj fields) ↔
    fields.lookup key = none ∧ ∀ field ∈ fields, KeyFree key field.2 := by
  simp only [keyFree_iff_forall, forall_within_obj, obj.injEq, forall_eq', true_implies]

theorem KeyFree.of_within {enters : List (String × Json) → String → Prop} {found : Json}
    (h : KeyFree key node) (hbelow : Within enters node found) : KeyFree key found := by
  induction hbelow with
  | here => exact h
  | item hitem _ ih => exact ih (keyFree_arr.1 h _ hitem)
  | field hfield _ _ ih => exact ih ((keyFree_obj.1 h).2 _ hfield)

theorem lookup_eq_none_iff_forall :
    fields.lookup key = none ↔ ∀ field ∈ fields, field.1 ≠ key := by
  rw [lookup_eq_none_iff_notMem, List.mem_map, not_exists]
  exact forall_congr' fun field => not_and

end KeyFree

/-! ## Removing a key -/

mutual

def eraseKey (key : String) : Json → Json
  | .obj fields => .obj (eraseFromFields key fields)
  | .arr items => .arr (eraseFromItems key items)
  | node => node

def eraseFromFields (key : String) : List (String × Json) → List (String × Json)
  | [] => []
  | (name, value) :: rest =>
      if name = key then eraseFromFields key rest
      else (name, eraseKey key value) :: eraseFromFields key rest

def eraseFromItems (key : String) : List Json → List Json
  | [] => []
  | item :: rest => eraseKey key item :: eraseFromItems key rest

end

section Removal

variable {key : String} {node : Json} {items : List Json} {fields : List (String × Json)}

theorem removeFromFields_eq (key : String) (fields : List (String × Json)) :
    removeFromFields key fields = (fields.filter fun field => field.1 ≠ key).map
      fun field => (field.1, removeCommonKey key field.2) := by
  induction fields with
  | nil => rfl
  | cons field fields ih =>
    rw [removeFromFields, ih]
    by_cases hkey : field.1 = key <;> simp [hkey]

theorem eraseFromFields_eq (key : String) (fields : List (String × Json)) :
    eraseFromFields key fields = (fields.filter fun field => field.1 ≠ key).map
      fun field => (field.1, eraseKey key field.2) := by
  induction fields with
  | nil => rfl
  | cons field fields ih =>
    rw [eraseFromFields, ih]
    by_cases hkey : field.1 = key <;> simp [hkey]

theorem eraseFromItems_eq (key : String) (items : List Json) :
    eraseFromItems key items = items.map (eraseKey key) := by
  induction items with
  | nil => rfl
  | cons item items ih => rw [eraseFromItems, ih, List.map_cons]

theorem eraseKey_leaf (hitems : ∀ items, node ≠ .arr items)
    (hfields : ∀ fields, node ≠ .obj fields) : eraseKey key node = node := by
  cases node with
  | arr items => exact absurd rfl (hitems items)
  | obj fields => exact absurd rfl (hfields fields)
  | _ => rfl

theorem removeCommonKey_not_obj (hfields : ∀ fields, node ≠ .obj fields) :
    removeCommonKey key node = node := by
  cases node with
  | obj fields => exact absurd rfl (hfields fields)
  | _ => rfl

theorem keyFree_eraseKey (key : String) (node : Json) : KeyFree key (eraseKey key node) := by
  induction node using Json.induction with
  | leaf node hitems hfields =>
    rw [eraseKey_leaf hitems hfields]
    exact keyFree_leaf hitems hfields
  | arr items ih =>
    rw [eraseKey, eraseFromItems_eq, keyFree_arr, List.forall_mem_map]
    exact ih
  | obj fields ih =>
    rw [eraseKey, eraseFromFields_eq, keyFree_obj, lookup_eq_none_iff_forall,
      List.forall_mem_map, List.forall_mem_map]
    simp only [List.mem_filter, decide_eq_true_eq]
    exact ⟨fun field hfield => hfield.2, fun field hfield => ih field hfield.1⟩

theorem eraseKey_eq_self_iff : eraseKey key node = node ↔ KeyFree key node := by
  constructor
  · intro h
    rw [← h]
    exact keyFree_eraseKey key node
  · intro h
    induction node using Json.induction with
    | leaf node hitems hfields => exact eraseKey_leaf hitems hfields
    | arr items ih =>
      rw [keyFree_arr] at h
      rw [eraseKey, eraseFromItems_eq, List.map_congr_left fun item hitem => ih item hitem
        (h item hitem), List.map_id']
    | obj fields ih =>
      rw [keyFree_obj, lookup_eq_none_iff_forall] at h
      rw [eraseKey, eraseFromFields_eq, List.filter_eq_self.2 (by simpa using h.1)]
      rw [List.map_congr_left (g := id) fun field hfield => by
        rw [ih field hfield (h.2 field hfield)]
        rfl, List.map_id]

/-- No array that the walk would have to enter holds an object with the key. -/
def Removable (key : String) (node : Json) : Prop :=
  ∀ items, Within (fun _ name => name ≠ key) node (.arr items) → KeyFree key (.arr items)

theorem removable_iff_forall : Removable key node ↔
    ∀ found, Within (fun _ name => name ≠ key) node found →
      ∀ items, found = .arr items → KeyFree key (.arr items) :=
  forall_within_eq

theorem removable_arr : Removable key (.arr items) ↔ KeyFree key (.arr items) :=
  ⟨fun h => h items (.here _), fun h _ hbelow => h.of_within hbelow⟩

theorem removable_obj : Removable key (.obj fields) ↔
    ∀ field ∈ fields, field.1 ≠ key → Removable key field.2 := by
  simp only [removable_iff_forall, forall_within_obj, reduceCtorEq, false_implies, implies_true,
    true_and]

/-- The walk removes the key everywhere exactly when it would not have to enter an array. -/
theorem removeCommonKey_eq_eraseKey_iff :
    removeCommonKey key node = eraseKey key node ↔ Removable key node := by
  induction node using Json.induction with
  | leaf node hitems hfields =>
    rw [removeCommonKey_not_obj hfields, eraseKey_leaf hitems hfields]
    refine iff_of_true rfl fun items hbelow => ?_
    exact absurd (hbelow.eq_of_leaf hitems hfields).symm (hitems items)
  | arr items ih =>
    rw [removeCommonKey_not_obj (by simp), eq_comm, eraseKey_eq_self_iff, removable_arr]
  | obj fields ih =>
    rw [removeCommonKey, eraseKey, removeFromFields_eq, eraseFromFields_eq, obj.injEq,
      removable_obj, List.map_inj_left]
    simp only [List.mem_filter, decide_eq_true_eq, Prod.mk.injEq, true_and, and_imp]
    exact forall₂_congr fun field hfield => forall_congr' fun _ => ih field hfield

end Removal

/-! ## The loop that renames -/

section Loop

variable {oldKey newKey : String} {entries : List (String × Walked)} {keys : List String}

def walkAll (keys : List String) (entries : List (String × Walked)) : List (String × Walked) :=
  entries.map fun entry => if entry.1 ∈ keys then (entry.1, entry.2.walk) else entry

theorem walkAll_cons (key : String) (keys : List String) (entries : List (String × Walked)) :
    walkAll keys (walkEntry key entries) = walkAll (key :: keys) entries := by
  rw [walkAll, walkEntry, List.map_map, walkAll]
  refine List.map_congr_left fun entry _ => ?_
  by_cases hkey : entry.1 = key <;> by_cases hkeys : entry.1 ∈ keys <;>
    simp_all [Walked.walk]

theorem keys_walkAll (keys : List String) (entries : List (String × Walked)) :
    (walkAll keys entries).map Prod.fst = entries.map Prod.fst := by
  rw [walkAll, List.map_map]
  refine List.map_congr_left fun entry _ => ?_
  by_cases hkey : entry.1 ∈ keys <;> simp [hkey]

theorem replaceKeys_of_not_mem (h : oldKey ∉ keys) (entries : List (String × Walked)) :
    replaceKeys oldKey newKey keys entries = walkAll keys entries := by
  induction keys generalizing entries with
  | nil => simp [replaceKeys, walkAll]
  | cons key keys ih =>
    rw [List.mem_cons, not_or] at h
    rw [replaceKeys, if_neg (Ne.symm h.1), ih h.2, walkAll_cons]

theorem replaceKeys_split {before after : List String} (hbefore : oldKey ∉ before)
    (hafter : oldKey ∉ after) (entries : List (String × Walked)) :
    replaceKeys oldKey newKey (before ++ oldKey :: after) entries =
      walkAll after (renameEntry oldKey newKey (walkAll before entries)) := by
  induction before generalizing entries with
  | nil =>
    rw [List.nil_append, replaceKeys, if_pos rfl, replaceKeys_of_not_mem hafter]
    simp [walkAll]
  | cons key before ih =>
    rw [List.mem_cons, not_or] at hbefore
    rw [List.cons_append, replaceKeys, if_neg (Ne.symm hbefore.1), ih hbefore.2, walkAll_cons]

theorem renameEntry_free {value : Walked} (hold : entries.lookup oldKey = some value)
    (hnew : newKey ∉ entries.map Prod.fst) :
    renameEntry oldKey newKey entries =
      (entries.filter fun entry => entry.1 ≠ oldKey) ++ [(newKey, value)] := by
  have hne : newKey ≠ oldKey := by
    rintro rfl
    obtain ⟨before, after, rfl, -⟩ := List.lookup_eq_some_iff.mp hold
    simp at hnew
  simp only [renameEntry, hold, assignEntry, if_neg hnew, List.filter_append]
  simp [hne]

theorem renameEntry_taken (hold : oldKey ∈ entries.map Prod.fst)
    (hnew : newKey ∈ entries.map Prod.fst) :
    (renameEntry oldKey newKey entries).length < entries.length := by
  obtain ⟨entry, hentry, hkey⟩ := List.mem_map.1 hold
  cases hvalue : entries.lookup oldKey with
  | none =>
    have hne := List.lookup_eq_none_iff.1 hvalue entry hentry
    simp [hkey] at hne
  | some value =>
    simp only [renameEntry, hvalue, assignEntry, if_pos hnew]
    refine Nat.lt_of_lt_of_eq (List.length_filter_lt_length_iff_exists.2 ?_) (List.length_map _)
    refine ⟨_, List.mem_map_of_mem hentry, ?_⟩
    by_cases hsame : entry.1 = newKey
    · simp [hsame, ← hkey]
    · rw [if_neg hsame]
      simp [hkey]

end Loop

section Dicts

variable {oldKey newKey : String} {fields : List (String × Json)} {value : Json}

theorem walkedFields_eq (oldKey newKey : String) (fields : List (String × Json)) :
    walkedFields oldKey newKey fields =
      fields.map fun field => (field.1, ⟨field.2, replaceCommonKey oldKey newKey field.2⟩) := by
  induction fields with
  | nil => rfl
  | cons field fields ih => rw [walkedFields, ih, List.map_cons]

theorem keys_walkedFields (oldKey newKey : String) (fields : List (String × Json)) :
    (walkedFields oldKey newKey fields).map Prod.fst = fields.map Prod.fst := by
  rw [walkedFields_eq, List.map_map]
  rfl

theorem replaceCommonKey_of_absent (h : oldKey ∉ fields.map Prod.fst) :
    replaceCommonKey oldKey newKey (.obj fields) =
      .obj (fields.map fun field => (field.1, replaceCommonKey oldKey newKey field.2)) := by
  rw [replaceCommonKey, replaceKeys_of_not_mem h, walkedFields_eq, walkAll, List.map_map,
    List.map_map]
  congr 1
  refine List.map_congr_left fun field hfield => ?_
  have hkey : field.1 ∈ fields.map Prod.fst := List.mem_map_of_mem hfield
  simp only [Function.comp_apply, if_pos hkey]
  rfl

theorem not_mem_around {before after : List String} (keyed : (fields.map Prod.fst).Nodup)
    (hkeys : fields.map Prod.fst = before ++ oldKey :: after) :
    oldKey ∉ before ∧ oldKey ∉ after := by
  rw [hkeys, List.nodup_append, List.nodup_cons] at keyed
  exact ⟨fun h => keyed.2.2 _ h _ List.mem_cons_self rfl, keyed.2.1.1⟩

theorem walkAll_walkedFields (keys : List String) (fields : List (String × Json)) :
    walkAll keys (walkedFields oldKey newKey fields) =
      fields.map fun field => (field.1,
        if field.1 ∈ keys then (Walked.mk field.2 (replaceCommonKey oldKey newKey field.2)).walk
        else ⟨field.2, replaceCommonKey oldKey newKey field.2⟩) := by
  rw [walkedFields_eq, walkAll, List.map_map]
  refine List.map_congr_left fun field _ => ?_
  by_cases hkey : field.1 ∈ keys <;> simp [hkey]

theorem replaceCommonKey_of_free (keyed : (fields.map Prod.fst).Nodup)
    (hold : fields.lookup oldKey = some value) (hnew : newKey ∉ fields.map Prod.fst) :
    replaceCommonKey oldKey newKey (.obj fields) =
      .obj (((fields.filter fun field => field.1 ≠ oldKey).map fun field =>
        (field.1, replaceCommonKey oldKey newKey field.2)) ++ [(newKey, value)]) := by
  obtain ⟨before, after, hkeys⟩ := List.append_of_mem (mem_keys_of_lookup hold)
  obtain ⟨hbefore, hafter⟩ := not_mem_around keyed hkeys
  have hnewAfter : newKey ∉ after := by
    rw [hkeys] at hnew
    simp only [List.mem_append, List.mem_cons, not_or] at hnew
    exact hnew.2.2
  have hlookup : (walkAll before (walkedFields oldKey newKey fields)).lookup oldKey =
      some ⟨value, replaceCommonKey oldKey newKey value⟩ := by
    rw [walkAll_walkedFields, lookup_map_values fields oldKey fun name value =>
      if name ∈ before then (Walked.mk value (replaceCommonKey oldKey newKey value)).walk
      else ⟨value, replaceCommonKey oldKey newKey value⟩, hold, Option.map_some, if_neg hbefore]
  have hfree : newKey ∉ (walkAll before (walkedFields oldKey newKey fields)).map Prod.fst := by
    rwa [keys_walkAll, keys_walkedFields]
  rw [replaceCommonKey, hkeys, replaceKeys_split hbefore hafter, renameEntry_free hlookup hfree]
  congr 1
  rw [walkAll, List.map_append, List.map_append, List.map_singleton, List.map_singleton,
    if_neg hnewAfter]
  congr 1
  rw [walkAll_walkedFields, List.filter_map, List.map_map, List.map_map]
  refine List.map_congr_left fun field hfield => ?_
  obtain ⟨hfield, hne⟩ := List.mem_filter.1 hfield
  have hname : field.1 ∈ before ++ oldKey :: after := hkeys ▸ List.mem_map_of_mem hfield
  simp only [List.mem_append, List.mem_cons] at hname
  simp only [Function.comp_apply, decide_eq_true_eq] at hne ⊢
  by_cases hin : field.1 ∈ before <;> by_cases hthen : field.1 ∈ after <;>
    simp_all [Walked.walk]

/-- Where the new key is taken, one of the two values is lost. -/
theorem replaceCommonKey_of_taken (keyed : (fields.map Prod.fst).Nodup)
    (hold : oldKey ∈ fields.map Prod.fst) (hnew : newKey ∈ fields.map Prod.fst) :
    ∃ found, replaceCommonKey oldKey newKey (.obj fields) = .obj found ∧
      found.length < fields.length := by
  obtain ⟨before, after, hkeys⟩ := List.append_of_mem hold
  obtain ⟨hbefore, hafter⟩ := not_mem_around keyed hkeys
  refine ⟨_, rfl, ?_⟩
  have hshorter : (renameEntry oldKey newKey
      (walkAll before (walkedFields oldKey newKey fields))).length < _ :=
    renameEntry_taken (by rwa [keys_walkAll, keys_walkedFields])
      (by rwa [keys_walkAll, keys_walkedFields])
  rw [List.length_map, hkeys, replaceKeys_split hbefore hafter, walkAll, List.length_map]
  refine Nat.lt_of_lt_of_eq hshorter ?_
  rw [walkAll_walkedFields, List.length_map]

end Dicts

/-! ## Renaming a key -/

mutual

/-- The second document is the first one with one name of a key for another, at any depth;
the entries of a dict correspond one to one, in any order. -/
def Renamed (oldKey newKey : String) : Json → Json → Prop
  | .obj fields, node => ∃ found moved, node = .obj found ∧
      RenamedFields oldKey newKey fields moved ∧ found.Perm moved
  | .arr items, node => ∃ found, node = .arr found ∧ RenamedItems oldKey newKey items found
  | leaf, node => node = leaf

def RenamedFields (oldKey newKey : String) :
    List (String × Json) → List (String × Json) → Prop
  | [], moved => moved = []
  | (key, value) :: rest, moved => ∃ value' rest',
      moved = (if key = oldKey then newKey else key, value') :: rest' ∧
      Renamed oldKey newKey value value' ∧ RenamedFields oldKey newKey rest rest'

def RenamedItems (oldKey newKey : String) : List Json → List Json → Prop
  | [], found => found = []
  | item :: rest, found => ∃ item' rest', found = item' :: rest' ∧
      Renamed oldKey newKey item item' ∧ RenamedItems oldKey newKey rest rest'

end

def Keyed (node : Json) : Prop :=
  ∀ fields, Everywhere node (.obj fields) → (fields.map Prod.fst).Nodup

/-- An array that the walk comes to has no object with the old key; a dict with the old key
does not have the new one, and below the old key there is no other. -/
def RenamableNode (oldKey newKey : String) : Json → Prop
  | .obj fields => ∀ value, fields.lookup oldKey = some value →
      fields.lookup newKey = none ∧ KeyFree oldKey value
  | .arr items => KeyFree oldKey (.arr items)
  | _ => True

def Renamable (oldKey newKey : String) (node : Json) : Prop :=
  ∀ found, Within (fun _ name => name ≠ oldKey) node found → RenamableNode oldKey newKey found

section Renaming

variable {oldKey newKey : String} {node : Json} {items found : List Json}
  {fields moved : List (String × Json)} {value : Json}

theorem renamedFields_iff : RenamedFields oldKey newKey fields moved ↔
    List.Forall₂ (fun field field' =>
      field'.1 = (if field.1 = oldKey then newKey else field.1) ∧
        Renamed oldKey newKey field.2 field'.2) fields moved := by
  induction fields generalizing moved with
  | nil => rw [RenamedFields, List.forall₂_nil_left_iff]
  | cons field fields ih =>
    rw [RenamedFields, List.forall₂_cons_left_iff]
    constructor
    · rintro ⟨value', rest', rfl, hvalue, hrest⟩
      exact ⟨_, rest', ⟨rfl, hvalue⟩, ih.1 hrest, rfl⟩
    · rintro ⟨⟨key', value'⟩, rest', ⟨hkey, hvalue⟩, hrest, rfl⟩
      exact ⟨value', rest', by rw [← hkey], hvalue, ih.2 hrest⟩

theorem renamedItems_iff : RenamedItems oldKey newKey items found ↔
    List.Forall₂ (Renamed oldKey newKey) items found := by
  induction items generalizing found with
  | nil => rw [RenamedItems, List.forall₂_nil_left_iff]
  | cons item items ih =>
    rw [RenamedItems, List.forall₂_cons_left_iff]
    constructor
    · rintro ⟨item', rest', rfl, hitem, hrest⟩
      exact ⟨item', rest', hitem, ih.1 hrest, rfl⟩
    · rintro ⟨item', rest', hitem, hrest, rfl⟩
      exact ⟨item', rest', rfl, hitem, ih.2 hrest⟩

theorem renamed_leaf (hitems : ∀ items, node ≠ .arr items)
    (hfields : ∀ fields, node ≠ .obj fields) : Renamed oldKey newKey node node := by
  cases node with
  | arr items => exact absurd rfl (hitems items)
  | obj fields => exact absurd rfl (hfields fields)
  | _ => exact rfl

theorem renamed_self (h : KeyFree oldKey node) : Renamed oldKey newKey node node := by
  induction node using Json.induction with
  | leaf node hitems hfields => exact renamed_leaf hitems hfields
  | arr items ih =>
    rw [keyFree_arr] at h
    refine ⟨items, rfl, renamedItems_iff.2 (List.forall₂_same.2 fun item hitem => ?_)⟩
    exact ih item hitem (h item hitem)
  | obj fields ih =>
    rw [keyFree_obj, lookup_eq_none_iff_forall] at h
    refine ⟨fields, fields, rfl, renamedFields_iff.2 (List.forall₂_same.2 fun field hfield => ?_),
      .refl _⟩
    exact ⟨(if_neg (h.1 field hfield)).symm, ih field hfield (h.2 field hfield)⟩

theorem keyed_iff_forall : Keyed node ↔
    ∀ found, Everywhere node found →
      ∀ fields, found = .obj fields → (fields.map Prod.fst).Nodup :=
  forall_within_eq

theorem keyed_obj : Keyed (.obj fields) ↔
    (fields.map Prod.fst).Nodup ∧ ∀ field ∈ fields, Keyed field.2 := by
  simp only [keyed_iff_forall, forall_within_obj, obj.injEq, forall_eq', true_implies]

theorem keyed_arr : Keyed (.arr items) ↔ ∀ item ∈ items, Keyed item := by
  simp only [keyed_iff_forall, forall_within_arr, reduceCtorEq, false_implies, implies_true,
    true_and]

theorem keyed_str (text : String) : Keyed (.str text) := by
  intro fields hbelow
  cases hbelow

theorem renamableNode_of_keyFree (h : KeyFree oldKey node) :
    RenamableNode oldKey newKey node := by
  cases node with
  | obj fields =>
    intro value hvalue
    rw [(keyFree_obj.1 h).1] at hvalue
    cases hvalue
  | arr items => exact h
  | _ => trivial

theorem renamable_of_keyFree (h : KeyFree oldKey node) : Renamable oldKey newKey node :=
  fun _ hbelow => renamableNode_of_keyFree (h.of_within hbelow)

theorem renamable_arr : Renamable oldKey newKey (.arr items) ↔ KeyFree oldKey (.arr items) :=
  ⟨fun h => h _ (.here _), renamable_of_keyFree⟩

theorem renamable_obj : Renamable oldKey newKey (.obj fields) ↔
    RenamableNode oldKey newKey (.obj fields) ∧
      ∀ field ∈ fields, field.1 ≠ oldKey → Renamable oldKey newKey field.2 :=
  forall_within_obj

theorem Renamed.exists_mem {others : List (String × Json)}
    (h : Renamed oldKey newKey (.obj fields) (.obj others)) :
    ∀ field ∈ fields, ∃ value',
      (if field.1 = oldKey then newKey else field.1, value') ∈ others ∧
        Renamed oldKey newKey field.2 value' := by
  obtain ⟨found, moved, hnode, hmoved, hperm⟩ := h
  cases hnode
  intro field hfield
  obtain ⟨⟨key', value'⟩, hmem, hkey, hvalue⟩ :=
    (Lists.exists_of_forall₂ (renamedFields_iff.1 hmoved)).1 field hfield
  dsimp only at hkey
  exact ⟨value', hperm.mem_iff.2 (hkey ▸ hmem), hvalue⟩

theorem Renamed.length_eq {others : List (String × Json)}
    (h : Renamed oldKey newKey (.obj fields) (.obj others)) : others.length = fields.length := by
  obtain ⟨found, moved, hnode, hmoved, hperm⟩ := h
  cases hnode
  rw [hperm.length_eq, (renamedFields_iff.1 hmoved).length_eq]

theorem value_unique {others : List (String × Json)} {key : String} {value' : Json}
    (keyed : (others.map Prod.fst).Nodup) (h : (key, value) ∈ others)
    (h' : (key, value') ∈ others) : value = value' :=
  (Prod.ext_iff.1 (List.inj_on_of_nodup_map keyed h h' rfl)).2

def ReplacedRightly (oldKey newKey : String) (node : Json) : Prop :=
  KeyFree oldKey (replaceCommonKey oldKey newKey node) ∧
    Renamed oldKey newKey node (replaceCommonKey oldKey newKey node)

theorem replacedRightly_of_absent (keyed : (fields.map Prod.fst).Nodup)
    (h : oldKey ∉ fields.map Prod.fst) :
    ReplacedRightly oldKey newKey (.obj fields) ↔
      ∀ field ∈ fields, ReplacedRightly oldKey newKey field.2 := by
  have hne : ∀ field ∈ fields, field.1 ≠ oldKey := fun field hfield hkey =>
    h (hkey ▸ List.mem_map_of_mem hfield)
  have hkeys : (fields.map fun field =>
      (field.1, replaceCommonKey oldKey newKey field.2)).map Prod.fst = fields.map Prod.fst := by
    rw [List.map_map]
    rfl
  rw [ReplacedRightly, replaceCommonKey_of_absent h, keyFree_obj, List.forall_mem_map]
  constructor
  · rintro ⟨⟨-, hfree⟩, hrenamed⟩ field hfield
    refine ⟨hfree field hfield, ?_⟩
    obtain ⟨value', hmem, hvalue⟩ := hrenamed.exists_mem field hfield
    rw [if_neg (hne field hfield)] at hmem
    have hthere := List.mem_map_of_mem
      (f := fun field => (field.1, replaceCommonKey oldKey newKey field.2)) hfield
    rwa [value_unique (hkeys ▸ keyed) hthere hmem]
  · intro hall
    refine ⟨⟨?_, fun field hfield => (hall field hfield).1⟩, ?_⟩
    · rw [lookup_eq_none_iff_forall, List.forall_mem_map]
      exact hne
    · refine ⟨_, _, rfl, renamedFields_iff.2 ?_, .refl _⟩
      rw [List.forall₂_map_right_iff, List.forall₂_same]
      exact fun field hfield => ⟨(if_neg (hne field hfield)).symm, (hall field hfield).2⟩

theorem moved_perm (keyed : (fields.map Prod.fst).Nodup)
    (hold : fields.lookup oldKey = some value) :
    (((fields.filter fun field => field.1 ≠ oldKey).map fun field =>
        (field.1, replaceCommonKey oldKey newKey field.2)) ++ [(newKey, value)]).Perm
      (fields.map fun field => if field.1 = oldKey then (newKey, field.2)
        else (field.1, replaceCommonKey oldKey newKey field.2)) := by
  obtain ⟨before, after, rfl, hbefore⟩ := List.lookup_eq_some_iff.1 hold
  have hoff : ∀ field ∈ before ++ after, field.1 ≠ oldKey := by
    rw [List.map_append, List.map_cons, List.nodup_middle, List.nodup_cons, ← List.map_append]
      at keyed
    intro field hfield hkey
    have hthere : field.1 ∈ (before ++ after).map Prod.fst := List.mem_map_of_mem hfield
    exact keyed.1 (hkey ▸ hthere)
  have hfilter : (before ++ (oldKey, value) :: after).filter (fun field => field.1 ≠ oldKey) =
      before ++ after := by
    have hall : (before ++ after).filter (fun field => field.1 ≠ oldKey) = before ++ after :=
      List.filter_eq_self.2 fun field hfield => decide_eq_true (hoff field hfield)
    rw [List.filter_append] at hall ⊢
    rwa [List.filter_cons_of_neg (by simp)]
  have hsame : ∀ part : List (String × Json), (∀ field ∈ part, field.1 ≠ oldKey) →
      part.map (fun field => if field.1 = oldKey then (newKey, field.2)
        else (field.1, replaceCommonKey oldKey newKey field.2)) =
      part.map fun field => (field.1, replaceCommonKey oldKey newKey field.2) :=
    fun part hpart => List.map_congr_left fun field hfield => if_neg (hpart field hfield)
  rw [List.forall_mem_append] at hoff
  rw [hfilter, List.map_append, List.map_append, List.map_cons, if_pos rfl, hsame _ hoff.1,
    hsame _ hoff.2]
  exact (List.perm_append_singleton _ _).trans List.perm_middle.symm

theorem replacedRightly_of_free (keyed : (fields.map Prod.fst).Nodup)
    (hold : fields.lookup oldKey = some value) (hnew : newKey ∉ fields.map Prod.fst) :
    ReplacedRightly oldKey newKey (.obj fields) ↔
      KeyFree oldKey value ∧
        ∀ field ∈ fields, field.1 ≠ oldKey → ReplacedRightly oldKey newKey field.2 := by
  have hne : newKey ≠ oldKey := by
    rintro rfl
    exact hnew (mem_keys_of_lookup hold)
  let walk : String × Json → String × Json := fun field =>
    (field.1, replaceCommonKey oldKey newKey field.2)
  have hkeyed : ((((fields.filter fun field => field.1 ≠ oldKey).map walk) ++
      [(newKey, value)]).map Prod.fst).Nodup := by
    rw [List.map_append, List.map_map, List.map_singleton, List.nodup_append]
    refine ⟨keyed.sublist (List.filter_sublist.map _), List.nodup_singleton _, ?_⟩
    rintro key hkey _ hlast rfl
    obtain rfl := List.mem_singleton.1 hlast
    exact hnew ((List.filter_sublist.map _).subset hkey)
  have hwalked : ∀ field ∈ fields, field.1 ≠ oldKey →
      walk field ∈ ((fields.filter fun field => field.1 ≠ oldKey).map walk) ++
        [(newKey, value)] := fun field hfield hkey =>
    List.mem_append_left _ (List.mem_map_of_mem (List.mem_filter.2 ⟨hfield, by simpa using hkey⟩))
  have hleft : ∀ field ∈ fields.filter (fun field => field.1 ≠ oldKey),
      field ∈ fields ∧ field.1 ≠ oldKey := fun field hfield => by
    simpa using List.mem_filter.1 hfield
  have hmem : (oldKey, value) ∈ fields := mem_of_lookup hold
  rw [ReplacedRightly, replaceCommonKey_of_free keyed hold hnew, keyFree_obj]
  constructor
  · rintro ⟨⟨-, hfree⟩, hrenamed⟩
    refine ⟨hfree (newKey, value) (by simp), fun field hfield hkey => ?_⟩
    refine ⟨hfree _ (hwalked field hfield hkey), ?_⟩
    obtain ⟨value', hmem, hvalue⟩ := hrenamed.exists_mem field hfield
    rw [if_neg hkey] at hmem
    rwa [value_unique hkeyed (hwalked field hfield hkey) hmem]
  · rintro ⟨hvalue, hall⟩
    refine ⟨⟨?_, ?_⟩, ?_⟩
    · rw [lookup_eq_none_iff_forall, List.forall_mem_append, List.forall_mem_map,
        List.forall_mem_singleton]
      exact ⟨fun field hfield => (hleft field hfield).2, hne⟩
    · rw [List.forall_mem_append, List.forall_mem_map, List.forall_mem_singleton]
      refine ⟨fun field hfield => ?_, hvalue⟩
      exact (hall field (hleft field hfield).1 (hleft field hfield).2).1
    · refine ⟨_, _, rfl, renamedFields_iff.2 ?_, moved_perm keyed hold⟩
      rw [List.forall₂_map_right_iff, List.forall₂_same]
      intro field hfield
      by_cases hkey : field.1 = oldKey
      · have hthere : (field.1, value) ∈ fields := hkey ▸ hmem
        have hsame : field.2 = value := value_unique keyed hfield hthere
        simpa [hkey, hsame] using renamed_self hvalue
      · simpa [hkey] using (hall field hfield hkey).2

theorem not_replacedRightly_of_taken (keyed : (fields.map Prod.fst).Nodup)
    (hold : oldKey ∈ fields.map Prod.fst) (hnew : newKey ∈ fields.map Prod.fst) :
    ¬ ReplacedRightly oldKey newKey (.obj fields) := by
  rintro ⟨-, hrenamed⟩
  obtain ⟨found, hfound, hshorter⟩ := replaceCommonKey_of_taken keyed hold hnew
  rw [hfound] at hrenamed
  exact absurd hrenamed.length_eq (Nat.ne_of_lt hshorter)

/-- The key is replaced everywhere, and nothing else changes, exactly in documents that the
walk sees whole. -/
theorem replacedRightly_iff (keyed : Keyed node) :
    ReplacedRightly oldKey newKey node ↔ Renamable oldKey newKey node := by
  induction node using Json.induction with
  | leaf node hitems hfields =>
    have hsame : replaceCommonKey oldKey newKey node = node := by
      cases node with
      | obj fields => exact absurd rfl (hfields fields)
      | _ => rfl
    have hfree : KeyFree oldKey node := keyFree_leaf hitems hfields
    rw [ReplacedRightly, hsame]
    exact iff_of_true ⟨hfree, renamed_self hfree⟩ (renamable_of_keyFree hfree)
  | arr items ih =>
    rw [renamable_arr]
    exact ⟨fun h => h.1, fun h => ⟨h, renamed_self h⟩⟩
  | obj fields ih =>
    obtain ⟨hkeys, hbelow⟩ := keyed_obj.1 keyed
    have hih : ∀ field ∈ fields, ReplacedRightly oldKey newKey field.2 ↔
        Renamable oldKey newKey field.2 := fun field hfield => ih field hfield (hbelow field hfield)
    rw [renamable_obj]
    cases hold : fields.lookup oldKey with
    | none =>
      have hne := lookup_eq_none_iff_forall.1 hold
      have habsent : oldKey ∉ fields.map Prod.fst :=
        (lookup_eq_none_iff_notMem fields oldKey).1 hold
      rw [replacedRightly_of_absent hkeys habsent, and_iff_right (by simp [RenamableNode, hold])]
      exact forall₂_congr fun field hfield => by
        rw [hih field hfield, forall_prop_of_true (hne field hfield)]
    | some value =>
      have hthere : oldKey ∈ fields.map Prod.fst := mem_keys_of_lookup hold
      by_cases hnew : newKey ∈ fields.map Prod.fst
      · refine iff_of_false (not_replacedRightly_of_taken hkeys hthere hnew) fun h => ?_
        exact (lookup_eq_none_iff_notMem fields newKey).1 (h.1 value hold).1 hnew
      · have hfree := (lookup_eq_none_iff_notMem fields newKey).2 hnew
        rw [replacedRightly_of_free hkeys hold hnew]
        refine and_congr ?_ ?_
        · simp [RenamableNode, hold, hfree]
        · exact forall₂_congr fun field hfield => forall_congr' fun _ => hih field hfield

end Renaming

/-! ## Both functions on what a file holds -/

/-- What `json.load` returns. -/
structure Loaded where
  root : Json
  keyed : Keyed root

def RemovedRightly (key : String) (node : Json) : Prop :=
  KeyFree key (removeCommonKey key node) ∧ removeCommonKey key node = eraseKey key node

theorem removedRightly_iff {key : String} {node : Json} :
    RemovedRightly key node ↔ Removable key node := by
  rw [← removeCommonKey_eq_eraseKey_iff, RemovedRightly, and_iff_right_of_imp]
  intro h
  rw [h]
  exact keyFree_eraseKey key node

theorem commonKeys_iff (document : Loaded) (key oldKey newKey : String) :
    (RemovedRightly key document.root ↔ Removable key document.root) ∧
      (ReplacedRightly oldKey newKey document.root ↔ Renamable oldKey newKey document.root) :=
  ⟨removedRightly_iff, replacedRightly_iff document.keyed⟩

def listedSection : Loaded where
  root := .obj [("anyOf", .arr [.obj [("x-docsSection", .str "Common")]])]
  keyed := by simp [keyed_obj, keyed_arr, keyed_str]

def nestedReference : Loaded where
  root := .obj [("airflow_base_ref", .obj [("airflow_base_ref", .str "#/definitions/labels")])]
  keyed := by simp [keyed_obj, keyed_str]

theorem commonKeys_left : ¬ RemovedRightly "x-docsSection" listedSection.root ∧
    ¬ ReplacedRightly "airflow_base_ref" "$ref" nestedReference.root := by
  constructor
  · rintro ⟨-, h⟩
    revert h
    decide
  · rintro ⟨h, -⟩
    have hroot : replaceCommonKey "airflow_base_ref" "$ref" nestedReference.root =
        .obj [("$ref", .obj [("airflow_base_ref", .str "#/definitions/labels")])] := by decide
    rw [hroot] at h
    simp [keyFree_obj] at h

/-! ## The additional schema -/

def addQubershipCustomSchema (qubershipSchema customizedSchema : Json) : Except PyError Json := do
  let qubershipSchema := replaceCommonKey "airflow_base_ref" "$ref" qubershipSchema
  let properties ← deepMergeSchemaProperties (← customizedSchema.getItem "properties")
    (← qubershipSchema.getItem "properties")
  customizedSchema.setItem "properties" properties

section Additional

variable {qubershipSchema customizedSchema base override : Json}

theorem addQubershipCustomSchema_isMerge
    (hbase : customizedSchema.getItem "properties" = .ok base)
    (hoverride : (replaceCommonKey "airflow_base_ref" "$ref" qubershipSchema).getItem "properties" =
      .ok override) (baseMap : PropertyMap base) (overrideMap : PropertyMap override) :
    ∃ result properties, addQubershipCustomSchema qubershipSchema customizedSchema = .ok result ∧
      result.getItem "properties" = .ok properties ∧ IsMerge base override properties ∧
      SameKeywords result customizedSchema := by
  obtain ⟨properties, hmerge, hproperties⟩ := deepMergeSchemaProperties_isMerge baseMap overrideMap
  obtain ⟨fields, rfl, -⟩ := getItem_eq_ok_iff.1 hbase
  refine ⟨.obj (insertField fields "properties" properties), properties, ?_, ?_, hproperties,
    sameKeywords_insertField fields properties⟩
  · simp only [addQubershipCustomSchema, hbase, hoverride, bind, Except.bind, hmerge, setItem]
  · rw [getItem_eq_ok_iff]
    exact ⟨_, rfl, by rw [lookup_insertField, if_pos rfl]⟩

end Additional

end QubershipAirflow.Schema
