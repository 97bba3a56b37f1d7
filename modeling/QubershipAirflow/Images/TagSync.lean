import Mathlib.Data.List.DropRight
import QubershipAirflow.Images.ReleaseImages
import QubershipAirflow.Library.JsonNodes

/-! The chart's values get the tags of the release. Each mapping is given a new tag by the
names that it has before the texts in it are updated in turn. -/
namespace QubershipAirflow.Images

open PyError (bind_ok_iff)
open Json (Within)
open Lists (exists_of_forall₂)

variable {chars : WordChars}

/-- `f"{registry.rstrip('/')}/{repository.lstrip('/')}"` -/
def joinImage (registry repository : String) : String :=
  String.ofList (registry.toList.rdropWhile (· = '/')) ++ "/" ++
    String.ofList (repository.toList.dropWhile (· = '/'))

def fullImage : Json → Json → Except PyError String
  | .str registry, .str repository => .ok (joinImage registry repository)
  | _, _ => .error .attributeError

/-- `if image in image_versions: node["tag"] = image_versions[image]`, with the tag that was
assigned so far. A list or a dict has no hash; to assign an equal tag changes nothing. -/
def retag (images : ImageVersions chars) (tag : Option String) :
    Json → Except PyError (Option String)
  | .str image => .ok ((images.find image).or tag)
  | .arr _ | .obj _ => .error .typeError
  | _ => .ok tag

/-- The tag that a mapping is given, by its registry alone, by the full name of its image
and by its repository; a later rule wins. -/
def newTag (images : ImageVersions chars) (fields : List (String × Json)) :
    Except PyError (Option String) :=
  match fields.lookup "tag" with
  | none => .ok none
  | some _ => do
      let tag ← match fields.lookup "registry", fields.lookup "repository" with
        | some registry, none => retag images none registry
        | _, _ => pure none
      let tag ← match fields.lookup "registry", fields.lookup "repository" with
        | some registry, some repository => do
            retag images tag (.str (← fullImage registry repository))
        | _, _ => pure tag
      match fields.lookup "repository" with
      | some repository => retag images tag repository
      | none => pure tag

def assigned (tag : Option String) (key : String) : Option String :=
  if key = "tag" then tag else none

mutual

def updateNode (images : ImageVersions chars) : Json → Except PyError Json
  | .obj fields => do
      let tag ← newTag images fields
      return .obj (← updateFields images tag fields)
  | .arr items => do return .arr (← updateItems images items)
  | .str text => .ok (.str (updateText images text))
  | node => .ok node

/-- `for key, value in node.items(): node[key] = update_node(value, image_versions)` -/
def updateFields (images : ImageVersions chars) (tag : Option String) :
    List (String × Json) → Except PyError (List (String × Json))
  | [] => .ok []
  | (key, value) :: rest =>
      match assigned tag key with
      | some newTag => do
          return (key, .str (updateText images newTag)) :: (← updateFields images tag rest)
      | none => do
          return (key, ← updateNode images value) :: (← updateFields images tag rest)

def updateItems (images : ImageVersions chars) : List Json → Except PyError (List Json)
  | [] => .ok []
  | item :: rest => do return (← updateNode images item) :: (← updateItems images rest)

end

def textAt (fields : List (String × Json)) (key : String) : Option String :=
  match fields.lookup key with
  | some (.str text) => some text
  | _ => none

/-- The tag that the release has for a mapping, where the repository's own comes first. -/
def tagFor (images : ImageVersions chars) : Option String → Option String → Option String
  | some registry, some repository =>
      (images.find repository).or (images.find (joinImage registry repository))
  | none, some repository => images.find repository
  | some registry, none => images.find registry
  | none, none => none

/-- The tag that the release has for a mapping by the names it has now. -/
def given (images : ImageVersions chars) (fields : List (String × Json)) : Option String :=
  tagFor images (textAt fields "registry") (textAt fields "repository")

def Hashable : Json → Prop
  | .arr _ | .obj _ => False
  | _ => True

/-- The names of a mapping with a tag are ones that the code can look up: two texts, or one
value that is neither a list nor a dict. -/
structure Readable (fields : List (String × Json)) : Prop where
  both : ∀ tag registry repository, fields.lookup "tag" = some tag →
    fields.lookup "registry" = some registry → fields.lookup "repository" = some repository →
    (∃ text, registry = .str text) ∧ ∃ text, repository = .str text
  registry : ∀ tag registry, fields.lookup "tag" = some tag →
    fields.lookup "registry" = some registry → Hashable registry
  repository : ∀ tag repository, fields.lookup "tag" = some tag →
    fields.lookup "repository" = some repository → Hashable repository

/-- The update goes below the fields of a mapping, but not below a tag that it assigned. -/
abbrev Reached (images : ImageVersions chars) : Json → Json → Prop :=
  Within fun fields key => key = "tag" → given images fields = none

section Names

variable {images : ImageVersions chars} {fields : List (String × Json)} {tag : Option String}

theorem newTag_of_no_tag (htag : fields.lookup "tag" = none) :
    newTag images fields = .ok tag ↔ Readable fields ∧ tag = none := by
  have hreadable : Readable fields := by
    constructor <;> simp [htag]
  simp [newTag, htag, hreadable, eq_comm]

theorem newTag_eq_ok_iff : newTag images fields = .ok tag ↔
    Readable fields ∧ tag = (fields.lookup "tag").bind fun _ => given images fields := by
  cases htag : fields.lookup "tag" with
  | none => exact newTag_of_no_tag htag
  | some old =>
      rw [Option.bind_some]
      cases hregistry : fields.lookup "registry" with
      | none =>
          cases hrepository : fields.lookup "repository" with
          | none =>
              have hreadable : Readable fields := by
                constructor <;> simp [hregistry, hrepository]
              simp [newTag, given, textAt, tagFor, htag, hregistry, hrepository, hreadable,
                bind, Except.bind, pure, Except.pure, eq_comm]
          | some repository =>
              have hreadable : Readable fields ↔ Hashable repository := by
                constructor
                · intro h
                  exact h.repository old repository htag hrepository
                · intro h
                  constructor <;> simp [htag, hregistry, hrepository, h]
              cases repository <;>
                simp [newTag, given, textAt, tagFor, htag, hregistry, hrepository, hreadable,
                  bind, Except.bind, pure, Except.pure, retag, Hashable, eq_comm]
      | some registry =>
          cases hrepository : fields.lookup "repository" with
          | none =>
              have hreadable : Readable fields ↔ Hashable registry := by
                constructor
                · intro h
                  exact h.registry old registry htag hregistry
                · intro h
                  constructor <;> simp [htag, hregistry, hrepository, h]
              cases registry <;>
                simp [newTag, given, textAt, tagFor, htag, hregistry, hrepository, hreadable,
                  bind, Except.bind, pure, Except.pure, retag, Hashable, eq_comm]
          | some repository =>
              have hreadable : Readable fields ↔
                  (∃ text, registry = .str text) ∧ ∃ text, repository = .str text := by
                constructor
                · intro h
                  exact h.both old registry repository htag hregistry hrepository
                · rintro ⟨⟨text, rfl⟩, text', rfl⟩
                  constructor <;> simp [htag, hregistry, hrepository, Hashable]
              cases registry <;> cases repository <;>
                simp [newTag, given, textAt, tagFor, htag, hregistry, hrepository, hreadable,
                  bind, Except.bind, pure, Except.pure, retag, fullImage, eq_comm]

def Names (registry repository : Option String) (name : String) : Prop :=
  repository = some name ∨ registry = some name ∧ repository = none ∨
    ∃ first second, registry = some first ∧ repository = some second ∧
      name = joinImage first second

theorem tagFor_cases (images : ImageVersions chars) (registry repository : Option String) :
    (∃ name tag, Names registry repository name ∧ images.find name = some tag ∧
        tagFor images registry repository = some tag) ∨
      (∀ name, Names registry repository name → images.find name = none) ∧
        tagFor images registry repository = none := by
  cases registry with
  | none =>
      cases repository with
      | none => exact .inr ⟨by simp [Names], rfl⟩
      | some repository =>
          cases hfind : images.find repository with
          | none => exact .inr ⟨by simp [Names, hfind], hfind⟩
          | some tag => exact .inl ⟨repository, tag, .inl rfl, hfind, hfind⟩
  | some registry =>
      cases repository with
      | none =>
          cases hfind : images.find registry with
          | none => exact .inr ⟨by simp [Names, hfind], hfind⟩
          | some tag => exact .inl ⟨registry, tag, .inr (.inl ⟨rfl, rfl⟩), hfind, hfind⟩
      | some repository =>
          cases hrepository : images.find repository with
          | some tag =>
              exact .inl ⟨repository, tag, .inl rfl, hrepository, by simp [tagFor, hrepository]⟩
          | none =>
              cases hfull : images.find (joinImage registry repository) with
              | none =>
                  refine .inr ⟨?_, by simp [tagFor, hrepository, hfull]⟩
                  rintro name (⟨⟨⟩⟩ | ⟨-, ⟨⟩⟩ | ⟨_, _, ⟨⟩, ⟨⟩, rfl⟩)
                  · exact hrepository
                  · exact hfull
              | some tag =>
                  exact .inl ⟨joinImage registry repository, tag,
                    .inr (.inr ⟨registry, repository, rfl, rfl, rfl⟩), hfull,
                    by simp [tagFor, hrepository, hfull]⟩

theorem no_colon_of_tagFor {registry repository : Option String} {found : String}
    (h : tagFor images registry repository = some found) : ':' ∉ found.toList := by
  rcases tagFor_cases images registry repository with ⟨name, other, -, hfind, hother⟩ | ⟨-, hnone⟩
  · rw [h] at hother
    cases hother
    exact (ImageVersions.wellFormed_of_find hfind).2.no_colon
  · rw [h] at hnone
    cases hnone

end Names

section Updates

variable {images : ImageVersions chars} {fields fields' rest rest' : List (String × Json)}
  {items items' : List Json} {node result : Json} {text : String}

/-- What a field of a mapping becomes: the tag that the release has, or its own update. -/
def FieldUpdate (images : ImageVersions chars) (mapping : List (String × Json))
    (field field' : String × Json) : Prop :=
  field'.1 = field.1 ∧
    ((∃ tag, field.1 = "tag" ∧ given images mapping = some tag ∧ field'.2 = .str tag) ∨
      (field.1 = "tag" → given images mapping = none) ∧ updateNode images field.2 = .ok field'.2)

theorem updateItems_eq_ok_iff : updateItems images items = .ok items' ↔
    List.Forall₂ (fun item item' => updateNode images item = .ok item') items items' := by
  induction items generalizing items' with
  | nil => simp [updateItems, eq_comm]
  | cons item items ih =>
      simp only [updateItems, bind_ok_iff, List.forall₂_cons_left_iff, pure, Except.pure,
        Except.ok.injEq, ih]
      constructor
      · rintro ⟨item', hitem, items', hitems, rfl⟩
        exact ⟨item', items', hitem, hitems, rfl⟩
      · rintro ⟨item', items', hitem, hitems, rfl⟩
        exact ⟨item', hitem, items', hitems, rfl⟩

theorem updateFields_eq_ok_iff {tag : Option String}
    (htag : "tag" ∈ rest.map Prod.fst → tag = given images fields) :
    updateFields images tag rest = .ok rest' ↔
      List.Forall₂ (FieldUpdate images fields) rest rest' := by
  induction rest generalizing rest' with
  | nil => simp [updateFields, eq_comm]
  | cons field rest ih =>
      obtain ⟨key, value⟩ := field
      have hrest : ∀ rest', updateFields images tag rest = .ok rest' ↔
          List.Forall₂ (FieldUpdate images fields) rest rest' :=
        fun rest' => ih fun hmem => htag (List.mem_cons_of_mem _ hmem)
      rw [List.forall₂_cons_left_iff]
      cases hassigned : assigned tag key with
      | some newTag =>
          have hkey : key = "tag" ∧ given images fields = some newTag := by
            unfold assigned at hassigned
            split at hassigned
            · rename_i hkey
              exact ⟨hkey, by rw [← htag (by simp [hkey]), hassigned]⟩
            · cases hassigned
          have hsame : updateText images newTag = newTag :=
            (updateText_eq_tag_iff (no_colon_of_tagFor hkey.2)).mpr rfl
          simp only [updateFields, hassigned, bind_ok_iff, pure, Except.pure, Except.ok.injEq,
            hrest, hsame]
          constructor
          · rintro ⟨rest', hrest', rfl⟩
            exact ⟨(key, .str newTag), rest', ⟨rfl, .inl ⟨newTag, hkey.1, hkey.2, rfl⟩⟩,
              hrest', rfl⟩
          · rintro ⟨⟨_, value'⟩, rest', ⟨rfl, hvalue⟩, hrest', rfl⟩
            refine ⟨rest', hrest', ?_⟩
            rcases hvalue with ⟨tag', -, hgiven, hvalue⟩ | ⟨hnone, -⟩
            · rw [hkey.2] at hgiven
              cases hgiven
              rw [show value' = .str newTag from hvalue]
            · rw [hnone hkey.1] at hkey
              cases hkey.2
      | none =>
          have hnone : key = "tag" → given images fields = none := by
            rintro rfl
            rw [← htag (by simp)]
            simpa [assigned] using hassigned
          simp only [updateFields, hassigned, bind_ok_iff, pure, Except.pure, Except.ok.injEq,
            hrest]
          constructor
          · rintro ⟨value', hvalue, rest', hrest', rfl⟩
            exact ⟨(key, value'), rest', ⟨rfl, .inr ⟨hnone, hvalue⟩⟩, hrest', rfl⟩
          · rintro ⟨⟨_, value'⟩, rest', ⟨rfl, hvalue⟩, hrest', rfl⟩
            rcases hvalue with ⟨tag', hkey, hgiven, -⟩ | ⟨-, hvalue⟩
            · rw [hnone hkey] at hgiven
              cases hgiven
            · exact ⟨value', hvalue, rest', hrest', rfl⟩

theorem updateNode_obj_iff : updateNode images (.obj fields) = .ok result ↔
    Readable fields ∧ ∃ fields', List.Forall₂ (FieldUpdate images fields) fields fields' ∧
      result = .obj fields' := by
  have htag : "tag" ∈ fields.map Prod.fst →
      ((fields.lookup "tag").bind fun _ => given images fields) = given images fields := by
    intro hmem
    obtain ⟨old, hold⟩ := Option.isSome_iff_exists.mp ((Json.lookup_isSome_iff _ _).mpr hmem)
    rw [hold, Option.bind_some]
  simp only [updateNode, bind_ok_iff, newTag_eq_ok_iff, pure, Except.pure, Except.ok.injEq]
  constructor
  · rintro ⟨_, ⟨hreadable, rfl⟩, fields', hfields', rfl⟩
    exact ⟨hreadable, fields', (updateFields_eq_ok_iff htag).mp hfields', rfl⟩
  · rintro ⟨hreadable, fields', hfields', rfl⟩
    exact ⟨_, ⟨hreadable, rfl⟩, fields', (updateFields_eq_ok_iff htag).mpr hfields', rfl⟩

theorem updateNode_arr_iff : updateNode images (.arr items) = .ok result ↔
    ∃ items', List.Forall₂ (fun item item' => updateNode images item = .ok item') items items' ∧
      result = .arr items' := by
  simp only [updateNode, bind_ok_iff, updateItems_eq_ok_iff, pure, Except.pure, Except.ok.injEq]
  constructor
  · rintro ⟨items', hitems', rfl⟩
    exact ⟨items', hitems', rfl⟩
  · rintro ⟨items', hitems', rfl⟩
    exact ⟨items', hitems', rfl⟩

theorem updateNode_str_iff :
    updateNode images (.str text) = .ok result ↔ result = .str (updateText images text) := by
  simp [updateNode, eq_comm]

end Updates

section Nodes

variable {images : ImageVersions chars} {node result found found' : Json}

abbrev Contains : Json → Json → Prop := Within fun _ _ => True

theorem updateNode_arr_ok_iff {items : List Json} :
    (∃ result, updateNode images (.arr items) = .ok result) ↔
      ∀ item ∈ items, ∃ item', updateNode images item = .ok item' := by
  rw [← Lists.exists_forall₂_iff]
  constructor
  · rintro ⟨result, h⟩
    obtain ⟨items', hitems', -⟩ := updateNode_arr_iff.mp h
    exact ⟨items', hitems'⟩
  · rintro ⟨items', hitems'⟩
    exact ⟨_, updateNode_arr_iff.mpr ⟨items', hitems', rfl⟩⟩

theorem updateNode_obj_ok_iff {fields : List (String × Json)} :
    (∃ result, updateNode images (.obj fields) = .ok result) ↔ Readable fields ∧
      ∀ field ∈ fields, (field.1 = "tag" → given images fields = none) →
        ∃ value', updateNode images field.2 = .ok value' := by
  constructor
  · rintro ⟨result, h⟩
    obtain ⟨hreadable, fields', hfields', -⟩ := updateNode_obj_iff.mp h
    refine ⟨hreadable, fun field hfield henters => ?_⟩
    obtain ⟨field', -, -, ⟨tag, hkey, hgiven, -⟩ | ⟨-, hvalue⟩⟩ :=
      (exists_of_forall₂ hfields').1 field hfield
    · rw [henters hkey] at hgiven
      cases hgiven
    · exact ⟨field'.2, hvalue⟩
  · rintro ⟨hreadable, hvalues⟩
    have hfields : ∀ field ∈ fields, ∃ field', FieldUpdate images fields field field' := by
      intro field hfield
      by_cases henters : field.1 = "tag" → given images fields = none
      · obtain ⟨value', hvalue⟩ := hvalues field hfield henters
        exact ⟨(field.1, value'), rfl, .inr ⟨henters, hvalue⟩⟩
      · obtain ⟨hkey, hsome⟩ := Classical.not_imp.mp henters
        obtain ⟨tag, htag⟩ := Option.ne_none_iff_exists'.mp hsome
        exact ⟨(field.1, .str tag), rfl, .inl ⟨tag, hkey, htag, rfl⟩⟩
    obtain ⟨fields', hfields'⟩ := Lists.exists_forall₂_iff.mpr hfields
    exact ⟨_, updateNode_obj_iff.mpr ⟨hreadable, fields', hfields', rfl⟩⟩

theorem updateNode_leaf (hitems : ∀ items, node ≠ .arr items)
    (hfields : ∀ fields, node ≠ .obj fields) :
    ∃ leaf, updateNode images node = .ok leaf ∧ (∀ items, leaf ≠ .arr items) ∧
      ∀ fields, leaf ≠ .obj fields := by
  cases node with
  | obj fields => exact absurd rfl (hfields fields)
  | arr items => exact absurd rfl (hitems items)
  | _ => exact ⟨_, rfl, by simp, by simp⟩

theorem updateNode_ok_iff : (∃ result, updateNode images node = .ok result) ↔
    ∀ fields, Reached images node (.obj fields) → Readable fields := by
  rw [Json.forall_within_eq]
  induction node using Json.induction with
  | leaf node hitems hfields =>
      obtain ⟨leaf, hleaf, -⟩ := updateNode_leaf hitems hfields
      refine ⟨fun _ found hfound fields hobj => ?_, fun _ => ⟨leaf, hleaf⟩⟩
      exact absurd (hfound.eq_of_leaf hitems hfields ▸ hobj) (hfields fields)
  | arr items ih =>
      rw [Json.forall_within_arr, updateNode_arr_ok_iff]
      constructor
      · intro h
        exact ⟨by simp, fun item hitem => (ih item hitem).mp (h item hitem)⟩
      · rintro ⟨-, h⟩ item hitem
        exact (ih item hitem).mpr (h item hitem)
  | obj fields ih =>
      rw [Json.forall_within_obj, updateNode_obj_ok_iff]
      constructor
      · rintro ⟨hreadable, h⟩
        refine ⟨?_, fun field hfield henters => (ih field hfield).mp (h field hfield henters)⟩
        rintro _ ⟨⟩
        exact hreadable
      · rintro ⟨hhere, h⟩
        exact ⟨hhere fields rfl, fun field hfield henters =>
          (ih field hfield).mpr (h field hfield henters)⟩

theorem Reached.updated (hreached : Reached images node found)
    (h : updateNode images node = .ok result) :
    ∃ found', updateNode images found = .ok found' ∧ Contains result found' := by
  induction hreached generalizing result with
  | here => exact ⟨result, h, .here _⟩
  | item hitem _ ih =>
      obtain ⟨items', hitems', rfl⟩ := updateNode_arr_iff.mp h
      obtain ⟨item', hmem, hitem'⟩ := (exists_of_forall₂ hitems').1 _ hitem
      obtain ⟨found', hfound', hcontains⟩ := ih hitem'
      exact ⟨found', hfound', .item hmem hcontains⟩
  | field hfield henters _ ih =>
      obtain ⟨-, fields', hfields', rfl⟩ := updateNode_obj_iff.mp h
      obtain ⟨⟨_, value'⟩, hmem, -, hvalue⟩ := (exists_of_forall₂ hfields').1 _ hfield
      rcases hvalue with ⟨tag, hkey, hgiven, -⟩ | ⟨-, hvalue⟩
      · rw [henters hkey] at hgiven
        cases hgiven
      · obtain ⟨found', hfound', hcontains⟩ := ih hvalue
        exact ⟨found', hfound', .field hmem trivial hcontains⟩

theorem exists_reached_of_contains (h : updateNode images node = .ok result)
    (hcontains : Contains result found') :
    (∃ found, Reached images node found ∧ updateNode images found = .ok found') ∨
      ∃ tag, ':' ∉ tag.toList ∧ found' = .str tag := by
  induction node using Json.induction generalizing result with
  | leaf node hitems hfields =>
      obtain ⟨leaf, hleaf, hitems', hfields'⟩ := updateNode_leaf hitems hfields
      rw [h] at hleaf
      cases hleaf
      rw [hcontains.eq_of_leaf hitems' hfields']
      exact .inl ⟨node, .here _, h⟩
  | arr items ih =>
      obtain ⟨items', hitems', rfl⟩ := updateNode_arr_iff.mp h
      cases hcontains with
      | here => exact .inl ⟨_, .here _, h⟩
      | item hmem hbelow =>
          obtain ⟨item, hitem, hitem'⟩ := (exists_of_forall₂ hitems').2 _ hmem
          rcases ih item hitem hitem' hbelow with ⟨found, hfound, hupdate⟩ | htag
          · exact .inl ⟨found, .item hitem hfound, hupdate⟩
          · exact .inr htag
  | obj fields ih =>
      obtain ⟨-, fields', hfields', rfl⟩ := updateNode_obj_iff.mp h
      cases hcontains with
      | here => exact .inl ⟨_, .here _, h⟩
      | field hmem _ hbelow =>
          obtain ⟨⟨key, value⟩, hfield, -, hvalue⟩ := (exists_of_forall₂ hfields').2 _ hmem
          rcases hvalue with ⟨tag, -, hgiven, hvalue⟩ | ⟨henters, hvalue⟩
          · dsimp only at hvalue
            subst hvalue
            refine .inr ⟨tag, no_colon_of_tagFor hgiven, hbelow.eq_of_leaf ?_ ?_⟩ <;> simp
          · rcases ih _ hfield hvalue hbelow with ⟨found, hfound, hupdate⟩ | htag
            · exact .inl ⟨found, .field hfield henters hfound, hupdate⟩
            · exact .inr htag

end Nodes

end QubershipAirflow.Images
