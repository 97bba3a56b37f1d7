import QubershipAirflow.Images.TagSync

/-! What the update leaves alone: all but the tags of mappings and of texts. -/
namespace QubershipAirflow.Images

open Json (Within)
open Lists (exists_of_forall₂)

variable {chars : WordChars} {images : ImageVersions chars}

def TagOf (images : ImageVersions chars) (mapping : List (String × Json)) (tag : String) : Prop :=
  ∃ name, Names (textAt mapping "registry") (textAt mapping "repository") name ∧
    images.find name = some tag

/-- The text `name:old` of an image of the release has become `name:new`. -/
def Retagged (images : ImageVersions chars) (text text' : String) : Prop :=
  ∃ name old new, chars.IsTag old.toList ∧ images.find name = some new ∧
    text = name ++ ":" ++ old ∧ text' = name ++ ":" ++ new

mutual

def OnlyTags (images : ImageVersions chars) : Json → Json → Prop
  | .obj fields, result => ∃ fields', result = .obj fields' ∧
      OnlyTagsFields images fields fields fields'
  | .arr items, result => ∃ items', result = .arr items' ∧ OnlyTagsItems images items items'
  | .str text, result => result = .str text ∨
      ∃ text', result = .str text' ∧ Retagged images text text'
  | node, result => result = node

/-- The keys are the same. A value differs in tags, or is the tag of the mapping. -/
def OnlyTagsFields (images : ImageVersions chars) (mapping : List (String × Json)) :
    List (String × Json) → List (String × Json) → Prop
  | [], fields' => fields' = []
  | (key, value) :: rest, fields' => ∃ value' rest', fields' = (key, value') :: rest' ∧
      (OnlyTags images value value' ∨
        key = "tag" ∧ ∃ tag, TagOf images mapping tag ∧ value' = .str tag) ∧
      OnlyTagsFields images mapping rest rest'

def OnlyTagsItems (images : ImageVersions chars) : List Json → List Json → Prop
  | [], items' => items' = []
  | item :: rest, items' => ∃ item' rest', items' = item' :: rest' ∧
      OnlyTags images item item' ∧ OnlyTagsItems images rest rest'

end

def KeepsLineFeed (images : ImageVersions chars) (text : String) : Prop :=
  ∀ name old new, Outdated images text name old new → text ≠ name ++ ":" ++ old ++ "\n"

section Frame

variable {fields fields' rest rest' : List (String × Json)} {items items' : List Json}
  {text : String} {node result : Json}

theorem onlyTagsItems_iff : OnlyTagsItems images items items' ↔
    List.Forall₂ (OnlyTags images) items items' := by
  induction items generalizing items' with
  | nil => simp [OnlyTagsItems]
  | cons item items ih =>
      rw [OnlyTagsItems, List.forall₂_cons_left_iff]
      simp only [ih]
      constructor
      · rintro ⟨item', rest', rfl, hitem, hrest⟩
        exact ⟨item', rest', hitem, hrest, rfl⟩
      · rintro ⟨item', rest', hitem, hrest, rfl⟩
        exact ⟨item', rest', rfl, hitem, hrest⟩

theorem onlyTagsFields_iff : OnlyTagsFields images fields rest rest' ↔
    List.Forall₂ (fun field field' => field'.1 = field.1 ∧ (OnlyTags images field.2 field'.2 ∨
      field.1 = "tag" ∧ ∃ tag, TagOf images fields tag ∧ field'.2 = .str tag)) rest rest' := by
  induction rest generalizing rest' with
  | nil => simp [OnlyTagsFields]
  | cons field rest ih =>
      obtain ⟨key, value⟩ := field
      rw [OnlyTagsFields, List.forall₂_cons_left_iff]
      simp only [ih]
      constructor
      · rintro ⟨value', rest', rfl, hvalue, hrest⟩
        exact ⟨(key, value'), rest', ⟨rfl, hvalue⟩, hrest, rfl⟩
      · rintro ⟨⟨_, value'⟩, rest', ⟨rfl, hvalue⟩, hrest, rfl⟩
        exact ⟨value', rest', rfl, hvalue, hrest⟩

theorem tagOf_of_given {tag : String} (h : given images fields = some tag) :
    TagOf images fields tag := by
  rcases tagFor_cases images (textAt fields "registry") (textAt fields "repository") with
    ⟨name, other, hname, hfind, hother⟩ | ⟨-, hnone⟩
  · rw [← given, h] at hother
    cases hother
    exact ⟨name, hname, hfind⟩
  · rw [← given, h] at hnone
    cases hnone

theorem not_tagOf_of_given {tag : String} (h : given images fields = none) :
    ¬ TagOf images fields tag := by
  rintro ⟨name, hname, hfind⟩
  rcases tagFor_cases images (textAt fields "registry") (textAt fields "repository") with
    ⟨_, other, -, -, hother⟩ | ⟨hnone, -⟩
  · rw [← given, h] at hother
    cases hother
  · rw [hnone name hname] at hfind
    cases hfind

theorem line_feed_ne_image {name old name' old' : String} (hname : IsName name'.toList)
    (htag : chars.IsTag old'.toList) : name ++ ":" ++ old ++ "\n" ≠ name' ++ ":" ++ old' := by
  intro h
  have hmem : '\n' ∈ (name' ++ ":" ++ old').toList := by
    rw [← h, String.toList_append]
    simp
  rw [toList_image, List.mem_append, List.mem_cons] at hmem
  rcases hmem with hmem | hmem | hmem
  · exact hname.2 hmem
  · cases hmem
  · exact htag.no_lineFeed hmem

theorem onlyTags_str_iff :
    OnlyTags images (.str text) (.str (updateText images text)) ↔ KeepsLineFeed images text := by
  rw [OnlyTags]
  constructor
  · rintro (hsame | ⟨_, -, name, old, new, htag, hfind, rfl, -⟩) name' old' new' hout
    · rw [Json.str.injEq, hout.updateText] at hsame
      exact absurd (hsame ▸ hout) (not_outdated_image hout.found)
    · exact (line_feed_ne_image (ImageVersions.wellFormed_of_find hfind).1 htag).symm
  · intro hkeeps
    rcases updateText_cases images text with ⟨name, old, new, hout⟩ | hsame
    · exact .inr ⟨_, rfl, name, old, new, hout.isTag, hout.found,
        hout.ends.resolve_right (hkeeps name old new hout), hout.updateText⟩
    · exact .inl (by rw [hsame])

/-- The update changes nothing but tags exactly if no text it updates ends with a line feed. -/
theorem onlyTags_iff (h : updateNode images node = .ok result) : OnlyTags images node result ↔
    ∀ text, Reached images node (.str text) → KeepsLineFeed images text := by
  rw [Json.forall_within_eq]
  induction node using Json.induction generalizing result with
  | leaf node hitems hfields =>
      have hleaf : (∀ found, Reached images node found → ∀ text, found = .str text →
          KeepsLineFeed images text) ↔
            ∀ text, node = .str text → KeepsLineFeed images text := by
        refine ⟨fun h => h node (.here _), fun h found hfound => ?_⟩
        rw [hfound.eq_of_leaf hitems hfields]
        exact h
      rw [hleaf]
      cases node with
      | obj fields => exact absurd rfl (hfields fields)
      | arr items => exact absurd rfl (hitems items)
      | str text =>
          rw [updateNode_str_iff.mp h, onlyTags_str_iff]
          simp
      | _ =>
          cases h
          simp [OnlyTags]
  | arr items ih =>
      obtain ⟨items', hupdate, rfl⟩ := updateNode_arr_iff.mp h
      rw [Json.forall_within_arr, OnlyTags]
      constructor
      · rintro ⟨others, heq, honly⟩
        cases heq
        refine ⟨by simp, fun item hitem => ?_⟩
        obtain ⟨item', -, hstep, hsame⟩ :=
          (exists_of_forall₂ (hupdate.mp (fun _ _ => And.intro) (onlyTagsItems_iff.mp honly))).1
            item hitem
        exact (ih item hitem hstep).mp hsame
      · rintro ⟨-, hall⟩
        refine ⟨items', rfl, onlyTagsItems_iff.mpr ?_⟩
        refine ((List.forall₂_and_left items items').mpr ⟨fun item hitem => hitem, hupdate⟩).imp ?_
        rintro item item' ⟨hitem, hstep⟩
        exact (ih item hitem hstep).mpr (hall item hitem)
  | obj fields ih =>
      obtain ⟨-, fields', hupdate, rfl⟩ := updateNode_obj_iff.mp h
      rw [Json.forall_within_obj, OnlyTags]
      constructor
      · rintro ⟨others, heq, honly⟩
        cases heq
        refine ⟨by simp, fun field hfield henters => ?_⟩
        obtain ⟨field', -, ⟨-, hstep⟩, -, hsame⟩ :=
          (exists_of_forall₂ (hupdate.mp (fun _ _ => And.intro) (onlyTagsFields_iff.mp honly))).1
            field hfield
        rcases hstep with ⟨tag, hkey, hgiven, -⟩ | ⟨-, hstep⟩
        · rw [henters hkey] at hgiven
          cases hgiven
        · rcases hsame with hsame | ⟨hkey, tag, htag, -⟩
          · exact (ih field hfield hstep).mp hsame
          · exact absurd htag (not_tagOf_of_given (henters hkey))
      · rintro ⟨-, hall⟩
        refine ⟨fields', rfl, onlyTagsFields_iff.mpr ?_⟩
        refine ((List.forall₂_and_left fields fields').mpr
          ⟨fun field hfield => hfield, hupdate⟩).imp ?_
        rintro field field' ⟨hfield, hkey, hstep⟩
        refine ⟨hkey, ?_⟩
        rcases hstep with ⟨tag, htag, hgiven, hvalue⟩ | ⟨henters, hstep⟩
        · exact .inr ⟨htag, tag, tagOf_of_given hgiven, hvalue⟩
        · exact .inl ((ih field hfield hstep).mpr (hall field hfield henters))

end Frame

/-- The update returns values that differ in tags only exactly if all names can be looked up
and each text that it gives a new tag ends with the old one. -/
theorem updateNode_onlyTags_iff (images : ImageVersions chars) (values : Json) :
    (∃ result, updateNode images values = .ok result ∧ OnlyTags images values result) ↔
      (∀ fields, Reached images values (.obj fields) → Readable fields) ∧
        ∀ text, Reached images values (.str text) → KeepsLineFeed images text := by
  rw [← updateNode_ok_iff]
  constructor
  · rintro ⟨result, hresult, honly⟩
    exact ⟨⟨result, hresult⟩, (onlyTags_iff hresult).mp honly⟩
  · rintro ⟨⟨result, hresult⟩, hall⟩
    exact ⟨result, hresult, (onlyTags_iff hresult).mpr hall⟩

def appRelease : Json := .obj [("app", .str "team/app:2.0")]

def appImages : ImageVersions asciiWords where
  versions := [("team/app", "2.0")]
  wellFormed := by simp [IsName, WordChars.IsTag, WordChars.isTagChar, asciiWords]

def blockValues : Json := .obj [("image", .str "team/app:1.0\n")]

/-- The line feed at the end of a block of text goes with the old tag. -/
theorem line_feed_dropped : parseReleaseImagesYaml asciiWords appRelease = .ok appImages ∧
    updateNode appImages blockValues = .ok (.obj [("image", .str "team/app:2.0")]) ∧
    ¬ ∃ result, updateNode appImages blockValues = .ok result ∧
      OnlyTags appImages blockValues result := by
  refine ⟨rfl, rfl, ?_⟩
  rintro ⟨result, hresult, honly⟩
  have hreached : Reached appImages blockValues (.str "team/app:1.0\n") :=
    .field List.mem_cons_self (by decide) (.here _)
  refine (onlyTags_iff hresult).mp honly _ hreached "team/app" "1.0" "2.0" ?_ rfl
  exact ⟨rfl, by simp [WordChars.IsTag, WordChars.isTagChar, asciiWords], .inr rfl, by decide⟩

end QubershipAirflow.Images
