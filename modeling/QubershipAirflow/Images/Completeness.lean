import QubershipAirflow.Images.TagSync

/-! Whether each image of the values has the tag of the release afterwards. The update looks
an image up by the names from before it, and a text in a name may have changed since. -/
namespace QubershipAirflow.Images

open Json (Within)
open Lists (exists_of_forall₂)

variable {chars : WordChars} {images : ImageVersions chars}

section Mappings

variable {fields fields' : List (String × Json)} {node value value' : Json} {key text tag : String}

theorem updateNode_eq_obj (h : updateNode images node = .ok (.obj fields')) :
    ∃ fields, node = .obj fields := by
  cases node with
  | obj fields => exact ⟨fields, rfl⟩
  | arr items =>
      obtain ⟨_, -, h⟩ := updateNode_arr_iff.mp h
      cases h
  | _ => cases h

theorem updateNode_eq_str (h : updateNode images node = .ok (.str text)) :
    ∃ old, node = .str old ∧ text = updateText images old := by
  cases node with
  | str old =>
      cases h
      exact ⟨old, rfl, rfl⟩
  | arr items =>
      obtain ⟨_, -, h⟩ := updateNode_arr_iff.mp h
      cases h
  | obj fields =>
      obtain ⟨-, _, -, h⟩ := updateNode_obj_iff.mp h
      cases h
  | _ => cases h

theorem lookup_updated (h : updateNode images (.obj fields) = .ok (.obj fields'))
    (hkey : key ≠ "tag") : fields.lookup key = none ∧ fields'.lookup key = none ∨
      ∃ value value', fields.lookup key = some value ∧ fields'.lookup key = some value' ∧
        updateNode images value = .ok value' := by
  obtain ⟨-, others, hupdate, heq⟩ := updateNode_obj_iff.mp h
  cases heq
  rcases Json.lookup_forall₂ (fun _ _ hfield => hfield.1) hupdate key with hnone |
    ⟨value, value', hvalue, hvalue', -, ⟨tag, htag, -⟩ | ⟨-, hstep⟩⟩
  · exact .inl hnone
  · exact absurd htag hkey
  · exact .inr ⟨value, value', hvalue, hvalue', hstep⟩

theorem textAt_updated (h : updateNode images (.obj fields) = .ok (.obj fields'))
    (hkey : key ≠ "tag") : textAt fields' key = (textAt fields key).map (updateText images) := by
  unfold textAt
  rcases lookup_updated h hkey with ⟨hnone, hnone'⟩ | ⟨value, value', hvalue, hvalue', hstep⟩
  · rw [hnone, hnone']
    rfl
  · rw [hvalue, hvalue']
    cases value with
    | str old =>
        cases hstep
        rfl
    | arr items =>
        obtain ⟨_, -, rfl⟩ := updateNode_arr_iff.mp hstep
        rfl
    | obj fields =>
        obtain ⟨-, _, -, rfl⟩ := updateNode_obj_iff.mp hstep
        rfl
    | _ =>
        cases hstep
        rfl

def NamesAfter (images : ImageVersions chars) (fields : List (String × Json))
    (registry repository : Option String) : Prop :=
  Option.Rel (Becomes images) (textAt fields "registry") registry ∧
    Option.Rel (Becomes images) (textAt fields "repository") repository

theorem becomes_option_iff {first second : Option String} :
    Option.Rel (Becomes images) first second ↔ second = first.map (updateText images) := by
  cases first <;> cases second <;> simp [becomes_iff]

theorem namesAfter_iff (h : updateNode images (.obj fields) = .ok (.obj fields'))
    {registry repository : Option String} : NamesAfter images fields registry repository ↔
      registry = textAt fields' "registry" ∧ repository = textAt fields' "repository" := by
  rw [NamesAfter, becomes_option_iff, becomes_option_iff, textAt_updated h (by decide),
    textAt_updated h (by decide)]

/-- The tag that a mapping has after the update: the release's, by the names from before it,
or its own. -/
def TagAfter (images : ImageVersions chars) (fields : List (String × Json)) (tag : String) :
    Prop :=
  ∀ value, ("tag", value) ∈ fields →
    given images fields = some tag ∨ given images fields = none ∧ value = .str tag

theorem updateNode_eq_tag_iff (htag : ':' ∉ tag.toList) :
    updateNode images node = .ok (.str tag) ↔ node = .str tag := by
  constructor
  · intro h
    obtain ⟨old, rfl, hold⟩ := updateNode_eq_str h
    rw [(updateText_eq_tag_iff htag).mp hold.symm]
  · rintro rfl
    rw [updateNode, (updateText_eq_tag_iff htag).mpr rfl]

theorem tagAfter_iff (h : updateNode images (.obj fields) = .ok (.obj fields'))
    (htag : ':' ∉ tag.toList) :
    TagAfter images fields tag ↔ ∀ value, ("tag", value) ∈ fields' → value = .str tag := by
  obtain ⟨-, others, hupdate, heq⟩ := updateNode_obj_iff.mp h
  cases heq
  constructor
  · intro hafter value' hvalue'
    obtain ⟨⟨key, value⟩, hvalue, hkey, hstep⟩ := (exists_of_forall₂ hupdate).2 _ hvalue'
    dsimp only at hkey hstep
    subst hkey
    rcases hafter value hvalue with hgiven | ⟨hgiven, rfl⟩
    · rcases hstep with ⟨other, -, hother, hvalue'⟩ | ⟨hnone, -⟩
      · rw [hgiven] at hother
        cases hother
        exact hvalue'
      · rw [hnone rfl] at hgiven
        cases hgiven
    · rcases hstep with ⟨other, -, hother, -⟩ | ⟨-, hstep⟩
      · rw [hgiven] at hother
        cases hother
      · rw [(updateNode_eq_tag_iff htag).mpr rfl] at hstep
        cases hstep
        rfl
  · intro hall value hvalue
    obtain ⟨⟨key', value'⟩, hvalue', hkey, hstep⟩ := (exists_of_forall₂ hupdate).1 _ hvalue
    dsimp only at hkey hstep
    subst hkey
    have hsame := hall value' hvalue'
    subst hsame
    rcases hstep with ⟨other, -, hother, heq⟩ | ⟨hnone, hstep⟩
    · cases heq
      exact .inl hother
    · exact .inr ⟨hnone rfl, (updateNode_eq_tag_iff htag).mp hstep⟩

end Mappings

def imageName : Option String → Option String → Option String
  | some registry, some repository => some (joinImage registry repository)
  | none, some repository => some repository
  | _, none => none

structure HasImageTag (images : ImageVersions chars) (fields : List (String × Json)) : Prop where
  fullName : ∀ registry repository tag, textAt fields "registry" = some registry →
    textAt fields "repository" = some repository →
    images.find (joinImage registry repository) = some tag →
    ∀ value, ("tag", value) ∈ fields → value = .str tag
  repository : ∀ repository tag, fields.lookup "registry" = none →
    textAt fields "repository" = some repository → images.find repository = some tag →
    ∀ value, ("tag", value) ∈ fields → value = .str tag

structure Complete (images : ImageVersions chars) (values : Json) : Prop where
  mappings : ∀ fields, Contains values (.obj fields) → HasImageTag images fields
  texts : ∀ name old tag, Contains values (.str (name ++ ":" ++ old)) →
    chars.IsTag old.toList → images.find name = some tag → old = tag

/-- The tag that a mapping gets is the one of its image, by the names from after the update. -/
def NameDecides (images : ImageVersions chars) (fields : List (String × Json)) : Prop :=
  ∀ registry repository name tag, NamesAfter images fields registry repository →
    imageName registry repository = some name → images.find name = some tag →
    TagAfter images fields tag

section Completeness

variable {fields fields' : List (String × Json)} {values result value value' : Json}

theorem hashable_updated (h : updateNode images value = .ok value') (hvalue : Hashable value) :
    Hashable value' := by
  cases value with
  | arr items => exact absurd hvalue id
  | obj fields => exact absurd hvalue id
  | _ =>
      cases h
      trivial

theorem Readable.updated (hreadable : Readable fields)
    (h : updateNode images (.obj fields) = .ok (.obj fields')) : Readable fields' := by
  have htag : ∀ tag', fields'.lookup "tag" = some tag' → ∃ tag, fields.lookup "tag" = some tag := by
    intro tag' htag'
    obtain ⟨-, others, hupdate, heq⟩ := updateNode_obj_iff.mp h
    cases heq
    rcases Json.lookup_forall₂ (fun _ _ hfield => hfield.1) hupdate "tag" with ⟨-, hnone⟩ |
      ⟨tag, _, htag, -⟩
    · rw [htag'] at hnone
      cases hnone
    · exact ⟨tag, htag⟩
  have hname : ∀ key name', key ≠ "tag" → fields'.lookup key = some name' →
      ∃ name, fields.lookup key = some name ∧ updateNode images name = .ok name' := by
    intro key name' hkey hname'
    rcases lookup_updated h hkey with ⟨-, hnone⟩ | ⟨name, other, hname, hother, hstep⟩
    · rw [hname'] at hnone
      cases hnone
    · rw [hname'] at hother
      cases hother
      exact ⟨name, hname, hstep⟩
  constructor
  · intro tag' registry' repository' htag' hregistry' hrepository'
    obtain ⟨tag, htag⟩ := htag tag' htag'
    obtain ⟨registry, hregistry, hstep⟩ := hname "registry" registry' (by decide) hregistry'
    obtain ⟨repository, hrepository, hstep'⟩ :=
      hname "repository" repository' (by decide) hrepository'
    obtain ⟨⟨text, rfl⟩, text', rfl⟩ :=
      hreadable.both tag registry repository htag hregistry hrepository
    exact ⟨⟨_, updateNode_str_iff.mp hstep⟩, _, updateNode_str_iff.mp hstep'⟩
  · intro tag' registry' htag' hregistry'
    obtain ⟨tag, htag⟩ := htag tag' htag'
    obtain ⟨registry, hregistry, hstep⟩ := hname "registry" registry' (by decide) hregistry'
    exact hashable_updated hstep (hreadable.registry tag registry htag hregistry)
  · intro tag' repository' htag' hrepository'
    obtain ⟨tag, htag⟩ := htag tag' htag'
    obtain ⟨repository, hrepository, hstep⟩ :=
      hname "repository" repository' (by decide) hrepository'
    exact hashable_updated hstep (hreadable.repository tag repository htag hrepository)

theorem textAt_eq_some_iff {key text : String} :
    textAt fields key = some text ↔ fields.lookup key = some (.str text) := by
  unfold textAt
  split
  · rename_i hlookup
    rw [hlookup]
    simp
  · rename_i hother
    exact iff_of_false (by simp) (hother text)

theorem textAt_of_lookup {key : String} (h : fields.lookup key = none) :
    textAt fields key = none := by
  unfold textAt
  rw [h]

theorem hasImageTag_iff (hreadable : Readable fields) : HasImageTag images fields ↔
    ∀ name tag, imageName (textAt fields "registry") (textAt fields "repository") = some name →
      images.find name = some tag → ∀ value, ("tag", value) ∈ fields → value = .str tag := by
  constructor
  · intro h name tag hname hfind value hvalue
    cases hregistry : textAt fields "registry" with
    | some registry =>
        cases hrepository : textAt fields "repository" with
        | none =>
            rw [hregistry, hrepository] at hname
            cases hname
        | some repository =>
            rw [hregistry, hrepository] at hname
            cases hname
            exact h.fullName registry repository tag hregistry hrepository hfind value hvalue
    | none =>
        cases hrepository : textAt fields "repository" with
        | none =>
            rw [hregistry, hrepository] at hname
            cases hname
        | some repository =>
            rw [hregistry, hrepository] at hname
            cases hname
            refine h.repository _ tag ?_ hrepository hfind value hvalue
            have htag := (Json.lookup_isSome_iff fields "tag").mpr
              (List.mem_map_of_mem (f := Prod.fst) hvalue)
            obtain ⟨old, hold⟩ := Option.isSome_iff_exists.mp htag
            cases hlookup : fields.lookup "registry" with
            | none => rfl
            | some registry =>
                obtain ⟨⟨text, rfl⟩, -⟩ := hreadable.both old registry _ hold hlookup
                  (textAt_eq_some_iff.mp hrepository)
                rw [textAt_eq_some_iff.mpr hlookup] at hregistry
                cases hregistry
  · intro h
    constructor
    · intro registry repository tag hregistry hrepository hfind
      exact h _ tag (by rw [hregistry, hrepository]; rfl) hfind
    · intro repository tag hregistry hrepository hfind
      exact h _ tag (by rw [textAt_of_lookup hregistry, hrepository]; rfl) hfind

theorem nameDecides_iff (h : updateNode images (.obj fields) = .ok (.obj fields')) :
    NameDecides images fields ↔ HasImageTag images fields' := by
  obtain ⟨hreadable, -⟩ := updateNode_obj_iff.mp h
  rw [hasImageTag_iff (hreadable.updated h)]
  constructor
  · intro hdecides name tag hname hfind
    have hcolon := (ImageVersions.wellFormed_of_find hfind).2.no_colon
    exact (tagAfter_iff h hcolon).mp
      (hdecides _ _ name tag ((namesAfter_iff h).mpr ⟨rfl, rfl⟩) hname hfind)
  · intro hall registry repository name tag hnames hname hfind
    obtain ⟨rfl, rfl⟩ := (namesAfter_iff h).mp hnames
    have hcolon := (ImageVersions.wellFormed_of_find hfind).2.no_colon
    exact (tagAfter_iff h hcolon).mpr (hall name tag hname hfind)

theorem complete_iff (h : updateNode images values = .ok result) : Complete images result ↔
    ∀ fields, Reached images values (.obj fields) → NameDecides images fields := by
  constructor
  · intro hcomplete fields hreached
    obtain ⟨found', hfound', hcontains⟩ := hreached.updated h
    obtain ⟨-, fields', -, rfl⟩ := updateNode_obj_iff.mp hfound'
    exact (nameDecides_iff hfound').mpr (hcomplete.mappings fields' hcontains)
  · intro hall
    constructor
    · intro fields' hcontains
      rcases exists_reached_of_contains h hcontains with ⟨found, hreached, hupdate⟩ | ⟨_, -, heq⟩
      · obtain ⟨fields, rfl⟩ := updateNode_eq_obj hupdate
        exact (nameDecides_iff hupdate).mp (hall fields hreached)
      · cases heq
    · intro name old tag hcontains htag hfind
      rcases exists_reached_of_contains h hcontains with ⟨found, hreached, hupdate⟩ |
        ⟨other, hcolon, heq⟩
      · obtain ⟨text, rfl, heq⟩ := updateNode_eq_str hupdate
        by_contra hne
        have hout : Outdated images (name ++ ":" ++ old) name old tag :=
          ⟨hfind, htag, .inl rfl, Ne.symm hne⟩
        rw [heq] at hout
        exact not_outdated_updateText hout
      · cases heq
        rw [toList_image] at hcolon
        simp at hcolon

end Completeness

/-- The update returns values whose images all have the release's tags exactly if all names
can be looked up and each mapping's tag comes from its own image. -/
theorem updateNode_complete_iff (images : ImageVersions chars) (values : Json) :
    (∃ result, updateNode images values = .ok result ∧ Complete images result) ↔
      ∀ fields, Reached images values (.obj fields) →
        Readable fields ∧ NameDecides images fields := by
  constructor
  · rintro ⟨result, hresult, hcomplete⟩ fields hreached
    exact ⟨updateNode_ok_iff.mp ⟨result, hresult⟩ fields hreached,
      (complete_iff hresult).mp hcomplete fields hreached⟩
  · intro h
    obtain ⟨result, hresult⟩ :=
      updateNode_ok_iff.mpr fun fields hreached => (h fields hreached).1
    exact ⟨result, hresult, (complete_iff hresult).mpr fun fields hreached =>
      (h fields hreached).2⟩

def teamRelease : Json :=
  .obj [("first", .str "registry.io/team/app:2.0"), ("second", .str "team/app:1.0")]

def teamImages : ImageVersions asciiWords where
  versions := [("team/app", "1.0"), ("registry.io/team/app", "2.0")]
  wellFormed := by simp [IsName, WordChars.IsTag, WordChars.isTagChar, asciiWords]

def teamMapping (tag : String) : List (String × Json) :=
  [("registry", .str "registry.io"), ("repository", .str "team/app"), ("tag", .str tag)]

/-- The repository's tag overrides the one that the full name was given. -/
theorem full_name_overridden : parseReleaseImagesYaml asciiWords teamRelease = .ok teamImages ∧
    ¬ ∃ result, updateNode teamImages (.obj [("image", .obj (teamMapping "0.9"))]) = .ok result ∧
      Complete teamImages result := by
  refine ⟨rfl, ?_⟩
  rintro ⟨result, hresult, hcomplete⟩
  have hvalues : updateNode teamImages (.obj [("image", .obj (teamMapping "0.9"))]) =
      .ok (.obj [("image", .obj (teamMapping "1.0"))]) := rfl
  rw [hvalues] at hresult
  cases hresult
  have htag := (hcomplete.mappings (teamMapping "1.0")
    (.field List.mem_cons_self trivial (.here _))).fullName "registry.io" "team/app" "2.0"
    rfl rfl rfl (.str "1.0") (by simp [teamMapping])
  simp at htag

end QubershipAirflow.Images
