import QubershipAirflow.Images.Completeness

/-! Whether a second update finds anything to do. Its names are the ones that the first has
left behind. -/
namespace QubershipAirflow.Images

open Json (Within)
open Lists (exists_of_forall₂)

variable {chars : WordChars} {images : ImageVersions chars}

def Settled (images : ImageVersions chars) : Json → Prop
  | .str text => updateText images text = text
  | .obj fields => Readable fields ∧ ∀ tag, given images fields = some tag →
      ∀ value, ("tag", value) ∈ fields → value = .str tag
  | _ => True

/-- By the names from after the update, the release has no other tag for a mapping. -/
def Steady (images : ImageVersions chars) (fields : List (String × Json)) : Prop :=
  ∀ registry repository tag, NamesAfter images fields registry repository →
    tagFor images registry repository = some tag → TagAfter images fields tag

section SecondUpdate

variable {fields fields' : List (String × Json)} {node values result : Json}

theorem updateNode_obj_self_iff : updateNode images (.obj fields) = .ok (.obj fields) ↔
    Settled images (.obj fields) ∧ ∀ field ∈ fields,
      (field.1 = "tag" → given images fields = none) →
      updateNode images field.2 = .ok field.2 := by
  rw [updateNode_obj_iff]
  constructor
  · rintro ⟨hreadable, others, hupdate, heq⟩
    cases heq
    rw [List.forall₂_same] at hupdate
    refine ⟨⟨hreadable, ?_⟩, ?_⟩
    · intro tag hgiven value hvalue
      obtain ⟨-, ⟨other, -, hother, heq⟩ | ⟨hnone, -⟩⟩ := hupdate _ hvalue
      · rw [hgiven] at hother
        cases hother
        exact heq
      · rw [hnone rfl] at hgiven
        cases hgiven
    · intro field hfield henters
      obtain ⟨-, ⟨tag, hkey, hgiven, -⟩ | ⟨-, hvalue⟩⟩ := hupdate field hfield
      · rw [henters hkey] at hgiven
        cases hgiven
      · exact hvalue
  · rintro ⟨⟨hreadable, htags⟩, hvalues⟩
    refine ⟨hreadable, fields, List.forall₂_same.mpr fun field hfield => ⟨rfl, ?_⟩, rfl⟩
    by_cases henters : field.1 = "tag" → given images fields = none
    · exact .inr ⟨henters, hvalues field hfield henters⟩
    · obtain ⟨hkey, hsome⟩ := Classical.not_imp.mp henters
      obtain ⟨tag, htag⟩ := Option.ne_none_iff_exists'.mp hsome
      refine .inl ⟨tag, hkey, htag, htags tag htag field.2 ?_⟩
      rw [← hkey]
      exact hfield

/-- An update changes nothing exactly if no node of the values has anything to update. -/
theorem updateNode_eq_self_iff : updateNode images node = .ok node ↔
    ∀ found, Contains node found → Settled images found := by
  induction node using Json.induction with
  | leaf node hitems hfields =>
      have hleaf : updateNode images node = .ok node ↔ Settled images node := by
        cases node with
        | obj fields => exact absurd rfl (hfields fields)
        | arr items => exact absurd rfl (hitems items)
        | str text => simp [updateNode, Settled]
        | _ => simp [updateNode, Settled]
      rw [hleaf]
      refine ⟨fun h found hfound => ?_, fun h => h node (.here _)⟩
      rw [hfound.eq_of_leaf hitems hfields]
      exact h
  | arr items ih =>
      rw [Json.forall_within_arr, updateNode_arr_iff]
      constructor
      · rintro ⟨others, hupdate, heq⟩
        cases heq
        rw [List.forall₂_same] at hupdate
        exact ⟨trivial, fun item hitem => (ih item hitem).mp (hupdate item hitem)⟩
      · rintro ⟨-, h⟩
        exact ⟨items, List.forall₂_same.mpr fun item hitem => (ih item hitem).mpr (h item hitem),
          rfl⟩
  | obj fields ih =>
      rw [Json.forall_within_obj, updateNode_obj_self_iff]
      constructor
      · rintro ⟨hsettled, hvalues⟩
        refine ⟨hsettled, fun field hfield _ => ?_⟩
        by_cases henters : field.1 = "tag" → given images fields = none
        · exact (ih field hfield).mp (hvalues field hfield henters)
        · obtain ⟨hkey, hsome⟩ := Classical.not_imp.mp henters
          obtain ⟨tag, htag⟩ := Option.ne_none_iff_exists'.mp hsome
          have hvalue := hsettled.2 tag htag field.2 (by rw [← hkey]; exact hfield)
          refine (ih field hfield).mp ?_
          rw [hvalue]
          exact (updateNode_eq_tag_iff (no_colon_of_tagFor htag)).mpr rfl
      · rintro ⟨hsettled, h⟩
        exact ⟨hsettled, fun field hfield _ => (ih field hfield).mpr (h field hfield trivial)⟩

theorem settled_updated_iff (h : updateNode images (.obj fields) = .ok (.obj fields')) :
    Settled images (.obj fields') ↔ Steady images fields := by
  obtain ⟨hreadable, -⟩ := updateNode_obj_iff.mp h
  constructor
  · rintro ⟨-, htags⟩ registry repository tag hnames htag
    obtain ⟨rfl, rfl⟩ := (namesAfter_iff h).mp hnames
    exact (tagAfter_iff h (no_colon_of_tagFor htag)).mpr (htags tag htag)
  · intro hsteady
    refine ⟨hreadable.updated h, fun tag htag => ?_⟩
    exact (tagAfter_iff h (no_colon_of_tagFor htag)).mp
      (hsteady _ _ tag ((namesAfter_iff h).mpr ⟨rfl, rfl⟩) htag)

theorem updated_again_iff (h : updateNode images values = .ok result) :
    updateNode images result = .ok result ↔
      ∀ fields, Reached images values (.obj fields) → Steady images fields := by
  rw [updateNode_eq_self_iff]
  constructor
  · intro hall fields hreached
    obtain ⟨found', hfound', hcontains⟩ := hreached.updated h
    obtain ⟨-, fields', -, rfl⟩ := updateNode_obj_iff.mp hfound'
    exact (settled_updated_iff hfound').mp (hall _ hcontains)
  · intro hall found' hcontains
    rcases exists_reached_of_contains h hcontains with ⟨found, hreached, hupdate⟩ |
      ⟨tag, htag, rfl⟩
    · cases found' with
      | obj fields' =>
          obtain ⟨fields, rfl⟩ := updateNode_eq_obj hupdate
          exact (settled_updated_iff hupdate).mpr (hall fields hreached)
      | str text =>
          obtain ⟨old, -, rfl⟩ := updateNode_eq_str hupdate
          exact updateText_updateText
      | _ => trivial
    · exact (updateText_eq_tag_iff htag).mpr rfl

end SecondUpdate

/-- A second update leaves the result of the first exactly if no mapping's names lead to
another tag once they were updated themselves. -/
theorem updateNode_idempotent_iff (images : ImageVersions chars) (values : Json) :
    (∃ result, updateNode images values = .ok result ∧ updateNode images result = .ok result) ↔
      ∀ fields, Reached images values (.obj fields) →
        Readable fields ∧ Steady images fields := by
  constructor
  · rintro ⟨result, hresult, hagain⟩ fields hreached
    exact ⟨updateNode_ok_iff.mp ⟨result, hresult⟩ fields hreached,
      (updated_again_iff hresult).mp hagain fields hreached⟩
  · intro h
    obtain ⟨result, hresult⟩ :=
      updateNode_ok_iff.mpr fun fields hreached => (h fields hreached).1
    exact ⟨result, hresult, (updated_again_iff hresult).mpr fun fields hreached =>
      (h fields hreached).2⟩

def portRelease : Json :=
  .obj [("registry", .str "localhost:5000"), ("app", .str "localhost:5000/app:1.0")]

def portImages : ImageVersions asciiWords where
  versions := [("localhost:5000/app", "1.0"), ("localhost", "5000")]
  wellFormed := by simp [IsName, WordChars.IsTag, WordChars.isTagChar, asciiWords]

def portMapping (registry tag : String) : Json :=
  .obj [("registry", .str registry), ("repository", .str "app"), ("tag", .str tag)]

/-- The first update changes the registry's port, and by it the second finds the image. -/
theorem port_updated_first : parseReleaseImagesYaml asciiWords portRelease = .ok portImages ∧
    updateNode portImages (portMapping "localhost:4000" "0.9") =
      .ok (portMapping "localhost:5000" "0.9") ∧
    updateNode portImages (portMapping "localhost:5000" "0.9") =
      .ok (portMapping "localhost:5000" "1.0") ∧
    portMapping "localhost:5000" "0.9" ≠ portMapping "localhost:5000" "1.0" :=
  ⟨rfl, rfl, rfl, by simp [portMapping]⟩

end QubershipAirflow.Images
