import QubershipAirflow.Images.ReleaseImages

/-! What each entry of a release brings to the table of tags. The pattern looks for the
last colon with a tag character after it, wherever the text goes on from there. -/
namespace QubershipAirflow.Images

/-- The groups of the match, for an entry that the loop does not pass over. -/
def contribution (chars : WordChars) (imageFull : String) : Option (String × String) :=
  matchImage chars.tagAhead imageFull

def afterLastSlash (text : List Char) : List Char :=
  (text.reverse.takeWhile (· ≠ '/')).reverse

/-- No tag stands at the end of the path; a registry may still have a port. -/
def Untagged (text : String) : Prop := ':' ∉ afterLastSlash text.toList

/-- A colon with something of a name before it and a tag character after it. -/
def WordChars.ColonAhead (chars : WordChars) (text : List Char) : Prop :=
  ∃ name c rest, text = name ++ ':' :: c :: rest ∧ IsName name ∧ chars.isTagChar c = true

section Entries

variable {chars : WordChars} {tagAfter : List Char → Option (List Char)}
  {text name rest tag : List Char}

theorem WordChars.tagAhead_eq_some_iff_head :
    (∃ tag, chars.tagAhead text = some tag) ↔
      ∃ c rest, text = c :: rest ∧ chars.isTagChar c = true := by
  unfold tagAhead
  cases text with
  | nil => simp
  | cons c rest =>
    cases hc : chars.isTagChar c with
    | true => simp [hc]
    | false => simp [hc]

theorem matchLast_longest (hname : '\n' ∉ name) (htag : tagAfter rest = some tag) :
    ∃ found, matchLast tagAfter (name ++ ':' :: rest) = some found ∧
      name.length ≤ found.1.length := by
  induction name with
  | nil =>
    cases hlater : matchLast tagAfter rest with
    | none => exact ⟨([], tag), by simp [matchLast, hlater, htag], Nat.le_refl _⟩
    | some later => exact ⟨(':' :: later.1, later.2), by simp [matchLast, hlater], Nat.zero_le _⟩
  | cons c name ih =>
    rw [List.mem_cons, not_or] at hname
    obtain ⟨found, hfound, hlength⟩ := ih hname.2
    refine ⟨(c :: found.1, found.2), ?_, Nat.succ_le_succ hlength⟩
    rw [List.cons_append, matchLast, if_neg (Ne.symm hname.1), hfound]

theorem colonAhead_of_contribution {text : String} {found : String × String}
    (h : contribution chars text = some found) : chars.ColonAhead text.toList := by
  unfold contribution matchImage at h
  split at h
  · rename_i name tag hmatch
    obtain ⟨rest, htext, hline, htag⟩ := matchLast_some hmatch
    obtain ⟨c, rest, rfl, hc⟩ := WordChars.tagAhead_eq_some_iff_head.1 ⟨tag, htag⟩
    split at h
    · cases h
    · rename_i hne
      exact ⟨name, c, rest, htext, ⟨hne, hline⟩, hc⟩
  · cases h

/-- An entry contributes exactly if such a colon is anywhere in it. -/
theorem contribution_eq_none_iff {text : String} :
    contribution chars text = none ↔ ¬ chars.ColonAhead text.toList := by
  constructor
  · rintro hnone ⟨name, c, rest, htext, hname, hc⟩
    obtain ⟨tag, htag⟩ := WordChars.tagAhead_eq_some_iff_head.2 ⟨c, rest, rfl, hc⟩
    obtain ⟨found, hfound, hlength⟩ := matchLast_longest hname.2 htag
    have hne : found.1 ≠ [] := by
      rintro hnil
      rw [hnil, List.length_nil, Nat.le_zero, List.length_eq_zero_iff] at hlength
      exact hname.1 hlength
    rw [contribution, matchImage, htext, hfound] at hnone
    simp only [if_neg hne] at hnone
    cases hnone
  · intro hcolon
    cases hmatch : contribution chars text with
    | none => rfl
    | some found => exact absurd (colonAhead_of_contribution hmatch) hcolon

theorem contribution_image {name tag : String} (hname : IsName name.toList)
    (htag : chars.IsTag tag.toList) :
    contribution chars (name ++ ":" ++ tag) = some (name, tag) := by
  unfold contribution matchImage
  rw [toList_image, matchLast_append hname.2 htag.no_colon (WordChars.tagAhead_self htag)]
  simp [hname.1, String.ofList_toList]

end Entries

section Release

variable {chars : WordChars}

/-- The table is what the entries contribute, the last one first. -/
theorem foldlM_readImage (texts : List (String × String)) (images : ImageVersions chars) :
    ∃ images', (texts.map fun entry => (entry.1, Json.str entry.2)).foldlM
        (fun images item => readImage images item.2) images = .ok images' ∧
      images'.versions =
        (texts.reverse.filterMap fun entry => contribution chars entry.2) ++
          images.versions := by
  induction texts generalizing images with
  | nil => exact ⟨images, rfl, rfl⟩
  | cons entry texts ih =>
    obtain ⟨next, hread, hnext⟩ : ∃ next, readImage images (.str entry.2) = .ok next ∧
        next.versions = (contribution chars entry.2).toList ++ images.versions := by
      unfold readImage
      dsimp only
      split
      · rename_i name tag hfound
        have hcontribution : contribution chars entry.2 = some (name, tag) := hfound
        exact ⟨_, rfl, by rw [hcontribution]; rfl⟩
      · rename_i hnone
        have hcontribution : contribution chars entry.2 = none := hnone
        exact ⟨_, rfl, by rw [hcontribution]; rfl⟩
    obtain ⟨last, hrun, hlast⟩ := ih next
    refine ⟨last, ?_, ?_⟩
    · rw [List.map_cons, List.foldlM_cons, hread]
      exact hrun
    · rw [hlast, hnext, List.reverse_cons, List.filterMap_append, List.append_assoc]
      cases hcontribution : contribution chars entry.2 <;> simp [hcontribution]

/-- What the entries are to contribute: an image its tag, an untagged name nothing. -/
def ContributesRightly (chars : WordChars) (text : String) : Prop :=
  (∀ name tag : String, IsName name.toList → chars.IsTag tag.toList →
      text = name ++ ":" ++ tag → contribution chars text = some (name, tag)) ∧
    (Untagged text → contribution chars text = none)

theorem contributesRightly_iff {text : String} :
    ContributesRightly chars text ↔ (Untagged text → ¬ chars.ColonAhead text.toList) := by
  rw [ContributesRightly, contribution_eq_none_iff, and_iff_right]
  rintro name tag hname htag rfl
  exact contribution_image hname htag

/-- The table has the last contribution to each name, and the contributions are right
exactly when no untagged entry has a colon that a tag character follows. -/
theorem parseReleaseImagesYaml_iff (chars : WordChars) (texts : List (String × String)) :
    ∃ images, parseReleaseImagesYaml chars
        (.obj (texts.map fun entry => (entry.1, .str entry.2))) = .ok images ∧
      (∀ name, images.find name =
        (texts.reverse.filterMap fun entry => contribution chars entry.2).lookup name) ∧
      ((∀ entry ∈ texts, ContributesRightly chars entry.2) ↔
        ∀ entry ∈ texts, Untagged entry.2 → ¬ chars.ColonAhead entry.2.toList) := by
  obtain ⟨images, hrun, hversions⟩ := foldlM_readImage texts (.empty : ImageVersions chars)
  refine ⟨images, hrun, fun name => ?_, ?_⟩
  · rw [ImageVersions.find, hversions]
    exact congrArg (List.lookup name) (List.append_nil _)
  · exact forall₂_congr fun entry _ => contributesRightly_iff

/-- A registry with a port and no tag is read as an image of that tag, so that a release
without tags brings some. -/
theorem parseReleaseImagesYaml_port :
    ¬ ∀ (texts : List (String × String)) (images : ImageVersions asciiWords),
      parseReleaseImagesYaml asciiWords
        (.obj (texts.map fun entry => (entry.1, .str entry.2))) = .ok images →
      (∀ entry ∈ texts, Untagged entry.2) → ∀ name, images.find name = none := by
  intro hempty
  obtain ⟨images, hrun, hversions⟩ :=
    foldlM_readImage [("app", "localhost:5000/app")] (.empty : ImageVersions asciiWords)
  have hport : contribution asciiWords "localhost:5000/app" = some ("localhost", "5000") := by
    decide +kernel
  have huntagged : Untagged "localhost:5000/app" := by
    rw [Untagged, afterLastSlash]
    decide +kernel
  have hall : ∀ entry ∈ [("app", "localhost:5000/app")], Untagged entry.2 := by
    simpa using huntagged
  have hnone := hempty [("app", "localhost:5000/app")] images hrun hall "localhost"
  have hfound : images.versions = [("localhost", "5000")] := by
    rw [hversions]
    simp [hport, ImageVersions.empty]
  rw [ImageVersions.find, hfound] at hnone
  simp at hnone

end Release

end QubershipAirflow.Images
