import Mathlib.Data.List.TakeWhile
import QubershipAirflow.Library.Json

/-! The images of a release and their tags. An image is written `name:tag`, where the name
may have a port and so a colon of its own; a tag has none. -/
namespace QubershipAirflow.Images

/-- `\w`: neither a colon nor a line feed is a character of a word. -/
structure WordChars where
  isWord : Char → Bool
  colon : isWord ':' = false
  lineFeed : isWord '\n' = false

def asciiWords : WordChars where
  isWord c := c.isAlphanum || c = '_'
  colon := by decide
  lineFeed := by decide

/-- `[\w.-]` -/
def WordChars.isTagChar (chars : WordChars) (c : Char) : Bool :=
  chars.isWord c || c = '.' || c = '-'

def WordChars.IsTag (chars : WordChars) (tag : List Char) : Prop :=
  tag ≠ [] ∧ ∀ c ∈ tag, chars.isTagChar c = true

/-- What `.+` can match. -/
def IsName (name : List Char) : Prop := name ≠ [] ∧ '\n' ∉ name

/-- The longest text before a colon that has a tag after it. -/
def matchLast (tagAfter : List Char → Option (List Char)) :
    List Char → Option (List Char × List Char)
  | [] => none
  | c :: rest =>
      if c = '\n' then none
      else match matchLast tagAfter rest with
        | some (name, tag) => some (c :: name, tag)
        | none => if c = ':' then (tagAfter rest).map fun tag => ([], tag) else none

/-- `(.+):`, and after it what `tagAfter` finds. -/
def matchImage (tagAfter : List Char → Option (List Char)) (text : String) :
    Option (String × String) :=
  match matchLast tagAfter text.toList with
  | some (name, tag) =>
      if name = [] then none else some (String.ofList name, String.ofList tag)
  | none => none

/-- `([\w.-]+)` -/
def WordChars.tagAhead (chars : WordChars) (text : List Char) : Option (List Char) :=
  if text.takeWhile chars.isTagChar = [] then none
  else some (text.takeWhile chars.isTagChar)

/-- `([\w.-]+)$`, where the end is also before a last line feed. -/
def WordChars.tagAtEnd (chars : WordChars) (text : List Char) : Option (List Char) :=
  if text.dropWhile chars.isTagChar = [] ∨ text.dropWhile chars.isTagChar = ['\n'] then
    chars.tagAhead text
  else none

section Matches

variable {chars : WordChars} {tagAfter : List Char → Option (List Char)}
  {text name tag rest : List Char}

theorem matchLast_some (h : matchLast tagAfter text = some (name, tag)) :
    ∃ rest, text = name ++ ':' :: rest ∧ '\n' ∉ name ∧ tagAfter rest = some tag := by
  induction text generalizing name with
  | nil => cases h
  | cons c text ih =>
      rw [matchLast] at h
      split at h
      · cases h
      · rename_i hline
        split at h
        · rename_i found _ hrest
          cases h
          obtain ⟨rest, rfl, hname, htag⟩ := ih hrest
          exact ⟨rest, rfl, by simp [hname, Ne.symm hline], htag⟩
        · split at h
          · rename_i hcolon
            obtain ⟨found, hfound, heq⟩ := Option.map_eq_some_iff.mp h
            cases heq
            exact ⟨text, by rw [hcolon]; rfl, by simp, hfound⟩
          · cases h

theorem matchLast_of_no_colon (h : ':' ∉ text) : matchLast tagAfter text = none := by
  cases hmatch : matchLast tagAfter text with
  | none => rfl
  | some found =>
      obtain ⟨rest, rfl, -⟩ := matchLast_some hmatch
      simp at h

theorem matchLast_append (hname : '\n' ∉ name) (hcolon : ':' ∉ rest)
    (htag : tagAfter rest = some tag) :
    matchLast tagAfter (name ++ ':' :: rest) = some (name, tag) := by
  induction name with
  | nil => simp [matchLast, matchLast_of_no_colon hcolon, htag]
  | cons c name ih =>
      rw [List.mem_cons, not_or] at hname
      rw [List.cons_append, matchLast, if_neg (Ne.symm hname.1), ih hname.2]

theorem WordChars.isTagChar_colon (chars : WordChars) : chars.isTagChar ':' = false := by
  simp [isTagChar, chars.colon]

theorem WordChars.isTagChar_lineFeed (chars : WordChars) : chars.isTagChar '\n' = false := by
  simp [isTagChar, chars.lineFeed]

theorem WordChars.IsTag.no_colon (h : chars.IsTag tag) : ':' ∉ tag := by
  intro hmem
  have htrue := h.2 _ hmem
  rw [chars.isTagChar_colon] at htrue
  cases htrue

theorem WordChars.IsTag.no_lineFeed (h : chars.IsTag tag) : '\n' ∉ tag := by
  intro hmem
  have htrue := h.2 _ hmem
  rw [chars.isTagChar_lineFeed] at htrue
  cases htrue

theorem WordChars.tagAhead_isTag (h : chars.tagAhead text = some tag) : chars.IsTag tag := by
  unfold tagAhead at h
  split at h
  · cases h
  · rename_i hne
    cases h
    exact ⟨hne, fun c hc => List.mem_takeWhile_imp hc⟩

theorem WordChars.tagAhead_append (htag : chars.IsTag tag)
    (hrest : ∀ c ∈ rest.head?, chars.isTagChar c = false) :
    chars.tagAhead (tag ++ rest) = some tag := by
  have htake : (tag ++ rest).takeWhile chars.isTagChar = tag := by
    rw [List.takeWhile_append_of_pos htag.2]
    cases rest with
    | nil => simp
    | cons c rest => simp [hrest c rfl]
  unfold tagAhead
  rw [htake, if_neg htag.1]

theorem WordChars.tagAhead_self (htag : chars.IsTag tag) : chars.tagAhead tag = some tag := by
  have hnil : ∀ c ∈ ([] : List Char).head?, chars.isTagChar c = false := by simp
  rw [← List.append_nil tag, tagAhead_append htag hnil, List.append_nil]

theorem WordChars.tagAtEnd_eq_some_iff : chars.tagAtEnd text = some tag ↔
    chars.IsTag tag ∧ (text = tag ∨ text = tag ++ ['\n']) := by
  constructor
  · intro h
    unfold tagAtEnd at h
    split at h
    · rename_i hend
      refine ⟨tagAhead_isTag h, ?_⟩
      have hsplit := List.takeWhile_append_dropWhile (p := chars.isTagChar) (l := text)
      unfold tagAhead at h
      split at h
      · cases h
      · cases h
        rcases hend with hend | hend
        · rw [hend, List.append_nil] at hsplit
          exact .inl hsplit.symm
        · rw [hend] at hsplit
          exact .inr hsplit.symm
    · cases h
  · have hdrop : ∀ rest : List Char, (∀ c ∈ tag, chars.isTagChar c = true) →
        (∀ c ∈ rest.head?, chars.isTagChar c = false) →
        (tag ++ rest).dropWhile chars.isTagChar = rest := by
      intro rest htag hrest
      rw [List.dropWhile_append_of_pos htag]
      cases rest with
      | nil => rfl
      | cons c rest => simp [hrest c rfl]
    rintro ⟨htag, rfl | rfl⟩
    · have hend := hdrop [] htag.2 (by simp)
      rw [List.append_nil] at hend
      rw [tagAtEnd, if_pos (.inl hend), tagAhead_self htag]
    · have hline : ∀ c ∈ ['\n'].head?, chars.isTagChar c = false := by
        simp [chars.isTagChar_lineFeed]
      rw [tagAtEnd, if_pos (.inr (hdrop ['\n'] htag.2 hline)), tagAhead_append htag hline]

theorem toList_image (name tag : String) :
    (name ++ ":" ++ tag).toList = name.toList ++ ':' :: tag.toList := by
  rw [String.toList_append, String.toList_append, List.append_assoc]
  rfl

/-- The whole text is `name:tag`, but for a line feed after it. -/
theorem matchImage_tagAtEnd_iff {text name tag : String} :
    matchImage chars.tagAtEnd text = some (name, tag) ↔
      IsName name.toList ∧ chars.IsTag tag.toList ∧
        (text = name ++ ":" ++ tag ∨ text = name ++ ":" ++ tag ++ "\n") := by
  constructor
  · intro h
    unfold matchImage at h
    split at h
    · rename_i found tagFound hmatch
      obtain ⟨rest, htext, hname, hrest⟩ := matchLast_some hmatch
      obtain ⟨htag, hend⟩ := WordChars.tagAtEnd_eq_some_iff.mp hrest
      split at h
      · cases h
      · rename_i hne
        cases h
        rw [String.toList_ofList, String.toList_ofList]
        refine ⟨⟨hne, hname⟩, htag, hend.imp ?_ ?_⟩
        · rintro rfl
          rw [← String.toList_inj, htext, toList_image, String.toList_ofList,
            String.toList_ofList]
        · rintro rfl
          rw [← String.toList_inj, htext, String.toList_append, toList_image,
            String.toList_ofList, String.toList_ofList, List.append_assoc]
          rfl
    · cases h
  · rintro ⟨hname, htag, htext⟩
    have hmatch : ∃ rest, text.toList = name.toList ++ ':' :: rest ∧ ':' ∉ rest ∧
        chars.tagAtEnd rest = some tag.toList := by
      rcases htext with rfl | rfl
      · exact ⟨tag.toList, toList_image name tag, htag.no_colon,
          WordChars.tagAtEnd_eq_some_iff.mpr ⟨htag, .inl rfl⟩⟩
      · refine ⟨tag.toList ++ ['\n'], ?_, by simp [htag.no_colon],
          WordChars.tagAtEnd_eq_some_iff.mpr ⟨htag, .inr rfl⟩⟩
        rw [String.toList_append, toList_image, List.append_assoc]
        rfl
    obtain ⟨rest, htoList, hcolon, hrest⟩ := hmatch
    unfold matchImage
    rw [htoList, matchLast_append hname.2 hcolon hrest]
    simp [hname.1, String.ofList_toList]

theorem matchImage_wellFormed {text name tag : String}
    (h : matchImage chars.tagAhead text = some (name, tag)) :
    IsName name.toList ∧ chars.IsTag tag.toList := by
  unfold matchImage at h
  split at h
  · rename_i found tagFound hmatch
    obtain ⟨rest, -, hname, htag⟩ := matchLast_some hmatch
    split at h
    · cases h
    · rename_i hne
      cases h
      rw [String.toList_ofList, String.toList_ofList]
      exact ⟨⟨hne, hname⟩, WordChars.tagAhead_isTag htag⟩
  · cases h

end Matches

structure ImageVersions (chars : WordChars) where
  versions : List (String × String)
  wellFormed : ∀ entry ∈ versions, IsName entry.1.toList ∧ chars.IsTag entry.2.toList

namespace ImageVersions

variable {chars : WordChars}

def find (images : ImageVersions chars) (name : String) : Option String :=
  images.versions.lookup name

/-- `image_versions[image_name] = tag` -/
def set (images : ImageVersions chars) (name tag : String) (hname : IsName name.toList)
    (htag : chars.IsTag tag.toList) : ImageVersions chars where
  versions := (name, tag) :: images.versions
  wellFormed := by
    intro entry hentry
    rcases List.mem_cons.mp hentry with rfl | hentry
    · exact ⟨hname, htag⟩
    · exact images.wellFormed entry hentry

def empty : ImageVersions chars := ⟨[], by simp⟩

theorem wellFormed_of_find {images : ImageVersions chars} {name tag : String}
    (h : images.find name = some tag) : IsName name.toList ∧ chars.IsTag tag.toList := by
  obtain ⟨before, after, hversions, -⟩ := List.lookup_eq_some_iff.mp h
  exact images.wellFormed (name, tag) (by simp [hversions])

end ImageVersions

section Parse

variable {chars : WordChars}

def readImage (images : ImageVersions chars) : Json → Except PyError (ImageVersions chars)
  | .str imageFull =>
      match h : matchImage chars.tagAhead imageFull with
      | some (name, tag) =>
          .ok (images.set name tag (matchImage_wellFormed h).1 (matchImage_wellFormed h).2)
      | none => .ok images
  | _ => .error .typeError

def parseReleaseImagesYaml (chars : WordChars) : Json → Except PyError (ImageVersions chars)
  | .obj data => data.foldlM (fun images item => readImage images item.2) .empty
  | _ => .error .attributeError

theorem readImage_image (images : ImageVersions chars) {name tag : String}
    (hname : IsName name.toList) (htag : chars.IsTag tag.toList) :
    readImage images (.str (name ++ ":" ++ tag)) = .ok (images.set name tag hname htag) := by
  have hmatch : matchImage chars.tagAhead (name ++ ":" ++ tag) = some (name, tag) := by
    unfold matchImage
    rw [toList_image, matchLast_append hname.2 htag.no_colon (WordChars.tagAhead_self htag)]
    simp [hname.1, String.ofList_toList]
  unfold readImage
  dsimp only
  split
  · rename_i hfound
    rw [hmatch] at hfound
    cases hfound
    rfl
  · rename_i hnone
    rw [hmatch] at hnone
    cases hnone

theorem exists_parsed (images : ImageVersions chars) :
    ∃ data, parseReleaseImagesYaml chars data = .ok images := by
  obtain ⟨versions, hversions⟩ := images
  refine ⟨.obj (versions.reverse.map fun entry =>
    (entry.1, .str (entry.1 ++ ":" ++ entry.2))), ?_⟩
  unfold parseReleaseImagesYaml
  dsimp only
  induction versions with
  | nil => rfl
  | cons entry versions ih =>
      have hentry := hversions entry List.mem_cons_self
      rw [List.reverse_cons, List.map_append, List.foldlM_append,
        ih fun entry hentry => hversions entry (List.mem_cons_of_mem _ hentry)]
      exact (bind_pure _).trans (readImage_image _ hentry.1 hentry.2)

def updateText (images : ImageVersions chars) (text : String) : String :=
  match matchImage chars.tagAtEnd text with
  | some (name, currentTag) =>
      match images.find name with
      | some newTag => if newTag ≠ currentTag then name ++ ":" ++ newTag else text
      | none => text
  | none => text

structure Outdated (images : ImageVersions chars) (text name old new : String) : Prop where
  found : images.find name = some new
  isTag : chars.IsTag old.toList
  ends : text = name ++ ":" ++ old ∨ text = name ++ ":" ++ old ++ "\n"
  differs : new ≠ old

def Becomes (images : ImageVersions chars) (text text' : String) : Prop :=
  (∃ name old new, Outdated images text name old new ∧ text' = name ++ ":" ++ new) ∨
    (∀ name old new, ¬ Outdated images text name old new) ∧ text' = text

variable {images : ImageVersions chars} {text text' name old new : String}

theorem Outdated.matchImage (h : Outdated images text name old new) :
    matchImage chars.tagAtEnd text = some (name, old) :=
  matchImage_tagAtEnd_iff.mpr ⟨(ImageVersions.wellFormed_of_find h.found).1, h.isTag, h.ends⟩

theorem Outdated.updateText (h : Outdated images text name old new) :
    updateText images text = name ++ ":" ++ new := by
  simp [Images.updateText, h.matchImage, h.found, h.differs]

theorem updateText_cases (images : ImageVersions chars) (text : String) :
    (∃ name old new, Outdated images text name old new) ∨ updateText images text = text := by
  unfold updateText
  split
  · rename_i name old hmatch
    obtain ⟨-, htag, hends⟩ := matchImage_tagAtEnd_iff.mp hmatch
    split
    · rename_i new hfind
      split
      · rename_i hne
        exact .inl ⟨name, old, new, hfind, htag, hends, hne⟩
      · exact .inr rfl
    · exact .inr rfl
  · exact .inr rfl

theorem becomes_iff : Becomes images text text' ↔ text' = updateText images text := by
  constructor
  · rintro (⟨name, old, new, h, rfl⟩ | ⟨hnone, rfl⟩)
    · exact h.updateText.symm
    · rcases updateText_cases images text' with ⟨name, old, new, h⟩ | h
      · exact absurd h (hnone name old new)
      · exact h.symm
  · rintro rfl
    by_cases hex : ∃ name old new, Outdated images text name old new
    · obtain ⟨name, old, new, h⟩ := hex
      exact .inl ⟨name, old, new, h, h.updateText⟩
    · push Not at hex
      exact .inr ⟨hex, (updateText_cases images text).resolve_left (by simpa using hex)⟩

theorem not_outdated_image {name' old' new' : String} (hfound : images.find name = some new) :
    ¬ Outdated images (name ++ ":" ++ new) name' old' new' := by
  intro h
  obtain ⟨hname, htag⟩ := ImageVersions.wellFormed_of_find hfound
  have hmatch := matchImage_tagAtEnd_iff.mpr ⟨hname, htag, .inl rfl⟩
  rw [h.matchImage] at hmatch
  cases hmatch
  rw [h.found] at hfound
  exact h.differs (Option.some.inj hfound)

theorem not_outdated_updateText : ¬ Outdated images (updateText images text) name old new := by
  intro h
  rcases updateText_cases images text with ⟨name', old', new', h'⟩ | hsame
  · rw [h'.updateText] at h
    exact not_outdated_image h'.found h
  · rw [hsame] at h
    rw [h.updateText] at hsame
    rw [← hsame] at h
    exact not_outdated_image h.found h

@[simp] theorem updateText_updateText :
    updateText images (updateText images text) = updateText images text := by
  rcases updateText_cases images (updateText images text) with ⟨name, old, new, h⟩ | h
  · exact absurd h not_outdated_updateText
  · exact h

theorem updateText_eq_tag_iff {tag : String} (htag : ':' ∉ tag.toList) :
    updateText images text = tag ↔ text = tag := by
  rcases updateText_cases images text with ⟨name, old, new, h⟩ | hsame
  · refine ⟨?_, ?_⟩
    · rintro rfl
      rw [h.updateText, toList_image] at htag
      simp at htag
    · rintro rfl
      rcases h.ends with rfl | rfl
      · rw [toList_image] at htag
        simp at htag
      · rw [String.toList_append, toList_image] at htag
        simp at htag
  · rw [hsame]

end Parse

end QubershipAirflow.Images
