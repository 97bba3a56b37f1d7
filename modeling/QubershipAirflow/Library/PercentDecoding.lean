import Mathlib.Data.List.Basic

/-! Percent-decoding of text to octets. Decoding never lengthens, and it gives back the
octets of the text itself exactly when the text holds no escape. -/
namespace Uri

def octets (text : List Char) : List UInt8 := text.flatMap String.utf8EncodeChar

def hexValue (c : Char) : Option Nat :=
  if '0' ≤ c ∧ c ≤ '9' then some (c.toNat - '0'.toNat)
  else if 'a' ≤ c ∧ c ≤ 'f' then some (c.toNat - 'a'.toNat + 10)
  else if 'A' ≤ c ∧ c ≤ 'F' then some (c.toNat - 'A'.toNat + 10)
  else none

/-- The octet that a triplet `%HH` stands for. -/
def triplet (c high low : Char) : Option UInt8 :=
  if c = '%' then
    match hexValue high, hexValue low with
    | some h, some l => some (UInt8.ofNat (16 * h + l))
    | _, _ => none
  else none

def percentDecode : List Char → List UInt8
  | c :: high :: low :: rest =>
      match triplet c high low with
      | some octet => octet :: percentDecode rest
      | none => String.utf8EncodeChar c ++ percentDecode (high :: low :: rest)
  | c :: rest => String.utf8EncodeChar c ++ percentDecode rest
  | [] => []

def hasEscape : List Char → Bool
  | c :: high :: low :: rest => (triplet c high low).isSome || hasEscape (high :: low :: rest)
  | _ :: rest => hasEscape rest
  | [] => false

section Decoding

@[simp] theorem octets_nil : octets [] = [] := rfl

@[simp] theorem octets_cons (c : Char) (rest : List Char) :
    octets (c :: rest) = String.utf8EncodeChar c ++ octets rest := rfl

@[simp] theorem octets_append (first second : List Char) :
    octets (first ++ second) = octets first ++ octets second := by
  simp [octets]

theorem utf8EncodeChar_length_pos (c : Char) : 0 < (String.utf8EncodeChar c).length := by
  rw [String.length_utf8EncodeChar]
  exact Char.utf8Size_pos c

theorem length_octets_take_lt {first second : List Char} (h : second ≠ []) :
    (octets first).length < (octets (first ++ second)).length := by
  obtain ⟨c, rest, rfl⟩ := List.exists_cons_of_ne_nil h
  have hpos := utf8EncodeChar_length_pos c
  simp only [octets_append, octets_cons, List.length_append]
  omega

theorem length_percentDecode_le (text : List Char) :
    (percentDecode text).length ≤ (octets text).length := by
  fun_induction percentDecode text with
  | case1 c high low rest octet htriplet ih =>
    have hpos := utf8EncodeChar_length_pos c
    simp only [List.length_cons, octets_cons, List.length_append]
    omega
  | case2 c high low rest htriplet ih =>
    rw [octets_cons, List.length_append, List.length_append]
    omega
  | case3 c rest hshort ih =>
    rw [octets_cons, List.length_append, List.length_append]
    omega
  | case4 => simp

theorem percentDecode_of_not_hasEscape {text : List Char} (h : hasEscape text = false) :
    percentDecode text = octets text := by
  fun_induction percentDecode text with
  | case1 c high low rest octet htriplet ih => simp [hasEscape, htriplet] at h
  | case2 c high low rest htriplet ih =>
    rw [octets_cons, ih (by simpa [hasEscape, htriplet] using h)]
  | case3 c rest hshort ih =>
    have hrest : hasEscape rest = false := by
      rcases rest with _ | ⟨high, _ | ⟨low, rest⟩⟩
      · rfl
      · rfl
      · exact absurd rfl (hshort high low rest)
    rw [octets_cons, ih hrest]
  | case4 => rfl

theorem hasEscape_of_no_percent {text : List Char} (h : '%' ∉ text) : hasEscape text = false := by
  fun_induction hasEscape text with
  | case1 c high low rest ih =>
    rw [List.mem_cons, not_or] at h
    simp [triplet, Ne.symm h.1, ih h.2]
  | case2 c rest hshort ih => exact ih (List.not_mem_of_not_mem_cons h)
  | case3 => rfl

theorem length_percentDecode_lt {text : List Char} (h : hasEscape text = true) :
    (percentDecode text).length < (octets text).length := by
  fun_induction percentDecode text with
  | case1 c high low rest octet htriplet ih =>
    have hle := length_percentDecode_le rest
    have hpos := utf8EncodeChar_length_pos c
    have hhigh := utf8EncodeChar_length_pos high
    simp only [List.length_cons, octets_cons, List.length_append]
    omega
  | case2 c high low rest htriplet ih =>
    have hlt := ih (by simpa [hasEscape, htriplet] using h)
    rw [octets_cons, List.length_append, List.length_append]
    omega
  | case3 c rest hshort ih =>
    rcases rest with _ | ⟨high, _ | ⟨low, rest⟩⟩
    · simp [hasEscape] at h
    · simp [hasEscape] at h
    · exact absurd rfl (hshort high low rest)
  | case4 => simp [hasEscape] at h

theorem percentDecode_eq_octets_iff (text : List Char) :
    percentDecode text = octets text ↔ hasEscape text = false := by
  constructor
  · intro h
    by_contra hescape
    have hlt := length_percentDecode_lt (Bool.not_eq_false _ ▸ hescape)
    rw [h] at hlt
    omega
  · exact percentDecode_of_not_hasEscape

/-- Query strings of forms write a blank as `+`. -/
def plusToSpace (text : List Char) : List Char :=
  text.map fun c => if c = '+' then ' ' else c

theorem octets_plusToSpace_eq_iff (text : List Char) :
    octets (plusToSpace text) = octets text ↔ '+' ∉ text := by
  induction text with
  | nil => simp [plusToSpace]
  | cons c rest ih =>
    by_cases hplus : c = '+'
    · subst hplus
      have hblank : String.utf8EncodeChar ' ' = [32] := by decide
      have hhead : String.utf8EncodeChar '+' = [43] := by decide
      simp [plusToSpace, hblank, hhead]
    · have hrest : plusToSpace (c :: rest) = c :: plusToSpace rest := by
        simp [plusToSpace, hplus]
      simp [hrest, ih, Ne.symm hplus]

theorem length_octets_plusToSpace (text : List Char) :
    (octets (plusToSpace text)).length = (octets text).length := by
  induction text with
  | nil => rfl
  | cons c rest ih =>
    have hhead : (String.utf8EncodeChar (if c = '+' then ' ' else c)).length =
        (String.utf8EncodeChar c).length := by
      split
      · rename_i hplus
        subst hplus
        rfl
      · rfl
    simp only [plusToSpace, List.map_cons, octets_cons, List.length_append] at ih ⊢
    omega

theorem hexValue_plusToSpace (c : Char) :
    hexValue (if c = '+' then ' ' else c) = hexValue c := by
  split_ifs with hplus
  · subst hplus
    decide
  · rfl

theorem triplet_plusToSpace (c high low : Char) :
    triplet (if c = '+' then ' ' else c) (if high = '+' then ' ' else high)
      (if low = '+' then ' ' else low) = triplet c high low := by
  unfold triplet
  rw [hexValue_plusToSpace, hexValue_plusToSpace]
  by_cases hplus : c = '+'
  · subst hplus
    simp
  · rw [if_neg hplus]

theorem hasEscape_plusToSpace (text : List Char) :
    hasEscape (plusToSpace text) = hasEscape text := by
  fun_induction hasEscape text with
  | case1 c high low rest ih =>
    simp only [plusToSpace, List.map_cons, hasEscape] at ih ⊢
    rw [triplet_plusToSpace, ih]
  | case2 c rest hshort ih =>
    rcases rest with _ | ⟨high, _ | ⟨low, rest⟩⟩
    · rfl
    · rfl
    · exact absurd rfl (hshort high low rest)
  | case3 => rfl

theorem percentDecode_plusToSpace_eq_octets_iff (text : List Char) :
    percentDecode (plusToSpace text) = octets text ↔ hasEscape text = false ∧ '+' ∉ text := by
  rw [← hasEscape_plusToSpace, ← octets_plusToSpace_eq_iff]
  constructor
  · intro h
    have hescape : hasEscape (plusToSpace text) = false := by
      by_contra hescape
      have hlt := length_percentDecode_lt (Bool.not_eq_false _ ▸ hescape)
      rw [h, length_octets_plusToSpace] at hlt
      omega
    exact ⟨hescape, (percentDecode_of_not_hasEscape hescape).symm.trans h⟩
  · rintro ⟨hescape, hplus⟩
    exact (percentDecode_of_not_hasEscape hescape).trans hplus

end Decoding

end Uri
