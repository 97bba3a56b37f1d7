import QubershipAirflow.Library.Json

/-! The functions of Helm's templates on texts and on dicts. A value is empty as Go's
templates see it; a dict is a list of fields whose first entry for a key counts. -/
namespace Helm

abbrev Fields := List (String × Json)

/-- The condition of an `if`. -/
def truthy : Json → Bool
  | .null => false
  | .bool value => value
  | .int value => value ≠ 0
  | .float value => value ≠ 0
  | .str value => value ≠ ""
  | .arr items => !items.isEmpty
  | .obj fields => !fields.isEmpty

/-- `value | default given` -/
def default (given value : Json) : Json := if truthy value then value else given

def defaultText (given value : String) : String := if value = "" then given else value

/-- `$fields.key`, which is `nil` for a missing key. -/
def field (fields : Fields) (key : String) : Json := (fields.lookup key).getD .null

def omitKeys (fields : Fields) (keys : List String) : Fields :=
  fields.filter fun entry => entry.1 ∉ keys

def setKey (fields : Fields) (key : String) (value : Json) : Fields :=
  (key, value) :: omitKeys fields [key]

def containsText (part text : String) : Bool := part.toList <:+: text.toList

/-- The first `n` characters; names are ASCII, where these are the first `n` bytes. -/
def trunc (n : Nat) (text : String) : String := String.ofList (text.toList.take n)

def hasSuffix (suffix text : String) : Bool := suffix.toList <:+ text.toList

def trimSuffix (suffix text : String) : String :=
  if hasSuffix suffix text then
    String.ofList (text.toList.take (text.toList.length - suffix.toList.length))
  else text

/-- `replace old new` for single characters. -/
def replaceChar (old new : Char) (text : String) : String :=
  text.map fun c => if c = old then new else c

section Dicts

variable (fields : Fields) (key : String) (value : Json)

theorem lookup_omitKeys (keys : List String) :
    (omitKeys fields keys).lookup key = if key ∈ keys then none else fields.lookup key := by
  rw [omitKeys, Json.lookup_filter_keys fields key fun name => name ∉ keys]
  by_cases hkey : key ∈ keys <;> simp [hkey]

theorem lookup_setKey (other : String) :
    (setKey fields key value).lookup other =
      if other = key then some value else fields.lookup other := by
  rw [setKey, Json.lookup_entry, lookup_omitKeys]
  by_cases h : other = key
  · rw [if_pos h, if_pos h]
  · rw [if_neg h, if_neg h, if_neg (by simpa using h)]

theorem field_of_truthy (h : truthy (field fields key)) :
    fields.lookup key = some (field fields key) := by
  unfold field at h ⊢
  cases hlookup : fields.lookup key with
  | none => simp [hlookup, truthy] at h
  | some found => rfl

end Dicts

section Texts

variable {suffix text : String}

theorem hasSuffix_iff : hasSuffix suffix text = true ↔ ∃ head, text = head ++ suffix := by
  simp only [hasSuffix, decide_eq_true_eq]
  constructor
  · rintro ⟨head, h⟩
    exact ⟨String.ofList head, String.toList_inj.mp (by simp [h])⟩
  · rintro ⟨head, rfl⟩
    exact ⟨head.toList, by simp⟩

@[simp] theorem trimSuffix_append (head suffix : String) :
    trimSuffix suffix (head ++ suffix) = head := by
  have hsuffix : hasSuffix suffix (head ++ suffix) = true := hasSuffix_iff.mpr ⟨head, rfl⟩
  simp [trimSuffix, hsuffix]

theorem trimSuffix_inj {other : String} (htext : hasSuffix suffix text = true)
    (hother : hasSuffix suffix other = true)
    (h : trimSuffix suffix text = trimSuffix suffix other) : text = other := by
  obtain ⟨head, rfl⟩ := hasSuffix_iff.mp htext
  obtain ⟨head', rfl⟩ := hasSuffix_iff.mp hother
  rw [trimSuffix_append, trimSuffix_append] at h
  rw [h]

theorem append_left_injective (head : String) :
    Function.Injective fun name : String => head ++ name := by
  intro name other h
  have hlist := congrArg String.toList h
  rw [String.toList_append, String.toList_append] at hlist
  exact String.toList_inj.mp (List.append_cancel_left hlist)

end Texts

end Helm
