import Mathlib.Data.List.Basic

/-! Names of managed snapshots. A run names its snapshots `snapshot_<n>`, and later
runs know of earlier ones only what they read back from such names. -/
namespace QubershipAirflow.DrSync

def snapshotPrefix : String := "snapshot_"

/-- `f"{snapshot_prefix}{n}"`. -/
def snapshotName (n : Int) : String := snapshotPrefix ++ toString n

/-- The first code points of the runs of ten decimal digits that `\d` matches. -/
def digitZeros : List Nat :=
  [0x30, 0x660, 0x6f0, 0x7c0, 0x966, 0x9e6, 0xa66, 0xae6, 0xb66, 0xbe6, 0xc66, 0xce6,
    0xd66, 0xde6, 0xe50, 0xed0, 0xf20, 0x1040, 0x1090, 0x17e0, 0x1810, 0x1946, 0x19d0,
    0x1a80, 0x1a90, 0x1b50, 0x1bb0, 0x1c40, 0x1c50, 0xa620, 0xa8d0, 0xa900, 0xa9d0,
    0xa9f0, 0xaa50, 0xabf0, 0xff10, 0x104a0, 0x10d30, 0x11066, 0x110f0, 0x11136,
    0x111d0, 0x112f0, 0x11450, 0x114d0, 0x11650, 0x116c0, 0x11730, 0x118e0, 0x11950,
    0x11c50, 0x11d50, 0x11da0, 0x16a60, 0x16ac0, 0x16b50, 0x1d7ce, 0x1d7d8, 0x1d7e2,
    0x1d7ec, 0x1d7f6, 0x1e140, 0x1e2f0, 0x1e950, 0x1fbf0]

def digitValue? (c : Char) : Option Nat :=
  (digitZeros.find? fun first => first ≤ c.toNat ∧ c.toNat < first + 10).map (c.toNat - ·)

/-- `int(search_result.group(1))` on the digits that `(\d+)` matched. -/
def digitsValue? (digits : List Char) : Option Nat :=
  if digits = [] then none
  else digits.foldlM (fun n c => (digitValue? c).map (10 * n + ·)) 0

/-- The number that `^snapshot_(\d+)\Z` finds in a name. -/
def snapshotNumber? (name : String) : Option Nat :=
  if snapshotPrefix.toList <+: name.toList then
    digitsValue? (name.toList.drop snapshotPrefix.toList.length)
  else none

/-- The greatest number among the names, or -1 when no name has one. -/
def latestNumber (names : List String) : Int :=
  match (names.filterMap snapshotNumber?).max? with
  | none => -1
  | some n => n

theorem digitValue?_digitChar (n : Nat) (h : n < 10) :
    digitValue? (Nat.digitChar n) = some n := by
  have hall : ∀ n < 10, digitValue? (Nat.digitChar n) = some n := by decide
  exact hall n h

theorem foldlM_toDigits (n : Nat) :
    (Nat.toDigits 10 n).foldlM (fun n c => (digitValue? c).map (10 * n + ·)) 0 = some n := by
  induction n using Nat.strongRecOn with
  | _ n ih =>
    by_cases h : n < 10
    · rw [Nat.toDigits_of_lt_base h]
      simp [digitValue?_digitChar n h]
    · rw [Nat.toDigits_of_base_le (by decide) (by omega), List.foldlM_append,
        ih (n / 10) (by omega)]
      simp [digitValue?_digitChar (n % 10) (by omega), Nat.div_add_mod]

theorem toList_snapshotName (n : Nat) :
    (snapshotName n).toList = snapshotPrefix.toList ++ Nat.toDigits 10 n := by
  rw [snapshotName, String.toList_append]
  exact congrArg _ Nat.toList_repr

/-- A managed name can be read back. -/
@[simp] theorem snapshotNumber?_snapshotName (n : Nat) :
    snapshotNumber? (snapshotName n) = some n := by
  rw [snapshotNumber?, toList_snapshotName, if_pos (List.prefix_append _ _), List.drop_left,
    digitsValue?, if_neg Nat.toDigits_ne_nil, foldlM_toDigits]

example : snapshotNumber? "snapshot_007" = some 7 := by decide +kernel

example : snapshotNumber? "snapshot_-1" = none := by decide +kernel

theorem snapshotName_injective : Function.Injective fun n : Nat => snapshotName n := by
  intro m n h
  have h := congrArg snapshotNumber? h
  simpa using h

theorem snapshotName_inj {m n : Nat} : snapshotName m = snapshotName n ↔ m = n :=
  snapshotName_injective.eq_iff

/-- The name below a number does not read as that number, not even `snapshot_-1`. -/
theorem snapshotNumber?_pred_ne (n : Nat) :
    snapshotNumber? (snapshotName ((n : Int) - 1)) ≠ some n := by
  cases n with
  | zero => decide +kernel
  | succ n =>
    rw [show ((n + 1 : Nat) : Int) - 1 = n by omega, snapshotNumber?_snapshotName]
    intro h
    have := Option.some.inj h
    omega

theorem snapshotName_pred_ne (n : Nat) : snapshotName ((n : Int) - 1) ≠ snapshotName n := by
  intro h
  apply snapshotNumber?_pred_ne n
  rw [h, snapshotNumber?_snapshotName]

@[simp] theorem latestNumber_nil : latestNumber [] = -1 := rfl

theorem latestNumber_eq_neg_one {names : List String} :
    latestNumber names = -1 ↔ names.filterMap snapshotNumber? = [] := by
  unfold latestNumber
  cases h : (names.filterMap snapshotNumber?).max? with
  | none => simpa using List.max?_eq_none_iff.mp h
  | some n =>
    have hne : names.filterMap snapshotNumber? ≠ [] := by
      intro hnil
      simp [hnil] at h
    simp only [hne, iff_false]
    omega

theorem latestNumber_eq_natCast {names : List String} {n : Nat} :
    latestNumber names = n ↔ n ∈ names.filterMap snapshotNumber? ∧
      ∀ m ∈ names.filterMap snapshotNumber?, m ≤ n := by
  rw [← List.max?_eq_some_iff]
  unfold latestNumber
  cases (names.filterMap snapshotNumber?).max? with
  | none => simp
  | some m => simp only [Int.natCast_inj, Option.some.injEq]

theorem latestNumber_cases (names : List String) :
    latestNumber names = -1 ∨ ∃ n : Nat, latestNumber names = n := by
  unfold latestNumber
  cases (names.filterMap snapshotNumber?).max? with
  | none => exact Or.inl rfl
  | some n => exact Or.inr ⟨n, rfl⟩

theorem le_latestNumber {names : List String} {name : String} {n : Nat}
    (hname : name ∈ names) (hn : snapshotNumber? name = some n) :
    (n : Int) ≤ latestNumber names := by
  have hmem : n ∈ names.filterMap snapshotNumber? := List.mem_filterMap.mpr ⟨name, hname, hn⟩
  rcases latestNumber_cases names with h | ⟨m, h⟩
  · rw [latestNumber_eq_neg_one.mp h] at hmem
    cases hmem
  · rw [h]
    exact_mod_cast (latestNumber_eq_natCast.mp h).2 n hmem

theorem latestNumber_append {names : List String} {n : Nat} (h : latestNumber names ≤ n) :
    latestNumber (names ++ [snapshotName n]) = n := by
  rw [latestNumber_eq_natCast]
  constructor
  · simp
  · intro m hm
    rw [List.filterMap_append, List.mem_append] at hm
    rcases hm with hm | hm
    · obtain ⟨name, hname, hnumber⟩ := List.mem_filterMap.mp hm
      have := le_latestNumber hname hnumber
      omega
    · simp at hm
      omega

theorem snapshotName_not_mem {names : List String} {n : Nat} (h : latestNumber names < n) :
    snapshotName n ∉ names := by
  intro hmem
  have := le_latestNumber hmem (snapshotNumber?_snapshotName n)
  omega

theorem latestNumber_le_of_subset {names others : List String} (h : names ⊆ others) :
    latestNumber names ≤ latestNumber others := by
  rcases latestNumber_cases names with hnone | ⟨n, hn⟩
  · rcases latestNumber_cases others with hothers | ⟨m, hothers⟩ <;> omega
  · obtain ⟨name, hname, hnumber⟩ := List.mem_filterMap.mp (latestNumber_eq_natCast.mp hn).1
    have := le_latestNumber (h hname) hnumber
    omega

theorem latestNumber_eq_of_subset {names others : List String} {n : Nat}
    (hlatest : latestNumber others = n) (hsubset : names ⊆ others)
    (hmem : snapshotName n ∈ names) : latestNumber names = n := by
  have hle := latestNumber_le_of_subset hsubset
  have hge := le_latestNumber hmem (snapshotNumber?_snapshotName n)
  omega

end QubershipAirflow.DrSync
