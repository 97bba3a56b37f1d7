import Mathlib.Data.Set.Insert
import Mathlib.Logic.Function.Basic

/-! Outlines of a tree by the paths that are kept of it. A kept path keeps all that is
below it; what leads to one is there in part. A path comes too late when another one has
kept a node above it whole, or below it in part. -/

inductive Outline (α : Type) where
  | absent
  | whole
  | part (below : α → Outline α)

def pathsBelow {α : Type} (paths : Set (List α)) (key : α) : Set (List α) :=
  {rest | key :: rest ∈ paths}

namespace Outline

variable {α : Type}

/-- The outline has the paths, and nothing that does not lead to one. -/
def Outlines : Set (List α) → Outline α → Prop
  | paths, absent => paths = ∅
  | paths, whole => [] ∈ paths
  | paths, part below => (∃ key rest, key :: rest ∈ paths) ∧
      ∀ key, Outlines (pathsBelow paths key) (below key)

/-- The path has a node of its own, with parts only above it. -/
def Reaches : List α → Outline α → Prop
  | [], outline => outline = whole
  | key :: rest, outline => ∃ below, outline = part below ∧ Reaches rest (below key)

section Insertion

variable [DecidableEq α]

def keep : List α → Outline α → Outline α
  | [], absent => whole
  | [], outline => outline
  | _ :: _, whole => whole
  | key :: rest, absent =>
      part (Function.update (fun _ => absent) key (keep rest absent))
  | key :: rest, part below => part (Function.update below key (keep rest (below key)))

/-- The children of a root that is there in any case. -/
def keepBelow (below : α → Outline α) : List α → α → Outline α
  | [] => below
  | key :: rest => Function.update below key (keep rest (below key))

def ofPaths (paths : List (List α)) : α → Outline α :=
  paths.foldl keepBelow fun _ => absent

end Insertion

section Paths

variable {paths : Set (List α)} {outline : Outline α} {below : α → Outline α} {path rest : List α}
  {key : α}

@[simp] theorem mem_pathsBelow : rest ∈ pathsBelow paths key ↔ key :: rest ∈ paths := Iff.rfl

theorem outlines_empty_iff : Outlines ∅ outline ↔ outline = absent := by
  cases outline with
  | absent => simp [Outlines]
  | whole => simp [Outlines]
  | part below => simp [Outlines]

theorem Outlines.nonempty_iff (h : Outlines paths outline) :
    paths.Nonempty ↔ outline ≠ absent := by
  constructor
  · rintro ⟨path, hpath⟩ rfl
    cases (h : paths = ∅)
    exact hpath
  · intro hne
    rw [Set.nonempty_iff_ne_empty]
    rintro rfl
    exact hne (outlines_empty_iff.mp h)

theorem Reaches.ne_absent (h : Reaches path outline) : outline ≠ absent := by
  rintro rfl
  cases path with
  | nil => cases h
  | cons key rest =>
      obtain ⟨below, hbelow, -⟩ := h
      cases hbelow

theorem pathsBelow_insert_self : pathsBelow (insert (key :: rest) paths) key =
    insert rest (pathsBelow paths key) := by
  ext other
  simp [pathsBelow]

theorem pathsBelow_insert_ne {other : α} (h : other ≠ key) :
    pathsBelow (insert (key :: rest) paths) other = pathsBelow paths other := by
  ext path
  simp [pathsBelow, h]

theorem pathsBelow_insert_nil : pathsBelow (insert [] paths) key = pathsBelow paths key := by
  ext path
  simp [pathsBelow]

variable [DecidableEq α]

theorem outlines_keepBelow_cons (h : ∀ key, Outlines (pathsBelow paths key) (below key))
    (hkeep : Outlines (insert rest (pathsBelow paths key)) (keep rest (below key)))
    (other : α) : Outlines (pathsBelow (insert (key :: rest) paths) other)
      (keepBelow below (key :: rest) other) := by
  by_cases hkey : other = key
  · subst hkey
    rw [pathsBelow_insert_self, keepBelow, Function.update_self]
    exact hkeep
  · rw [pathsBelow_insert_ne hkey, keepBelow, Function.update_of_ne hkey]
    exact h other

theorem Outlines.keep (path : List α) (h : Outlines paths outline) :
    Outlines (insert path paths) (outline.keep path) := by
  induction path generalizing paths outline with
  | nil =>
      cases outline with
      | absent => exact Set.mem_insert _ _
      | whole => exact Set.mem_insert _ _
      | part below =>
          obtain ⟨⟨key, rest, hmem⟩, hbelow⟩ := h
          refine ⟨⟨key, rest, Set.mem_insert_of_mem _ hmem⟩, fun key => ?_⟩
          rw [pathsBelow_insert_nil]
          exact hbelow key
  | cons key rest ih =>
      cases outline with
      | absent =>
          cases (h : paths = ∅)
          have hnone : ∀ key : α, Outlines (pathsBelow ∅ key) absent := by
            intro key
            exact outlines_empty_iff.mpr rfl
          exact ⟨⟨key, rest, Set.mem_insert _ _⟩,
            outlines_keepBelow_cons hnone (ih (hnone key))⟩
      | whole => exact Set.mem_insert_of_mem _ h
      | part below =>
          exact ⟨⟨key, rest, Set.mem_insert _ _⟩,
            outlines_keepBelow_cons h.2 (ih (h.2 key))⟩

theorem outlines_keepBelow (h : ∀ key, Outlines (pathsBelow paths key) (below key)) :
    ∀ key, Outlines (pathsBelow (insert path paths) key) (keepBelow below path key) := by
  cases path with
  | nil =>
      intro key
      rw [pathsBelow_insert_nil]
      exact h key
  | cons first rest => exact outlines_keepBelow_cons h ((h first).keep rest)

theorem outlines_foldl (kept : List (List α))
    (h : ∀ key, Outlines (pathsBelow paths key) (below key)) (key : α) :
    Outlines (pathsBelow (paths ∪ {path | path ∈ kept}) key)
      (kept.foldl keepBelow below key) := by
  induction kept generalizing paths below with
  | nil => simpa using h key
  | cons path kept ih =>
      have hpaths : paths ∪ {other | other ∈ path :: kept} =
          insert path paths ∪ {other | other ∈ kept} := by
        ext other
        simp only [Set.mem_union, Set.mem_insert_iff, Set.mem_ofPred_eq, List.mem_cons, or_assoc,
          or_left_comm]
      rw [hpaths]
      exact ih (outlines_keepBelow h)

theorem outlines_ofPaths (kept : List (List α)) (key : α) :
    Outlines (pathsBelow {path | path ∈ kept} key) (ofPaths kept key) := by
  have hnone : ∀ key : α, Outlines (pathsBelow ∅ key) absent := by
    intro key
    exact outlines_empty_iff.mpr rfl
  have hkept := outlines_foldl kept hnone key
  rw [Set.empty_union] at hkept
  exact hkept

theorem reaches_keep_absent : Reaches path (keep path absent) := by
  induction path with
  | nil => rfl
  | cons key rest ih =>
      refine ⟨_, rfl, ?_⟩
      rw [Function.update_self]
      exact ih

theorem Reaches.keep (other : List α) (h : Reaches path outline) :
    Reaches path (outline.keep other) := by
  induction path generalizing other outline with
  | nil =>
      cases (h : outline = whole)
      cases other with
      | nil => rfl
      | cons => rfl
  | cons key rest ih =>
      obtain ⟨below, rfl, hbelow⟩ := h
      cases other with
      | nil => exact ⟨below, rfl, hbelow⟩
      | cons first others =>
          refine ⟨_, rfl, ?_⟩
          by_cases hkey : key = first
          · subst hkey
            rw [Function.update_self]
            exact ih others hbelow
          · rw [Function.update_of_ne hkey]
            exact hbelow

theorem Reaches.keepBelow (other : List α) (h : Reaches rest (below key)) :
    Reaches rest (keepBelow below other key) := by
  cases other with
  | nil => exact h
  | cons first others =>
      rw [Outline.keepBelow]
      by_cases hkey : key = first
      · subst hkey
        rw [Function.update_self]
        exact h.keep others
      · rw [Function.update_of_ne hkey]
        exact h

theorem reaches_ofPaths (key : α) (rest : List α) (kept : List (List α)) :
    Reaches rest (ofPaths ((key :: rest) :: kept) key) := by
  have hfirst : Reaches rest (Outline.keepBelow (fun _ => absent) (key :: rest) key) := by
    rw [Outline.keepBelow, Function.update_self]
    exact reaches_keep_absent
  rw [ofPaths, List.foldl_cons]
  generalize Outline.keepBelow (fun _ => absent) (key :: rest) = below at hfirst
  induction kept generalizing below with
  | nil => exact hfirst
  | cons other kept ih => exact ih _ (hfirst.keepBelow other)

end Paths

end Outline

def restAt {α : Type} [DecidableEq α] (key : α) : List α → Option (List α)
  | [] => none
  | first :: rest => if first = key then some rest else none

def restsAt {α : Type} [DecidableEq α] (paths : List (List α)) (key : α) : List (List α) :=
  paths.filterMap (restAt key)

/-- Of the paths at this one or below it, the first is this one. -/
def ComesFirst {α : Type} [DecidableEq α] (path : List α) (paths : List (List α)) : Prop :=
  paths.find? (fun other => decide (path <+: other)) = some path

/-- A path above this one was the first to come there. -/
def ComesInside {α : Type} [DecidableEq α] (path : List α) (paths : List (List α)) : Prop :=
  ∃ above, ComesFirst above paths ∧ above <+: path ∧ above ≠ path

namespace Outline

section Order

variable {α : Type} [DecidableEq α] {paths : List (List α)} {path rest : List α} {key first : α}
  {below : α → Outline α}

def ofList (paths : List (List α)) : Outline α :=
  paths.foldl (fun outline path => outline.keep path) absent

theorem restAt_eq_some_iff : restAt key path = some rest ↔ path = key :: rest := by
  cases path with
  | nil => simp [restAt]
  | cons first path => by_cases hkey : first = key <;> simp [restAt, hkey]

theorem mem_restsAt : rest ∈ restsAt paths key ↔ key :: rest ∈ paths := by
  simp only [restsAt, List.mem_filterMap, restAt_eq_some_iff, exists_eq_right]

theorem keep_part (below : α → Outline α) (path : List α) :
    (part below).keep path = part (keepBelow below path) := by
  cases path <;> rfl

theorem foldl_keep_whole (paths : List (List α)) :
    paths.foldl (fun outline path => outline.keep path) whole = whole := by
  induction paths with
  | nil => rfl
  | cons path paths ih =>
      rw [List.foldl_cons]
      cases path with
      | nil => exact ih
      | cons key rest => exact ih

theorem foldl_keep_part (paths : List (List α)) (below : α → Outline α) :
    paths.foldl (fun outline path => outline.keep path) (part below) =
      part (paths.foldl keepBelow below) := by
  induction paths generalizing below with
  | nil => rfl
  | cons path paths ih => rw [List.foldl_cons, keep_part, ih, List.foldl_cons]

theorem foldl_keepBelow (paths : List (List α)) (below : α → Outline α) (key : α) :
    paths.foldl keepBelow below key =
      (restsAt paths key).foldl (fun outline path => outline.keep path) (below key) := by
  induction paths generalizing below with
  | nil => rfl
  | cons path paths ih =>
      rw [List.foldl_cons, ih]
      cases path with
      | nil => rfl
      | cons first rest =>
          by_cases hkey : first = key
          · subst hkey
            simp [restsAt, restAt, keepBelow]
          · simp [restsAt, restAt, hkey, keepBelow, Function.update_of_ne (Ne.symm hkey)]

theorem ofPaths_eq_ofList (paths : List (List α)) (key : α) :
    ofPaths paths key = ofList (restsAt paths key) :=
  foldl_keepBelow paths _ key

theorem ofList_nil_cons (paths : List (List α)) : ofList ([] :: paths) = whole :=
  foldl_keep_whole paths

theorem ofList_cons_cons (key : α) (rest : List α) (paths : List (List α)) :
    ofList ((key :: rest) :: paths) =
      part fun key' => ofList (restsAt ((key :: rest) :: paths) key') := by
  have hpart : ofList ((key :: rest) :: paths) = part (ofPaths ((key :: rest) :: paths)) :=
    foldl_keep_part paths _
  rw [hpart]
  exact congrArg part (funext fun key' => ofPaths_eq_ofList _ key')

theorem ofList_ne_absent (h : path ∈ paths) : ofList paths ≠ absent := by
  cases paths with
  | nil => simp at h
  | cons first paths =>
      cases first with
      | nil => simp [ofList_nil_cons]
      | cons key rest => simp [ofList_cons_cons]

theorem comesFirst_nil_cons : ComesFirst [] (path :: paths) ↔ path = [] := by
  simp [ComesFirst]

theorem comesFirst_cons : ComesFirst (key :: path) paths ↔ ComesFirst path (restsAt paths key) := by
  have hsame (other : List α) : (restAt key other).any (fun rest => decide (path <+: rest)) =
      decide (key :: path <+: other) := by
    cases other with
    | nil => simp [restAt]
    | cons first other =>
        by_cases hkey : first = key
        · subst hkey
          simp [restAt, List.cons_prefix_cons]
        · simp [restAt, List.cons_prefix_cons, hkey, Ne.symm hkey]
  rw [ComesFirst, ComesFirst, restsAt, List.find?_filterMap]
  simp only [hsame, Option.bind_eq_some_iff, restAt_eq_some_iff, exists_eq_right]

theorem not_comesInside_nil : ¬ ComesInside [] paths := by
  rintro ⟨above, -, habove, hne⟩
  exact hne (List.prefix_nil.1 habove)

theorem comesInside_of_head : ComesInside (key :: rest) ([] :: paths) :=
  ⟨[], comesFirst_nil_cons.2 rfl, List.nil_prefix, by simp⟩

theorem comesInside_cons (h : ¬ ComesFirst [] paths) :
    ComesInside (key :: rest) paths ↔ ComesInside rest (restsAt paths key) := by
  constructor
  · rintro ⟨above, hfirst, habove, hne⟩
    cases above with
    | nil => exact absurd hfirst h
    | cons first above =>
        obtain ⟨rfl, hbelow⟩ := List.cons_prefix_cons.1 habove
        exact ⟨above, comesFirst_cons.1 hfirst, hbelow, fun heq => hne (heq ▸ rfl)⟩
  · rintro ⟨above, hfirst, habove, hne⟩
    refine ⟨key :: above, comesFirst_cons.2 hfirst, List.cons_prefix_cons.2 ⟨rfl, habove⟩, ?_⟩
    simpa using hne

end Order

end Outline
