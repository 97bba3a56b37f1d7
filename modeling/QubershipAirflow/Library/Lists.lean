import Mathlib.Data.List.Forall2

/-! Lists that are related element by element, as `mapM` relates them. -/
namespace Lists

variable {α β : Type}

section Related

variable {R : α → β → Prop} {first : List α} {second : List β}

theorem exists_forall₂_iff :
    (∃ second, List.Forall₂ R first second) ↔ ∀ a ∈ first, ∃ b, R a b := by
  induction first with
  | nil => simp
  | cons a first ih =>
      rw [List.forall_mem_cons, ← ih]
      constructor
      · rintro ⟨_, hhead | ⟨hhead, htail⟩⟩
        exact ⟨⟨_, hhead⟩, _, htail⟩
      · rintro ⟨⟨b, hhead⟩, second, htail⟩
        exact ⟨b :: second, .cons hhead htail⟩

theorem exists_of_forall₂ (h : List.Forall₂ R first second) :
    (∀ a ∈ first, ∃ b ∈ second, R a b) ∧ ∀ b ∈ second, ∃ a ∈ first, R a b := by
  induction h with
  | nil => simp
  | cons hhead _ ih =>
      obtain ⟨hleft, hright⟩ := ih
      constructor
      · intro a ha
        rcases List.mem_cons.mp ha with rfl | ha
        · exact ⟨_, List.mem_cons_self, hhead⟩
        · obtain ⟨b, hb, hab⟩ := hleft a ha
          exact ⟨b, List.mem_cons_of_mem _ hb, hab⟩
      · intro b hb
        rcases List.mem_cons.mp hb with rfl | hb
        · exact ⟨_, List.mem_cons_self, hhead⟩
        · obtain ⟨a, ha, hab⟩ := hright b hb
          exact ⟨a, List.mem_cons_of_mem _ ha, hab⟩

end Related

section MapM

variable {f : α → Option β} {items : List α} {found : List β}

theorem mapM_cons_some {item : α} : (item :: items).mapM f = some found ↔
    ∃ first rest, f item = some first ∧ items.mapM f = some rest ∧ found = first :: rest := by
  simp only [List.mapM_cons, Option.bind_eq_bind, Option.bind_eq_some_iff, Option.pure_def,
    Option.some.injEq]
  constructor
  · rintro ⟨first, hfirst, rest, hrest, rfl⟩
    exact ⟨first, rest, hfirst, hrest, rfl⟩
  · rintro ⟨first, rest, hfirst, hrest, rfl⟩
    exact ⟨first, hfirst, rest, hrest, rfl⟩

theorem forall₂_of_mapM (h : items.mapM f = some found) :
    List.Forall₂ (fun item value => f item = some value) items found := by
  induction items generalizing found with
  | nil =>
    cases h
    exact .nil
  | cons item items ih =>
    obtain ⟨first, rest, hfirst, hrest, rfl⟩ := mapM_cons_some.1 h
    exact .cons hfirst (ih hrest)

theorem exists_of_mem_mapM (h : items.mapM f = some found) {value : β} (hmem : value ∈ found) :
    ∃ item ∈ items, f item = some value :=
  (exists_of_forall₂ (forall₂_of_mapM h)).2 value hmem

theorem isSome_of_mapM (h : items.mapM f = some found) {item : α} (hmem : item ∈ items) :
    (f item).isSome = true := by
  obtain ⟨value, -, hvalue⟩ := (exists_of_forall₂ (forall₂_of_mapM h)).1 item hmem
  rw [hvalue, Option.isSome_some]

end MapM

end Lists
