import Mathlib.Data.List.Nodup

/-! A store of named objects with optimistic concurrency. An update names the
version it was computed from and is refused when the stored version has moved
on. The parts of a body that every accepted update keeps form a `view`, and a
listing that selects by the view cannot change. -/
namespace VersionedStore

structure Object (κ β : Type*) where
  name : κ
  version : Nat
  body : β
  deriving DecidableEq, Repr

/-- Names are keys, so a store with two objects of one name cannot be built. -/
structure Store (κ β : Type*) where
  objects : List (Object κ β)
  keyed : (objects.map Object.name).Nodup

inductive Rejection where
  | notFound
  | conflict
  deriving DecidableEq, Repr

variable {κ β γ : Type*}

def Store.list (store : Store κ β) (selects : β → Bool) : List (Object κ β) :=
  store.objects.filter fun object => selects object.body

/-- What a listing can select by, for every object in the store's order. -/
def Store.view (store : Store κ β) (f : β → γ) : List (κ × γ) :=
  store.objects.map fun object => (object.name, f object.body)

theorem Store.list_view (store : Store κ β) (f : β → γ) (selects : γ → Bool) :
    (store.list (selects ∘ f)).map (fun object => (object.name, f object.body)) =
      (store.view f).filter fun entry => selects entry.2 := by
  simp only [Store.list, Store.view, List.filter_map, Function.comp_def]

variable [DecidableEq κ]

def Store.get (store : Store κ β) (name : κ) : Option (Object κ β) :=
  store.objects.find? fun object => object.name = name

private def replace (object stored : Object κ β) : Object κ β :=
  if stored.name = object.name then { object with version := stored.version + 1 } else stored

private theorem replace_name (object stored : Object κ β) :
    (replace object stored).name = stored.name := by
  unfold replace
  split
  · rename_i h
    exact h.symm
  · rfl

def Store.put (store : Store κ β) (object : Object κ β) : Store κ β where
  objects := store.objects.map (replace object)
  keyed := by
    have hnames : (store.objects.map (replace object)).map Object.name =
        store.objects.map Object.name := by
      simp [Function.comp_def, replace_name]
    rw [hnames]
    exact store.keyed

def Store.update (store : Store κ β) (object : Object κ β) : Except Rejection (Store κ β) :=
  match store.get object.name with
  | none => .error .notFound
  | some stored =>
      if stored.version = object.version then .ok (store.put object) else .error .conflict

theorem Store.mem_of_get {store : Store κ β} {name : κ} {object : Object κ β}
    (h : store.get name = some object) : object ∈ store.objects ∧ object.name = name :=
  ⟨List.mem_of_find?_eq_some h, by simpa using List.find?_some h⟩

theorem Store.get_of_mem {store : Store κ β} {object : Object κ β}
    (h : object ∈ store.objects) : store.get object.name = some object := by
  cases hget : store.get object.name with
  | none => simpa using List.find?_eq_none.mp hget object h
  | some other =>
    have hother := Store.mem_of_get hget
    rw [List.inj_on_of_nodup_map store.keyed hother.1 h hother.2]

theorem Store.get_put_self {store : Store κ β} {object stored : Object κ β}
    (h : store.get object.name = some stored) :
    (store.put object).get object.name = some { object with version := stored.version + 1 } := by
  have hstored := Store.mem_of_get h
  have hmem : replace object stored ∈ (store.put object).objects :=
    List.mem_map_of_mem hstored.1
  have hget := Store.get_of_mem hmem
  rwa [replace_name, hstored.2, replace, if_pos hstored.2] at hget

theorem Store.get_put_ne {store : Store κ β} {object : Object κ β} {name : κ}
    (h : name ≠ object.name) : (store.put object).get name = store.get name := by
  have hreplaced : ∀ stored : Object κ β, stored.name = name → replace object stored = stored := by
    intro stored hname
    exact if_neg fun heq => h (hname.symm.trans heq)
  cases hget : store.get name with
  | none =>
    refine List.find?_eq_none.mpr ?_
    intro other hother
    obtain ⟨stored, hstored, rfl⟩ := List.mem_map.mp hother
    rw [replace_name]
    exact List.find?_eq_none.mp hget stored hstored
  | some stored =>
    have hstored := Store.mem_of_get hget
    have hmem : stored ∈ (store.put object).objects := by
      rw [← hreplaced stored hstored.2]
      exact List.mem_map_of_mem hstored.1
    rw [← hstored.2]
    exact Store.get_of_mem hmem

theorem Store.view_put {store : Store κ β} {object : Object κ β} (f : β → γ)
    (h : ∀ stored, store.get object.name = some stored → f object.body = f stored.body) :
    (store.put object).view f = store.view f := by
  unfold Store.view Store.put
  rw [List.map_map]
  refine List.map_congr_left ?_
  intro stored hstored
  by_cases hname : stored.name = object.name
  · have hget := hname ▸ Store.get_of_mem hstored
    simp [replace, hname, h stored hget]
  · simp [replace, hname]

theorem Store.update_eq_ok {store next : Store κ β} {object : Object κ β}
    (h : store.update object = .ok next) :
    ∃ stored, store.get object.name = some stored ∧ stored.version = object.version ∧
      next = store.put object := by
  unfold Store.update at h
  split at h
  · contradiction
  · rename_i stored hget
    split at h
    · rename_i hversion
      exact ⟨stored, hget, hversion, (Except.ok.inj h).symm⟩
    · contradiction

section Writers

def Store.add (store : Store κ β) (object : Object κ β) : Store κ β where
  objects := (store.objects.filter fun stored => stored.name ≠ object.name) ++ [object]
  keyed := by
    rw [List.map_append, List.map_singleton, List.nodup_append]
    refine ⟨store.keyed.sublist (List.filter_sublist.map _), by simp, ?_⟩
    intro name hname other hother
    obtain ⟨stored, hstored, rfl⟩ := List.mem_map.mp hname
    rw [List.mem_singleton.mp hother]
    exact of_decide_eq_true (List.mem_filter.mp hstored).2

def Store.remove (store : Store κ β) (name : κ) : Store κ β where
  objects := store.objects.filter fun stored => stored.name ≠ name
  keyed := store.keyed.sublist (List.filter_sublist.map _)

theorem Store.get_remove_self (store : Store κ β) (name : κ) :
    (store.remove name).get name = none := by
  refine List.find?_eq_none.mpr fun stored hstored => ?_
  simpa using (List.mem_filter.mp hstored).2

theorem Store.get_remove_ne (store : Store κ β) {name other : κ} (h : other ≠ name) :
    (store.remove name).get other = store.get other := by
  unfold Store.get Store.remove
  rw [List.find?_filter]
  refine congrFun (congrArg List.find? (funext fun stored => ?_)) store.objects
  by_cases hname : stored.name = other
  · simp [hname, h]
  · simp [hname]

theorem Store.get_add_self (store : Store κ β) (object : Object κ β) :
    (store.add object).get object.name = some object :=
  Store.get_of_mem (List.mem_append_right _ (List.mem_singleton_self object))

theorem Store.get_add_ne (store : Store κ β) {object : Object κ β} {other : κ}
    (h : other ≠ object.name) : (store.add object).get other = store.get other := by
  rw [← store.get_remove_ne h]
  unfold Store.get Store.add Store.remove
  rw [List.find?_append, List.find?_cons_of_neg (by simpa using Ne.symm h)]
  simp

/-- A store with the last version of every deleted object, which a new object of the
name continues. So a version never comes back. -/
structure Archive (κ β : Type*) where
  store : Store κ β
  retired : κ → Nat

def Archive.issued (archive : Archive κ β) (name : κ) : Nat :=
  ((archive.store.get name).map Object.version).getD (archive.retired name)

inductive Write (κ β : Type*) where
  | save (name : κ) (body : β)
  | delete (name : κ)

def Archive.write (archive : Archive κ β) : Write κ β → Archive κ β
  | .save name body =>
      { archive with store := archive.store.add ⟨name, archive.issued name + 1, body⟩ }
  | .delete name =>
      { store := archive.store.remove name
        retired := Function.update archive.retired name (archive.issued name) }

/-- The object was once stored, and is still the stored one when its version is. -/
structure Archive.Knows (archive : Archive κ β) (held : Object κ β) : Prop where
  issued : held.version ≤ archive.issued held.name
  current : ∀ stored, archive.store.get held.name = some stored →
    stored.version = held.version → stored = held

theorem Archive.knows_of_get {archive : Archive κ β} {name : κ} {stored : Object κ β}
    (h : archive.store.get name = some stored) : archive.Knows stored := by
  have hname := (Store.mem_of_get h).2
  subst hname
  refine ⟨by simp [Archive.issued, h], fun other hother _ => ?_⟩
  rw [h] at hother
  exact (Option.some.inj hother).symm

theorem Archive.Knows.of_same {archive next : Archive κ β} {held : Object κ β}
    (h : archive.Knows held) (hget : next.store.get held.name = archive.store.get held.name)
    (hretired : next.retired held.name = archive.retired held.name) : next.Knows held := by
  refine ⟨?_, fun stored hstored => h.current stored ?_⟩
  · rw [Archive.issued, hget, hretired]
    exact h.issued
  · rw [← hget]
    exact hstored

theorem Archive.Knows.write {archive : Archive κ β} {held : Object κ β}
    (h : archive.Knows held) (write : Write κ β) : (archive.write write).Knows held := by
  cases write with
  | save name body =>
    by_cases hname : held.name = name
    · subst hname
      have hget := archive.store.get_add_self ⟨held.name, archive.issued held.name + 1, body⟩
      have hissued : (archive.write (.save held.name body)).issued held.name =
          archive.issued held.name + 1 := by
        rw [Archive.issued, Archive.write, hget]
        rfl
      refine ⟨by rw [hissued]; exact Nat.le_succ_of_le h.issued, fun stored hstored hversion => ?_⟩
      rw [Archive.write, hget] at hstored
      have hbound := h.issued
      rw [← Option.some.inj hstored] at hversion
      dsimp only at hversion
      omega
    · have hget := @Store.get_add_ne _ _ _ archive.store
        ⟨name, archive.issued name + 1, body⟩ _ hname
      exact h.of_same hget rfl
  | delete name =>
    by_cases hname : held.name = name
    · subst hname
      have hget := archive.store.get_remove_self held.name
      refine ⟨?_, fun stored hstored => ?_⟩
      · have hissued : (archive.write (.delete held.name)).issued held.name =
            archive.issued held.name := by
          rw [Archive.issued, Archive.write, hget]
          exact Function.update_self _ _ _
        rw [hissued]
        exact h.issued
      · rw [Archive.write, hget] at hstored
        cases hstored
    · have hget := archive.store.get_remove_ne hname
      exact h.of_same hget (Function.update_of_ne hname _ _)

/-- An update computed from a known object is accepted only while that object is the
stored one. -/
theorem Archive.Knows.update {archive : Archive κ β} {held : Object κ β} {body : β}
    {next : Store κ β} (h : archive.Knows held)
    (hupdate : archive.store.update { held with body := body } = .ok next) :
    archive.store.get held.name = some held ∧
      next.get held.name = some ⟨held.name, held.version + 1, body⟩ ∧
      ∀ name, name ≠ held.name → next.get name = archive.store.get name := by
  obtain ⟨stored, hget, hversion, rfl⟩ := Store.update_eq_ok hupdate
  obtain rfl := h.current stored hget hversion
  exact ⟨hget, Store.get_put_self hget, fun name hname => Store.get_put_ne hname⟩

end Writers

end VersionedStore
