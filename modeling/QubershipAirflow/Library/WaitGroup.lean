import Mathlib.Data.List.Basic

/-! A pool of goroutines guarded by a wait group. The counter is the number of
goroutines that have not called `Done`, so a `Wait` that has returned leaves only
finished ones behind. -/
namespace WaitGroup

variable {α : Type*} {finished : α → Bool} {pool : List α} {counter : Nat} {waited : Bool}

structure Pool (finished : α → Bool) (pool : List α) (counter : Nat) (waited : Bool) :
    Prop where
  counted : counter = pool.countP fun g => !finished g
  quiet : waited = true → ∀ g ∈ pool, finished g = true

theorem Pool.empty (finished : α → Bool) (waited : Bool) : Pool finished [] 0 waited :=
  ⟨rfl, fun _ _ h => absurd h List.not_mem_nil⟩

theorem countP_set (p : α → Bool) {i : Nat} {g : α} (h : pool[i]? = some g) (g' : α) :
    (pool.set i g').countP p + (if p g then 1 else 0) =
      pool.countP p + (if p g' then 1 else 0) := by
  obtain ⟨hi, rfl⟩ := List.getElem?_eq_some_iff.mp h
  have hpos : (if p pool[i] then 1 else 0) ≤ pool.countP p := by
    split
    · rename_i hp
      exact List.countP_pos_iff.mpr ⟨pool[i], List.getElem_mem hi, hp⟩
    · exact Nat.zero_le _
  rw [List.countP_set hi]
  omega

theorem Pool.busy (h : Pool finished pool counter waited) {g : α} (hg : g ∈ pool)
    (hbusy : finished g = false) : waited = false := by
  cases hwaited : waited with
  | false => rfl
  | true => exact absurd (h.quiet hwaited g hg) (by simp [hbusy])

theorem Pool.spawn (h : Pool finished pool counter false) (g : α) (hbusy : finished g = false) :
    Pool finished (pool ++ [g]) (counter + 1) false := by
  refine ⟨?_, fun hwaited => absurd hwaited (by simp)⟩
  simp [h.counted, hbusy]

theorem Pool.move (h : Pool finished pool counter waited) {i : Nat} {g : α}
    (hg : pool[i]? = some g) (hbusy : finished g = false) (g' : α)
    (hbusy' : finished g' = false) :
    Pool finished (pool.set i g') counter waited := by
  refine ⟨?_, fun hwaited => ?_⟩
  · have hcount := countP_set (fun g => !finished g) hg g'
    simp only [hbusy, hbusy', Bool.not_false, if_true] at hcount
    have hcounted := h.counted
    omega
  · rw [h.busy (List.mem_of_getElem? hg) hbusy] at hwaited
    contradiction

theorem Pool.done (h : Pool finished pool counter waited) {i : Nat} {g : α}
    (hg : pool[i]? = some g) (hbusy : finished g = false) (g' : α)
    (hdone : finished g' = true) :
    Pool finished (pool.set i g') (counter - 1) waited := by
  refine ⟨?_, fun hwaited => ?_⟩
  · have hcount := countP_set (fun g => !finished g) hg g'
    simp only [hbusy, hdone, Bool.not_false, Bool.not_true, if_true, Bool.false_eq_true,
      if_false] at hcount
    have hcounted := h.counted
    omega
  · rw [h.busy (List.mem_of_getElem? hg) hbusy] at hwaited
    contradiction

theorem Pool.wait (h : Pool finished pool 0 waited) : Pool finished pool 0 true := by
  refine ⟨h.counted, fun _ g hg => ?_⟩
  have hnone := List.countP_eq_zero.mp h.counted.symm g hg
  simpa using hnone

theorem exists_mem_set {i : Nat} {g g' : α}
    {P : α → Prop} (hi : pool[i]? = some g) (hP : P g → P g') (h : ∃ x ∈ pool, P x) :
    ∃ x ∈ pool.set i g', P x := by
  obtain ⟨x, hx, hPx⟩ := h
  obtain ⟨j, hj⟩ := List.mem_iff_getElem?.mp hx
  by_cases hij : i = j
  · subst hij
    rw [hi] at hj
    obtain rfl := Option.some.inj hj
    obtain ⟨hlt, -⟩ := List.getElem?_eq_some_iff.mp hi
    exact ⟨g', List.mem_set hlt g', hP hPx⟩
  · refine ⟨x, ?_, hPx⟩
    have hset : (pool.set i g')[j]? = some x := (List.getElem?_set_ne hij).trans hj
    exact List.mem_of_getElem? hset

end WaitGroup
