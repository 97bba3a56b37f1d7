import Mathlib.Tactic.SplitIfs

/-! Paths in a tree of directories without links. A directory is the list of the names that
lead to it from the root; the root is above itself. -/
namespace Paths

abbrev Component := List Char

def isDots (part : Component) : Bool := part = ['.', '.']

/-- Empty components and single dots lead nowhere. -/
def components (text : String) : List Component :=
  (text.toList.splitOn '/').filter fun part => part ≠ [] ∧ part ≠ ['.']

abbrev IsAbsolute (text : String) : Prop := ['/'] <+: text.toList

def enter (directory : List Component) (part : Component) : List Component :=
  if isDots part then directory.dropLast else directory ++ [part]

def walk (directory parts : List Component) : List Component := parts.foldl enter directory

def resolve (here : List Component) (text : String) : List Component :=
  walk (if IsAbsolute text then [] else here) (components text)

/-- How many directories a path leaves first, and which it enters then. -/
structure Route where
  climbs : Nat
  names : List Component

namespace Route

def enter (route : Route) (part : Component) : Route :=
  if isDots part then
    if route.names = [] then ⟨route.climbs + 1, []⟩ else ⟨route.climbs, route.names.dropLast⟩
  else ⟨route.climbs, route.names ++ [part]⟩

def target (directory : List Component) (route : Route) : List Component :=
  directory.take (directory.length - route.climbs) ++ route.names

theorem target_enter (directory : List Component) (route : Route) (part : Component) :
    (route.enter part).target directory = Paths.enter (route.target directory) part := by
  unfold enter Paths.enter target
  split_ifs with hdots hnames
  · rw [hnames, List.append_nil, List.append_nil, List.dropLast_eq_take, List.take_take,
      List.length_take]
    have hlength : directory.length - (route.climbs + 1) =
        min (min (directory.length - route.climbs) directory.length - 1)
          (directory.length - route.climbs) := by omega
    rw [hlength]
  · rw [List.dropLast_append_of_ne_nil hnames]
  · rw [List.append_assoc]

end Route

def route (parts : List Component) : Route := parts.foldl Route.enter ⟨0, []⟩

theorem walk_eq_target (directory parts : List Component) :
    walk directory parts = (route parts).target directory := by
  have hfold (start : Route) : walk (start.target directory) parts =
      (parts.foldl Route.enter start).target directory := by
    induction parts generalizing start with
    | nil => rfl
    | cons part rest ih =>
      rw [walk, List.foldl_cons, ← Route.target_enter, List.foldl_cons]
      exact ih (start.enter part)
  have hstart := hfold ⟨0, []⟩
  rwa [Route.target, Nat.sub_zero, List.take_length, List.append_nil] at hstart

theorem route_map {f : Component → Component} (hdots : ∀ part, isDots (f part) = isDots part)
    (parts : List Component) :
    route (parts.map f) = ⟨(route parts).climbs, (route parts).names.map f⟩ := by
  have hfold (start : Route) : (parts.map f).foldl Route.enter ⟨start.climbs, start.names.map f⟩ =
      ⟨(parts.foldl Route.enter start).climbs, (parts.foldl Route.enter start).names.map f⟩ := by
    induction parts generalizing start with
    | nil => rfl
    | cons part rest ih =>
      rw [List.map_cons, List.foldl_cons, List.foldl_cons, ← ih]
      congr 1
      unfold Route.enter
      rw [hdots]
      split_ifs with hpart hnames hmapped hmapped <;> simp_all
  exact hfold ⟨0, []⟩

end Paths
