import QubershipAirflow.Library.Helm
import QubershipAirflow.Library.JsonNodes

/-! The rules of the redirect HTTPRoute. The template writes them as text, in a loop over
the configured rules, and YAML reads the text by the columns of its lines. -/
namespace QubershipAirflow.Chart

open Helm

inductive Written where
  | toYaml (value : Json)
  | path (type value : Json)
  | requestRedirect

/-- A line with a key of a rule and what stands below it. `dash` begins an item, whose
other keys stand two columns further; `blanks` stand behind its last character. -/
structure RuleLine where
  indent : Nat
  dash : Bool
  key : String
  written : Written
  blanks : Bool

/-- The lines of one pass of the loop; `none` for an error of the template. -/
def renderRule : Json → Option RuleLine
  | .obj rule =>
      if truthy (field rule "matches") then
        some ⟨4, true, "matches", .toYaml (field rule "matches"), false⟩
      else match field rule "path" with
        | .obj path => some ⟨4, true, "matches",
            .path (default (.str "PathPrefix") (field path "type"))
              (default (.str "/") (field path "value")), false⟩
        | _ => none
  | _ => none

def endLoop : List RuleLine → List RuleLine
  | [] => []
  | [line] => [{ line with blanks := true }]
  | line :: lines => line :: endLoop lines

/-- The filters stand below the end of the loop. -/
def renderRules (rules : List Json) : Option (List RuleLine) := do
  let lines ← rules.mapM renderRule
  return endLoop lines ++ [⟨6, false, "filters", .requestRedirect, false⟩]

/-- What YAML reads where `toYaml` wrote a value in its place, and where a value stands as
plain text; `none` if the text no longer has this shape. -/
structure Yaml where
  block (blanks : Bool) (value : Json) : Option Json
  plain (blanks : Bool) (value : Json) : Option Json

def pathMatches (type value : Json) : Json :=
  .arr [.obj [("path", .obj [("type", type), ("value", value)])]]

def redirectFilters : Json :=
  .arr [.obj [("type", .str "RequestRedirect"),
    ("requestRedirect", .obj [("scheme", .str "https"), ("statusCode", .int 301)])]]

namespace Yaml

variable (yaml : Yaml)

def read (line : RuleLine) : Option Json :=
  match line.written with
  | .toYaml value => yaml.block line.blanks value
  | .path type value => do
      let type ← yaml.plain false type
      let value ← yaml.plain line.blanks value
      return pathMatches type value
  | .requestRedirect => some redirectFilters

/-- The next line of a sequence that stands at a column: a dash begins an item, and a key
below the first key of the last item is another key of that item. -/
def addLine (indent : Nat) (items : List Fields) (line : RuleLine) : Option (List Fields) := do
  let value ← yaml.read line
  if line.dash ∧ line.indent = indent then return items ++ [[(line.key, value)]]
  else if line.dash = false ∧ line.indent = indent + 2 then
    match items.getLast? with
    | some item => return items.dropLast ++ [item ++ [(line.key, value)]]
    | none => none
  else none

def readItems (indent : Nat) (lines : List RuleLine) : Option (List Fields) :=
  lines.foldlM (yaml.addLine indent) []

def redirectRules (rules : List Json) : Option (List Fields) := do
  yaml.readItems 4 (← renderRules rules)

end Yaml

/-! ## The route as configured -/

def fieldsOf : Json → Fields
  | .obj fields => fields
  | _ => []

def configuredMatches (rule : Json) : Json :=
  if truthy (field (fieldsOf rule) "matches") then field (fieldsOf rule) "matches"
  else pathMatches
    (default (.str "PathPrefix") (field (fieldsOf (field (fieldsOf rule) "path")) "type"))
    (default (.str "/") (field (fieldsOf (field (fieldsOf rule) "path")) "value"))

def configuredRule (rule : Json) : Fields :=
  [("matches", configuredMatches rule), ("filters", redirectFilters)]

/-- The element can be written, and YAML reads back what was written of it. -/
def Readable (yaml : Yaml) (rule : Json) : Prop :=
  ∃ fields, rule = .obj fields ∧
    if truthy (field fields "matches") then
      yaml.block true (field fields "matches") = some (field fields "matches")
    else ∃ path, field fields "path" = .obj path ∧
      yaml.plain false (default (.str "PathPrefix") (field path "type")) =
        some (default (.str "PathPrefix") (field path "type")) ∧
      yaml.plain true (default (.str "/") (field path "value")) =
        some (default (.str "/") (field path "value"))

section Reading

variable {yaml : Yaml} {rules : List Json} {result : List Fields}

def RuleLine.StartsRule (line : RuleLine) : Prop :=
  line.dash = true ∧ line.indent = 4 ∧ line.key = "matches"

theorem renderRule_starts {rule : Json} {line : RuleLine} (h : renderRule rule = some line) :
    line.StartsRule := by
  unfold renderRule at h
  split at h
  · split_ifs at h
    · cases h
      exact ⟨rfl, rfl, rfl⟩
    · split at h
      · cases h
        exact ⟨rfl, rfl, rfl⟩
      · cases h
  · cases h

theorem renderRule_starts_of_mapM {rules : List Json} {lines : List RuleLine}
    {line : RuleLine} (h : rules.mapM renderRule = some lines) (hline : line ∈ lines) :
    line.StartsRule := by
  obtain ⟨rule, -, hrule⟩ := Lists.exists_of_mem_mapM h hline
  exact renderRule_starts hrule

theorem endLoop_starts {lines : List RuleLine} (h : ∀ line ∈ lines, line.StartsRule) :
    ∀ line ∈ endLoop lines, line.StartsRule := by
  fun_induction endLoop lines with
  | case1 => exact h
  | case2 line =>
    intro marked hmarked
    rw [List.mem_singleton] at hmarked
    subst hmarked
    exact h line (List.mem_singleton.2 rfl)
  | case3 line lines hne ih =>
    intro other hother
    obtain rfl | hother := List.mem_cons.1 hother
    · exact h _ List.mem_cons_self
    · exact ih (fun line hline => h line (List.mem_cons_of_mem _ hline)) other hother

theorem endLoop_length (lines : List RuleLine) : (endLoop lines).length = lines.length := by
  fun_induction endLoop lines with
  | case1 => rfl
  | case2 line => rfl
  | case3 line lines hne ih => rw [List.length_cons, List.length_cons, ih]

theorem readItems_starts (yaml : Yaml) {lines : List RuleLine}
    (h : ∀ line ∈ lines, line.StartsRule) (items : List Fields) :
    lines.foldlM (yaml.addLine 4) items =
      (lines.mapM yaml.read).map fun values =>
        items ++ values.map fun value => [("matches", value)] := by
  induction lines generalizing items with
  | nil => simp
  | cons line lines ih =>
    obtain ⟨hdash, hindent, hkey⟩ := h line List.mem_cons_self
    rw [List.foldlM_cons, List.mapM_cons, Yaml.addLine]
    cases hread : yaml.read line with
    | none => rfl
    | some value =>
      have hrest := ih (fun line hline => h line (List.mem_cons_of_mem _ hline))
        (items ++ [[("matches", value)]])
      simp only [Option.bind_eq_bind, Option.bind_some, hdash, hindent, hkey, and_self, if_true,
        Option.pure_def, hrest]
      cases lines.mapM yaml.read with
      | none => rfl
      | some values => simp

/-- One item for each element, in order; the filters are in the last one only. -/
theorem redirectRules_eq_some (h : yaml.redirectRules rules = some result) (hne : rules ≠ []) :
    ∃ (earlier : List Json) (last : Json), earlier.length + 1 = rules.length ∧
      result = (earlier.map fun value => [("matches", value)]) ++
        [[("matches", last), ("filters", redirectFilters)]] := by
  rw [Yaml.redirectRules, Option.bind_eq_bind, Option.bind_eq_some_iff] at h
  obtain ⟨lines, hrender, hread⟩ := h
  rw [renderRules, Option.bind_eq_bind, Option.bind_eq_some_iff] at hrender
  obtain ⟨passes, hpasses, hlines⟩ := hrender
  cases hlines
  have hstarts : ∀ line ∈ endLoop passes, line.StartsRule :=
    endLoop_starts fun line hline => renderRule_starts_of_mapM hpasses hline
  rw [Yaml.readItems, List.foldlM_append, readItems_starts yaml hstarts, Option.bind_eq_bind,
    Option.bind_eq_some_iff] at hread
  obtain ⟨items, hitems, hread⟩ := hread
  obtain ⟨values, hvalues, rfl⟩ := Option.map_eq_some_iff.1 hitems
  have hlength : values.length = rules.length := by
    rw [← (Lists.forall₂_of_mapM hvalues).length_eq, endLoop_length,
      (Lists.forall₂_of_mapM hpasses).length_eq]
  obtain rfl | ⟨earlier, last, rfl⟩ := List.eq_nil_or_concat values
  · exact absurd (List.eq_nil_of_length_eq_zero hlength.symm) hne
  · rw [List.concat_eq_append] at hlength hread
    refine ⟨earlier, last, by simpa using hlength, ?_⟩
    simpa [Yaml.addLine, Yaml.read] using hread.symm

@[simp] theorem read_requestRedirect (indent : Nat) (dash : Bool) (key : String)
    (blanks : Bool) :
    yaml.read ⟨indent, dash, key, .requestRedirect, blanks⟩ = some redirectFilters := rfl

theorem redirectRules_singleton (rule : Json) :
    yaml.redirectRules [rule] =
      (renderRule rule).bind fun line =>
        (yaml.read { line with blanks := true }).map fun value =>
          [[("matches", value), ("filters", redirectFilters)]] := by
  rw [Yaml.redirectRules, renderRules, List.mapM_cons, List.mapM_nil]
  cases hline : renderRule rule with
  | none => rfl
  | some line =>
    obtain ⟨indent, dash, key, written, blanks⟩ := line
    obtain ⟨hdash, hindent, hkey⟩ := renderRule_starts hline
    dsimp only at hdash hindent hkey
    subst hdash hindent hkey
    cases hread : yaml.read ⟨4, true, "matches", written, true⟩ with
    | none => simp [endLoop, Yaml.readItems, Yaml.addLine, hread]
    | some value => simp [endLoop, Yaml.readItems, Yaml.addLine, hread]

theorem redirectRules_singleton_iff (rule : Json) :
    yaml.redirectRules [rule] = some [configuredRule rule] ↔ Readable yaml rule := by
  have hsame : ∀ found : Option Json,
      (found.map fun value => [[("matches", value), ("filters", redirectFilters)]]) =
        some [configuredRule rule] ↔ found = some (configuredMatches rule) := by
    intro found
    cases found <;> simp [configuredRule]
  rw [redirectRules_singleton]
  cases rule with
  | obj fields =>
    by_cases hmatches : truthy (field fields "matches") = true
    · have hrender : renderRule (.obj fields) =
          some ⟨4, true, "matches", .toYaml (field fields "matches"), false⟩ := if_pos hmatches
      rw [hrender, Option.bind_some, hsame]
      simp [Readable, configuredMatches, fieldsOf, hmatches, Yaml.read]
    · cases hpath : field fields "path" with
      | obj path =>
        have hrender : renderRule (.obj fields) = some ⟨4, true, "matches",
            .path (default (.str "PathPrefix") (field path "type"))
              (default (.str "/") (field path "value")), false⟩ := by
          simp [renderRule, hmatches, hpath]
        rw [hrender, Option.bind_some, hsame]
        simp [Readable, configuredMatches, fieldsOf, hmatches, hpath, Yaml.read, pathMatches,
          Option.bind_eq_some_iff]
      | _ => simp [renderRule, Readable, hmatches, hpath]
  | _ => simp [renderRule, Readable]

theorem rest_eq_nil {first : Json} {rest : List Json}
    (h : yaml.redirectRules (first :: rest) = some ((first :: rest).map configuredRule)) :
    rest = [] := by
  obtain ⟨earlier, last, hlength, hresult⟩ :=
    redirectRules_eq_some h (List.cons_ne_nil first rest)
  cases earlier with
  | nil => simpa using hlength
  | cons value earlier => simp [configuredRule] at hresult

/-- The route has the configured rules exactly when there is one element, and it can be
read back. -/
theorem redirectRules_iff (yaml : Yaml) (first : Json) (rest : List Json) :
    yaml.redirectRules (first :: rest) = some ((first :: rest).map configuredRule) ↔
      rest = [] ∧ Readable yaml first := by
  constructor
  · intro h
    obtain rfl := rest_eq_nil h
    exact ⟨rfl, (redirectRules_singleton_iff first).1 h⟩
  · rintro ⟨rfl, hreadable⟩
    exact (redirectRules_singleton_iff first).2 hreadable

end Reading

def verbatim : Yaml where
  block := fun _ value => some value
  plain := fun _ value => some value

def defaultRule : Json :=
  .obj [("path", .obj [("type", .str "PathPrefix"), ("value", .str "/")])]

/-- Two harmless rules: the first one redirects nothing. -/
theorem redirectRules_two :
    ¬ ∀ (yaml : Yaml) (first : Json) (rest : List Json),
      (∀ rule ∈ first :: rest, Readable yaml rule) →
      yaml.redirectRules (first :: rest) = some ((first :: rest).map configuredRule) := by
  intro hall
  have hreadable : Readable verbatim defaultRule :=
    ⟨_, rfl, by simp [field, truthy, verbatim]⟩
  have hboth : ∀ rule ∈ [defaultRule, defaultRule], Readable verbatim rule := by
    simp [hreadable]
  cases rest_eq_nil (hall verbatim defaultRule [defaultRule] hboth)

end QubershipAirflow.Chart
