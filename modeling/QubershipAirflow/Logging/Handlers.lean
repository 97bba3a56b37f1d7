import QubershipAirflow.Library.Json

/-! The log handlers of the platform's logging configuration: what `set_context` does to
their formats, call after call. -/
namespace QubershipAirflow.Logging

variable {TaskInstance Template : Type}

def templateMark : String := "\x7b\x7b"

/-- Airflow and its configuration. `render` takes the context of the task instance and
the template to a text; both may raise. -/
structure Airflow (TaskInstance Template : Type) where
  taskLogPrefixTemplate : String
  parseTemplateString : String → Option Template
  parse_isSome : ∀ text,
    (parseTemplateString text).isSome ↔ templateMark.toList <:+: text.toList
  raw : TaskInstance → Bool
  render : Template → TaskInstance → Except PyError String

/-- A handler of task logs: the format of its formatter, and the parsed template. -/
structure TaskHandler (Template : Type) where
  formatter : Option String
  prefixJinjaTemplate : Option Template

/-- A template that cannot be parsed is ignored, with a warning. -/
def Airflow.renderPrefix (airflow : Airflow TaskInstance Template)
    (handler : TaskHandler Template) (ti : TaskInstance) : Except PyError String :=
  match handler.prefixJinjaTemplate with
  | some template => airflow.render template ti
  | none => .ok ""

/-- The call, with what it leaves also where it raises. -/
def Airflow.setContext (airflow : Airflow TaskInstance Template)
    (handler : TaskHandler Template) (ti : TaskInstance) :
    Except PyError Unit × TaskHandler Template :=
  match handler.formatter with
  | none => (.ok (), handler)
  | some fmt =>
    if airflow.raw ti ∨ handler.prefixJinjaTemplate.isSome then (.ok (), handler)
    else if airflow.taskLogPrefixTemplate = "" then
      (.ok (), { handler with formatter := some ("" ++ ":" ++ fmt) })
    else
      -- The template stays also when it cannot be rendered.
      let handler := { handler with
        prefixJinjaTemplate := airflow.parseTemplateString airflow.taskLogPrefixTemplate }
      match airflow.renderPrefix handler ti with
      | .error err => (.error err, handler)
      | .ok rendered => (.ok (), { handler with formatter := some (rendered ++ ":" ++ fmt) })

def Airflow.setContexts (airflow : Airflow TaskInstance Template)
    (handler : TaskHandler Template) (calls : List TaskInstance) : TaskHandler Template :=
  calls.foldl (fun handler ti => (airflow.setContext handler ti).2) handler

def filenameFormat (fmt filename : String) : String :=
  "[DAG Processing filename=" ++ filename ++ "]" ++ fmt

def filenameFormats (fmt : String) (filenames : List String) : String :=
  filenames.foldl filenameFormat fmt

def Airflow.Renders (airflow : Airflow TaskInstance Template) (ti : TaskInstance)
    (rendered : String) : Prop :=
  match airflow.parseTemplateString airflow.taskLogPrefixTemplate with
  | some template => airflow.render template ti = .ok rendered
  | none => rendered = ""

def TaskHandler.fresh (fmt : String) : TaskHandler Template := ⟨some fmt, none⟩

section TaskHandlers

variable {airflow : Airflow TaskInstance Template} {handler : TaskHandler Template}
  {fmt : String} {ti : TaskInstance}

theorem setContext_of_template (h : handler.prefixJinjaTemplate.isSome) :
    (airflow.setContext handler ti).2 = handler := by
  rw [Airflow.setContext]
  cases hformatter : handler.formatter with
  | none => rfl
  | some fmt => simp only [h, or_true, if_true]

theorem setContexts_of_template (h : handler.prefixJinjaTemplate.isSome)
    (calls : List TaskInstance) : airflow.setContexts handler calls = handler := by
  induction calls with
  | nil => rfl
  | cons ti calls ih =>
    rw [Airflow.setContexts, List.foldl_cons, setContext_of_template h]
    exact ih

theorem empty_not_template (airflow : Airflow TaskInstance Template)
    (h : airflow.taskLogPrefixTemplate = "") :
    airflow.parseTemplateString airflow.taskLogPrefixTemplate = none := by
  rw [← Option.not_isSome_iff_eq_none, airflow.parse_isSome, h]
  decide

theorem setContext_plain (hraw : airflow.raw ti = false)
    (hplain : airflow.parseTemplateString airflow.taskLogPrefixTemplate = none) :
    (airflow.setContext (.fresh fmt) ti).2 = .fresh (":" ++ fmt) := by
  by_cases hempty : airflow.taskLogPrefixTemplate = ""
  · simp [Airflow.setContext, TaskHandler.fresh, hraw, hempty]
  · simp [Airflow.setContext, TaskHandler.fresh, hraw, hempty, hplain, Airflow.renderPrefix]

theorem setContexts_plain (fmt : String) (calls : List TaskInstance)
    (hraw : ∀ ti ∈ calls, airflow.raw ti = false)
    (hplain : airflow.parseTemplateString airflow.taskLogPrefixTemplate = none) :
    ∃ colons : String, colons.length = calls.length ∧
      airflow.setContexts (.fresh fmt) calls = .fresh (colons ++ fmt) := by
  induction calls generalizing fmt with
  | nil => exact ⟨"", rfl, by simp [Airflow.setContexts]⟩
  | cons ti calls ih =>
    obtain ⟨colons, hlength, hrun⟩ := ih (":" ++ fmt) fun other h =>
      hraw other (List.mem_cons_of_mem ti h)
    refine ⟨colons ++ ":", by rw [String.length_append, hlength]; rfl, ?_⟩
    rw [Airflow.setContexts, List.foldl_cons, setContext_plain (hraw ti List.mem_cons_self) hplain,
      ← Airflow.setContexts, hrun, String.append_assoc]

theorem setContext_template {template : Template} (hraw : airflow.raw ti = false)
    (htemplate : airflow.parseTemplateString airflow.taskLogPrefixTemplate = some template) :
    (airflow.setContext (.fresh fmt) ti).2 =
      match airflow.render template ti with
      | .ok rendered => ⟨some (rendered ++ ":" ++ fmt), some template⟩
      | .error _ => ⟨some fmt, some template⟩ := by
  have hempty : airflow.taskLogPrefixTemplate ≠ "" := by
    intro hempty
    rw [empty_not_template airflow hempty] at htemplate
    cases htemplate
  cases hrender : airflow.render template ti with
  | error err =>
    simp [Airflow.setContext, TaskHandler.fresh, hraw, hempty, htemplate, Airflow.renderPrefix,
      hrender]
  | ok rendered =>
    simp [Airflow.setContext, TaskHandler.fresh, hraw, hempty, htemplate, Airflow.renderPrefix,
      hrender]

theorem setContexts_template {template : Template} (hraw : airflow.raw ti = false)
    (htemplate : airflow.parseTemplateString airflow.taskLogPrefixTemplate = some template)
    (calls : List TaskInstance) :
    airflow.setContexts (.fresh fmt) (ti :: calls) =
      match airflow.render template ti with
      | .ok rendered => ⟨some (rendered ++ ":" ++ fmt), some template⟩
      | .error _ => ⟨some fmt, some template⟩ := by
  rw [Airflow.setContexts, List.foldl_cons, setContext_template hraw htemplate,
    ← Airflow.setContexts]
  cases airflow.render template ti with
  | error err => exact setContexts_of_template rfl calls
  | ok rendered => exact setContexts_of_template rfl calls

/-- The format has one prefix and one colon in front, exactly when a template is there and
can be rendered at the first call, or when there is none and no second call. -/
theorem setContexts_once_iff (fmt : String) (first : TaskInstance) (rest : List TaskInstance)
    (hraw : ∀ ti ∈ first :: rest, airflow.raw ti = false) :
    (∃ ti ∈ first :: rest, ∃ rendered, airflow.Renders ti rendered ∧
        (airflow.setContexts (.fresh fmt) (first :: rest)).formatter =
          some (rendered ++ ":" ++ fmt)) ↔
      (templateMark.toList <:+: airflow.taskLogPrefixTemplate.toList ∧
          ∃ rendered, airflow.Renders first rendered) ∨
        ¬ templateMark.toList <:+: airflow.taskLogPrefixTemplate.toList ∧ rest = [] := by
  have hfirst := hraw first List.mem_cons_self
  rw [← airflow.parse_isSome]
  cases htemplate : airflow.parseTemplateString airflow.taskLogPrefixTemplate with
  | none =>
    simp only [Airflow.Renders, htemplate, Option.isSome_none, Bool.false_eq_true, false_and,
      not_false_eq_true, true_and, false_or]
    constructor
    · rintro ⟨-, -, rendered, rfl, hformat⟩
      obtain ⟨colons, hlength, hrun⟩ := setContexts_plain fmt (first :: rest) hraw htemplate
      rw [hrun] at hformat
      have hsame := congrArg String.length (Option.some.inj hformat)
      simp only [String.length_append, List.length_cons, hlength] at hsame
      have hcolon : ("" : String).length + ":".length = 1 := rfl
      exact List.eq_nil_of_length_eq_zero (by omega)
    · rintro rfl
      refine ⟨first, List.mem_cons_self, "", rfl, ?_⟩
      rw [Airflow.setContexts, List.foldl_cons, setContext_plain hfirst htemplate]
      rfl
  | some template =>
    rw [setContexts_template hfirst htemplate]
    simp only [Airflow.Renders, htemplate, Option.isSome_some, true_and, not_true_eq_false,
      false_and, or_false]
    cases hrender : airflow.render template first with
    | error err =>
      refine iff_of_false ?_ (by simp)
      rintro ⟨-, -, rendered, -, hformat⟩
      have hsame := congrArg String.length (Option.some.inj hformat)
      simp only [String.length_append] at hsame
      have hcolon : ":".length = 1 := rfl
      omega
    | ok rendered =>
      exact iff_of_true ⟨first, List.mem_cons_self, rendered, hrender, rfl⟩ ⟨rendered, rfl⟩

end TaskHandlers

/-! ## The handler of the DAG processor -/

theorem filenameFormats_length (fmt : String) (filenames : List String) :
    fmt.length + filenames.length ≤ (filenameFormats fmt filenames).length := by
  induction filenames generalizing fmt with
  | nil => exact Nat.le_refl _
  | cons filename filenames ih =>
    have hrest := ih (filenameFormat fmt filename)
    obtain ⟨opened, hformat⟩ : ∃ opened : String,
        filenameFormat fmt filename = opened ++ "]" ++ fmt := ⟨_, rfl⟩
    have hclose : "]".length = 1 := by decide
    rw [hformat, String.length_append, String.length_append, hclose] at hrest
    rw [filenameFormats, List.foldl_cons, ← filenameFormats, List.length_cons, hformat]
    omega

/-- Earlier prefixes stay below the last one. -/
theorem filenameFormats_once_iff (fmt : String) (filenames : List String) :
    (∀ last ∈ filenames.getLast?, filenameFormats fmt filenames = filenameFormat fmt last) ↔
      filenames.length ≤ 1 := by
  obtain rfl | ⟨earlier, last, rfl⟩ := List.eq_nil_or_concat filenames
  · simp
  · rw [List.concat_eq_append]
    have hlast : filenameFormats fmt (earlier ++ [last]) =
        filenameFormat (filenameFormats fmt earlier) last := by
      rw [filenameFormats, List.foldl_append]
      rfl
    have hcancel : filenameFormat (filenameFormats fmt earlier) last = filenameFormat fmt last ↔
        filenameFormats fmt earlier = fmt := String.append_right_inj _
    simp only [List.getLast?_append, List.getLast?_singleton, Option.some_or, Option.mem_def,
      Option.some.injEq, forall_eq', hlast, hcancel, List.length_append, List.length_singleton]
    constructor
    · intro hsame
      have hlength := filenameFormats_length fmt earlier
      rw [hsame] at hlength
      omega
    · intro hshort
      rw [List.eq_nil_of_length_eq_zero (by omega : earlier.length = 0)]
      rfl

/-- Both handlers carry one prefix exactly when the first call settles it. -/
theorem one_prefix_iff (airflow : Airflow TaskInstance Template) (fmt : String)
    (first : TaskInstance) (rest : List TaskInstance)
    (hraw : ∀ ti ∈ first :: rest, airflow.raw ti = false) (filenames : List String) :
    ((∃ ti ∈ first :: rest, ∃ rendered, airflow.Renders ti rendered ∧
        (airflow.setContexts (.fresh fmt) (first :: rest)).formatter =
          some (rendered ++ ":" ++ fmt)) ↔
      (templateMark.toList <:+: airflow.taskLogPrefixTemplate.toList ∧
          ∃ rendered, airflow.Renders first rendered) ∨
        ¬ templateMark.toList <:+: airflow.taskLogPrefixTemplate.toList ∧ rest = []) ∧
      ((∀ last ∈ filenames.getLast?,
          filenameFormats fmt filenames = filenameFormat fmt last) ↔
        filenames.length ≤ 1) :=
  ⟨setContexts_once_iff fmt first rest hraw, filenameFormats_once_iff fmt filenames⟩

def namingAirflow (taskLogPrefixTemplate : String) : Airflow String String where
  taskLogPrefixTemplate := taskLogPrefixTemplate
  parseTemplateString := fun text =>
    if templateMark.toList <:+: text.toList then some text else none
  parse_isSome := by
    intro text
    by_cases h : templateMark.toList <:+: text.toList
    · rw [if_pos h]
      exact iff_of_true rfl h
    · rw [if_neg h]
      exact iff_of_false Bool.false_ne_true h
  raw := fun _ => false
  render := fun _ ti => .ok ti

theorem namingAirflow_renders {text : String} (h : templateMark.toList <:+: text.toList)
    (ti : String) : (namingAirflow text).Renders ti ti := by
  have hparse : (namingAirflow text).parseTemplateString
      (namingAirflow text).taskLogPrefixTemplate = some text := if_pos h
  rw [Airflow.Renders, hparse]
  rfl

theorem one_prefix_namingAirflow :
    (∃ ti ∈ ["load", "load"], ∃ rendered,
        (namingAirflow "\x7b\x7bti.task_id\x7d\x7d").Renders ti rendered ∧
        ((namingAirflow "\x7b\x7bti.task_id\x7d\x7d").setContexts (.fresh "%(message)s")
          ["load", "load"]).formatter = some (rendered ++ ":" ++ "%(message)s")) ∧
      ∀ last ∈ ["dag.py"].getLast?,
        filenameFormats "%(message)s" ["dag.py"] = filenameFormat "%(message)s" last := by
  have hmarked : templateMark.toList <:+: "\x7b\x7bti.task_id\x7d\x7d".toList := by decide
  obtain ⟨htask, hfile⟩ := one_prefix_iff (namingAirflow "\x7b\x7bti.task_id\x7d\x7d")
    "%(message)s" "load" ["load"] (fun _ _ => rfl) ["dag.py"]
  exact ⟨htask.2 (.inl ⟨hmarked, "load", namingAirflow_renders hmarked "load"⟩),
    hfile.2 (Nat.le_refl 1)⟩

/-- Two tasks in one process without a template begin the format with two colons, and two
DAG files with two filenames. -/
theorem two_prefixes :
    (¬ ∀ (airflow : Airflow String String) (fmt first : String) (rest : List String),
      (∀ ti ∈ first :: rest, airflow.raw ti = false) →
      ∃ ti ∈ first :: rest, ∃ rendered, airflow.Renders ti rendered ∧
        (airflow.setContexts (.fresh fmt) (first :: rest)).formatter =
          some (rendered ++ ":" ++ fmt)) ∧
      ¬ ∀ (fmt : String) (filenames : List String), ∀ last ∈ filenames.getLast?,
        filenameFormats fmt filenames = filenameFormat fmt last := by
  constructor
  · intro hone
    have hempty : ¬ templateMark.toList <:+: (namingAirflow "").taskLogPrefixTemplate.toList := by
      decide
    obtain ⟨hmarked, -⟩ | ⟨-, hrest⟩ := (setContexts_once_iff "%(message)s" "load" ["load"]
      (fun _ _ => rfl)).1 (hone (namingAirflow "") "%(message)s" "load" ["load"] fun _ _ => rfl)
    · exact hempty hmarked
    · cases hrest
  · intro hone
    have hlength := (filenameFormats_once_iff "%(message)s" ["a.py", "b.py"]).1 (hone _ _)
    exact absurd hlength (by decide)

end QubershipAirflow.Logging
