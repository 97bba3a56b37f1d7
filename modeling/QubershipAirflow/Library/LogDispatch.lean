import Mathlib.Data.List.Basic

/-! How a tree of loggers hands on a record. A record that its logger lets through goes to
the handlers of that logger and of the loggers above it, as long as these propagate. Filters
change the record in place: a handler sees what the filters before it have made of it. -/
namespace LogDispatch

/-- Whether the record goes on, and what has become of it. -/
abbrev LogFilter (Record : Type) := Record → Bool × Record

structure Handler (Name Record : Type) where
  name : Name
  wants : Record → Bool
  filters : List (LogFilter Record)

structure Logger (Name Record : Type) where
  handlers : List (Handler Name Record)
  propagate : Bool

variable {Name Record : Type}

/-- The first filter that refuses the record ends the round. -/
def runFilters : List (LogFilter Record) → LogFilter Record
  | [], record => (true, record)
  | filter :: rest, record =>
      let seen := filter record
      if seen.1 then runFilters rest seen.2 else seen

/-- What a handler writes, and what it leaves to the next one. -/
def Handler.handle (handler : Handler Name Record) (record : Record) :
    List (Name × Record) × Record :=
  if handler.wants record then
    (if (runFilters handler.filters record).1 then
      [(handler.name, (runFilters handler.filters record).2)] else [],
      (runFilters handler.filters record).2)
  else ([], record)

def handleAll : List (Handler Name Record) → Record → List (Name × Record) × Record
  | [], record => ([], record)
  | handler :: rest, record =>
      let first := handler.handle record
      let others := handleAll rest first.2
      (first.1 ++ others.1, others.2)

def callHandlers : List (Logger Name Record) → Record → List (Name × Record)
  | [], _ => []
  | logger :: above, record =>
      let here := handleAll logger.handlers record
      here.1 ++ if logger.propagate then callHandlers above here.2 else []

def log (own : List (LogFilter Record)) (chain : List (Logger Name Record)) (record : Record) :
    List (Name × Record) :=
  let seen := runFilters own record
  if seen.1 then callHandlers chain seen.2 else []

section Records

variable {P : Record → Prop} {chain above : List (Logger Name Record)}
  {handlers : List (Handler Name Record)} {handler : Handler Name Record} {record : Record}
  {written : Name × Record}

/-- Whatever passes these filters has the property. -/
def Brings (P : Record → Prop) (filters : List (LogFilter Record)) : Prop :=
  ∀ record, (runFilters filters record).1 = true → P (runFilters filters record).2

theorem Brings.handle (h : Brings P handler.filters) (hmem : written ∈ (handler.handle record).1) :
    P written.2 := by
  rw [Handler.handle] at hmem
  split_ifs at hmem with hwants hpasses
  · simp only [List.mem_singleton] at hmem
    subst hmem
    exact h record hpasses
  · cases hmem
  · cases hmem

theorem handleAll_brings (h : ∀ handler ∈ handlers, Brings P handler.filters)
    (hmem : written ∈ (handleAll handlers record).1) : P written.2 := by
  induction handlers generalizing record with
  | nil => cases hmem
  | cons handler rest ih =>
    rw [handleAll, List.mem_append] at hmem
    obtain hfirst | hrest := hmem
    · exact (h handler List.mem_cons_self).handle hfirst
    · exact ih (fun other hother => h other (List.mem_cons_of_mem _ hother)) hrest

theorem callHandlers_brings
    (h : ∀ logger ∈ chain, ∀ handler ∈ logger.handlers, Brings P handler.filters)
    (hmem : written ∈ callHandlers chain record) : P written.2 := by
  induction chain generalizing record with
  | nil => cases hmem
  | cons logger above ih =>
    rw [callHandlers, List.mem_append] at hmem
    obtain hhere | habove := hmem
    · exact handleAll_brings (h logger List.mem_cons_self) hhere
    · split_ifs at habove with hpropagate
      · exact ih (fun other hother => h other (List.mem_cons_of_mem _ hother)) habove
      · cases habove

theorem log_brings {own : List (LogFilter Record)}
    (h : ∀ logger ∈ chain, ∀ handler ∈ logger.handlers, Brings P handler.filters)
    (hmem : written ∈ log own chain record) : P written.2 := by
  rw [log] at hmem
  split_ifs at hmem with hpasses
  · exact callHandlers_brings h hmem
  · cases hmem

theorem callHandlers_first {rest : List (Handler Name Record)} {propagate : Bool}
    (hwants : handler.wants record = true)
    (hpasses : (runFilters handler.filters record).1 = true) :
    (handler.name, (runFilters handler.filters record).2) ∈
      callHandlers (⟨handler :: rest, propagate⟩ :: above) record := by
  have hhandle : (handler.handle record).1 =
      [(handler.name, (runFilters handler.filters record).2)] := by
    rw [Handler.handle, if_pos hwants]
    exact if_pos hpasses
  rw [callHandlers, handleAll, hhandle]
  simp

end Records

end LogDispatch
