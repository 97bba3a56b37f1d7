import QubershipAirflow.Schema.DefaultsMatch

/-! The schemas that an update passes through. Python changes the schema in place: what was
written before an exception stays written. -/
namespace QubershipAirflow.Schema

open Json Settling
open PyError (bind_ok_iff)

section Traces

structure Trace where
  schemas : List Json
  result : Except PyError Json

/-- A single assignment at most. -/
def Trace.step (schema : Json) : Except PyError Json → Trace
  | .ok schema' => ⟨[schema, schema'], .ok schema'⟩
  | .error err => ⟨[schema], .error err⟩

def Trace.andThen (first : Trace) (next : Json → Trace) : Trace :=
  match first.result with
  | .ok schema => ⟨first.schemas ++ (next schema).schemas, (next schema).result⟩
  | .error _ => first

mutual

def traceComplexElement : Json → Place → Json → Trace
  | .obj valuesDefault, current, schema => traceItems valuesDefault current schema
  | _, _, schema => .step schema (.error .attributeError)

def traceItems : List (String × Json) → Place → Json → Trace
  | [], _, schema => .step schema (.ok schema)
  | (key, value) :: rest, current, schema =>
      match compareKey schema current key value with
      | .ok (.settled schema') =>
          (Trace.step schema (.ok schema')).andThen (traceItems rest current)
      | .ok (.below child) =>
          (traceComplexElement value child schema).andThen (traceItems rest current)
      | .error err => .step schema (.error err)

end

/-- A kept parameter with a default is settled at once. -/
def traceParam (valuesData : Json) (valuesParam : String) (schema : Json) : Trace :=
  match schema.at? (paramPlace valuesParam), valuesData.at? (pathOf valuesParam) with
  | some element, some valuesDefault => match element.contains "default" with
      | .ok false => traceComplexElement valuesDefault (paramPlace valuesParam) schema
      | _ => .step schema (updateParam valuesData schema valuesParam)
  | _, _ => .step schema (updateParam valuesData schema valuesParam)

def traceUpdate (valuesData : Json) : List String → Json → Trace
  | [], schema => .step schema (.ok schema)
  | valuesParam :: rest, schema =>
      (traceParam valuesData valuesParam schema).andThen (traceUpdate valuesData rest)

variable {first : Trace} {next : Json → Trace}

@[simp] theorem Trace.step_result (schema : Json) (result : Except PyError Json) :
    (step schema result).result = result := by
  cases result <;> rfl

theorem Trace.andThen_result : (first.andThen next).result =
    first.result.bind fun schema => (next schema).result := by
  unfold andThen
  cases hresult : first.result with
  | error err => simp [hresult, Except.bind]
  | ok schema => simp [Except.bind]

mutual

theorem traceComplexElement_result : ∀ (value : Json) (place : Place) (schema : Json),
    (traceComplexElement value place schema).result = compareComplexElement value place schema
  | .obj fields, place, schema => traceItems_result fields place schema
  | .null, _, _ | .bool _, _, _ | .int _, _, _ | .float _, _, _ | .str _, _, _
  | .arr _, _, _ => rfl

theorem traceItems_result : ∀ (fields : List (String × Json)) (place : Place) (schema : Json),
    (traceItems fields place schema).result = compareItems fields place schema
  | [], _, _ => rfl
  | (key, value) :: rest, place, schema => by
      rw [traceItems, compareItems]
      cases hkey : compareKey schema place key value with
      | error err => rfl
      | ok outcome =>
          cases outcome with
          | settled schema' =>
              dsimp only
              rw [Trace.andThen_result, Trace.step_result]
              exact traceItems_result rest place schema'
          | below child =>
              dsimp only
              rw [Trace.andThen_result, traceComplexElement_result value child schema]
              exact congrArg _ (funext fun schema' => traceItems_result rest place schema')

end

theorem traceUpdate_result (valuesData : Json) (kept : List String) (schema : Json) :
    (traceUpdate valuesData kept schema).result =
      updateDefaultsForExistingSchema valuesData kept schema := by
  have hparam : ∀ valuesParam schema, (traceParam valuesData valuesParam schema).result =
      updateParam valuesData schema valuesParam := by
    intro valuesParam schema
    unfold traceParam
    split
    · rename_i element value helement hvalue
      split
      · rename_i hcontains
        rw [← read_eq_ok_iff] at helement hvalue
        rw [traceComplexElement_result]
        simp [updateParam, helement, hvalue, hcontains, bind, Except.bind]
      · exact Trace.step_result ..
    · exact Trace.step_result ..
  induction kept generalizing schema with
  | nil => rfl
  | cons valuesParam rest ih =>
      rw [traceUpdate, Trace.andThen_result, hparam, updateDefaultsForExistingSchema,
        List.foldlM_cons]
      exact congrArg _ (funext ih)

end Traces

end QubershipAirflow.Schema
