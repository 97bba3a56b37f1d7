import QubershipAirflow.Library.JsonEquality
import QubershipAirflow.Library.JsonLocations

/-! The schema of the chart's own parameters, made of the community schema and the
chart's values. The code follows references to dicts and writes into them; here a dict is
named by its place in the schema, so every read sees the writes before it. -/
namespace QubershipAirflow.Schema

abbrev Place := List String

def splitAt (separator : Char) (text : List Char) : List String :=
  (text.splitOn separator).map String.ofList

/-- `values_param.split(".")` -/
def pathOf (valuesParam : String) : List String := splitAt '.' valuesParam.toList

def removeFirst (part : List Char) : List Char → List Char
  | [] => []
  | c :: rest =>
      if part <+: c :: rest then (c :: rest).drop part.length else c :: removeFirst part rest

/-- `ref.replace("#/", "", 1).split("/")` -/
def refPath : Json → Except PyError Place
  | .str ref => .ok (splitAt '/' (removeFirst "#/".toList ref.toList))
  | _ => .error .attributeError

section Reuse

def globalParamsToKeep : List String := ["$schema", "description", "type", "definitions"]

def hasProperty (element : Json) (key : String) : Except PyError Bool := do
  if ← element.contains "properties" then (← element.getItem "properties").contains key
  else return false

def property (element : Json) (key : String) : Except PyError Json := do
  (← element.getItem "properties").getItem key

/-- The keys of a definition that the copy does not have, in its place of a reference. -/
def inlineReference (communitySchema copied : Json) : Except PyError Json := do
  if (← copied.contains "$ref") && !(← copied.contains "properties") then
    let refDef ← communitySchema.read (← refPath (← copied.getItem "$ref"))
    match copied, refDef with
    | .obj fields, .obj defined =>
        return .obj (defined.foldl
          (fun copied field =>
            if field.1 ∈ copied.map Prod.fst then copied else copied ++ [field])
          (fields.filter fun field => field.1 ≠ "$ref"))
    | _, _ => throw .attributeError
  else return copied

def reuseParam (communitySchema : Json) :
    List String → Place → Json → Json → Except PyError Json
  | [], _, _, customized => .ok customized
  | valuesParam :: rest, current, communityElement, customized => do
      let element ← customized.read current
      if ← hasProperty element valuesParam then
        let _ ← property element valuesParam
        let communityElement ← property communityElement valuesParam
        reuseParam communitySchema rest (current ++ ["properties", valuesParam])
          communityElement customized
      else if rest.isEmpty then
        let copied ← inlineReference communitySchema (← property communityElement valuesParam)
        customized.assign (current ++ ["properties"]) valuesParam copied
      else
        let communityElement ← property communityElement valuesParam
        let customized ← customized.assign (current ++ ["properties"]) valuesParam
          communityElement
        let current := current ++ ["properties", valuesParam]
        let customized ← customized.assign current "properties" (.obj [])
        let customized ←
          if ← (← customized.read current).contains "additionalProperties" then
            customized.assign current "additionalProperties" (.bool true)
          else pure customized
        reuseParam communitySchema rest current communityElement customized

def reuseExistingParams (communitySchema : Json) (valuesParamsToKeep : List String) :
    Except PyError Json := do
  let globals ← globalParamsToKeep.mapM fun globalParam => do
    return (globalParam, ← communitySchema.getItem globalParam)
  valuesParamsToKeep.foldlM
    (fun customized valuesParam =>
      reuseParam communitySchema (pathOf valuesParam) [] communitySchema customized)
    (.obj (globals ++ [("properties", .obj [])]))

end Reuse

section Update

/-- What one key of the values comes to: a schema in which its default is settled, or an
element below which to go on. -/
inductive Outcome where
  | settled (schema : Json)
  | below (child : Place)

/-- The properties of an element, its own or those of its reference; the flag tells which. -/
def elementProperties (schema : Json) (current : Place) : Except PyError (Place × Bool) := do
  let element ← schema.read current
  if ← element.contains "properties" then return (current ++ ["properties"], false)
  else return ((← refPath (← element.getItem "$ref")) ++ ["properties"], true)

def compareKey (schema : Json) (current : Place) (key : String) (value : Json) :
    Except PyError Outcome := do
  let (properties, shared) ← elementProperties schema current
  if !(← (← schema.read properties).contains key) then return .settled schema
  else
  let child := properties ++ [key]
  let element ← schema.read child
  if ← element.contains "default" then
    if value.pyEq (← element.getItem "default") then return .settled schema
    else if shared then
      throw (.valueError
        "Updating in refs is not supported since it might affect Airflow defaults")
    else return .settled (← schema.assign child "default" value)
  else return .below child

mutual

def compareComplexElement : Json → Place → Json → Except PyError Json
  | .obj valuesDefault, current, schema => compareItems valuesDefault current schema
  | _, _, _ => .error .attributeError

/-- `for key, value in values_default.items()` -/
def compareItems : List (String × Json) → Place → Json → Except PyError Json
  | [], _, schema => .ok schema
  | (key, value) :: rest, current, schema => do
      match ← compareKey schema current key value with
      | .settled schema => compareItems rest current schema
      | .below child =>
          let schema ← compareComplexElement value child schema
          compareItems rest current schema

end

def paramPlace (valuesParam : String) : Place :=
  (pathOf valuesParam).flatMap fun component => ["properties", component]

def updateParam (valuesData schema : Json) (valuesParam : String) : Except PyError Json := do
  let current := paramPlace valuesParam
  let element ← schema.read current
  let valuesDefault ← valuesData.read (pathOf valuesParam)
  if ← element.contains "default" then
    if valuesDefault.pyEq (← element.getItem "default") then return schema
    else schema.assign current "default" valuesDefault
  else compareComplexElement valuesDefault current schema

def updateDefaultsForExistingSchema (valuesData : Json) (valuesParamsToKeep : List String)
    (schema : Json) : Except PyError Json :=
  valuesParamsToKeep.foldlM (updateParam valuesData) schema

end Update

end QubershipAirflow.Schema
