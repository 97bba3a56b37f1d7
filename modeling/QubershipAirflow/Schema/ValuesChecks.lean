import QubershipAirflow.Schema.Generation

/-! The two checks of the chart's values against the additional schema: the schema's
properties are present, and the defaults it declares are the values. -/
namespace QubershipAirflow.Schema

open Json
open PyError (bind_ok_iff)

section Checks

mutual

/-- `schema["properties"]`, and its items one after another. -/
def validatePropertiesInDefaults (values : Json) : Json → String → Except PyError Unit
  | .obj fields, paramPath => validatePropertiesOf values fields paramPath
  | _, _ => .error .typeError

def validatePropertiesOf (values : Json) :
    List (String × Json) → String → Except PyError Unit
  | [], _ => .error (.keyError "properties")
  | (name, .obj properties) :: rest, paramPath =>
      if name = "properties" then validateProperties values properties paramPath
      else validatePropertiesOf values rest paramPath
  | (name, _) :: rest, paramPath =>
      if name = "properties" then .error .attributeError
      else validatePropertiesOf values rest paramPath

/-- `for key, value in schema["properties"].items()` -/
def validateProperties (values : Json) : List (String × Json) → String → Except PyError Unit
  | [], _ => .ok ()
  | (key, value) :: rest, paramPath => do
      if !(← values.contains key) then
        throw (.valueError (paramPath ++ key ++ " is not present in values!"))
      else if ← value.contains "properties" then
        validatePropertiesInDefaults (← values.getItem key) value (paramPath ++ key ++ ".")
        validateProperties values rest paramPath
      else validateProperties values rest paramPath

end

mutual

def validateDefaults : Json → Json → String → Except PyError Unit
  | .obj values, schema, paramPath => validateDefaultItems values schema paramPath
  | _, _, _ => .error .attributeError

/-- `for key, value in values.items()` -/
def validateDefaultItems : List (String × Json) → Json → String → Except PyError Unit
  | [], _, _ => .ok ()
  | (key, value) :: rest, schema, paramPath => do
      let properties ← schema.getItem "properties"
      if ← properties.contains key then
        let element ← properties.getItem key
        if ← element.contains "default" then
          if !((← element.getItem "default").pyEq value) then
            throw (.valueError (paramPath ++ key ++ " is different!"))
          else validateDefaultItems rest schema paramPath
        else
          validateDefaults value element (paramPath ++ key ++ ".")
          validateDefaultItems rest schema paramPath
      else validateDefaultItems rest schema paramPath

end

end Checks

/-- The node of a property path, by `properties` and the key at each step. -/
def nodePlace (path : List String) : Place := path.flatMap fun key => ["properties", key]

@[simp] theorem nodePlace_cons (key : String) (path : List String) :
    nodePlace (key :: path) = "properties" :: key :: nodePlace path := rfl

theorem nodePlace_append (path rest : List String) :
    nodePlace (path ++ rest) = nodePlace path ++ nodePlace rest := List.flatMap_append

theorem at?_nodePlace_cons (schema : Json) (key : String) (path : List String) :
    schema.at? (nodePlace (key :: path)) =
      (schema.at? ["properties", key]).bind fun node => node.at? (nodePlace path) := by
  have happend : nodePlace (key :: path) = ["properties", key] ++ nodePlace path := rfl
  rw [happend, at?_append]

/-- The values have every property below the schema, and where one declares a default its
value is this default. -/
def Covers (values schema : Json) : Prop :=
  ∀ key path node, schema.at? (nodePlace (key :: path)) = some node →
    ∃ value, values.at? (key :: path) = some value ∧
      ∀ default, node.at? ["default"] = some default → value.pyEq default = true

/-- A default has the properties that are declared below it, with their defaults. -/
def DefaultsConsistent (schema : Json) : Prop :=
  ∀ key path node default, schema.at? (nodePlace (key :: path)) = some node →
    node.at? ["default"] = some default → Covers default node

/-- Both checks pass, under whatever names they print. -/
def PassesChecks (values schema : Json) : Prop :=
  (∃ paramPath, validatePropertiesInDefaults values schema paramPath = .ok ()) ∧
    ∃ paramPath, validateDefaults values schema paramPath = .ok ()

section Soundness

variable {values schema value node found : Json} {key paramPath : String}
  {fields schemaFields properties : List (String × Json)}

theorem validatePropertiesOf_ok (h : validatePropertiesOf values fields paramPath = .ok ()) :
    ∃ properties, fields.lookup "properties" = some (.obj properties) ∧
      validateProperties values properties paramPath = .ok () := by
  induction fields with
  | nil => cases h
  | cons field rest ih =>
      obtain ⟨name, value⟩ := field
      rw [lookup_entry]
      by_cases hname : name = "properties"
      · rw [if_pos hname.symm]
        cases value with
        | obj properties =>
            rw [validatePropertiesOf, if_pos hname] at h
            exact ⟨properties, rfl, h⟩
        | _ =>
            rw [validatePropertiesOf, if_pos hname] at h
            · cases h
            · simp
      · rw [if_neg (Ne.symm hname)]
        cases value with
        | _ =>
            rw [validatePropertiesOf, if_neg hname] at h
            · exact ih h
            all_goals simp

theorem validateProperties_item
    (h : validateProperties values properties paramPath = .ok ())
    (hitem : (key, node) ∈ properties) :
    values.contains key = .ok true ∧ ∃ nested, node.contains "properties" = .ok nested ∧
      (nested = true → ∃ value, values.getItem key = .ok value ∧
        ∃ paramPath, validatePropertiesInDefaults value node paramPath = .ok ()) := by
  induction properties with
  | nil => cases hitem
  | cons field rest ih =>
      obtain ⟨name, element⟩ := field
      rw [validateProperties] at h
      obtain ⟨contained, hcontained, h⟩ := bind_ok_iff.mp h
      cases contained with
      | false => cases h
      | true =>
          obtain ⟨nested, hnested, h⟩ := bind_ok_iff.mp h
          rcases List.mem_cons.mp hitem with hhead | htail
          · cases hhead
            refine ⟨hcontained, nested, hnested, ?_⟩
            rintro rfl
            obtain ⟨value, hvalue, h⟩ := bind_ok_iff.mp h
            obtain ⟨_, hbelow, -⟩ := bind_ok_iff.mp h
            exact ⟨value, hvalue, _, hbelow⟩
          · cases nested with
            | false => exact ih h htail
            | true =>
                obtain ⟨_, -, h⟩ := bind_ok_iff.mp h
                obtain ⟨_, -, h⟩ := bind_ok_iff.mp h
                exact ih h htail

theorem validateDefaultItems_item
    (h : validateDefaultItems fields (.obj schemaFields) paramPath = .ok ())
    (hproperties : schemaFields.lookup "properties" = some (.obj properties))
    (hitem : (key, value) ∈ fields) (hnode : properties.lookup key = some node) :
    ∃ declared, node.contains "default" = .ok declared ∧
      (declared = true → ∃ default, node.getItem "default" = .ok default ∧
        value.pyEq default = true) ∧
      (declared = false → ∃ paramPath, validateDefaults value node paramPath = .ok ()) := by
  induction fields with
  | nil => cases hitem
  | cons field rest ih =>
      obtain ⟨name, found⟩ := field
      rw [validateDefaultItems] at h
      obtain ⟨_, hfound, h⟩ := bind_ok_iff.mp h
      obtain ⟨_, hfields, hlookup⟩ := getItem_eq_ok_iff.mp hfound
      cases hfields
      rw [hproperties] at hlookup
      cases hlookup
      obtain ⟨contained, hcontained, h⟩ := bind_ok_iff.mp h
      cases contained with
      | false =>
          rcases List.mem_cons.mp hitem with hhead | htail
          · cases hhead
            simp [contains, hnode] at hcontained
          · exact ih h htail
      | true =>
          obtain ⟨element, helement, h⟩ := bind_ok_iff.mp h
          obtain ⟨declared, hdeclared, h⟩ := bind_ok_iff.mp h
          rcases List.mem_cons.mp hitem with hhead | htail
          · cases hhead
            obtain ⟨_, hfields, hlookup⟩ := getItem_eq_ok_iff.mp helement
            cases hfields
            rw [hnode] at hlookup
            cases hlookup
            refine ⟨declared, hdeclared, ?_, ?_⟩
            · rintro rfl
              obtain ⟨default, hdefault, h⟩ := bind_ok_iff.mp h
              refine ⟨default, hdefault, ?_⟩
              by_contra hdifferent
              have hsame : default.pyEq value = false := by
                by_contra hsame
                exact hdifferent (pyEq_symm (by simpa using hsame))
              rw [hsame] at h
              cases h
            · rintro rfl
              obtain ⟨_, hbelow, -⟩ := bind_ok_iff.mp h
              exact ⟨_, hbelow⟩
          · cases declared with
            | true =>
                obtain ⟨default, hdefault, h⟩ := bind_ok_iff.mp h
                cases hsame : default.pyEq found with
                | false =>
                    rw [hsame] at h
                    cases h
                | true =>
                    rw [hsame] at h
                    exact ih h htail
            | false =>
                obtain ⟨_, -, h⟩ := bind_ok_iff.mp h
                exact ih h htail

/-- Where the checks pass, a property has a value; this is its default, or the checks pass
for it again. -/
theorem PassesChecks.property (h : PassesChecks values schema)
    (hnode : schema.at? ["properties", key] = some node) :
    ∃ value, values.at? [key] = some value ∧
      ((∃ default, node.at? ["default"] = some default ∧ value.pyEq default = true) ∨
        node.at? ["default"] = none ∧
          ((node.at? ["properties"]).isSome → PassesChecks value node)) := by
  obtain ⟨⟨paramPath, hpresent⟩, defaultPath, hdefaults⟩ := h
  obtain ⟨schemaFields, rfl⟩ : ∃ schemaFields, schema = .obj schemaFields := by
    cases schema with
    | obj schemaFields => exact ⟨schemaFields, rfl⟩
    | _ => simp [at?] at hnode
  obtain ⟨fields, rfl⟩ : ∃ fields, values = .obj fields := by
    cases values with
    | obj fields => exact ⟨fields, rfl⟩
    | _ => cases hdefaults
  rw [validatePropertiesInDefaults] at hpresent
  rw [validateDefaults] at hdefaults
  obtain ⟨properties, hproperties, hpresent⟩ := validatePropertiesOf_ok hpresent
  have hlookup : properties.lookup key = some node := by
    rw [at?_obj_cons, hproperties, Option.bind_some, at?_obj_cons] at hnode
    simpa [at?] using hnode
  obtain ⟨hcontains, nested, hnested, hbelow⟩ :=
    validateProperties_item hpresent (mem_of_lookup hlookup)
  obtain ⟨value, hvalue⟩ : ∃ value, fields.lookup key = some value := by
    simpa [contains, Option.isSome_iff_exists] using hcontains
  obtain ⟨declared, hdeclared, hdefault, hundeclared⟩ :=
    validateDefaultItems_item hdefaults hproperties (mem_of_lookup hvalue) hlookup
  refine ⟨value, by simp [at?, hvalue], ?_⟩
  cases declared with
  | true =>
      obtain ⟨default, hitem, hsame⟩ := hdefault rfl
      exact .inl ⟨default, at?_key_eq_some_iff.mpr hitem, hsame⟩
  | false =>
      refine .inr ⟨at?_key_of_not_contains hdeclared, fun hsome => ?_⟩
      cases nested with
      | false =>
          rw [at?_key_of_not_contains hnested] at hsome
          cases hsome
      | true =>
          obtain ⟨found, hfound, hpath⟩ := hbelow rfl
          rw [getItem, hvalue] at hfound
          cases hfound
          exact ⟨hpath, hundeclared rfl⟩

theorem Covers.congr (h : Covers found node) (hsame : value.pyEq found = true) :
    Covers value node := by
  intro key path below hbelow
  obtain ⟨other, hother, hdefaults⟩ := h key path below hbelow
  have hcanonical := canonical_at? hsame (key :: path)
  rw [hother, Option.map_some, Option.map_eq_some_iff] at hcanonical
  obtain ⟨here, hhere, hequal⟩ := hcanonical
  exact ⟨here, hhere, fun default hdefault =>
    pyEq_trans (pyEq_iff.mpr hequal) (hdefaults default hdefault)⟩

theorem DefaultsConsistent.below (h : DefaultsConsistent schema)
    (hnode : schema.at? ["properties", key] = some node) : DefaultsConsistent node := by
  intro other path below default hbelow hdefault
  refine h key (other :: path) below default ?_ hdefault
  have happend : nodePlace (key :: other :: path) =
      ["properties", key] ++ nodePlace (other :: path) := rfl
  rw [happend, at?_append, hnode, Option.bind_some, hbelow]

/-- The checks stop at a default; below it the schema alone decides. -/
theorem PassesChecks.covers (h : PassesChecks values schema)
    (hconsistent : DefaultsConsistent schema) : Covers values schema := by
  intro key path
  induction path generalizing key values schema with
  | nil =>
      intro node hnode
      obtain ⟨value, hvalue, hcases⟩ := h.property hnode
      refine ⟨value, hvalue, fun default hdefault => ?_⟩
      rcases hcases with ⟨other, hother, hsame⟩ | ⟨hnone, -⟩
      · rw [hdefault] at hother
        cases hother
        exact hsame
      · rw [hdefault] at hnone
        cases hnone
  | cons next path ih =>
      intro below hbelow
      rw [at?_nodePlace_cons] at hbelow
      obtain ⟨node, hnode, hrest⟩ := Option.bind_eq_some_iff.mp hbelow
      obtain ⟨value, hvalue, hcases⟩ := h.property hnode
      have hcovers : ∃ found, value.at? (next :: path) = some found ∧
          ∀ default, below.at? ["default"] = some default → found.pyEq default = true := by
        rcases hcases with ⟨default, hdefault, hsame⟩ | ⟨-, hpasses⟩
        · exact (hconsistent key [] node default hnode hdefault).congr hsame next path below hrest
        · refine ih (hpasses ?_) (hconsistent.below hnode) next below hrest
          rw [at?_nodePlace_cons] at hrest
          obtain ⟨other, hother, -⟩ := Option.bind_eq_some_iff.mp hrest
          have happend : ["properties", next] = ["properties"] ++ [next] := rfl
          rw [happend, at?_append] at hother
          exact Option.isSome_of_isSome_bind (by rw [hother]; rfl)
      obtain ⟨found, hfound, hdefaults⟩ := hcovers
      refine ⟨found, ?_, hdefaults⟩
      rw [← List.singleton_append, at?_append, hvalue, Option.bind_some, hfound]

theorem Covers.defaultsConsistent (h : Covers values schema) : DefaultsConsistent schema := by
  intro key path node default hnode hdefault next rest below hbelow
  obtain ⟨value, hvalue, hdefaults⟩ := h key path node hnode
  have hplace : schema.at? (nodePlace (key :: (path ++ next :: rest))) = some below := by
    rw [← List.cons_append, nodePlace_append, at?_append, hnode, Option.bind_some, hbelow]
  obtain ⟨found, hfound, hbelowDefaults⟩ := h key (path ++ next :: rest) below hplace
  rw [← List.cons_append, at?_append, hvalue, Option.bind_some] at hfound
  have hcanonical := canonical_at? (hdefaults default hdefault) (next :: rest)
  rw [hfound, Option.map_some, eq_comm, Option.map_eq_some_iff] at hcanonical
  obtain ⟨other, hother, hequal⟩ := hcanonical
  exact ⟨other, hother, fun inner hinner =>
    pyEq_trans (pyEq_iff.mpr hequal) (hbelowDefaults inner hinner)⟩

end Soundness

/-- Where both checks pass, the values have what the schema declares exactly if the defaults
of the schema agree with each other. -/
theorem validated_covers_iff (schema values : Json) (paramPath defaultPath : String)
    (hproperties : validatePropertiesInDefaults values schema paramPath = .ok ())
    (hdefaults : validateDefaults values schema defaultPath = .ok ()) :
    Covers values schema ↔ DefaultsConsistent schema :=
  ⟨Covers.defaultsConsistent,
    PassesChecks.covers ⟨⟨paramPath, hproperties⟩, defaultPath, hdefaults⟩⟩

def nestedDefaults (outer inner : Json) : Json :=
  .obj [("properties", .obj [("a", .obj [("default", .obj [("x", outer)]),
    ("properties", .obj [("x", .obj [("default", inner)])])])])]

theorem equal_nested_defaults_cover :
    Covers (.obj [("a", .obj [("x", .int 1)])]) (nestedDefaults (.int 1) (.int 1)) ↔
      DefaultsConsistent (nestedDefaults (.int 1) (.int 1)) :=
  validated_covers_iff _ _ "" "" (by decide) (by decide)

/-- The value is the outer default, and not the inner one. -/
theorem inner_default_not_checked :
    ¬ ∀ schema values, validatePropertiesInDefaults values schema "" = .ok () →
      validateDefaults values schema "" = .ok () → Covers values schema := by
  intro h
  have hcovers := h (nestedDefaults (.int 2) (.int 1)) (.obj [("a", .obj [("x", .int 2)])])
    (by decide) (by decide)
  obtain ⟨value, hvalue, hdefaults⟩ := hcovers "a" ["x"] (.obj [("default", .int 1)]) rfl
  have hsame := hdefaults (.int 1) rfl
  cases hvalue
  exact absurd hsame (by decide)

end QubershipAirflow.Schema
