import QubershipAirflow.Schema.Traces

/-! What an update compares, in order. A comparison by way of an element's own properties
settles a default, one by way of a reference only checks it. -/
namespace QubershipAirflow.Schema

open Json Settling
open PyError (bind_ok_iff)

section Steps

inductive KeyStep where
  | skip
  | below (child : Place)
  | compare (child : Place) (shared : Bool)

def keyStep (schema : Json) (current : Place) (key : String) : Except PyError KeyStep := do
  let (properties, shared) ← elementProperties schema current
  if !(← (← schema.read properties).contains key) then return .skip
  else
  let child := properties ++ [key]
  let element ← schema.read child
  if ← element.contains "default" then
    let _ ← element.getItem "default"
    return .compare child shared
  else return .below child

variable {schema schema' value : Json} {current child : Place} {key : String} {shared : Bool}
  {err : PyError}

theorem compareKey_eq : compareKey schema current key value =
    (keyStep schema current key).bind fun step => match step with
      | .skip => .ok (.settled schema)
      | .below child => .ok (.below child)
      | .compare child shared => do
          if value.pyEq (← (← schema.read child).getItem "default") then return .settled schema
          else if shared then
            throw (.valueError
              "Updating in refs is not supported since it might affect Airflow defaults")
          else return .settled (← schema.assign child "default" value) := by
  unfold compareKey keyStep
  cases elementProperties schema current with
  | error err => rfl
  | ok found =>
      obtain ⟨properties, shared⟩ := found
      simp only [bind, Except.bind]
      cases schema.read properties with
      | error err => rfl
      | ok dict =>
          dsimp only
          cases dict.contains key with
          | error err => rfl
          | ok contained =>
              cases contained with
              | false => rfl
              | true =>
                  simp only [Bool.not_true, Bool.false_eq_true, if_false]
                  cases hread : schema.read (properties ++ [key]) with
                  | error err => rfl
                  | ok element =>
                      dsimp only
                      cases element.contains "default" with
                      | error err => rfl
                      | ok declared =>
                          cases declared with
                          | false => rfl
                          | true =>
                              cases hdefault : element.getItem "default" with
                              | error err => simp
                              | ok found => simp [hread, hdefault, pure, Except.pure]

end Steps

section Agreement

variable {nodes : List Place} {schema schema' found : Json} {place properties : Place}
  {key : String} {shared : Bool} {step : KeyStep}

theorem Agrees.symm (h : Agrees nodes schema schema') : Agrees nodes schema' schema :=
  fun place hplace => (h place hplace).symm

theorem Agrees.exists_at? (h : Agrees nodes schema schema') (hplace : Outside nodes place)
    (hfound : schema.at? place = some found) :
    ∃ found', schema'.at? place = some found' ∧ SameShape (some found) (some found') := by
  have hshape := h place hplace
  rw [hfound] at hshape
  obtain ⟨found', hfound'⟩ := hshape.exists_some
  exact ⟨found', hfound', hfound' ▸ hshape⟩

theorem Agrees.elementProperties_eq_ok (h : Agrees nodes schema schema')
    (hplace : Outside nodes place)
    (hok : elementProperties schema place = .ok (properties, shared)) :
    elementProperties schema' place = .ok (properties, shared) := by
  obtain ⟨element, helement, hok⟩ := bind_ok_iff.mp hok
  obtain ⟨own, hown, hok⟩ := bind_ok_iff.mp hok
  rw [read_eq_ok_iff] at helement
  obtain ⟨element', helement', hshape⟩ := h.exists_at? hplace helement
  rw [← read_eq_ok_iff] at helement'
  rw [← hshape.contains_eq] at hown
  cases own with
  | true =>
      cases hok
      simp [elementProperties, helement', hown, bind, Except.bind, pure, Except.pure]
  | false =>
      obtain ⟨ref, href, hok⟩ := bind_ok_iff.mp hok
      obtain ⟨path, hpath, hok⟩ := bind_ok_iff.mp hok
      cases hok
      have hrefAt := at?_snoc_eq_some_iff.mpr ⟨element, helement, href⟩
      obtain ⟨ref', href', hsame⟩ := h.exists_at? (hplace.snoc (by decide)) hrefAt
      obtain ⟨other, hother, hget⟩ := at?_snoc_eq_some_iff.mp href'
      rw [read_eq_ok_iff] at helement'
      rw [helement'] at hother
      cases hother
      rw [← read_eq_ok_iff] at helement'
      have hpath' : refPath ref' = .ok path := by
        cases ref with
        | str text =>
            cases hsame
            exact hpath
        | _ => cases hpath
      simp [elementProperties, helement', hown, hget, hpath', bind, Except.bind, pure,
        Except.pure]

theorem Agrees.keyStep_eq_ok (h : Agrees nodes schema schema') (hplace : Outside nodes place)
    (hproperties : ∀ properties ∈ propertiesAt schema place, Outside nodes properties)
    (hchild : ∀ child, childAt schema place key = some child → Outside nodes child)
    (hok : keyStep schema place key = .ok step) : keyStep schema' place key = .ok step := by
  obtain ⟨⟨properties, shared⟩, helement, hok⟩ := bind_ok_iff.mp hok
  obtain ⟨dict, hdict, hok⟩ := bind_ok_iff.mp hok
  obtain ⟨contained, hcontained, hok⟩ := bind_ok_iff.mp hok
  have hat := propertiesAt_of_read helement hdict
  rw [read_eq_ok_iff] at hdict
  obtain ⟨dict', hdict', hshape⟩ := h.exists_at? (hproperties properties (by rw [hat]; rfl)) hdict
  rw [← hshape.contains_eq] at hcontained
  have helement' := h.elementProperties_eq_ok hplace helement
  rw [← read_eq_ok_iff] at hdict'
  cases contained with
  | false =>
      cases hok
      simp [keyStep, helement', hdict', hcontained, bind, Except.bind, pure, Except.pure]
  | true =>
      obtain ⟨element, hread, hok⟩ := bind_ok_iff.mp hok
      obtain ⟨declared, hdeclared, hok⟩ := bind_ok_iff.mp hok
      rw [read_eq_ok_iff] at hread
      have hchildAt : childAt schema place key = some (properties ++ [key]) := by
        simp [childAt, hat, hread]
      obtain ⟨element', hread', hsame⟩ := h.exists_at? (hchild _ hchildAt) hread
      rw [← hsame.contains_eq] at hdeclared
      rw [← read_eq_ok_iff] at hread'
      cases declared with
      | false =>
          cases hok
          simp [keyStep, helement', hdict', hcontained, hread', hdeclared, bind, Except.bind,
            pure, Except.pure]
      | true =>
          obtain ⟨found, hfound, hok⟩ := bind_ok_iff.mp hok
          cases hok
          obtain ⟨fields, rfl, -⟩ := getItem_eq_ok_iff.mp hfound
          obtain ⟨others, heq, -⟩ := hsame.exists_obj
          cases heq
          have hfound' : ∃ found', (Json.obj others).getItem "default" = .ok found' := by
            have hsome : (others.lookup "default").isSome = true := by
              simpa [contains] using hdeclared
            obtain ⟨found', hfound'⟩ := Option.isSome_iff_exists.mp hsome
            exact ⟨found', getItem_eq_ok_iff.mpr ⟨others, rfl, hfound'⟩⟩
          obtain ⟨found', hfound'⟩ := hfound'
          simp [keyStep, helement', hdict', hcontained, hread', hdeclared, hfound', bind,
            Except.bind, pure, Except.pure]

theorem Agrees.keyStep_error (h : Agrees nodes schema schema') (hplace : Outside nodes place)
    (hproperties : ∀ properties ∈ propertiesAt schema place, Outside nodes properties)
    (hchild : ∀ child, childAt schema place key = some child → Outside nodes child)
    {err : PyError} (herror : keyStep schema place key = .error err) :
    ∃ err', keyStep schema' place key = .error err' := by
  cases hstep : keyStep schema' place key with
  | error err' => exact ⟨err', rfl⟩
  | ok step =>
      rw [← h.propertiesAt_eq hplace] at hproperties
      rw [← h.childAt_eq hplace (by rwa [h.propertiesAt_eq hplace] at hproperties)] at hchild
      rw [h.symm.keyStep_eq_ok hplace hproperties hchild hstep] at herror
      cases herror

theorem keyStep_below {child : Place} (h : keyStep schema place key = .ok (.below child)) :
    childAt schema place key = some child ∧ hasDefault schema child = false := by
  obtain ⟨⟨properties, shared⟩, helement, h⟩ := bind_ok_iff.mp h
  obtain ⟨dict, hdict, h⟩ := bind_ok_iff.mp h
  obtain ⟨contained, -, h⟩ := bind_ok_iff.mp h
  have hat := propertiesAt_of_read helement hdict
  cases contained with
  | false => cases h
  | true =>
      obtain ⟨element, hread, h⟩ := bind_ok_iff.mp h
      obtain ⟨declared, hdeclared, h⟩ := bind_ok_iff.mp h
      rw [read_eq_ok_iff] at hread
      cases declared with
      | true =>
          obtain ⟨found, -, h⟩ := bind_ok_iff.mp h
          cases h
      | false =>
          cases h
          exact ⟨by simp [childAt, hat, hread], hasDefault_of_not_contains hread hdeclared⟩

theorem keyStep_compare {child : Place}
    (h : keyStep schema place key = .ok (.compare child shared)) :
    childAt schema place key = some child ∧
      ∃ found, schema.at? (child ++ ["default"]) = some found := by
  obtain ⟨⟨properties, shared⟩, helement, h⟩ := bind_ok_iff.mp h
  obtain ⟨dict, hdict, h⟩ := bind_ok_iff.mp h
  obtain ⟨contained, -, h⟩ := bind_ok_iff.mp h
  have hat := propertiesAt_of_read helement hdict
  cases contained with
  | false => cases h
  | true =>
      obtain ⟨element, hread, h⟩ := bind_ok_iff.mp h
      obtain ⟨declared, -, h⟩ := bind_ok_iff.mp h
      rw [read_eq_ok_iff] at hread
      cases declared with
      | false => cases h
      | true =>
          obtain ⟨found, hfound, h⟩ := bind_ok_iff.mp h
          cases h
          exact ⟨by simp [childAt, hat, hread], found,
            at?_snoc_eq_some_iff.mpr ⟨element, hread, hfound⟩⟩

end Agreement

section Comparisons

mutual

/-- The comparisons that a run makes for a tree of values, in order, until one is refused. -/
def comparisons (schema : Json) : Json → Place → List (Visit Place Json)
  | .obj valuesDefault, current => comparisonsBelow schema valuesDefault current
  | _, _ => [.stop]

def comparisonsBelow (schema : Json) : List (String × Json) → Place → List (Visit Place Json)
  | [], _ => []
  | (key, value) :: rest, current =>
      (match keyStep schema current key with
        | .ok .skip => []
        | .ok (.below child) => comparisons schema value child
        | .ok (.compare child shared) =>
            [if shared then .check child value else .settle child value]
        | .error _ => [.stop]) ++ comparisonsBelow schema rest current

end

def InDefinitions (node : Place) : Prop := ["definitions"] <+: node

/-- A schema on the way, whose definitions are the original's while none of their defaults
was written. -/
structure Keeping (nodes : List Place) (original : Json) (ledger : Ledger Place Json)
    (schema : Json) : Prop extends Settled nodes original ledger.store schema where
  definitions : (∀ node ∈ ledger.written, ¬ InDefinitions node) →
    schema.at? ["definitions"] = original.at? ["definitions"]

structure Follows (nodes : List Place) (original : Json) (trace : Trace)
    (ledger : Ledger Place Json) (visits : List (Visit Place Json)) : Prop where
  schemas : ∀ schema ∈ trace.schemas, ∃ passed ∈ ledgers pyEq ledger visits,
    Keeping nodes original passed schema
  passed : ∀ passed ∈ ledgers pyEq ledger visits, ∃ schema ∈ trace.schemas,
    Keeping nodes original passed schema
  result : Option.Rel (Keeping nodes original) (final pyEq ledger visits) trace.result.toOption

variable {nodes : List Place} {original schema schema' value found : Json} {place child : Place}
  {ledger next : Ledger Place Json} {visit : Visit Place Json}
  {first second : List (Visit Place Json)} {trace : Trace} {err : PyError}

theorem Follows.andThen {continued : Json → Trace} (h : Follows nodes original trace ledger first)
    (hnext : ∀ next schema, Keeping nodes original next schema →
      Follows nodes original (continued schema) next second) :
    Follows nodes original (trace.andThen continued) ledger (first ++ second) := by
  have hresult := h.result
  unfold Trace.andThen
  cases hend : trace.result with
  | error err =>
      rw [hend] at hresult
      cases hfinal : final pyEq ledger first with
      | some next => simp [hfinal, Except.toOption] at hresult
      | none =>
          dsimp only
          refine ⟨fun schema hschema => ?_, fun passed hpassed => ?_, ?_⟩
          · obtain ⟨passed, hpassed, hkeeping⟩ := h.schemas schema hschema
            exact ⟨passed, mem_ledgers_append.mpr (.inl hpassed), hkeeping⟩
          · rcases mem_ledgers_append.mp hpassed with hpassed | ⟨mid, hmid, -⟩
            · exact h.passed passed hpassed
            · rw [hfinal] at hmid
              cases hmid
          · rw [final_append, hfinal, hend]
            exact .none
  | ok schema =>
      rw [hend] at hresult
      cases hfinal : final pyEq ledger first with
      | none => simp [hfinal, Except.toOption] at hresult
      | some next =>
          rw [hfinal] at hresult
          cases hresult with
          | some hkeeping =>
          have hrest := hnext next schema hkeeping
          dsimp only
          refine ⟨fun found hfound => ?_, fun passed hpassed => ?_, ?_⟩
          · rcases List.mem_append.mp hfound with hfound | hfound
            · obtain ⟨passed, hpassed, hkeeping⟩ := h.schemas found hfound
              exact ⟨passed, mem_ledgers_append.mpr (.inl hpassed), hkeeping⟩
            · obtain ⟨passed, hpassed, hkeeping⟩ := hrest.schemas found hfound
              exact ⟨passed, mem_ledgers_append.mpr (.inr ⟨next, hfinal, hpassed⟩), hkeeping⟩
          · rcases mem_ledgers_append.mp hpassed with hpassed | ⟨mid, hmid, hpassed⟩
            · obtain ⟨found, hfound, hkeeping⟩ := h.passed passed hpassed
              exact ⟨found, List.mem_append_left _ hfound, hkeeping⟩
            · rw [hfinal] at hmid
              cases hmid
              obtain ⟨found, hfound, hkeeping⟩ := hrest.passed passed hpassed
              exact ⟨found, List.mem_append_right _ hfound, hkeeping⟩
          · rw [final_append, hfinal, Option.bind_some]
            exact hrest.result

theorem Follows.nil (h : Keeping nodes original ledger schema) :
    Follows nodes original (.step schema (.ok schema)) ledger [] where
  schemas found hfound := by
    refine ⟨ledger, self_mem_ledgers .., ?_⟩
    rcases List.mem_pair.mp hfound with rfl | rfl <;> exact h
  passed passed hpassed := by
    rw [ledgers, List.mem_singleton] at hpassed
    exact ⟨schema, List.mem_cons_self, hpassed ▸ h⟩
  result := .some h

theorem Follows.pass (h : Keeping nodes original ledger schema)
    (hpass : visit.pass pyEq ledger = some next) (hnext : Keeping nodes original next schema') :
    Follows nodes original (.step schema (.ok schema')) ledger [visit] := by
  have hledgers : ledgers pyEq ledger [visit] = [ledger, next] := by simp [ledgers, hpass]
  refine ⟨fun found hfound => ?_, fun passed hpassed => ?_, ?_⟩
  · rw [hledgers]
    rcases List.mem_pair.mp hfound with rfl | rfl
    · exact ⟨ledger, by simp, h⟩
    · exact ⟨next, by simp, hnext⟩
  · rw [hledgers] at hpassed
    rcases List.mem_pair.mp hpassed with rfl | rfl
    · exact ⟨schema, List.mem_cons_self, h⟩
    · exact ⟨schema', List.mem_cons_of_mem _ List.mem_cons_self, hnext⟩
  · rw [final, hpass]
    exact .some hnext

theorem Follows.refuse {rest : List (Visit Place Json)}
    (h : Keeping nodes original ledger schema) (hpass : visit.pass pyEq ledger = none) :
    Follows nodes original (.step schema (.error err)) ledger (visit :: rest) := by
  have hledgers : ledgers pyEq ledger (visit :: rest) = [ledger] := by simp [ledgers, hpass]
  refine ⟨fun found hfound => ?_, fun passed hpassed => ?_, ?_⟩
  · rw [hledgers]
    exact ⟨ledger, List.mem_singleton.mpr rfl, List.mem_singleton.mp hfound ▸ h⟩
  · rw [hledgers, List.mem_singleton] at hpassed
    exact ⟨schema, List.mem_cons_self, hpassed ▸ h⟩
  · rw [final, hpass]
    exact .none

/-- A default that is written is outside the definitions, or it is noted. -/
theorem Keeping.write (h : Keeping nodes original ledger schema)
    (hguarded : ∀ node ∈ nodes, Outside nodes node) (hnode : child ∈ nodes)
    (hexists : (schema.at? (child ++ ["default"])).isSome = true)
    (hassign : schema.assign child "default" value = .ok schema') :
    Keeping nodes original (ledger.write child value) schema' where
  toSettled := h.toSettled.assign hguarded hnode hexists hassign
  definitions hwritten := by
    have hchild : ¬ InDefinitions child := hwritten child List.mem_cons_self
    have hsame := h.definitions fun node hmem => hwritten node (List.mem_cons_of_mem _ hmem)
    rw [← hsame]
    refine at?_assign_apart hassign ?_ ?_
    · intro hbelow
      cases child with
      | nil => simp at hbelow
      | cons step child => simp [List.cons_prefix_cons] at hbelow
    · intro habove
      cases child with
      | nil => simp at habove
      | cons step child =>
          rw [List.cons_append, List.cons_prefix_cons] at habove
          exact hchild (List.cons_prefix_cons.mpr ⟨habove.1, List.nil_prefix⟩)

theorem Keeping.store_eq (h : Keeping nodes original ledger schema) (hnode : child ∈ nodes)
    (hfound : schema.at? (child ++ ["default"]) = some found) : ledger.store child = found := by
  rw [← h.found child hnode, defaultAt, hfound, Option.getD_some]

theorem Keeping.settle (h : Keeping nodes original ledger schema)
    (hguarded : ∀ node ∈ nodes, Outside nodes node) (hnode : child ∈ nodes)
    (hfound : schema.at? (child ++ ["default"]) = some found) {result : Except PyError Json}
    (hresult : result = if value.pyEq found then .ok schema
      else schema.assign child "default" value) :
    Follows nodes original (.step schema result) ledger [.settle child value] := by
  have hstore := h.store_eq hnode hfound
  subst hresult
  by_cases hsame : value.pyEq found = true
  · rw [if_pos hsame]
    exact .pass h (by simp [Visit.pass, hstore, hsame]) h
  · have hexists : (schema.at? (child ++ ["default"])).isSome = true := by
      rw [hfound]
      rfl
    obtain ⟨schema', hassign⟩ := exists_assign hexists
    rw [if_neg hsame, hassign]
    exact .pass h (by simp [Visit.pass, hstore, hsame]) (h.write hguarded hnode hexists hassign)

end Comparisons

section Runs

variable {nodes : List Place} {original : Json}

mutual

theorem traceComplexElement_follows (hguarded : ∀ node ∈ nodes, Outside nodes node) :
    ∀ (value : Json) (place : Place) (ledger : Ledger Place Json) (schema : Json),
      Keeping nodes original ledger schema → hasDefault original place = false →
      (∀ read ∈ consulted original value place, Outside nodes read) →
      (∀ visit ∈ visits original value place, visit.1 ∈ nodes) →
      Follows nodes original (traceComplexElement value place schema) ledger
        (comparisons original value place)
  | .obj fields, place, ledger, schema, h, hundeclared, hread, hvisits => by
      have hplace := hread place (consulted_self ..)
      rw [consulted_obj hundeclared] at hread
      rw [visits, if_neg (by rw [hundeclared]; decide)] at hvisits
      exact traceItems_follows hguarded fields place ledger schema h hplace
        (fun read hmem => hread read (List.mem_cons_of_mem _ hmem)) hvisits
  | .null, _, _, _, h, _, _, _ | .bool _, _, _, _, h, _, _, _ | .int _, _, _, _, h, _, _, _
  | .float _, _, _, _, h, _, _, _ | .str _, _, _, _, h, _, _, _
  | .arr _, _, _, _, h, _, _, _ => .refuse h rfl

theorem traceItems_follows (hguarded : ∀ node ∈ nodes, Outside nodes node) :
    ∀ (fields : List (String × Json)) (place : Place) (ledger : Ledger Place Json)
      (schema : Json), Keeping nodes original ledger schema → Outside nodes place →
      (∀ read ∈ consultedBelow original fields place, Outside nodes read) →
      (∀ visit ∈ visitsBelow original fields place, visit.1 ∈ nodes) →
      Follows nodes original (traceItems fields place schema) ledger
        (comparisonsBelow original fields place)
  | [], _, _, _, h, _, _, _ => .nil h
  | (key, value) :: rest, place, ledger, schema, h, hplace, hread, hvisits => by
      have hproperties : ∀ properties ∈ propertiesAt original place, Outside nodes properties :=
        fun properties hmem => hread properties (mem_consultedBelow_cons.mpr (.inl hmem))
      have hreadChild : ∀ child, childAt original place key = some child →
          ∀ read ∈ consulted original value child, Outside nodes read :=
        fun child hchild read hmem =>
          hread read (mem_consultedBelow_cons.mpr (.inr (.inl ⟨child, hchild, hmem⟩)))
      have hchildren : ∀ child, childAt original place key = some child → Outside nodes child :=
        fun child hchild => hreadChild child hchild child (consulted_self ..)
      have hvisitsChild : ∀ child, childAt original place key = some child →
          ∀ visit ∈ visits original value child, visit.1 ∈ nodes :=
        fun child hchild visit hmem =>
          hvisits visit (mem_visitsBelow_cons.mpr (.inl ⟨child, hchild, hmem⟩))
      have hrest : ∀ next schema, Keeping nodes original next schema →
          Follows nodes original (traceItems rest place schema) next
            (comparisonsBelow original rest place) :=
        fun next schema hnext => traceItems_follows hguarded rest place next schema hnext hplace
          (fun read hmem => hread read (mem_consultedBelow_cons.mpr (.inr (.inr hmem))))
          (fun visit hmem => hvisits visit (mem_visitsBelow_cons.mpr (.inr hmem)))
      rw [traceItems, comparisonsBelow, compareKey_eq]
      cases hstep : keyStep original place key with
      | error err =>
          obtain ⟨err', herror⟩ := h.agrees.keyStep_error hplace hproperties hchildren hstep
          rw [herror]
          exact .refuse h rfl
      | ok step =>
          have hstep' := h.agrees.keyStep_eq_ok hplace hproperties hchildren hstep
          rw [hstep']
          cases step with
          | skip => exact Follows.andThen (.nil h) hrest
          | below child =>
              obtain ⟨hchild, hundeclared⟩ := keyStep_below hstep
              exact Follows.andThen (traceComplexElement_follows hguarded value child ledger schema
                h hundeclared (hreadChild child hchild) (hvisitsChild child hchild)) hrest
          | compare child shared =>
              obtain ⟨hchild, declared, hdeclared⟩ := keyStep_compare hstep
              obtain ⟨-, found, hfound⟩ := keyStep_compare hstep'
              have hnode : child ∈ nodes := by
                refine hvisitsChild child hchild (child, value) ?_
                rw [visits_of_hasDefault (hasDefault_of_at? hdeclared)]
                exact List.mem_singleton.mpr rfl
              obtain ⟨element, helement, hget⟩ := at?_snoc_eq_some_iff.mp hfound
              rw [← read_eq_ok_iff] at helement
              simp only [Except.bind, helement, hget, bind]
              have hstore := h.store_eq hnode hfound
              by_cases hsame : value.pyEq found = true
              · rw [if_pos hsame]
                refine Follows.andThen (.pass h ?_ h) hrest
                cases shared <;> simp [Visit.pass, hstore, hsame]
              · rw [if_neg hsame]
                cases shared with
                | true => exact .refuse h (by simp [Visit.pass, hstore, hsame])
                | false =>
                    have hexists : (schema.at? (child ++ ["default"])).isSome = true := by
                      rw [hfound]
                      rfl
                    obtain ⟨schema', hassign⟩ := exists_assign hexists
                    rw [hassign]
                    refine Follows.andThen (.pass h ?_
                      (h.write hguarded hnode hexists hassign)) hrest
                    simp [Visit.pass, hstore, hsame]

end

end Runs

end QubershipAirflow.Schema
