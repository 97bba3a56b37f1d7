import QubershipAirflow.Schema.Comparisons

/-! Whether an update leaves the definitions alone, which other parameters of the schema
refer to as well. -/
namespace QubershipAirflow.Schema

open Json Settling
open PyError (bind_ok_iff)

/-- The comparisons of a kept parameter; the first may be with a default of its own. -/
def paramComparisons (schema valuesData : Json) (valuesParam : String) :
    List (Visit Place Json) :=
  match schema.at? (paramPlace valuesParam), valuesData.at? (pathOf valuesParam) with
  | some element, some value => match element.contains "default" with
      | .ok false => comparisons schema value (paramPlace valuesParam)
      | .ok true =>
          if hasDefault schema (paramPlace valuesParam) then
            [.settle (paramPlace valuesParam) value]
          else [.stop]
      | .error _ => [.stop]
  | _, _ => [.stop]

def keptComparisons (schema valuesData : Json) (kept : List String) : List (Visit Place Json) :=
  kept.flatMap (paramComparisons schema valuesData)

section Runs

variable {nodes : List Place} {original schema valuesData : Json} {kept : List String}
  {valuesParam : String} {ledger : Ledger Place Json}

theorem updateParam_eq {element value : Json}
    (helement : schema.at? (paramPlace valuesParam) = some element)
    (hvalue : valuesData.at? (pathOf valuesParam) = some value) :
    updateParam valuesData schema valuesParam =
      (element.contains "default").bind fun declared =>
        if declared then (element.getItem "default").bind fun found =>
          if value.pyEq found then .ok schema
          else schema.assign (paramPlace valuesParam) "default" value
        else compareComplexElement value (paramPlace valuesParam) schema := by
  rw [← read_eq_ok_iff] at helement hvalue
  simp only [updateParam, helement, hvalue, bind, Except.bind]
  rfl

theorem updateParam_error (h : schema.at? (paramPlace valuesParam) = none ∨
    valuesData.at? (pathOf valuesParam) = none) :
    ∃ err, updateParam valuesData schema valuesParam = .error err := by
  cases hupdate : updateParam valuesData schema valuesParam with
  | error err => exact ⟨err, rfl⟩
  | ok schema' =>
      obtain ⟨element, helement, hrest⟩ := bind_ok_iff.mp hupdate
      obtain ⟨value, hvalue, -⟩ := bind_ok_iff.mp hrest
      rw [read_eq_ok_iff] at helement hvalue
      rcases h with hnone | hnone
      · rw [helement] at hnone
        cases hnone
      · rw [hvalue] at hnone
        cases hnone

theorem traceParam_follows (hguarded : ∀ node ∈ nodes, Outside nodes node)
    (hread : ∀ read ∈ paramConsulted original valuesData valuesParam, Outside nodes read)
    (hvisits : ∀ visit ∈ paramVisits original valuesData valuesParam, visit.1 ∈ nodes)
    (h : Keeping nodes original ledger schema) :
    Follows nodes original (traceParam valuesData valuesParam schema) ledger
      (paramComparisons original valuesData valuesParam) := by
  cases hvalue : valuesData.at? (pathOf valuesParam) with
  | none =>
      obtain ⟨err, herror⟩ := updateParam_error (.inr hvalue)
      unfold traceParam paramComparisons
      rw [hvalue, herror]
      cases original.at? (paramPlace valuesParam) <;>
        cases schema.at? (paramPlace valuesParam) <;> exact .refuse h rfl
  | some value =>
      rw [paramConsulted, hvalue] at hread
      rw [paramVisits, hvalue] at hvisits
      have hplace := hread _ (consulted_self ..)
      have hshape := h.agrees _ hplace
      cases helement : original.at? (paramPlace valuesParam) with
      | none =>
          rw [helement] at hshape
          have hnone : schema.at? (paramPlace valuesParam) = none := hshape.eq_none
          obtain ⟨err, herror⟩ := updateParam_error (.inl hnone)
          unfold traceParam paramComparisons
          rw [hvalue, helement, hnone, herror]
          exact .refuse h rfl
      | some element =>
          obtain ⟨element', helement', hsame⟩ := h.agrees.exists_at? hplace helement
          have heq := updateParam_eq helement' hvalue
          unfold traceParam paramComparisons
          rw [hvalue, helement, helement']
          dsimp only
          rw [heq, hsame.contains_eq]
          cases hcontains : element.contains "default" with
          | error err => exact .refuse h rfl
          | ok declared =>
              cases declared with
              | false =>
                  exact traceComplexElement_follows hguarded value _ ledger schema h
                    (hasDefault_of_not_contains helement hcontains) hread hvisits
              | true =>
                  have hdefault := h.agrees.hasDefault_eq hplace
                  dsimp only [Except.bind]
                  rw [if_pos rfl]
                  cases hget : element'.getItem "default" with
                  | error err =>
                      have hnone : schema.at? (paramPlace valuesParam ++ ["default"]) = none := by
                        by_contra hsome
                        obtain ⟨found, hfound⟩ := Option.ne_none_iff_exists'.mp hsome
                        obtain ⟨other, hother, hget'⟩ := at?_snoc_eq_some_iff.mp hfound
                        rw [helement'] at hother
                        cases hother
                        rw [hget] at hget'
                        cases hget'
                      rw [hasDefault, hnone] at hdefault
                      rw [if_neg (by rw [← hdefault]; decide)]
                      exact .refuse h rfl
                  | ok found =>
                      have hfound := at?_snoc_eq_some_iff.mpr ⟨element', helement', hget⟩
                      have hdeclared : hasDefault original (paramPlace valuesParam) = true := by
                        rw [← hdefault, hasDefault_of_at? hfound]
                      rw [if_pos hdeclared]
                      refine h.settle hguarded ?_ hfound rfl
                      refine hvisits (paramPlace valuesParam, value) ?_
                      simp [visits_of_hasDefault hdeclared]

theorem traceUpdate_follows (hguarded : ∀ node ∈ nodes, Outside nodes node)
    (hread : ∀ valuesParam ∈ kept, ∀ read ∈ paramConsulted original valuesData valuesParam,
      Outside nodes read)
    (hvisits : ∀ valuesParam ∈ kept, ∀ visit ∈ paramVisits original valuesData valuesParam,
      visit.1 ∈ nodes)
    (h : Keeping nodes original ledger schema) :
    Follows nodes original (traceUpdate valuesData kept schema) ledger
      (keptComparisons original valuesData kept) := by
  induction kept generalizing ledger schema with
  | nil => exact .nil h
  | cons valuesParam rest ih =>
      rw [traceUpdate, keptComparisons, List.flatMap_cons]
      refine Follows.andThen (traceParam_follows hguarded (hread _ List.mem_cons_self)
        (hvisits _ List.mem_cons_self) h) fun next schema hnext => ?_
      exact ih (fun other hother => hread other (List.mem_cons_of_mem _ hother))
        (fun other hother => hvisits other (List.mem_cons_of_mem _ hother)) hnext

theorem update_follows (hout : ReferencesStayOut schema valuesData kept) :
    Follows (visitedNodes schema valuesData kept) schema (traceUpdate valuesData kept schema)
      ⟨defaultAt schema, []⟩ (keptComparisons schema valuesData kept) :=
  traceUpdate_follows hout.guarded (fun _ hparam _ hread => hout.outside hparam hread)
    (fun valuesParam hparam _ hvisit =>
      List.mem_map_of_mem (List.mem_flatMap.mpr ⟨valuesParam, hparam, hvisit⟩))
    ⟨⟨Agrees.refl _ schema, fun _ _ => rfl⟩, fun _ => rfl⟩

end Runs

section Compared

variable {schema valuesData : Json} {kept : List String} {valuesParam : String} {node : Place}
  {found : Json}

def Compared (visits : List (Visit Place Json)) (node : Place) (found : Json) : Prop :=
  .stop ∈ visits ∨ .settle node found ∈ visits ∨ .check node found ∈ visits

theorem Compared.mono {first second : List (Visit Place Json)} (h : Compared first node found)
    (hsubset : ∀ visit ∈ first, visit ∈ second) : Compared second node found :=
  h.imp (hsubset _) (Or.imp (hsubset _) (hsubset _))

theorem keyStep_skip {place : Place} {key : String}
    (h : keyStep schema place key = .ok .skip) : childAt schema place key = none := by
  obtain ⟨⟨properties, shared⟩, helement, h⟩ := bind_ok_iff.mp h
  obtain ⟨dict, hdict, h⟩ := bind_ok_iff.mp h
  obtain ⟨contained, hcontained, h⟩ := bind_ok_iff.mp h
  have hat := propertiesAt_of_read helement hdict
  rw [read_eq_ok_iff] at hdict
  cases contained with
  | false => simp [childAt, hat, at?_snoc_of_not_contains hdict hcontained]
  | true =>
      obtain ⟨element, -, h⟩ := bind_ok_iff.mp h
      obtain ⟨declared, -, h⟩ := bind_ok_iff.mp h
      cases declared with
      | false => cases h
      | true =>
          obtain ⟨found, -, h⟩ := bind_ok_iff.mp h
          cases h

mutual

theorem comparisons_of_visits : ∀ (value : Json) (place : Place),
    hasDefault schema place = false → (node, found) ∈ visits schema value place →
      Compared (comparisons schema value place) node found
  | .obj fields, place, hundeclared, hmem => by
      rw [visits, if_neg (by rw [hundeclared]; decide)] at hmem
      exact comparisonsBelow_of_visits fields place hmem
  | .null, _, _, _ | .bool _, _, _, _ | .int _, _, _, _ | .float _, _, _, _ | .str _, _, _, _
  | .arr _, _, _, _ => .inl (List.mem_singleton.mpr rfl)

theorem comparisonsBelow_of_visits : ∀ (fields : List (String × Json)) (place : Place),
    (node, found) ∈ visitsBelow schema fields place →
      Compared (comparisonsBelow schema fields place) node found
  | [], _, hmem => by simp [visitsBelow] at hmem
  | (key, value) :: rest, place, hmem => by
      rcases mem_visitsBelow_cons.mp hmem with ⟨child, hchild, hmem⟩ | hmem
      · have hstep : Compared (match keyStep schema place key with
            | .ok .skip => []
            | .ok (.below child) => comparisons schema value child
            | .ok (.compare child shared) =>
                [if shared then .check child value else .settle child value]
            | .error _ => [.stop]) node found := by
          cases hkey : keyStep schema place key with
          | error err => exact .inl (List.mem_singleton.mpr rfl)
          | ok step =>
              cases step with
              | skip =>
                  rw [keyStep_skip hkey] at hchild
                  cases hchild
              | below other =>
                  obtain ⟨hother, hundeclared⟩ := keyStep_below hkey
                  rw [hother] at hchild
                  cases hchild
                  exact comparisons_of_visits value _ hundeclared hmem
              | compare other shared =>
                  obtain ⟨hother, declared, hdeclared⟩ := keyStep_compare hkey
                  rw [hother] at hchild
                  cases hchild
                  rw [visits_of_hasDefault (hasDefault_of_at? hdeclared), List.mem_singleton]
                    at hmem
                  cases hmem
                  cases shared <;> simp [Compared]
        exact hstep.mono fun visit => List.mem_append_left _
      · exact (comparisonsBelow_of_visits rest place hmem).mono fun visit =>
          List.mem_append_right _

end

mutual

theorem visits_of_settle : ∀ (value : Json) (place : Place), hasDefault schema place = false →
    .settle node found ∈ comparisons schema value place → (node, found) ∈ visits schema value place
  | .obj fields, place, hundeclared, hmem => by
      rw [visits, if_neg (by rw [hundeclared]; decide)]
      exact visitsBelow_of_settle fields place hmem
  | .null, _, _, hmem | .bool _, _, _, hmem | .int _, _, _, hmem | .float _, _, _, hmem
  | .str _, _, _, hmem | .arr _, _, _, hmem => by simp [comparisons] at hmem

theorem visitsBelow_of_settle : ∀ (fields : List (String × Json)) (place : Place),
    .settle node found ∈ comparisonsBelow schema fields place →
      (node, found) ∈ visitsBelow schema fields place
  | [], _, hmem => by simp [comparisonsBelow] at hmem
  | (key, value) :: rest, place, hmem => by
      rw [mem_visitsBelow_cons]
      rw [comparisonsBelow, List.mem_append] at hmem
      rcases hmem with hmem | hmem
      · refine .inl ?_
        cases hkey : keyStep schema place key with
        | error err => simp [hkey] at hmem
        | ok step =>
            rw [hkey] at hmem
            cases step with
            | skip => simp at hmem
            | below child =>
                obtain ⟨hchild, hundeclared⟩ := keyStep_below hkey
                exact ⟨child, hchild, visits_of_settle value child hundeclared hmem⟩
            | compare child shared =>
                obtain ⟨hchild, declared, hdeclared⟩ := keyStep_compare hkey
                refine ⟨child, hchild, ?_⟩
                cases shared with
                | true => simp at hmem
                | false =>
                    simp only [Bool.false_eq_true, if_false, List.mem_singleton,
                      Visit.settle.injEq] at hmem
                    obtain ⟨rfl, rfl⟩ := hmem
                    rw [visits_of_hasDefault (hasDefault_of_at? hdeclared)]
                    exact List.mem_singleton.mpr rfl
      · exact .inr (visitsBelow_of_settle rest place hmem)

end

theorem paramComparisons_of_visits (h : (node, found) ∈ paramVisits schema valuesData valuesParam) :
    Compared (paramComparisons schema valuesData valuesParam) node found := by
  unfold paramVisits at h
  unfold paramComparisons
  cases hvalue : valuesData.at? (pathOf valuesParam) with
  | none => simp [hvalue] at h
  | some value =>
      rw [hvalue] at h
      cases helement : schema.at? (paramPlace valuesParam) with
      | none => exact .inl (List.mem_singleton.mpr rfl)
      | some element =>
          dsimp only
          cases hcontains : element.contains "default" with
          | error err => exact .inl (List.mem_singleton.mpr rfl)
          | ok declared =>
              cases declared with
              | false =>
                  exact comparisons_of_visits value _
                    (hasDefault_of_not_contains helement hcontains) h
              | true =>
                  dsimp only
                  split
                  · rename_i hdefault
                    simp only [visits_of_hasDefault hdefault, List.mem_singleton] at h
                    cases h
                    exact .inr (.inl (List.mem_singleton.mpr rfl))
                  · exact .inl (List.mem_singleton.mpr rfl)

theorem paramVisits_of_settle
    (h : .settle node found ∈ paramComparisons schema valuesData valuesParam) :
    (node, found) ∈ paramVisits schema valuesData valuesParam := by
  unfold paramComparisons at h
  unfold paramVisits
  cases hvalue : valuesData.at? (pathOf valuesParam) with
  | none => cases helement : schema.at? (paramPlace valuesParam) <;> simp [hvalue, helement] at h
  | some value =>
      rw [hvalue] at h
      cases helement : schema.at? (paramPlace valuesParam) with
      | none => simp [helement] at h
      | some element =>
          rw [helement] at h
          dsimp only at h ⊢
          cases hcontains : element.contains "default" with
          | error err => simp [hcontains] at h
          | ok declared =>
              rw [hcontains] at h
              cases declared with
              | false =>
                  exact visits_of_settle value _ (hasDefault_of_not_contains helement hcontains) h
              | true =>
                  dsimp only at h
                  split at h
                  · rename_i hdefault
                    rw [List.mem_singleton, Visit.settle.injEq] at h
                    rw [visits_of_hasDefault hdefault, List.mem_singleton, Prod.mk.injEq]
                    exact h
                  · simp at h

theorem keptComparisons_of_visits (h : (node, found) ∈ keptVisits schema valuesData kept) :
    Compared (keptComparisons schema valuesData kept) node found := by
  obtain ⟨valuesParam, hparam, hvisit⟩ := List.mem_flatMap.mp h
  exact (paramComparisons_of_visits hvisit).mono fun visit hmem =>
    List.mem_flatMap.mpr ⟨valuesParam, hparam, hmem⟩

theorem keptVisits_of_settle (h : .settle node found ∈ keptComparisons schema valuesData kept) :
    (node, found) ∈ keptVisits schema valuesData kept := by
  obtain ⟨valuesParam, hparam, hvisit⟩ := List.mem_flatMap.mp h
  exact List.mem_flatMap.mpr ⟨valuesParam, hparam, paramVisits_of_settle hvisit⟩

end Compared

/-- No schema on the way of an update has other definitions, and the update raises where a
value differs from a default in a definition. -/
structure LeavesDefinitions (schema valuesData : Json) (kept : List String) : Prop where
  unchanged : ∀ schema' ∈ (traceUpdate valuesData kept schema).schemas,
    schema'.at? ["definitions"] = schema.at? ["definitions"]
  raises : ∀ node found, KeptDefault schema valuesData kept node found → InDefinitions node →
    found.pyEq (defaultAt schema node) = false →
      ∃ err, updateDefaultsForExistingSchema valuesData kept schema = .error err

/-- Before a value is compared, by way of an element's own properties, with a default in a
definition that it differs from, the comparisons are refused. -/
def DifferencesRefused (schema valuesData : Json) (kept : List String) : Prop :=
  ∀ before node value after,
    keptComparisons schema valuesData kept = before ++ .settle node value :: after →
    InDefinitions node → value.pyEq (defaultAt schema node) = false →
      final pyEq ⟨defaultAt schema, []⟩ before = none

section Definitions

variable {schema schema' valuesData found : Json} {kept : List String} {node : Place}

theorem defaultAt_of_definitions (hnode : InDefinitions node)
    (h : schema'.at? ["definitions"] = schema.at? ["definitions"]) :
    defaultAt schema' node = defaultAt schema node := by
  obtain ⟨rest, rfl⟩ := hnode
  rw [defaultAt, defaultAt, List.append_assoc, at?_append, at?_append, h]

theorem store_of_unchanged (hout : ReferencesStayOut schema valuesData kept)
    (hunchanged : ∀ schema' ∈ (traceUpdate valuesData kept schema).schemas,
      schema'.at? ["definitions"] = schema.at? ["definitions"])
    (hvisited : (node, found) ∈ keptVisits schema valuesData kept) (hnode : InDefinitions node)
    {passed : Ledger Place Json} (hpassed : passed ∈ ledgers pyEq ⟨defaultAt schema, []⟩
      (keptComparisons schema valuesData kept)) : passed.store node = defaultAt schema node := by
  obtain ⟨schema', hschema', hkeeping⟩ := (update_follows hout).passed passed hpassed
  have hfound : passed.store node = defaultAt schema' node :=
    (hkeeping.found node (List.mem_map_of_mem hvisited)).symm
  rw [hfound, defaultAt_of_definitions hnode (hunchanged schema' hschema')]

theorem differencesRefused_of_unchanged (hout : ReferencesStayOut schema valuesData kept)
    (hunchanged : ∀ schema' ∈ (traceUpdate valuesData kept schema).schemas,
      schema'.at? ["definitions"] = schema.at? ["definitions"]) :
    DifferencesRefused schema valuesData kept := by
  intro before node value after hcomparisons hnode hdiffers
  cases hfinal : final pyEq ⟨defaultAt schema, []⟩ before with
  | none => rfl
  | some mid =>
      have hvisited : (node, value) ∈ keptVisits schema valuesData kept := by
        refine keptVisits_of_settle ?_
        rw [hcomparisons]
        simp
      have hstore : ∀ passed, passed ∈ ledgers pyEq ⟨defaultAt schema, []⟩ before ∨
          passed ∈ ledgers pyEq mid (.settle node value :: after) →
            passed.store node = defaultAt schema node := by
        intro passed hpassed
        refine store_of_unchanged hout hunchanged hvisited hnode ?_
        rw [hcomparisons, mem_ledgers_append]
        exact hpassed.imp id fun hpassed => ⟨mid, hfinal, hpassed⟩
      have hmid := hstore mid (.inl (final_mem hfinal))
      have hpass : (Visit.settle node value).pass pyEq mid = some (mid.write node value) := by
        simp [Visit.pass, hmid, hdiffers]
      have hwritten := hstore (mid.write node value) (.inr (by
        rw [ledgers, hpass]
        exact List.mem_cons_of_mem _ (self_mem_ledgers ..)))
      rw [Ledger.write_store_self] at hwritten
      rw [← hwritten, pyEq_refl] at hdiffers
      cases hdiffers

theorem unchanged_of_differencesRefused (hout : ReferencesStayOut schema valuesData kept)
    (h : DifferencesRefused schema valuesData kept) :
    ∀ schema' ∈ (traceUpdate valuesData kept schema).schemas,
      schema'.at? ["definitions"] = schema.at? ["definitions"] := by
  unfold DifferencesRefused at h
  intro schema' hschema'
  obtain ⟨passed, hpassed, hkeeping⟩ := (update_follows hout).schemas schema' hschema'
  refine hkeeping.definitions fun node hwritten => ?_
  exact (not_touched_of_mem_ledgers h hpassed hwritten).resolve_left List.not_mem_nil

theorem raises_of_unchanged (hout : ReferencesStayOut schema valuesData kept)
    (hunchanged : ∀ schema' ∈ (traceUpdate valuesData kept schema).schemas,
      schema'.at? ["definitions"] = schema.at? ["definitions"])
    (hkept : KeptDefault schema valuesData kept node found) (hnode : InDefinitions node)
    (hdiffers : found.pyEq (defaultAt schema node) = false) :
    ∃ err, updateDefaultsForExistingSchema valuesData kept schema = .error err := by
  cases hend : updateDefaultsForExistingSchema valuesData kept schema with
  | error err => exact ⟨err, rfl⟩
  | ok schema' =>
      have hvisited := mem_keptVisits_iff.mpr hkept
      have hresult := (update_follows hout).result
      rw [traceUpdate_result, hend] at hresult
      cases hfinal : final pyEq ⟨defaultAt schema, []⟩ (keptComparisons schema valuesData kept) with
      | none => simp [hfinal, Except.toOption] at hresult
      | some last =>
          rcases keptComparisons_of_visits hvisited with hmem | hmem | hmem
          · obtain ⟨mid, -, next, hpass⟩ := pass_of_final hfinal hmem
            cases hpass
          · obtain ⟨before, after, hcomparisons⟩ := List.append_of_mem hmem
            have hnone := differencesRefused_of_unchanged hout hunchanged before node found after
              hcomparisons hnode hdiffers
            rw [hcomparisons, final_append, hnone] at hfinal
            cases hfinal
          · obtain ⟨mid, hmid, next, hpass⟩ := pass_of_final hfinal hmem
            have hstore := store_of_unchanged hout hunchanged hvisited hnode hmid
            simp [Visit.pass, hstore, hdiffers] at hpass

end Definitions

/-- An update leaves the definitions alone exactly if it raises before it compares a value
with another default in a definition by way of an element's own properties. -/
theorem update_leavesDefinitions_iff (schema valuesData : Json) (kept : List String)
    (hout : ReferencesStayOut schema valuesData kept) :
    LeavesDefinitions schema valuesData kept ↔ DifferencesRefused schema valuesData kept := by
  constructor
  · intro h
    exact differencesRefused_of_unchanged hout h.unchanged
  · intro h
    have hunchanged := unchanged_of_differencesRefused hout h
    exact ⟨hunchanged, fun node found hkept hnode hdiffers =>
      raises_of_unchanged hout hunchanged hkept hnode hdiffers⟩

def twoTimeoutsSchema : Json :=
  let timeout := .obj [("default", .int 1)]
  let probe := .obj [("properties", .obj [("timeout", timeout),
    ("http", .obj [("properties", .obj [("timeout", timeout)])])])]
  .obj [("definitions", .obj [("probe", probe)]),
    ("properties", .obj [("scheduler", .obj [("properties", .obj [("probe",
      .obj [("$ref", .str "#/definitions/probe")])])])])]

def twoTimeoutsValues : Json :=
  .obj [("scheduler", .obj [("probe", .obj [("timeout", .int 5),
    ("http", .obj [("timeout", .int 9)])])])]

/-- The first timeout is refused, so the second one is not written. -/
theorem refused_timeout_leaves_definitions :
    LeavesDefinitions twoTimeoutsSchema twoTimeoutsValues ["scheduler"] := by
  have hout : ReferencesStayOut twoTimeoutsSchema twoTimeoutsValues ["scheduler"] := by
    unfold ReferencesStayOut
    decide +kernel
  have hcomparisons : keptComparisons twoTimeoutsSchema twoTimeoutsValues ["scheduler"] =
      [.check ["definitions", "probe", "properties", "timeout"] (.int 5),
        .settle ["definitions", "probe", "properties", "http", "properties", "timeout"]
          (.int 9)] := by rfl
  refine (update_leavesDefinitions_iff _ _ _ hout).mpr fun before node value after hsplit _ _ => ?_
  rw [hcomparisons] at hsplit
  rcases before with _ | ⟨first, rest⟩
  · cases hsplit
  · obtain ⟨rfl, hrest⟩ := List.cons.inj hsplit
    rfl

/-- A timeout is written into the definition, and nothing is raised. -/
theorem timeout_written_in_definition :
    updateDefaultsForExistingSchema (probeValues (.int 5) (.int 5)) keptComponents
        (probeSchema (.int 1)) = .ok (probeSchema (.int 5)) ∧
      ¬ LeavesDefinitions (probeSchema (.int 1)) (probeValues (.int 5) (.int 5))
        keptComponents := by
  refine ⟨by decide +kernel, fun h => ?_⟩
  have hpassed : probeSchema (.int 5) ∈ (traceUpdate (probeValues (.int 5) (.int 5))
      keptComponents (probeSchema (.int 1))).schemas := by decide +kernel
  exact absurd (h.unchanged _ hpassed) (by decide +kernel)

end QubershipAirflow.Schema
