import QubershipAirflow.Schema.Settlement

/-! Whether the generated schema declares the chart's values as its defaults. -/
namespace QubershipAirflow.Schema

open Json Settling

/-- A schema declares this node as the outermost default on some path of a kept parameter;
the chart has the value there. -/
def KeptDefault (schema valuesData : Json) (kept : List String) (node : Place)
    (found : Json) : Prop :=
  ∃ valuesParam ∈ kept, ∃ value path, valuesData.at? (pathOf valuesParam) = some value ∧
    OutermostDefault schema (paramPlace valuesParam) value path node found

def DefaultsMatch (schema valuesData : Json) (kept : List String) : Prop :=
  ∀ node found, KeptDefault schema valuesData kept node found →
    found.pyEq (defaultAt schema node) = true

/-- Values that meet in one node of the schema, as in a definition that several
parameters refer to, are equal. -/
def SharedDefaultsAgree (schema valuesData : Json) (kept : List String) : Prop :=
  ∀ node found other, KeptDefault schema valuesData kept node found →
    KeptDefault schema valuesData kept node other → found.pyEq other = true

def paramVisits (schema valuesData : Json) (valuesParam : String) : List (Place × Json) :=
  match valuesData.at? (pathOf valuesParam) with
  | some value => visits schema value (paramPlace valuesParam)
  | none => []

def paramConsulted (schema valuesData : Json) (valuesParam : String) : List Place :=
  match valuesData.at? (pathOf valuesParam) with
  | some value => consulted schema value (paramPlace valuesParam)
  | none => []

def keptVisits (schema valuesData : Json) (kept : List String) : List (Place × Json) :=
  kept.flatMap (paramVisits schema valuesData)

/-- The references of a schema lead to schemas: nothing that is read lies inside a default
that is compared. -/
def ReferencesStayOut (schema valuesData : Json) (kept : List String) : Prop :=
  ∀ valuesParam ∈ kept, ∀ read ∈ paramConsulted schema valuesData valuesParam,
    ∀ visit ∈ keptVisits schema valuesData kept, ¬ visit.1 ++ ["default"] <+: read

section Kept

variable {schema schema' original valuesData value : Json} {kept : List String}
  {nodes : List Place} {node place : Place} {found : Json} {store : Place → Json}
  {valuesParam : String}

theorem mem_keptVisits_iff : (node, found) ∈ keptVisits schema valuesData kept ↔
    KeptDefault schema valuesData kept node found := by
  unfold keptVisits KeptDefault
  rw [List.mem_flatMap]
  refine exists_congr fun valuesParam => and_congr_right fun _ => ?_
  unfold paramVisits
  cases hvalue : valuesData.at? (pathOf valuesParam) with
  | none => simp
  | some value => simp [mem_visits_iff]

mutual

theorem visits_consulted : ∀ (value : Json) (place : Place),
    ∀ visit ∈ visits schema value place, visit.1 ∈ consulted schema value place
  | .obj fields, place, visit, hmem => by
      by_cases hdefault : hasDefault schema place = true
      · rw [visits_of_hasDefault hdefault, List.mem_singleton] at hmem
        rw [hmem]
        exact consulted_self ..
      · rw [visits, if_neg hdefault] at hmem
        rw [consulted_obj (by simpa using hdefault)]
        exact List.mem_cons_of_mem _ (visitsBelow_consulted fields place visit hmem)
  | .null, place, visit, hmem | .bool _, place, visit, hmem | .int _, place, visit, hmem
  | .float _, place, visit, hmem | .str _, place, visit, hmem | .arr _, place, visit, hmem => by
      by_cases hdefault : hasDefault schema place = true
      · rw [visits_of_hasDefault hdefault, List.mem_singleton] at hmem
        rw [hmem]
        exact consulted_self ..
      · simp [visits, hdefault] at hmem

theorem visitsBelow_consulted : ∀ (fields : List (String × Json)) (place : Place),
    ∀ visit ∈ visitsBelow schema fields place, visit.1 ∈ consultedBelow schema fields place
  | [], _, _, hmem => by simp [visitsBelow] at hmem
  | (key, value) :: rest, place, visit, hmem => by
      rw [mem_consultedBelow_cons]
      rcases mem_visitsBelow_cons.mp hmem with ⟨child, hchild, hmem⟩ | hmem
      · exact .inr (.inl ⟨child, hchild, visits_consulted value child visit hmem⟩)
      · exact .inr (.inr (visitsBelow_consulted rest place visit hmem))

end

theorem paramVisits_consulted {visit : Place × Json}
    (h : visit ∈ paramVisits schema valuesData valuesParam) :
    visit.1 ∈ paramConsulted schema valuesData valuesParam := by
  unfold paramVisits at h
  unfold paramConsulted
  cases hvalue : valuesData.at? (pathOf valuesParam) with
  | none => simp [hvalue] at h
  | some value =>
      rw [hvalue] at h
      exact visits_consulted value _ visit h

theorem updateParam_settles (hguarded : ∀ node ∈ nodes, Outside nodes node)
    (hread : ∀ read ∈ paramConsulted original valuesData valuesParam, Outside nodes read)
    (hvisits : ∀ visit ∈ paramVisits original valuesData valuesParam, visit.1 ∈ nodes)
    (h : updateParam valuesData schema valuesParam = .ok schema')
    (hsettled : Settled nodes original store schema) :
    Settled nodes original
      (settleAll pyEq store (paramVisits original valuesData valuesParam)) schema' := by
  obtain ⟨value, hvalue, hcase⟩ := updateParam_cases h
  rw [paramConsulted, hvalue] at hread
  rw [paramVisits, hvalue] at hvisits ⊢
  have hdefault := hsettled.agrees.hasDefault_eq (hread _ (consulted_self ..))
  rcases hcase with ⟨hundeclared, hrun⟩ | ⟨found, hfound, hsettle⟩
  · rw [hundeclared] at hdefault
    exact compareComplexElement_settles hguarded value _ store schema schema' hrun
      hdefault.symm hread hvisits hsettled
  · have hdeclared : hasDefault original (paramPlace valuesParam) = true := by
      rw [← hdefault, hasDefault_of_at? hfound]
    simp only [visits_of_hasDefault hdeclared] at hvisits ⊢
    exact hsettled.settle hguarded (hvisits _ (List.mem_singleton.mpr rfl)) hfound hsettle

theorem update_settles (hguarded : ∀ node ∈ nodes, Outside nodes node)
    (hread : ∀ valuesParam ∈ kept, ∀ read ∈ paramConsulted original valuesData valuesParam,
      Outside nodes read)
    (hvisits : ∀ valuesParam ∈ kept, ∀ visit ∈ paramVisits original valuesData valuesParam,
      visit.1 ∈ nodes)
    (h : updateDefaultsForExistingSchema valuesData kept schema = .ok schema')
    (hsettled : Settled nodes original store schema) :
    Settled nodes original (settleAll pyEq store (keptVisits original valuesData kept))
      schema' := by
  induction kept generalizing schema store with
  | nil =>
      cases h
      exact hsettled
  | cons valuesParam rest ih =>
      rw [updateDefaultsForExistingSchema, List.foldlM_cons, PyError.bind_ok_iff] at h
      obtain ⟨between, hparam, h⟩ := h
      have hfirst := updateParam_settles hguarded (hread _ List.mem_cons_self)
        (hvisits _ List.mem_cons_self) hparam hsettled
      rw [keptVisits, List.flatMap_cons, settleAll_append]
      exact ih (fun other hother => hread other (List.mem_cons_of_mem _ hother))
        (fun other hother => hvisits other (List.mem_cons_of_mem _ hother)) h hfirst

theorem pyEq_equivalence :
    Equivalence fun first second : Json => first.pyEq second = true where
  refl := pyEq_refl
  symm := pyEq_symm
  trans := pyEq_trans

def visitedNodes (schema valuesData : Json) (kept : List String) : List Place :=
  (keptVisits schema valuesData kept).map Prod.fst

theorem ReferencesStayOut.outside (h : ReferencesStayOut schema valuesData kept)
    (hparam : valuesParam ∈ kept) {read : Place}
    (hread : read ∈ paramConsulted schema valuesData valuesParam) :
    Outside (visitedNodes schema valuesData kept) read := by
  intro node hnode
  obtain ⟨visit, hvisit, rfl⟩ := List.mem_map.mp hnode
  exact h valuesParam hparam read hread visit hvisit

theorem ReferencesStayOut.guarded (h : ReferencesStayOut schema valuesData kept) :
    ∀ node ∈ visitedNodes schema valuesData kept,
      Outside (visitedNodes schema valuesData kept) node := by
  intro node hnode
  obtain ⟨visit, hvisit, rfl⟩ := List.mem_map.mp hnode
  obtain ⟨valuesParam, hparam, hvisit⟩ := List.mem_flatMap.mp hvisit
  exact h.outside hparam (paramVisits_consulted hvisit)

/-- A whole run settles all visits, and the outermost defaults stay where they are. -/
theorem update_settled (h : updateDefaultsForExistingSchema valuesData kept schema = .ok schema')
    (hout : ReferencesStayOut schema valuesData kept) :
    Settled (visitedNodes schema valuesData kept) schema
      (settleAll pyEq (defaultAt schema) (keptVisits schema valuesData kept)) schema' :=
  update_settles hout.guarded (fun _ hparam _ hread => hout.outside hparam hread)
    (fun valuesParam hparam _ hvisit =>
      List.mem_map_of_mem (List.mem_flatMap.mpr ⟨valuesParam, hparam, hvisit⟩))
    h ⟨Agrees.refl _ schema, fun _ _ => rfl⟩

theorem keptVisits_eq (hout : ReferencesStayOut schema valuesData kept)
    (hagrees : Agrees (visitedNodes schema valuesData kept) schema schema') :
    keptVisits schema' valuesData kept = keptVisits schema valuesData kept := by
  apply List.flatMap_congr
  intro valuesParam hparam
  have hread : ∀ read ∈ paramConsulted schema valuesData valuesParam,
      Outside (visitedNodes schema valuesData kept) read :=
    fun _ hread => hout.outside hparam hread
  unfold paramConsulted at hread
  unfold paramVisits
  cases hvalue : valuesData.at? (pathOf valuesParam) with
  | none => rfl
  | some value =>
      simp only [hvalue] at hread
      exact hagrees.visits_eq value _ hread

end Kept

/-- When the update ends, the defaults of all kept parameters are the chart's values exactly
where values that meet in one node of the schema agree. -/
theorem updated_defaults_match_iff (valuesData schema schema' : Json) (kept : List String)
    (h : updateDefaultsForExistingSchema valuesData kept schema = .ok schema')
    (hout : ReferencesStayOut schema valuesData kept) :
    DefaultsMatch schema' valuesData kept ↔ SharedDefaultsAgree schema valuesData kept := by
  have hsettled := update_settled h hout
  have hfound : ∀ visit ∈ keptVisits schema valuesData kept, defaultAt schema' visit.1 =
      settleAll pyEq (defaultAt schema) (keptVisits schema valuesData kept) visit.1 :=
    fun visit hvisit => hsettled.found visit.1 (List.mem_map_of_mem hvisit)
  have hmatch : DefaultsMatch schema' valuesData kept ↔
      ∀ visit ∈ keptVisits schema valuesData kept, visit.2.pyEq (settleAll pyEq
        (defaultAt schema) (keptVisits schema valuesData kept) visit.1) = true := by
    simp only [DefaultsMatch, ← mem_keptVisits_iff, keptVisits_eq hout hsettled.agrees]
    constructor
    · intro hall visit hvisit
      rw [← hfound visit hvisit]
      exact hall visit.1 visit.2 hvisit
    · intro hall node found hmem
      rw [hfound (node, found) hmem]
      exact hall (node, found) hmem
  rw [hmatch, settleAll_content_iff pyEq_equivalence]
  simp only [SharedDefaultsAgree, ← mem_keptVisits_iff]
  constructor
  · intro hall node found other hvisit hother
    exact hall (node, found) hvisit (node, other) hother rfl
  · rintro hall ⟨node, found⟩ hvisit ⟨node', other⟩ hother rfl
    exact hall _ found other hvisit hother

def probeSchema (timeout : Json) : Json :=
  let probe := .obj [("properties", .obj [("http", .obj [("properties",
    .obj [("timeout", .obj [("default", timeout)])])])])]
  let component := .obj [("properties", .obj [("probe", .obj [("$ref",
    .str "#/definitions/probe")])])]
  .obj [("$schema", .str ""), ("description", .str ""), ("type", .str "object"),
    ("definitions", .obj [("probe", probe)]),
    ("properties", .obj [("scheduler", component), ("worker", component)])]

def probeValues (scheduler worker : Json) : Json :=
  let component (timeout : Json) := .obj [("probe", .obj [("http",
    .obj [("timeout", timeout)])])]
  .obj [("scheduler", component scheduler), ("worker", component worker)]

def keptComponents : List String := ["scheduler", "worker"]

theorem equal_timeouts_match :
    DefaultsMatch (probeSchema (.int 5)) (probeValues (.int 5) (.int 5)) keptComponents := by
  have hupdate : updateDefaultsForExistingSchema (probeValues (.int 5) (.int 5)) keptComponents
      (probeSchema (.int 1)) = .ok (probeSchema (.int 5)) := by decide +kernel
  have hout : ReferencesStayOut (probeSchema (.int 1)) (probeValues (.int 5) (.int 5))
      keptComponents := by
    unfold ReferencesStayOut
    decide +kernel
  have hfive : ∀ visit ∈ keptVisits (probeSchema (.int 1)) (probeValues (.int 5) (.int 5))
      keptComponents, visit.2 = .int 5 := by decide +kernel
  refine (updated_defaults_match_iff _ _ _ _ hupdate hout).mpr ?_
  intro node found other hfound hother
  have hfirst := hfive _ (mem_keptVisits_iff.mpr hfound)
  have hsecond := hfive _ (mem_keptVisits_iff.mpr hother)
  simp only at hfirst hsecond
  rw [hfirst, hsecond, pyEq_refl]

/-- The second timeout is written over the first, in the definition of both. -/
theorem shared_timeout_overwritten :
    ¬ ∀ schema schema', reuseExistingParams (probeSchema (.int 1)) keptComponents = .ok schema →
      updateDefaultsForExistingSchema (probeValues (.int 5) (.int 9)) keptComponents schema =
        .ok schema' →
      DefaultsMatch schema' (probeValues (.int 5) (.int 9)) keptComponents := by
  intro h
  have hreuse : reuseExistingParams (probeSchema (.int 1)) keptComponents =
      .ok (probeSchema (.int 1)) := by decide +kernel
  have hupdate : updateDefaultsForExistingSchema (probeValues (.int 5) (.int 9)) keptComponents
      (probeSchema (.int 1)) = .ok (probeSchema (.int 9)) := by decide +kernel
  have hvisit : (["definitions", "probe", "properties", "http", "properties", "timeout"],
      Json.int 5) ∈ keptVisits (probeSchema (.int 9)) (probeValues (.int 5) (.int 9))
        keptComponents := by decide +kernel
  have hmatch := h _ _ hreuse hupdate _ _ (mem_keptVisits_iff.mp hvisit)
  exact absurd hmatch (by decide +kernel)

end QubershipAirflow.Schema
