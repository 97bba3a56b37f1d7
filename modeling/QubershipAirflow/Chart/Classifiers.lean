import QubershipAirflow.Chart.ConnectionNames
import QubershipAirflow.Secrets.MainDatabases

/-! The classifiers of the declarative mode, against those that the REST mode sends. -/
namespace QubershipAirflow.Chart

open Helm Secrets

/-- The classifier that a rendered one stands for. -/
def mergeExtraKeys (classifier : Fields) : Fields :=
  match field classifier "extraKeys" with
  | .obj extraKeys => omitKeys classifier ["extraKeys"] ++ extraKeys
  | _ => classifier

def SameDict (first second : Fields) : Prop := ∀ key, first.lookup key = second.lookup key

/-- The map of a connection, in the scope `service` and the release's namespace unless it
names others. -/
def withDefaults (ns : String) (c : Fields) : Fields :=
  setKey (setKey c "scope" (default (.str "service") (field c "scope"))) "namespace"
    (default (.str ns) (field c "namespace"))

/-- The optional keys of the classifier are not given as empty ones. -/
def NoEmptyKeys (c : Fields) : Prop :=
  ∀ key ∈ ["tenantId", "customKeys"], ∀ value, c.lookup key = some value → truthy value = true

section Rendered

variable {ns : String} {c : Fields} {key : String}

theorem noEmptyKeys_of_absent (htenant : c.lookup "tenantId" = none)
    (hcustom : c.lookup "customKeys" = none) : NoEmptyKeys c := by
  intro key hkey value hvalue
  simp only [List.mem_cons, List.not_mem_nil, or_false] at hkey
  rcases hkey with rfl | rfl
  · rw [htenant] at hvalue
    cases hvalue
  · rw [hcustom] at hvalue
    cases hvalue

theorem lookup_setPresent (fields : Fields) (other : String) (value : Json) :
    (setPresent fields other value).lookup key =
      if key = other ∧ truthy value = true then some value else fields.lookup key := by
  unfold setPresent
  split
  · rename_i htruthy
    simp [lookup_setKey, htruthy]
  · rename_i htruthy
    simp [htruthy]

theorem lookup_renderClassifier : (renderClassifier ns c).lookup key =
    if key = "extraKeys" ∧ truthy (.obj (omitKeys c ownKeys)) = true then
      some (.obj (omitKeys c ownKeys))
    else if key = "customKeys" ∧ truthy (field c "customKeys") = true then
      some (field c "customKeys")
    else if key = "tenantId" ∧ truthy (field c "tenantId") = true then
      some (field c "tenantId")
    else List.lookup key [("microserviceName", field c "microserviceName"),
      ("scope", default (.str "service") (field c "scope")),
      ("namespace", default (.str ns) (field c "namespace"))] := by
  simp only [renderClassifier, lookup_setPresent]

theorem lookup_rendered_optional (hkeys : NoEmptyKeys c) (h : key ∈ ["tenantId", "customKeys"]) :
    (renderClassifier ns c).lookup key = c.lookup key := by
  have hvalue : truthy (field c key) = true → some (field c key) = c.lookup key := fun htruthy =>
    (field_of_truthy c key htruthy).symm
  have hnone : ¬ truthy (field c key) = true → c.lookup key = none := by
    intro hempty
    cases hlookup : c.lookup key with
    | none => rfl
    | some value =>
        have htruthy := hkeys key h value hlookup
        simp [field, hlookup, htruthy] at hempty
  simp only [List.mem_cons, List.not_mem_nil, or_false] at h
  rcases h with rfl | rfl
  · rw [lookup_renderClassifier]
    by_cases htruthy : truthy (field c "tenantId") = true
    · simp [htruthy, hvalue htruthy]
    · simp [htruthy, hnone htruthy]
  · rw [lookup_renderClassifier]
    by_cases htruthy : truthy (field c "customKeys") = true
    · simp [htruthy, hvalue htruthy]
    · simp [htruthy, hnone htruthy]

theorem field_rendered_extraKeys : field (renderClassifier ns c) "extraKeys" =
    if omitKeys c ownKeys = [] then .null else .obj (omitKeys c ownKeys) := by
  unfold field
  rw [lookup_renderClassifier]
  cases hextra : omitKeys c ownKeys with
  | nil => simp [truthy, Json.lookup_entry]
  | cons entry rest => simp [truthy]

theorem lookup_omitted (h : key ∉ ownKeys) :
    (omitKeys c ownKeys).lookup key = c.lookup key := by
  rw [lookup_omitKeys, if_neg h]

theorem lookup_rendered_other (h : key ∉ ownKeys)
    (hextra : key ≠ "extraKeys" ∨ omitKeys c ownKeys = []) :
    (renderClassifier ns c).lookup key = none := by
  have hnot : ¬ (key = "extraKeys" ∧ truthy (.obj (omitKeys c ownKeys)) = true) := by
    rintro ⟨hkey, htruthy⟩
    rcases hextra with hne | hempty
    · exact hne hkey
    · simp [truthy, hempty] at htruthy
  simp only [ownKeys, List.mem_cons, List.not_mem_nil, or_false, not_or] at h
  obtain ⟨hname, hscope, hns, htenant, hcustom⟩ := h
  rw [lookup_renderClassifier, if_neg hnot, if_neg (by simp [hcustom]), if_neg (by simp [htenant])]
  simp only [Json.lookup_entry, if_neg hname, if_neg hscope, if_neg hns, List.lookup_nil]

/-- Merging gives back every key of the map but the chart's own, which are rendered. -/
theorem lookup_mergeExtraKeys : (mergeExtraKeys (renderClassifier ns c)).lookup key =
    if key ∈ ownKeys then (renderClassifier ns c).lookup key else c.lookup key := by
  unfold mergeExtraKeys
  rw [field_rendered_extraKeys]
  by_cases hempty : omitKeys c ownKeys = []
  · rw [if_pos hempty]
    by_cases hkey : key ∈ ownKeys
    · rw [if_pos hkey]
    · have hrest := lookup_omitted (c := c) hkey
      rw [hempty, List.lookup_nil] at hrest
      rw [if_neg hkey, ← hrest, lookup_rendered_other hkey (.inr hempty)]
  · rw [if_neg hempty]
    simp only [List.lookup_append, lookup_omitKeys, List.mem_singleton]
    by_cases hkey : key ∈ ownKeys
    · have hne : key ≠ "extraKeys" := by
        rintro rfl
        exact absurd hkey (by decide)
      rw [if_pos hkey, if_neg hne, if_pos hkey, Option.or_none]
    · rw [if_neg hkey, if_neg hkey]
      by_cases hextra : key = "extraKeys"
      · rw [if_pos hextra, Option.none_or]
      · rw [if_neg hextra, lookup_rendered_other hkey (.inl hextra), Option.none_or]

theorem lookup_rendered_fixed (h : key ∈ ["microserviceName", "scope", "namespace"]) :
    (renderClassifier ns c).lookup key =
      if key = "microserviceName" then some (field c "microserviceName")
      else (withDefaults ns c).lookup key := by
  simp only [List.mem_cons, List.not_mem_nil, or_false] at h
  rw [lookup_renderClassifier, withDefaults, lookup_setKey, lookup_setKey]
  rcases h with rfl | rfl | rfl <;> simp [Json.lookup_entry]

theorem lookup_withDefaults_other (h : key ∉ ["scope", "namespace"]) :
    (withDefaults ns c).lookup key = c.lookup key := by
  simp only [List.mem_cons, List.not_mem_nil, or_false, not_or] at h
  rw [withDefaults, lookup_setKey, if_neg h.2, lookup_setKey, if_neg h.1]

theorem merged_sameDict (ns : String) (hkeys : NoEmptyKeys c) :
    SameDict (mergeExtraKeys (renderClassifier ns c))
      (setKey (withDefaults ns c) "microserviceName" (field c "microserviceName")) := by
  intro key
  rw [lookup_mergeExtraKeys, lookup_setKey]
  by_cases hmicroservice : key = "microserviceName"
  · subst hmicroservice
    rw [if_pos (by decide), lookup_rendered_fixed (by decide), if_pos rfl]
  rw [if_neg hmicroservice]
  by_cases hown : key ∈ ownKeys
  · rw [if_pos hown]
    by_cases hoptional : key ∈ ["tenantId", "customKeys"]
    · have hother : key ∉ ["scope", "namespace"] := by
        simp only [List.mem_cons, List.not_mem_nil, or_false] at hoptional
        rcases hoptional with rfl | rfl <;> decide
      rw [lookup_rendered_optional hkeys hoptional, lookup_withDefaults_other hother]
    · have hfixed : key ∈ ["microserviceName", "scope", "namespace"] := by
        simp only [ownKeys, List.mem_cons, List.not_mem_nil, or_false] at hown hoptional ⊢
        grind
      rw [lookup_rendered_fixed hfixed, if_neg hmicroservice]
  · have hother : key ∉ ["scope", "namespace"] := by
      simp only [ownKeys, List.mem_cons, List.not_mem_nil, or_false, not_or] at hown ⊢
      exact ⟨hown.2.1, hown.2.2.1⟩
    rw [if_neg hown, lookup_withDefaults_other hother]

theorem merged_sameDict_iff (hkeys : NoEmptyKeys c) :
    SameDict (mergeExtraKeys (renderClassifier ns c)) (withDefaults ns c) ↔
      (c.lookup "microserviceName").isSome = true := by
  have hmerged := merged_sameDict ns hkeys
  have hgiven : (withDefaults ns c).lookup "microserviceName" = c.lookup "microserviceName" :=
    lookup_withDefaults_other (by decide)
  constructor
  · intro hsame
    have hname := hmerged "microserviceName"
    rw [lookup_setKey, if_pos rfl, hsame "microserviceName", hgiven] at hname
    rw [hname, Option.isSome_some]
  · intro hsome key
    obtain ⟨value, hvalue⟩ := Option.isSome_iff_exists.mp hsome
    rw [hmerged key, lookup_setKey]
    by_cases hmicroservice : key = "microserviceName"
    · rw [if_pos hmicroservice, hmicroservice, hgiven, field, hvalue, Option.getD_some]
    · rw [if_neg hmicroservice]

theorem databaseClassifier_sameDict {main : MainDatabase} (own : main.ns = "") :
    SameDict (withDefaults ns main.classifier)
      (databaseClassifier ns main.microserviceName) := by
  have hfields : main.classifier = [("microserviceName", .str main.microserviceName),
      ("scope", .str "service"), ("isServiceDb", .str "true")] := by
    simp [MainDatabase.classifier, own, setPresent, truthy]
  have hscope : default (.str "service") (field main.classifier "scope") = .str "service" := by
    rw [hfields]; simp [field, Json.lookup_entry, Helm.default, truthy]
  have hns : default (.str ns) (field main.classifier "namespace") = .str ns := by
    rw [hfields]; simp [field, Json.lookup_entry, Helm.default, truthy]
  intro key
  rw [withDefaults, hscope, hns, hfields]
  simp only [databaseClassifier, lookup_setKey, Json.lookup_entry, List.lookup_nil]
  grind

theorem mainClassifier_sameDict {main : MainDatabase} (own : main.ns = "") :
    SameDict (mergeExtraKeys (renderClassifier ns main.classifier))
      (databaseClassifier ns main.microserviceName) := by
  have hkeys : NoEmptyKeys main.classifier := by
    apply noEmptyKeys_of_absent <;>
      simp [MainDatabase.classifier, own, setPresent, truthy, Json.lookup_entry]
  have hname : (main.classifier.lookup "microserviceName").isSome = true := by
    simp [MainDatabase.classifier, own, setPresent, truthy]
  intro key
  rw [(merged_sameDict_iff hkeys).mpr hname key, databaseClassifier_sameDict own key]

end Rendered

variable {Connection : Type}

/-- All requests of the REST mode for this database carry the rendered classifier. -/
def KeepsDatabase (backend : Backend Connection) (jobHost : String) (main : MainDatabase)
    (database : Database) : Prop :=
  ∀ parameters : DatabaseParameters, parameters.microserviceName = main.microserviceName →
    ∀ request ∈ [createDatabaseRequest jobHost backend.settings.ownNamespace database.type
        parameters, backend.mainLookupRequest database.type parameters,
        backend.mainCreateRequest database.type parameters],
      ∃ classifier, request.data.getItem "classifier" = .ok (.obj classifier) ∧
        SameDict (mergeExtraKeys database.classifier) classifier

theorem keepsDatabase_of_classifier {backend : Backend Connection} {jobHost ns : String}
    {main : MainDatabase} {database : Database} (owner : main.ns = "")
    (own : backend.settings.ownNamespace = ns)
    (h : database.classifier = renderClassifier ns main.classifier) :
    KeepsDatabase backend jobHost main database := by
  intro parameters hname request hrequest
  have hsame : SameDict (mergeExtraKeys database.classifier)
      (databaseClassifier ns parameters.microserviceName) := by
    rw [h, hname]
    exact mainClassifier_sameDict owner
  refine ⟨_, ?_, hsame⟩
  simp only [List.mem_cons, List.not_mem_nil, or_false] at hrequest
  rcases hrequest with rfl | rfl | rfl <;>
    simp [createDatabaseRequest, Backend.mainLookupRequest, Backend.mainCreateRequest,
      DatabaseParameters.lookupData, Json.getItem, Json.lookup_entry, own]

/-- A change of the mode keeps Airflow's own databases, and the database of a connection
exactly where its classifier names a microservice; any other one gets a null name. -/
theorem modes_keep_databases (backend : Backend Connection) (jobHost : String)
    (values : DeclarativeValues) (lower : String → String)
    (own : backend.settings.ownNamespace = values.ns) :
    (values.postgresql.ns = "" →
      KeepsDatabase backend jobHost values.postgresql values.pgDatabase) ∧
    (values.redis.ns = "" → KeepsDatabase backend jobHost values.redis values.redisDatabase) ∧
    ∀ entry ∈ values.connections, NoEmptyKeys entry.2.classifier →
      let merged := mergeExtraKeys (values.connectionDatabase lower entry).classifier
      let sent := withDefaults values.ns entry.2.classifier
      (SameDict merged sent ↔ (entry.2.classifier.lookup "microserviceName").isSome = true) ∧
        (entry.2.classifier.lookup "microserviceName" = none →
          SameDict merged (setKey sent "microserviceName" .null)) := by
  refine ⟨fun owner => keepsDatabase_of_classifier owner own rfl,
    fun owner => keepsDatabase_of_classifier owner own rfl, fun entry _ hkeys =>
      ⟨merged_sameDict_iff hkeys, fun hnone => ?_⟩⟩
  have hmerged := merged_sameDict values.ns hkeys
  rwa [field, hnone, Option.getD_none] at hmerged

def namelessParams : ConnectionParams :=
  { postgresqlParams with classifier := [("scope", .str "service"), ("zone", .str "a")] }

def mixedValues : DeclarativeValues :=
  declarativeValues "CeleryExecutor"
    [("Orders_db_dbaas", postgresqlParams), ("billing_dbaas", namelessParams)] (by decide)

theorem orders_modes_keep_databases :
    KeepsDatabase operatorBackend "http://dbaas" mixedValues.postgresql mixedValues.pgDatabase ∧
    SameDict (mergeExtraKeys (mixedValues.connectionDatabase lowerAscii
        ("Orders_db_dbaas", postgresqlParams)).classifier)
      (withDefaults "airflow" postgresqlParams.classifier) ∧
    SameDict (mergeExtraKeys (mixedValues.connectionDatabase lowerAscii
        ("billing_dbaas", namelessParams)).classifier)
      [("microserviceName", .null), ("namespace", .str "airflow"), ("scope", .str "service"),
        ("zone", .str "a")] := by
  obtain ⟨hpg, -, hconnections⟩ := modes_keep_databases operatorBackend "http://dbaas"
    mixedValues lowerAscii rfl
  have hnamed : NoEmptyKeys postgresqlParams.classifier :=
    noEmptyKeys_of_absent (by decide) (by decide)
  have hnameless : NoEmptyKeys namelessParams.classifier :=
    noEmptyKeys_of_absent (by decide) (by decide)
  have hconnection : ∀ entry ∈ mixedValues.params, isConnection entry = true := by decide
  have hmem {entry : String × ConnectionParams} (h : entry ∈ mixedValues.params) :
      entry ∈ mixedValues.connections := List.mem_filter.mpr ⟨h, hconnection entry h⟩
  exact ⟨hpg rfl, (hconnections _ (hmem List.mem_cons_self) hnamed).1.mpr rfl,
    (hconnections ("billing_dbaas", namelessParams)
      (hmem (List.mem_cons_of_mem _ List.mem_cons_self)) hnameless).2 rfl⟩

/-- The chart renders a microservice name of null for a map without one. -/
theorem nameless_classifier_changed :
    ¬ ∀ (ns : String) (c : Fields), NoEmptyKeys c →
      SameDict (mergeExtraKeys (renderClassifier ns c)) (withDefaults ns c) := by
  intro h
  have hkeys : NoEmptyKeys namelessParams.classifier :=
    noEmptyKeys_of_absent (by decide) (by decide)
  have hname := (merged_sameDict_iff hkeys).mp (h "airflow" _ hkeys)
  exact absurd hname (by decide)

end QubershipAirflow.Chart
