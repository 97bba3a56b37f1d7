import Mathlib.Data.List.Forall2
import Mathlib.Data.List.Nodup
import QubershipAirflow.Chart.Declarative
import QubershipAirflow.Library.Paths
import QubershipAirflow.Secrets.Degradation

/-! Which connections share a mounted directory or a resource name: the directories of
the backend and the names of the chart are computed apart, by one rule. -/
namespace QubershipAirflow.Chart

open Helm Secrets Paths

/-- `Path(dbaas_mounted_secrets_dir) / directory`, where files are read from it. -/
def secretDir (base : List Paths.Component) (directory : String) : List Paths.Component :=
  resolve base directory

structure IsEntryName (text : String) : Prop where
  ne_empty : text ≠ ""
  ne_dot : text ≠ "."
  ne_dots : text ≠ ".."
  noSlash : '/' ∉ text.toList

def dash (c : Char) : Char := if c = '_' then '-' else c

def SameSign (c d : Char) : Prop := c = d ∨ (c = '_' ∨ c = '-') ∧ (d = '_' ∨ d = '-')

def SameSigns (text other : List Char) : Prop := List.Forall₂ SameSign text other

def Alike (a b : String) : Prop := SameSigns a.toList b.toList

def AlikeParts (parts others : List Paths.Component) : Prop := List.Forall₂ SameSigns parts others

def pathRoute (path : String) : Route := route (components path)

/-- How many names of the base lead to the directory in which the path's own names are. -/
def keptNames (base : List Paths.Component) (path : String) : Nat :=
  if IsAbsolute path then 0 else base.length - (pathRoute path).climbs

/-- The names lead through some of the base's, once they hold `-` for `_`, to the others. -/
def LeadsInto (between names others : List Paths.Component) : Prop :=
  ∃ start rest, names = start ++ rest ∧ start.map (List.map dash) = between ∧
    AlikeParts rest others

/-- Ids, in lower case, that have one mounted directory. -/
def SamePlace (base : List Paths.Component) (a b : String) : Prop :=
  if keptNames base a ≤ keptNames base b then
    LeadsInto ((base.take (keptNames base b)).drop (keptNames base a)) (pathRoute a).names
      (pathRoute b).names
  else
    LeadsInto ((base.take (keptNames base a)).drop (keptNames base b)) (pathRoute b).names
      (pathRoute a).names

/-- No two connections have one directory, and none has that of a database of Airflow. -/
def PlacesApart (base : List Paths.Component) (lower : String → String)
    (ids : List String) : Prop :=
  (ids.Pairwise fun a b => ¬SamePlace base (lower a) (lower b)) ∧
    ∀ id ∈ ids, ¬SamePlace base (lower id) "postgresql" ∧ ¬SamePlace base (lower id) "redis"

/-- Connections that are told apart, and not taken for a database of Airflow's own. -/
def KeptApart (lower : String → String) (reserved ids : List String) : Prop :=
  (ids.Pairwise fun a b => ¬Alike (lower a) (lower b)) ∧ ∀ id ∈ ids, lower id ∉ reserved

def DirectoriesApart (base : List Paths.Component) (lower : String → String)
    (ids : List String) : Prop :=
  let directories := ids.map fun id => secretDir base (connectionDirectory lower id)
  directories.Nodup ∧ secretDir base "postgresql" ∉ directories ∧
    secretDir base "redis" ∉ directories

def DeclarativeValues.ResourcesApart (values : DeclarativeValues)
    (lower : String → String) : Prop :=
  ((values.internalDatabases lower).map Database.name).Nodup ∧
    ((values.databaseSecretClaims lower).map Database.name).Nodup

def DeclarativeValues.connectionIds (values : DeclarativeValues) : List String :=
  values.connections.map fun entry => connectionId entry.1

def DeclarativeValues.ownNames (values : DeclarativeValues) : List String :=
  "postgresql" :: if values.hasExecutor "CeleryExecutor" then ["redis"] else []

section Rule

/-- In operator mode the directory decides which Secret a connection gets. -/
theorem getConnFromDbaas_mounted {Connection : Type} {backend : Backend Connection}
    {connId : String} {entry : Json} (operator : backend.settings.dbaasOperatorEnabled = true)
    (configured : backend.HasPostgresql connId entry) :
    backend.getConnFromDbaas entry connId = (do
      let _ ← backend.requestNamespace backend.settings.dbaasConnNamespaceFromConfig entry
      backend.getMountedProperties (connectionDirectory backend.airflow.lower connId)
        "postgresql") := by
  obtain ⟨-, dbType, htype, hpg⟩ := configured
  simp [Backend.getConnFromDbaas, htype, hpg, operator, bind, Except.bind]

theorem splitOn_map {f : Char → Char} {sep : Char} (hsep : ∀ c, f c = sep ↔ c = sep)
    (text : List Char) : (text.map f).splitOn sep = (text.splitOn sep).map (List.map f) := by
  induction text with
  | nil => rfl
  | cons c rest ih =>
    rw [List.map_cons, List.splitOn_cons_eq_if_modifyHead, List.splitOn_cons_eq_if_modifyHead, ih]
    by_cases hc : c = sep
    · simp [hc, (hsep sep).mpr rfl]
    · have hfc : f c ≠ sep := fun heq => hc ((hsep c).mp heq)
      simp only [beq_iff_eq, hc, hfc, if_false]
      cases rest.splitOn sep <;> rfl

theorem dash_eq_iff {d : Char} (hdash : d ≠ '-') (hunderscore : d ≠ '_') (c : Char) :
    dash c = d ↔ c = d := by
  unfold dash
  split <;> grind

theorem dash_eq_dash_iff (c d : Char) : dash c = dash d ↔ SameSign c d := by
  unfold dash SameSign
  split <;> split <;> grind

theorem map_dash_eq_iff (text other : List Char) :
    text.map dash = other.map dash ↔ SameSigns text other := by
  rw [← List.forall₂_eq_eq_eq, List.forall₂_map_left_iff, List.forall₂_map_right_iff]
  simp only [dash_eq_dash_iff, SameSigns]

theorem parts_dash_eq_iff (parts others : List Paths.Component) :
    parts.map (List.map dash) = others.map (List.map dash) ↔ AlikeParts parts others := by
  rw [← List.forall₂_eq_eq_eq, List.forall₂_map_left_iff, List.forall₂_map_right_iff]
  simp only [map_dash_eq_iff, AlikeParts]

theorem toList_replaceChar (text : String) :
    (replaceChar '_' '-' text).toList = text.toList.map dash := by
  simp only [replaceChar, String.toList_map]
  rfl

theorem replaceChar_eq_iff (a b : String) :
    replaceChar '_' '-' a = replaceChar '_' '-' b ↔ Alike a b := by
  rw [← String.toList_inj, toList_replaceChar, toList_replaceChar]
  exact map_dash_eq_iff ..

theorem replaceChar_of_notMem {text : String} (h : '_' ∉ text.toList) :
    replaceChar '_' '-' text = text := by
  rw [← String.toList_inj, toList_replaceChar]
  have hsame : ∀ c ∈ text.toList, dash c = c := by
    intro c hc
    rw [dash, if_neg (by rintro rfl; exact h hc)]
  exact (List.map_congr_left hsame).trans (List.map_id' _)

theorem replaceChar_eq_plain_iff {text name : String} (hdash : '-' ∉ name.toList)
    (hunderscore : '_' ∉ name.toList) : replaceChar '_' '-' text = name ↔ text = name := by
  constructor
  · intro h
    have htext : '_' ∉ text.toList := by
      intro hmem
      apply hdash
      rw [← h, toList_replaceChar]
      exact List.mem_map.mpr ⟨'_', hmem, rfl⟩
    rw [← h, replaceChar_of_notMem htext]
  · rintro rfl
    exact replaceChar_of_notMem hunderscore

theorem alike_plain_iff {text name : String} (hdash : '-' ∉ name.toList)
    (hunderscore : '_' ∉ name.toList) : Alike text name ↔ text = name := by
  rw [← replaceChar_eq_iff, replaceChar_of_notMem hunderscore,
    replaceChar_eq_plain_iff hdash hunderscore]

theorem components_replaceChar (text : String) :
    components (replaceChar '_' '-' text) = (components text).map (List.map dash) := by
  have hkept (part : Paths.Component) : (part.map dash ≠ [] ∧ part.map dash ≠ ['.']) ↔
      part ≠ [] ∧ part ≠ ['.'] := by
    rcases part with _ | ⟨c, _ | ⟨d, part⟩⟩ <;> simp [dash_eq_iff]
  rw [components, toList_replaceChar, splitOn_map (dash_eq_iff (by decide) (by decide)),
    List.filter_map]
  simp only [Function.comp_def, hkept, components]

theorem isDots_map_dash (part : Paths.Component) : isDots (part.map dash) = isDots part := by
  rcases part with _ | ⟨c, _ | ⟨d, _ | ⟨e, part⟩⟩⟩ <;> simp [isDots, dash_eq_iff]

theorem isAbsolute_replaceChar (text : String) :
    IsAbsolute (replaceChar '_' '-' text) ↔ IsAbsolute text := by
  rw [IsAbsolute, toList_replaceChar, IsAbsolute]
  cases text.toList with
  | nil => simp
  | cons c rest =>
    have hslash := @dash_eq_iff '/' (by decide) (by decide) c
    simpa [eq_comm] using hslash

theorem secretDir_replaceChar (base : List Paths.Component) (path : String) :
    secretDir base (replaceChar '_' '-' path) =
      base.take (keptNames base path) ++ (pathRoute path).names.map (List.map dash) := by
  simp only [secretDir, resolve, walk_eq_target, components_replaceChar,
    route_map isDots_map_dash, isAbsolute_replaceChar, keptNames, Route.target, pathRoute]
  split_ifs <;> simp

theorem leadsInto_iff {between names others : List Paths.Component} :
    names.map (List.map dash) = between ++ others.map (List.map dash) ↔
      LeadsInto between names others := by
  rw [List.map_eq_append_iff]
  simp only [parts_dash_eq_iff, LeadsInto]

theorem take_append_eq_iff {base : List Paths.Component} {i j : Nat} (h : i ≤ j)
    (names others : List Paths.Component) : base.take i ++ names = base.take j ++ others ↔
      names = (base.take j).drop i ++ others := by
  have hsplit : base.take j = base.take i ++ (base.take j).drop i := by
    have hboth := List.take_append_drop i (base.take j)
    rwa [List.take_take, Nat.min_eq_left h, eq_comm] at hboth
  rw [hsplit, List.append_assoc, List.append_cancel_left_eq, ← hsplit]

theorem secretDir_eq_iff (base : List Paths.Component) (a b : String) :
    secretDir base (replaceChar '_' '-' a) = secretDir base (replaceChar '_' '-' b) ↔
      SamePlace base a b := by
  rw [secretDir_replaceChar, secretDir_replaceChar, SamePlace]
  split_ifs with h
  · rw [take_append_eq_iff h, leadsInto_iff]
  · rw [eq_comm, take_append_eq_iff (by omega), leadsInto_iff]

theorem IsEntryName.pathRoute {text : String} (h : IsEntryName text) :
    pathRoute text = ⟨0, [text.toList]⟩ := by
  have hne : text.toList ≠ [] := by simpa using h.ne_empty
  have hdot : text.toList ≠ ['.'] := fun hdot => h.ne_dot (String.toList_inj.mp hdot)
  have hdots : text.toList ≠ ['.', '.'] := fun hdots => h.ne_dots (String.toList_inj.mp hdots)
  simp [Chart.pathRoute, components, List.splitOn_eq_singleton h.noSlash, hne, hdot, route,
    Route.enter, isDots, hdots]

theorem IsEntryName.keptNames {text : String} (h : IsEntryName text) (base : List Paths.Component) :
    keptNames base text = base.length := by
  have hrelative : ¬IsAbsolute text := by
    rintro ⟨rest, hrest⟩
    exact h.noSlash (by rw [← hrest]; simp)
  rw [Chart.keptNames, if_neg hrelative, h.pathRoute, Nat.sub_zero]

theorem IsEntryName.samePlace_iff {base : List Paths.Component} {a b : String} (ha : IsEntryName a)
    (hb : IsEntryName b) : SamePlace base a b ↔ Alike a b := by
  rw [SamePlace, ha.keptNames, hb.keptNames, if_pos (Nat.le_refl _), ha.pathRoute, hb.pathRoute,
    List.take_length, List.drop_length, ← leadsInto_iff, List.nil_append, parts_dash_eq_iff]
  simp [AlikeParts, Alike]

variable {base : List Paths.Component} {lower : String → String} {ids : List String}

theorem connectionDirectory_eq (id : String) :
    connectionDirectory lower id = replaceChar '_' '-' (lower id) := rfl

theorem directoriesApart_iff :
    DirectoriesApart base lower ids ↔ PlacesApart base lower ids := by
  have hown {name : String} (hname : '_' ∉ name.toList) :
      secretDir base name ∉ ids.map (fun id => secretDir base (connectionDirectory lower id)) ↔
        ∀ id ∈ ids, ¬SamePlace base (lower id) name := by
    simp only [List.mem_map, not_exists, not_and]
    refine forall₂_congr fun id _ => not_congr ?_
    have hsame := secretDir_eq_iff base (lower id) name
    rwa [replaceChar_of_notMem hname] at hsame
  have hpairs : (ids.map fun id => secretDir base (connectionDirectory lower id)).Nodup ↔
      ids.Pairwise fun a b => ¬SamePlace base (lower a) (lower b) := by
    rw [List.Nodup, List.pairwise_map]
    simp only [Ne, connectionDirectory_eq, secretDir_eq_iff]
  have hpg := hown (by decide : '_' ∉ "postgresql".toList)
  have hredis := hown (by decide : '_' ∉ "redis".toList)
  simp only [DirectoriesApart, PlacesApart, hpairs, hpg, hredis, forall_and]

theorem placesApart_iff (hids : ∀ id ∈ ids, IsEntryName (lower id)) :
    PlacesApart base lower ids ↔ KeptApart lower ["postgresql", "redis"] ids := by
  have hpg : IsEntryName "postgresql" := by constructor <;> decide
  have hredis : IsEntryName "redis" := by constructor <;> decide
  refine and_congr (List.Pairwise.iff_of_mem fun {a b} ha hb => ?_) (forall₂_congr fun id hid => ?_)
  · rw [(hids a ha).samePlace_iff (hids b hb)]
  · rw [(hids id hid).samePlace_iff hpg, (hids id hid).samePlace_iff hredis,
      alike_plain_iff (by decide) (by decide), alike_plain_iff (by decide) (by decide)]
    simp

theorem DeclarativeValues.databases_names {values : DeclarativeValues}
    (enabled : values.enabled = true) :
    (values.databases lower).map Database.name =
      (values.ownNames ++ values.connectionIds.map fun id => replaceChar '_' '-' (lower id)).map
        fun name => values.fullname ++ "-" ++ name := by
  have hown (name : String) : values.fullname ++ "-" ++ name = values.fullname ++ ("-" ++ name) :=
    String.append_assoc ..
  have hpg : "-" ++ "postgresql" = "-postgresql" := by decide
  have hredis : "-" ++ "redis" = "-redis" := by decide
  cases hcelery : values.hasExecutor "CeleryExecutor" <;>
    simp [databases, enabled, hcelery, ownNames, connectionIds, pgDatabase, redisDatabase,
      connectionDatabase, database, connectionName, hown, hpg, hredis]

theorem DeclarativeValues.connectionIds_nodup (values : DeclarativeValues) :
    values.connectionIds.Nodup := by
  have hkeys : values.connections.Pairwise fun entry other => entry.1 ≠ other.1 :=
    (List.pairwise_map.mp values.paramsKeyed).sublist List.filter_sublist
  rw [connectionIds, List.Nodup, List.pairwise_map]
  refine hkeys.imp_of_mem fun {entry other} hentry hother hne heq => hne ?_
  have hsuffix := (List.mem_filter.mp hentry).2
  have hsuffix' := (List.mem_filter.mp hother).2
  simp only [isConnection, Bool.and_eq_true] at hsuffix hsuffix'
  exact trimSuffix_inj hsuffix.1 hsuffix'.1 heq

theorem DeclarativeValues.ownNames_plain {values : DeclarativeValues} {name : String}
    (h : name ∈ values.ownNames) : '-' ∉ name.toList ∧ '_' ∉ name.toList := by
  have hname : name = "postgresql" ∨ name = "redis" := by
    unfold ownNames at h
    split at h <;> simp_all
  rcases hname with rfl | rfl <;> decide

theorem DeclarativeValues.ownNames_nodup (values : DeclarativeValues) :
    values.ownNames.Nodup := by
  unfold ownNames
  split <;> decide

theorem DeclarativeValues.resourcesApart_iff_nodup (values : DeclarativeValues) :
    values.ResourcesApart lower ↔ ((values.databases lower).map Database.name).Nodup := by
  constructor
  · exact fun h => h.2
  · intro h
    have hsub : (values.internalDatabases lower).Sublist (values.databases lower) :=
      List.filter_sublist
    exact ⟨h.sublist (hsub.map Database.name), h⟩

theorem DeclarativeValues.resourcesApart_iff {values : DeclarativeValues}
    (enabled : values.enabled = true) :
    values.ResourcesApart lower ↔ KeptApart lower values.ownNames values.connectionIds := by
  have hpairs : (values.connectionIds.map fun id => replaceChar '_' '-' (lower id)).Nodup ↔
      values.connectionIds.Pairwise fun a b => ¬Alike (lower a) (lower b) := by
    rw [List.Nodup, List.pairwise_map]
    simp only [Ne, replaceChar_eq_iff]
  have hown : (∀ name ∈ values.ownNames, ∀ other ∈ values.connectionIds.map fun id =>
      replaceChar '_' '-' (lower id), name ≠ other) ↔
        ∀ id ∈ values.connectionIds, lower id ∉ values.ownNames := by
    constructor
    · intro h id hid hmem
      have hplain := ownNames_plain hmem
      have hsame := (replaceChar_eq_plain_iff hplain.1 hplain.2).mpr (rfl : lower id = lower id)
      exact h _ hmem _ (List.mem_map_of_mem hid) hsame.symm
    · intro h name hname other hother heq
      obtain ⟨id, hid, rfl⟩ := List.mem_map.mp hother
      have hplain := ownNames_plain hname
      have hid' := (replaceChar_eq_plain_iff hplain.1 hplain.2).mp heq.symm
      exact h id hid (hid' ▸ hname)
  rw [resourcesApart_iff_nodup, databases_names enabled,
    List.nodup_map_iff (append_left_injective _), List.nodup_append, hpairs, hown]
  exact and_iff_right values.ownNames_nodup

end Rule

/-- Connections are told apart, by the backend and by the chart, exactly where their ids
in lower case differ beyond `_` and `-` and are not the name of a database of Airflow. -/
theorem connections_kept_apart_iff {Connection : Type} (backend : Backend Connection)
    (base : List Paths.Component) (ids : List String) (values : DeclarativeValues)
    (goLower : String → String) (operator : backend.settings.dbaasOperatorEnabled = true)
    (enabled : values.enabled = true) :
    (∀ id ∈ ids, ∀ entry, backend.HasPostgresql id entry →
      backend.getConnFromDbaas entry id = (do
        let _ ← backend.requestNamespace backend.settings.dbaasConnNamespaceFromConfig entry
        backend.getMountedProperties (connectionDirectory backend.airflow.lower id)
          "postgresql")) ∧
    (DirectoriesApart base backend.airflow.lower ids ↔
      PlacesApart base backend.airflow.lower ids) ∧
    ((∀ id ∈ ids, IsEntryName (backend.airflow.lower id)) →
      (DirectoriesApart base backend.airflow.lower ids ↔
        KeptApart backend.airflow.lower ["postgresql", "redis"] ids)) ∧
    values.connectionIds.Nodup ∧
    (values.ResourcesApart goLower ↔
      KeptApart goLower values.ownNames values.connectionIds) :=
  ⟨fun _ _ _ configured => getConnFromDbaas_mounted operator configured,
    directoriesApart_iff, fun named => directoriesApart_iff.trans (placesApart_iff named),
    values.connectionIds_nodup, DeclarativeValues.resourcesApart_iff enabled⟩

def lowerAscii (text : String) : String := String.ofList (text.toList.map Char.toLower)

def declarativeValues (executor : String) (params : List (String × ConnectionParams))
    (keyed : (params.map Prod.fst).Nodup) : DeclarativeValues where
  name := "airflow"
  ns := "airflow"
  useStandardNaming := false
  fullnameOverride := ""
  nameOverride := ""
  executor := executor
  enabled := true
  operatorNamespace := "dbaas-operator"
  existingConnections := []
  serviceName := "airflow"
  postgresql := { microserviceName := "airflow", ns := "", namePrefix := "", secretName := "" }
  redis := { microserviceName := "airflow", ns := "", namePrefix := "", secretName := "" }
  params := params
  paramsKeyed := keyed

def postgresqlParams : ConnectionParams where
  type := .str "postgresql"
  classifier := [("microserviceName", .str "orders")]
  namePrefix := .null
  settings := .null
  originService := .null

def ordersValues : DeclarativeValues :=
  declarativeValues "CeleryExecutor" [("Orders_db_dbaas", postgresqlParams)] (by decide)

def operatorBackend : Backend String :=
  { refusedBackend with
    settings := { refusedBackend.settings with dbaasOperatorEnabled := true }
    airflow := { refusedBackend.airflow with lower := lowerAscii } }

def shopValues : DeclarativeValues :=
  declarativeValues "CeleryExecutor"
    [("Orders_db_dbaas", postgresqlParams), ("billing_dbaas", postgresqlParams)] (by decide)

def mountedSecrets : List Paths.Component :=
  ["var".toList, "run".toList, "secrets".toList, "dbaas-declarative".toList]

theorem orders_kept_apart :
    PlacesApart mountedSecrets lowerAscii ["Orders_db", "billing", "redis/../sales"] ∧
      DirectoriesApart mountedSecrets lowerAscii ["Orders_db", "billing"] ∧
        shopValues.ResourcesApart lowerAscii := by
  have hname : ∀ id ∈ ["Orders_db", "billing"], IsEntryName (lowerAscii id) := by
    intro id hid
    simp only [List.mem_cons, List.not_mem_nil, or_false] at hid
    rcases hid with rfl | rfl <;> constructor <;> decide
  have halike : ¬Alike (lowerAscii "Orders_db") (lowerAscii "billing") :=
    (map_dash_eq_iff ..).not.mp (by decide)
  have hapart (reserved : List String) (h : ∀ id ∈ ["Orders_db", "billing"],
      lowerAscii id ∉ reserved) : KeptApart lowerAscii reserved ["Orders_db", "billing"] :=
    ⟨by simpa using halike, h⟩
  have hids : shopValues.connectionIds = ["Orders_db", "billing"] := by decide
  obtain ⟨-, hplaces, -⟩ := connections_kept_apart_iff operatorBackend mountedSecrets
    ["Orders_db", "billing", "redis/../sales"] shopValues lowerAscii rfl rfl
  obtain ⟨-, -, hdirectories, -, hresources⟩ := connections_kept_apart_iff operatorBackend
    mountedSecrets ["Orders_db", "billing"] shopValues lowerAscii rfl rfl
  rw [hids] at hresources
  refine ⟨hplaces.mp ?_, (hdirectories hname).mpr (hapart _ (by decide)),
    hresources.mpr (hapart _ (by decide))⟩
  simp only [DirectoriesApart, List.map_cons, List.map_nil, connectionDirectory_eq,
    secretDir_replaceChar]
  decide

def clashingValues : DeclarativeValues :=
  declarativeValues "CeleryExecutor"
    [("a-b_dbaas", postgresqlParams), ("a_b_dbaas", postgresqlParams)] (by decide)

/-- Two ids of one directory and one resource name, and one that leads to the directory of a
database of Airflow. -/
theorem clashing_not_kept_apart :
    ["a-b", "a_b"].Nodup ∧ ¬DirectoriesApart mountedSecrets lowerAscii ["a-b", "a_b"] ∧
      ¬DirectoriesApart mountedSecrets lowerAscii ["redis/../postgresql"] ∧
        ¬clashingValues.ResourcesApart lowerAscii := by
  have halike : Alike (lowerAscii "a-b") (lowerAscii "a_b") :=
    (map_dash_eq_iff ..).mp (by decide)
  have hids : clashingValues.connectionIds = ["a-b", "a_b"] := by decide
  refine ⟨by decide, ?_, ?_, ?_⟩
  · simp only [DirectoriesApart, List.map_cons, List.map_nil, connectionDirectory_eq,
      secretDir_replaceChar]
    decide
  · simp only [DirectoriesApart, List.map_cons, List.map_nil, connectionDirectory_eq,
      secretDir_replaceChar]
    decide
  · rw [DeclarativeValues.resourcesApart_iff rfl, hids]
    intro h
    exact (List.pairwise_cons.mp h.1).1 "a_b" (by simp) halike

end QubershipAirflow.Chart
