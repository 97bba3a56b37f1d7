import QubershipAirflow.DrSync.DagWiring
import QubershipAirflow.DrSync.FailingCalls

/-! The task ids of `DR_SYNC_DAG_V2`. The loop that builds a folder's tasks and
`check_folder_state`, which returns the id of one of them, both make their ids of the
folder's path with `_` for `/`. -/
namespace QubershipAirflow.DrSync

open Programs Program

/-- `folders.split(",")` -/
def folderList (folders : String) : List String :=
  (folders.toList.splitOn ',').map String.ofList

/-- `folder.replace('/', '_')` -/
def folderPart (folder : String) : String :=
  String.ofList (folder.toList.map fun c => if c = '/' then '_' else c)

def verifyId (folder : String) : String := "verify_" ++ folderPart folder ++ "_state"

def initializeId (folder : String) : String := "initialize_folder_" ++ folderPart folder

def updateId (folder : String) : String := "update_folder_" ++ folderPart folder

def postUpdateId (folder : String) : String := "post_update_" ++ folderPart folder

section Wiring

variable {folderList : List String}

def DagTask.taskId : DagTask folderList → String
  | findCorrectSshHost => "find_correct_ssh_host"
  | stopHive => "stop_hive"
  | doKinit => "do_kinit"
  | copyPgHiveDatabase => "copy_pg_hive_database"
  | copyPgAirflowDatabase => "copy_pg_airflow_database"
  | verifyState folder => verifyId (folderList.get folder)
  | initializeFolder folder => initializeId (folderList.get folder)
  | updateFolder folder => updateId (folderList.get folder)
  | postUpdate folder => postUpdateId (folderList.get folder)
  | startHive => "start_hive"

@[simp] theorem DagTask.taskId_verifyState (folder : Fin folderList.length) :
    (verifyState folder).taskId = verifyId (folderList.get folder) := rfl

@[simp] theorem DagTask.taskId_initializeFolder (folder : Fin folderList.length) :
    (initializeFolder folder).taskId = initializeId (folderList.get folder) := rfl

@[simp] theorem DagTask.taskId_updateFolder (folder : Fin folderList.length) :
    (updateFolder folder).taskId = updateId (folderList.get folder) := rfl

@[simp] theorem DagTask.taskId_postUpdate (folder : Fin folderList.length) :
    (postUpdate folder).taskId = postUpdateId (folderList.get folder) := rfl

def DagTask.ofFolder (folder : Fin folderList.length) : List (DagTask folderList) :=
  [verifyState folder, initializeFolder folder, updateFolder folder, postUpdate folder]

end Wiring

def dagTasks (folderList : List String) : List (DagTask folderList) :=
  [.findCorrectSshHost, .doKinit, .stopHive, .copyPgHiveDatabase, .copyPgAirflowDatabase,
    .startHive] ++ (List.finRange folderList.length).flatMap DagTask.ofFolder

def Branch.taskId (folder : String) : Branch → String
  | .initializeFolder _ _ => "initialize_folder_" ++ folderPart folder
  | .updateFolder _ _ _ _ => "update_folder_" ++ folderPart folder

def checkFolderStateOf (folder : String) : Task String := do
  return (← checkFolderState).taskId folder

/-- Two paths with the same characters, `/` and `_` not told apart. -/
def SameUpToSlashes (first second : String) : Prop :=
  first.toList.Forall₂ (fun c d => c = d ∨ c ∈ ['/', '_'] ∧ d ∈ ['/', '_']) second.toList

section Ids

variable {folderList : List String}

theorem folderPart_eq_iff {first second : String} :
    folderPart first = folderPart second ↔ SameUpToSlashes first second := by
  have hchar : ∀ c d : Char, (if c = '/' then '_' else c) = (if d = '/' then '_' else d) ↔
      c = d ∨ c ∈ ['/', '_'] ∧ d ∈ ['/', '_'] := by
    intro c d
    simp only [List.mem_cons, List.not_mem_nil, or_false]
    grind
  rw [folderPart, folderPart, String.ofList_inj, ← List.forall₂_eq_eq_eq,
    List.forall₂_map_left_iff, List.forall₂_map_right_iff]
  simp only [hchar]
  rfl

def DagTask.initial : DagTask folderList → Char
  | findCorrectSshHost => 'f'
  | stopHive | startHive => 's'
  | doKinit => 'd'
  | copyPgHiveDatabase | copyPgAirflowDatabase => 'c'
  | verifyState _ => 'v'
  | initializeFolder _ => 'i'
  | updateFolder _ => 'u'
  | postUpdate _ => 'p'

theorem DagTask.head_taskId (task : DagTask folderList) :
    task.taskId.toList.head? = some task.initial := by
  cases task with
  | verifyState folder =>
    rw [taskId_verifyState]
    unfold verifyId
    simp [initial]
  | initializeFolder folder =>
    rw [taskId_initializeFolder]
    unfold initializeId
    simp [initial]
  | updateFolder folder =>
    rw [taskId_updateFolder]
    unfold updateId
    simp [initial]
  | postUpdate folder =>
    rw [taskId_postUpdate]
    unfold postUpdateId
    simp [initial]
  | _ =>
    unfold taskId
    simp [initial]

theorem DagTask.eq_of_taskId {first second : DagTask folderList}
    (hparts : ∀ f g : Fin folderList.length,
      folderPart (folderList.get f) = folderPart (folderList.get g) → f = g)
    (h : first.taskId = second.taskId) : first = second := by
  have hinitial : first.initial = second.initial := by
    rw [← Option.some.injEq, ← first.head_taskId, ← second.head_taskId, h]
  cases first <;> cases second <;> simp only [initial, Char.reduceEq] at hinitial
  case verifyState.verifyState f g =>
    unfold taskId verifyId at h
    rw [String.append_left_inj, String.append_right_inj] at h
    rw [hparts f g h]
  case initializeFolder.initializeFolder f g =>
    unfold taskId initializeId at h
    rw [String.append_right_inj] at h
    rw [hparts f g h]
  case updateFolder.updateFolder f g =>
    unfold taskId updateId at h
    rw [String.append_right_inj] at h
    rw [hparts f g h]
  case postUpdate.postUpdate f g =>
    unfold taskId postUpdateId at h
    rw [String.append_right_inj] at h
    rw [hparts f g h]
  case stopHive.startHive => exact absurd (show "stop_hive" = "start_hive" from h) (by decide)
  case startHive.stopHive => exact absurd (show "start_hive" = "stop_hive" from h) (by decide)
  case copyPgHiveDatabase.copyPgAirflowDatabase =>
    exact absurd (show "copy_pg_hive_database" = "copy_pg_airflow_database" from h) (by decide)
  case copyPgAirflowDatabase.copyPgHiveDatabase =>
    exact absurd (show "copy_pg_airflow_database" = "copy_pg_hive_database" from h) (by decide)
  all_goals rfl

theorem mem_dagTasks (task : DagTask folderList) : task ∈ dagTasks folderList := by
  cases task <;> simp [dagTasks, DagTask.ofFolder]

theorem nodup_dagTasks (folderList : List String) : (dagTasks folderList).Nodup := by
  refine List.nodup_append.mpr ⟨by simp, List.nodup_flatMap.mpr ⟨?_, ?_⟩, ?_⟩
  · simp [DagTask.ofFolder]
  · refine (List.nodup_finRange _).imp fun hne => ?_
    simp [Function.onFun, List.Disjoint, DagTask.ofFolder, hne]
  · intro task htask other hother hsame
    obtain ⟨folder, -, hother⟩ := List.mem_flatMap.mp hother
    subst hsame
    cases task <;> simp [DagTask.ofFolder] at htask hother

theorem taskIds_nodup_iff :
    ((dagTasks folderList).map DagTask.taskId).Nodup ↔
      Function.Injective (@DagTask.taskId folderList) := by
  rw [List.nodup_map_iff_inj_on (nodup_dagTasks folderList)]
  constructor
  · intro h first second hsame
    exact h first (mem_dagTasks first) second (mem_dagTasks second) hsame
  · intro h first _ second _ hsame
    exact h hsame

theorem taskId_injective_iff :
    Function.Injective (@DagTask.taskId folderList) ↔
      folderList.Pairwise fun first second => ¬ SameUpToSlashes first second := by
  simp only [← folderPart_eq_iff, List.pairwise_iff_get]
  constructor
  · intro hinjective f g hlt hsame
    have hid : (DagTask.verifyState f).taskId = (DagTask.verifyState g).taskId :=
      congrArg (fun part => "verify_" ++ part ++ "_state") hsame
    have hfolder := hinjective hid
    rw [DagTask.verifyState.injEq] at hfolder
    exact absurd hfolder (ne_of_lt hlt)
  · intro hpairs first second h
    refine DagTask.eq_of_taskId (fun f g hsame => ?_) h
    rcases lt_trichotomy f g with hlt | heq | hlt
    · exact absurd hsame (hpairs f g hlt)
    · exact heq
    · exact absurd hsame.symm (hpairs g f hlt)

end Ids

/-- The ids are pairwise distinct, and the one that `check_folder_state` returns for a
folder is that of a copy task of this folder, and of no other task. -/
structure IdsKeptApart (folders : String) : Prop where
  distinct : ((dagTasks (folderList folders)).map DagTask.taskId).Nodup
  own : ∀ (folder : Fin (folderList folders).length) (fates : Op → Fate) (sites after : Sites)
    (id : String), Ends fates (checkFolderStateOf ((folderList folders).get folder)) sites (.ok id)
      after →
    ∃ task ∈ DagTask.choices (.verifyState folder), task.taskId = id ∧
      ∀ other : DagTask (folderList folders), other.taskId = id → other = task

theorem checkFolderStateOf_id {folderList : List String} {folder : Fin folderList.length}
    {fates : Op → Fate} {sites after : Sites} {id : String}
    (h : Ends fates (checkFolderStateOf (folderList.get folder)) sites (.ok id) after) :
    ∃ task ∈ DagTask.choices (.verifyState folder), task.taskId = id := by
  obtain ⟨raised, hraised, -⟩ | ⟨branch, mid, -, hreturn⟩ := Ends.seq h
  · cases hraised
  · have hid : branch.taskId (folderList.get folder) = id := by
      cases hreturn
      rfl
    subst hid
    cases branch with
    | initializeFolder => exact ⟨.initializeFolder folder, by simp [DagTask.choices], rfl⟩
    | updateFolder => exact ⟨.updateFolder folder, by simp [DagTask.choices], rfl⟩

/-- Distinct paths may share their ids, and do so exactly where they differ in nothing
but that one has `_` where the other has `/`. -/
theorem taskIds_keptApart_iff (folders : String) :
    IdsKeptApart folders ↔
      (folderList folders).Pairwise fun first second => ¬ SameUpToSlashes first second := by
  rw [← taskId_injective_iff, ← taskIds_nodup_iff]
  constructor
  · exact fun h => h.distinct
  · intro hdistinct
    refine ⟨hdistinct, fun folder fates sites after id hends => ?_⟩
    obtain ⟨task, htask, rfl⟩ := checkFolderStateOf_id hends
    exact ⟨task, htask, rfl, fun other hsame => taskIds_nodup_iff.mp hdistinct hsame⟩

theorem slash_and_underscore_share_ids :
    ¬ ∀ folders, (folderList folders).Nodup →
      (∀ folder ∈ folderList folders, "/".toList <+: folder.toList) → IdsKeptApart folders := by
  intro h
  have hids := h "/data/x,/data_x" (by decide) (by decide)
  have hpairs := taskId_injective_iff.mp (taskIds_nodup_iff.mp hids.distinct)
  have hfolders : folderList "/data/x,/data_x" = ["/data/x", "/data_x"] := by decide
  rw [hfolders, List.pairwise_pair, ← folderPart_eq_iff] at hpairs
  exact hpairs (by decide)

end QubershipAirflow.DrSync
