import QubershipAirflow.DrSync.Hdfs

/-! The tasks that synchronise one folder: `check_folder_state` chooses and prepares
the copy, `validate_distcp_successful` compares the sites after it and cleans up. -/
namespace QubershipAirflow.DrSync

def getLatestSnapshotNumber (site : Site) : Task Int := do
  let found ← checkForPath site .snapshots
  if ¬ found then return -1
  let snapshots ← list site .snapshots
  return latestNumber snapshots

structure Location where
  site : Site
  path : Path
  deriving DecidableEq

/-- The chosen copy task with the values pushed for its `distcp` command. -/
inductive Branch where
  | initializeFolder (sourceFolder targetFolder : Location)
  | updateFolder (sourceSnapshot targetSnapshot : String) (sourceFolder targetFolder : Location)
  deriving DecidableEq

def Branch.targetFolder : Branch → Location
  | .initializeFolder _ targetFolder => targetFolder
  | .updateFolder _ _ _ targetFolder => targetFolder

def checkFolderState : Task Branch := do
  if ¬ (← checkForPath .main .folder) then
    .throw (.valueError "Folder not found on main site!")
  else if ¬ (← checkForPath .dr .folder) then
    .throw (.valueError "Folder not found on DR site!")
  else
  let mainLatest ← getLatestSnapshotNumber .main
  let drLatest ← getLatestSnapshotNumber .dr
  if mainLatest = -1 then
    if 0 < (← list .dr .folder).length ∨ drLatest ≠ -1 then
      .throw (.valueError "Snapshots not found on main site, but DR folder is not empty!")
    else
    createSnapshot .main (snapshotName 1)
    return .initializeFolder ⟨.main, .snapshot (snapshotName 1)⟩ ⟨.dr, .folder⟩
  else if drLatest = -1 then
    if 0 < (← list .dr .folder).length then
      .throw (.valueError
        "Snapshots found on main site, not on DR and DR folder is not empty!")
    else
    warning ("Found " ++ snapshotName mainLatest ++ " on main site, trying to continue from it")
    deleteSnapshot .main (snapshotName mainLatest)
    createSnapshot .main (snapshotName mainLatest)
    return .initializeFolder ⟨.main, .snapshot (snapshotName mainLatest)⟩ ⟨.dr, .folder⟩
  else if mainLatest ≠ drLatest then
    .throw (.valueError "Latest snapshot numbers are different, manual resolution required!")
  else
  createSnapshot .main (snapshotName (mainLatest + 1))
  return .updateFolder (snapshotName mainLatest) (snapshotName (mainLatest + 1))
    ⟨.main, .folder⟩ ⟨.dr, .folder⟩

def listsDifferent : Failure := .valueError "Lists different after the copy!"

def removePrevious (site : Site) (latest : Int) : Task Unit := do
  if ← checkForPath site (.snapshot (snapshotName (latest - 1))) then
    deleteSnapshot site (snapshotName (latest - 1))

def compareCount (field : String) (mainCount drCount : Nat) : Task Unit := do
  if drCount ≠ mainCount then
    warning (field ++ " is different after the copy!")

/-- Only the listings decide; different summaries are logged. -/
def compareContents (mainContent drContent : ContentSummary) : Task Unit := do
  compareCount "directoryCount" mainContent.directoryCount drContent.directoryCount
  compareCount "fileCount" mainContent.fileCount drContent.fileCount
  compareCount "length" mainContent.length drContent.length

def validateDistcpSuccessful : Task Unit := do
  let latest ← getLatestSnapshotNumber .main
  createSnapshot .dr (snapshotName latest)
  let mainList ← list .main (.snapshot (snapshotName latest))
  let drList ← list .dr (.snapshot (snapshotName latest))
  if drList ≠ mainList then
    .throw listsDifferent
  else
  let mainContent ← content .main (.snapshot (snapshotName latest))
  let drContent ← content .dr (.snapshot (snapshotName latest))
  compareContents mainContent drContent
  removePrevious .main latest
  removePrevious .dr latest

end QubershipAirflow.DrSync
