import OpenEvent.Lib.DirectoryTree
import OpenEvent.Lib.Interruptible
import OpenEvent.Status
import Mathlib.Data.Finset.Insert

/-!
`UnifiedStorage::Open` as far as it makes and syncs directories. Every file-system
call may fail, and the process may be killed before any of them; the database that
RocksDB keeps under `db` is known here by its column families only.
-/

namespace OpenEvent

def kDefaultColumnFamily : String := "default"
def kMessagesColumnFamily : String := "messages"
def kObjectsColumnFamily : String := "objects"

/-- The directories, and the column families of the database in each of them; a
directory without a database has none. -/
structure StorageDisk where
  tree : DirectoryTree
  families : Nat → List String
  unused : ∀ inode, tree.nextInode ≤ inode → families inode = []

/-- The file-system calls of one `Open`, named by the place they are made at. -/
inductive OpenCall where
  | newExists
  | newIsDirectory
  | newEntries
  | resolveRoot
  | ancestorExists (path : List String)
  | ancestorIsDirectory (path : List String)
  | createDirectory (path : List String)
  | createdIsDirectory (path : List String)
  | openParent (path : List String)
  | syncParent (path : List String)
  | closeParent (path : List String)
  | layoutEntries
  | layoutDatabase
  | layoutObjects
deriving DecidableEq

/-- The RocksDB calls of one `Open`. -/
inductive DatabaseCall where
  | create
  | createMessages
  | createObjects
  | writeMetadata
  | destroyObjects
  | destroyMessages
  | listColumnFamilies
deriving DecidableEq

/-- How a file-system call ends: with the answer that the disk gives, with an
error, or with the process. -/
inductive StepOutcome (ε : Type) where
  | done
  | failed (error : ε)
  | killed

/-- A RocksDB call that fails or is cut off may have taken effect. -/
inductive DatabaseOutcome where
  | done
  | failed (applied : Bool) (status : RocksStatus)
  | killed (applied : Bool)

/-- What one `Open` meets. `missingDatabase` and `unopenedFamilies` are what RocksDB
reports for a directory without a database and for an open that leaves out a column
family; `openExisting` is how `OpenExisting` ends, which makes no directories. -/
structure OpenEnv where
  calls : OpenCall → StepOutcome Errno
  database : DatabaseCall → DatabaseOutcome
  missingDatabase : RocksStatus
  unopenedFamilies : RocksStatus
  openExisting : StepOutcome Status

/-- Why an `Open` did not return a store. -/
inductive OpenStop where
  | killed
  | returned (status : Status)

abbrev OpenIo := Interruptible StorageDisk OpenStop

/-- `std::filesystem::absolute`, from the last component back. -/
def absolutePath (workingDirectory : List String) (path : String) : List String :=
  let parts := (path.toList.splitOn '/').map String.ofList
  let names := parts.filter (· ≠ "")
  let trailing := if parts.getLast? = some "" ∧ names ≠ [] then [""] else []
  let base := if path.toList.head? = some '/' then [] else workingDirectory
  trailing ++ names.reverse ++ base

def pathString (path : List String) : String :=
  if path = [] then "/" else path.reverse.foldl (fun text name => text ++ "/" ++ name) ""

/-- `root / name`: the empty component of a trailing slash is not kept. -/
def joinPath (root : List String) (name : String) : List String :=
  match root with
  | "" :: rest => name :: rest
  | _ => name :: root

def databasePath (root : List String) : List String := joinPath root "db"

def objectsPath (root : List String) : List String := joinPath root "objects"

def Errno.enotdir : Errno := .other "Not a directory"

/-- Why a path leads to no directory: something on it is missing or is a file. -/
def pathError (tree : DirectoryTree) : List String → Errno
  | [] => .enoent
  | name :: parent =>
      match tree.directoryAt parent with
      | none => pathError tree parent
      | some inode => if tree.lookup inode name = some .file then .enotdir else .enoent

namespace UnifiedStorage

open Interruptible

def unavailable (message : String) : OpenStop :=
  .returned { code := .unavailable, message }

/-- A file-system call, with its error if it failed. -/
def fileSystemCall (env : OpenEnv) (call : OpenCall) : OpenIo (Option Errno) :=
  match env.calls call with
  | .done => pure none
  | .failed error => pure (some error)
  | .killed => halt .killed

/-- `IsEmptyDirectory`, and with it `IsNewStorageRoot`. -/
def isEmptyDirectory (env : OpenEnv) (path : List String) : OpenIo Bool := do
  match ← fileSystemCall env .newExists with
  | some _ => pure false
  | none =>
      if (← observe (·.tree.pathExists path)) = false then pure true
      else
        match ← fileSystemCall env .newIsDirectory, ← observe (·.tree.directoryAt path) with
        | none, some inode =>
            match ← fileSystemCall env .newEntries with
            | some _ => pure false
            | none => observe (fun disk => (disk.tree.entries inode).isEmpty)
        | _, _ => pure false

def validateStorageRootLayout (env : OpenEnv) (root : List String) : OpenIo Unit := do
  let misplaced : OpenStop := .returned
    { code := .internal, message := "storage root must contain only db and objects directories" }
  match ← fileSystemCall env .layoutEntries, ← observe (·.tree.directoryAt root) with
  | some error, _ => halt (unavailable ("inspect storage root: " ++ error.text))
  | none, none =>
      let error ← observe (fun disk => pathError disk.tree root)
      halt (unavailable ("inspect storage root: " ++ error.text))
  | none, some inode =>
      let names ← observe (fun disk => (disk.tree.entries inode).map (·.1))
      if names.toFinset ≠ {"db", "objects"} then halt misplaced
      match ← fileSystemCall env .layoutDatabase,
        ← observe (fun disk => (disk.tree.directoryAt (databasePath root)).isSome) with
      | none, true => pure ()
      | _, _ => halt misplaced
      match ← fileSystemCall env .layoutObjects,
        ← observe (fun disk => (disk.tree.directoryAt (objectsPath root)).isSome) with
      | none, true => pure ()
      | _, _ => halt misplaced

/-- `SyncDirectory` of the parent of a path. A link is not followed. -/
def syncDirectory (env : OpenEnv) (path : List String) : OpenIo Unit := do
  match ← fileSystemCall env (.openParent path), ← observe (·.tree.entryAt path.tail) with
  | some error, _ => halt (unavailable ("open directory for fsync: " ++ error.text))
  | none, none =>
      let error ← observe (fun disk => pathError disk.tree path.tail)
      halt (unavailable ("open directory for fsync: " ++ error.text))
  | none, some (.directory inode) =>
      match ← fileSystemCall env (.syncParent path) with
      | some error => halt (unavailable ("fsync directory: " ++ error.text))
      | none =>
          update (fun disk => { disk with tree := disk.tree.sync inode })
          match ← fileSystemCall env (.closeParent path) with
          | some error => halt (unavailable ("close directory after fsync: " ++ error.text))
          | none => pure ()
  | none, some _ => halt (unavailable ("open directory for fsync: " ++ Errno.enotdir.text))

end UnifiedStorage

/-- `mkdir` of a path: an error, a path that is there already, or the disk with the
new directory. -/
inductive MkdirResult where
  | failed (error : Errno)
  | present
  | created (disk : StorageDisk)

def StorageDisk.makeDirectory (disk : StorageDisk) (inode : Nat) (name : String) : StorageDisk where
  tree := disk.tree.makeDirectory inode name
  families := disk.families
  unused := by
    intro other hother
    refine disk.unused other ?_
    unfold DirectoryTree.makeDirectory at hother
    split at hother
    · exact Nat.le_of_succ_le hother
    · exact hother

def StorageDisk.mkdir (disk : StorageDisk) : List String → MkdirResult
  | [] => .present
  | name :: parent =>
      match disk.tree.directoryAt parent with
      | none => .failed (pathError disk.tree parent)
      | some inode =>
          match disk.tree.lookup inode name with
          | none => .created (disk.makeDirectory inode name)
          | some entry => if entry.target.isSome then .present else .failed .eexist

namespace UnifiedStorage

open Interruptible

def createDirectoryAndSyncParent (env : OpenEnv) (path : List String) : OpenIo Unit := do
  let refused (error : Errno) : OpenStop :=
    unavailable ("create storage directory " ++ pathString path ++ ": " ++ error.text)
  match ← fileSystemCall env (.createDirectory path), ← observe (·.mkdir path) with
  | some error, _ => halt (refused error)
  | none, .failed error => halt (refused error)
  | none, .created disk =>
      update (fun _ => disk)
      syncDirectory env path
  | none, .present =>
      match ← fileSystemCall env (.createdIsDirectory path),
        ← observe (fun disk => (disk.tree.directoryAt path).isSome) with
      | none, true => pure ()
      | _, _ => halt (unavailable ("storage path component is not a directory: " ++ pathString path))

/-- The first loop of `CreateDirectoryTreeDurably`: the missing components, the
outermost first. -/
def findMissing (env : OpenEnv) (root : List String) :
    List String → List (List String) → OpenIo (List (List String))
  | current, missing => do
      match ← fileSystemCall env (.ancestorExists current), ← observe (·.tree.pathExists current) with
      | some error, _ =>
          halt (unavailable
            ("inspect storage directory " ++ pathString current ++ ": " ++ error.text))
      | none, true =>
          match ← fileSystemCall env (.ancestorIsDirectory current),
            ← observe (fun disk => (disk.tree.directoryAt current).isSome) with
          | none, true => pure missing
          | _, _ =>
              halt (unavailable
                ("storage path ancestor is not a directory: " ++ pathString current))
      | none, false =>
          match current with
          | [] =>
              halt (unavailable
                ("storage path has no existing directory ancestor: " ++ pathString root))
          | _ :: parent => findMissing env root parent (current :: missing)

/-- The second loop of `CreateDirectoryTreeDurably`. -/
def createMissing (env : OpenEnv) : List (List String) → OpenIo Unit
  | [] => pure ()
  | path :: rest => do
      createDirectoryAndSyncParent env path
      createMissing env rest

def createDirectoryTreeDurably (env : OpenEnv) (root : List String) : OpenIo Unit := do
  let missing ← findMissing env root root []
  createMissing env missing

def createStorageDirectories (env : OpenEnv) (root : List String) : OpenIo Unit := do
  match ← fileSystemCall env .resolveRoot with
  | some error => halt (unavailable ("resolve storage root: " ++ error.text))
  | none =>
      createDirectoryTreeDurably env root
      createDirectoryAndSyncParent env (databasePath root)
      createDirectoryAndSyncParent env (objectsPath root)

end UnifiedStorage

def StorageDisk.setFamilies (disk : StorageDisk) (path : List String) (names : List String) :
    StorageDisk :=
  match h : disk.tree.directoryAt path with
  | none => disk
  | some inode =>
      { disk with
        families := Function.update disk.families inode names
        unused := by
          intro other hother
          have hinode := DirectoryTree.directoryAt_lt h
          rw [Function.update_of_ne (by omega)]
          exact disk.unused other hother }

/-- The column families of the database at a path. -/
def StorageDisk.familiesAt (disk : StorageDisk) (path : List String) : List String :=
  match disk.tree.directoryAt path with
  | none => []
  | some inode => disk.families inode

namespace UnifiedStorage

open Interruptible

/-- A RocksDB call with its effect on the column families, and its status. -/
def databaseCall (env : OpenEnv) (call : DatabaseCall) (operation : String)
    (effect : StorageDisk → StorageDisk) : OpenIo (Option Status) := do
  match env.database call with
  | .done =>
      update effect
      pure none
  | .failed applied status =>
      if applied then update effect
      pure (some (rocksToStatus status operation))
  | .killed applied =>
      if applied then update effect
      halt .killed

/-- `InitializeNew`. -/
def initializeNewRoot (env : OpenEnv) (root : List String) : OpenIo Unit := do
  let path := databasePath root
  createStorageDirectories env root
  let before ← observe (·.familiesAt path)
  if before ≠ [] ∧ before ≠ [kDefaultColumnFamily] then
    halt (.returned (rocksToStatus env.unopenedFamilies "create storage"))
  if let some status ← databaseCall env .create "create storage"
      (·.setFamilies path [kDefaultColumnFamily]) then
    halt (.returned status)
  if let some status ← databaseCall env .createMessages "create messages column family"
      (·.setFamilies path [kDefaultColumnFamily, kMessagesColumnFamily]) then
    halt (.returned status)
  if let some status ← databaseCall env .createObjects "create objects column family"
      (·.setFamilies path [kDefaultColumnFamily, kMessagesColumnFamily, kObjectsColumnFamily]) then
    halt (.returned status)
  -- The handles are destroyed whether the batch was written or not.
  let initialized ← databaseCall env .writeMetadata "finish storage initialization" id
  let objects ← databaseCall env .destroyObjects "destroy objects column family handle" id
  let messages ← databaseCall env .destroyMessages "destroy messages column family handle" id
  if let some status := initialized then halt (.returned status)
  if let some status := objects then halt (.returned status)
  if let some status := messages then halt (.returned status)

/-- The part of `Open` after the initialization. -/
def openInitialized (env : OpenEnv) (root : List String) : OpenIo Unit := do
  validateStorageRootLayout env root
  if let some status ← databaseCall env .listColumnFamilies "list storage column families" id then
    halt (.returned status)
  let names ← observe (·.familiesAt (databasePath root))
  if names = [] then
    halt (.returned (rocksToStatus env.missingDatabase "list storage column families"))
  if names.toFinset ≠ {kDefaultColumnFamily, kMessagesColumnFamily, kObjectsColumnFamily} then
    halt (.returned { code := .internal, message := "unsupported storage column family layout" })
  match env.openExisting with
  | .done => pure ()
  | .failed status => halt (.returned status)
  | .killed => halt .killed

/-- `Open` of a path. -/
def openRoot (env : OpenEnv) (workingDirectory : List String) (path : String) : OpenIo Unit := do
  if path = "" then
    halt (.returned { code := .invalidArgument, message := "storage path must not be empty" })
  let root := absolutePath workingDirectory path
  if ← isEmptyDirectory env root then initializeNewRoot env root
  openInitialized env root

end UnifiedStorage

end OpenEvent
