import OpenEvent.Lib.DurableDirectory
import OpenEvent.Records
import OpenEvent.Status

/-!
`ObjectFileStore`: writing, removing and reading the file of one object. The
writers are machines that make one system call per step, so that other calls
and crashes can come between any two of them; the result of each system call
is given by the environment.
-/

namespace OpenEvent

abbrev ObjectDirectory := DurableDirectory String

def finalName (objectId : UInt64) : String := toString objectId.toNat

def temporaryName (objectId : UInt64) : String := ".tmp." ++ toString objectId.toNat

/-- What a system call returns: success, a byte count, or an error number. -/
inductive SyscallOutcome where
  | success
  | transferred (count : Nat)
  | failed (error : Errno)
deriving DecidableEq

/-- A machine goes on in another phase or returns. -/
inductive Progress (Phase : Type) where
  | next (phase : Phase)
  | done (status : Status)

namespace ObjectFileStore

/-- The next system call of `Write`. Open files are named by their inode. -/
inductive WritePhase where
  | openTemporary
  | writeData (inode written : Nat)
  | syncFile (inode : Nat)
  | closeFile
  | renameFile
  | syncDirectory
deriving DecidableEq

/-- One system call of `Write`. There is no step for an outcome the call cannot
have: creation and renaming succeed only onto a free name and fail with EEXIST
only on a taken one (`O_EXCL`, `RENAME_NOREPLACE`), and `write` takes no more
than it is given. -/
def writeStep (objectId : UInt64) (data : Bytes) (dir : ObjectDirectory) (phase : WritePhase)
    (outcome : SyscallOutcome) : Option (ObjectDirectory × Progress WritePhase) :=
  match phase, outcome with
  | .openTemporary, .success =>
      if dir.entries (temporaryName objectId) = none then
        some (dir.create (temporaryName objectId), .next (.writeData dir.nextInode 0))
      else none
  | .openTemporary, .failed error =>
      if error = .eexist then
        if dir.entries (temporaryName objectId) = none then none
        else some (dir, .done (.storageCorruption "create temporary object file"
          ("unexpected existing temporary object file: " ++ temporaryName objectId)))
      else some (dir, .done (objectIoStatus "create temporary object file" error))
  | .writeData inode written, .transferred count =>
      if written < data.length then
        if count = 0 then
          some (dir, .done { code := .unavailable,
                             message := "write temporary object file returned zero" })
        else if count ≤ data.length - written then
          some (dir.append inode ((data.drop written).take count),
            .next (.writeData inode (written + count)))
        else none
      else none
  | .writeData inode written, .failed error =>
      if written < data.length then
        if error = .eintr then some (dir, .next (.writeData inode written))
        else some (dir, .done (objectIoStatus "write temporary object file" error))
      else none
  | .writeData inode written, .success =>
      -- The loop condition fails: all of the data is written.
      if written < data.length then none else some (dir, .next (.syncFile inode))
  | .syncFile inode, .success => some (dir.syncFile inode, .next .closeFile)
  | .syncFile _, .failed error =>
      some (dir, .done (objectIoStatus "fsync temporary object file" error))
  | .closeFile, .success => some (dir, .next .renameFile)
  | .closeFile, .failed error =>
      some (dir, .done (objectIoStatus "close temporary object file" error))
  | .renameFile, .success =>
      if dir.entries (finalName objectId) = none ∧ dir.entries (temporaryName objectId) ≠ none then
        some (dir.rename (temporaryName objectId) (finalName objectId), .next .syncDirectory)
      else none
  | .renameFile, .failed error =>
      if error = .eexist then
        if dir.entries (finalName objectId) = none then none
        else some (dir, .done (.storageCorruption "rename temporary object file"
          ("unexpected existing final object file: " ++ finalName objectId)))
      else some (dir, .done (objectIoStatus "rename temporary object file" error))
  | .syncDirectory, .success => some (dir.sync, .done .ok)
  | .syncDirectory, .failed error =>
      some (dir, .done (objectIoStatus "fsync object directory" error))
  | _, _ => none

/-- `UnlinkKnownPath` with the result of `unlinkat` given. The kernel answers
ENOENT exactly for a name without an entry, and EISDIR only for a directory. -/
def unlinkKnownPath (dir : ObjectDirectory) (name : String) (outcome : SyscallOutcome) :
    Option (ObjectDirectory × Status) :=
  match outcome with
  | .success => if dir.entries name ≠ none then some (dir.unlink name, .ok) else none
  | .failed error =>
      if error = .enoent then
        if dir.entries name = none then some (dir, .ok) else none
      else if error = .eisdir ∧ ¬ ∃ inode ∈ dir.entries name, (dir.inodes inode).kind = .directory then
        none
      else if error = .eisdir ∨ error = .eperm then
        some (dir, .storageCorruption "remove object path"
          ("object path is not a removable file: " ++ name))
      else some (dir, objectIoStatus ("remove object path " ++ name) error)
  | .transferred _ => none

/-- The next system call of `Cleanup` over a list of object ids. -/
inductive CleanupPhase where
  | unlinkTemporary (objectId : UInt64) (rest : List UInt64)
  | unlinkFinal (objectId : UInt64) (rest : List UInt64)
  | syncDirectory
deriving DecidableEq

/-- The head of the cleanup loop. -/
def cleanupLoop : List UInt64 → CleanupPhase
  | [] => .syncDirectory
  | objectId :: rest => .unlinkTemporary objectId rest

def cleanupStart (objectIds : List UInt64) : Progress CleanupPhase :=
  if objectIds = [] then .done .ok else .next (cleanupLoop objectIds)

def cleanupStep (dir : ObjectDirectory) (phase : CleanupPhase) (outcome : SyscallOutcome) :
    Option (ObjectDirectory × Progress CleanupPhase) :=
  match phase with
  | .unlinkTemporary objectId rest => do
      let (dir, status) ← unlinkKnownPath dir (temporaryName objectId) outcome
      if status.isOk then pure (dir, .next (.unlinkFinal objectId rest))
      else pure (dir, .done status)
  | .unlinkFinal objectId rest => do
      let (dir, status) ← unlinkKnownPath dir (finalName objectId) outcome
      if status.isOk then pure (dir, .next (cleanupLoop rest))
      else pure (dir, .done status)
  | .syncDirectory =>
      match outcome with
      | .success => some (dir.sync, .done .ok)
      | .failed error =>
          some (dir, .done (objectIoStatus "fsync object directory after cleanup" error))
      | .transferred _ => none

/-- `ConstantTimeEquals`: equal lengths and equal bytes. -/
def constantTimeEquals (left right : String) : Bool :=
  left.utf8ByteSize = right.utf8ByteSize && Bytes.ofString left = Bytes.ofString right

/-- The results of the system calls of one `ReadRange`, the retried ones
included. -/
structure ReadIo where
  opens : List SyscallOutcome
  fstat : SyscallOutcome
  preads : List SyscallOutcome
  close : SyscallOutcome

/-- The open loop of `ReadRange`: the first result that is not EINTR. -/
def firstOpen : List SyscallOutcome → Option SyscallOutcome
  | [] => none
  | outcome :: rest => if outcome = .failed .eintr then firstOpen rest else some outcome

/-- The read loop of `ReadRange`: `data` holds what has been read so far. There
is no result when the calls given end before the loop does, when a call returns
more than there is to read, or when it returns nothing before the end of the
file. -/
def preadLoop (name : String) (file : Bytes) (offset count : Nat) :
    List SyscallOutcome → Bytes → Option (Result Bytes)
  | outcomes, data =>
      if count ≤ data.length then some (.ok data)
      else
        match outcomes with
        | [] => none
        | .failed error :: rest =>
            if error = .eintr then preadLoop name file offset count rest data
            else some (.error (objectIoStatus ("read committed object file range " ++ name) error))
        | .transferred got :: rest =>
            if got = 0 then
              if file.length ≤ offset + data.length then
                some (.error (.storageCorruption "read committed object file"
                  ("committed object file is truncated: " ++ name)))
              else none
            else
              let chunk := ((file.drop (offset + data.length)).take (count - data.length)).take got
              if chunk.length = got then preadLoop name file offset count rest (data ++ chunk)
              else none
        | .success :: _ => none

def readRange (dir : ObjectDirectory) (objectId expectedSize offset nbytes : UInt64)
    (io : ReadIo) : Option (Result Bytes) :=
  if objectId = 0 ∨ expectedSize = 0 ∨ expectedSize.toNat > kMaxObjectBytes then
    some (.error (.storageCorruption "read committed object file"
      "invalid committed object metadata"))
  else if nbytes = 0 then
    some (.error { code := .invalidArgument, message := "nbytes must be greater than 0" })
  else if offset > expectedSize then
    some (.error { code := .outOfRange, message := "offset exceeds object size" })
  else
    let name := finalName objectId
    match firstOpen io.opens, dir.entries name with
    | some (.failed error), entry =>
        -- ENOENT and ELOOP are truthful: no entry, or a symbolic link.
        if error = .enoent ∨ error = .eloop then
          if (error = .enoent ∧ entry = none) ∨
              (error = .eloop ∧ ∃ inode ∈ entry, (dir.inodes inode).kind = .symbolicLink) then
            some (.error (.storageCorruption ("open committed object file " ++ name)
              (errnoMessage ("open committed object file " ++ name) error)))
          else none
        else some (.error (objectIoStatus ("open committed object file " ++ name) error))
    | some .success, some inode =>
        if (dir.inodes inode).kind = .symbolicLink then none
        else
          match io.fstat with
          | .failed error =>
              some (.error (objectIoStatus ("stat committed object file " ++ name) error))
          | .transferred _ => none
          | .success =>
              if (dir.inodes inode).kind ≠ .regular ∨
                  (dir.inodes inode).bytes.length ≠ expectedSize.toNat then
                some (.error (.storageCorruption "stat committed object file"
                  ("committed object file type or size mismatch: " ++ name)))
              else
                let count := min nbytes.toNat (expectedSize - offset).toNat
                match preadLoop name (dir.inodes inode).bytes offset.toNat count io.preads [] with
                | none => none
                | some (.error status) => some (.error status)
                | some (.ok data) =>
                    match io.close with
                    | .success => some (.ok data)
                    | .failed error =>
                        some (.error (objectIoStatus "close committed object file" error))
                    | .transferred _ => none
    | _, _ => none

end ObjectFileStore

end OpenEvent
