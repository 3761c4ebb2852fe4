import OpenEvent.Storage.ObjectFileStore

/-!
`ReadRange` on machine integers. Every arithmetic step of the source is checked
against the range of its type, and a `pread` gives back the bytes it delivers,
so that the file may also have changed since it was opened. Next to it the whole
of `Write`, one system call after the other.
-/

namespace OpenEvent.ObjectFileStore

/-- The arithmetic steps of `ReadRange`. -/
inductive IntegerStep where
  | remaining
  | count
  | unread
  | position
  | fileOffset
  | readBytes
deriving DecidableEq

/-- The value of a step, if it is in the range of its type. -/
def inRange (step : IntegerStep) (fits : Bool) (value : Nat) : Except IntegerStep Nat :=
  if fits then .ok value else .error step

/-- What one `pread` returns. -/
inductive PreadResult where
  | bytes (chunk : Bytes)
  | failed (error : Errno)

/-- The results of the system calls of one `ReadRange`. -/
structure RangeIo where
  opens : List SyscallOutcome
  fstat : SyscallOutcome
  preads : List PreadResult
  close : SyscallOutcome

/-- The read loop. There is no result when the calls given end before the loop does, and when a
call returns more than it was asked for. -/
def rangeLoop (name : String) (offset count : Nat) :
    List PreadResult → Bytes → Except IntegerStep (Option (Result Bytes))
  | results, data =>
      if count ≤ data.length then .ok (some (.ok data))
      else
        match results with
        | [] => .ok none
        | result :: rest => do
            let unread ← inRange .unread (data.length ≤ count) (count - data.length)
            let position ← inRange .position (offset + data.length < 2 ^ 64) (offset + data.length)
            let _ ← inRange .fileOffset (position < 2 ^ 63) position
            match result with
            | .failed error =>
                if error = .eintr then rangeLoop name offset count rest data
                else pure (some (.error
                  (objectIoStatus ("read committed object file range " ++ name) error)))
            | .bytes chunk =>
                if unread < chunk.length then pure none
                else if chunk = [] then
                  pure (some (.error (.storageCorruption "read committed object file"
                    ("committed object file is truncated: " ++ name))))
                else do
                  let _ ← inRange .readBytes (data.length + chunk.length < 2 ^ 64)
                    (data.length + chunk.length)
                  rangeLoop name offset count rest (data ++ chunk)

/-- The `close` after the read loop; a failed loop has closed the file already. -/
def closeAfter (close : SyscallOutcome) : Option (Result Bytes) → Option (Result Bytes)
  | some (.ok data) =>
      match close with
      | .success => some (.ok data)
      | .failed error => some (.error (objectIoStatus "close committed object file" error))
      | .transferred _ => none
  | other => other

/-- `ReadRange` after its file has been opened and found to be as expected. -/
def readOpened (name : String) (expectedSize offset nbytes : UInt64) (io : RangeIo) :
    Except IntegerStep (Option (Result Bytes)) := do
  let remaining ← inRange .remaining (offset.toNat ≤ expectedSize.toNat)
    (expectedSize.toNat - offset.toNat)
  let count ← inRange .count (min nbytes.toNat remaining < 2 ^ 64) (min nbytes.toNat remaining)
  let read ← rangeLoop name offset.toNat count io.preads []
  pure (closeAfter io.close read)

def readRangeChecked (dir : ObjectDirectory) (objectId expectedSize offset nbytes : UInt64)
    (io : RangeIo) : Except IntegerStep (Option (Result Bytes)) :=
  if objectId = 0 ∨ expectedSize = 0 ∨ expectedSize.toNat > kMaxObjectBytes then
    .ok (some (.error (.storageCorruption "read committed object file"
      "invalid committed object metadata")))
  else if nbytes = 0 then
    .ok (some (.error { code := .invalidArgument, message := "nbytes must be greater than 0" }))
  else if offset > expectedSize then
    .ok (some (.error { code := .outOfRange, message := "offset exceeds object size" }))
  else
    let name := finalName objectId
    match firstOpen io.opens, dir.entries name with
    | some (.failed error), entry =>
        if error = .enoent ∨ error = .eloop then
          if (error = .enoent ∧ entry = none) ∨
              (error = .eloop ∧ ∃ inode ∈ entry, (dir.inodes inode).kind = .symbolicLink) then
            .ok (some (.error (.storageCorruption ("open committed object file " ++ name)
              (errnoMessage ("open committed object file " ++ name) error))))
          else .ok none
        else .ok (some (.error (objectIoStatus ("open committed object file " ++ name) error)))
    | some .success, some inode =>
        if (dir.inodes inode).kind = .symbolicLink then .ok none
        else
          match io.fstat with
          | .failed error =>
              .ok (some (.error (objectIoStatus ("stat committed object file " ++ name) error)))
          | .transferred _ => .ok none
          | .success =>
              if (dir.inodes inode).kind ≠ .regular ∨
                  (dir.inodes inode).bytes.length ≠ expectedSize.toNat then
                .ok (some (.error (.storageCorruption "stat committed object file"
                  ("committed object file type or size mismatch: " ++ name))))
              else readOpened name expectedSize offset nbytes io
    | _, _ => .ok none

/-- What `pread` returns for the outcomes given while the file stays as it is. -/
def kernelReads (file : Bytes) (offset count : Nat) : List SyscallOutcome → Nat → List PreadResult
  | [], _ => []
  | .failed error :: rest, done => .failed error :: kernelReads file offset count rest done
  | .transferred got :: rest, done =>
      .bytes (((file.drop (offset + done)).take (count - done)).take got) ::
        kernelReads file offset count rest (done + got)
  | .success :: _, _ => []

/-- `Write` from a phase on: the directory and the status it leaves, if the calls given lead to its
return. -/
def writeFrom (objectId : UInt64) (data : Bytes) :
    ObjectDirectory → WritePhase → List SyscallOutcome → Option (ObjectDirectory × Status)
  | _, _, [] => none
  | dir, phase, outcome :: rest =>
      match writeStep objectId data dir phase outcome with
      | none => none
      | some (dir, .next phase) => writeFrom objectId data dir phase rest
      | some (dir, .done status) => some (dir, status)

def write (objectId : UInt64) (data : Bytes) (dir : ObjectDirectory)
    (outcomes : List SyscallOutcome) : Option (ObjectDirectory × Status) :=
  writeFrom objectId data dir .openTemporary outcomes

end OpenEvent.ObjectFileStore
