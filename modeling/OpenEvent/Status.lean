import Mathlib.Tactic

/-!
The status type of the server and the classification of storage and file
errors. Free-form texts that come from RocksDB or the operating system are
carried by the error values that the environment supplies.
-/

namespace OpenEvent

inductive StatusCode where
  | ok
  | cancelled
  | invalidArgument
  | deadlineExceeded
  | notFound
  | alreadyExists
  | permissionDenied
  | resourceExhausted
  | aborted
  | outOfRange
  | internal
  | unavailable
  | dataLoss
  | unauthenticated
deriving DecidableEq, Repr

/-- The numbers of the gRPC codes. -/
def StatusCode.number : StatusCode → Nat
  | .ok => 0
  | .cancelled => 1
  | .invalidArgument => 3
  | .deadlineExceeded => 4
  | .notFound => 5
  | .alreadyExists => 6
  | .permissionDenied => 7
  | .resourceExhausted => 8
  | .aborted => 10
  | .outOfRange => 11
  | .internal => 13
  | .unavailable => 14
  | .dataLoss => 15
  | .unauthenticated => 16

structure Status where
  code : StatusCode := .ok
  message : String := ""
  requiresServerExit : Bool := false
  storageDiagnostic : String := ""
deriving DecidableEq

namespace Status

def ok : Status := {}

def fatal (code : StatusCode) (message : String) : Status :=
  { code, message, requiresServerExit := true }

def isOk (status : Status) : Bool := status.code = .ok

def withStorageDiagnostic (status : Status) (operation error : String) : Status :=
  { status with storageDiagnostic := "operation=" ++ operation ++ "; error=" ++ error }

def storageCorruption (operation error : String) : Status :=
  ({ code := .dataLoss, message := error } : Status).withStorageDiagnostic operation error

@[simp] theorem ok_code : ok.code = .ok := rfl

@[simp] theorem storageCorruption_code (operation error : String) :
    (storageCorruption operation error).code = .dataLoss := rfl

/-- The line that the server logs for the error that shuts it down. -/
def fatalLogMessage (status : Status) : String :=
  "fatal storage error: " ++
    (if status.storageDiagnostic.isEmpty then "operation=storage; error=unclassified failure"
      else status.storageDiagnostic) ++ "; grpc_code=" ++ toString status.code.number

/-- The test that the server applies before it shuts down on an error. -/
def isFatal (status : Status) : Bool :=
  status.requiresServerExit || status.code = .dataLoss

end Status

abbrev Result (α : Type) := Except Status α

/-- A RocksDB status that is neither OK nor NotFound: its `IsCorruption` flag,
its `ToString` text and the text rebuilt from its enums only. -/
structure RocksStatus where
  isCorruption : Bool
  text : String
  diagnostic : String
deriving DecidableEq

def rocksToStatus (status : RocksStatus) (operation : String) : Status :=
  (Status.fatal (if status.isCorruption then .dataLoss else .unavailable)
    (operation ++ ": " ++ status.text)).withStorageDiagnostic operation status.diagnostic

theorem rocksToStatus_code (status : RocksStatus) (operation : String) :
    (rocksToStatus status operation).code =
      if status.isCorruption then .dataLoss else .unavailable := rfl

theorem rocksToStatus_not_ok (status : RocksStatus) (operation : String) :
    (rocksToStatus status operation).isOk = false := by
  rw [Status.isOk, rocksToStatus_code]
  split <;> rfl

/-- The error numbers that the object file code tells apart, with the text
`strerror` gives for the others. -/
inductive Errno where
  | enoent
  | eexist
  | eintr
  | eisdir
  | eperm
  | eloop
  | enospc
  | edquot
  | other (text : String)
deriving DecidableEq

/-- The text `strerror` returns. -/
def Errno.text : Errno → String
  | .enoent => "No such file or directory"
  | .eexist => "File exists"
  | .eintr => "Interrupted system call"
  | .eisdir => "Is a directory"
  | .eperm => "Operation not permitted"
  | .eloop => "Too many levels of symbolic links"
  | .enospc => "No space left on device"
  | .edquot => "Disk quota exceeded"
  | .other text => text

def errnoMessage (operation : String) (error : Errno) : String :=
  operation ++ ": " ++ error.text

def objectIoStatus (operation : String) (error : Errno) : Status :=
  if error = .enospc ∨ error = .edquot then
    { code := .resourceExhausted, message := errnoMessage operation error }
  else { code := .unavailable, message := errnoMessage operation error }

theorem objectIoStatus_not_ok (operation : String) (error : Errno) :
    (objectIoStatus operation error).isOk = false := by
  unfold objectIoStatus
  split <;> rfl

theorem objectIoStatus_not_fatal (operation : String) (error : Errno) :
    (objectIoStatus operation error).isFatal = false := by
  unfold objectIoStatus
  split <;> rfl

end OpenEvent
