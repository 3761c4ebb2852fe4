import OpenEvent.Core.Payloads
import OpenEvent.Storage.ObjectFileStore
import OpenEvent.Storage.UnifiedStorage

/-!
The state of `OpenEventCore` that calls share, the fatal latch, the commit
path and the checks that several operations have in common.
-/

namespace OpenEvent

/-- The limits that a core is constructed with; a soft limit of 0 stands for the default. -/
structure Config where
  maxPayloadBytes : Nat
  maxScanRecords : UInt64
  responseSoftLimitBytes : Nat := kMessagePageSoftBytes

/-- `fatalError` is the status that set the fatal flag and with which the fatal
error handler was called. -/
structure CoreState where
  db : Db
  fatalError : Option Status := none
  commitGeneration : Nat := 0

/-- What `CheckRpcActive` finds. A call without a context is active. -/
inductive RpcState where
  | active
  | deadlineExceeded
  | cancelled
deriving DecidableEq

/-- What one section under the coordinator mutex meets. -/
structure CallEnv where
  faults : ReadFaults := {}
  commit : CommitOutcome := .written
  rpcBefore : RpcState := .active
  rpcAfter : RpcState := .active
  nowMs : UInt64 := 0
  random : List GetrandomResult := []

structure CallEnv.NoCorruption (env : CallEnv) : Prop where
  faults : env.faults.NoCorruption
  commit : env.commit.NoCorruption

/-- A return before the commit, through `FatalStorageError` or not. -/
structure Exit where
  status : Status
  fatal : Bool := false
deriving DecidableEq

namespace OpenEventCore

def ensureAvailable (fatalError : Option Status) : Result Unit :=
  match fatalError with
  | some _ =>
      .error { code := .unavailable,
               message := "server is shutting down due to a fatal storage error" }
  | none => .ok ()

def checkRpcActive : RpcState → Result Unit
  | .active => .ok ()
  | .deadlineExceeded =>
      .error { code := .deadlineExceeded, message := "RPC deadline exceeded" }
  | .cancelled => .error { code := .cancelled, message := "RPC cancelled" }

/-- The first status given wins; later ones change nothing. -/
def fatalStorageError (state : CoreState) (status : Status) : CoreState :=
  match state.fatalError with
  | some _ => state
  | none => { state with fatalError := some status }

def commitBatch (state : CoreState) (batch : WriteBatch) (outcome : CommitOutcome) :
    CoreState × Status :=
  let (db, status) := UnifiedStorage.commit state.db batch outcome
  let state := { state with db }
  if status.isOk then ({ state with commitGeneration := state.commitGeneration + 1 }, status)
  else if status.requiresServerExit then (fatalStorageError state status, status)
  else (state, status)

/-- A call that returns early. -/
def leave (state : CoreState) (exit : Exit) : CoreState × Status :=
  (if exit.fatal then fatalStorageError state exit.status else state, exit.status)

/-- A return that does not go through `FatalStorageError`. -/
def plain {α : Type} (result : Result α) : Except Exit α :=
  match result with
  | .ok value => .ok value
  | .error status => .error { status }

/-- The return of an object lookup: fatal statuses go through the latch. -/
def latching {α : Type} (result : Result α) : Except Exit α :=
  match result with
  | .ok value => .ok value
  | .error status => .error { status, fatal := status.isFatal }

def authenticate (snapshot : Db) (faults : ReadFaults) (principal : UInt64) (token : Bytes) :
    Result Unit :=
  if principal = 0 then
    .error { code := .invalidArgument, message := "principal must be greater than 0" }
  else if token = [] then
    .error { code := .unauthenticated, message := "token is required" }
  else do
    let found ← UnifiedStorage.hasToken snapshot faults principal token
    if found then pure ()
    else throw { code := .unauthenticated, message := "invalid token" }

def validateAvailableUuid (snapshot : Db) (faults : ReadFaults) (uuid : UInt64) : Result Unit :=
  if uuid = 0 then
    .error { code := .invalidArgument, message := "uuid must be allocated by the server" }
  else do
    let nextUuid ← UnifiedStorage.getNextUuid snapshot faults
    if uuid ≥ nextUuid then
      throw { code := .invalidArgument, message := "uuid was not allocated by the server" }
    let uuidSeq ← UnifiedStorage.getUsedUuidSeq snapshot faults uuid
    if uuidSeq.isSome then
      throw { code := .alreadyExists, message := "uuid has already been used" }

def validatePayloadSize (config : Config) (payload : Bytes) : Result Unit :=
  if payload.length ≤ config.maxPayloadBytes then .ok ()
  else
    .error { code := .resourceExhausted,
             message := "payload exceeds limits.max_payload_bytes (" ++ toString payload.length ++
               " > " ++ toString config.maxPayloadBytes ++ ")" }

def validateObjectKeysShape (objectKeys : List ObjectKey) : Result Unit :=
  if objectKeys.length > kMaxObjectKeys then
    .error { code := .invalidArgument, message := "object_keys must contain at most 1024 items" }
  else if objectKeys.any (fun key => key.objectId = 0 || key.objectToken.isEmpty) then
    .error { code := .invalidArgument,
             message := "each ObjectKey requires nonzero object_id and nonempty object_token" }
  else .ok ()

def systemChannel : ChannelInfo :=
  { channelId := 0, name := "system", visibility := .visibilityProtected,
    protocol := "system.v1", description := "", creator := none, members := [] }

def loadChannel (ext : Externals) (snapshot : Db) (faults : ReadFaults) (channelId : UInt64) :
    Result (Option ChannelInfo) :=
  if channelId = 0 then .ok (some systemChannel)
  else UnifiedStorage.getChannel ext snapshot faults channelId

def isMember (channel : ChannelInfo) (principal : UInt64) : Bool :=
  channel.members.contains principal

def canRead (channel : ChannelInfo) (principal : UInt64) : Bool :=
  if channel.channelId = 0 then true
  else if channel.visibility = .visibilityPublic ∨ channel.visibility = .visibilityProtected then
    true
  else isMember channel principal

def canWrite (channel : ChannelInfo) (principal : UInt64) : Bool :=
  if channel.channelId = 0 then false
  else if channel.visibility = .visibilityPublic then true
  else isMember channel principal

def validateRecipients (channel : ChannelInfo) (recipients : List UInt64) : Result Unit :=
  if recipients.all (fun recipient => channel.members.contains recipient) then .ok ()
  else .error { code := .invalidArgument, message := "recipient must be channel member" }

def hasRecipient (message : EventMessage) (principal : UInt64) : Bool :=
  message.recipients.contains principal

def validateVisibility (visibility : Visibility) : Result Unit :=
  match visibility with
  | .other _ => .error { code := .invalidArgument, message := "invalid visibility" }
  | _ => .ok ()

def validateFilter (filter : ChannelFilter) : Result Unit :=
  match filter with
  | .other _ => .error { code := .invalidArgument, message := "invalid channel filter" }
  | _ => .ok ()

def sameObject (left right : StoredObject) : Bool :=
  left.objectId = right.objectId && left.objectToken = right.objectToken &&
    left.creatorPrincipal = right.creatorPrincipal && left.name = right.name &&
    left.type = right.type && left.description = right.description && left.nbytes = right.nbytes

end OpenEventCore

end OpenEvent
