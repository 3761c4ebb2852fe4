import OpenEvent.Core.WriteObject

/-!
The operations that only read. Each takes one snapshot and answers from it;
`ReadObject` then reads the object file. `fatalError` is what
`EnsureAvailable` finds, `snapshot` the database at the moment at which the
snapshot is taken.
-/

namespace OpenEvent.OpenEventCore

/-! ### Point reads -/

def getStatus (fatalError : Option Status) (db : Db) (faults : ReadFaults) (principal : UInt64)
    (token : Bytes) : Result UInt64 := do
  ensureAvailable fatalError
  let snapshot ← UnifiedStorage.createSnapshot db faults
  authenticate snapshot faults principal token
  UnifiedStorage.getMaxSeq snapshot faults

def getSeqByUuid (fatalError : Option Status) (db : Db) (faults : ReadFaults) (uuid : UInt64) :
    Result UInt64 := do
  ensureAvailable fatalError
  let snapshot ← UnifiedStorage.createSnapshot db faults
  match ← UnifiedStorage.getUsedUuidSeq snapshot faults uuid with
  | none =>
      throw { code := .notFound, message := "uuid has not been consumed by a committed message" }
  | some seq => pure seq

def maxSeq (fatalError : Option Status) (db : Db) (faults : ReadFaults) : Result UInt64 := do
  ensureAvailable fatalError
  let snapshot ← UnifiedStorage.createSnapshot db faults
  UnifiedStorage.getMaxSeq snapshot faults

/-! ### Objects -/

def loadAuthorizedObject (ext : Externals) (snapshot : Db) (faults : ReadFaults)
    (objectId : UInt64) (objectToken : String) : Except Exit StoredObject :=
  if objectId = 0 ∨ objectToken.isEmpty then
    .error { status := { code := .invalidArgument,
                         message := "object_id must be nonzero and object_token must be nonempty" } }
  else do
    match ← latching (UnifiedStorage.getCommittedObject ext snapshot faults objectId) with
    | none => throw { status := { code := .notFound, message := "object capability not found" } }
    | some object =>
        if ObjectFileStore.constantTimeEquals object.objectToken objectToken then pure object
        else throw { status := { code := .notFound, message := "object capability not found" } }

def getObjectMetadata (ext : Externals) (fatalError : Option Status) (db : Db)
    (faults : ReadFaults) (key : ObjectKey) : Except Exit ObjectMetadata := do
  plain (ensureAvailable fatalError)
  let snapshot ← plain (UnifiedStorage.createSnapshot db faults)
  let object ← loadAuthorizedObject ext snapshot faults key.objectId key.objectToken
  pure object.metadata

/-- The loop of `BatchGetObjectMetadata`. -/
def batchMetadataLoop (ext : Externals) (snapshot : Db) (faults : ReadFaults) :
    List ObjectKey → Except Exit (List ObjectMetadata)
  | [] => .ok []
  | key :: rest => do
      let object ← loadAuthorizedObject ext snapshot faults key.objectId key.objectToken
      let staged ← batchMetadataLoop ext snapshot faults rest
      pure (object.metadata :: staged)

def batchGetObjectMetadata (ext : Externals) (fatalError : Option Status) (db : Db)
    (faults : ReadFaults) (objectKeys : List ObjectKey) : Except Exit (List ObjectMetadata) := do
  plain (ensureAvailable fatalError)
  if objectKeys = [] then
    throw { status := { code := .invalidArgument, message := "object_keys must not be empty" } }
  plain (validateObjectKeysShape objectKeys)
  let snapshot ← plain (UnifiedStorage.createSnapshot db faults)
  batchMetadataLoop ext snapshot faults objectKeys

/-- `BatchGetObjectMetadata` with its response object, which is cleared first and
replaced only when every key has been looked up. -/
def batchGetObjectMetadataResponse (ext : Externals) (fatalError : Option Status) (db : Db)
    (faults : ReadFaults) (objectKeys : List ObjectKey) :
    StateM (List ObjectMetadata) (Except Exit Unit) := do
  set ([] : List ObjectMetadata)
  match batchGetObjectMetadata ext fatalError db faults objectKeys with
  | .error exit => pure (.error exit)
  | .ok staged => do
      set staged
      pure (.ok ())

/-- `ReadObject` up to the end of its snapshot. -/
def readObjectRecord (ext : Externals) (fatalError : Option Status) (db : Db)
    (faults : ReadFaults) (request : ReadObjectRequest) : Except Exit StoredObject := do
  plain (ensureAvailable fatalError)
  if request.nbytes = 0 then
    throw { status := { code := .invalidArgument, message := "nbytes must be greater than 0" } }
  let snapshot ← plain (UnifiedStorage.createSnapshot db faults)
  loadAuthorizedObject ext snapshot faults request.objectId request.objectToken

/-- The rest of `ReadObject`, from the object record on. -/
def readObjectFile (dir : ObjectDirectory) (io : ObjectFileStore.ReadIo)
    (request : ReadObjectRequest) (object : StoredObject) : Option (Except Exit Bytes) :=
  if request.offset > object.nbytes then
    some (.error { status := { code := .outOfRange, message := "offset exceeds object size" } })
  else
    (ObjectFileStore.readRange dir object.objectId object.nbytes request.offset request.nbytes
      io).map latching

/-- `ReadObject`: the record comes from the database at one moment, the bytes
from the directory at a later one. -/
def readObject (ext : Externals) (fatalError : Option Status) (db : Db) (faults : ReadFaults)
    (dir : ObjectDirectory) (io : ObjectFileStore.ReadIo) (request : ReadObjectRequest) :
    Option (Except Exit Bytes) :=
  match readObjectRecord ext fatalError db faults request with
  | .error exit => some (.error exit)
  | .ok object => readObjectFile dir io request object

/-! ### Channels -/

def getChannel (ext : Externals) (fatalError : Option Status) (db : Db) (faults : ReadFaults)
    (request : GetChannelRequest) : Result ChannelInfo := do
  ensureAvailable fatalError
  let snapshot ← UnifiedStorage.createSnapshot db faults
  authenticate snapshot faults request.principal request.token
  match ← loadChannel ext snapshot faults request.channelId with
  | none => throw { code := .notFound, message := "channel not found" }
  | some channel =>
      if canRead channel request.principal then pure channel
      else throw { code := .permissionDenied, message := "channel not visible" }

/-- The channels that the filter of a `ListChannels` request lets through. -/
def listed (request : ListChannelsRequest) (channel : ChannelInfo) : Bool :=
  canRead channel request.principal &&
    !(request.filter = .channelFilterJoined && !isMember channel request.principal) &&
    !(request.filter = .channelFilterOwned && channel.creator ≠ some request.principal)

def listChannels (ext : Externals) (fatalError : Option Status) (db : Db) (faults : ReadFaults)
    (request : ListChannelsRequest) : Result (List ChannelInfo) := do
  ensureAvailable fatalError
  validateFilter request.filter
  let snapshot ← UnifiedStorage.createSnapshot db faults
  authenticate snapshot faults request.principal request.token
  let channels ← UnifiedStorage.listChannels ext snapshot faults
  let system := if request.filter = .channelFilterAll then [systemChannel] else []
  pure (system ++ channels.filter (listed request))

/-- The loop of `ValidateReadableChannels`; `validated` are the ids seen. -/
def validateReadableLoop (ext : Externals) (snapshot : Db) (faults : ReadFaults)
    (principal : UInt64) : List UInt64 → List UInt64 → Result Unit
  | [], _ => .ok ()
  | channelId :: rest, validated =>
      if validated.contains channelId then
        validateReadableLoop ext snapshot faults principal rest validated
      else do
        match ← loadChannel ext snapshot faults channelId with
        | none => throw { code := .notFound, message := "channel not found" }
        | some channel =>
            if canRead channel principal then
              validateReadableLoop ext snapshot faults principal rest (channelId :: validated)
            else throw { code := .permissionDenied, message := "channel not visible" }

def validateReadableChannels (ext : Externals) (snapshot : Db) (faults : ReadFaults)
    (principal : UInt64) (channels : List UInt64) : Result Unit :=
  validateReadableLoop ext snapshot faults principal channels []

/-! ### Messages -/

/-- What the visitor of a message scan has collected: the response, its size,
and what is known about the channels met so far. -/
structure ScanState where
  messages : List EventMessage := []
  responseBytes : Nat := 0
  readable : UInt64 → Option Bool := fun _ => none

/-- The end of a visit: the message is added unless it would take the response
over the soft limit, and the scan ends at the message limit. -/
def addMessage (ext : Externals) (config : Config) (limit : UInt32) (state : ScanState)
    (message : EventMessage) : ScanState × Result UnifiedStorage.MessageScanAction :=
  let messageBytes := ext.byteSizeLong message
  if state.messages ≠ [] ∧ messageBytes > config.responseSoftLimitBytes -
      min state.responseBytes config.responseSoftLimitBytes then
    (state, .ok .kStopBefore)
  else
    let state := { state with
      messages := state.messages ++ [message], responseBytes := state.responseBytes + messageBytes }
    if state.messages.length ≥ limit.toNat then (state, .ok .kStopAfter)
    else (state, .ok .kContinue)

/-- The channel entry of the scan state, read from the snapshot on first use. -/
def channelEntry (ext : Externals) (snapshot : Db) (faults : ReadFaults) (operation : String)
    (verdict : ChannelInfo → Bool) (state : ScanState) (channelId : UInt64) :
    Result (ScanState × Bool) :=
  match state.readable channelId with
  | some known => .ok (state, known)
  | none => do
      match ← loadChannel ext snapshot faults channelId with
      | none => throw (.storageCorruption operation "message references a missing channel")
      | some channel =>
          pure ({ state with
            readable := Function.update state.readable channelId (some (verdict channel)) },
            verdict channel)

def visitVisible (ext : Externals) (config : Config) (snapshot : Db) (faults : ReadFaults)
    (principal : UInt64) (limit : UInt32) (onlyMyRecipient : Bool) (channels : List UInt64)
    (state : ScanState) (message : EventMessage) :
    ScanState × Result UnifiedStorage.MessageScanAction :=
  if channels ≠ [] ∧ channels.contains message.channelId = false then (state, .ok .kContinue)
  else
    match channelEntry ext snapshot faults "scan visible messages" (canRead · principal) state
        message.channelId with
    | .error status => (state, .error status)
    | .ok (state, readable) =>
        if readable = false ∨ (onlyMyRecipient ∧ hasRecipient message principal = false) then
          (state, .ok .kContinue)
        else addMessage ext config limit state message

def fetchVisible (ext : Externals) (config : Config) (snapshot : Db) (faults : ReadFaults)
    (principal fromSeq : UInt64) (limit : UInt32) (onlyMyRecipient : Bool)
    (channels : List UInt64) : Result FetchResponse := do
  let maxSeq ← UnifiedStorage.getMaxSeq snapshot faults
  if fromSeq > maxSeq then pure { messages := [], nextSeq := maxSeq + 1, lastSeq := maxSeq }
  else
    let start : ScanState :=
      { readable := fun channelId => if channels.contains channelId then some true else none }
    let (state, nextSeq) := UnifiedStorage.scanMessages ext snapshot faults fromSeq maxSeq
      config.maxScanRecords
      (visitVisible ext config snapshot faults principal limit onlyMyRecipient channels) start
    let nextSeq ← nextSeq
    pure { messages := state.messages, nextSeq, lastSeq := maxSeq }

/-- The check of `Fetch` and of `ListMessages` on the limit. -/
def validateLimit (limit : UInt32) : Result Unit :=
  if limit = 0 ∨ limit > 1000 then
    .error { code := .invalidArgument, message := "limit must be in 1..1000" }
  else .ok ()

def fetch (ext : Externals) (config : Config) (fatalError : Option Status) (db : Db)
    (faults : ReadFaults) (request : FetchRequest) : Result FetchResponse := do
  ensureAvailable fatalError
  validateLimit request.limit
  let snapshot ← UnifiedStorage.createSnapshot db faults
  authenticate snapshot faults request.principal request.token
  validateReadableChannels ext snapshot faults request.principal request.channels
  fetchVisible ext config snapshot faults request.principal request.fromSeq request.limit
    request.onlyMyRecipient request.channels

/-- The visitor of `ListAllMessages` only requires that the channel exists. -/
def visitAll (ext : Externals) (config : Config) (snapshot : Db) (faults : ReadFaults)
    (limit : UInt32) (state : ScanState) (message : EventMessage) :
    ScanState × Result UnifiedStorage.MessageScanAction :=
  match channelEntry ext snapshot faults "scan subscription messages" (fun _ => true) state
      message.channelId with
  | .error status => (state, .error status)
  | .ok (state, _) => addMessage ext config limit state message

def listAllMessages (ext : Externals) (config : Config) (snapshot : Db) (faults : ReadFaults)
    (fromSeq : UInt64) (limit : UInt32) : Result FetchResponse := do
  let maxSeq ← UnifiedStorage.getMaxSeq snapshot faults
  if fromSeq > maxSeq then pure { messages := [], nextSeq := maxSeq + 1, lastSeq := maxSeq }
  else
    let (state, nextSeq) := UnifiedStorage.scanMessages ext snapshot faults fromSeq maxSeq
      config.maxScanRecords (visitAll ext config snapshot faults limit) {}
    let nextSeq ← nextSeq
    pure { messages := state.messages, nextSeq, lastSeq := maxSeq }

def listMessages (ext : Externals) (config : Config) (fatalError : Option Status) (db : Db)
    (faults : ReadFaults) (fromSeq : UInt64) (limit : UInt32) : Result FetchResponse := do
  ensureAvailable fatalError
  validateLimit limit
  let snapshot ← UnifiedStorage.createSnapshot db faults
  listAllMessages ext config snapshot faults fromSeq limit

/-! ### Subscriptions, from the shared snapshot -/

/-- `GetSubscriptionMaxSeq` from the snapshot it was given on. -/
def subscriptionMaxSeq (ext : Externals) (snapshot : Db) (faults : ReadFaults)
    (principal : UInt64) (token : Bytes) (channels : List UInt64) : Result UInt64 := do
  authenticate snapshot faults principal token
  validateReadableChannels ext snapshot faults principal channels
  UnifiedStorage.getMaxSeq snapshot faults

/-- `FetchSubscriptionBatch` from the snapshot it was given on. -/
def subscriptionBatch (ext : Externals) (config : Config) (snapshot : Db) (faults : ReadFaults)
    (principal : UInt64) (token : Bytes) (fromSeq : UInt64) (limit : UInt32)
    (onlyMyRecipient : Bool) (channels : List UInt64) : Result FetchResponse := do
  authenticate snapshot faults principal token
  validateReadableChannels ext snapshot faults principal channels
  fetchVisible ext config snapshot faults principal fromSeq limit onlyMyRecipient channels

end OpenEvent.OpenEventCore
