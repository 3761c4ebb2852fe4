import OpenEvent.Storage.Validators

/-!
`UnifiedStorage`: the key layout, the readers over a snapshot, the batch
setters, the message scan and the checks made when a store is opened. No
fault injector is installed, as in the server's `main`.
-/

namespace OpenEvent

def kSchemaVersion : UInt64 := 6
def kSchemaVersionKey : String := "meta:schema_version"
def kMaxSeqKey : String := "meta:max_seq"
def kNextUuidKey : String := "meta:next_uuid"
def kNextChannelIdKey : String := "meta:next_channel_id"
def kNextObjectIdKey : String := "meta:next_object_id"
def kChannelPrefix : String := "ch/"
def kTokenPrefix : String := "token/"
def kMessagePrefix : String := "msg/"
def kUuidPrefix : String := "uuid/"
def kPreparingObjectPrefix : String := "preparing/"
def kCommittedObjectPrefix : String := "object/"

/-- The keys of the counters. -/
def counterKeys : List String := [kMaxSeqKey, kNextUuidKey, kNextChannelIdKey, kNextObjectIdKey]

def numericKey (keyPrefix : String) (value : UInt64) : Bytes :=
  Bytes.ofString keyPrefix ++ encodeUint64 value

def tokenKey (principal : UInt64) (token : Bytes) : Bytes :=
  numericKey kTokenPrefix principal ++ token

def decodeRequiredUint64 (value : Bytes) (description : String) : Result UInt64 :=
  if value.length ≠ 8 then
    .error (.storageCorruption ("decode " ++ description) ("invalid " ++ description ++ " encoding"))
  else .ok (decodeUint64 value)

def startsWith (key : Bytes) (keyPrefix : String) : Bool :=
  (Bytes.ofString keyPrefix).isPrefixOf key

def decodeNumericKey (key : Bytes) (keyPrefix description : String) : Result UInt64 :=
  if key.length ≠ keyPrefix.utf8ByteSize + 8 ∨ startsWith key keyPrefix = false then
    .error (.storageCorruption ("decode " ++ description) ("invalid " ++ description ++ " key"))
  else .ok (decodeUint64 (key.drop keyPrefix.utf8ByteSize))

namespace UnifiedStorage

/-! ### Readers -/

def createSnapshot (db : Db) (faults : ReadFaults) : Result Db :=
  if faults.snapshot then
    .error ((Status.fatal .unavailable "create storage snapshot failed").withStorageDiagnostic
      "create storage snapshot" "RocksDB returned no snapshot")
  else .ok db

def getRequiredUint64 (snapshot : Db) (faults : ReadFaults) (key : String) : Result UInt64 :=
  match snapshot.get faults .metadata (Bytes.ofString key) with
  | .error status => .error (rocksToStatus status ("read " ++ key))
  | .ok none =>
      .error (.storageCorruption ("read " ++ key) ("missing required storage key: " ++ key))
  | .ok (some value) => decodeRequiredUint64 value key

def getMaxSeq (snapshot : Db) (faults : ReadFaults) : Result UInt64 :=
  getRequiredUint64 snapshot faults kMaxSeqKey

def getNextUuid (snapshot : Db) (faults : ReadFaults) : Result UInt64 :=
  getRequiredUint64 snapshot faults kNextUuidKey

def getNextChannelId (snapshot : Db) (faults : ReadFaults) : Result UInt64 :=
  getRequiredUint64 snapshot faults kNextChannelIdKey

def getNextObjectId (snapshot : Db) (faults : ReadFaults) : Result UInt64 :=
  getRequiredUint64 snapshot faults kNextObjectIdKey

def getUsedUuidSeq (snapshot : Db) (faults : ReadFaults) (uuid : UInt64) :
    Result (Option UInt64) :=
  match snapshot.get faults .metadata (numericKey kUuidPrefix uuid) with
  | .error status => .error (rocksToStatus status "read used uuid")
  | .ok none => .ok none
  | .ok (some value) => do
      let seq ← decodeRequiredUint64 value "used uuid"
      if (uuid == 0) != (seq == 0) then
        throw (.storageCorruption "read used uuid" "invalid stored UUID mapping")
      pure (some seq)

def hasToken (snapshot : Db) (faults : ReadFaults) (principal : UInt64) (token : Bytes) :
    Result Bool :=
  match snapshot.get faults .metadata (tokenKey principal token) with
  | .error status => .error (rocksToStatus status "read credential")
  | .ok none => .ok false
  | .ok (some value) =>
      if value ≠ [] then
        .error (.storageCorruption "read credential" "invalid stored credential")
      else .ok true

def parseChannel (ext : Externals) (value : Bytes) (channelId : UInt64) (operation : String) :
    Result ChannelInfo :=
  match ext.channelInfo.parseFromString value with
  | none => .error (.storageCorruption operation "invalid stored channel")
  | some channel =>
      if channel.channelId ≠ channelId ∨ validStoredChannel ext channel = false then
        .error (.storageCorruption operation "invalid stored channel")
      else .ok channel

def getChannel (ext : Externals) (snapshot : Db) (faults : ReadFaults) (channelId : UInt64) :
    Result (Option ChannelInfo) :=
  match snapshot.get faults .metadata (numericKey kChannelPrefix channelId) with
  | .error status => .error (rocksToStatus status "read channel")
  | .ok none => .ok none
  | .ok (some value) => do
      let channel ← parseChannel ext value channelId "read channel"
      pure (some channel)

/-- The loop of `ListChannels` over the iterator's entries. -/
def listChannelsLoop (ext : Externals) (status : Option RocksStatus) :
    List (Bytes × Bytes) → Result (List ChannelInfo)
  | [] =>
      match status with
      | some status => .error (rocksToStatus status "list channels")
      | none => .ok []
  | entry :: rest =>
      if startsWith entry.1 kChannelPrefix = false then .ok []
      else do
        let channelId ← decodeNumericKey entry.1 kChannelPrefix "channel"
        let channel ← parseChannel ext entry.2 channelId "list channels"
        let channels ← listChannelsLoop ext status rest
        pure (channel :: channels)

def listChannels (ext : Externals) (snapshot : Db) (faults : ReadFaults) :
    Result (List ChannelInfo) :=
  let (entries, status) := snapshot.iterate faults .metadata (Bytes.ofString kChannelPrefix)
  listChannelsLoop ext status entries

def getObject (ext : Externals) (snapshot : Db) (faults : ReadFaults) (keyPrefix : String)
    (objectId : UInt64) : Result (Option StoredObject) :=
  match snapshot.get faults .objects (numericKey keyPrefix objectId) with
  | .error status => .error (rocksToStatus status "read object metadata")
  | .ok none => .ok none
  | .ok (some value) => do
      let object ← parseObject ext value objectId
      pure (some object)

def getPreparingObject (ext : Externals) (snapshot : Db) (faults : ReadFaults)
    (objectId : UInt64) : Result (Option StoredObject) :=
  getObject ext snapshot faults kPreparingObjectPrefix objectId

def getCommittedObject (ext : Externals) (snapshot : Db) (faults : ReadFaults)
    (objectId : UInt64) : Result (Option StoredObject) :=
  getObject ext snapshot faults kCommittedObjectPrefix objectId

/-- `MultiGet` reports one status per key; the first failure is returned. -/
def getCommittedObjects (ext : Externals) (snapshot : Db) (faults : ReadFaults) :
    List UInt64 → Result (List (Option StoredObject))
  | [] => .ok []
  | objectId :: rest => do
      let object ← getObject ext snapshot faults kCommittedObjectPrefix objectId
      let objects ← getCommittedObjects ext snapshot faults rest
      pure (object :: objects)

/-! ### Message scan -/

inductive MessageScanAction where
  | kContinue
  | kStopBefore
  | kStopAfter
deriving DecidableEq

/-- How the scan loop ends: by a `return` inside it, or by leaving it with the
iterator at the entries that remain. -/
inductive ScanExit (σ : Type) where
  | returned (state : σ) (result : Result UInt64)
  | left (state : σ) (rest : List (Bytes × Bytes)) (scanned nextSeq : UInt64)

def missingMessage (seq : UInt64) : Status :=
  .storageCorruption "scan messages" ("missing stored message at seq " ++ toString seq.toNat)

/-- Decoding and checking of one scanned record. -/
def checkMessage (ext : Externals) (seq : UInt64) (value : Bytes) : Result EventMessage :=
  match ext.eventMessage.parseFromString value with
  | none => .error (.storageCorruption "scan messages" "invalid stored message")
  | some message =>
      if message.seq ≠ seq then
        .error (.storageCorruption "scan messages" "invalid stored message")
      else if validReservedFields ext seq message = false then
        .error (.storageCorruption "scan messages" "invalid stored message reserved fields")
      else if validObjectReferences message = false then
        .error (.storageCorruption "scan messages" "invalid stored message object reference")
      else .ok message

section Scan

variable {σ : Type}

def scanLoop (ext : Externals) (lastSeq maxRecords : UInt64)
    (visitor : σ → EventMessage → σ × Result MessageScanAction) :
    List (Bytes × Bytes) → σ → UInt64 → UInt64 → ScanExit σ
  | [], state, scanned, nextSeq => .left state [] scanned nextSeq
  | entry :: rest, state, scanned, nextSeq =>
      if startsWith entry.1 kMessagePrefix = false then
        .left state (entry :: rest) scanned nextSeq
      else
        match decodeNumericKey entry.1 kMessagePrefix "message" with
        | .error status => .returned state (.error status)
        | .ok seq =>
            if seq > lastSeq then .left state (entry :: rest) scanned nextSeq
            else if seq ≠ nextSeq then .returned state (.error (missingMessage nextSeq))
            else if scanned ≥ maxRecords then .left state (entry :: rest) scanned nextSeq
            else
              match checkMessage ext seq entry.2 with
              | .error status => .returned state (.error status)
              | .ok message =>
                  match visitor state message with
                  | (state, .error status) => .returned state (.error status)
                  | (state, .ok .kStopBefore) => .returned state (.ok seq)
                  | (state, .ok .kStopAfter) => .returned state (.ok (seq + 1))
                  | (state, .ok .kContinue) =>
                      scanLoop ext lastSeq maxRecords visitor rest state (scanned + 1) (seq + 1)

/-- The test after the loop: is the record at the cursor missing? -/
def missingAfterLoop (rest : List (Bytes × Bytes)) (lastSeq : UInt64) : Bool :=
  match rest with
  | [] => true
  | entry :: _ =>
      !startsWith entry.1 kMessagePrefix ||
        decodeUint64 (entry.1.drop kMessagePrefix.utf8ByteSize) > lastSeq

def scanMessages (ext : Externals) (snapshot : Db) (faults : ReadFaults)
    (fromSeq lastSeq maxRecords : UInt64)
    (visitor : σ → EventMessage → σ × Result MessageScanAction) (start : σ) : σ × Result UInt64 :=
  let (entries, status) := snapshot.iterate faults .messages (numericKey kMessagePrefix fromSeq)
  match scanLoop ext lastSeq maxRecords visitor entries start 0 fromSeq with
  | .returned state result => (state, result)
  | .left state rest scanned nextSeq =>
      -- The iterator has an error status only once it is not valid any more.
      match rest, status with
      | [], some status => (state, .error (rocksToStatus status "scan messages"))
      | _, _ =>
          if scanned < maxRecords ∧ nextSeq ≤ lastSeq ∧ missingAfterLoop rest lastSeq = true then
            (state, .error (missingMessage nextSeq))
          else (state, .ok nextSeq)

end Scan

/-! ### Batch setters -/

def setMaxSeq (batch : WriteBatch) (seq : UInt64) : Result WriteBatch :=
  .ok (batch ++ [.put .metadata (Bytes.ofString kMaxSeqKey) (encodeUint64 seq)])

def setNextUuid (batch : WriteBatch) (uuid : UInt64) : Result WriteBatch :=
  if uuid = 0 then
    .error { code := .invalidArgument, message := "next uuid must be nonzero" }
  else .ok (batch ++ [.put .metadata (Bytes.ofString kNextUuidKey) (encodeUint64 uuid)])

def putUsedUuid (batch : WriteBatch) (uuid seq : UInt64) : Result WriteBatch :=
  if uuid = 0 ∨ seq = 0 then
    .error { code := .invalidArgument, message := "used uuid and seq must be nonzero" }
  else .ok (batch ++ [.put .metadata (numericKey kUuidPrefix uuid) (encodeUint64 seq)])

def setNextChannelId (batch : WriteBatch) (channelId : UInt64) : Result WriteBatch :=
  .ok (batch ++ [.put .metadata (Bytes.ofString kNextChannelIdKey) (encodeUint64 channelId)])

def setNextObjectId (batch : WriteBatch) (objectId : UInt64) : Result WriteBatch :=
  .ok (batch ++ [.put .metadata (Bytes.ofString kNextObjectIdKey) (encodeUint64 objectId)])

def putMessage (ext : Externals) (batch : WriteBatch) (message : EventMessage) :
    Result WriteBatch :=
  match ext.eventMessage.serializeToString message with
  | none => .error { code := .internal, message := "serialize message failed" }
  | some payload => .ok (batch ++ [.put .messages (numericKey kMessagePrefix message.seq) payload])

def putChannel (ext : Externals) (batch : WriteBatch) (channel : ChannelInfo) :
    Result WriteBatch :=
  match ext.channelInfo.serializeToString channel with
  | none => .error { code := .internal, message := "serialize channel failed" }
  | some payload =>
      .ok (batch ++ [.put .metadata (numericKey kChannelPrefix channel.channelId) payload])

def putToken (batch : WriteBatch) (principal : UInt64) (token : Bytes) : Result WriteBatch :=
  .ok (batch ++ [.put .metadata (tokenKey principal token) []])

def deleteToken (batch : WriteBatch) (principal : UInt64) (token : Bytes) : WriteBatch :=
  batch ++ [.delete .metadata (tokenKey principal token)]

def serializeObject (ext : Externals) (object : StoredObject) : Result Bytes :=
  match ext.objectRecord.serializeToString object with
  | none => .error { code := .internal, message := "serialize object metadata failed" }
  | some payload => .ok payload

def putPreparingObject (ext : Externals) (batch : WriteBatch) (object : StoredObject) :
    Result WriteBatch := do
  let payload ← serializeObject ext object
  pure (batch ++ [.put .objects (numericKey kPreparingObjectPrefix object.objectId) payload])

def putCommittedObject (ext : Externals) (batch : WriteBatch) (object : StoredObject) :
    Result WriteBatch := do
  let payload ← serializeObject ext object
  pure (batch ++ [.delete .objects (numericKey kPreparingObjectPrefix object.objectId),
    .put .objects (numericKey kCommittedObjectPrefix object.objectId) payload])

def deletePreparingObject (batch : WriteBatch) (objectId : UInt64) : WriteBatch :=
  batch ++ [.delete .objects (numericKey kPreparingObjectPrefix objectId)]

/-- `Commit` with the result of the synchronous write given. -/
def commit (db : Db) (batch : WriteBatch) (outcome : CommitOutcome) : Db × Status :=
  match outcome with
  | .written => (db.write batch, .ok)
  | .failed applied status =>
      (if applied then db.write batch else db, rocksToStatus status "commit storage batch")

/-! ### Initialization, validation and recovery -/

/-- The batch that `InitializeNew` commits to a new database. -/
def initializationBatch (ext : Externals) (eventMs : UInt64) : WriteBatch :=
  [.put .metadata (Bytes.ofString kSchemaVersionKey) (encodeUint64 kSchemaVersion),
   .put .metadata (Bytes.ofString kMaxSeqKey) (encodeUint64 0),
   .put .metadata (Bytes.ofString kNextUuidKey) (encodeUint64 1),
   .put .metadata (Bytes.ofString kNextChannelIdKey) (encodeUint64 1),
   .put .metadata (Bytes.ofString kNextObjectIdKey) (encodeUint64 1),
   .put .metadata (numericKey kUuidPrefix 0) (encodeUint64 0),
   .put .messages (numericKey kMessagePrefix 0)
     ((ext.eventMessage.serializeToString (initializationMessage eventMs)).getD [])]

/-- The database after a completed `InitializeNew`. -/
def initializeNew (ext : Externals) (eventMs : UInt64) : Db :=
  Db.empty.write (initializationBatch ext eventMs)

def validate (ext : Externals) (db : Db) (faults : ReadFaults) : Result Unit := do
  let snapshot ← createSnapshot db faults
  let schema ← getRequiredUint64 snapshot faults kSchemaVersionKey
  if schema ≠ kSchemaVersion then
    throw (.storageCorruption "validate storage" "unsupported storage schema version")
  let _ ← getMaxSeq snapshot faults
  let nextUuid ← getNextUuid snapshot faults
  if nextUuid = 0 then throw (.storageCorruption "validate storage" "invalid next uuid")
  let nextChannelId ← getNextChannelId snapshot faults
  if nextChannelId = 0 then throw (.storageCorruption "validate storage" "invalid next channel ID")
  let nextObjectId ← getNextObjectId snapshot faults
  if nextObjectId = 0 then throw (.storageCorruption "validate storage" "invalid next object ID")
  match snapshot.get faults .messages (numericKey kMessagePrefix 0) with
  | .error status => throw (rocksToStatus status "read system initialization message")
  | .ok none => throw (.storageCorruption "validate storage" "missing system initialization message")
  | .ok (some encoded) =>
      match ext.eventMessage.parseFromString encoded with
      | none =>
          throw (.storageCorruption "validate storage" "invalid system initialization message")
      | some message =>
          if validInitializationMessage ext message = false then
            throw (.storageCorruption "validate storage" "invalid system initialization message")
          let systemSeq ← getUsedUuidSeq snapshot faults 0
          if systemSeq ≠ some 0 then
            throw (.storageCorruption "validate storage" "missing or conflicting system UUID mapping")

/-- The loop of `ListPreparingObjects`. -/
def listPreparingLoop (ext : Externals) (status : Option RocksStatus) :
    List (Bytes × Bytes) → Result (List StoredObject)
  | [] =>
      match status with
      | some status => .error (rocksToStatus status "list preparing objects")
      | none => .ok []
  | entry :: rest =>
      if startsWith entry.1 kPreparingObjectPrefix = false then .ok []
      else do
        let objectId ← decodeNumericKey entry.1 kPreparingObjectPrefix "preparing object"
        let object ← parseObject ext entry.2 objectId
        let objects ← listPreparingLoop ext status rest
        pure (object :: objects)

def listPreparingObjects (ext : Externals) (db : Db) (faults : ReadFaults) :
    Result (List StoredObject) :=
  let (entries, status) := db.iterate faults .objects (Bytes.ofString kPreparingObjectPrefix)
  listPreparingLoop ext status entries

/-- The check of `RecoverPreparingObjects` that no listed id is committed. -/
def checkNotCommitted (ext : Externals) (snapshot : Db) (faults : ReadFaults) :
    List StoredObject → Result Unit
  | [] => .ok ()
  | object :: rest => do
      let committed ← getCommittedObject ext snapshot faults object.objectId
      if committed.isSome then
        throw (.storageCorruption "recover preparing objects"
          "object ID has both PREPARING and COMMITTED metadata")
      checkNotCommitted ext snapshot faults rest

/-- The part of `RecoverPreparingObjects` before any file is touched. -/
def planRecovery (ext : Externals) (db : Db) (faults : ReadFaults) : Result (List StoredObject) := do
  let objects ← listPreparingObjects ext db faults
  if objects.isEmpty then pure []
  else
    let snapshot ← createSnapshot db faults
    checkNotCommitted ext snapshot faults objects
    pure objects

/-- The batch that `RecoverPreparingObjects` commits after its file cleanup. -/
def recoveryBatch (objects : List StoredObject) : WriteBatch :=
  objects.foldl (fun batch object => deletePreparingObject batch object.objectId) []

end UnifiedStorage

end OpenEvent
