import OpenEvent.Core.Checks

/-!
The operations that change the store in one section under the coordinator
mutex. Each `...Entry` is the part of the source function before the mutex is
taken; each `...Batch` runs under it up to the commit and either returns early
or yields the batch to commit. No other commit can come between the snapshot
that a section reads and its own commit.
-/

namespace OpenEvent.OpenEventCore

/-- What a successful call puts into its response. -/
inductive ResponseData where
  | empty
  | uuids (uuids : List UInt64)
  | seq (seq : UInt64)
  | channel (channel : ChannelInfo)
  | token (token : Bytes)
  | object (objectId : UInt64) (objectToken : String)
deriving DecidableEq

/-- The end of a section: an early return, or the commit of its batch. The
response is filled in only after a successful commit. -/
def conclude (state : CoreState) (env : CallEnv)
    (built : Except Exit (WriteBatch × ResponseData)) : CoreState × Status × ResponseData :=
  match built with
  | .error exit =>
      let (state, status) := leave state exit
      (state, status, .empty)
  | .ok (batch, data) =>
      let (state, status) := commitBatch state batch env.commit
      (state, status, if status.isOk then data else .empty)

/-! ### AllocateUuids -/

def allocateUuidsEntry (request : AllocateUuidsRequest) : Result Unit :=
  if request.count = 0 ∨ request.count.toNat > kMaxUuidBatch then
    .error { code := .invalidArgument,
             message := "uuid allocation count must be in the range 1..1024" }
  else .ok ()

def allocateUuidsBatch (db : Db) (env : CallEnv) (request : AllocateUuidsRequest) :
    Except Exit (WriteBatch × ResponseData) := do
  let snapshot ← plain (UnifiedStorage.createSnapshot db env.faults)
  let firstUuid ← plain (UnifiedStorage.getNextUuid snapshot env.faults)
  let count := request.count.toUInt64
  let batch ← plain (UnifiedStorage.setNextUuid [] (firstUuid + count))
  pure (batch, .uuids ((List.range count.toNat).map (fun offset => firstUuid + UInt64.ofNat offset)))

/-! ### Publish and PublishAutoSeq -/

/-- The de-duplicated object ids of a key list, in order of first occurrence. -/
def distinctObjectIds (objectKeys : List ObjectKey) : List UInt64 :=
  objectKeys.foldl (fun ids key => if ids.contains key.objectId then ids else ids ++ [key.objectId]) []

/-- The object found for a key: the position of its id among the distinct ids
is its position in the lookup result. -/
def lookupObject (objectIds : List UInt64) (objects : List (Option StoredObject))
    (objectId : UInt64) : Option StoredObject :=
  (objects[objectIds.idxOf objectId]?).join

def buildPublishBatch (ext : Externals) (snapshot : Db) (faults : ReadFaults)
    (principal channelId seq uuid : UInt64) (recipients : List UInt64) (payload : Bytes)
    (objectKeys : List ObjectKey) (tsMs : UInt64) : Except Exit WriteBatch := do
  if channelId = 0 then
    throw { status := { code := .permissionDenied, message := "system channel is read-only" } }
  match ← plain (loadChannel ext snapshot faults channelId) with
  | none => throw { status := { code := .notFound, message := "channel not found" } }
  | some channel =>
      if canWrite channel principal = false then
        throw { status := { code := .permissionDenied, message := "write permission denied" } }
      plain (validateRecipients channel recipients)
      let objectIds := distinctObjectIds objectKeys
      let objects ← latching (UnifiedStorage.getCommittedObjects ext snapshot faults objectIds)
      if objectKeys.any (fun key =>
          match lookupObject objectIds objects key.objectId with
          | none => true
          | some object =>
              !ObjectFileStore.constantTimeEquals object.objectToken key.objectToken) then
        throw { status := { code := .notFound, message := "object capability not found" } }
      let message : EventMessage :=
        { seq, channelId, principal, recipients, payload, tsMs, uuid, objectKeys }
      let batch ← plain (UnifiedStorage.putMessage ext [] message)
      let batch ← plain (UnifiedStorage.putUsedUuid batch uuid seq)
      plain (UnifiedStorage.setMaxSeq batch seq)

/-- The check of `Publish` and `PublishAutoSeq` before the mutex is taken. -/
def publishEntry (principal : UInt64) (recipients : List UInt64) : Result Unit :=
  if principal = 0 ∨ recipients.contains 0 then
    .error { code := .invalidArgument,
             message := "principal and recipients must be greater than 0" }
  else .ok ()

def publishBatch (ext : Externals) (config : Config) (db : Db) (env : CallEnv)
    (request : PublishRequest) (tsMs : UInt64) : Except Exit (WriteBatch × ResponseData) := do
  plain (checkRpcActive env.rpcBefore)
  let snapshot ← plain (UnifiedStorage.createSnapshot db env.faults)
  plain (authenticate snapshot env.faults request.principal request.token)
  plain (validateAvailableUuid snapshot env.faults request.uuid)
  plain (validatePayloadSize config request.payload)
  plain (validateObjectKeysShape request.objectKeys)
  let maxSeq ← plain (UnifiedStorage.getMaxSeq snapshot env.faults)
  if request.seq ≠ maxSeq + 1 then
    throw { status := { code := .aborted, message := "seq must equal max_seq + 1" } }
  let batch ← buildPublishBatch ext snapshot env.faults request.principal request.channelId
    request.seq request.uuid request.recipients request.payload request.objectKeys tsMs
  plain (checkRpcActive env.rpcAfter)
  pure (batch, .empty)

def publishAutoSeqBatch (ext : Externals) (config : Config) (db : Db) (env : CallEnv)
    (request : PublishAutoSeqRequest) (tsMs : UInt64) :
    Except Exit (WriteBatch × ResponseData) := do
  plain (checkRpcActive env.rpcBefore)
  let snapshot ← plain (UnifiedStorage.createSnapshot db env.faults)
  plain (authenticate snapshot env.faults request.principal request.token)
  plain (validateAvailableUuid snapshot env.faults request.uuid)
  plain (validatePayloadSize config request.payload)
  plain (validateObjectKeysShape request.objectKeys)
  let maxSeq ← plain (UnifiedStorage.getMaxSeq snapshot env.faults)
  let seq := maxSeq + 1
  let batch ← buildPublishBatch ext snapshot env.faults request.principal request.channelId
    seq request.uuid request.recipients request.payload request.objectKeys tsMs
  plain (checkRpcActive env.rpcAfter)
  pure (batch, .seq seq)

/-! ### Channel mutations -/

def buildChannelMutationBatch (ext : Externals) (snapshot : Db) (env : CallEnv)
    (channel : ChannelInfo) (payload : Bytes) : Result WriteBatch := do
  let maxSeq ← UnifiedStorage.getMaxSeq snapshot env.faults
  let nextUuid ← UnifiedStorage.getNextUuid snapshot env.faults
  let message : EventMessage :=
    { seq := maxSeq + 1, channelId := channel.channelId, principal := 0, uuid := nextUuid,
      payload, tsMs := env.nowMs }
  let batch ← UnifiedStorage.putChannel ext [] channel
  let batch ← UnifiedStorage.putMessage ext batch message
  let batch ← UnifiedStorage.putUsedUuid batch message.uuid message.seq
  let batch ← UnifiedStorage.setMaxSeq batch message.seq
  UnifiedStorage.setNextUuid batch (message.uuid + 1)

def createChannelEntry (request : CreateChannelRequest) : Result Unit :=
  if request.principal = 0 ∨ request.members.contains 0 ∨ request.name.isEmpty ∨
      request.name.utf8ByteSize > 255 ∨ request.protocol.utf8ByteSize > 255 ∨
      request.description.utf8ByteSize > 4096 ∨ request.members.length > kMaxChannelMembers then
    .error { code := .invalidArgument, message := "invalid Channel parameters" }
  else validateVisibility request.visibility

/-- The creator, then each requested member at its first occurrence. -/
def initialMembers (principal : UInt64) (members : List UInt64) : List UInt64 :=
  members.foldl (fun seen member => if seen.contains member then seen else seen ++ [member])
    [principal]

def createChannelBatch (ext : Externals) (db : Db) (env : CallEnv)
    (request : CreateChannelRequest) : Except Exit (WriteBatch × ResponseData) := do
  let snapshot ← plain (UnifiedStorage.createSnapshot db env.faults)
  plain (authenticate snapshot env.faults request.principal request.token)
  let members := initialMembers request.principal request.members
  if members.length > kMaxChannelMembers then
    throw { status := { code := .resourceExhausted,
                        message := "Channel can contain at most 1024 members including its creator" } }
  let nextChannelId ← plain (UnifiedStorage.getNextChannelId snapshot env.faults)
  let channel : ChannelInfo :=
    { channelId := nextChannelId, name := request.name, visibility := request.visibility,
      protocol := request.protocol, description := request.description,
      creator := some request.principal, members }
  let batch ← plain (buildChannelMutationBatch ext snapshot env channel
    (channelInitializedPayload channel))
  let batch ← plain (UnifiedStorage.setNextChannelId batch (nextChannelId + 1))
  pure (batch, .channel channel)

/-- The check of `AddMember` and `RemoveMember` before the mutex is taken. -/
def memberEntry (request : MemberRequest) : Result Unit :=
  if request.principal = 0 ∨ request.targetPrincipal = 0 then
    .error { code := .invalidArgument, message := "principals must be greater than 0" }
  else .ok ()

/-- The channel to change, for its creator only. -/
def loadOwnedChannel (ext : Externals) (snapshot : Db) (faults : ReadFaults)
    (request : MemberRequest) (denied : String) : Except Exit ChannelInfo := do
  plain (authenticate snapshot faults request.principal request.token)
  if request.channelId = 0 then
    throw { status := { code := .permissionDenied, message := "system channel cannot be modified" } }
  match ← plain (loadChannel ext snapshot faults request.channelId) with
  | none => throw { status := { code := .notFound, message := "channel not found" } }
  | some channel =>
      if channel.creator ≠ some request.principal then
        throw { status := { code := .permissionDenied, message := denied } }
      pure channel

def addMemberBatch (ext : Externals) (db : Db) (env : CallEnv) (request : MemberRequest) :
    Except Exit (WriteBatch × ResponseData) := do
  let snapshot ← plain (UnifiedStorage.createSnapshot db env.faults)
  let channel ← loadOwnedChannel ext snapshot env.faults request "only creator can add members"
  if isMember channel request.targetPrincipal then
    throw { status := { code := .alreadyExists, message := "member already exists" } }
  if channel.members.length ≥ kMaxChannelMembers then
    throw { status := { code := .resourceExhausted,
                        message := "Channel can contain at most 1024 members including its creator" } }
  let channel := { channel with members := channel.members ++ [request.targetPrincipal] }
  let batch ← plain (buildChannelMutationBatch ext snapshot env channel
    (memberChangedPayload "system.member_added" request.targetPrincipal))
  pure (batch, .empty)

/-- Removing a principal who is not a member returns OK without a commit: that
return is an early one with an OK status. -/
def removeMemberBatch (ext : Externals) (db : Db) (env : CallEnv) (request : MemberRequest) :
    Except Exit (WriteBatch × ResponseData) := do
  let snapshot ← plain (UnifiedStorage.createSnapshot db env.faults)
  let channel ← loadOwnedChannel ext snapshot env.faults request "only creator can remove members"
  if channel.creator = some request.targetPrincipal then
    throw { status := { code := .permissionDenied, message := "creator cannot be removed" } }
  if isMember channel request.targetPrincipal = false then
    throw { status := .ok }
  let channel := { channel with members := channel.members.erase request.targetPrincipal }
  let batch ← plain (buildChannelMutationBatch ext snapshot env channel
    (memberChangedPayload "system.member_removed" request.targetPrincipal))
  pure (batch, .empty)

/-! ### Credentials -/

def addTokenEntry (request : AddTokenRequest) : Result Unit :=
  if request.principal = 0 then
    .error { code := .invalidArgument, message := "principal must be greater than 0" }
  else .ok ()

def addTokenBatch (request : AddTokenRequest) (generated : Result Bytes) :
    Except Exit (WriteBatch × ResponseData) := do
  let token ← plain generated
  let batch ← plain (UnifiedStorage.putToken [] request.principal token)
  pure (batch, .token token)

def deleteTokenEntry (request : DeleteTokenRequest) : Result Unit :=
  if request.principal = 0 ∨ request.token = [] then
    .error { code := .invalidArgument,
             message := "principal must be greater than 0 and token must not be empty" }
  else .ok ()

def deleteTokenBatch (request : DeleteTokenRequest) : Except Exit (WriteBatch × ResponseData) :=
  .ok (UnifiedStorage.deleteToken [] request.principal request.token, .empty)

/-! ### All single-section mutations -/

inductive Mutation where
  | allocateUuids (request : AllocateUuidsRequest)
  | publish (request : PublishRequest)
  | publishAutoSeq (request : PublishAutoSeqRequest)
  | createChannel (request : CreateChannelRequest)
  | addMember (request : MemberRequest)
  | removeMember (request : MemberRequest)
  | addToken (request : AddTokenRequest)
  | deleteToken (request : DeleteTokenRequest)

/-- The checks on the request alone. -/
def Mutation.entry : Mutation → Result Unit
  | .allocateUuids request => allocateUuidsEntry request
  | .publish request => publishEntry request.principal request.recipients
  | .publishAutoSeq request => publishEntry request.principal request.recipients
  | .createChannel request => createChannelEntry request
  | .addMember request => memberEntry request
  | .removeMember request => memberEntry request
  | .addToken request => addTokenEntry request
  | .deleteToken request => deleteTokenEntry request

/-- The section under the mutex; `tsMs` is the clock reading that `Publish` and
`PublishAutoSeq` take before it. There is no result while `getrandom` has not
filled the buffer of `AddToken`. -/
def Mutation.batch (ext : Externals) (config : Config) (db : Db) (env : CallEnv)
    (tsMs : UInt64) : Mutation → Option (Except Exit (WriteBatch × ResponseData))
  | .allocateUuids request => some (allocateUuidsBatch db env request)
  | .publish request => some (publishBatch ext config db env request tsMs)
  | .publishAutoSeq request => some (publishAutoSeqBatch ext config db env request tsMs)
  | .createChannel request => some (createChannelBatch ext db env request)
  | .addMember request => some (addMemberBatch ext db env request)
  | .removeMember request => some (removeMemberBatch ext db env request)
  | .addToken request => (generateToken env.random).map (addTokenBatch request)
  | .deleteToken request => some (deleteTokenBatch request)

/-- A call on its own, from its entry checks to its return. -/
def Mutation.call (ext : Externals) (config : Config) (state : CoreState) (env : CallEnv)
    (tsMs : UInt64) (mutation : Mutation) : Option (CoreState × Status × ResponseData) :=
  match ensureAvailable state.fatalError, mutation.entry with
  | .error status, _ => some (state, status, .empty)
  | .ok _, .error status => some (state, status, .empty)
  | .ok _, .ok _ => (mutation.batch ext config state.db env tsMs).map (conclude state env)

end OpenEvent.OpenEventCore
