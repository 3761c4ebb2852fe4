import OpenEvent.Store
import OpenEvent.Core.WriteObject

/-!
What the applied batches of the server do to the abstract store, and what the
server has checked before it applies them.
-/

namespace OpenEvent

open OpenEventCore

inductive Effect where
  | allocateUuids (next : UInt64)
  | publish (message : EventMessage)
  | createChannel (channel : ChannelInfo) (message : EventMessage)
  | changeMembers (channel : ChannelInfo) (message : EventMessage)
  | addToken (principal : UInt64) (token : Bytes)
  | deleteToken (principal : UInt64) (token : Bytes)
  | prepareObject (object : StoredObject)
  | commitObject (object : StoredObject)
  | discardObjects (objectIds : List UInt64)

namespace Store

/-- A message at the end of the log with its index entry. -/
def appendMessage (store : Store) (message : EventMessage) : Store :=
  { (store.putMessage message).putUsedUuid message.uuid message.seq with maxSeq := message.seq }

/-- A changed channel with the message about it, which takes the next uuid. -/
def appendChange (store : Store) (channel : ChannelInfo) (message : EventMessage) : Store :=
  { (store.putChannel channel).appendMessage message with nextUuid := message.uuid + 1 }

def apply (store : Store) : Effect → Store
  | .allocateUuids next => { store with nextUuid := next }
  | .publish message => store.appendMessage message
  | .createChannel channel message =>
      { store.appendChange channel message with nextChannelId := channel.channelId + 1 }
  | .changeMembers channel message => store.appendChange channel message
  | .addToken principal token => store.setToken principal token true
  | .deleteToken principal token => store.setToken principal token false
  | .prepareObject object =>
      { store.setPreparing object.objectId (some object) with
        nextObjectId := object.objectId + 1 }
  | .commitObject object =>
      (store.setPreparing object.objectId none).setCommitted object.objectId (some object)
  | .discardObjects objectIds =>
      objectIds.foldl (fun store objectId => store.setPreparing objectId none) store

end Store

/-- The messages that an effect appends to the log. -/
def Effect.messages : Effect → List EventMessage
  | .publish message => [message]
  | .createChannel _ message => [message]
  | .changeMembers _ message => [message]
  | _ => []

/-- The next message of the log, with a uuid that no message has. -/
structure NextMessage (store : Store) (message : EventMessage) : Prop where
  seq_eq : message.seq = store.maxSeq + 1
  seq_ne : message.seq ≠ 0
  uuid_ne : message.uuid ≠ 0

/-- What `Publish` and `PublishAutoSeq` have checked. -/
structure PublishAllowed (store : Store) (message : EventMessage) : Prop
    extends NextMessage store message where
  uuid_lt : message.uuid < store.nextUuid
  uuid_unused : store.usedUuids message.uuid = none
  principal_ne : message.principal ≠ 0
  channelId_ne : message.channelId ≠ 0
  channel : ∃ channel, store.channels message.channelId = some channel ∧
    canWrite channel message.principal = true ∧
    ∀ recipient ∈ message.recipients, recipient ≠ 0 ∧ recipient ∈ channel.members
  objectKeys_le : message.objectKeys.length ≤ kMaxObjectKeys
  objectKeys : ∀ key ∈ message.objectKeys, ∃ object,
    store.committed key.objectId = some object ∧ object.objectToken = key.objectToken

/-- The message about a channel that `BuildChannelMutationBatch` appends. -/
structure SystemMessage (store : Store) (channel : ChannelInfo) (message : EventMessage) : Prop
    extends NextMessage store message where
  uuid_eq : message.uuid = store.nextUuid
  uuid_next : message.uuid + 1 ≠ 0
  principal_eq : message.principal = 0
  channelId_eq : message.channelId = channel.channelId
  recipients_eq : message.recipients = []
  objectKeys_eq : message.objectKeys = []

/-- A channel as `CreateChannel` builds it. -/
structure NewChannel (store : Store) (channel : ChannelInfo) : Prop where
  channelId_eq : channel.channelId = store.nextChannelId
  creator : ∃ creator, channel.creator = some creator ∧ creator ≠ 0 ∧ creator ∈ channel.members
  members_ne : 0 ∉ channel.members
  members_nodup : channel.members.Nodup
  name_ne : channel.name.isEmpty = false
  name_le : channel.name.utf8ByteSize ≤ 255
  protocol_le : channel.protocol.utf8ByteSize ≤ 255
  description_le : channel.description.utf8ByteSize ≤ 4096
  visibility : ∀ number, channel.visibility ≠ .other number
  members_le : channel.members.length ≤ kMaxChannelMembers

/-- What `AddMember` and `RemoveMember` change, and the payload that says so. -/
inductive MemberChange (channel : ChannelInfo) : ChannelInfo → Bytes → Prop
  | added {target : UInt64} : target ≠ 0 → target ∉ channel.members →
      channel.members.length < kMaxChannelMembers →
      MemberChange channel { channel with members := channel.members ++ [target] }
        (memberChangedPayload "system.member_added" target)
  | removed {target : UInt64} : target ≠ 0 → target ∈ channel.members →
      channel.creator ≠ some target →
      MemberChange channel { channel with members := channel.members.erase target }
        (memberChangedPayload "system.member_removed" target)

/-- What the server has checked before it applies an effect. -/
inductive Permitted (store : Store) : Effect → Prop
  | allocateUuids {next : UInt64} : next ≠ 0 → Permitted store (.allocateUuids next)
  | publish {message : EventMessage} : PublishAllowed store message →
      Permitted store (.publish message)
  | createChannel {channel : ChannelInfo} {message : EventMessage} :
      NewChannel store channel → SystemMessage store channel message →
      message.payload = channelInitializedPayload channel →
      Permitted store (.createChannel channel message)
  | changeMembers {before channel : ChannelInfo} {message : EventMessage} :
      store.channels before.channelId = some before →
      MemberChange before channel message.payload → SystemMessage store channel message →
      Permitted store (.changeMembers channel message)
  | addToken {principal : UInt64} {token : Bytes} : principal ≠ 0 → token ≠ [] →
      Permitted store (.addToken principal token)
  | deleteToken {principal : UInt64} {token : Bytes} :
      Permitted store (.deleteToken principal token)
  | prepareObject {object : StoredObject} : object.objectId = store.nextObjectId →
      (object.objectId ≠ 0 → ObjectValid object.objectId object) →
      Permitted store (.prepareObject object)
  | commitObject {object : StoredObject} : store.preparing object.objectId = some object →
      Permitted store (.commitObject object)
  | discardObjects {objectIds : List UInt64} : Permitted store (.discardObjects objectIds)

/-- No counter of the store decreases. -/
structure Store.NoWrap (before after : Store) : Prop where
  maxSeq : before.maxSeq ≤ after.maxSeq
  nextUuid : before.nextUuid ≤ after.nextUuid
  nextChannelId : before.nextChannelId ≤ after.nextChannelId
  nextObjectId : before.nextObjectId ≤ after.nextObjectId

end OpenEvent
