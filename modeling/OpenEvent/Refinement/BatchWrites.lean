import OpenEvent.Refinement.Reported

/-!
The batches of the mutations on any database: each has the whole effect of its
operation in it.
-/

namespace OpenEvent

open OpenEventCore Fallible

/-! ### The effect of an operation -/

/-- A message record, its index entry and the counter that counts it. -/
def messageWrites (message : EventMessage) (record : Bytes) : WriteBatch :=
  [.put .messages (numericKey kMessagePrefix message.seq) record,
   .put .metadata (numericKey kUuidPrefix message.uuid) (encodeUint64 message.seq),
   .put .metadata (Bytes.ofString kMaxSeqKey) (encodeUint64 message.seq)]

/-- A channel record with the message about it, which takes the next uuid. -/
def channelWrites (channelId : UInt64) (channelRecord : Bytes) (message : EventMessage)
    (record : Bytes) : WriteBatch :=
  .put .metadata (numericKey kChannelPrefix channelId) channelRecord ::
    messageWrites message record ++
    [.put .metadata (Bytes.ofString kNextUuidKey) (encodeUint64 (message.uuid + 1))]

/-- The message that announces a change of a channel, from the counters found. -/
def announcement (maxSeq nextUuid channelId : UInt64) (payload : Bytes) (tsMs : UInt64) :
    EventMessage :=
  { seq := maxSeq + 1, channelId, principal := 0, uuid := nextUuid, payload, tsMs }

/-- The batch that changes a channel. -/
inductive ChannelChange (ext : Externals) (db : Db) (env : CallEnv) (channel : ChannelInfo)
    (payload : Bytes) : WriteBatch → Prop
  | changed {maxSeq nextUuid : UInt64} {channelRecord record : Bytes} :
      UnifiedStorage.getMaxSeq db env.faults = .ok maxSeq →
      UnifiedStorage.getNextUuid db env.faults = .ok nextUuid →
      ext.channelInfo.serializeToString channel = some channelRecord →
      ext.eventMessage.serializeToString
        (announcement maxSeq nextUuid channel.channelId payload env.nowMs) = some record →
      ChannelChange ext db env channel payload
        (channelWrites channel.channelId channelRecord
          (announcement maxSeq nextUuid channel.channelId payload env.nowMs) record)

/-- The batch with the whole effect of an operation, and its response. -/
inductive FullEffect (ext : Externals) (db : Db) (env : CallEnv) (tsMs : UInt64) :
    Mutation → WriteBatch → ResponseData → Prop
  | allocateUuids {request : AllocateUuidsRequest} {firstUuid : UInt64} :
      UnifiedStorage.getNextUuid db env.faults = .ok firstUuid →
      FullEffect ext db env tsMs (.allocateUuids request)
        [.put .metadata (Bytes.ofString kNextUuidKey)
          (encodeUint64 (firstUuid + request.count.toUInt64))]
        (.uuids ((List.range request.count.toUInt64.toNat).map
          (fun offset => firstUuid + UInt64.ofNat offset)))
  | publish {request : PublishRequest} {record : Bytes} :
      ext.eventMessage.serializeToString (request.message tsMs) = some record →
      FullEffect ext db env tsMs (.publish request) (messageWrites (request.message tsMs) record)
        .empty
  | publishAutoSeq {request : PublishAutoSeqRequest} {maxSeq : UInt64} {record : Bytes} :
      UnifiedStorage.getMaxSeq db env.faults = .ok maxSeq →
      ext.eventMessage.serializeToString (request.message (maxSeq + 1) tsMs) = some record →
      FullEffect ext db env tsMs (.publishAutoSeq request)
        (messageWrites (request.message (maxSeq + 1) tsMs) record) (.seq (maxSeq + 1))
  | createChannel {request : CreateChannelRequest} {nextChannelId : UInt64} {batch : WriteBatch} :
      UnifiedStorage.getNextChannelId db env.faults = .ok nextChannelId →
      ChannelChange ext db env (request.channel nextChannelId)
        (channelInitializedPayload (request.channel nextChannelId)) batch →
      FullEffect ext db env tsMs (.createChannel request)
        (batch ++ [.put .metadata (Bytes.ofString kNextChannelIdKey)
          (encodeUint64 (nextChannelId + 1))])
        (.channel (request.channel nextChannelId))
  | addMember {request : MemberRequest} {channel : ChannelInfo} {batch : WriteBatch} :
      loadChannel ext db env.faults request.channelId = .ok (some channel) →
      request.targetPrincipal ∉ channel.members →
      ChannelChange ext db env
        { channel with members := channel.members ++ [request.targetPrincipal] }
        (memberChangedPayload "system.member_added" request.targetPrincipal) batch →
      FullEffect ext db env tsMs (.addMember request) batch .empty
  | removeMember {request : MemberRequest} {channel : ChannelInfo} {batch : WriteBatch} :
      loadChannel ext db env.faults request.channelId = .ok (some channel) →
      request.targetPrincipal ∈ channel.members →
      ChannelChange ext db env
        { channel with members := channel.members.erase request.targetPrincipal }
        (memberChangedPayload "system.member_removed" request.targetPrincipal) batch →
      FullEffect ext db env tsMs (.removeMember request) batch .empty
  | addToken {request : AddTokenRequest} {token : Bytes} :
      generateToken env.random = some (.ok token) →
      FullEffect ext db env tsMs (.addToken request)
        [.put .metadata (tokenKey request.principal token) []] (.token token)
  | deleteToken {request : DeleteTokenRequest} :
      FullEffect ext db env tsMs (.deleteToken request)
        [.delete .metadata (tokenKey request.principal request.token)] .empty

section Effects

variable {ext : Externals} {config : Config} {db : Db} {env : CallEnv} {tsMs : UInt64}
variable {batch written : WriteBatch} {data : ResponseData} {faults : ReadFaults}

private theorem putMessage_writes {message : EventMessage}
    (h : UnifiedStorage.putMessage ext batch message = .ok written) :
    ∃ record, ext.eventMessage.serializeToString message = some record ∧
      written = batch ++ [.put .messages (numericKey kMessagePrefix message.seq) record] := by
  unfold UnifiedStorage.putMessage at h
  split at h
  · cases h
  · rename_i record hrecord
    exact ⟨record, hrecord, (Except.ok.inj h).symm⟩

private theorem putUsedUuid_writes {uuid seq : UInt64}
    (h : UnifiedStorage.putUsedUuid batch uuid seq = .ok written) :
    written = batch ++ [.put .metadata (numericKey kUuidPrefix uuid) (encodeUint64 seq)] := by
  unfold UnifiedStorage.putUsedUuid at h
  split at h
  · cases h
  · exact (Except.ok.inj h).symm

private theorem putChannel_writes {channel : ChannelInfo}
    (h : UnifiedStorage.putChannel ext batch channel = .ok written) :
    ∃ record, ext.channelInfo.serializeToString channel = some record ∧
      written = batch ++
        [.put .metadata (numericKey kChannelPrefix channel.channelId) record] := by
  unfold UnifiedStorage.putChannel at h
  split at h
  · cases h
  · rename_i record hrecord
    exact ⟨record, hrecord, (Except.ok.inj h).symm⟩

private theorem setNextUuid_writes {uuid : UInt64}
    (h : UnifiedStorage.setNextUuid batch uuid = .ok written) :
    written = batch ++ [.put .metadata (Bytes.ofString kNextUuidKey) (encodeUint64 uuid)] := by
  unfold UnifiedStorage.setNextUuid at h
  split at h
  · cases h
  · exact (Except.ok.inj h).symm

theorem buildPublishBatch_writes (message : EventMessage)
    (h : buildPublishBatch ext db faults message.principal message.channelId message.seq
      message.uuid message.recipients message.payload message.objectKeys message.tsMs =
        .ok batch) :
    ∃ record, ext.eventMessage.serializeToString message = some record ∧
      batch = messageWrites message record := by
  unfold buildPublishBatch at h
  obtain ⟨_, h⟩ := guard_ok h
  obtain ⟨found, _, h⟩ := bind_ok h
  cases found with
  | none => cases h
  | some channel =>
      obtain ⟨_, h⟩ := guard_ok h
      obtain ⟨_, _, h⟩ := bind_ok h
      obtain ⟨objects, _, h⟩ := bind_ok h
      obtain ⟨_, h⟩ := guard_ok h
      obtain ⟨withMessage, hmessage, h⟩ := bind_ok h
      obtain ⟨withUuid, huuid, h⟩ := bind_ok h
      obtain ⟨record, hrecord, rfl⟩ := putMessage_writes (plain_ok hmessage)
      obtain rfl := putUsedUuid_writes (plain_ok huuid)
      exact ⟨record, hrecord, (Except.ok.inj (plain_ok h)).symm⟩

theorem buildChannelMutationBatch_writes {channel : ChannelInfo} {payload : Bytes}
    (h : buildChannelMutationBatch ext db env channel payload = .ok batch) :
    ChannelChange ext db env channel payload batch := by
  obtain ⟨maxSeq, hmaxSeq, h⟩ := bind_ok h
  obtain ⟨nextUuid, hnextUuid, h⟩ := bind_ok h
  obtain ⟨withChannel, hchannel, h⟩ := bind_ok h
  obtain ⟨withMessage, hmessage, h⟩ := bind_ok h
  obtain ⟨withUuid, huuid, h⟩ := bind_ok h
  obtain ⟨withSeq, hseq, h⟩ := bind_ok h
  obtain ⟨channelRecord, hchannelRecord, rfl⟩ := putChannel_writes hchannel
  obtain ⟨record, hrecord, rfl⟩ := putMessage_writes hmessage
  obtain rfl := putUsedUuid_writes huuid
  obtain rfl := Except.ok.inj hseq
  obtain rfl := setNextUuid_writes h
  exact .changed hmaxSeq hnextUuid hchannelRecord hrecord

theorem loadOwnedChannel_loads {request : MemberRequest} {denied : String} {channel : ChannelInfo}
    (h : loadOwnedChannel ext db faults request denied = .ok channel) :
    loadChannel ext db faults request.channelId = .ok (some channel) := by
  obtain ⟨_, _, h⟩ := bind_ok h
  obtain ⟨_, h⟩ := guard_ok h
  obtain ⟨found, hfound, h⟩ := bind_ok h
  cases found with
  | none => cases h
  | some loaded =>
      obtain ⟨_, h⟩ := guard_ok h
      obtain rfl := Except.ok.inj h
      exact plain_ok hfound

private theorem publishBatch_writes {request : PublishRequest}
    (h : publishBatch ext config db env request tsMs = .ok (batch, data)) :
    FullEffect ext db env tsMs (.publish request) batch data := by
  obtain ⟨_, _, h⟩ := bind_ok h
  obtain ⟨snapshot, hsnapshot, h⟩ := bind_ok h
  obtain rfl := createSnapshot_ok hsnapshot
  obtain ⟨_, _, h⟩ := bind_ok h
  obtain ⟨_, _, h⟩ := bind_ok h
  obtain ⟨_, _, h⟩ := bind_ok h
  obtain ⟨_, _, h⟩ := bind_ok h
  obtain ⟨_, _, h⟩ := bind_ok h
  obtain ⟨_, h⟩ := guard_ok h
  obtain ⟨built, hbuilt, h⟩ := bind_ok h
  obtain ⟨_, _, h⟩ := bind_ok h
  obtain ⟨rfl, rfl⟩ := Prod.mk.inj (Except.ok.inj h)
  obtain ⟨record, hrecord, rfl⟩ := buildPublishBatch_writes (request.message tsMs) hbuilt
  exact .publish hrecord

private theorem publishAutoSeqBatch_writes {request : PublishAutoSeqRequest}
    (h : publishAutoSeqBatch ext config db env request tsMs = .ok (batch, data)) :
    FullEffect ext db env tsMs (.publishAutoSeq request) batch data := by
  obtain ⟨_, _, h⟩ := bind_ok h
  obtain ⟨snapshot, hsnapshot, h⟩ := bind_ok h
  obtain rfl := createSnapshot_ok hsnapshot
  obtain ⟨_, _, h⟩ := bind_ok h
  obtain ⟨_, _, h⟩ := bind_ok h
  obtain ⟨_, _, h⟩ := bind_ok h
  obtain ⟨_, _, h⟩ := bind_ok h
  obtain ⟨maxSeq, hmaxSeq, h⟩ := bind_ok h
  obtain ⟨built, hbuilt, h⟩ := bind_ok h
  obtain ⟨_, _, h⟩ := bind_ok h
  obtain ⟨rfl, rfl⟩ := Prod.mk.inj (Except.ok.inj h)
  obtain ⟨record, hrecord, rfl⟩ := buildPublishBatch_writes (request.message (maxSeq + 1) tsMs) hbuilt
  exact .publishAutoSeq (plain_ok hmaxSeq) hrecord

private theorem createChannelBatch_writes {request : CreateChannelRequest}
    (h : createChannelBatch ext db env request = .ok (batch, data)) :
    FullEffect ext db env tsMs (.createChannel request) batch data := by
  obtain ⟨snapshot, hsnapshot, h⟩ := bind_ok h
  obtain rfl := createSnapshot_ok hsnapshot
  obtain ⟨_, _, h⟩ := bind_ok h
  obtain ⟨_, h⟩ := guard_ok h
  obtain ⟨nextChannelId, hnextChannelId, h⟩ := bind_ok h
  obtain ⟨changed, hchanged, h⟩ := bind_ok h
  obtain ⟨counted, hcounted, h⟩ := bind_ok h
  obtain ⟨rfl, rfl⟩ := Prod.mk.inj (Except.ok.inj h)
  obtain rfl := Except.ok.inj (plain_ok hcounted)
  exact .createChannel (plain_ok hnextChannelId)
    (buildChannelMutationBatch_writes (plain_ok hchanged))

private theorem addMemberBatch_writes {request : MemberRequest}
    (h : addMemberBatch ext db env request = .ok (batch, data)) :
    FullEffect ext db env tsMs (.addMember request) batch data := by
  obtain ⟨snapshot, hsnapshot, h⟩ := bind_ok h
  obtain rfl := createSnapshot_ok hsnapshot
  obtain ⟨channel, hchannel, h⟩ := bind_ok h
  obtain ⟨hmember, h⟩ := guard_ok h
  obtain ⟨_, h⟩ := guard_ok h
  obtain ⟨changed, hchanged, h⟩ := bind_ok h
  obtain ⟨rfl, rfl⟩ := Prod.mk.inj (Except.ok.inj h)
  exact .addMember (loadOwnedChannel_loads hchannel) (by simpa [isMember] using hmember)
    (buildChannelMutationBatch_writes (plain_ok hchanged))

private theorem removeMemberBatch_writes {request : MemberRequest}
    (h : removeMemberBatch ext db env request = .ok (batch, data)) :
    FullEffect ext db env tsMs (.removeMember request) batch data := by
  obtain ⟨snapshot, hsnapshot, h⟩ := bind_ok h
  obtain rfl := createSnapshot_ok hsnapshot
  obtain ⟨channel, hchannel, h⟩ := bind_ok h
  obtain ⟨_, h⟩ := guard_ok h
  obtain ⟨hmember, h⟩ := guard_ok h
  obtain ⟨changed, hchanged, h⟩ := bind_ok h
  obtain ⟨rfl, rfl⟩ := Prod.mk.inj (Except.ok.inj h)
  exact .removeMember (loadOwnedChannel_loads hchannel) (by simpa [isMember] using hmember)
    (buildChannelMutationBatch_writes (plain_ok hchanged))

/-- A section that comes to its commit has the whole effect in its batch. -/
theorem mutationBatch_writes {operation : Mutation}
    (h : operation.batch ext config db env tsMs = some (.ok (batch, data))) :
    FullEffect ext db env tsMs operation batch data := by
  cases operation with
  | allocateUuids request =>
      obtain ⟨snapshot, hsnapshot, h⟩ := bind_ok (Option.some.inj h)
      obtain rfl := createSnapshot_ok hsnapshot
      obtain ⟨firstUuid, hfirstUuid, h⟩ := bind_ok h
      obtain ⟨counted, hcounted, h⟩ := bind_ok h
      obtain ⟨rfl, rfl⟩ := Prod.mk.inj (Except.ok.inj h)
      obtain rfl := setNextUuid_writes (plain_ok hcounted)
      exact .allocateUuids (plain_ok hfirstUuid)
  | publish request => exact publishBatch_writes (Option.some.inj h)
  | publishAutoSeq request => exact publishAutoSeqBatch_writes (Option.some.inj h)
  | createChannel request => exact createChannelBatch_writes (Option.some.inj h)
  | addMember request => exact addMemberBatch_writes (Option.some.inj h)
  | removeMember request => exact removeMemberBatch_writes (Option.some.inj h)
  | addToken request =>
      obtain ⟨generated, hgenerated, h⟩ := Option.map_eq_some_iff.mp h
      obtain ⟨token, htoken, h⟩ := bind_ok h
      obtain ⟨counted, hcounted, h⟩ := bind_ok h
      obtain ⟨rfl, rfl⟩ := Prod.mk.inj (Except.ok.inj h)
      obtain rfl := Except.ok.inj (plain_ok hcounted)
      obtain rfl := plain_ok htoken
      exact .addToken hgenerated
  | deleteToken request =>
      obtain ⟨rfl, rfl⟩ := Prod.mk.inj (Except.ok.inj (Option.some.inj h))
      exact .deleteToken

end Effects

end OpenEvent
