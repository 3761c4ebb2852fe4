import OpenEvent.MessageLog
import OpenEvent.Reachable
import OpenEvent.Reference

/-!
The relation between the message log, the uuid index, the channel and object
records and the counters, as it stands in every database that runs reach.
-/

namespace OpenEvent

/-- The messages family holds one record for each seq up to the counter, each
under its own seq, and nothing else. -/
structure MessagesExact (ext : Externals) (db : Db) : Prop where
  keys : ∀ key, db.messages.get key ≠ none ↔
    ∃ seq ≤ db.counter kMaxSeqKey, key = numericKey kMessagePrefix seq
  own_seq : ∀ seq ≤ db.counter kMaxSeqKey,
    ∃ message, db.message ext seq = some message ∧ message.seq = seq

/-- The used-uuid index is the inverse of the messages' uuids. -/
structure UuidsExact (ext : Externals) (db : Db) : Prop where
  maps_iff : ∀ uuid seq, db.MapsUuid uuid seq ↔
    ∃ message, db.message ext seq = some message ∧ message.uuid = uuid
  injective : ∀ uuid other seq, db.MapsUuid uuid seq → db.MapsUuid other seq → uuid = other
  lt_next : ∀ uuid, db.metadata.get (numericKey kUuidPrefix uuid) ≠ none →
    uuid < db.counter kNextUuidKey

/-- The channel records have the ids below the counter, and each channel's
first message is the event that starts it. -/
structure ChannelsExact (ext : Externals) (db : Db) : Prop where
  ids : ∀ channelId, db.metadata.get (numericKey kChannelPrefix channelId) ≠ none ↔
    1 ≤ channelId ∧ channelId < db.counter kNextChannelIdKey
  own_id : ∀ channelId, 1 ≤ channelId → channelId < db.counter kNextChannelIdKey →
    ∃ channel, db.channel ext channelId = some channel ∧ channel.channelId = channelId
  message_channel : ∀ seq message, 0 < seq → db.message ext seq = some message →
    1 ≤ message.channelId ∧ message.channelId < db.counter kNextChannelIdKey
  first_message : ∀ channelId, 1 ≤ channelId → channelId < db.counter kNextChannelIdKey →
    ∃ (seq : UInt64) (message : EventMessage) (name protocol description : String)
      (visibility : Visibility) (creator : UInt64) (members : List UInt64),
      db.message ext seq = some message ∧ message.channelId = channelId ∧
      message.principal = 0 ∧
      decodeChannelEvent message.payload = some (.channelInitialized name protocol description
        visibility creator members) ∧
      ∀ earlier < seq, ∀ other : EventMessage, db.message ext earlier = some other →
        other.channelId ≠ channelId

/-- Object records have ids below the counter, in one of the two states. -/
structure ObjectsExact (db : Db) : Prop where
  keys : ∀ key, db.objects.get key ≠ none → ∃ objectId,
    key = numericKey kPreparingObjectPrefix objectId ∨
      key = numericKey kCommittedObjectPrefix objectId
  preparing : ∀ objectId, db.objects.get (numericKey kPreparingObjectPrefix objectId) ≠ none →
    1 ≤ objectId ∧ objectId < db.counter kNextObjectIdKey
  committed : ∀ objectId, db.objects.get (numericKey kCommittedObjectPrefix objectId) ≠ none →
    1 ≤ objectId ∧ objectId < db.counter kNextObjectIdKey
  disjoint : ∀ objectId, db.objects.get (numericKey kPreparingObjectPrefix objectId) ≠ none →
    db.objects.get (numericKey kCommittedObjectPrefix objectId) = none

structure StorageInvariant (ext : Externals) (db : Db) : Prop where
  messages : MessagesExact ext db
  uuids : UuidsExact ext db
  channels : ChannelsExact ext db
  objects : ObjectsExact db

section Sound

variable {ext : Externals} {db : Db} {store : Store} {log : List EventMessage}

private theorem one_le_iff {value : UInt64} : 1 ≤ value ↔ value ≠ 0 := by
  rw [UInt64.le_iff_toNat_le, Ne, ← UInt64.toNat_inj]
  simp only [UInt64.toNat_one, UInt64.toNat_zero]
  omega

theorem LogIndex.message_iff (h : LogIndex store log) {seq : UInt64} :
    store.messages seq ≠ none ↔ seq ≤ store.maxSeq := by
  rw [h.messages, Ne, List.getElem?_eq_none_iff, UInt64.le_iff_toNat_le, ← h.maxSeq]
  omega

theorem Coherent.messagesExact (h : Coherent ext store log) (hdb : Represents ext db store) :
    MessagesExact ext db where
  keys key := by
    rw [hdb.counter_maxSeq]
    constructor
    · intro hkey
      obtain ⟨seq, rfl⟩ := hdb.messages_only key hkey
      exact ⟨seq, h.logIndex.message_iff.mp ((hdb.messages seq).eq_none_iff.not.mp hkey), rfl⟩
    · rintro ⟨seq, hseq, rfl⟩
      exact (hdb.messages seq).eq_none_iff.not.mpr (h.logIndex.message_iff.mpr hseq)
  own_seq seq hseq := by
    rw [hdb.counter_maxSeq] at hseq
    obtain ⟨message, hmessage⟩ := Option.ne_none_iff_exists'.mp (h.logIndex.message_iff.mpr hseq)
    exact ⟨message, by rw [hdb.message_eq, hmessage], (h.valid.message seq message hmessage).1⟩

theorem Coherent.uuidsExact (h : Coherent ext store log) (hdb : Represents ext db store) :
    UuidsExact ext db where
  maps_iff uuid seq := by
    rw [hdb.mapsUuid_iff, h.logIndex.uuids, hdb.message_eq, h.logIndex.messages]
  injective uuid other seq huuid hother := by
    rw [hdb.mapsUuid_iff, h.logIndex.uuids] at huuid hother
    obtain ⟨message, hmessage, rfl⟩ := huuid
    obtain ⟨found, hfound, rfl⟩ := hother
    rw [hmessage] at hfound
    rw [Option.some.inj hfound]
  lt_next uuid huuid := by
    have hentry : db.metadata.get (numericKey kUuidPrefix uuid) =
        (store.usedUuids uuid).map encodeUint64 := hdb.metadata (.uuid uuid)
    rw [hentry, Ne, Option.map_eq_none_iff] at huuid
    obtain ⟨seq, hseq⟩ := Option.ne_none_iff_exists'.mp huuid
    obtain ⟨message, hmessage, rfl⟩ := (h.logIndex.uuids uuid seq).mp hseq
    rw [hdb.counter_nextUuid]
    exact h.logIndex.uuid_lt message (List.mem_of_getElem? hmessage)

theorem Coherent.channelsExact (h : Coherent ext store log) (hdb : Represents ext db store) :
    ChannelsExact ext db where
  ids channelId := by
    have hstored : StoredAs ext.channelInfo (db.metadata.get (numericKey kChannelPrefix channelId))
        (store.channels channelId) := hdb.metadata (.channel channelId)
    rw [Ne, hstored.eq_none_iff, ← Ne, ← Option.isSome_iff_ne_none, h.channelIndex.channels_iff,
      hdb.counter_nextChannelId, one_le_iff]
  own_id channelId hpos hlt := by
    rw [hdb.counter_nextChannelId] at hlt
    obtain ⟨channel, hchannel⟩ := Option.isSome_iff_exists.mp
      ((h.channelIndex.channels_iff channelId).mpr ⟨one_le_iff.mp hpos, hlt⟩)
    exact ⟨channel, by rw [hdb.channel_eq, hchannel], (h.valid.channel _ _ hchannel).1⟩
  message_channel seq message hseq hmessage := by
    rw [hdb.message_eq] at hmessage
    have hown := (h.valid.message seq message hmessage).1
    rw [h.logIndex.messages] at hmessage
    have hmem := List.mem_of_getElem? hmessage
    rw [hdb.counter_nextChannelId, one_le_iff]
    refine ⟨h.channelIndex.message_channel message hmem ?_, h.channelIndex.channelId_lt message hmem⟩
    rw [hown]
    exact (UInt64.ne_of_lt hseq).symm
  first_message channelId hpos hlt := by
    rw [hdb.counter_nextChannelId] at hlt
    rw [one_le_iff] at hpos
    have hsome := (h.channelIndex.channels_iff channelId).mpr ⟨hpos, hlt⟩
    obtain ⟨found, hfound⟩ := Option.isSome_iff_exists.mp hsome
    rw [h.channelIndex.channels channelId hpos] at hfound
    obtain ⟨position, message, event, channel, hat, hid, hprincipal, hevent, hstart, hfirst⟩ :=
      h.wellFormed.first_message hpos (WellFormedLog.exists_of_channelAt hfound)
    have hposition := h.logIndex.toNat_ofNat (List.getElem?_eq_some_iff.mp hat).1
    cases event with
    | channelInitialized name protocol description visibility creator members =>
        refine ⟨UInt64.ofNat position, message, name, protocol, description, visibility, creator,
          members, ?_, hid, hprincipal, hevent, ?_⟩
        · rw [hdb.message_eq, h.logIndex.message_of_lt hat]
        · intro earlier hearlier other hother
          rw [UInt64.lt_iff_toNat_lt, hposition] at hearlier
          rw [hdb.message_eq, h.logIndex.messages] at hother
          exact hfirst _ hearlier other hother
    | memberAdded member => cases hstart
    | memberRemoved member => cases hstart

theorem Coherent.objectsExact (h : Coherent ext store log) (hdb : Represents ext db store) :
    ObjectsExact db := by
  have hids (key : ObjectsKey) (hkey : db.objects.get key.bytes ≠ none) :
      1 ≤ key.objectId ∧ key.objectId < db.counter kNextObjectIdKey := by
    obtain ⟨object, hobject⟩ := Option.ne_none_iff_exists'.mp
      ((hdb.objects key).eq_none_iff.not.mp hkey)
    rw [hdb.counter_nextObjectId, one_le_iff]
    exact ⟨(h.valid.object key object hobject).objectId_ne,
      h.objectIndex.objectId_lt key object hobject⟩
  refine ⟨?_, fun objectId => hids (.preparing objectId),
    fun objectId => hids (.committed objectId), ?_⟩
  · intro key hkey
    obtain ⟨found, rfl⟩ := hdb.objects_only key hkey
    cases found with
    | preparing objectId => exact ⟨objectId, Or.inl rfl⟩
    | committed objectId => exact ⟨objectId, Or.inr rfl⟩
  intro objectId hpreparing
  have hprepared : store.preparing objectId ≠ none :=
    (hdb.objects (.preparing objectId)).eq_none_iff.not.mp hpreparing
  by_contra hcommitted
  exact (hdb.objects (.committed objectId)).eq_none_iff.not.mp hcommitted
    (h.objectIndex.disjoint objectId hprepared)

end Sound

/-- In every state that runs reach, the log, the indexes and the counters
agree. -/
theorem storageInvariant_of_reachable (ext : Externals) {server : Server}
    (h : Reachable ext server) : StorageInvariant ext server.db := by
  obtain ⟨store, log, hsound⟩ := h.sound
  exact ⟨hsound.coherent.messagesExact hsound.represents,
    hsound.coherent.uuidsExact hsound.represents,
    hsound.coherent.channelsExact hsound.represents,
    hsound.coherent.objectsExact hsound.represents⟩

theorem storageInvariant_of_session :
    StorageInvariant Reference.externals Reference.sessionServer.db :=
  storageInvariant_of_reachable Reference.externals Reference.session_reachable

end OpenEvent
