import OpenEvent.Reachable
import OpenEvent.Reference
import OpenEvent.Refinement.ChannelList

/-!
The byte keys of the three column families as typed maps. A batch is a list of
setter calls; after any committed batches every reader finds what the same
setters leave in separate maps from ids to records.
-/

namespace OpenEvent

open Fallible

/-- A call of one of the batch setters of `UnifiedStorage`. -/
inductive Setter where
  | setMaxSeq (seq : UInt64)
  | setNextUuid (uuid : UInt64)
  | putUsedUuid (uuid seq : UInt64)
  | setNextChannelId (channelId : UInt64)
  | setNextObjectId (objectId : UInt64)
  | putMessage (message : EventMessage)
  | putChannel (channel : ChannelInfo)
  | putToken (principal : UInt64) (token : Bytes)
  | deleteToken (principal : UInt64) (token : Bytes)
  | putPreparingObject (object : StoredObject)
  | putCommittedObject (object : StoredObject)
  | deletePreparingObject (objectId : UInt64)

namespace Setter

def run (ext : Externals) (batch : WriteBatch) : Setter → Result WriteBatch
  | .setMaxSeq seq => UnifiedStorage.setMaxSeq batch seq
  | .setNextUuid uuid => UnifiedStorage.setNextUuid batch uuid
  | .putUsedUuid uuid seq => UnifiedStorage.putUsedUuid batch uuid seq
  | .setNextChannelId channelId => UnifiedStorage.setNextChannelId batch channelId
  | .setNextObjectId objectId => UnifiedStorage.setNextObjectId batch objectId
  | .putMessage message => UnifiedStorage.putMessage ext batch message
  | .putChannel channel => UnifiedStorage.putChannel ext batch channel
  | .putToken principal token => UnifiedStorage.putToken batch principal token
  | .deleteToken principal token => .ok (UnifiedStorage.deleteToken batch principal token)
  | .putPreparingObject object => UnifiedStorage.putPreparingObject ext batch object
  | .putCommittedObject object => UnifiedStorage.putCommittedObject ext batch object
  | .deletePreparingObject objectId => .ok (UnifiedStorage.deletePreparingObject batch objectId)

/-- The same call on separate maps. -/
def typed (store : Store) : Setter → Store
  | .setMaxSeq seq => { store with maxSeq := seq }
  | .setNextUuid uuid => { store with nextUuid := uuid }
  | .putUsedUuid uuid seq => store.putUsedUuid uuid seq
  | .setNextChannelId channelId => { store with nextChannelId := channelId }
  | .setNextObjectId objectId => { store with nextObjectId := objectId }
  | .putMessage message => store.putMessage message
  | .putChannel channel => store.putChannel channel
  | .putToken principal token => store.setToken principal token true
  | .deleteToken principal token => store.setToken principal token false
  | .putPreparingObject object => store.setPreparing object.objectId (some object)
  | .putCommittedObject object =>
      (store.setPreparing object.objectId none).setCommitted object.objectId (some object)
  | .deletePreparingObject objectId => store.setPreparing objectId none

/-- The value written passes the checks of the readers of its kind. -/
def Accepted (ext : Externals) : Setter → Prop
  | .putUsedUuid uuid seq => uuid = 0 ↔ seq = 0
  | .putMessage message => validReservedFields ext message.seq message = true ∧
      validObjectReferences message = true
  | .putChannel channel => validStoredChannel ext channel = true
  | .putPreparingObject object => ObjectValid object.objectId object
  | .putCommittedObject object => ObjectValid object.objectId object
  | _ => True

end Setter

/-- The batch of a sequence of setter calls. -/
def buildBatch (ext : Externals) (setters : List Setter) : Result WriteBatch :=
  setters.foldlM (Setter.run ext) []

/-- The database after batches have been committed. -/
def commitBatches (ext : Externals) (db : Db) (batches : List (List Setter)) : Result Db :=
  batches.foldlM (fun db setters => do
    let batch ← buildBatch ext setters
    pure (db.write batch)) db

def typedMaps (store : Store) (batches : List (List Setter)) : Store :=
  batches.foldl (List.foldl Setter.typed) store

/-- What an iterator at `seq` in the messages family is at: the least stored seq from there on. -/
def SeeksMessage (ext : Externals) (store : Store) (seq : UInt64) :
    Option (Bytes × Bytes) → Prop
  | none => ∀ later, seq ≤ later → store.messages later = none
  | some (key, value) => ∃ found message,
      decodeNumericKey key kMessagePrefix "message" = .ok found ∧ seq ≤ found ∧
        ext.eventMessage.parseFromString value = some message ∧
        store.messages found = some message ∧
        ∀ later, seq ≤ later → store.messages later ≠ none → found ≤ later

/-- Every reader of the database finds what the maps hold. -/
structure ReadsAs (ext : Externals) (db : Db) (store : Store) : Prop where
  maxSeq : UnifiedStorage.getMaxSeq db {} = .ok store.maxSeq
  nextUuid : UnifiedStorage.getNextUuid db {} = .ok store.nextUuid
  nextChannelId : UnifiedStorage.getNextChannelId db {} = .ok store.nextChannelId
  nextObjectId : UnifiedStorage.getNextObjectId db {} = .ok store.nextObjectId
  usedUuid : ∀ uuid, UnifiedStorage.getUsedUuidSeq db {} uuid = .ok (store.usedUuids uuid)
  token : ∀ principal token,
    UnifiedStorage.hasToken db {} principal token = .ok (store.tokens principal token)
  channel : ∀ channelId,
    UnifiedStorage.getChannel ext db {} channelId = .ok (store.channels channelId)
  preparing : ∀ objectId,
    UnifiedStorage.getPreparingObject ext db {} objectId = .ok (store.preparing objectId)
  committed : ∀ objectId,
    UnifiedStorage.getCommittedObject ext db {} objectId = .ok (store.committed objectId)
  allCommitted : ∀ objectIds,
    UnifiedStorage.getCommittedObjects ext db {} objectIds = .ok (objectIds.map store.committed)
  channels : ∃ channels, UnifiedStorage.listChannels ext db {} = .ok channels ∧
    (channels.map (·.channelId)).Pairwise (· < ·) ∧ ∀ channel : ChannelInfo,
      channel ∈ channels ↔ store.channels channel.channelId = some channel
  preparingObjects : ∃ objects, UnifiedStorage.listPreparingObjects ext db {} = .ok objects ∧
    (objects.map (·.objectId)).Pairwise (· < ·) ∧ ∀ object : StoredObject,
      object ∈ objects ↔ store.preparing object.objectId = some object
  messages : ∀ seq, SeeksMessage ext store seq
    (db.iterate {} .messages (numericKey kMessagePrefix seq)).1.head?

/-! ### Setters -/

section Setters

variable {ext : Externals} {db : Db} {store : Store} {batch batch' : WriteBatch}

theorem Setter.run_represents {setter : Setter} (hdb : Represents ext (db.write batch) store)
    (h : setter.run ext batch = .ok batch') :
    Represents ext (db.write batch') (setter.typed store) := by
  cases setter with
  | setMaxSeq seq => exact hdb.setMaxSeq h
  | setNextUuid uuid => exact (hdb.setNextUuid h).2
  | putUsedUuid uuid seq => exact (hdb.putUsedUuid h).2.2
  | setNextChannelId channelId => exact hdb.setNextChannelId h
  | setNextObjectId objectId => exact hdb.setNextObjectId h
  | putMessage message => exact hdb.putMessage h
  | putChannel channel => exact hdb.putChannel h
  | putToken principal token => exact hdb.putToken h
  | deleteToken principal token =>
      obtain rfl := Except.ok.inj h
      exact hdb.deleteToken principal token
  | putPreparingObject object => exact hdb.putPreparingObject h
  | putCommittedObject object => exact hdb.putCommittedObject h
  | deletePreparingObject objectId =>
      obtain rfl := Except.ok.inj h
      exact hdb.deletePreparingObject objectId

theorem Store.Valid.setPreparing (h : store.Valid ext) {objectId : UInt64}
    {object : Option StoredObject}
    (hobject : ∀ stored, object = some stored → ObjectValid objectId stored) :
    (store.setPreparing objectId object).Valid ext := by
  refine ⟨h.channel, ?_, h.message, h.uuid⟩
  intro key stored hstored
  cases key with
  | preparing other =>
      by_cases hid : other = objectId
      · subst hid
        have hvalue : object = some stored := by
          simpa [Store.object, Store.setPreparing] using hstored
        exact hobject stored hvalue
      · have hkept : store.preparing other = some stored := by
          simpa [Store.object, Store.setPreparing, hid] using hstored
        exact h.object (.preparing other) stored hkept
  | committed other => exact h.object (.committed other) stored hstored

theorem Store.Valid.setCommitted (h : store.Valid ext) {object : StoredObject}
    (hobject : ObjectValid object.objectId object) :
    (store.setCommitted object.objectId (some object)).Valid ext := by
  refine ⟨h.channel, ?_, h.message, h.uuid⟩
  intro key stored hstored
  cases key with
  | preparing other => exact h.object (.preparing other) stored hstored
  | committed other =>
      by_cases hid : other = object.objectId
      · subst hid
        obtain rfl : object = stored := by
          simpa [Store.object, Store.setCommitted] using hstored
        exact hobject
      · have hkept : store.committed other = some stored := by
          simpa [Store.object, Store.setCommitted, hid] using hstored
        exact h.object (.committed other) stored hkept

theorem Setter.typed_valid {setter : Setter} (hvalid : store.Valid ext)
    (h : setter.Accepted ext) : (setter.typed store).Valid ext := by
  cases setter with
  | putUsedUuid uuid seq =>
      exact ⟨hvalid.channel, hvalid.object, hvalid.message, hvalid.putUsedUuid h⟩
  | putMessage message =>
      exact ⟨hvalid.channel, hvalid.object, hvalid.putMessage h.1 h.2, hvalid.uuid⟩
  | putChannel channel =>
      exact ⟨hvalid.putChannel h, hvalid.object, hvalid.message, hvalid.uuid⟩
  | putPreparingObject object =>
      apply hvalid.setPreparing
      rintro _ ⟨⟩
      exact h
  | putCommittedObject object =>
      apply Store.Valid.setCommitted _ h
      apply hvalid.setPreparing
      rintro _ ⟨⟩
  | deletePreparingObject objectId =>
      apply hvalid.setPreparing
      rintro _ ⟨⟩
  | _ => exact ⟨hvalid.channel, hvalid.object, hvalid.message, hvalid.uuid⟩

/-- What the setters leave in the maps, the batch leaves in the database. -/
theorem buildBatch_represents {setters : List Setter}
    (hdb : Represents ext (db.write batch) store) (hvalid : store.Valid ext)
    (haccepted : ∀ setter ∈ setters, setter.Accepted ext)
    (h : setters.foldlM (Setter.run ext) batch = .ok batch') :
    Represents ext (db.write batch') (setters.foldl Setter.typed store) ∧
      (setters.foldl Setter.typed store).Valid ext := by
  induction setters generalizing batch store with
  | nil =>
      obtain rfl := Except.ok.inj h
      exact ⟨hdb, hvalid⟩
  | cons first rest ih =>
      rw [List.foldlM_cons] at h
      obtain ⟨middle, hfirst, hrest⟩ := bind_ok h
      exact ih (Setter.run_represents hdb hfirst)
        (Setter.typed_valid hvalid (haccepted first (by simp)))
        (fun setter hsetter => haccepted setter (by simp [hsetter])) hrest

theorem commitBatches_represents {batches : List (List Setter)} {db' : Db}
    (hdb : Represents ext db store) (hvalid : store.Valid ext)
    (haccepted : ∀ setters ∈ batches, ∀ setter ∈ setters, setter.Accepted ext)
    (h : commitBatches ext db batches = .ok db') :
    Represents ext db' (typedMaps store batches) ∧ (typedMaps store batches).Valid ext := by
  induction batches generalizing db store with
  | nil =>
      obtain rfl := Except.ok.inj h
      exact ⟨hdb, hvalid⟩
  | cons first rest ih =>
      unfold commitBatches at h
      rw [List.foldlM_cons] at h
      obtain ⟨middle, hfirst, hrest⟩ := bind_ok h
      obtain ⟨batch, hbatch, hwritten⟩ := bind_ok hfirst
      obtain rfl := Except.ok.inj hwritten
      obtain ⟨hdb', hvalid'⟩ := buildBatch_represents hdb.start hvalid
        (haccepted first (by simp)) hbatch
      exact ih hdb' hvalid' (fun setters hsetters => haccepted setters (by simp [hsetters])) hrest

end Setters

/-! ### Readers -/

section Readers

variable {ext : Externals} {db : Db} {store : Store}

theorem Represents.seeksMessage (h : Represents ext db store) (seq : UInt64) :
    SeeksMessage ext store seq (db.messages.seek (numericKey kMessagePrefix seq)).head? := by
  have hkey (found : UInt64) : numericKey kMessagePrefix seq ≤ numericKey kMessagePrefix found ↔
      seq ≤ found := by
    rw [← not_lt, numericKey_lt_iff, UInt64.not_lt]
  have hstored {found : UInt64} {message : EventMessage} (hmessage : store.messages found = some message)
      (hle : seq ≤ found) : ∃ value, (numericKey kMessagePrefix found, value) ∈
        db.messages.seek (numericKey kMessagePrefix seq) := by
    rcases (h.messages found).cases with ⟨_, hnone⟩ | ⟨value, _, hvalue, _, _⟩
    · rw [hmessage] at hnone
      cases hnone
    · exact ⟨value, (SortedMap.mem_seek _ _ _ _).mpr ⟨(hkey found).mpr hle, hvalue⟩⟩
  cases hhead : (db.messages.seek (numericKey kMessagePrefix seq)).head? with
  | none =>
      intro later hle
      rw [List.head?_eq_none_iff] at hhead
      cases hlater : store.messages later with
      | none => rfl
      | some message =>
          obtain ⟨value, hvalue⟩ := hstored hlater hle
          rw [hhead] at hvalue
          cases hvalue
  | some entry =>
      obtain ⟨key, value⟩ := entry
      obtain ⟨rest, hentries⟩ := List.head?_eq_some_iff.mp hhead
      have hmem : (key, value) ∈ db.messages.seek (numericKey kMessagePrefix seq) := by
        rw [hentries]
        exact List.mem_cons_self
      obtain ⟨hle, hget⟩ := (SortedMap.mem_seek _ _ _ _).mp hmem
      obtain ⟨found, rfl⟩ := h.messages_only key (by simp [hget])
      rcases (h.messages found).cases with ⟨hnone, _⟩ | ⟨bytes, message, hbytes, hmessage, hparse⟩
      · rw [hget] at hnone
        cases hnone
      · obtain rfl : value = bytes := Option.some.inj (hget.symm.trans hbytes)
        refine ⟨found, message, decodeNumericKey_numericKey _ _ _, (hkey found).mp hle, hparse,
          hmessage, ?_⟩
        intro later hlater hsome
        obtain ⟨other, hother⟩ := Option.ne_none_iff_exists'.mp hsome
        obtain ⟨bytes, hbytes⟩ := hstored hother hlater
        -- The entries come in ascending order, so none is before the first.
        rw [hentries, List.mem_cons] at hbytes
        rcases hbytes with heq | hrest
        · obtain rfl := numericKey_injective _ (Prod.mk.inj heq).1
          exact UInt64.le_refl _
        · have hascending := db.messages.seek_ascending (numericKey kMessagePrefix seq)
          rw [hentries] at hascending
          have hlt := (List.pairwise_cons.mp hascending).1 _ hrest
          exact UInt64.le_of_lt ((numericKey_lt_iff _ _ _).mp hlt)

theorem Represents.readsAs (h : Represents ext db store) (hvalid : store.Valid ext) :
    ReadsAs ext db store where
  maxSeq := h.reads_getMaxSeq.eq_ok
  nextUuid := h.reads_getNextUuid.eq_ok
  nextChannelId := h.reads_getNextChannelId.eq_ok
  nextObjectId := h.reads_getNextObjectId.eq_ok
  usedUuid uuid := (h.reads_getUsedUuidSeq hvalid uuid).eq_ok
  token principal token := (h.reads_hasToken principal token).eq_ok
  channel channelId := (h.reads_getChannel hvalid channelId).eq_ok
  preparing objectId := (h.reads_getPreparingObject hvalid objectId).eq_ok
  committed objectId := (h.reads_getCommittedObject hvalid objectId).eq_ok
  allCommitted objectIds := (h.reads_getCommittedObjects hvalid objectIds).eq_ok
  channels := h.listChannels_exact hvalid
  preparingObjects := (h.reads_listPreparingObjects hvalid).ok_of_no_faults
  messages seq := h.seeksMessage seq

end Readers

/-- After any committed batches every reader of a store finds the value last written under its own
key, the lists and the message iterator come in numeric order, and no two keys share their
bytes. -/
theorem byte_keys_are_typed_maps (ext : Externals) (eventMs : UInt64)
    {batches : List (List Setter)} {db : Db}
    (haccepted : ∀ setters ∈ batches, ∀ setter ∈ setters, setter.Accepted ext)
    (h : commitBatches ext (UnifiedStorage.initializeNew ext eventMs) batches = .ok db) :
    ReadsAs ext db (typedMaps (initialStore eventMs) batches) ∧
      Function.Injective MetadataKey.bytes ∧ Function.Injective ObjectsKey.bytes ∧
      Function.Injective (numericKey kMessagePrefix) ∧
      (∀ value, decodeUint64 (encodeUint64 value) = value) ∧
      ∀ left right, encodeUint64 left < encodeUint64 right ↔ left < right := by
  obtain ⟨hdb, hvalid⟩ := commitBatches_represents (initialStore_represents ext eventMs)
    (initialStore_coherent ext eventMs).valid haccepted h
  exact ⟨hdb.readsAs hvalid, MetadataKey.bytes_injective, ObjectsKey.bytes_injective,
    numericKey_injective kMessagePrefix, decode_encodeUint64, encodeUint64_lt_iff⟩

namespace Reference

def storedChannel : ChannelInfo :=
  ⟨1, "alarms", .visibilityPrivate, "p", "d", some 7, [7, 8]⟩

def storedMessage : EventMessage := ⟨1, 1, 7, [8], [1, 2], 12, 5, [objectKey]⟩

def storedObject : StoredObject := ⟨1, objectKey.objectToken, 7, "image", "png", "", 3⟩

/-- Three batches, with a token that reads like a channel key. -/
def batches : List (List Setter) :=
  [[.putToken 7 (Bytes.ofString "ch/"), .setNextUuid 9, .putChannel storedChannel,
    .setNextChannelId 2],
   [.putPreparingObject storedObject, .setNextObjectId 2, .deleteToken 7 []],
   [.putCommittedObject storedObject, .putMessage storedMessage, .putUsedUuid 5 1, .setMaxSeq 1,
    .deletePreparingObject 3]]

theorem storedObject_valid : ObjectValid 1 storedObject where
  objectId_eq := rfl
  objectId_ne := by decide
  token := by decide +kernel
  creator := by decide
  name_ne := by decide +kernel
  name_le := by decide +kernel
  type_ne := by decide +kernel
  type_le := by decide +kernel
  description_le := by decide +kernel
  nbytes_ne := by decide
  nbytes_le := by decide

theorem batches_accepted : ∀ setters ∈ batches, ∀ setter ∈ setters, setter.Accepted externals := by
  have hchannel : validStoredChannel externals storedChannel = true := by decide +kernel
  have hmessage : validReservedFields externals storedMessage.seq storedMessage = true ∧
      validObjectReferences storedMessage = true := by
    decide +kernel
  have hobject : ObjectValid storedObject.objectId storedObject := storedObject_valid
  simp [batches, Setter.Accepted, hchannel, hmessage, hobject]

theorem batches_committed :
    (commitBatches externals (UnifiedStorage.initializeNew externals 5) batches).isOk = true := by
  decide +kernel

theorem batches_are_typed_maps :
    ∃ db, commitBatches externals (UnifiedStorage.initializeNew externals 5) batches = .ok db ∧
      ReadsAs externals db (typedMaps (initialStore 5) batches) ∧
      UnifiedStorage.getChannel externals db {} 1 = .ok (some storedChannel) ∧
      UnifiedStorage.getPreparingObject externals db {} 1 = .ok none ∧
      UnifiedStorage.getCommittedObject externals db {} 1 = .ok (some storedObject) := by
  have hok := batches_committed
  cases hcommitted : commitBatches externals (UnifiedStorage.initializeNew externals 5) batches with
  | error status =>
      rw [hcommitted] at hok
      cases hok
  | ok db =>
      have hreads := (byte_keys_are_typed_maps externals 5 batches_accepted hcommitted).1
      exact ⟨db, rfl, hreads, hreads.channel 1, hreads.preparing 1, hreads.committed 1⟩

end Reference

end OpenEvent
