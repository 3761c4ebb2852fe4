import OpenEvent.Storage.UnifiedStorage

/-!
The abstract store: separate typed maps and four counters, without bytes and
encodings. `Represents` says that a database holds exactly such a store.
-/

namespace OpenEvent

structure Store where
  maxSeq : UInt64
  nextUuid : UInt64
  nextChannelId : UInt64
  nextObjectId : UInt64
  messages : UInt64 → Option EventMessage
  usedUuids : UInt64 → Option UInt64
  channels : UInt64 → Option ChannelInfo
  tokens : UInt64 → Bytes → Bool
  preparing : UInt64 → Option StoredObject
  committed : UInt64 → Option StoredObject

namespace Store

def putUsedUuid (store : Store) (uuid seq : UInt64) : Store :=
  { store with usedUuids := Function.update store.usedUuids uuid (some seq) }

def putMessage (store : Store) (message : EventMessage) : Store :=
  { store with messages := Function.update store.messages message.seq (some message) }

def putChannel (store : Store) (channel : ChannelInfo) : Store :=
  { store with channels := Function.update store.channels channel.channelId (some channel) }

def setToken (store : Store) (principal : UInt64) (token : Bytes) (present : Bool) : Store :=
  { store with
    tokens := Function.update store.tokens principal
      (Function.update (store.tokens principal) token present) }

def setPreparing (store : Store) (objectId : UInt64) (object : Option StoredObject) : Store :=
  { store with preparing := Function.update store.preparing objectId object }

def setCommitted (store : Store) (objectId : UInt64) (object : Option StoredObject) : Store :=
  { store with committed := Function.update store.committed objectId object }

theorem setToken_tokens (store : Store) (principal other : UInt64) (token otherToken : Bytes)
    (present : Bool) :
    (store.setToken principal token present).tokens other otherToken =
      if other = principal ∧ otherToken = token then present
      else store.tokens other otherToken := by
  by_cases hprincipal : other = principal
  · subst hprincipal
    by_cases htoken : otherToken = token <;> simp [setToken, htoken]
  · simp [setToken, hprincipal]

end Store

/-- The logical keys of the metadata family. -/
inductive MetadataKey where
  | schemaVersion
  | maxSeq
  | nextUuid
  | nextChannelId
  | nextObjectId
  | channel (channelId : UInt64)
  | token (principal : UInt64) (token : Bytes)
  | uuid (uuid : UInt64)
deriving DecidableEq

def MetadataKey.bytes : MetadataKey → Bytes
  | .schemaVersion => Bytes.ofString kSchemaVersionKey
  | .maxSeq => Bytes.ofString kMaxSeqKey
  | .nextUuid => Bytes.ofString kNextUuidKey
  | .nextChannelId => Bytes.ofString kNextChannelIdKey
  | .nextObjectId => Bytes.ofString kNextObjectIdKey
  | .channel channelId => numericKey kChannelPrefix channelId
  | .token principal credential => tokenKey principal credential
  | .uuid value => numericKey kUuidPrefix value

/-- The logical keys of the objects family. -/
inductive ObjectsKey where
  | preparing (objectId : UInt64)
  | committed (objectId : UInt64)
deriving DecidableEq

def ObjectsKey.bytes : ObjectsKey → Bytes
  | .preparing objectId => numericKey kPreparingObjectPrefix objectId
  | .committed objectId => numericKey kCommittedObjectPrefix objectId

/-- A stored value and the record it encodes, or neither. -/
def StoredAs {α : Type} (codec : ProtoCodec α) : Option Bytes → Option α → Prop
  | none, none => True
  | some bytes, some message => codec.serializeToString message = some bytes
  | _, _ => False

def Store.MetadataHolds (ext : Externals) (store : Store) : MetadataKey → Option Bytes → Prop
  | .schemaVersion, value => value = some (encodeUint64 kSchemaVersion)
  | .maxSeq, value => value = some (encodeUint64 store.maxSeq)
  | .nextUuid, value => value = some (encodeUint64 store.nextUuid)
  | .nextChannelId, value => value = some (encodeUint64 store.nextChannelId)
  | .nextObjectId, value => value = some (encodeUint64 store.nextObjectId)
  | .channel channelId, value => StoredAs ext.channelInfo value (store.channels channelId)
  | .token principal token, value =>
      value = if store.tokens principal token then some [] else none
  | .uuid uuid, value => value = (store.usedUuids uuid).map encodeUint64

def Store.object (store : Store) : ObjectsKey → Option StoredObject
  | .preparing objectId => store.preparing objectId
  | .committed objectId => store.committed objectId

structure Represents (ext : Externals) (db : Db) (store : Store) : Prop where
  metadata : ∀ key : MetadataKey, store.MetadataHolds ext key (db.metadata.get key.bytes)
  metadata_only : ∀ bytes, db.metadata.get bytes ≠ none →
    ∃ key : MetadataKey, bytes = key.bytes
  messages : ∀ seq, StoredAs ext.eventMessage
    (db.messages.get (numericKey kMessagePrefix seq)) (store.messages seq)
  messages_only : ∀ bytes, db.messages.get bytes ≠ none →
    ∃ seq, bytes = numericKey kMessagePrefix seq
  objects : ∀ key : ObjectsKey, StoredAs ext.objectRecord (db.objects.get key.bytes)
    (store.object key)
  objects_only : ∀ bytes, db.objects.get bytes ≠ none →
    ∃ key : ObjectsKey, bytes = key.bytes

/-! ### Records that pass the readers' checks -/

/-- The checks of `ParseObject`. -/
structure ObjectValid (objectId : UInt64) (object : StoredObject) : Prop where
  objectId_eq : object.objectId = objectId
  objectId_ne : objectId ≠ 0
  token : isBase64UrlToken object.objectToken = true
  creator : object.creatorPrincipal ≠ 0
  name_ne : object.name.isEmpty = false
  name_le : object.name.utf8ByteSize ≤ kMaxObjectNameBytes
  type_ne : object.type.isEmpty = false
  type_le : object.type.utf8ByteSize ≤ kMaxObjectTypeBytes
  description_le : object.description.utf8ByteSize ≤ kMaxObjectDescriptionBytes
  nbytes_ne : object.nbytes ≠ 0
  nbytes_le : object.nbytes.toNat ≤ kMaxObjectBytes

def ObjectsKey.objectId : ObjectsKey → UInt64
  | .preparing objectId => objectId
  | .committed objectId => objectId

/-- Every stored record passes the checks that its readers make. -/
structure Store.Valid (ext : Externals) (store : Store) : Prop where
  channel : ∀ channelId channel, store.channels channelId = some channel →
    channel.channelId = channelId ∧ validStoredChannel ext channel = true
  object : ∀ key object, store.object key = some object → ObjectValid key.objectId object
  message : ∀ seq message, store.messages seq = some message → message.seq = seq ∧
    validReservedFields ext seq message = true ∧ validObjectReferences message = true
  uuid : ∀ uuid seq, store.usedUuids uuid = some seq → (uuid = 0 ↔ seq = 0)

/-! ### Keys -/

theorem numericKey_injective (keyPrefix : String) :
    Function.Injective (numericKey keyPrefix) := by
  intro left right h
  exact encodeUint64_injective (List.append_cancel_left h)

theorem numericKey_lt_iff (keyPrefix : String) (left right : UInt64) :
    numericKey keyPrefix left < numericKey keyPrefix right ↔ left < right := by
  rw [numericKey, numericKey, Bytes.append_lt_append_iff, encodeUint64_lt_iff]

theorem tokenKey_injective {principal other : UInt64} {token otherToken : Bytes}
    (h : tokenKey principal token = tokenKey other otherToken) :
    principal = other ∧ token = otherToken := by
  have hsplit := List.append_inj h (by simp [numericKey])
  exact ⟨numericKey_injective kTokenPrefix hsplit.1, hsplit.2⟩

/-- The first byte of a metadata key tells the four kinds apart. -/
def MetadataKey.firstByte : MetadataKey → UInt8
  | .channel _ => 0x63
  | .token _ _ => 0x74
  | .uuid _ => 0x75
  | _ => 0x6d

theorem MetadataKey.head_bytes (key : MetadataKey) :
    key.bytes.head? = some key.firstByte := by
  cases key <;> rfl

theorem MetadataKey.bytes_injective : Function.Injective MetadataKey.bytes := by
  intro left right h
  have hhead : left.firstByte = right.firstByte := by
    have heads := congrArg List.head? h
    rwa [left.head_bytes, right.head_bytes, Option.some.injEq] at heads
  cases left <;> cases right <;> first
    | rfl
    | exact absurd h (by decide)
    | (simp [MetadataKey.firstByte] at hhead; done)
    | exact congrArg MetadataKey.channel (numericKey_injective _ h)
    | exact congrArg MetadataKey.uuid (numericKey_injective _ h)
    | (obtain ⟨rfl, rfl⟩ := tokenKey_injective h; rfl)

private theorem preparing_ne_committed (left right : UInt64) :
    ObjectsKey.bytes (.preparing left) ≠ ObjectsKey.bytes (.committed right) := by
  intro h
  have heads : some (0x70 : UInt8) = some 0x6f := congrArg List.head? h
  simp at heads

theorem ObjectsKey.bytes_injective : Function.Injective ObjectsKey.bytes := by
  intro left right h
  cases left with
  | preparing left =>
      cases right with
      | preparing right => exact congrArg _ (numericKey_injective _ h)
      | committed right => exact absurd h (preparing_ne_committed left right)
  | committed left =>
      cases right with
      | preparing right => exact absurd h.symm (preparing_ne_committed right left)
      | committed right => exact congrArg _ (numericKey_injective _ h)

end OpenEvent
