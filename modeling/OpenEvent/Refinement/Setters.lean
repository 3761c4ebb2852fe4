import OpenEvent.Store

/-!
The batch setters act on the abstract store one field at a time: whatever a
database represents, writing one more setter's operation to it changes exactly
the setter's own field.
-/

namespace OpenEvent

theorem Db.write_append (db : Db) (first second : WriteBatch) :
    db.write (first ++ second) = (db.write first).write second :=
  List.foldl_append

@[simp]
theorem Db.write_singleton (db : Db) (operation : BatchOperation) :
    db.write [operation] = db.applyOperation operation := rfl

variable {ext : Externals} {db : Db} {store store' : Store} {batch batch' : WriteBatch}

theorem Represents.putMetadata (h : Represents ext db store) (key : MetadataKey) (value : Bytes)
    (hmessages : store'.messages = store.messages)
    (hpreparing : store'.preparing = store.preparing)
    (hcommitted : store'.committed = store.committed)
    (hkey : store'.MetadataHolds ext key (some value))
    (hframe : ∀ other ≠ key, ∀ found, store.MetadataHolds ext other found →
      store'.MetadataHolds ext other found) :
    Represents ext (db.applyOperation (.put .metadata key.bytes value)) store' where
  metadata other := by
    by_cases hother : other = key
    · subst hother
      simpa [Db.applyOperation, Db.setFamily, Db.family] using hkey
    · have hbytes : other.bytes ≠ key.bytes := fun heq => hother (MetadataKey.bytes_injective heq)
      simp only [Db.applyOperation, Db.setFamily, Db.family, SortedMap.get_put_of_ne _ _ hbytes]
      exact hframe other hother _ (h.metadata other)
  metadata_only bytes hbytes := by
    by_cases heq : bytes = key.bytes
    · exact ⟨key, heq⟩
    · exact h.metadata_only bytes (by
        simpa [Db.applyOperation, Db.setFamily, Db.family, SortedMap.get_put_of_ne _ _ heq]
          using hbytes)
  messages := by simpa [Db.applyOperation, Db.setFamily, hmessages] using h.messages
  messages_only := by simpa [Db.applyOperation, Db.setFamily] using h.messages_only
  objects key := by
    have hobject : store'.object key = store.object key := by
      cases key <;> simp [Store.object, hpreparing, hcommitted]
    simpa [Db.applyOperation, Db.setFamily, hobject] using h.objects key
  objects_only := by simpa [Db.applyOperation, Db.setFamily] using h.objects_only

theorem Represents.deleteToken (h : Represents ext (db.write batch) store) (principal : UInt64)
    (token : Bytes) :
    Represents ext (db.write (UnifiedStorage.deleteToken batch principal token))
      (store.setToken principal token false) where
  metadata other := by
    have hget := SortedMap.get_erase (db.write batch).metadata (tokenKey principal token) other.bytes
    simp only [UnifiedStorage.deleteToken, Db.write_append, Db.write_singleton, Db.applyOperation,
      Db.setFamily, Db.family]
    rw [hget]
    by_cases hother : other = .token principal token
    · subst hother
      simp [Store.MetadataHolds, MetadataKey.bytes, Store.setToken_tokens]
    · have hbytes : other.bytes ≠ tokenKey principal token :=
        fun heq => hother (@MetadataKey.bytes_injective other (.token principal token) heq)
      rw [if_neg hbytes]
      have hold := h.metadata other
      cases other with
      | token otherPrincipal otherToken =>
          have hne : ¬ (otherPrincipal = principal ∧ otherToken = token) := by
            rintro ⟨rfl, rfl⟩
            exact hother rfl
          simpa [Store.MetadataHolds, Store.setToken_tokens, hne] using hold
      | _ => exact hold
  metadata_only bytes hbytes := by
    apply h.metadata_only bytes
    intro hnone
    apply hbytes
    simp only [UnifiedStorage.deleteToken, Db.write_append, Db.write_singleton, Db.applyOperation,
      Db.setFamily, Db.family, SortedMap.get_erase, hnone, ite_self]
  messages := by
    simpa [UnifiedStorage.deleteToken, Db.write_append, Db.applyOperation, Db.setFamily,
      Store.setToken] using h.messages
  messages_only := by
    simpa [UnifiedStorage.deleteToken, Db.write_append, Db.applyOperation, Db.setFamily]
      using h.messages_only
  objects key := by
    have hobject : (store.setToken principal token false).object key = store.object key := by
      cases key <;> rfl
    simpa [UnifiedStorage.deleteToken, Db.write_append, Db.applyOperation, Db.setFamily, hobject]
      using h.objects key
  objects_only := by
    simpa [UnifiedStorage.deleteToken, Db.write_append, Db.applyOperation, Db.setFamily]
      using h.objects_only

theorem Represents.setMaxSeq (h : Represents ext (db.write batch) store) {seq : UInt64}
    (hset : UnifiedStorage.setMaxSeq batch seq = .ok batch') :
    Represents ext (db.write batch') { store with maxSeq := seq } := by
  obtain rfl := Except.ok.inj hset.symm
  rw [Db.write_append, Db.write_singleton]
  refine h.putMetadata .maxSeq _ rfl rfl rfl rfl ?_
  intro other hother found hfound
  cases other <;> first | exact absurd rfl hother | exact hfound

theorem Represents.setNextChannelId (h : Represents ext (db.write batch) store)
    {channelId : UInt64} (hset : UnifiedStorage.setNextChannelId batch channelId = .ok batch') :
    Represents ext (db.write batch') { store with nextChannelId := channelId } := by
  obtain rfl := Except.ok.inj hset.symm
  rw [Db.write_append, Db.write_singleton]
  refine h.putMetadata .nextChannelId _ rfl rfl rfl rfl ?_
  intro other hother found hfound
  cases other <;> first | exact absurd rfl hother | exact hfound

theorem Represents.setNextObjectId (h : Represents ext (db.write batch) store)
    {objectId : UInt64} (hset : UnifiedStorage.setNextObjectId batch objectId = .ok batch') :
    Represents ext (db.write batch') { store with nextObjectId := objectId } := by
  obtain rfl := Except.ok.inj hset.symm
  rw [Db.write_append, Db.write_singleton]
  refine h.putMetadata .nextObjectId _ rfl rfl rfl rfl ?_
  intro other hother found hfound
  cases other <;> first | exact absurd rfl hother | exact hfound

theorem Represents.setNextUuid (h : Represents ext (db.write batch) store) {uuid : UInt64}
    (hset : UnifiedStorage.setNextUuid batch uuid = .ok batch') :
    uuid ≠ 0 ∧ Represents ext (db.write batch') { store with nextUuid := uuid } := by
  unfold UnifiedStorage.setNextUuid at hset
  split at hset
  · cases hset
  · rename_i hne
    obtain rfl := Except.ok.inj hset.symm
    refine ⟨hne, ?_⟩
    rw [Db.write_append, Db.write_singleton]
    refine h.putMetadata .nextUuid _ rfl rfl rfl rfl ?_
    intro other hother found hfound
    cases other <;> first | exact absurd rfl hother | exact hfound

theorem Represents.putUsedUuid (h : Represents ext (db.write batch) store) {uuid seq : UInt64}
    (hset : UnifiedStorage.putUsedUuid batch uuid seq = .ok batch') :
    uuid ≠ 0 ∧ seq ≠ 0 ∧ Represents ext (db.write batch') (store.putUsedUuid uuid seq) := by
  unfold UnifiedStorage.putUsedUuid at hset
  split at hset
  · cases hset
  · rename_i hne
    obtain rfl := Except.ok.inj hset.symm
    refine ⟨fun hzero => hne (Or.inl hzero), fun hzero => hne (Or.inr hzero), ?_⟩
    rw [Db.write_append, Db.write_singleton]
    refine h.putMetadata (.uuid uuid) _ rfl rfl rfl ?_ ?_
    · simp [Store.MetadataHolds, Store.putUsedUuid]
    · intro other hother found hfound
      cases other with
      | uuid value =>
          have hvalue : value ≠ uuid := fun heq => hother (by rw [heq])
          simpa [Store.MetadataHolds, Store.putUsedUuid, hvalue] using hfound
      | _ => exact hfound

theorem Represents.putChannel (h : Represents ext (db.write batch) store) {channel : ChannelInfo}
    (hset : UnifiedStorage.putChannel ext batch channel = .ok batch') :
    Represents ext (db.write batch') (store.putChannel channel) := by
  unfold UnifiedStorage.putChannel at hset
  split at hset
  · cases hset
  · rename_i payload hpayload
    obtain rfl := Except.ok.inj hset.symm
    rw [Db.write_append, Db.write_singleton]
    refine h.putMetadata (.channel channel.channelId) _ rfl rfl rfl ?_ ?_
    · simpa [Store.MetadataHolds, Store.putChannel, StoredAs] using hpayload
    · intro other hother found hfound
      cases other with
      | channel value =>
          have hvalue : value ≠ channel.channelId := fun heq => hother (by rw [heq])
          simpa [Store.MetadataHolds, Store.putChannel, hvalue] using hfound
      | _ => exact hfound

theorem Represents.putToken (h : Represents ext (db.write batch) store) {principal : UInt64}
    {token : Bytes} (hset : UnifiedStorage.putToken batch principal token = .ok batch') :
    Represents ext (db.write batch') (store.setToken principal token true) := by
  obtain rfl := Except.ok.inj hset.symm
  rw [Db.write_append, Db.write_singleton]
  refine h.putMetadata (.token principal token) _ rfl rfl rfl ?_ ?_
  · simp [Store.MetadataHolds, Store.setToken_tokens]
  · intro other hother found hfound
    cases other with
    | token otherPrincipal otherToken =>
        have hne : ¬ (otherPrincipal = principal ∧ otherToken = token) := by
          rintro ⟨rfl, rfl⟩
          exact hother rfl
        simpa [Store.MetadataHolds, Store.setToken_tokens, hne] using hfound
    | _ => exact hfound

theorem Represents.putMessage (h : Represents ext (db.write batch) store) {message : EventMessage}
    (hset : UnifiedStorage.putMessage ext batch message = .ok batch') :
    Represents ext (db.write batch') (store.putMessage message) := by
  unfold UnifiedStorage.putMessage at hset
  split at hset
  · cases hset
  · rename_i payload hpayload
    obtain rfl := Except.ok.inj hset.symm
    rw [Db.write_append, Db.write_singleton]
    have hget (bytes : Bytes) :
        ((db.write batch).applyOperation
            (.put .messages (numericKey kMessagePrefix message.seq) payload)).messages.get bytes =
          if bytes = numericKey kMessagePrefix message.seq then some payload
          else (db.write batch).messages.get bytes := by
      simp only [Db.applyOperation, Db.setFamily, Db.family, SortedMap.get_put]
      split_ifs <;> rfl
    refine ⟨h.metadata, h.metadata_only, ?_, ?_, h.objects, h.objects_only⟩
    · intro seq
      rw [hget]
      by_cases hseq : seq = message.seq
      · subst hseq
        simpa [Store.putMessage, StoredAs] using hpayload
      · have hkey : numericKey kMessagePrefix seq ≠ numericKey kMessagePrefix message.seq :=
          fun heq => hseq (numericKey_injective _ heq)
        simpa [Store.putMessage, hseq, hkey] using h.messages seq
    · intro bytes hbytes
      rw [hget] at hbytes
      by_cases heq : bytes = numericKey kMessagePrefix message.seq
      · exact ⟨message.seq, heq⟩
      · exact h.messages_only bytes (by simpa [heq] using hbytes)

private theorem Represents.putObject (h : Represents ext db store) (key : ObjectsKey)
    {object : StoredObject} {payload : Bytes}
    (hpayload : ext.objectRecord.serializeToString object = some payload)
    (hkey : store'.object key = some object)
    (hframe : ∀ other ≠ key, store'.object other = store.object other)
    (hmetadata : ∀ other found, store.MetadataHolds ext other found →
      store'.MetadataHolds ext other found)
    (hmessages : store'.messages = store.messages) :
    Represents ext (db.applyOperation (.put .objects key.bytes payload)) store' where
  metadata other := hmetadata other _ (h.metadata other)
  metadata_only := h.metadata_only
  messages := by simpa [Db.applyOperation, Db.setFamily, hmessages] using h.messages
  messages_only := h.messages_only
  objects other := by
    simp only [Db.applyOperation, Db.setFamily, Db.family, SortedMap.get_put]
    by_cases hother : other = key
    · subst hother
      simpa [hkey, StoredAs] using hpayload
    · have hbytes : other.bytes ≠ key.bytes := fun heq => hother (ObjectsKey.bytes_injective heq)
      rw [if_neg hbytes, hframe other hother]
      exact h.objects other
  objects_only bytes hbytes := by
    simp only [Db.applyOperation, Db.setFamily, Db.family, SortedMap.get_put] at hbytes
    by_cases heq : bytes = key.bytes
    · exact ⟨key, heq⟩
    · exact h.objects_only bytes (by simpa [heq] using hbytes)

private theorem Represents.deleteObject (h : Represents ext db store) (key : ObjectsKey)
    (hkey : store'.object key = none)
    (hframe : ∀ other ≠ key, store'.object other = store.object other)
    (hmetadata : ∀ other found, store.MetadataHolds ext other found →
      store'.MetadataHolds ext other found)
    (hmessages : store'.messages = store.messages) :
    Represents ext (db.applyOperation (.delete .objects key.bytes)) store' where
  metadata other := hmetadata other _ (h.metadata other)
  metadata_only := h.metadata_only
  messages := by simpa [Db.applyOperation, Db.setFamily, hmessages] using h.messages
  messages_only := h.messages_only
  objects other := by
    simp only [Db.applyOperation, Db.setFamily, Db.family, SortedMap.get_erase]
    by_cases hother : other = key
    · subst hother
      simp [hkey, StoredAs]
    · have hbytes : other.bytes ≠ key.bytes := fun heq => hother (ObjectsKey.bytes_injective heq)
      rw [if_neg hbytes, hframe other hother]
      exact h.objects other
  objects_only bytes hbytes := by
    apply h.objects_only bytes
    intro hnone
    apply hbytes
    simp only [Db.applyOperation, Db.setFamily, Db.family, SortedMap.get_erase, hnone, ite_self]

theorem Represents.deletePreparingObject (h : Represents ext (db.write batch) store)
    (objectId : UInt64) :
    Represents ext (db.write (UnifiedStorage.deletePreparingObject batch objectId))
      (store.setPreparing objectId none) := by
  rw [UnifiedStorage.deletePreparingObject, Db.write_append, Db.write_singleton]
  refine h.deleteObject (.preparing objectId) (by simp [Store.object, Store.setPreparing]) ?_
    (fun other _ hfound => by cases other <;> exact hfound) rfl
  intro other hother
  cases other with
  | preparing value =>
      have hvalue : value ≠ objectId := fun heq => hother (by rw [heq])
      simp [Store.object, Store.setPreparing, hvalue]
  | committed value => rfl

theorem Represents.putPreparingObject (h : Represents ext (db.write batch) store)
    {object : StoredObject}
    (hset : UnifiedStorage.putPreparingObject ext batch object = .ok batch') :
    Represents ext (db.write batch') (store.setPreparing object.objectId (some object)) := by
  unfold UnifiedStorage.putPreparingObject UnifiedStorage.serializeObject at hset
  cases hpayload : ext.objectRecord.serializeToString object with
  | none => simp [hpayload] at hset
  | some payload =>
      simp only [hpayload] at hset
      obtain rfl := Except.ok.inj hset.symm
      rw [Db.write_append, Db.write_singleton]
      refine h.putObject (.preparing object.objectId) hpayload
        (by simp [Store.object, Store.setPreparing]) ?_
        (fun other _ hfound => by cases other <;> exact hfound) rfl
      intro other hother
      cases other with
      | preparing value =>
          have hvalue : value ≠ object.objectId := fun heq => hother (by rw [heq])
          simp [Store.object, Store.setPreparing, hvalue]
      | committed value => rfl

theorem Represents.putCommittedObject (h : Represents ext (db.write batch) store)
    {object : StoredObject}
    (hset : UnifiedStorage.putCommittedObject ext batch object = .ok batch') :
    Represents ext (db.write batch')
      ((store.setPreparing object.objectId none).setCommitted object.objectId (some object)) := by
  have hdeleted := h.deletePreparingObject object.objectId
  unfold UnifiedStorage.putCommittedObject UnifiedStorage.serializeObject at hset
  cases hpayload : ext.objectRecord.serializeToString object with
  | none => simp [hpayload] at hset
  | some payload =>
      simp only [hpayload] at hset
      obtain rfl := Except.ok.inj hset.symm
      rw [List.append_cons, Db.write_append, Db.write_singleton]
      refine hdeleted.putObject (.committed object.objectId) hpayload
        (by simp [Store.object, Store.setCommitted]) ?_
        (fun other _ hfound => by cases other <;> exact hfound) rfl
      intro other hother
      cases other with
      | preparing value => rfl
      | committed value =>
          have hvalue : value ≠ object.objectId := fun heq => hother (by rw [heq])
          simp [Store.object, Store.setCommitted, hvalue]

end OpenEvent
