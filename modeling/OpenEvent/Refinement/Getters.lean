import OpenEvent.Store

/-!
The readers find the records of the abstract store: each returns the value of
its own field unless the database reports a fault, and never finds a record
that it takes for corrupt.
-/

namespace OpenEvent

/-- A status that one of the reads of a call may report. -/
def ReadFaults.Reports (faults : ReadFaults) (status : RocksStatus) : Prop :=
  (∃ family key, faults.get family key = some status) ∨
    ∃ family count, faults.iterator family = some (count, status)

/-- A read succeeds with a value as described, or fails with a fault that the
database reports. -/
inductive Reads {α : Type} (faults : ReadFaults) (P : α → Prop) : Result α → Prop
  | found {value : α} : P value → Reads faults P (.ok value)
  | fault {status : RocksStatus} {operation : String} :
      faults.Reports status → Reads faults P (.error (rocksToStatus status operation))
  | noSnapshot : faults.snapshot = true → Reads faults P
      (.error ((Status.fatal .unavailable "create storage snapshot failed").withStorageDiagnostic
        "create storage snapshot" "RocksDB returned no snapshot"))

namespace Reads

variable {α β : Type} {faults : ReadFaults} {P : α → Prop} {Q : β → Prop} {result : Result α}

theorem of_ok (h : Reads faults P result) {value : α} (hok : result = .ok value) : P value := by
  cases h with
  | found hvalue => cases hok; exact hvalue
  | fault _ => cases hok
  | noSnapshot _ => cases hok

theorem imp {P' : α → Prop} (h : Reads faults P result) (himp : ∀ value, P value → P' value) :
    Reads faults P' result := by
  cases h with
  | found hvalue => exact .found (himp _ hvalue)
  | fault hreport => exact .fault hreport
  | noSnapshot hsnapshot => exact .noSnapshot hsnapshot

theorem bind (h : Reads faults P result) {next : α → Result β}
    (hnext : ∀ value, P value → Reads faults Q (next value)) : Reads faults Q (result >>= next) := by
  cases h with
  | found hvalue => exact hnext _ hvalue
  | fault hreport => exact .fault hreport
  | noSnapshot hsnapshot => exact .noSnapshot hsnapshot

/-- Without corruption reports a failed read is UNAVAILABLE. -/
theorem unavailable (h : Reads faults P result) (hclean : faults.NoCorruption) {status : Status}
    (herror : result = .error status) : status.code = .unavailable := by
  cases h with
  | found _ => cases herror
  | @fault reported operation hreport =>
      cases herror
      have hflag : reported.isCorruption = false := by
        rcases hreport with ⟨family, key, hget⟩ | ⟨family, count, hiterator⟩
        · exact hclean.get family key reported hget
        · exact hclean.iterator family count reported hiterator
      simp [rocksToStatus_code, hflag]
  | noSnapshot _ => cases herror; rfl

/-- Reads that meet no fault succeed. -/
theorem ok_of_no_faults {P : α → Prop} {result : Result α} (h : Reads {} P result) :
    ∃ value, result = .ok value ∧ P value := by
  cases h with
  | found hvalue => exact ⟨_, rfl, hvalue⟩
  | fault hreport => rcases hreport with ⟨_, _, h⟩ | ⟨_, _, h⟩ <;> cases h
  | noSnapshot hsnapshot => cases hsnapshot

theorem eq_ok {value : α} {result : Result α} (h : Reads {} (· = value) result) :
    result = .ok value := by
  obtain ⟨found, hfound, rfl⟩ := h.ok_of_no_faults
  exact hfound

end Reads

section Point

variable {ext : Externals} {db : Db} {store : Store} {faults : ReadFaults}

theorem reads_createSnapshot (db : Db) (faults : ReadFaults) :
    Reads faults (· = db) (UnifiedStorage.createSnapshot db faults) := by
  unfold UnifiedStorage.createSnapshot
  split
  · exact .noSnapshot ‹_›
  · exact .found rfl

/-- A point read is a fault or the entry of the table. -/
theorem Db.get_cases (db : Db) (faults : ReadFaults) (family : ColumnFamily) (key : Bytes) :
    (∃ status, db.get faults family key = .error status ∧ faults.Reports status) ∨
      db.get faults family key = .ok ((db.family family).get key) := by
  unfold Db.get
  cases hfault : faults.get family key with
  | some status => exact Or.inl ⟨status, rfl, Or.inl ⟨family, key, hfault⟩⟩
  | none => exact Or.inr rfl

theorem decodeRequiredUint64_encode (value : UInt64) (description : String) :
    decodeRequiredUint64 (encodeUint64 value) description = .ok value := by
  simp [decodeRequiredUint64]

private theorem reads_getRequiredUint64 {key : String} {value : UInt64}
    (h : db.metadata.get (Bytes.ofString key) = some (encodeUint64 value)) :
    Reads faults (· = value) (UnifiedStorage.getRequiredUint64 db faults key) := by
  unfold UnifiedStorage.getRequiredUint64
  rcases db.get_cases faults .metadata (Bytes.ofString key) with ⟨status, hget, hreport⟩ | hget
  · simp only [hget]
    exact .fault hreport
  · have hentry : (db.family .metadata).get (Bytes.ofString key) = some (encodeUint64 value) := h
    simp only [hget, hentry, decodeRequiredUint64_encode]
    exact .found rfl

theorem Represents.reads_getSchemaVersion (h : Represents ext db store) :
    Reads faults (· = kSchemaVersion)
      (UnifiedStorage.getRequiredUint64 db faults kSchemaVersionKey) :=
  reads_getRequiredUint64 (h.metadata .schemaVersion)

theorem Represents.reads_getMaxSeq (h : Represents ext db store) :
    Reads faults (· = store.maxSeq) (UnifiedStorage.getMaxSeq db faults) :=
  reads_getRequiredUint64 (h.metadata .maxSeq)

theorem Represents.reads_getNextUuid (h : Represents ext db store) :
    Reads faults (· = store.nextUuid) (UnifiedStorage.getNextUuid db faults) :=
  reads_getRequiredUint64 (h.metadata .nextUuid)

theorem Represents.reads_getNextChannelId (h : Represents ext db store) :
    Reads faults (· = store.nextChannelId) (UnifiedStorage.getNextChannelId db faults) :=
  reads_getRequiredUint64 (h.metadata .nextChannelId)

theorem Represents.reads_getNextObjectId (h : Represents ext db store) :
    Reads faults (· = store.nextObjectId) (UnifiedStorage.getNextObjectId db faults) :=
  reads_getRequiredUint64 (h.metadata .nextObjectId)

theorem Represents.reads_getUsedUuidSeq (h : Represents ext db store) (hvalid : store.Valid ext)
    (uuid : UInt64) :
    Reads faults (· = store.usedUuids uuid) (UnifiedStorage.getUsedUuidSeq db faults uuid) := by
  unfold UnifiedStorage.getUsedUuidSeq
  rcases db.get_cases faults .metadata (numericKey kUuidPrefix uuid) with
    ⟨status, hget, hreport⟩ | hget
  · simp only [hget]
    exact .fault hreport
  · have hentry : (db.family .metadata).get (numericKey kUuidPrefix uuid) =
        (store.usedUuids uuid).map encodeUint64 := h.metadata (.uuid uuid)
    simp only [hget, hentry]
    cases hused : store.usedUuids uuid with
    | none => exact .found rfl
    | some seq =>
        have hzero := hvalid.uuid uuid seq hused
        have hguard : ((uuid == 0) != (seq == 0)) = false := by
          by_cases huuid : uuid = 0
          · simp [huuid, hzero.mp huuid]
          · have hseq : seq ≠ 0 := fun heq => huuid (hzero.mpr heq)
            simp [huuid, hseq]
        simp only [Option.map_some, decodeRequiredUint64_encode]
        refine .bind (.found rfl) ?_
        rintro _ rfl
        simp only [hguard]
        exact .found rfl

theorem Represents.reads_hasToken (h : Represents ext db store) (principal : UInt64)
    (token : Bytes) :
    Reads faults (· = store.tokens principal token)
      (UnifiedStorage.hasToken db faults principal token) := by
  unfold UnifiedStorage.hasToken
  rcases db.get_cases faults .metadata (tokenKey principal token) with ⟨status, hget, hreport⟩ | hget
  · simp only [hget]
    exact .fault hreport
  · have hentry : (db.family .metadata).get (tokenKey principal token) =
        if store.tokens principal token then some [] else none :=
      h.metadata (.token principal token)
    simp only [hget, hentry]
    cases htoken : store.tokens principal token with
    | true => exact .found rfl
    | false => exact .found rfl

theorem StoredAs.cases {α : Type} {codec : ProtoCodec α} {value : Option Bytes}
    {record : Option α} (h : StoredAs codec value record) :
    (value = none ∧ record = none) ∨ ∃ bytes message, value = some bytes ∧
      record = some message ∧ codec.parseFromString bytes = some message := by
  cases value with
  | none =>
      cases record with
      | none => exact Or.inl ⟨rfl, rfl⟩
      | some message => exact absurd h id
  | some bytes =>
      cases record with
      | none => exact absurd h id
      | some message => exact Or.inr ⟨bytes, message, rfl, rfl, codec.parse_serialize _ _ h⟩

/-- A record is stored exactly for the values that the store has. -/
theorem StoredAs.eq_none_iff {α : Type} {codec : ProtoCodec α} {value : Option Bytes}
    {record : Option α} (h : StoredAs codec value record) : value = none ↔ record = none := by
  rcases h.cases with ⟨rfl, rfl⟩ | ⟨bytes, message, rfl, rfl, _⟩
  · simp
  · simp

theorem Store.Valid.parseChannel (hvalid : store.Valid ext) {channelId : UInt64}
    {channel : ChannelInfo} (hchannel : store.channels channelId = some channel) {bytes : Bytes}
    (hparse : ext.channelInfo.parseFromString bytes = some channel) (operation : String) :
    UnifiedStorage.parseChannel ext bytes channelId operation = .ok channel := by
  obtain ⟨hid, hstored⟩ := hvalid.channel channelId channel hchannel
  simp [UnifiedStorage.parseChannel, hparse, hid, hstored]

theorem Represents.reads_getChannel (h : Represents ext db store) (hvalid : store.Valid ext)
    (channelId : UInt64) :
    Reads faults (· = store.channels channelId)
      (UnifiedStorage.getChannel ext db faults channelId) := by
  unfold UnifiedStorage.getChannel
  rcases db.get_cases faults .metadata (numericKey kChannelPrefix channelId) with
    ⟨status, hget, hreport⟩ | hget
  · simp only [hget]
    exact .fault hreport
  · have hentry : StoredAs ext.channelInfo
        ((db.family .metadata).get (numericKey kChannelPrefix channelId))
        (store.channels channelId) := h.metadata (.channel channelId)
    simp only [hget]
    rcases hentry.cases with ⟨hnone, hrecord⟩ | ⟨bytes, channel, hsome, hrecord, hparse⟩
    · simp only [hnone, hrecord]
      exact .found rfl
    · simp only [hsome, hrecord, hvalid.parseChannel hrecord hparse]
      exact .found rfl

theorem parseObject_ok {bytes : Bytes} {objectId : UInt64} {object : StoredObject}
    (hvalid : ObjectValid objectId object)
    (hparse : ext.objectRecord.parseFromString bytes = some object) :
    parseObject ext bytes objectId = .ok object := by
  obtain ⟨hid, hne, htoken, hcreator, hname, hnameLe, htype, htypeLe, hdescription, hzero, hle⟩ :=
    hvalid
  simp only [parseObject, hparse]
  rw [if_neg]
  simp [hid, hne, htoken, hcreator, hname, htype, hzero, not_lt.mpr hnameLe, not_lt.mpr htypeLe,
    not_lt.mpr hdescription, not_lt.mpr hle]

theorem parseObject_objectId {bytes : Bytes} {objectId : UInt64} {object : StoredObject}
    (h : parseObject ext bytes objectId = .ok object) : object.objectId = objectId := by
  unfold parseObject at h
  split at h
  · cases h
  · split at h
    · cases h
    · rename_i hchecks
      obtain rfl := Except.ok.inj h
      exact not_not.mp (fun hid => hchecks (Or.inl hid))

/-- A lookup fails when its read fails; otherwise it finds what is stored. -/
theorem getCommittedObject_faults (db : Db) (faults : ReadFaults) (objectId : UInt64) :
    UnifiedStorage.getCommittedObject ext db faults objectId =
      match faults.get .objects (numericKey kCommittedObjectPrefix objectId) with
      | some status => .error (rocksToStatus status "read object metadata")
      | none => UnifiedStorage.getCommittedObject ext db {} objectId := by
  rw [UnifiedStorage.getCommittedObject, UnifiedStorage.getCommittedObject,
    UnifiedStorage.getObject, UnifiedStorage.getObject, Db.get, Db.get]
  cases faults.get .objects (numericKey kCommittedObjectPrefix objectId) with
  | none => rfl
  | some status => rfl

/-- The object readers, for both prefixes. -/
private theorem reads_getObject (h : Represents ext db store) (hvalid : store.Valid ext)
    (key : ObjectsKey) {keyPrefix : String} (hkey : numericKey keyPrefix key.objectId = key.bytes) :
    Reads faults (· = store.object key)
      (UnifiedStorage.getObject ext db faults keyPrefix key.objectId) := by
  unfold UnifiedStorage.getObject
  rw [hkey]
  rcases db.get_cases faults .objects key.bytes with ⟨status, hget, hreport⟩ | hget
  · simp only [hget]
    exact .fault hreport
  · have hentry : StoredAs ext.objectRecord ((db.family .objects).get key.bytes)
        (store.object key) := h.objects key
    simp only [hget]
    rcases hentry.cases with ⟨hnone, hrecord⟩ | ⟨bytes, object, hsome, hrecord, hparse⟩
    · simp only [hnone, hrecord]
      exact .found rfl
    · simp only [hsome, hrecord, parseObject_ok (hvalid.object key object hrecord) hparse]
      exact .found rfl

theorem Represents.reads_getPreparingObject (h : Represents ext db store)
    (hvalid : store.Valid ext) (objectId : UInt64) :
    Reads faults (· = store.preparing objectId)
      (UnifiedStorage.getPreparingObject ext db faults objectId) :=
  reads_getObject h hvalid (.preparing objectId) rfl

theorem Represents.reads_getCommittedObject (h : Represents ext db store)
    (hvalid : store.Valid ext) (objectId : UInt64) :
    Reads faults (· = store.committed objectId)
      (UnifiedStorage.getCommittedObject ext db faults objectId) :=
  reads_getObject h hvalid (.committed objectId) rfl

theorem Represents.reads_getCommittedObjects (h : Represents ext db store)
    (hvalid : store.Valid ext) (objectIds : List UInt64) :
    Reads faults (· = objectIds.map store.committed)
      (UnifiedStorage.getCommittedObjects ext db faults objectIds) := by
  induction objectIds with
  | nil => exact .found rfl
  | cons objectId rest ih =>
      refine (h.reads_getCommittedObject hvalid objectId).bind ?_
      rintro _ rfl
      refine ih.bind ?_
      rintro _ rfl
      exact .found rfl

end Point

/-! ### What the database shows of its store -/

namespace Db

/-- The message stored under a seq. -/
def message (ext : Externals) (db : Db) (seq : UInt64) : Option EventMessage :=
  (db.messages.get (numericKey kMessagePrefix seq)).bind ext.eventMessage.parseFromString

/-- The messages of the log in key order. -/
def log (ext : Externals) (db : Db) : List EventMessage :=
  db.messages.entries.filterMap (fun entry => ext.eventMessage.parseFromString entry.2)

def channel (ext : Externals) (db : Db) (channelId : UInt64) : Option ChannelInfo :=
  (db.metadata.get (numericKey kChannelPrefix channelId)).bind ext.channelInfo.parseFromString

def preparingObject (ext : Externals) (db : Db) (objectId : UInt64) : Option StoredObject :=
  (db.objects.get (numericKey kPreparingObjectPrefix objectId)).bind
    ext.objectRecord.parseFromString

def committedObject (ext : Externals) (db : Db) (objectId : UInt64) : Option StoredObject :=
  (db.objects.get (numericKey kCommittedObjectPrefix objectId)).bind
    ext.objectRecord.parseFromString

/-- The used-uuid index maps `uuid` to `seq`. -/
def MapsUuid (db : Db) (uuid seq : UInt64) : Prop :=
  db.metadata.get (numericKey kUuidPrefix uuid) = some (encodeUint64 seq)

/-- A credential record for the pair. -/
def HasCredential (db : Db) (principal : UInt64) (token : Bytes) : Prop :=
  db.metadata.get (tokenKey principal token) ≠ none

end Db

section Views

variable {ext : Externals} {db : Db} {store : Store}

private theorem StoredAs.parse_eq {α : Type} {codec : ProtoCodec α} {value : Option Bytes}
    {record : Option α} (h : StoredAs codec value record) :
    value.bind codec.parseFromString = record := by
  rcases h.cases with ⟨rfl, rfl⟩ | ⟨bytes, message, rfl, rfl, hparse⟩
  · rfl
  · simpa using hparse

theorem Represents.message_eq (h : Represents ext db store) (seq : UInt64) :
    db.message ext seq = store.messages seq :=
  (h.messages seq).parse_eq

theorem Represents.channel_eq (h : Represents ext db store) (channelId : UInt64) :
    db.channel ext channelId = store.channels channelId :=
  StoredAs.parse_eq (h.metadata (.channel channelId))

theorem Represents.preparingObject_eq (h : Represents ext db store) (objectId : UInt64) :
    db.preparingObject ext objectId = store.preparing objectId :=
  (h.objects (.preparing objectId)).parse_eq

theorem Represents.committedObject_eq (h : Represents ext db store) (objectId : UInt64) :
    db.committedObject ext objectId = store.committed objectId :=
  (h.objects (.committed objectId)).parse_eq

theorem Represents.mapsUuid_iff (h : Represents ext db store) (uuid seq : UInt64) :
    db.MapsUuid uuid seq ↔ store.usedUuids uuid = some seq := by
  have hentry : db.metadata.get (numericKey kUuidPrefix uuid) =
      (store.usedUuids uuid).map encodeUint64 := h.metadata (.uuid uuid)
  rw [Db.MapsUuid, hentry]
  cases store.usedUuids uuid <;> simp

theorem Represents.hasCredential_iff (h : Represents ext db store) (principal : UInt64)
    (token : Bytes) : db.HasCredential principal token ↔ store.tokens principal token = true := by
  have hentry : db.metadata.get (tokenKey principal token) =
      if store.tokens principal token then some [] else none := h.metadata (.token principal token)
  rw [Db.HasCredential, hentry]
  cases store.tokens principal token <;> simp

/-- A database represents at most one store. -/
theorem Represents.unique {store' : Store} (h : Represents ext db store)
    (h' : Represents ext db store') : store = store' := by
  have hcounter (name : String) {value value' : UInt64}
      (hvalue : db.metadata.get (Bytes.ofString name) = some (encodeUint64 value))
      (hvalue' : db.metadata.get (Bytes.ofString name) = some (encodeUint64 value')) :
      value = value' :=
    encodeUint64_injective (Option.some.inj (hvalue.symm.trans hvalue'))
  have htokens (principal : UInt64) (token : Bytes) :
      store.tokens principal token = store'.tokens principal token := by
    rw [Bool.eq_iff_iff, ← h.hasCredential_iff, h'.hasCredential_iff]
  have huuids (uuid : UInt64) : store.usedUuids uuid = store'.usedUuids uuid := by
    apply Option.ext
    intro seq
    rw [← h.mapsUuid_iff, h'.mapsUuid_iff]
  cases store
  cases store'
  congr 1
  · exact hcounter kMaxSeqKey (h.metadata .maxSeq) (h'.metadata .maxSeq)
  · exact hcounter kNextUuidKey (h.metadata .nextUuid) (h'.metadata .nextUuid)
  · exact hcounter kNextChannelIdKey (h.metadata .nextChannelId) (h'.metadata .nextChannelId)
  · exact hcounter kNextObjectIdKey (h.metadata .nextObjectId) (h'.metadata .nextObjectId)
  · exact funext (fun seq => (h.message_eq seq).symm.trans (h'.message_eq seq))
  · exact funext huuids
  · exact funext (fun channelId => (h.channel_eq channelId).symm.trans (h'.channel_eq channelId))
  · exact funext (fun principal => funext (htokens principal))
  · exact funext (fun objectId => (h.preparingObject_eq objectId).symm.trans
      (h'.preparingObject_eq objectId))
  · exact funext (fun objectId => (h.committedObject_eq objectId).symm.trans
      (h'.committedObject_eq objectId))

end Views

/-! ### Iterators -/

section Iterators

variable {ext : Externals} {db : Db} {store : Store} {faults : ReadFaults}

theorem length_ofString (text : String) : (Bytes.ofString text).length = text.utf8ByteSize := rfl

theorem startsWith_numericKey (keyPrefix : String) (value : UInt64) :
    startsWith (numericKey keyPrefix value) keyPrefix = true := by
  simp [startsWith, numericKey]

theorem decodeNumericKey_numericKey (keyPrefix description : String) (value : UInt64) :
    decodeNumericKey (numericKey keyPrefix value) keyPrefix description = .ok value := by
  have hdrop : (numericKey keyPrefix value).drop keyPrefix.utf8ByteSize = encodeUint64 value := by
    rw [numericKey, ← length_ofString, List.drop_left]
  rw [decodeNumericKey, if_neg]
  · rw [hdrop, decode_encodeUint64]
  · simp [numericKey, length_ofString, startsWith]

theorem decodeNumericKey_ok {key : Bytes} {keyPrefix description : String} {value : UInt64}
    (h : decodeNumericKey key keyPrefix description = .ok value) :
    key = numericKey keyPrefix value ∧
      value = decodeUint64 (key.drop keyPrefix.utf8ByteSize) := by
  unfold decodeNumericKey at h
  split at h
  · cases h
  · rename_i hshape
    obtain rfl := Except.ok.inj h
    rw [not_or, not_not, Bool.not_eq_false] at hshape
    obtain ⟨rest, hrest⟩ := List.isPrefixOf_iff_prefix.mp hshape.2
    have hlength := hshape.1
    rw [← hrest, List.length_append, length_ofString] at hlength
    have hdrop : key.drop keyPrefix.utf8ByteSize = rest := by
      rw [← hrest, ← length_ofString, List.drop_left]
    refine ⟨?_, rfl⟩
    rw [hdrop, numericKey, encode_decodeUint64 (by omega), hrest]

theorem Db.iterate_status {family : ColumnFamily} {start : Bytes} {status : RocksStatus}
    (h : (db.iterate faults family start).2 = some status) : faults.Reports status := by
  unfold Db.iterate at h
  cases hfault : faults.iterator family with
  | none => simp [hfault] at h
  | some fault =>
      obtain ⟨count, reported⟩ := fault
      obtain rfl : reported = status := by simpa [hfault] using h
      exact Or.inr ⟨family, count, hfault⟩

theorem Db.iterate_mem {family : ColumnFamily} {start : Bytes} {entry : Bytes × Bytes}
    (h : entry ∈ (db.iterate faults family start).1) :
    entry ∈ (db.family family).seek start := by
  unfold Db.iterate at h
  split at h
  · exact List.mem_of_mem_take h
  · exact h

theorem Db.iterate_entries {family : ColumnFamily} {start : Bytes}
    (h : (db.iterate faults family start).2 = none) :
    (db.iterate faults family start).1 = (db.family family).seek start := by
  unfold Db.iterate at h ⊢
  split at h
  · simp at h
  · rfl

/-- From the `preparing/` prefix on, the objects family holds PREPARING records only. -/
theorem Represents.seek_preparing (h : Represents ext db store) {entry : Bytes × Bytes}
    (hentry : entry ∈ db.objects.seek (Bytes.ofString kPreparingObjectPrefix)) :
    ∃ objectId object, entry.1 = numericKey kPreparingObjectPrefix objectId ∧
      store.preparing objectId = some object ∧
      ext.objectRecord.parseFromString entry.2 = some object := by
  obtain ⟨hle, hget⟩ := (SortedMap.mem_seek _ _ entry.1 entry.2).mp hentry
  obtain ⟨key, hkey⟩ := h.objects_only entry.1 (by simp [hget])
  rw [hkey] at hle hget
  cases key with
  | preparing objectId =>
      rcases (h.objects (.preparing objectId)).cases with
        ⟨hnone, _⟩ | ⟨bytes, object, hsome, hrecord, hparse⟩
      · simp [hget] at hnone
      · obtain rfl : entry.2 = bytes := by simpa [hget] using hsome
        exact ⟨objectId, object, hkey, hrecord, hparse⟩
  | committed objectId =>
      -- The first byte of `object/` is below that of `preparing/`.
      have hlt : ObjectsKey.bytes (.committed objectId) < Bytes.ofString kPreparingObjectPrefix :=
        List.Lex.rel (by decide : (0x6f : UInt8) < 0x70)
      exact absurd hle (not_le.mpr hlt)

private theorem reads_listPreparingLoop (hvalid : store.Valid ext) {status : Option RocksStatus}
    (hstatus : ∀ reported, status = some reported → faults.Reports reported)
    {entries : List (Bytes × Bytes)}
    (hentries : ∀ entry ∈ entries, ∃ objectId object,
      entry.1 = numericKey kPreparingObjectPrefix objectId ∧
      store.preparing objectId = some object ∧
      ext.objectRecord.parseFromString entry.2 = some object) :
    Reads faults (fun objects => status = none ∧
        objects = entries.filterMap (fun entry => ext.objectRecord.parseFromString entry.2))
      (UnifiedStorage.listPreparingLoop ext status entries) := by
  induction entries with
  | nil =>
      cases status with
      | none => exact .found ⟨rfl, rfl⟩
      | some reported => exact .fault (hstatus reported rfl)
  | cons entry rest ih =>
      obtain ⟨objectId, object, hkey, hrecord, hparse⟩ := hentries entry (by simp)
      rw [UnifiedStorage.listPreparingLoop, hkey, if_neg (by simp [startsWith_numericKey]),
        decodeNumericKey_numericKey]
      refine Reads.bind (.found rfl) ?_
      rintro _ rfl
      have hobject : ObjectValid objectId object := hvalid.object (.preparing objectId) object hrecord
      rw [parseObject_ok hobject hparse]
      refine Reads.bind (.found rfl) ?_
      rintro _ rfl
      refine (ih (fun other hother => hentries other (by simp [hother]))).bind ?_
      rintro objects ⟨hnone, rfl⟩
      exact .found ⟨hnone, by simp [hparse]⟩

/-- `ListPreparingObjects` lists the PREPARING records, all of them, in ascending order. -/
theorem Represents.reads_listPreparingObjects (h : Represents ext db store)
    (hvalid : store.Valid ext) :
    Reads faults (fun objects => (objects.map (·.objectId)).Pairwise (· < ·) ∧
        ∀ object : StoredObject,
          object ∈ objects ↔ store.preparing object.objectId = some object)
      (UnifiedStorage.listPreparingObjects ext db faults) := by
  have hloop : Reads faults (fun objects =>
      (db.iterate faults .objects (Bytes.ofString kPreparingObjectPrefix)).2 = none ∧
        objects = (db.iterate faults .objects (Bytes.ofString kPreparingObjectPrefix)).1.filterMap
          (fun entry => ext.objectRecord.parseFromString entry.2))
      (UnifiedStorage.listPreparingObjects ext db faults) :=
    reads_listPreparingLoop hvalid (fun _ hreported => Db.iterate_status hreported)
      (fun entry hentry => h.seek_preparing
        (Db.iterate_mem hentry : entry ∈ (db.family .objects).seek _))
  refine hloop.imp ?_
  rintro objects ⟨hnone, rfl⟩
  have hentries : (db.iterate faults .objects (Bytes.ofString kPreparingObjectPrefix)).1 =
      db.objects.seek (Bytes.ofString kPreparingObjectPrefix) := Db.iterate_entries hnone
  have hfound {entry : Bytes × Bytes} {object : StoredObject}
      (hentry : entry ∈ db.objects.seek (Bytes.ofString kPreparingObjectPrefix))
      (hparse : ext.objectRecord.parseFromString entry.2 = some object) :
      entry.1 = numericKey kPreparingObjectPrefix object.objectId ∧
        store.preparing object.objectId = some object := by
    obtain ⟨objectId, stored, hkey, hrecord, hstored⟩ := h.seek_preparing hentry
    obtain rfl : stored = object := Option.some.inj (hstored.symm.trans hparse)
    have hid : stored.objectId = objectId :=
      (hvalid.object (.preparing objectId) stored hrecord).objectId_eq
    rw [hid]
    exact ⟨hkey, hrecord⟩
  rw [hentries]
  constructor
  · rw [List.pairwise_map, List.pairwise_filterMap]
    refine (db.objects.seek_ascending _).imp_of_mem ?_
    intro first second hfirst hsecond hlt object hobject later hlater
    rw [(hfound hfirst hobject).1, (hfound hsecond hlater).1, numericKey_lt_iff] at hlt
    exact hlt
  · intro object
    rw [List.mem_filterMap]
    constructor
    · rintro ⟨entry, hentry, hparse⟩
      exact (hfound hentry hparse).2
    · intro hrecord
      rcases (h.objects (.preparing object.objectId)).cases with
        ⟨_, hnone⟩ | ⟨bytes, stored, hsome, hstored, hparse⟩
      · simp [Store.object, hrecord] at hnone
      · obtain rfl : object = stored := by simpa [Store.object, hrecord] using hstored
        refine ⟨(numericKey kPreparingObjectPrefix object.objectId, bytes), ?_, hparse⟩
        refine (SortedMap.mem_seek _ _ _ _).mpr ⟨?_, hsome⟩
        exact Bytes.le_append _ _

end Iterators

end OpenEvent
