import OpenEvent.Core.Reads
import OpenEvent.ObjectFiles
import OpenEvent.Refinement.Mutations

/-!
What the readers of objects find: records of committed objects only, and the
bytes of a file that is there.
-/

namespace OpenEvent

open OpenEventCore ObjectFileStore Fallible

variable {ext : Externals} {db : Db} {store : Store} {faults : ReadFaults}
variable {objectId : UInt64} {object : StoredObject} {token : String}

/-! ### Records -/

theorem loadAuthorizedObject_ok (hdb : Represents ext db store) (hvalid : store.Valid ext)
    (h : loadAuthorizedObject ext db faults objectId token = .ok object) :
    store.committed objectId = some object ∧ object.objectToken = token := by
  unfold loadAuthorizedObject at h
  split at h
  · cases h
  · obtain ⟨found, hfound, h⟩ := bind_ok h
    have hread := (hdb.reads_getCommittedObject hvalid objectId).of_ok (latching_ok hfound)
    cases found with
    | none => cases h
    | some stored =>
        dsimp only at h
        split at h
        · rename_i hequal
          obtain rfl := Except.ok.inj h
          exact ⟨hread.symm, (constantTimeEquals_iff _ _).mp hequal⟩
        · cases h

theorem loadAuthorizedObject_committed (hdb : Represents ext db store) (hvalid : store.Valid ext)
    (h : store.committed objectId = some object) :
    loadAuthorizedObject ext db {} objectId object.objectToken = .ok object := by
  have hobject : ObjectValid objectId object := hvalid.object (.committed objectId) object h
  have hread : UnifiedStorage.getCommittedObject ext db {} objectId = .ok _ :=
    (hdb.reads_getCommittedObject hvalid objectId).eq_ok
  have htoken : object.objectToken.isEmpty = false := by
    by_contra hempty
    have hnone : object.objectToken = "" := String.isEmpty_iff.mp (by simpa using hempty)
    have hshape := hobject.token
    rw [hnone] at hshape
    exact absurd hshape (by decide)
  have hequal : constantTimeEquals object.objectToken object.objectToken = true :=
    (constantTimeEquals_iff _ _).mpr rfl
  simp only [loadAuthorizedObject, hobject.objectId_ne, htoken, Bool.false_eq_true, or_self,
    if_false, hread, h, latching, ok_bind, hequal, if_true]
  rfl

/-- No reader accepts an id without a COMMITTED record, whatever the token. -/
structure NotReadable (ext : Externals) (db : Db) (objectId : UInt64) : Prop where
  metadata : ∀ fatalError faults token data,
    getObjectMetadata ext fatalError db faults ⟨objectId, token⟩ ≠ .ok data
  batch : ∀ fatalError faults (objectKeys : List ObjectKey) data,
    (∃ key ∈ objectKeys, key.objectId = objectId) →
    batchGetObjectMetadata ext fatalError db faults objectKeys ≠ .ok data
  read : ∀ fatalError faults dir io (request : ReadObjectRequest) data,
    request.objectId = objectId →
    readObject ext fatalError db faults dir io request ≠ some (.ok data)
  publish : ∀ config env tsMs (request : PublishRequest) built,
    (∃ key ∈ request.objectKeys, key.objectId = objectId) →
    publishBatch ext config db env request tsMs ≠ .ok built
  publishAutoSeq : ∀ config env tsMs (request : PublishAutoSeqRequest) built,
    (∃ key ∈ request.objectKeys, key.objectId = objectId) →
    publishAutoSeqBatch ext config db env request tsMs ≠ .ok built

private theorem batchMetadataLoop_ok (hdb : Represents ext db store) (hvalid : store.Valid ext)
    {objectKeys : List ObjectKey} {data : List ObjectMetadata}
    (h : batchMetadataLoop ext db faults objectKeys = .ok data) :
    ∀ key ∈ objectKeys, store.committed key.objectId ≠ none := by
  induction objectKeys generalizing data with
  | nil => simp
  | cons first rest ih =>
      obtain ⟨found, hfound, h⟩ := bind_ok h
      obtain ⟨staged, hstaged, _⟩ := bind_ok h
      intro key hkey
      rcases List.mem_cons.mp hkey with rfl | hrest
      · simp [(loadAuthorizedObject_ok hdb hvalid hfound).1]
      · exact ih hstaged key hrest

private theorem buildPublishBatch_keys (hdb : Represents ext db store) (hvalid : store.Valid ext)
    {principal channelId seq uuid tsMs : UInt64} {recipients : List UInt64} {payload : Bytes}
    {objectKeys : List ObjectKey} {batch : WriteBatch}
    (h : buildPublishBatch ext db faults principal channelId seq uuid recipients payload objectKeys
      tsMs = .ok batch) : ∀ key ∈ objectKeys, store.committed key.objectId ≠ none := by
  unfold buildPublishBatch at h
  obtain ⟨_, h⟩ := guard_ok h
  obtain ⟨found, _, h⟩ := bind_ok h
  cases found with
  | none => cases h
  | some channel =>
      dsimp only at h
      obtain ⟨_, h⟩ := guard_ok h
      obtain ⟨_, _, h⟩ := bind_ok h
      obtain ⟨objects, hobjects, h⟩ := bind_ok h
      obtain rfl := (hdb.reads_getCommittedObjects hvalid _).of_ok (latching_ok hobjects)
      obtain ⟨hkeys, _⟩ := guard_ok h
      intro key hkey
      obtain ⟨object, hobject, _⟩ := objectKeys_ok hkeys key hkey
      simp [hobject]

theorem notReadable_of_not_committed (hdb : Represents ext db store) (hvalid : store.Valid ext)
    (h : store.committed objectId = none) : NotReadable ext db objectId where
  metadata fatalError faults token data hok := by
    unfold getObjectMetadata at hok
    obtain ⟨_, _, hok⟩ := bind_ok hok
    obtain ⟨snapshot, hsnapshot, hok⟩ := bind_ok hok
    obtain rfl := createSnapshot_ok hsnapshot
    obtain ⟨object, hobject, _⟩ := bind_ok hok
    have hcommitted := (loadAuthorizedObject_ok hdb hvalid hobject).1
    rw [h] at hcommitted
    cases hcommitted
  batch fatalError faults objectKeys data hkey hok := by
    unfold batchGetObjectMetadata at hok
    obtain ⟨_, _, hok⟩ := bind_ok hok
    obtain ⟨_, hok⟩ := guard_ok hok
    obtain ⟨_, _, hok⟩ := bind_ok hok
    obtain ⟨snapshot, hsnapshot, hok⟩ := bind_ok hok
    obtain rfl := createSnapshot_ok hsnapshot
    obtain ⟨key, hmember, rfl⟩ := hkey
    exact batchMetadataLoop_ok hdb hvalid hok key hmember h
  read fatalError faults dir io request data hid hok := by
    subst hid
    cases hrecord : readObjectRecord ext fatalError db faults request with
    | error exit => simp [readObject, hrecord] at hok
    | ok object =>
        unfold readObjectRecord at hrecord
        obtain ⟨_, _, hrecord⟩ := bind_ok hrecord
        obtain ⟨_, hrecord⟩ := guard_ok hrecord
        obtain ⟨snapshot, hsnapshot, hrecord⟩ := bind_ok hrecord
        obtain rfl := createSnapshot_ok hsnapshot
        have hcommitted := (loadAuthorizedObject_ok hdb hvalid hrecord).1
        rw [h] at hcommitted
        cases hcommitted
  publish config env tsMs request built hkey hok := by
    unfold publishBatch at hok
    obtain ⟨_, _, hok⟩ := bind_ok hok
    obtain ⟨snapshot, hsnapshot, hok⟩ := bind_ok hok
    obtain rfl := createSnapshot_ok hsnapshot
    obtain ⟨_, _, hok⟩ := bind_ok hok
    obtain ⟨_, _, hok⟩ := bind_ok hok
    obtain ⟨_, _, hok⟩ := bind_ok hok
    obtain ⟨_, _, hok⟩ := bind_ok hok
    obtain ⟨_, _, hok⟩ := bind_ok hok
    obtain ⟨_, hok⟩ := guard_ok hok
    obtain ⟨batch, hbatch, _⟩ := bind_ok hok
    obtain ⟨key, hmember, rfl⟩ := hkey
    exact buildPublishBatch_keys hdb hvalid hbatch key hmember h
  publishAutoSeq config env tsMs request built hkey hok := by
    unfold publishAutoSeqBatch at hok
    obtain ⟨_, _, hok⟩ := bind_ok hok
    obtain ⟨snapshot, hsnapshot, hok⟩ := bind_ok hok
    obtain rfl := createSnapshot_ok hsnapshot
    obtain ⟨_, _, hok⟩ := bind_ok hok
    obtain ⟨_, _, hok⟩ := bind_ok hok
    obtain ⟨_, _, hok⟩ := bind_ok hok
    obtain ⟨_, _, hok⟩ := bind_ok hok
    obtain ⟨_, _, hok⟩ := bind_ok hok
    obtain ⟨batch, hbatch, _⟩ := bind_ok hok
    obtain ⟨key, hmember, rfl⟩ := hkey
    exact buildPublishBatch_keys hdb hvalid hbatch key hmember h

/-! ### Files -/

/-- No system call of the read fails, interrupted ones apart. -/
structure ObjectFileStore.ReadIo.NoErrors (io : ReadIo) : Prop where
  opens : firstOpen io.opens = some .success
  fstat : io.fstat = .success
  preads : ∀ outcome ∈ io.preads, outcome = .failed .eintr ∨ ∃ count, outcome = .transferred count
  close : io.close = .success

/-- A completed read loop without errors has read the bytes that are there. -/
theorem preadLoop_ok {name : String} {file : Bytes} {offset count : Nat}
    (hcount : offset + count ≤ file.length) {outcomes : List SyscallOutcome} {data : Bytes}
    (houtcomes : ∀ outcome ∈ outcomes, outcome = .failed .eintr ∨
      ∃ count, outcome = .transferred count)
    (hdata : data = (file.drop offset).take data.length) (hle : data.length ≤ count)
    {result : Result Bytes} (h : preadLoop name file offset count outcomes data = some result) :
    result = .ok ((file.drop offset).take count) := by
  induction outcomes generalizing data with
  | nil =>
      unfold preadLoop at h
      split at h
      · obtain rfl := Option.some.inj h
        rw [hdata, show data.length = count by omega]
      · cases h
  | cons outcome rest ih =>
      unfold preadLoop at h
      split at h
      · obtain rfl := Option.some.inj h
        rw [hdata, show data.length = count by omega]
      · have hrest : ∀ other ∈ rest, other = .failed .eintr ∨ ∃ count, other = .transferred count :=
          fun other hother => houtcomes other (List.mem_cons_of_mem _ hother)
        rcases houtcomes outcome (by simp) with rfl | ⟨got, rfl⟩
        · simp only [if_true] at h
          exact ih hrest hdata hle h
        · dsimp only at h
          split at h
          · split at h
            · omega
            · cases h
          · split at h
            · rename_i hchunk
              refine ih hrest ?_ ?_ h
              · rw [List.length_append, hchunk, List.take_add, ← hdata, List.drop_drop]
                congr 1
                rw [List.take_take]
                congr 1
                simp only [List.length_take, List.length_drop] at hchunk
                omega
              · rw [List.length_append, hchunk]
                simp only [List.length_take] at hchunk
                omega
            · cases h

/-- The loop ends when the first call delivers everything. -/
theorem preadLoop_whole {name : String} {file : Bytes} {offset count : Nat}
    (hcount : offset + count ≤ file.length) :
    preadLoop name file offset count [.transferred count] [] =
      some (.ok ((file.drop offset).take count)) := by
  by_cases hzero : count = 0
  · subst hzero
    simp [preadLoop]
  · have hlength : ((file.drop offset).take count).length = count := by
      rw [List.length_take, List.length_drop]
      omega
    simp [preadLoop, hzero, hlength]

/-- The read of a range of an object whose file is there. -/
def rangeOf (data : Bytes) (offset nbytes : UInt64) : Bytes :=
  (data.drop offset.toNat).take nbytes.toNat

section ReadRange

variable {dir : ObjectDirectory} {owner : Nat → UInt64} {inode : Nat} {data : Bytes}
variable {offset nbytes : UInt64}

private theorem take_min_drop (hsize : object.nbytes.toNat = data.length)
    (hoffset : offset ≤ object.nbytes) :
    (data.drop offset.toNat).take (min nbytes.toNat (object.nbytes - offset).toNat) =
      rangeOf data offset nbytes := by
  rw [rangeOf, UInt64.toNat_sub_of_le _ _ hoffset, hsize]
  rcases Nat.le_total nbytes.toNat (data.length - offset.toNat) with hle | hle
  · rw [min_eq_left hle]
  · rw [min_eq_right hle, List.take_of_length_le (by simp),
      List.take_of_length_le (by simpa using hle)]

/-- `ReadRange` on a durable file, up to its read loop. -/
private theorem readRange_durable (hobject : ObjectValid objectId object)
    (hdurable : Durable dir owner objectId inode data) (hregular : OnlyRegular dir)
    (hsize : object.nbytes.toNat = data.length) (hoffset : offset ≤ object.nbytes)
    (hnbytes : nbytes ≠ 0) {io : ReadIo} (hio : io.NoErrors) :
    readRange dir objectId object.nbytes offset nbytes io =
      (preadLoop (finalName objectId) data offset.toNat
        (min nbytes.toNat (object.nbytes - offset).toNat) io.preads []) := by
  have hmetadata : ¬ (objectId = 0 ∨ object.nbytes = 0 ∨ object.nbytes.toNat > kMaxObjectBytes) := by
    rintro (hzero | hzero | hlarge)
    · exact hobject.objectId_ne hzero
    · exact hobject.nbytes_ne hzero
    · exact absurd hobject.nbytes_le (not_le.mpr hlarge)
  have hentry := hdurable.final.present
  have hbytes := hdurable.file.bytes_eq
  have hkind := hregular inode
  unfold readRange
  rw [if_neg hmetadata, if_neg hnbytes, if_neg (by simpa using hoffset)]
  simp only [hio.opens, hentry, hkind, hio.fstat, hbytes, hsize, hio.close]
  rw [if_neg (by decide), if_neg (by simp)]
  cases preadLoop (finalName objectId) data offset.toNat
      (min nbytes.toNat (object.nbytes - offset).toNat) io.preads [] with
  | none => rfl
  | some result => cases result <;> rfl

private theorem offset_add_le (hsize : object.nbytes.toNat = data.length)
    (hoffset : offset ≤ object.nbytes) :
    offset.toNat + min nbytes.toNat (object.nbytes - offset).toNat ≤ data.length := by
  rw [UInt64.toNat_sub_of_le _ _ hoffset]
  have hle := UInt64.le_iff_toNat_le.mp hoffset
  omega

/-- `ReadObject` of a committed object with its file: a completed read without
I/O errors returns the range, and some such read does complete. -/
theorem readObject_committed (hdb : Represents ext db store) (hvalid : store.Valid ext)
    (hcommitted : store.committed objectId = some object)
    (hdurable : Durable dir owner objectId inode data) (hregular : OnlyRegular dir)
    (hsize : object.nbytes.toNat = data.length) (hoffset : offset ≤ object.nbytes)
    (hnbytes : nbytes ≠ 0) :
    (∀ io result, ReadIo.NoErrors io →
      readObject ext none db {} dir io ⟨objectId, object.objectToken, offset, nbytes⟩ =
        some result → result = .ok (rangeOf data offset nbytes)) ∧
    ∃ io, ReadIo.NoErrors io ∧
      readObject ext none db {} dir io ⟨objectId, object.objectToken, offset, nbytes⟩ =
        some (.ok (rangeOf data offset nbytes)) := by
  have hobject : ObjectValid objectId object :=
    hvalid.object (.committed objectId) object hcommitted
  have hsnapshot : UnifiedStorage.createSnapshot db {} = .ok db := rfl
  have hrecord : readObjectRecord ext none db {} ⟨objectId, object.objectToken, offset, nbytes⟩ =
      .ok object := by
    simp only [readObjectRecord, ensureAvailable, plain, ok_bind, hnbytes, if_false, hsnapshot,
      loadAuthorizedObject_committed hdb hvalid hcommitted]
  have hread {io : ReadIo} (hio : io.NoErrors) :
      readObject ext none db {} dir io ⟨objectId, object.objectToken, offset, nbytes⟩ =
        (preadLoop (finalName objectId) data offset.toNat
          (min nbytes.toNat (object.nbytes - offset).toNat) io.preads []).map latching := by
    simp only [readObject, hrecord, readObjectFile]
    rw [if_neg (by simpa using hoffset), hobject.objectId_eq,
      readRange_durable hobject hdurable hregular hsize hoffset hnbytes hio]
  have hbound : offset.toNat + min nbytes.toNat (object.nbytes - offset).toNat ≤ data.length :=
    offset_add_le hsize hoffset
  refine ⟨?_, ?_⟩
  · intro io result hio hresult
    rw [hread hio, Option.map_eq_some_iff] at hresult
    obtain ⟨found, hloop, rfl⟩ := hresult
    have hfound := preadLoop_ok hbound hio.preads rfl (Nat.zero_le _) hloop
    rw [hfound, take_min_drop hsize hoffset]
    rfl
  · -- One `pread` that delivers everything at once.
    refine ⟨⟨[.success], .success,
      [.transferred (min nbytes.toNat (object.nbytes - offset).toNat)], .success⟩,
      ⟨rfl, rfl, by simp, rfl⟩, ?_⟩
    rw [hread ⟨rfl, rfl, by simp, rfl⟩, preadLoop_whole hbound, take_min_drop hsize hoffset]
    rfl

end ReadRange

end OpenEvent
