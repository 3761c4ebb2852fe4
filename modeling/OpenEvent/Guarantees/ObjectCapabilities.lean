import OpenEvent.Core.Reads
import OpenEvent.Reachable
import OpenEvent.Reference

/-!
Object capabilities cannot be probed: without the token of a committed object,
no operation tells whether the object exists, is being written, or is committed
under another token.
-/

namespace OpenEvent

open OpenEventCore Fallible

/-- The database holds the object of the key, COMMITTED and with the key's token. -/
def Db.HoldsObject (ext : Externals) (db : Db) (key : ObjectKey) (object : StoredObject) : Prop :=
  UnifiedStorage.getCommittedObject ext db {} key.objectId = .ok (some object) ∧
    object.objectToken = key.objectToken

/-- What a reader of a file finds under its name. -/
def ObjectDirectory.file (dir : ObjectDirectory) (name : String) : Option (FileKind × Bytes) :=
  (dir.entries name).map (fun inode => ((dir.inodes inode).kind, (dir.inodes inode).bytes))

/-- The states agree on everything but objects, all COMMITTED records are valid,
and for each of the keys both hold the same object under its token or neither
holds one. Records under other tokens, PREPARING records and files of objects
that are not held may differ in any way. -/
structure AgreeOutsideObjects (ext : Externals) (keys : List ObjectKey) (left right : Db)
    (leftDir rightDir : ObjectDirectory) : Prop where
  metadata : left.metadata = right.metadata
  messages : left.messages = right.messages
  left_valid : ∀ objectId, ∃ found,
    UnifiedStorage.getCommittedObject ext left {} objectId = .ok found
  right_valid : ∀ objectId, ∃ found,
    UnifiedStorage.getCommittedObject ext right {} objectId = .ok found
  held : ∀ key ∈ keys,
    (∃ object other, left.HoldsObject ext key object ∧ right.HoldsObject ext key other ∧
      object.metadata = other.metadata ∧
      leftDir.file (finalName key.objectId) =
        rightDir.file (finalName key.objectId)) ∨
    (∀ object, ¬ left.HoldsObject ext key object) ∧ ∀ object, ¬ right.HoldsObject ext key object

section Lookups

variable {ext : Externals} {keys : List ObjectKey} {left right : Db}
variable {leftDir rightDir : ObjectDirectory} {faults : ReadFaults}

/-- Two outcomes of the lookup of an object: the same refusal, or records of the
object that show the same, with files that read the same. -/
inductive LookupsAlike (leftDir rightDir : ObjectDirectory) (objectId : UInt64) :
    Except Exit StoredObject → Except Exit StoredObject → Prop
  | refused (exit : Exit) : LookupsAlike leftDir rightDir objectId (.error exit) (.error exit)
  | found {object other : StoredObject} : object.objectId = objectId → other.objectId = objectId →
      object.metadata = other.metadata →
      leftDir.file (finalName objectId) = rightDir.file (finalName objectId) →
      LookupsAlike leftDir rightDir objectId (.ok object) (.ok other)

theorem getCommittedObject_eq {db : Db} {objectId : UInt64} {found : Option StoredObject}
    (h : UnifiedStorage.getCommittedObject ext db {} objectId = .ok found) :
    db.committedObject ext objectId = found := by
  unfold UnifiedStorage.getCommittedObject UnifiedStorage.getObject Db.get at h
  dsimp only [Db.family] at h
  rw [Db.committedObject]
  cases hvalue : db.objects.get (numericKey kCommittedObjectPrefix objectId) with
  | none =>
      rw [hvalue] at h
      exact Except.ok.inj h
  | some value =>
      rw [hvalue] at h
      obtain ⟨object, hparsed, hobject⟩ := bind_ok h
      rw [← Except.ok.inj hobject]
      unfold parseObject at hparsed
      split at hparsed
      · cases hparsed
      · rename_i record hrecord
        split at hparsed
        · cases hparsed
        · rw [← Except.ok.inj hparsed]
          exact hrecord

theorem getCommittedObject_objectId {db : Db} {objectId : UInt64} {object : StoredObject}
    (h : UnifiedStorage.getCommittedObject ext db {} objectId = .ok (some object)) :
    object.objectId = objectId := by
  unfold UnifiedStorage.getCommittedObject UnifiedStorage.getObject at h
  split at h
  · cases h
  · cases h
  · obtain ⟨found, hparsed, hfound⟩ := bind_ok h
    obtain rfl : found = object := Option.some.inj (Except.ok.inj hfound)
    exact parseObject_objectId hparsed

/-- The decision on a lookup result that `LoadAuthorizedObject` makes. -/
private theorem loadAuthorizedObject_held {db : Db} {key : ObjectKey} {object : StoredObject}
    (hread : faults.get .objects (numericKey kCommittedObjectPrefix key.objectId) = none)
    (hkey : ¬ (key.objectId = 0 ∨ key.objectToken.isEmpty = true))
    (h : db.HoldsObject ext key object) :
    loadAuthorizedObject ext db faults key.objectId key.objectToken = .ok object := by
  obtain ⟨hfound, htoken⟩ := h
  rw [loadAuthorizedObject, if_neg hkey, getCommittedObject_faults, hread]
  dsimp only
  rw [hfound]
  exact if_pos ((constantTimeEquals_iff _ _).mpr htoken)

private theorem loadAuthorizedObject_not_held {db : Db} {key : ObjectKey}
    (hread : faults.get .objects (numericKey kCommittedObjectPrefix key.objectId) = none)
    (hkey : ¬ (key.objectId = 0 ∨ key.objectToken.isEmpty = true))
    (hvalid : ∃ found, UnifiedStorage.getCommittedObject ext db {} key.objectId = .ok found)
    (h : ∀ object, ¬ db.HoldsObject ext key object) :
    loadAuthorizedObject ext db faults key.objectId key.objectToken =
      .error { status := { code := .notFound, message := "object capability not found" } } := by
  obtain ⟨found, hfound⟩ := hvalid
  rw [loadAuthorizedObject, if_neg hkey, getCommittedObject_faults, hread]
  dsimp only
  rw [hfound]
  cases found with
  | none => rfl
  | some object =>
      refine if_neg (fun hequal => ?_)
      exact h object ⟨hfound, (constantTimeEquals_iff _ _).mp hequal⟩

theorem AgreeOutsideObjects.lookups (h : AgreeOutsideObjects ext keys left right leftDir rightDir)
    (faults : ReadFaults) {key : ObjectKey} (hmember : key ∈ keys) :
    LookupsAlike leftDir rightDir key.objectId
      (loadAuthorizedObject ext left faults key.objectId key.objectToken)
      (loadAuthorizedObject ext right faults key.objectId key.objectToken) := by
  by_cases hkey : key.objectId = 0 ∨ key.objectToken.isEmpty = true
  · rw [loadAuthorizedObject, loadAuthorizedObject, if_pos hkey, if_pos hkey]
    exact .refused _
  · cases hread : faults.get .objects (numericKey kCommittedObjectPrefix key.objectId) with
    | some status =>
        rw [loadAuthorizedObject, loadAuthorizedObject, if_neg hkey, if_neg hkey,
          getCommittedObject_faults, getCommittedObject_faults right, hread]
        exact .refused _
    | none =>
        rcases h.held key hmember with
          ⟨object, other, hleft, hright, hsame, hfile⟩ | ⟨hleft, hright⟩
        · rw [loadAuthorizedObject_held hread hkey hleft,
            loadAuthorizedObject_held hread hkey hright]
          exact .found (getCommittedObject_objectId hleft.1) (getCommittedObject_objectId hright.1)
            hsame hfile
        · rw [loadAuthorizedObject_not_held hread hkey (h.left_valid _) hleft,
            loadAuthorizedObject_not_held hread hkey (h.right_valid _) hright]
          exact .refused _

/-! ### Reads -/

/-- A call that takes its snapshot first depends on what it does with it. -/
theorem plain_snapshot_eq {α : Type} {next : Db → Except Exit α} (h : next left = next right) :
    (plain (UnifiedStorage.createSnapshot left faults) >>= next) =
      (plain (UnifiedStorage.createSnapshot right faults) >>= next) := by
  unfold UnifiedStorage.createSnapshot
  split
  · rfl
  · exact h

variable {fatalError : Option Status}

theorem AgreeOutsideObjects.getObjectMetadata_eq
    (h : AgreeOutsideObjects ext keys left right leftDir rightDir) {key : ObjectKey}
    (hmember : key ∈ keys) :
    getObjectMetadata ext fatalError left faults key =
      getObjectMetadata ext fatalError right faults key := by
  unfold getObjectMetadata
  refine bind_eq rfl (fun _ => plain_snapshot_eq ?_)
  have hlookups := h.lookups faults hmember
  revert hlookups
  generalize loadAuthorizedObject ext left faults key.objectId key.objectToken = found
  generalize loadAuthorizedObject ext right faults key.objectId key.objectToken = otherFound
  rintro (exit | ⟨_, _, hsame, _⟩)
  · rfl
  · exact congrArg Except.ok hsame

private theorem AgreeOutsideObjects.batchLoop_eq
    (h : AgreeOutsideObjects ext keys left right leftDir rightDir) {requested : List ObjectKey}
    (hmembers : ∀ key ∈ requested, key ∈ keys) :
    batchMetadataLoop ext left faults requested = batchMetadataLoop ext right faults requested := by
  induction requested with
  | nil => rfl
  | cons key rest ih =>
      rw [batchMetadataLoop, batchMetadataLoop,
        ih (fun other hother => hmembers other (List.mem_cons_of_mem _ hother))]
      have hlookups := h.lookups faults (hmembers key List.mem_cons_self)
      revert hlookups
      generalize loadAuthorizedObject ext left faults key.objectId key.objectToken = found
      generalize loadAuthorizedObject ext right faults key.objectId key.objectToken = otherFound
      rintro (exit | ⟨_, _, hsame, _⟩)
      · rfl
      · rw [ok_bind, ok_bind, hsame]

theorem AgreeOutsideObjects.batchGetObjectMetadata_eq
    (h : AgreeOutsideObjects ext keys left right leftDir rightDir) {requested : List ObjectKey}
    (hmembers : ∀ key ∈ requested, key ∈ keys) :
    batchGetObjectMetadata ext fatalError left faults requested =
      batchGetObjectMetadata ext fatalError right faults requested := by
  unfold batchGetObjectMetadata
  refine bind_eq rfl (fun _ => ?_)
  split
  · rfl
  · exact bind_eq rfl (fun _ => plain_snapshot_eq (h.batchLoop_eq hmembers))

/-- A range of a file is read from what stands under its name. -/
theorem readRange_eq {objectId : UInt64}
    (h : leftDir.file (finalName objectId) = rightDir.file (finalName objectId))
    (expectedSize offset nbytes : UInt64) (io : ObjectFileStore.ReadIo) :
    ObjectFileStore.readRange leftDir objectId expectedSize offset nbytes io =
      ObjectFileStore.readRange rightDir objectId expectedSize offset nbytes io := by
  unfold ObjectDirectory.file at h
  unfold ObjectFileStore.readRange
  dsimp only
  cases hleft : leftDir.entries (finalName objectId) with
  | none =>
      rw [hleft, Option.map_none, eq_comm, Option.map_eq_none_iff] at h
      rw [h]
      cases ObjectFileStore.firstOpen io.opens with
      | none => rfl
      | some outcome => cases outcome <;> simp
  | some inode =>
      rw [hleft, Option.map_some, eq_comm, Option.map_eq_some_iff] at h
      obtain ⟨other, hright, hfile⟩ := h
      obtain ⟨hkind, hbytes⟩ := Prod.mk.inj hfile
      rw [hright]
      cases ObjectFileStore.firstOpen io.opens with
      | none => rfl
      | some outcome => cases outcome <;> simp [hkind, hbytes]

theorem AgreeOutsideObjects.readObject_eq
    (h : AgreeOutsideObjects ext keys left right leftDir rightDir) (io : ObjectFileStore.ReadIo)
    {request : ReadObjectRequest} (hmember : ⟨request.objectId, request.objectToken⟩ ∈ keys) :
    readObject ext fatalError left faults leftDir io request =
      readObject ext fatalError right faults rightDir io request := by
  have hrecords : LookupsAlike leftDir rightDir request.objectId
      (readObjectRecord ext fatalError left faults request)
      (readObjectRecord ext fatalError right faults request) := by
    unfold readObjectRecord
    cases plain (ensureAvailable fatalError) with
    | error exit => exact .refused exit
    | ok _ =>
        rw [ok_bind, ok_bind]
        split
        · exact .refused _
        · unfold UnifiedStorage.createSnapshot
          split
          · exact .refused _
          · exact h.lookups faults hmember
  unfold readObject
  revert hrecords
  generalize readObjectRecord ext fatalError left faults request = found
  generalize readObjectRecord ext fatalError right faults request = otherFound
  rintro (exit | ⟨hid, hotherId, hsame, hfile⟩)
  · rfl
  · rename_i object other
    have hnbytes : object.nbytes = other.nbytes := congrArg ObjectMetadata.nbytes hsame
    dsimp only
    rw [readObjectFile, readObjectFile, hnbytes, hid, hotherId, readRange_eq hfile]

/-! ### Publishing -/

/-- The batch lookup of the publish path fails when one of its reads fails;
otherwise it finds what is stored under each id. -/
theorem getCommittedObjects_faults {db : Db}
    (hvalid : ∀ objectId, ∃ found,
      UnifiedStorage.getCommittedObject ext db {} objectId = .ok found) (objectIds : List UInt64) :
    UnifiedStorage.getCommittedObjects ext db faults objectIds =
      match objectIds.findSome? (fun objectId =>
        faults.get .objects (numericKey kCommittedObjectPrefix objectId)) with
      | some status => .error (rocksToStatus status "read object metadata")
      | none => .ok (objectIds.map (db.committedObject ext)) := by
  induction objectIds with
  | nil => rfl
  | cons objectId rest ih =>
      have hread := @getCommittedObject_faults ext db faults objectId
      rw [UnifiedStorage.getCommittedObject] at hread
      rw [UnifiedStorage.getCommittedObjects, hread, List.findSome?_cons]
      cases faults.get .objects (numericKey kCommittedObjectPrefix objectId) with
      | some status => rfl
      | none =>
          obtain ⟨found, hfound⟩ := hvalid objectId
          have hobject := getCommittedObject_eq hfound
          dsimp only
          rw [hfound, ok_bind, ih, List.map_cons, hobject]
          cases rest.findSome? (fun objectId =>
            faults.get .objects (numericKey kCommittedObjectPrefix objectId)) with
          | some status => rfl
          | none => rfl

/-- What the publish path finds wrong with a key. -/
def rejectsKey (found : Option StoredObject) (key : ObjectKey) : Bool :=
  match found with
  | none => true
  | some object => !ObjectFileStore.constantTimeEquals object.objectToken key.objectToken

theorem rejectsKey_eq_true_iff {db : Db} {key : ObjectKey}
    (hvalid : ∃ found, UnifiedStorage.getCommittedObject ext db {} key.objectId = .ok found) :
    rejectsKey (db.committedObject ext key.objectId) key = true ↔
      ∀ object, ¬ db.HoldsObject ext key object := by
  obtain ⟨found, hfound⟩ := hvalid
  rw [getCommittedObject_eq hfound]
  cases found with
  | none =>
      refine iff_of_true rfl ?_
      rintro object ⟨hother, _⟩
      rw [hfound] at hother
      cases hother
  | some object =>
      rw [rejectsKey, Bool.not_eq_true', ← Bool.not_eq_true, constantTimeEquals_iff]
      constructor
      · rintro hne other ⟨hother, htoken⟩
        obtain rfl : object = other := Option.some.inj (Except.ok.inj (hfound.symm.trans hother))
        exact hne htoken
      · exact fun hnone htoken => hnone object ⟨hfound, htoken⟩

theorem AgreeOutsideObjects.rejectsKey_eq
    (h : AgreeOutsideObjects ext keys left right leftDir rightDir) {key : ObjectKey}
    (hmember : key ∈ keys) :
    rejectsKey (left.committedObject ext key.objectId) key =
      rejectsKey (right.committedObject ext key.objectId) key := by
  rw [Bool.eq_iff_iff, rejectsKey_eq_true_iff (h.left_valid _),
    rejectsKey_eq_true_iff (h.right_valid _)]
  rcases h.held key hmember with ⟨object, other, hleft, hright, _⟩ | ⟨hleft, hright⟩
  · exact iff_of_false (fun hnone => hnone object hleft) (fun hnone => hnone other hright)
  · exact iff_of_true hleft hright

/-- The publish path rejects a key list for what is stored under each key. -/
private theorem any_lookup_eq (objectKeys : List ObjectKey)
    (stored : UInt64 → Option StoredObject) :
    objectKeys.any (fun key => rejectsKey (lookupObject (distinctObjectIds objectKeys)
        ((distinctObjectIds objectKeys).map stored) key.objectId) key) =
      objectKeys.any (fun key => rejectsKey (stored key.objectId) key) := by
  rw [Bool.eq_iff_iff, List.any_eq_true, List.any_eq_true]
  refine exists_congr (fun key => and_congr_right (fun hkey => ?_))
  rw [lookupObject_map (mem_distinctObjectIds hkey)]

theorem AgreeOutsideObjects.any_rejected_eq
    (h : AgreeOutsideObjects ext keys left right leftDir rightDir) {objectKeys : List ObjectKey}
    (hmembers : ∀ key ∈ objectKeys, key ∈ keys) :
    objectKeys.any (fun key => rejectsKey (left.committedObject ext key.objectId) key) =
      objectKeys.any (fun key => rejectsKey (right.committedObject ext key.objectId) key) := by
  rw [Bool.eq_iff_iff, List.any_eq_true, List.any_eq_true]
  refine exists_congr (fun key => and_congr_right (fun hkey => ?_))
  rw [h.rejectsKey_eq (hmembers key hkey)]

theorem AgreeOutsideObjects.buildPublishBatch_eq
    (h : AgreeOutsideObjects ext keys left right leftDir rightDir) (faults : ReadFaults)
    (principal channelId seq uuid : UInt64) (recipients : List UInt64) (payload : Bytes)
    {objectKeys : List ObjectKey} (hmembers : ∀ key ∈ objectKeys, key ∈ keys) (tsMs : UInt64) :
    buildPublishBatch ext left faults principal channelId seq uuid recipients payload objectKeys
        tsMs =
      buildPublishBatch ext right faults principal channelId seq uuid recipients payload objectKeys
        tsMs := by
  have hload : loadChannel ext left faults channelId = loadChannel ext right faults channelId := by
    rw [loadChannel, loadChannel, UnifiedStorage.getChannel, UnifiedStorage.getChannel, Db.get,
      Db.get, Db.family, Db.family, h.metadata]
  unfold buildPublishBatch
  rw [hload]
  split
  · rfl
  · refine bind_eq rfl (fun found => ?_)
    cases found with
    | none => rfl
    | some channel =>
        dsimp only
        split
        · rfl
        · refine bind_eq rfl (fun _ => ?_)
          rw [getCommittedObjects_faults h.left_valid, getCommittedObjects_faults h.right_valid]
          cases (distinctObjectIds objectKeys).findSome? (fun objectId =>
            faults.get .objects (numericKey kCommittedObjectPrefix objectId)) with
          | some status => rfl
          | none =>
              have hrejected := h.any_rejected_eq hmembers
              rw [← any_lookup_eq objectKeys (left.committedObject ext),
                ← any_lookup_eq objectKeys (right.committedObject ext)] at hrejected
              exact if_congr (Bool.eq_iff_iff.mp hrejected) rfl rfl

section Calls

variable {config : Config} {env : CallEnv} {tsMs : UInt64}

/-- The reads of the metadata family are the same on both sides. -/
private theorem AgreeOutsideObjects.get_eq
    (h : AgreeOutsideObjects ext keys left right leftDir rightDir) (key : Bytes) :
    left.get faults .metadata key = right.get faults .metadata key := by
  rw [Db.get, Db.get, Db.family, Db.family, h.metadata]

theorem AgreeOutsideObjects.publishBatch_eq
    (h : AgreeOutsideObjects ext keys left right leftDir rightDir) {request : PublishRequest}
    (hmembers : ∀ key ∈ request.objectKeys, key ∈ keys) :
    publishBatch ext config left env request tsMs =
      publishBatch ext config right env request tsMs := by
  unfold publishBatch
  refine bind_eq rfl (fun _ => plain_snapshot_eq ?_)
  simp only [authenticate, UnifiedStorage.hasToken, validateAvailableUuid,
    UnifiedStorage.getNextUuid, UnifiedStorage.getUsedUuidSeq, UnifiedStorage.getMaxSeq,
    UnifiedStorage.getRequiredUint64, h.get_eq, h.buildPublishBatch_eq _ _ _ _ _ _ _ hmembers]

theorem AgreeOutsideObjects.publishAutoSeqBatch_eq
    (h : AgreeOutsideObjects ext keys left right leftDir rightDir)
    {request : PublishAutoSeqRequest} (hmembers : ∀ key ∈ request.objectKeys, key ∈ keys) :
    publishAutoSeqBatch ext config left env request tsMs =
      publishAutoSeqBatch ext config right env request tsMs := by
  unfold publishAutoSeqBatch
  refine bind_eq rfl (fun _ => plain_snapshot_eq ?_)
  simp only [authenticate, UnifiedStorage.hasToken, validateAvailableUuid,
    UnifiedStorage.getNextUuid, UnifiedStorage.getUsedUuidSeq, UnifiedStorage.getMaxSeq,
    UnifiedStorage.getRequiredUint64, h.get_eq, h.buildPublishBatch_eq _ _ _ _ _ _ _ hmembers]

/-- The answer of a section depends on what it built and on the commit. -/
theorem conclude_answer (state other : CoreState)
    (built : Except Exit (WriteBatch × ResponseData)) :
    (conclude state env built).2 = (conclude other env built).2 := by
  have hstatus (batch : WriteBatch) :
      (commitBatch state batch env.commit).2 = (commitBatch other batch env.commit).2 := by
    have hcommit (core : CoreState) : (commitBatch core batch env.commit).2 =
        (UnifiedStorage.commit core.db batch env.commit).2 := by
      unfold commitBatch
      dsimp only
      split
      · rfl
      · split <;> rfl
    rw [hcommit, hcommit]
    cases env.commit <;> rfl
  cases built with
  | error exit => rfl
  | ok found =>
      rw [conclude, conclude]
      dsimp only
      rw [hstatus]

theorem call_answer_eq {mutation : Mutation} (commitGeneration : Nat)
    (hbatch : mutation.batch ext config left env tsMs =
      mutation.batch ext config right env tsMs) :
    (mutation.call ext config { db := left, fatalError, commitGeneration } env tsMs).map (·.2) =
      (mutation.call ext config { db := right, fatalError, commitGeneration } env tsMs).map
        (·.2) := by
  unfold Mutation.call
  dsimp only
  cases ensureAvailable fatalError with
  | error status => rfl
  | ok _ =>
      cases mutation.entry with
      | error status => rfl
      | ok _ =>
          dsimp only
          rw [hbatch, Option.map_map, Option.map_map]
          congr 1
          funext built
          exact conclude_answer _ _ built

end Calls

end Lookups

/-- Whoever uses the keys gets the same status and the same response from both
states: a key whose object is not held under its token says nothing about the
object. -/
theorem object_capabilities_not_probeable (ext : Externals) (config : Config)
    (fatalError : Option Status) (commitGeneration : Nat) (faults : ReadFaults)
    (keys : List ObjectKey) (left right : Db) (leftDir rightDir : ObjectDirectory)
    (hagree : AgreeOutsideObjects ext keys left right leftDir rightDir) :
    (∀ key ∈ keys, getObjectMetadata ext fatalError left faults key =
      getObjectMetadata ext fatalError right faults key) ∧
      (∀ requested : List ObjectKey, (∀ key ∈ requested, key ∈ keys) →
        batchGetObjectMetadata ext fatalError left faults requested =
          batchGetObjectMetadata ext fatalError right faults requested) ∧
      (∀ (request : ReadObjectRequest) (io : ObjectFileStore.ReadIo),
        ⟨request.objectId, request.objectToken⟩ ∈ keys →
        readObject ext fatalError left faults leftDir io request =
          readObject ext fatalError right faults rightDir io request) ∧
      (∀ (request : PublishRequest) (env : CallEnv) (tsMs : UInt64),
        (∀ key ∈ request.objectKeys, key ∈ keys) →
        (Mutation.call ext config { db := left, fatalError, commitGeneration } env tsMs
            (.publish request)).map (·.2) =
          (Mutation.call ext config { db := right, fatalError, commitGeneration } env tsMs
            (.publish request)).map (·.2)) ∧
      ∀ (request : PublishAutoSeqRequest) (env : CallEnv) (tsMs : UInt64),
        (∀ key ∈ request.objectKeys, key ∈ keys) →
        (Mutation.call ext config { db := left, fatalError, commitGeneration } env tsMs
            (.publishAutoSeq request)).map (·.2) =
          (Mutation.call ext config { db := right, fatalError, commitGeneration } env tsMs
            (.publishAutoSeq request)).map (·.2) := by
  refine ⟨?_, ?_, ?_, ?_, ?_⟩
  · exact fun _ hmember => hagree.getObjectMetadata_eq hmember
  · exact fun _ hmembers => hagree.batchGetObjectMetadata_eq hmembers
  · exact fun _ io hmember => hagree.readObject_eq io hmember
  · intro request env tsMs hmembers
    exact call_answer_eq commitGeneration (congrArg some (hagree.publishBatch_eq hmembers))
  · intro request env tsMs hmembers
    exact call_answer_eq commitGeneration (congrArg some (hagree.publishAutoSeqBatch_eq hmembers))

namespace Reference

/-- The session up to the commit of the object, and with that commit. -/
theorem preparing_executes : (execute (Server.stepNoWrap externals) (Server.initial externals 5)
    (session.take 18)).isSome = true := by
  decide +kernel

theorem committed_executes : (execute (Server.stepNoWrap externals) (Server.initial externals 5)
    (session.take 19)).isSome = true := by
  decide +kernel

def preparingServer : Server := (Option.get _ preparing_executes).2

def committedServer : Server := (Option.get _ committed_executes).2

/-- A guess at the capability of the session's object. -/
def guessedKey : ObjectKey := ⟨1, "AAAAAAAAAAAAAAAAAAAAAAAAAAAAAAAAAAAAAAAAAAA"⟩

theorem preparing_reachable : Reachable externals preparingServer :=
  ⟨5, _, execute_run Server.stepNoWrap_step (Option.some_get preparing_executes).symm⟩

theorem committed_reachable : Reachable externals committedServer :=
  ⟨5, _, execute_run Server.stepNoWrap_step (Option.some_get committed_executes).symm⟩

end Reference

/-- In reachable states, no lookup of a COMMITTED record fails on its content. -/
theorem Reachable.objects_valid {ext : Externals} {server : Server} (h : Reachable ext server)
    (objectId : UInt64) :
    ∃ found, UnifiedStorage.getCommittedObject ext server.db {} objectId = .ok found := by
  obtain ⟨store, log, hsound⟩ := h.sound
  exact ⟨_, (hsound.represents.reads_getCommittedObject hsound.coherent.valid objectId).eq_ok⟩

theorem Reference.servers_differ :
    preparingServer.db.metadata.entries = committedServer.db.metadata.entries ∧
      preparingServer.db.messages.entries = committedServer.db.messages.entries ∧
      rejectsKey (preparingServer.db.committedObject externals guessedKey.objectId) guessedKey =
        true ∧
      rejectsKey (committedServer.db.committedObject externals guessedKey.objectId) guessedKey =
        true ∧
      preparingServer.db.committedObject externals 1 ≠
        committedServer.db.committedObject externals 1 := by
  decide +kernel

theorem Reference.guess_agrees : AgreeOutsideObjects externals [guessedKey] preparingServer.db
    committedServer.db preparingServer.dir committedServer.dir := by
  obtain ⟨hmetadata, hmessages, hpreparing, hcommitted, _⟩ := servers_differ
  refine ⟨SortedMap.eq_of_entries hmetadata, SortedMap.eq_of_entries hmessages,
    preparing_reachable.objects_valid, committed_reachable.objects_valid, ?_⟩
  intro key hmember
  obtain rfl := List.mem_singleton.mp hmember
  exact Or.inr ⟨(rejectsKey_eq_true_iff (preparing_reachable.objects_valid _)).mp hpreparing,
    (rejectsKey_eq_true_iff (committed_reachable.objects_valid _)).mp hcommitted⟩

/-- Before and after the commit of the object, the guess is answered alike. -/
theorem guess_tells_nothing :
    Reference.preparingServer.db.committedObject Reference.externals 1 ≠
        Reference.committedServer.db.committedObject Reference.externals 1 ∧
      getObjectMetadata Reference.externals none Reference.preparingServer.db {}
          Reference.guessedKey =
        getObjectMetadata Reference.externals none Reference.committedServer.db {}
          Reference.guessedKey := by
  obtain ⟨_, _, _, _, hdiffer⟩ := Reference.servers_differ
  have hanswers := object_capabilities_not_probeable Reference.externals Reference.config none 0 {}
    [Reference.guessedKey] Reference.preparingServer.db Reference.committedServer.db
    Reference.preparingServer.dir Reference.committedServer.dir Reference.guess_agrees
  exact ⟨hdiffer, hanswers.1 Reference.guessedKey List.mem_cons_self⟩

end OpenEvent
