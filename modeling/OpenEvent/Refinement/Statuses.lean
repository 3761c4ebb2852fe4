import OpenEvent.Refinement.ObjectReads
import OpenEvent.Refinement.Reported
import OpenEvent.Refinement.Scans
import OpenEvent.Refinement.Sections

/-!
The error statuses of the operations on a database that represents a coherent
store: while RocksDB reports no corruption, none of them is DATA_LOSS.
-/

namespace OpenEvent

open OpenEventCore Fallible

/-- Any status but DATA_LOSS. -/
def Status.Intact (status : Status) : Prop := status.code ≠ .dataLoss

def Exit.Intact (exit : Exit) : Prop := exit.Reports Status.Intact

theorem rocksToStatus_intact {status : RocksStatus} (h : status.isCorruption = false)
    (operation : String) : (rocksToStatus status operation).Intact := by
  simp [Status.Intact, rocksToStatus_code, h]

theorem Status.Intact.of_not_fatal {status : Status} (h : status.isFatal = false) :
    status.Intact := by
  intro hcode
  simp [Status.isFatal, hcode] at h

theorem objectIoStatus_intact (operation : String) (error : Errno) :
    (objectIoStatus operation error).Intact :=
  .of_not_fatal (objectIoStatus_not_fatal operation error)

theorem Reads.intact {α : Type} {P : α → Prop} {faults : ReadFaults} {result : Result α}
    (h : Reads faults P result) (hclean : faults.NoCorruption) : Errors Status.Intact result := by
  intro status herror hcode
  rw [h.unavailable hclean herror] at hcode
  cases hcode

theorem intact_checks : Checks Status.Intact := fun _ _ hfatal => .of_not_fatal hfatal

section Reported

variable {ext : Externals} {config : Config} {db : Db} {store : Store} {env : CallEnv}
variable {faults : ReadFaults}

theorem createSnapshot_intact (hclean : faults.NoCorruption) (db : Db) :
    Errors Status.Intact (UnifiedStorage.createSnapshot db faults) :=
  (reads_createSnapshot db faults).intact hclean

theorem Represents.reported (hdb : Represents ext db store) (hvalid : store.Valid ext)
    (hclean : faults.NoCorruption) : Reported Status.Intact ext db faults where
  checks := intact_checks
  snapshot := createSnapshot_intact hclean db
  maxSeq := hdb.reads_getMaxSeq.intact hclean
  nextUuid := hdb.reads_getNextUuid.intact hclean
  nextChannelId := hdb.reads_getNextChannelId.intact hclean
  nextObjectId := hdb.reads_getNextObjectId.intact hclean
  usedUuid uuid := (hdb.reads_getUsedUuidSeq hvalid uuid).intact hclean
  token principal token := (hdb.reads_hasToken principal token).intact hclean
  channel channelId := (hdb.reads_getChannel hvalid channelId).intact hclean
  objects objectIds := (hdb.reads_getCommittedObjects hvalid objectIds).intact hclean

/-- Every operation of one section. -/
theorem mutation_batch_intact (hdb : Represents ext db store) (hvalid : store.Valid ext)
    (hclean : env.faults.NoCorruption) {tsMs : UInt64} {operation : Mutation}
    {built : Except Exit (WriteBatch × ResponseData)}
    (h : operation.batch ext config db env tsMs = some built) : Errors Exit.Intact built := by
  intro exit herror
  rcases (hdb.reported hvalid hclean).mutationBatch h exit herror with hreports | ⟨_, _, hnothing⟩
  · exact hreports
  · intro hcode
    rw [hnothing.status] at hcode
    cases hcode

end Reported

/-! ### Object writes -/

section Writes

open ObjectFileStore

variable {ext : Externals} {db : Db} {store : Store} {env : CallEnv}

/-- The second section finds its PREPARING record as the first left it. -/
theorem commitDecision_intact (hdb : Represents ext db store) (hvalid : store.Valid ext)
    (hclean : env.faults.NoCorruption) {request : WriteObjectRequest} {object : StoredObject}
    (hpreparing : store.preparing object.objectId = some object) {status : Status}
    (h : commitDecision ext db env request object = .fail status ∨
      commitDecision ext db env request object = .exit status) : status.Intact := by
  unfold commitDecision at h
  cases hsnapshot : UnifiedStorage.createSnapshot db env.faults with
  | error raised =>
      simp only [hsnapshot, reduceCtorEq, or_false] at h
      cases h
      exact createSnapshot_intact hclean db _ hsnapshot
  | ok snapshot =>
      obtain rfl := (reads_createSnapshot db env.faults).of_ok hsnapshot
      simp only [hsnapshot] at h
      cases hauth : authenticate snapshot env.faults request.principal request.token with
      | error raised =>
          simp only [hauth, reduceCtorEq, or_false] at h
          cases h
          exact (hdb.reported hvalid hclean).authenticate _ _ _ hauth
      | ok _ =>
          simp only [hauth] at h
          have hread : Reads env.faults (· = store.preparing object.objectId)
              (UnifiedStorage.getPreparingObject ext snapshot env.faults object.objectId) :=
            hdb.reads_getPreparingObject hvalid object.objectId
          cases hget : UnifiedStorage.getPreparingObject ext snapshot env.faults object.objectId with
          | error raised =>
              have hraised : status = raised := by
                simp only [hget] at h
                split at h <;> rcases h with h | h <;> cases h <;> rfl
              rw [hraised]
              exact hread.intact hclean _ hget
          | ok found =>
              obtain rfl := hread.of_ok hget
              have hsame : sameObject object object = true := (sameObject_iff _ _).mpr rfl
              simp only [hget, hpreparing, hsame, Bool.true_eq_false, if_false] at h
              cases hput : UnifiedStorage.putCommittedObject ext [] object with
              | ok batch => simp [hput] at h
              | error raised =>
                  simp only [hput, reduceCtorEq, or_false] at h
                  cases h
                  refine Errors.bind (intact_checks.serializeObject object) ?_ _ hput
                  intro payload _
                  exact .ok _

/-- `Write` meets no file of its object that it has not made itself. -/
theorem writeStep_intact {owner : Nat → UInt64} {dir dir' : ObjectDirectory} {objectId : UInt64}
    {data : Bytes} {phase : WritePhase} {outcome : SyscallOutcome} {status : Status}
    (hfiles : WriteFiles dir owner objectId data phase)
    (h : writeStep objectId data dir phase outcome = some (dir', .done status)) :
    status.Intact := by
  cases phase with
  | openTemporary =>
      have hentry : dir.entries (temporaryName objectId) = none := hfiles.temporary.present
      cases outcome with
      | success => simp [writeStep, hentry] at h
      | failed error =>
          simp only [writeStep, hentry, if_true] at h
          split at h
          · cases h
          · cases h
            exact objectIoStatus_intact _ _
      | transferred count => cases h
  | writeData inode written =>
      cases outcome with
      | success =>
          simp only [writeStep] at h
          split at h <;> cases h
      | failed error =>
          simp only [writeStep] at h
          split at h
          · split at h
            · cases h
            · cases h
              exact objectIoStatus_intact _ _
          · cases h
      | transferred count =>
          simp only [writeStep] at h
          split at h
          · split at h
            · cases h
              exact nofun
            · split at h <;> cases h
          · cases h
  | syncFile inode =>
      cases outcome with
      | success => cases h
      | failed error =>
          cases h
          exact objectIoStatus_intact _ _
      | transferred count => cases h
  | closeFile =>
      cases outcome with
      | success => cases h
      | failed error =>
          cases h
          exact objectIoStatus_intact _ _
      | transferred count => cases h
  | renameFile =>
      obtain ⟨inode, _, _, _, hfinal⟩ := hfiles
      have hentry : dir.entries (finalName objectId) = none := hfinal.present
      cases outcome with
      | success =>
          simp only [writeStep] at h
          split at h <;> cases h
      | failed error =>
          simp only [writeStep, hentry, if_true] at h
          split at h
          · cases h
          · cases h
            exact objectIoStatus_intact _ _
      | transferred count => cases h
  | syncDirectory =>
      cases outcome with
      | success =>
          cases h
          exact nofun
      | failed error =>
          cases h
          exact objectIoStatus_intact _ _
      | transferred count => cases h

private theorem unlinkKnownPath_intact {dir dir' : ObjectDirectory} {name : String}
    {outcome : SyscallOutcome} {status : Status} (hregular : OnlyRegular dir)
    (hperm : outcome ≠ .failed .eperm)
    (h : unlinkKnownPath dir name outcome = some (dir', status)) : status.Intact := by
  unfold unlinkKnownPath at h
  cases outcome with
  | success =>
      dsimp only at h
      split at h
      · cases h
        exact nofun
      · cases h
  | failed error =>
      dsimp only at h
      split at h
      · split at h
        · cases h
          exact nofun
        · cases h
      · split at h
        · cases h
        · rename_i hdirectory
          split at h
          · rename_i herror
            rcases herror with rfl | rfl
            · -- EISDIR needs a directory, and there are only regular files.
              refine absurd ⟨rfl, ?_⟩ hdirectory
              rintro ⟨inode, _, hkind⟩
              rw [hregular inode] at hkind
              cases hkind
            · exact absurd rfl hperm
          · cases h
            exact objectIoStatus_intact _ _
  | transferred count => cases h

theorem cleanupStep_intact {dir dir' : ObjectDirectory} {phase : CleanupPhase}
    {outcome : SyscallOutcome} {status : Status} (hregular : OnlyRegular dir)
    (hperm : outcome ≠ .failed .eperm)
    (h : cleanupStep dir phase outcome = some (dir', .done status)) : status.Intact := by
  cases phase with
  | unlinkTemporary objectId rest =>
      obtain ⟨⟨unlinked, answer⟩, hunlink, hrest⟩ := Option.bind_eq_some_iff.mp h
      dsimp only at hrest
      split at hrest
      · cases hrest
      · cases hrest
        exact unlinkKnownPath_intact hregular hperm hunlink
  | unlinkFinal objectId rest =>
      obtain ⟨⟨unlinked, answer⟩, hunlink, hrest⟩ := Option.bind_eq_some_iff.mp h
      dsimp only at hrest
      split at hrest
      · cases hrest
      · cases hrest
        exact unlinkKnownPath_intact hregular hperm hunlink
  | syncDirectory =>
      cases outcome with
      | success =>
          cases h
          exact nofun
      | failed error =>
          cases h
          exact objectIoStatus_intact _ _
      | transferred count => cases h

end Writes

/-! ### Startup -/

section Startup

variable {ext : Externals} {db : Db} {store : Store} {log : List EventMessage}
variable {faults : ReadFaults}

/-- The first message of the log is the one that `Validate` asks for. -/
private theorem Coherent.first_message (h : Coherent ext store log) :
    ∃ message, store.messages 0 = some message ∧
      validInitializationMessage ext message = true ∧ store.usedUuids 0 = some 0 := by
  have hlength := h.logIndex.maxSeq
  obtain ⟨message, hat⟩ : ∃ message, log[0]? = some message :=
    ⟨log[0], List.getElem?_eq_getElem (by omega)⟩
  have hstored : store.messages 0 = some message := by
    rw [h.logIndex.messages]
    exact hat
  have hreserved : validInitializationMessage ext message = true :=
    (h.valid.message 0 message hstored).2.1
  refine ⟨message, hstored, hreserved, ?_⟩
  refine (h.logIndex.uuids 0 0).mpr ⟨message, hat, ?_⟩
  unfold validInitializationMessage at hreserved
  split at hreserved
  · cases hreserved
  · rename_i hfields
    simp only [not_or, not_not] at hfields
    exact hfields.2.1

theorem Coherent.reads_validate (h : Coherent ext store log) (hdb : Represents ext db store) :
    Reads faults (fun _ => True) (UnifiedStorage.validate ext db faults) := by
  obtain ⟨first, hfirst, hreserved, huuid⟩ := h.first_message
  refine (reads_createSnapshot db faults).bind ?_
  rintro snapshot rfl
  refine hdb.reads_getSchemaVersion.bind ?_
  rintro _ rfl
  rw [if_neg (by simp)]
  refine hdb.reads_getMaxSeq.bind ?_
  rintro _ rfl
  refine hdb.reads_getNextUuid.bind ?_
  rintro _ rfl
  rw [if_neg h.nextUuid_ne]
  refine hdb.reads_getNextChannelId.bind ?_
  rintro _ rfl
  rw [if_neg h.channelIndex.nextChannelId]
  refine hdb.reads_getNextObjectId.bind ?_
  rintro _ rfl
  rw [if_neg h.objectIndex.nextObjectId]
  rcases snapshot.get_cases faults .messages (numericKey kMessagePrefix 0) with
    ⟨status, hget, hreport⟩ | hget
  · simp only [hget]
    exact .fault hreport
  · have hstored : StoredAs ext.eventMessage
        ((snapshot.family .messages).get (numericKey kMessagePrefix 0)) (store.messages 0) :=
      hdb.messages 0
    rw [hfirst] at hstored
    rcases hstored.cases with ⟨_, hnone⟩ | ⟨bytes, message, hsome, hmessage, hparse⟩
    · cases hnone
    · cases hmessage
      simp only [hget, hsome, hparse, hreserved, Bool.true_eq_false, if_false]
      refine (hdb.reads_getUsedUuidSeq h.valid 0).bind ?_
      rintro _ rfl
      rw [huuid, if_neg (by simp)]
      exact .found True.intro

private theorem reads_checkNotCommitted (h : Coherent ext store log)
    (hdb : Represents ext db store) {objects : List StoredObject}
    (hobjects : ∀ object ∈ objects, store.preparing object.objectId = some object) :
    Reads faults (fun _ => True) (UnifiedStorage.checkNotCommitted ext db faults objects) := by
  induction objects with
  | nil => exact .found True.intro
  | cons object rest ih =>
      refine (hdb.reads_getCommittedObject h.valid object.objectId).bind ?_
      rintro _ rfl
      have hnone := h.objectIndex.disjoint object.objectId (by simp [hobjects object (by simp)])
      rw [hnone]
      exact ih (fun other hother => hobjects other (by simp [hother]))

theorem Coherent.reads_planRecovery (h : Coherent ext store log) (hdb : Represents ext db store) :
    Reads faults (fun _ => True) (UnifiedStorage.planRecovery ext db faults) := by
  refine (hdb.reads_listPreparingObjects h.valid).bind ?_
  rintro objects ⟨_, hobjects⟩
  split
  · exact .found True.intro
  · refine (reads_createSnapshot db faults).bind ?_
    rintro _ rfl
    refine (reads_checkNotCommitted h hdb (fun object hmember =>
      (hobjects object).mp hmember)).bind ?_
    intro _ _
    exact .found True.intro

end Startup

/-! ### Readers -/

section Readers

open ObjectFileStore

variable {ext : Externals} {config : Config} {db : Db} {store : Store} {log : List EventMessage}
variable {faults : ReadFaults} {fatalError : Option Status}

theorem getStatus_intact (hdb : Represents ext db store) (hvalid : store.Valid ext)
    (hclean : faults.NoCorruption) (principal : UInt64) (token : Bytes) :
    Errors Status.Intact (getStatus fatalError db faults principal token) := by
  refine .bind (intact_checks.ensureAvailable fatalError) ?_
  intro _ _
  refine .bind (createSnapshot_intact hclean db) ?_
  intro snapshot hsnapshot
  obtain rfl := (reads_createSnapshot db faults).of_ok hsnapshot
  refine .bind ((hdb.reported hvalid hclean).authenticate _ _) ?_
  intro _ _
  exact hdb.reads_getMaxSeq.intact hclean

theorem getSeqByUuid_intact (hdb : Represents ext db store) (hvalid : store.Valid ext)
    (hclean : faults.NoCorruption) (uuid : UInt64) :
    Errors Status.Intact (getSeqByUuid fatalError db faults uuid) := by
  refine .bind (intact_checks.ensureAvailable fatalError) ?_
  intro _ _
  refine .bind (createSnapshot_intact hclean db) ?_
  intro snapshot hsnapshot
  obtain rfl := (reads_createSnapshot db faults).of_ok hsnapshot
  refine .bind ((hdb.reads_getUsedUuidSeq hvalid uuid).intact hclean) ?_
  intro found _
  cases found with
  | none => exact .error nofun
  | some seq => exact .ok _

theorem maxSeq_intact (hdb : Represents ext db store) (hclean : faults.NoCorruption) :
    Errors Status.Intact (OpenEventCore.maxSeq fatalError db faults) := by
  refine .bind (intact_checks.ensureAvailable fatalError) ?_
  intro _ _
  refine .bind (createSnapshot_intact hclean db) ?_
  intro snapshot hsnapshot
  obtain rfl := (reads_createSnapshot db faults).of_ok hsnapshot
  exact hdb.reads_getMaxSeq.intact hclean

theorem loadAuthorizedObject_intact (hdb : Represents ext db store) (hvalid : store.Valid ext)
    (hclean : faults.NoCorruption) (objectId : UInt64) (objectToken : String) :
    Errors Exit.Intact (loadAuthorizedObject ext db faults objectId objectToken) := by
  unfold loadAuthorizedObject
  split
  · exact .error nofun
  · refine .bind (latching_errors ((hdb.reads_getCommittedObject hvalid _).intact hclean)) ?_
    intro found _
    cases found with
    | none => exact .error nofun
    | some object =>
        dsimp only
        split
        · exact .ok _
        · exact .error nofun

theorem getObjectMetadata_intact (hdb : Represents ext db store) (hvalid : store.Valid ext)
    (hclean : faults.NoCorruption) (key : ObjectKey) :
    Errors Exit.Intact (getObjectMetadata ext fatalError db faults key) := by
  refine .bind (plain_errors (intact_checks.ensureAvailable fatalError)) ?_
  intro _ _
  refine .bind (plain_errors (createSnapshot_intact hclean db)) ?_
  intro snapshot hsnapshot
  obtain rfl := createSnapshot_ok hsnapshot
  refine .bind (loadAuthorizedObject_intact hdb hvalid hclean _ _) ?_
  intro object _
  exact .ok _

private theorem batchMetadataLoop_intact (hdb : Represents ext db store)
    (hvalid : store.Valid ext) (hclean : faults.NoCorruption) (objectKeys : List ObjectKey) :
    Errors Exit.Intact (batchMetadataLoop ext db faults objectKeys) := by
  induction objectKeys with
  | nil => exact .ok _
  | cons key rest ih =>
      refine .bind (loadAuthorizedObject_intact hdb hvalid hclean _ _) ?_
      intro object _
      refine .bind ih ?_
      intro staged _
      exact .ok _

theorem batchGetObjectMetadata_intact (hdb : Represents ext db store) (hvalid : store.Valid ext)
    (hclean : faults.NoCorruption) (objectKeys : List ObjectKey) :
    Errors Exit.Intact (batchGetObjectMetadata ext fatalError db faults objectKeys) := by
  refine .bind (plain_errors (intact_checks.ensureAvailable fatalError)) ?_
  intro _ _
  refine .guard nofun ?_
  intro _
  refine .bind (plain_errors (intact_checks.validateObjectKeysShape _)) ?_
  intro _ _
  refine .bind (plain_errors (createSnapshot_intact hclean db)) ?_
  intro snapshot hsnapshot
  obtain rfl := createSnapshot_ok hsnapshot
  exact batchMetadataLoop_intact hdb hvalid hclean objectKeys

theorem readObjectRecord_intact (hdb : Represents ext db store) (hvalid : store.Valid ext)
    (hclean : faults.NoCorruption) (request : ReadObjectRequest) :
    Errors Exit.Intact (readObjectRecord ext fatalError db faults request) := by
  refine .bind (plain_errors (intact_checks.ensureAvailable fatalError)) ?_
  intro _ _
  refine .guard nofun ?_
  intro _
  refine .bind (plain_errors (createSnapshot_intact hclean db)) ?_
  intro snapshot hsnapshot
  obtain rfl := createSnapshot_ok hsnapshot
  exact loadAuthorizedObject_intact hdb hvalid hclean _ _

theorem readObjectRecord_ok (hdb : Represents ext db store) (hvalid : store.Valid ext)
    {request : ReadObjectRequest} {object : StoredObject}
    (h : readObjectRecord ext fatalError db faults request = .ok object) :
    store.committed request.objectId = some object := by
  obtain ⟨_, _, h⟩ := bind_ok h
  obtain ⟨_, h⟩ := guard_ok h
  obtain ⟨snapshot, hsnapshot, h⟩ := bind_ok h
  obtain rfl := createSnapshot_ok hsnapshot
  exact (loadAuthorizedObject_ok hdb hvalid h).1

private theorem preadLoop_intact {name : String} {file : Bytes} {offset count : Nat}
    (hcount : offset + count ≤ file.length) {outcomes : List SyscallOutcome} {data : Bytes}
    {result : Result Bytes} (h : preadLoop name file offset count outcomes data = some result) :
    Errors Status.Intact result := by
  induction outcomes generalizing data with
  | nil =>
      unfold preadLoop at h
      split at h
      · cases h
        exact .ok _
      · cases h
  | cons outcome rest ih =>
      unfold preadLoop at h
      split at h
      · cases h
        exact .ok _
      · cases outcome with
        | success => cases h
        | failed error =>
            dsimp only at h
            split at h
            · exact ih h
            · cases h
              exact .error (objectIoStatus_intact _ _)
        | transferred got =>
            dsimp only at h
            split at h
            · split at h
              · omega
              · cases h
            · split at h
              · exact ih h
              · cases h

/-- The file of a committed object is there, a regular file of the right size. -/
theorem readRange_intact {dir : ObjectDirectory} {owner : Nat → UInt64} {objectId : UInt64}
    {object : StoredObject} {inode : Nat} {data : Bytes} (hobject : ObjectValid objectId object)
    (hdurable : Durable dir owner objectId inode data) (hregular : OnlyRegular dir)
    (hsize : object.nbytes.toNat = data.length) {offset nbytes : UInt64} {io : ReadIo}
    {result : Result Bytes}
    (h : readRange dir objectId object.nbytes offset nbytes io = some result) :
    Errors Status.Intact result := by
  have hmetadata : ¬ (objectId = 0 ∨ object.nbytes = 0 ∨
      object.nbytes.toNat > kMaxObjectBytes) := by
    rintro (hzero | hzero | hlarge)
    · exact hobject.objectId_ne hzero
    · exact hobject.nbytes_ne hzero
    · exact absurd hobject.nbytes_le (not_le.mpr hlarge)
  have hentry := hdurable.final.present
  have hkind := hregular inode
  have hbytes := hdurable.file.bytes_eq
  unfold readRange at h
  rw [if_neg hmetadata] at h
  split at h
  · cases h
    exact .error nofun
  · split at h
    · cases h
      exact .error nofun
    · rename_i hoffset
      dsimp only at h
      rw [hentry] at h
      split at h
      · split at h
        · split at h
          · rename_i hreported
            rcases hreported with ⟨_, hnone⟩ | ⟨_, found, hfound, hlink⟩
            · cases hnone
            · rw [hregular found] at hlink
              cases hlink
          · cases h
        · cases h
          exact .error (objectIoStatus_intact _ _)
      · rename_i hfound
        cases hfound
        rw [hkind, if_neg (by decide)] at h
        split at h
        · cases h
          exact .error (objectIoStatus_intact _ _)
        · cases h
        · rw [if_neg (by simp [hbytes, hsize])] at h
          have hcount : offset.toNat + min nbytes.toNat (object.nbytes - offset).toNat ≤
              (dir.inodes inode).bytes.length := by
            have hle := UInt64.le_iff_toNat_le.mp (UInt64.not_lt.mp hoffset)
            rw [UInt64.toNat_sub_of_le _ _ (UInt64.not_lt.mp hoffset), hbytes]
            omega
          split at h
          · cases h
          · rename_i hloop
            cases h
            exact preadLoop_intact hcount hloop
          · split at h
            · cases h
              exact .ok _
            · cases h
              exact .error (objectIoStatus_intact _ _)
            · cases h
      · cases h

theorem getChannel_intact (hdb : Represents ext db store) (hvalid : store.Valid ext)
    (hclean : faults.NoCorruption) (request : GetChannelRequest) :
    Errors Status.Intact (OpenEventCore.getChannel ext fatalError db faults request) := by
  refine .bind (intact_checks.ensureAvailable fatalError) ?_
  intro _ _
  refine .bind (createSnapshot_intact hclean db) ?_
  intro snapshot hsnapshot
  obtain rfl := (reads_createSnapshot db faults).of_ok hsnapshot
  refine .bind ((hdb.reported hvalid hclean).authenticate _ _) ?_
  intro _ _
  refine .bind ((hdb.reads_loadChannel hvalid _).intact hclean) ?_
  intro found _
  cases found with
  | none => exact .error nofun
  | some channel =>
      dsimp only
      split
      · exact .ok _
      · exact .error nofun

theorem listChannels_intact (hdb : Represents ext db store) (hvalid : store.Valid ext)
    (hclean : faults.NoCorruption) (request : ListChannelsRequest) :
    Errors Status.Intact (OpenEventCore.listChannels ext fatalError db faults request) := by
  refine .bind (intact_checks.ensureAvailable fatalError) ?_
  intro _ _
  refine .bind (intact_checks.validateFilter _) ?_
  intro _ _
  refine .bind (createSnapshot_intact hclean db) ?_
  intro snapshot hsnapshot
  obtain rfl := (reads_createSnapshot db faults).of_ok hsnapshot
  refine .bind ((hdb.reported hvalid hclean).authenticate _ _) ?_
  intro _ _
  refine .bind ((hdb.reads_listChannels hvalid).intact hclean) ?_
  intro channels _
  exact .ok _

private theorem validateReadableLoop_intact (hdb : Represents ext db store)
    (hvalid : store.Valid ext) (hclean : faults.NoCorruption) (principal : UInt64)
    (channels validated : List UInt64) :
    Errors Status.Intact (validateReadableLoop ext db faults principal channels validated) := by
  induction channels generalizing validated with
  | nil => exact .ok _
  | cons channelId rest ih =>
      unfold validateReadableLoop
      split
      · exact ih validated
      · refine .bind ((hdb.reads_loadChannel hvalid channelId).intact hclean) ?_
        intro found _
        cases found with
        | none => exact .error (by simp [Status.Intact])
        | some channel =>
            dsimp only
            split
            · exact ih (channelId :: validated)
            · exact .error (by simp [Status.Intact])

theorem subscriptionMaxSeq_intact (hdb : Represents ext db store) (hvalid : store.Valid ext)
    (hclean : faults.NoCorruption) (principal : UInt64) (token : Bytes) (channels : List UInt64) :
    Errors Status.Intact (subscriptionMaxSeq ext db faults principal token channels) := by
  refine .bind ((hdb.reported hvalid hclean).authenticate _ _) ?_
  intro _ _
  refine .bind (validateReadableLoop_intact hdb hvalid hclean _ _ _) ?_
  intro _ _
  exact hdb.reads_getMaxSeq.intact hclean

/-- `Fetch` and `FetchSubscriptionBatch` once they have a snapshot. -/
theorem subscriptionBatch_intact (hdb : Represents ext db store)
    (hcoherent : Coherent ext store log) (hnext : store.maxSeq + 1 ≠ 0)
    (hclean : faults.NoCorruption) (principal : UInt64) (token : Bytes) (fromSeq : UInt64)
    (limit : UInt32) (onlyMyRecipient : Bool) (channels : List UInt64) :
    Errors Status.Intact (subscriptionBatch ext config db faults principal token fromSeq limit
      onlyMyRecipient channels) := by
  refine .bind ((hdb.reported hcoherent.valid hclean).authenticate _ _) ?_
  intro _ _
  refine .bind (validateReadableLoop_intact hdb hcoherent.valid hclean _ _ _) ?_
  intro _ hreadable
  exact (hcoherent.reads_fetchVisible hdb hnext
    (validateReadableChannels_ok hreadable)).intact hclean

theorem fetch_intact (hdb : Represents ext db store) (hcoherent : Coherent ext store log)
    (hnext : store.maxSeq + 1 ≠ 0) (hclean : faults.NoCorruption) (request : FetchRequest) :
    Errors Status.Intact (fetch ext config fatalError db faults request) := by
  refine .bind (intact_checks.ensureAvailable fatalError) ?_
  intro _ _
  refine .bind (intact_checks.validateLimit _) ?_
  intro _ _
  refine .bind (createSnapshot_intact hclean db) ?_
  intro snapshot hsnapshot
  obtain rfl := (reads_createSnapshot db faults).of_ok hsnapshot
  exact subscriptionBatch_intact hdb hcoherent hnext hclean _ _ _ _ _ _

theorem listMessages_intact (hdb : Represents ext db store) (hcoherent : Coherent ext store log)
    (hnext : store.maxSeq + 1 ≠ 0) (hclean : faults.NoCorruption) (fromSeq : UInt64)
    (limit : UInt32) :
    Errors Status.Intact (listMessages ext config fatalError db faults fromSeq limit) := by
  refine .bind (intact_checks.ensureAvailable fatalError) ?_
  intro _ _
  refine .bind (intact_checks.validateLimit _) ?_
  intro _ _
  refine .bind (createSnapshot_intact hclean db) ?_
  intro snapshot hsnapshot
  obtain rfl := (reads_createSnapshot db faults).of_ok hsnapshot
  exact (hcoherent.reads_listAllMessages hdb hnext).intact hclean

end Readers

end OpenEvent
