import OpenEvent.Core.Reads
import OpenEvent.Lib.Fallible
import OpenEvent.Refinement.Mutations

/-!
The statuses that operations end with, on any database: a property of every
status that the checks of an operation raise and that its getters report is a
property of every error of the operation.
-/

namespace OpenEvent

open OpenEventCore Fallible

/-- The property holds of the statuses that are raised by checks on requests
and on the caller's rights. -/
def Checks (P : Status → Prop) : Prop :=
  ∀ status : Status, status.isOk = false → status.isFatal = false → P status

/-- The property holds of the statuses that the getters report. -/
structure Reported (P : Status → Prop) (ext : Externals) (db : Db) (faults : ReadFaults) : Prop where
  checks : Checks P
  snapshot : Errors P (UnifiedStorage.createSnapshot db faults)
  maxSeq : Errors P (UnifiedStorage.getMaxSeq db faults)
  nextUuid : Errors P (UnifiedStorage.getNextUuid db faults)
  nextChannelId : Errors P (UnifiedStorage.getNextChannelId db faults)
  nextObjectId : Errors P (UnifiedStorage.getNextObjectId db faults)
  usedUuid : ∀ uuid, Errors P (UnifiedStorage.getUsedUuidSeq db faults uuid)
  token : ∀ principal token, Errors P (UnifiedStorage.hasToken db faults principal token)
  channel : ∀ channelId, Errors P (UnifiedStorage.getChannel ext db faults channelId)
  objects : ∀ objectIds, Errors P (UnifiedStorage.getCommittedObjects ext db faults objectIds)

/-- The same of the status that an early return carries. -/
def Exit.Reports (P : Status → Prop) (exit : Exit) : Prop := P exit.status

section Returns

variable {P : Status → Prop} {α : Type} {result : Result α}

theorem plain_errors (h : Errors P result) : Errors (Exit.Reports P) (plain result) := by
  cases result with
  | error status => exact .error (h status rfl)
  | ok value => exact .ok value

theorem latching_errors (h : Errors P result) : Errors (Exit.Reports P) (latching result) := by
  cases result with
  | error status => exact .error (h status rfl)
  | ok value => exact .ok value

end Returns

/-! ### Checks -/

namespace Checks

variable {P : Status → Prop}

theorem ensureAvailable (h : Checks P) (fatalError : Option Status) :
    Errors P (OpenEventCore.ensureAvailable fatalError) := by
  cases fatalError with
  | none => exact .ok _
  | some _ => exact .error (h _ rfl rfl)

theorem checkRpcActive (h : Checks P) (rpc : RpcState) :
    Errors P (OpenEventCore.checkRpcActive rpc) := by
  cases rpc with
  | active => exact .ok _
  | deadlineExceeded => exact .error (h _ rfl rfl)
  | cancelled => exact .error (h _ rfl rfl)

theorem validatePayloadSize (h : Checks P) (config : Config) (payload : Bytes) :
    Errors P (OpenEventCore.validatePayloadSize config payload) := by
  unfold OpenEventCore.validatePayloadSize
  split
  · exact .ok _
  · exact .error (h _ rfl rfl)

theorem validateObjectKeysShape (h : Checks P) (objectKeys : List ObjectKey) :
    Errors P (OpenEventCore.validateObjectKeysShape objectKeys) := by
  unfold OpenEventCore.validateObjectKeysShape
  split
  · exact .error (h _ rfl rfl)
  · split
    · exact .error (h _ rfl rfl)
    · exact .ok _

theorem validateRecipients (h : Checks P) (channel : ChannelInfo) (recipients : List UInt64) :
    Errors P (OpenEventCore.validateRecipients channel recipients) := by
  unfold OpenEventCore.validateRecipients
  split
  · exact .ok _
  · exact .error (h _ rfl rfl)

theorem validateVisibility (h : Checks P) (visibility : Visibility) :
    Errors P (OpenEventCore.validateVisibility visibility) := by
  unfold OpenEventCore.validateVisibility
  split
  · exact .error (h _ rfl rfl)
  · exact .ok _

theorem validateFilter (h : Checks P) (filter : ChannelFilter) :
    Errors P (OpenEventCore.validateFilter filter) := by
  unfold OpenEventCore.validateFilter
  split
  · exact .error (h _ rfl rfl)
  · exact .ok _

theorem validateLimit (h : Checks P) (limit : UInt32) :
    Errors P (OpenEventCore.validateLimit limit) := by
  unfold OpenEventCore.validateLimit
  split
  · exact .error (h _ rfl rfl)
  · exact .ok _

theorem fillRandom (h : Checks P) {size : Nat} {random : List GetrandomResult} {bytes : Bytes}
    {result : Result Bytes} (hfill : OpenEvent.fillRandom size random bytes = some result) :
    Errors P result := by
  induction random generalizing bytes with
  | nil =>
      unfold OpenEvent.fillRandom at hfill
      split at hfill
      · cases hfill
        exact .ok _
      · cases hfill
  | cons first rest ih =>
      unfold OpenEvent.fillRandom at hfill
      split at hfill
      · cases hfill
        exact .ok _
      · cases first with
        | failed error =>
            dsimp only at hfill
            split at hfill
            · exact ih hfill
            · cases hfill
              exact .error (h _ rfl rfl)
        | filled chunk =>
            dsimp only at hfill
            split at hfill
            · exact ih hfill
            · cases hfill

theorem generateToken (h : Checks P) {random : List GetrandomResult} {generated : Result Bytes}
    (hgenerated : OpenEvent.generateToken random = some generated) : Errors P generated := by
  obtain ⟨filled, hfilled, rfl⟩ := Option.map_eq_some_iff.mp hgenerated
  have hrandom := h.fillRandom hfilled
  cases filled with
  | error status => exact .error (hrandom status rfl)
  | ok bytes => exact .ok _

theorem generateObjectToken (h : Checks P) {random : List GetrandomResult}
    {generated : Result String}
    (hgenerated : OpenEvent.generateObjectToken random = some generated) :
    Errors P generated := by
  obtain ⟨filled, hfilled, rfl⟩ := Option.map_eq_some_iff.mp hgenerated
  have hrandom := h.fillRandom hfilled
  cases filled with
  | error status => exact .error (hrandom status rfl)
  | ok bytes => exact .ok _

theorem mutationEntry (h : Checks P) (operation : Mutation) : Errors P operation.entry := by
  cases operation with
  | createChannel request =>
      unfold Mutation.entry createChannelEntry
      dsimp only
      split
      · exact .error (h _ rfl rfl)
      · exact h.validateVisibility _
  | _ =>
      unfold Mutation.entry
      dsimp only [allocateUuidsEntry, publishEntry, memberEntry, addTokenEntry, deleteTokenEntry]
      split
      · exact .error (h _ rfl rfl)
      · exact .ok _

theorem writeObjectEntry (h : Checks P) (request : WriteObjectRequest) :
    Errors P (OpenEventCore.writeObjectEntry request) := by
  unfold OpenEventCore.writeObjectEntry
  split
  · exact .error (h _ rfl rfl)
  · split
    · exact .error (h _ rfl rfl)
    · exact .ok _

/-! ### Batches -/

variable {ext : Externals} {batch : WriteBatch}

theorem putMessage (h : Checks P) (message : EventMessage) :
    Errors P (UnifiedStorage.putMessage ext batch message) := by
  unfold UnifiedStorage.putMessage
  split
  · exact .error (h _ rfl rfl)
  · exact .ok _

theorem putChannel (h : Checks P) (channel : ChannelInfo) :
    Errors P (UnifiedStorage.putChannel ext batch channel) := by
  unfold UnifiedStorage.putChannel
  split
  · exact .error (h _ rfl rfl)
  · exact .ok _

theorem putUsedUuid (h : Checks P) (uuid seq : UInt64) :
    Errors P (UnifiedStorage.putUsedUuid batch uuid seq) := by
  unfold UnifiedStorage.putUsedUuid
  split
  · exact .error (h _ rfl rfl)
  · exact .ok _

theorem setNextUuid (h : Checks P) (uuid : UInt64) :
    Errors P (UnifiedStorage.setNextUuid batch uuid) := by
  unfold UnifiedStorage.setNextUuid
  split
  · exact .error (h _ rfl rfl)
  · exact .ok _

theorem serializeObject (h : Checks P) (object : StoredObject) :
    Errors P (UnifiedStorage.serializeObject ext object) := by
  unfold UnifiedStorage.serializeObject
  split
  · exact .error (h _ rfl rfl)
  · exact .ok _

end Checks

/-! ### Operations of one section -/

namespace Reported

variable {P : Status → Prop} {ext : Externals} {config : Config} {db : Db} {env : CallEnv}
variable {faults : ReadFaults}

theorem authenticate (h : Reported P ext db faults) (principal : UInt64) (token : Bytes) :
    Errors P (OpenEventCore.authenticate db faults principal token) := by
  unfold OpenEventCore.authenticate
  split
  · exact .error (h.checks _ rfl rfl)
  · split
    · exact .error (h.checks _ rfl rfl)
    · refine .bind (h.token principal token) ?_
      intro found _
      split
      · exact .ok _
      · exact .error (h.checks _ rfl rfl)

theorem validateAvailableUuid (h : Reported P ext db faults) (uuid : UInt64) :
    Errors P (OpenEventCore.validateAvailableUuid db faults uuid) := by
  unfold OpenEventCore.validateAvailableUuid
  split
  · exact .error (h.checks _ rfl rfl)
  · refine .bind h.nextUuid ?_
    intro nextUuid _
    refine .guard (h.checks _ rfl rfl) ?_
    intro _
    refine .bind (h.usedUuid uuid) ?_
    intro uuidSeq _
    split
    · exact .error (h.checks _ rfl rfl)
    · exact .ok _

theorem loadChannel (h : Reported P ext db faults) (channelId : UInt64) :
    Errors P (OpenEventCore.loadChannel ext db faults channelId) := by
  unfold OpenEventCore.loadChannel
  split
  · exact .ok _
  · exact h.channel channelId

theorem allocateUuidsBatch (h : Reported P ext db env.faults) (request : AllocateUuidsRequest) :
    Errors (Exit.Reports P) (OpenEventCore.allocateUuidsBatch db env request) := by
  refine .bind (plain_errors h.snapshot) ?_
  intro snapshot hsnapshot
  obtain rfl := createSnapshot_ok hsnapshot
  refine .bind (plain_errors h.nextUuid) ?_
  intro firstUuid _
  refine .bind (plain_errors (h.checks.setNextUuid _)) ?_
  intro batch _
  exact .ok _

theorem buildPublishBatch (h : Reported P ext db faults) (principal channelId seq uuid : UInt64)
    (recipients : List UInt64) (payload : Bytes) (objectKeys : List ObjectKey) (tsMs : UInt64) :
    Errors (Exit.Reports P) (OpenEventCore.buildPublishBatch ext db faults principal channelId seq
      uuid recipients payload objectKeys tsMs) := by
  unfold OpenEventCore.buildPublishBatch
  refine .guard (h.checks _ rfl rfl) ?_
  intro _
  refine .bind (plain_errors (h.loadChannel channelId)) ?_
  intro found _
  cases found with
  | none => exact .error (h.checks _ rfl rfl)
  | some channel =>
      refine .guard (h.checks _ rfl rfl) ?_
      intro _
      refine .bind (plain_errors (h.checks.validateRecipients channel recipients)) ?_
      intro _ _
      refine .bind (latching_errors (h.objects _)) ?_
      intro objects _
      refine .guard (h.checks _ rfl rfl) ?_
      intro _
      refine .bind (plain_errors (h.checks.putMessage _)) ?_
      intro _ _
      refine .bind (plain_errors (h.checks.putUsedUuid _ _)) ?_
      intro _ _
      exact plain_errors (.ok _)

theorem publishBatch (h : Reported P ext db env.faults) (request : PublishRequest)
    (tsMs : UInt64) :
    Errors (Exit.Reports P) (OpenEventCore.publishBatch ext config db env request tsMs) := by
  refine .bind (plain_errors (h.checks.checkRpcActive _)) ?_
  intro _ _
  refine .bind (plain_errors h.snapshot) ?_
  intro snapshot hsnapshot
  obtain rfl := createSnapshot_ok hsnapshot
  refine .bind (plain_errors (h.authenticate _ _)) ?_
  intro _ _
  refine .bind (plain_errors (h.validateAvailableUuid _)) ?_
  intro _ _
  refine .bind (plain_errors (h.checks.validatePayloadSize _ _)) ?_
  intro _ _
  refine .bind (plain_errors (h.checks.validateObjectKeysShape _)) ?_
  intro _ _
  refine .bind (plain_errors h.maxSeq) ?_
  intro maxSeq _
  refine .guard (h.checks _ rfl rfl) ?_
  intro _
  refine .bind (h.buildPublishBatch _ _ _ _ _ _ _ _) ?_
  intro batch _
  refine .bind (plain_errors (h.checks.checkRpcActive _)) ?_
  intro _ _
  exact .ok _

theorem publishAutoSeqBatch (h : Reported P ext db env.faults) (request : PublishAutoSeqRequest)
    (tsMs : UInt64) :
    Errors (Exit.Reports P) (OpenEventCore.publishAutoSeqBatch ext config db env request tsMs) := by
  refine .bind (plain_errors (h.checks.checkRpcActive _)) ?_
  intro _ _
  refine .bind (plain_errors h.snapshot) ?_
  intro snapshot hsnapshot
  obtain rfl := createSnapshot_ok hsnapshot
  refine .bind (plain_errors (h.authenticate _ _)) ?_
  intro _ _
  refine .bind (plain_errors (h.validateAvailableUuid _)) ?_
  intro _ _
  refine .bind (plain_errors (h.checks.validatePayloadSize _ _)) ?_
  intro _ _
  refine .bind (plain_errors (h.checks.validateObjectKeysShape _)) ?_
  intro _ _
  refine .bind (plain_errors h.maxSeq) ?_
  intro maxSeq _
  refine .bind (h.buildPublishBatch _ _ _ _ _ _ _ _) ?_
  intro batch _
  refine .bind (plain_errors (h.checks.checkRpcActive _)) ?_
  intro _ _
  exact .ok _

theorem buildChannelMutationBatch (h : Reported P ext db env.faults) (channel : ChannelInfo)
    (payload : Bytes) :
    Errors P (OpenEventCore.buildChannelMutationBatch ext db env channel payload) := by
  refine .bind h.maxSeq ?_
  intro maxSeq _
  refine .bind h.nextUuid ?_
  intro nextUuid _
  refine .bind (h.checks.putChannel _) ?_
  intro _ _
  refine .bind (h.checks.putMessage _) ?_
  intro _ _
  refine .bind (h.checks.putUsedUuid _ _) ?_
  intro _ _
  exact h.checks.setNextUuid _

theorem createChannelBatch (h : Reported P ext db env.faults) (request : CreateChannelRequest) :
    Errors (Exit.Reports P) (OpenEventCore.createChannelBatch ext db env request) := by
  refine .bind (plain_errors h.snapshot) ?_
  intro snapshot hsnapshot
  obtain rfl := createSnapshot_ok hsnapshot
  refine .bind (plain_errors (h.authenticate _ _)) ?_
  intro _ _
  refine .guard (h.checks _ rfl rfl) ?_
  intro _
  refine .bind (plain_errors h.nextChannelId) ?_
  intro nextChannelId _
  refine .bind (plain_errors (h.buildChannelMutationBatch _ _)) ?_
  intro batch _
  exact .ok _

theorem loadOwnedChannel (h : Reported P ext db faults) (request : MemberRequest)
    (denied : String) :
    Errors (Exit.Reports P) (OpenEventCore.loadOwnedChannel ext db faults request denied) := by
  refine .bind (plain_errors (h.authenticate _ _)) ?_
  intro _ _
  refine .guard (h.checks _ rfl rfl) ?_
  intro _
  refine .bind (plain_errors (h.loadChannel _)) ?_
  intro found _
  cases found with
  | none => exact .error (h.checks _ rfl rfl)
  | some channel =>
      refine .guard (h.checks _ rfl rfl) ?_
      intro _
      exact .ok _

theorem addMemberBatch (h : Reported P ext db env.faults) (request : MemberRequest) :
    Errors (Exit.Reports P) (OpenEventCore.addMemberBatch ext db env request) := by
  refine .bind (plain_errors h.snapshot) ?_
  intro snapshot hsnapshot
  obtain rfl := createSnapshot_ok hsnapshot
  refine .bind (h.loadOwnedChannel _ _) ?_
  intro channel _
  refine .guard (h.checks _ rfl rfl) ?_
  intro _
  refine .guard (h.checks _ rfl rfl) ?_
  intro _
  refine .bind (plain_errors (h.buildChannelMutationBatch _ _)) ?_
  intro batch _
  exact .ok _

/-- The call that finds nothing to remove: it returns OK without a batch. -/
structure NothingToRemove (ext : Externals) (db : Db) (faults : ReadFaults)
    (request : MemberRequest) (exit : Exit) : Prop where
  status : exit.status = .ok
  fatal : exit.fatal = false
  channel : ∃ channel, OpenEventCore.loadOwnedChannel ext db faults request
    "only creator can remove members" = .ok channel ∧
      isMember channel request.targetPrincipal = false

theorem removeMemberBatch (h : Reported P ext db env.faults) (request : MemberRequest) :
    Errors (fun exit => Exit.Reports P exit ∨ NothingToRemove ext db env.faults request exit)
      (OpenEventCore.removeMemberBatch ext db env request) := by
  have hleft {α : Type} {result : Except Exit α} (herrors : Errors (Exit.Reports P) result) :
      Errors (fun exit => Exit.Reports P exit ∨ NothingToRemove ext db env.faults request exit)
        result :=
    fun exit herror => Or.inl (herrors exit herror)
  refine .bind (hleft (plain_errors h.snapshot)) ?_
  intro snapshot hsnapshot
  obtain rfl := createSnapshot_ok hsnapshot
  refine .bind (hleft (h.loadOwnedChannel _ _)) ?_
  intro channel hchannel
  refine .guard (Or.inl (h.checks _ rfl rfl)) ?_
  intro _
  split
  · rename_i hnone
    exact .error (Or.inr ⟨rfl, rfl, channel, hchannel, hnone⟩)
  · refine .bind (hleft (plain_errors (h.buildChannelMutationBatch _ _))) ?_
    intro batch _
    exact .ok _

theorem addTokenBatch (h : Checks P) {random : List GetrandomResult} {generated : Result Bytes}
    (hgenerated : generateToken random = some generated) (request : AddTokenRequest) :
    Errors (Exit.Reports P) (OpenEventCore.addTokenBatch request generated) := by
  refine .bind (plain_errors (h.generateToken hgenerated)) ?_
  intro token _
  exact .ok _

/-- How a section of a mutation returns early. -/
theorem mutationBatch (h : Reported P ext db env.faults) {tsMs : UInt64} {operation : Mutation}
    {built : Except Exit (WriteBatch × ResponseData)}
    (hbuilt : operation.batch ext config db env tsMs = some built) :
    Errors (fun exit => Exit.Reports P exit ∨
      ∃ request, operation = .removeMember request ∧
        NothingToRemove ext db env.faults request exit) built := by
  have hleft {α : Type} {result : Except Exit α} (herrors : Errors (Exit.Reports P) result) :
      Errors (fun exit => Exit.Reports P exit ∨
        ∃ request, operation = .removeMember request ∧
          NothingToRemove ext db env.faults request exit) result :=
    fun exit herror => Or.inl (herrors exit herror)
  cases operation with
  | allocateUuids request =>
      cases hbuilt
      exact hleft (h.allocateUuidsBatch request)
  | publish request =>
      cases hbuilt
      exact hleft (h.publishBatch request tsMs)
  | publishAutoSeq request =>
      cases hbuilt
      exact hleft (h.publishAutoSeqBatch request tsMs)
  | createChannel request =>
      cases hbuilt
      exact hleft (h.createChannelBatch request)
  | addMember request =>
      cases hbuilt
      exact hleft (h.addMemberBatch request)
  | removeMember request =>
      cases hbuilt
      intro exit herror
      rcases h.removeMemberBatch request exit herror with hreports | hnothing
      · exact Or.inl hreports
      · exact Or.inr ⟨request, rfl, hnothing⟩
  | addToken request =>
      obtain ⟨generated, hgenerated, rfl⟩ := Option.map_eq_some_iff.mp hbuilt
      exact hleft (addTokenBatch h.checks hgenerated request)
  | deleteToken request =>
      cases hbuilt
      exact .ok _

theorem prepareBatch (h : Reported P ext db env.faults) (request : WriteObjectRequest)
    (object : StoredObject) :
    Errors P (OpenEventCore.prepareBatch ext db env request object) := by
  refine .bind h.snapshot ?_
  intro snapshot hsnapshot
  obtain rfl := (reads_createSnapshot db env.faults).of_ok hsnapshot
  refine .bind (h.authenticate _ _) ?_
  intro _ _
  refine .bind h.nextObjectId ?_
  intro nextObjectId _
  refine .bind (.bind (h.checks.serializeObject _) ?_) ?_
  · intro payload _
    exact .ok _
  · intro batch _
    exact .ok _

end Reported

/-! ### What the getters report -/

/-- The property holds of the statuses by which storage reads fail. -/
structure StorageErrors (P : Status → Prop) : Prop where
  rocks : ∀ status operation, P (rocksToStatus status operation)
  corruption : ∀ operation error, P (Status.storageCorruption operation error)
  snapshot : P ((Status.fatal .unavailable "create storage snapshot failed").withStorageDiagnostic
    "create storage snapshot" "RocksDB returned no snapshot")

namespace StorageErrors

variable {P : Status → Prop} {ext : Externals}

theorem createSnapshot (h : StorageErrors P) (db : Db) (faults : ReadFaults) :
    Errors P (UnifiedStorage.createSnapshot db faults) := by
  unfold UnifiedStorage.createSnapshot
  split
  · exact .error h.snapshot
  · exact .ok _

theorem decodeRequiredUint64 (h : StorageErrors P) (value : Bytes) (description : String) :
    Errors P (OpenEvent.decodeRequiredUint64 value description) := by
  unfold OpenEvent.decodeRequiredUint64
  split
  · exact .error (h.corruption _ _)
  · exact .ok _

theorem getRequiredUint64 (h : StorageErrors P) (db : Db) (faults : ReadFaults) (key : String) :
    Errors P (UnifiedStorage.getRequiredUint64 db faults key) := by
  unfold UnifiedStorage.getRequiredUint64
  split
  · exact .error (h.rocks _ _)
  · exact .error (h.corruption _ _)
  · exact h.decodeRequiredUint64 _ _

theorem getUsedUuidSeq (h : StorageErrors P) (db : Db) (faults : ReadFaults) (uuid : UInt64) :
    Errors P (UnifiedStorage.getUsedUuidSeq db faults uuid) := by
  unfold UnifiedStorage.getUsedUuidSeq
  split
  · exact .error (h.rocks _ _)
  · exact .ok _
  · refine .bind (h.decodeRequiredUint64 _ _) ?_
    intro seq _
    exact .guard (h.corruption _ _) (fun _ => .ok _)

theorem hasToken (h : StorageErrors P) (db : Db) (faults : ReadFaults) (principal : UInt64)
    (token : Bytes) : Errors P (UnifiedStorage.hasToken db faults principal token) := by
  unfold UnifiedStorage.hasToken
  split
  · exact .error (h.rocks _ _)
  · exact .ok _
  · split
    · exact .error (h.corruption _ _)
    · exact .ok _

theorem parseChannel (h : StorageErrors P) (value : Bytes) (channelId : UInt64)
    (operation : String) :
    Errors P (UnifiedStorage.parseChannel ext value channelId operation) := by
  unfold UnifiedStorage.parseChannel
  split
  · exact .error (h.corruption _ _)
  · split
    · exact .error (h.corruption _ _)
    · exact .ok _

theorem getChannel (h : StorageErrors P) (db : Db) (faults : ReadFaults) (channelId : UInt64) :
    Errors P (UnifiedStorage.getChannel ext db faults channelId) := by
  unfold UnifiedStorage.getChannel
  split
  · exact .error (h.rocks _ _)
  · exact .ok _
  · exact .bind (h.parseChannel _ _ _) (fun _ _ => .ok _)

theorem parseObject (h : StorageErrors P) (payload : Bytes) (expectedId : UInt64) :
    Errors P (OpenEvent.parseObject ext payload expectedId) := by
  unfold OpenEvent.parseObject
  split
  · exact .error (h.corruption _ _)
  · split
    · exact .error (h.corruption _ _)
    · exact .ok _

theorem getObject (h : StorageErrors P) (db : Db) (faults : ReadFaults) (keyPrefix : String)
    (objectId : UInt64) :
    Errors P (UnifiedStorage.getObject ext db faults keyPrefix objectId) := by
  unfold UnifiedStorage.getObject
  split
  · exact .error (h.rocks _ _)
  · exact .ok _
  · exact .bind (h.parseObject _ _) (fun _ _ => .ok _)

theorem listPreparingLoop (h : StorageErrors P) (status : Option RocksStatus)
    (entries : List (Bytes × Bytes)) :
    Errors P (UnifiedStorage.listPreparingLoop ext status entries) := by
  induction entries with
  | nil =>
      cases status with
      | none => exact .ok _
      | some reported => exact .error (h.rocks _ _)
  | cons entry rest ih =>
      rw [UnifiedStorage.listPreparingLoop]
      split
      · exact .ok _
      · refine .bind ?_ ?_
        · unfold decodeNumericKey
          split
          · exact .error (h.corruption _ _)
          · exact .ok _
        · intro objectId _
          refine .bind (h.parseObject _ _) ?_
          intro object _
          exact .bind ih (fun _ _ => .ok _)

theorem planRecovery (h : StorageErrors P) (db : Db) (faults : ReadFaults) :
    Errors P (UnifiedStorage.planRecovery ext db faults) := by
  have hchecked (objects : List StoredObject) (snapshot : Db) :
      Errors P (UnifiedStorage.checkNotCommitted ext snapshot faults objects) := by
    induction objects with
    | nil => exact .ok _
    | cons first rest ih =>
        refine .bind (h.getObject snapshot faults _ _) ?_
        intro committed _
        exact .guard (h.corruption _ _) (fun _ => ih)
  refine .bind (h.listPreparingLoop _ _) ?_
  intro objects _
  split
  · exact .ok _
  · refine .bind (h.createSnapshot db faults) ?_
    intro snapshot _
    exact .bind (hchecked objects snapshot) (fun _ _ => .ok _)

theorem getCommittedObjects (h : StorageErrors P) (db : Db) (faults : ReadFaults)
    (objectIds : List UInt64) :
    Errors P (UnifiedStorage.getCommittedObjects ext db faults objectIds) := by
  induction objectIds with
  | nil => exact .ok _
  | cons first rest ih =>
      refine .bind (h.getObject db faults _ first) ?_
      intro object _
      exact .bind ih (fun _ _ => .ok _)

/-- The getters of any database report only such statuses. -/
theorem reported (h : StorageErrors P) (hchecks : Checks P) (ext : Externals) (db : Db)
    (faults : ReadFaults) : Reported P ext db faults where
  checks := hchecks
  snapshot := h.createSnapshot db faults
  maxSeq := h.getRequiredUint64 db faults kMaxSeqKey
  nextUuid := h.getRequiredUint64 db faults kNextUuidKey
  nextChannelId := h.getRequiredUint64 db faults kNextChannelIdKey
  nextObjectId := h.getRequiredUint64 db faults kNextObjectIdKey
  usedUuid := h.getUsedUuidSeq db faults
  token := h.hasToken db faults
  channel := h.getChannel db faults
  objects := h.getCommittedObjects db faults

end StorageErrors

/-! ### Refusals -/

/-- A status by which a call is turned away. -/
def Status.Refuses (status : Status) : Prop := status.isOk = false

theorem refuses_checks : Checks Status.Refuses := fun _ hok _ => hok

theorem refuses_storageErrors : StorageErrors Status.Refuses :=
  ⟨rocksToStatus_not_ok, fun _ _ => rfl, rfl⟩

/-- No getter reports an error under an OK status, whatever the database holds. -/
theorem reported_refuses (ext : Externals) (db : Db) (faults : ReadFaults) :
    Reported Status.Refuses ext db faults :=
  refuses_storageErrors.reported refuses_checks ext db faults

end OpenEvent
