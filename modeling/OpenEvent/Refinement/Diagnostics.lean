import OpenEvent.GrpcServices
import OpenEvent.Refinement.Reported

/-!
What the statuses of fatal errors say for the log: on any database, in any directory
and whatever fails, the diagnostic of such a status is one of a fixed set of texts of
the server, in which nothing varies but a number that the server assigned and the
RocksDB text that is rebuilt from enums.
-/

namespace OpenEvent

open OpenEventCore Fallible

/-! ### Diagnostics -/

/-- What RocksDB is asked to do. -/
def rocksOperations : List String :=
  counterKeys.map ("read " ++ ·) ++
    ["read used uuid", "read credential", "read channel", "list channels", "scan messages",
     "read object metadata", "commit storage batch"]

/-- What is wrong with a record, next to what was being done with it. -/
def recordFaults : List (String × String) :=
  [("read used uuid", "invalid stored UUID mapping"),
   ("read credential", "invalid stored credential"),
   ("read channel", "invalid stored channel"),
   ("list channels", "invalid stored channel"),
   ("decode object metadata", "invalid stored object metadata"),
   ("scan messages", "invalid stored message"),
   ("scan messages", "invalid stored message reserved fields"),
   ("scan messages", "invalid stored message object reference"),
   ("scan visible messages", "message references a missing channel"),
   ("scan subscription messages", "message references a missing channel"),
   ("commit object metadata", "preparing object metadata changed unexpectedly"),
   ("read committed object file", "invalid committed object metadata")]

/-- What is wrong with a file, before its name. -/
def fileFaults : List (String × String) :=
  [("create temporary object file", "unexpected existing temporary object file: "),
   ("rename temporary object file", "unexpected existing final object file: "),
   ("remove object path", "object path is not a removable file: "),
   ("stat committed object file", "committed object file type or size mismatch: "),
   ("read committed object file", "committed object file is truncated: ")]

/-- An operation and an error that a diagnostic may name, where `texts` are the texts of
the RocksDB enums. -/
inductive Diagnostic (texts : Set String) : String → String → Prop
  | noSnapshot : Diagnostic texts "create storage snapshot" "RocksDB returned no snapshot"
  | rocks {operation error : String} : operation ∈ rocksOperations → error ∈ texts →
      Diagnostic texts operation error
  | missingCounter {key : String} : key ∈ counterKeys →
      Diagnostic texts ("read " ++ key) ("missing required storage key: " ++ key)
  | encoding {description : String} : description ∈ "used uuid" :: counterKeys →
      Diagnostic texts ("decode " ++ description) ("invalid " ++ description ++ " encoding")
  | key {description : String} : description ∈ ["channel", "message"] →
      Diagnostic texts ("decode " ++ description) ("invalid " ++ description ++ " key")
  | record {operation error : String} : (operation, error) ∈ recordFaults →
      Diagnostic texts operation error
  | missingMessage (seq : UInt64) :
      Diagnostic texts "scan messages" ("missing stored message at seq " ++ toString seq.toNat)
  | finalFile {operation error : String} (objectId : UInt64) : (operation, error) ∈ fileFaults →
      Diagnostic texts operation (error ++ finalName objectId)
  | temporaryFile {operation error : String} (objectId : UInt64) :
      (operation, error) ∈ fileFaults → Diagnostic texts operation (error ++ temporaryName objectId)
  | missingFile (objectId : UInt64) {error : Errno} : error = .enoent ∨ error = .eloop →
      Diagnostic texts ("open committed object file " ++ finalName objectId)
        (errnoMessage ("open committed object file " ++ finalName objectId) error)

/-- A fatal status has a code for storage errors and a diagnostic. -/
def Status.Classified (texts : Set String) (status : Status) : Prop :=
  status.isFatal = true → (status.code = .unavailable ∨ status.code = .dataLoss) ∧
    ∃ operation error, Diagnostic texts operation error ∧
      status.storageDiagnostic = "operation=" ++ operation ++ "; error=" ++ error

variable {texts : Set String}

theorem Status.Classified.of_not_fatal {status : Status} (h : status.isFatal = false) :
    status.Classified texts := by
  intro hfatal
  rw [h] at hfatal
  cases hfatal

theorem classified_checks : Checks (Status.Classified texts) :=
  fun _ _ hfatal => .of_not_fatal hfatal

theorem classified_rocks {operation : String} {status : RocksStatus}
    (htext : status.diagnostic ∈ texts) (h : operation ∈ rocksOperations) :
    (rocksToStatus status operation).Classified texts := by
  intro _
  refine ⟨?_, operation, _, .rocks h htext, rfl⟩
  rw [rocksToStatus_code]
  split
  · exact Or.inr rfl
  · exact Or.inl rfl

theorem classified_corruption {operation error : String} (h : Diagnostic texts operation error) :
    (Status.storageCorruption operation error).Classified texts :=
  fun _ => ⟨Or.inr rfl, operation, error, h, rfl⟩

/-! ### Lines -/

/-- The text does not break a line of the log. -/
def oneLine (text : String) : Bool := !text.toList.contains '\n'

theorem oneLine_append {first second : String} (hfirst : oneLine first = true)
    (hsecond : oneLine second = true) : oneLine (first ++ second) = true := by
  simp only [oneLine, Bool.not_eq_true', List.contains_eq_mem, decide_eq_false_iff_not] at *
  rw [String.toList_append, List.mem_append]
  exact not_or.mpr ⟨hfirst, hsecond⟩

theorem oneLine_number (n : Nat) : oneLine (toString n) = true := by
  have hdigits : (toString n).toList = Nat.toDigits 10 n := by
    simp [toString, Nat.repr]
  simp only [oneLine, Bool.not_eq_true', List.contains_eq_mem, decide_eq_false_iff_not, hdigits]
  intro hmem
  have hdigit := Nat.isDigit_of_mem_toDigits (by decide) (by decide) hmem
  exact absurd hdigit (by decide)

theorem finalName_oneLine (objectId : UInt64) : oneLine (finalName objectId) = true :=
  oneLine_number _

theorem temporaryName_oneLine (objectId : UInt64) : oneLine (temporaryName objectId) = true :=
  oneLine_append (by decide +kernel) (oneLine_number _)

theorem rocksOperations_oneLine : rocksOperations.all oneLine = true := by decide +kernel

theorem counterKeys_oneLine : ("used uuid" :: counterKeys).all oneLine = true := by decide +kernel

theorem recordFaults_oneLine :
    recordFaults.all (fun fault => oneLine fault.1 && oneLine fault.2) = true := by
  decide +kernel

theorem fileFaults_oneLine :
    fileFaults.all (fun fault => oneLine fault.1 && oneLine fault.2) = true := by
  decide +kernel

/-- Only a text of the enums could break the line. -/
theorem Diagnostic.oneLine {operation error : String} (h : Diagnostic texts operation error)
    (htexts : ∀ text ∈ texts, OpenEvent.oneLine text = true) :
    OpenEvent.oneLine operation = true ∧ OpenEvent.oneLine error = true := by
  cases h with
  | noSnapshot => exact ⟨by decide +kernel, by decide +kernel⟩
  | rocks hoperation htext =>
      exact ⟨List.all_eq_true.mp rocksOperations_oneLine _ hoperation, htexts _ htext⟩
  | missingCounter hkey =>
      have hline := List.all_eq_true.mp counterKeys_oneLine _ (List.mem_cons_of_mem _ hkey)
      exact ⟨oneLine_append (by decide +kernel) hline, oneLine_append (by decide +kernel) hline⟩
  | encoding hdescription =>
      have hline := List.all_eq_true.mp counterKeys_oneLine _ hdescription
      exact ⟨oneLine_append (by decide +kernel) hline,
        oneLine_append (oneLine_append (by decide +kernel) hline) (by decide +kernel)⟩
  | key hdescription =>
      have hkeys : ["channel", "message"].all OpenEvent.oneLine = true := by decide +kernel
      have hline := List.all_eq_true.mp hkeys _ hdescription
      exact ⟨oneLine_append (by decide +kernel) hline,
        oneLine_append (oneLine_append (by decide +kernel) hline) (by decide +kernel)⟩
  | record hfault =>
      exact Bool.and_eq_true_iff.mp (List.all_eq_true.mp recordFaults_oneLine _ hfault)
  | missingMessage seq =>
      exact ⟨by decide +kernel, oneLine_append (by decide +kernel) (oneLine_number _)⟩
  | finalFile objectId hfault =>
      have hlines := Bool.and_eq_true_iff.mp (List.all_eq_true.mp fileFaults_oneLine _ hfault)
      exact ⟨hlines.1, oneLine_append hlines.2 (finalName_oneLine objectId)⟩
  | temporaryFile objectId hfault =>
      have hlines := Bool.and_eq_true_iff.mp (List.all_eq_true.mp fileFaults_oneLine _ hfault)
      exact ⟨hlines.1, oneLine_append hlines.2 (temporaryName_oneLine objectId)⟩
  | @missingFile objectId error herror =>
      have hoperation := oneLine_append
        (by decide +kernel : OpenEvent.oneLine "open committed object file " = true)
        (finalName_oneLine objectId)
      refine ⟨hoperation, oneLine_append (oneLine_append hoperation (by decide +kernel)) ?_⟩
      rcases herror with rfl | rfl
      · decide +kernel
      · decide +kernel

/-! ### Getters -/

/-- The RocksDB statuses that reads meet print as texts of the enums. -/
structure ReadFaults.Prints (texts : Set String) (faults : ReadFaults) : Prop where
  get : ∀ family key status, faults.get family key = some status → status.diagnostic ∈ texts
  iterator : ∀ family count status, faults.iterator family = some (count, status) →
    status.diagnostic ∈ texts

theorem ReadFaults.Prints.get_error {faults : ReadFaults} (h : faults.Prints texts) {db : Db}
    {family : ColumnFamily} {key : Bytes} {status : RocksStatus}
    (herror : db.get faults family key = .error status) : status.diagnostic ∈ texts := by
  unfold Db.get at herror
  split at herror
  · rename_i hfault
    cases herror
    exact h.get _ _ _ hfault
  · cases herror

theorem ReadFaults.Prints.iterate_error {faults : ReadFaults} (h : faults.Prints texts) {db : Db}
    {family : ColumnFamily} {start : Bytes} {status : RocksStatus}
    (herror : (db.iterate faults family start).2 = some status) : status.diagnostic ∈ texts := by
  unfold Db.iterate at herror
  split at herror
  · rename_i hfault
    cases herror
    exact h.iterator _ _ _ hfault
  · cases herror

section Getters

variable {texts : Set String} {ext : Externals} (db : Db) {faults : ReadFaults}

theorem createSnapshot_classified (faults : ReadFaults) : Errors (Status.Classified texts)
    (UnifiedStorage.createSnapshot db faults) := by
  unfold UnifiedStorage.createSnapshot
  split
  · exact .error (fun _ => ⟨Or.inl rfl, _, _, .noSnapshot, rfl⟩)
  · exact .ok _

theorem decodeRequiredUint64_classified (value : Bytes) {description : String}
    (h : description ∈ "used uuid" :: counterKeys) :
    Errors (Status.Classified texts) (decodeRequiredUint64 value description) := by
  unfold decodeRequiredUint64
  split
  · exact .error (classified_corruption (.encoding h))
  · exact .ok _

theorem getRequiredUint64_classified (hfaults : faults.Prints texts) {key : String}
    (h : key ∈ counterKeys) :
    Errors (Status.Classified texts) (UnifiedStorage.getRequiredUint64 db faults key) := by
  unfold UnifiedStorage.getRequiredUint64
  split
  · rename_i hfailed
    refine .error (classified_rocks (hfaults.get_error hfailed) ?_)
    exact List.mem_append_left _ (List.mem_map_of_mem h)
  · exact .error (classified_corruption (.missingCounter h))
  · exact decodeRequiredUint64_classified _ (List.mem_cons_of_mem _ h)

theorem getUsedUuidSeq_classified (hfaults : faults.Prints texts) (uuid : UInt64) :
    Errors (Status.Classified texts) (UnifiedStorage.getUsedUuidSeq db faults uuid) := by
  unfold UnifiedStorage.getUsedUuidSeq
  split
  · rename_i hfailed
    exact .error (classified_rocks (hfaults.get_error hfailed) (by simp [rocksOperations]))
  · exact .ok _
  · refine .bind (decodeRequiredUint64_classified _ List.mem_cons_self) ?_
    intro seq _
    exact .guard (classified_corruption (.record (by simp [recordFaults]))) (fun _ => .ok _)

theorem hasToken_classified (hfaults : faults.Prints texts) (principal : UInt64) (token : Bytes) :
    Errors (Status.Classified texts) (UnifiedStorage.hasToken db faults principal token) := by
  unfold UnifiedStorage.hasToken
  split
  · rename_i hfailed
    exact .error (classified_rocks (hfaults.get_error hfailed) (by simp [rocksOperations]))
  · exact .ok _
  · split
    · exact .error (classified_corruption (.record (by simp [recordFaults])))
    · exact .ok _

theorem parseChannel_classified (value : Bytes) (channelId : UInt64) {operation : String}
    (h : (operation, "invalid stored channel") ∈ recordFaults) :
    Errors (Status.Classified texts)
      (UnifiedStorage.parseChannel ext value channelId operation) := by
  unfold UnifiedStorage.parseChannel
  split
  · exact .error (classified_corruption (.record h))
  · split
    · exact .error (classified_corruption (.record h))
    · exact .ok _

theorem getChannel_classified (hfaults : faults.Prints texts) (channelId : UInt64) :
    Errors (Status.Classified texts) (UnifiedStorage.getChannel ext db faults channelId) := by
  unfold UnifiedStorage.getChannel
  split
  · rename_i hfailed
    exact .error (classified_rocks (hfaults.get_error hfailed) (by simp [rocksOperations]))
  · exact .ok _
  · refine .bind (parseChannel_classified _ _ (by simp [recordFaults])) ?_
    intro channel _
    exact .ok _

theorem decodeNumericKey_classified (key : Bytes) (keyPrefix : String) {description : String}
    (h : description ∈ ["channel", "message"]) :
    Errors (Status.Classified texts) (decodeNumericKey key keyPrefix description) := by
  unfold decodeNumericKey
  split
  · exact .error (classified_corruption (.key h))
  · exact .ok _

theorem listChannels_classified (hfaults : faults.Prints texts) :
    Errors (Status.Classified texts) (UnifiedStorage.listChannels ext db faults) := by
  have hloop {status : Option RocksStatus}
      (hstatus : ∀ reported, status = some reported → reported.diagnostic ∈ texts)
      (entries : List (Bytes × Bytes)) :
      Errors (Status.Classified texts) (UnifiedStorage.listChannelsLoop ext status entries) := by
    induction entries with
    | nil =>
        cases status with
        | none => exact .ok _
        | some reported =>
            exact .error (classified_rocks (hstatus reported rfl) (by simp [rocksOperations]))
    | cons entry rest ih =>
        rw [UnifiedStorage.listChannelsLoop]
        split
        · exact .ok _
        · refine .bind (decodeNumericKey_classified _ _ (by simp)) ?_
          intro channelId _
          refine .bind (parseChannel_classified _ _ (by simp [recordFaults])) ?_
          intro channel _
          exact .bind ih (fun _ _ => .ok _)
  exact hloop (fun _ hreported => hfaults.iterate_error hreported) _

theorem getObject_classified (hfaults : faults.Prints texts) (keyPrefix : String)
    (objectId : UInt64) :
    Errors (Status.Classified texts)
      (UnifiedStorage.getObject ext db faults keyPrefix objectId) := by
  unfold UnifiedStorage.getObject
  split
  · rename_i hfailed
    exact .error (classified_rocks (hfaults.get_error hfailed) (by simp [rocksOperations]))
  · exact .ok _
  · refine .bind ?_ (fun _ _ => .ok _)
    unfold parseObject
    split
    · exact .error (classified_corruption (.record (by simp [recordFaults])))
    · split
      · exact .error (classified_corruption (.record (by simp [recordFaults])))
      · exact .ok _

theorem getCommittedObjects_classified (hfaults : faults.Prints texts) (objectIds : List UInt64) :
    Errors (Status.Classified texts)
      (UnifiedStorage.getCommittedObjects ext db faults objectIds) := by
  induction objectIds with
  | nil => exact .ok _
  | cons first rest ih =>
      refine .bind (getObject_classified db hfaults _ first) ?_
      intro object _
      exact .bind ih (fun _ _ => .ok _)

/-- The getters of any database report classified errors only. -/
theorem classified_reported (hfaults : faults.Prints texts) (ext : Externals) : Reported
    (Status.Classified texts) ext db faults where
  checks := classified_checks
  snapshot := createSnapshot_classified db faults
  maxSeq := getRequiredUint64_classified db hfaults (by simp [counterKeys])
  nextUuid := getRequiredUint64_classified db hfaults (by simp [counterKeys])
  nextChannelId := getRequiredUint64_classified db hfaults (by simp [counterKeys])
  nextObjectId := getRequiredUint64_classified db hfaults (by simp [counterKeys])
  usedUuid := getUsedUuidSeq_classified db hfaults
  token := hasToken_classified db hfaults
  channel := getChannel_classified db hfaults
  objects := getCommittedObjects_classified db hfaults

end Getters

/-! ### Early returns -/

/-- Only fatal statuses go through the latch. -/
def Exit.Latches (exit : Exit) : Prop := exit.fatal = true → exit.status.isFatal = true

def Exit.Classified (texts : Set String) (exit : Exit) : Prop :=
  exit.status.Classified texts ∧ exit.Latches

section Latches

variable {α : Type}

theorem latches_plain (status : Status) : Exit.Latches { status } := by
  intro hfatal
  cases hfatal

theorem plain_latches (result : Result α) : Errors Exit.Latches (plain result) := by
  cases result with
  | error status => exact .error (latches_plain status)
  | ok value => exact .ok value

theorem latching_latches (result : Result α) : Errors Exit.Latches (latching result) := by
  cases result with
  | error status => exact .error (fun hfatal => hfatal)
  | ok value => exact .ok value

theorem exits_classified {computation : Except Exit α}
    (hstatus : Errors (Exit.Reports (Status.Classified texts)) computation)
    (hlatches : Errors Exit.Latches computation) : Errors (Exit.Classified texts) computation :=
  fun exit herror => ⟨hstatus exit herror, hlatches exit herror⟩

theorem plain_classified {result : Result α} (h : Errors (Status.Classified texts) result) :
    Errors (Exit.Classified texts) (plain result) :=
  exits_classified (plain_errors h) (plain_latches result)

theorem latching_classified {result : Result α} (h : Errors (Status.Classified texts) result) :
    Errors (Exit.Classified texts) (latching result) :=
  exits_classified (latching_errors h) (latching_latches result)

end Latches

/-! ### Mutations -/

section Mutations

variable (ext : Externals) (config : Config) (db : Db) (env : CallEnv) (faults : ReadFaults)

theorem buildPublishBatch_latches (principal channelId seq uuid : UInt64)
    (recipients : List UInt64) (payload : Bytes) (objectKeys : List ObjectKey) (tsMs : UInt64) :
    Errors Exit.Latches (buildPublishBatch ext db faults principal channelId seq uuid recipients
      payload objectKeys tsMs) := by
  unfold buildPublishBatch
  refine .guard (latches_plain _) ?_
  intro _
  refine .bind (plain_latches _) ?_
  intro found _
  cases found with
  | none => exact .error (latches_plain _)
  | some channel =>
      refine .guard (latches_plain _) ?_
      intro _
      refine .bind (plain_latches _) ?_
      intro _ _
      refine .bind (latching_latches _) ?_
      intro objects _
      refine .guard (latches_plain _) ?_
      intro _
      refine .bind (plain_latches _) ?_
      intro _ _
      exact .bind (plain_latches _) (fun _ _ => plain_latches _)

theorem publishBatch_latches (request : PublishRequest) (tsMs : UInt64) :
    Errors Exit.Latches (publishBatch ext config db env request tsMs) := by
  refine .bind (plain_latches _) (fun _ _ => .bind (plain_latches _) ?_)
  intro snapshot _
  refine .bind (plain_latches _) (fun _ _ => .bind (plain_latches _) ?_)
  intro _ _
  refine .bind (plain_latches _) (fun _ _ => .bind (plain_latches _) ?_)
  intro _ _
  refine .bind (plain_latches _) ?_
  intro maxSeq _
  refine .guard (latches_plain _) ?_
  intro _
  refine .bind (buildPublishBatch_latches _ _ _ _ _ _ _ _ _ _ _) ?_
  intro batch _
  exact .bind (plain_latches _) (fun _ _ => .ok _)

theorem publishAutoSeqBatch_latches (request : PublishAutoSeqRequest) (tsMs : UInt64) :
    Errors Exit.Latches (publishAutoSeqBatch ext config db env request tsMs) := by
  refine .bind (plain_latches _) (fun _ _ => .bind (plain_latches _) ?_)
  intro snapshot _
  refine .bind (plain_latches _) (fun _ _ => .bind (plain_latches _) ?_)
  intro _ _
  refine .bind (plain_latches _) (fun _ _ => .bind (plain_latches _) ?_)
  intro _ _
  refine .bind (plain_latches _) ?_
  intro maxSeq _
  refine .bind (buildPublishBatch_latches _ _ _ _ _ _ _ _ _ _ _) ?_
  intro batch _
  exact .bind (plain_latches _) (fun _ _ => .ok _)

theorem createChannelBatch_latches (request : CreateChannelRequest) :
    Errors Exit.Latches (createChannelBatch ext db env request) := by
  refine .bind (plain_latches _) (fun _ _ => .bind (plain_latches _) ?_)
  intro _ _
  refine .guard (latches_plain _) ?_
  intro _
  refine .bind (plain_latches _) (fun _ _ => .bind (plain_latches _) ?_)
  intro batch _
  exact .bind (plain_latches _) (fun _ _ => .ok _)

theorem loadOwnedChannel_latches (request : MemberRequest) (denied : String) :
    Errors Exit.Latches (loadOwnedChannel ext db faults request denied) := by
  refine .bind (plain_latches _) ?_
  intro _ _
  refine .guard (latches_plain _) ?_
  intro _
  refine .bind (plain_latches _) ?_
  intro found _
  cases found with
  | none => exact .error (latches_plain _)
  | some channel => exact .guard (latches_plain _) (fun _ => .ok _)

theorem addMemberBatch_latches (request : MemberRequest) :
    Errors Exit.Latches (addMemberBatch ext db env request) := by
  refine .bind (plain_latches _) (fun _ _ => .bind (loadOwnedChannel_latches _ _ _ _ _) ?_)
  intro channel _
  refine .guard (latches_plain _) (fun _ => .guard (latches_plain _) ?_)
  intro _
  exact .bind (plain_latches _) (fun _ _ => .ok _)

theorem removeMemberBatch_latches (request : MemberRequest) :
    Errors Exit.Latches (removeMemberBatch ext db env request) := by
  refine .bind (plain_latches _) (fun _ _ => .bind (loadOwnedChannel_latches _ _ _ _ _) ?_)
  intro channel _
  refine .guard (latches_plain _) (fun _ => .guard (latches_plain _) ?_)
  intro _
  exact .bind (plain_latches _) (fun _ _ => .ok _)

theorem mutationBatch_latches {tsMs : UInt64} {operation : Mutation}
    {built : Except Exit (WriteBatch × ResponseData)}
    (h : operation.batch ext config db env tsMs = some built) : Errors Exit.Latches built := by
  cases operation with
  | allocateUuids request =>
      cases h
      refine .bind (plain_latches _) (fun _ _ => .bind (plain_latches _) ?_)
      intro _ _
      exact .bind (plain_latches _) (fun _ _ => .ok _)
  | publish request =>
      cases h
      exact publishBatch_latches ext config db env request tsMs
  | publishAutoSeq request =>
      cases h
      exact publishAutoSeqBatch_latches ext config db env request tsMs
  | createChannel request =>
      cases h
      exact createChannelBatch_latches ext db env request
  | addMember request =>
      cases h
      exact addMemberBatch_latches ext db env request
  | removeMember request =>
      cases h
      exact removeMemberBatch_latches ext db env request
  | addToken request =>
      obtain ⟨generated, _, rfl⟩ := Option.map_eq_some_iff.mp h
      exact .bind (plain_latches _) (fun _ _ => .bind (plain_latches _) (fun _ _ => .ok _))
  | deleteToken request =>
      cases h
      exact .ok _

/-- The sections of the mutations return early with classified statuses. -/
theorem mutationBatch_classified (hfaults : env.faults.Prints texts) {tsMs : UInt64}
    {operation : Mutation} {built : Except Exit (WriteBatch × ResponseData)}
    (h : operation.batch ext config db env tsMs = some built) :
    Errors (Exit.Classified texts) built := by
  refine exits_classified ?_ (mutationBatch_latches ext config db env h)
  intro exit herror
  have hreported := (classified_reported db hfaults ext).mutationBatch h exit herror
  rcases hreported with hreports | ⟨_, _, hnothing⟩
  · exact hreports
  · refine .of_not_fatal ?_
    rw [hnothing.status]
    rfl

end Mutations

/-! ### Scans -/

section Scans

variable {texts : Set String} {ext : Externals} {config : Config} (db : Db) {faults : ReadFaults}

theorem checkMessage_classified (seq : UInt64) (value : Bytes) :
    Errors (Status.Classified texts) (UnifiedStorage.checkMessage ext seq value) := by
  unfold UnifiedStorage.checkMessage
  split
  · exact .error (classified_corruption (.record (by simp [recordFaults])))
  · split
    · exact .error (classified_corruption (.record (by simp [recordFaults])))
    · split
      · exact .error (classified_corruption (.record (by simp [recordFaults])))
      · split
        · exact .error (classified_corruption (.record (by simp [recordFaults])))
        · exact .ok _

theorem missingMessage_classified (seq : UInt64) :
    (UnifiedStorage.missingMessage seq).Classified texts :=
  classified_corruption (.missingMessage seq)

/-- The loop returns what the visitor returns, or an error about one record. -/
theorem scanLoop_classified {σ : Type} {lastSeq maxRecords : UInt64}
    {visitor : σ → EventMessage → σ × Result UnifiedStorage.MessageScanAction}
    (hvisit : ∀ state message, Errors (Status.Classified texts) (visitor state message).2)
    {entries : List (Bytes × Bytes)} {state last : σ} {scanned nextSeq : UInt64}
    {result : Result UInt64}
    (h : UnifiedStorage.scanLoop ext lastSeq maxRecords visitor entries state scanned nextSeq =
      .returned last result) : Errors (Status.Classified texts) result := by
  induction entries generalizing state scanned nextSeq with
  | nil => cases h
  | cons entry rest ih =>
      unfold UnifiedStorage.scanLoop at h
      split at h
      · cases h
      · split at h
        · rename_i status hkey
          cases h
          exact .error (decodeNumericKey_classified _ _ (by simp) status hkey)
        · split at h
          · cases h
          · split at h
            · cases h
              exact .error (missingMessage_classified nextSeq)
            · split at h
              · cases h
              · split at h
                · rename_i status hcheck
                  cases h
                  exact .error (checkMessage_classified _ _ status hcheck)
                · rename_i message _
                  have hvisited := hvisit state message
                  split at h
                  · rename_i hrefused
                    cases h
                    rw [hrefused] at hvisited
                    exact .error (hvisited _ rfl)
                  · cases h
                    exact .ok _
                  · cases h
                    exact .ok _
                  · exact ih h

theorem scanMessages_classified (hfaults : faults.Prints texts) {σ : Type}
    {fromSeq lastSeq maxRecords : UInt64}
    {visitor : σ → EventMessage → σ × Result UnifiedStorage.MessageScanAction} (state : σ)
    (hvisit : ∀ state message, Errors (Status.Classified texts) (visitor state message).2) :
    Errors (Status.Classified texts) (UnifiedStorage.scanMessages ext db faults fromSeq lastSeq
      maxRecords visitor state).2 := by
  unfold UnifiedStorage.scanMessages
  dsimp only
  split
  · rename_i hloop
    exact scanLoop_classified hvisit hloop
  · split
    · rename_i hfailed _
      have htext := hfaults.iterate_error hfailed
      exact .error (classified_rocks htext (by simp [rocksOperations]))
    · split
      · exact .error (missingMessage_classified _)
      · exact .ok _

theorem addMessage_classified (limit : UInt32) (state : ScanState) (message : EventMessage) :
    Errors (Status.Classified texts) (addMessage ext config limit state message).2 := by
  unfold addMessage
  dsimp only
  split
  · exact .ok _
  · split
    · exact .ok _
    · exact .ok _

theorem channelEntry_classified (hfaults : faults.Prints texts) {operation : String}
    (verdict : ChannelInfo → Bool)
    (state : ScanState) (channelId : UInt64)
    (h : (operation, "message references a missing channel") ∈ recordFaults) :
    Errors (Status.Classified texts)
      (channelEntry ext db faults operation verdict state channelId) := by
  unfold channelEntry
  split
  · exact .ok _
  · refine .bind ((classified_reported db hfaults ext).loadChannel channelId) ?_
    intro found _
    cases found with
    | none => exact .error (classified_corruption (.record h))
    | some channel => exact .ok _

theorem visitVisible_classified (hfaults : faults.Prints texts) (principal : UInt64)
    (limit : UInt32) (onlyMyRecipient : Bool)
    (channels : List UInt64) (state : ScanState) (message : EventMessage) :
    Errors (Status.Classified texts) (visitVisible ext config db faults principal limit
      onlyMyRecipient channels state message).2 := by
  have hentry (state : ScanState) :=
    @channelEntry_classified texts ext db faults hfaults _ (canRead · principal) state
      message.channelId (by simp [recordFaults] : ("scan visible messages", _) ∈ recordFaults)
  unfold visitVisible
  split
  · exact .ok _
  · split
    · rename_i status hfailed
      exact .error (hentry state status hfailed)
    · split
      · exact .ok _
      · exact addMessage_classified _ _ _

theorem fetchVisible_classified (hfaults : faults.Prints texts) (principal fromSeq : UInt64)
    (limit : UInt32)
    (onlyMyRecipient : Bool) (channels : List UInt64) :
    Errors (Status.Classified texts) (fetchVisible ext config db faults principal fromSeq limit
      onlyMyRecipient channels) := by
  refine .bind (classified_reported db hfaults ext).maxSeq ?_
  intro maxSeq _
  split
  · exact .ok _
  · refine .bind (scanMessages_classified db hfaults _ ?_) (fun _ _ => .ok _)
    exact visitVisible_classified db hfaults principal limit onlyMyRecipient channels

theorem listAllMessages_classified (hfaults : faults.Prints texts) (fromSeq : UInt64)
    (limit : UInt32) :
    Errors (Status.Classified texts) (listAllMessages ext config db faults fromSeq limit) := by
  refine .bind (classified_reported db hfaults ext).maxSeq ?_
  intro maxSeq _
  split
  · exact .ok _
  · refine .bind (scanMessages_classified db hfaults _ ?_) (fun _ _ => .ok _)
    intro state message
    have hentry := @channelEntry_classified texts ext db faults hfaults _ (fun _ => true) state
      message.channelId (by simp [recordFaults] : ("scan subscription messages", _) ∈ recordFaults)
    unfold visitAll
    split
    · rename_i status hfailed
      exact .error (hentry status hfailed)
    · exact addMessage_classified _ _ _

theorem validateReadableChannels_classified (hfaults : faults.Prints texts) (principal : UInt64)
    (channels : List UInt64) :
    Errors (Status.Classified texts)
      (validateReadableChannels ext db faults principal channels) := by
  have hloop (channels validated : List UInt64) :
      Errors (Status.Classified texts)
        (validateReadableLoop ext db faults principal channels validated) := by
    induction channels generalizing validated with
    | nil => exact .ok _
    | cons channelId rest ih =>
        rw [validateReadableLoop]
        split
        · exact ih validated
        · refine .bind ((classified_reported db hfaults ext).loadChannel channelId) ?_
          intro found _
          cases found with
          | none => exact .error (classified_checks _ rfl rfl)
          | some channel =>
              dsimp only
              split
              · exact ih (channelId :: validated)
              · exact .error (classified_checks _ rfl rfl)
  exact hloop channels []

theorem subscriptionMaxSeq_classified (hfaults : faults.Prints texts) (principal : UInt64)
    (token : Bytes)
    (channels : List UInt64) :
    Errors (Status.Classified texts)
      (subscriptionMaxSeq ext db faults principal token channels) := by
  have hreported := classified_reported db hfaults ext
  refine .bind (hreported.authenticate principal token) ?_
  intro _ _
  refine .bind (validateReadableChannels_classified db hfaults principal channels) ?_
  intro _ _
  exact hreported.maxSeq

theorem subscriptionBatch_classified (hfaults : faults.Prints texts) (principal : UInt64)
    (token : Bytes) (fromSeq : UInt64)
    (limit : UInt32) (onlyMyRecipient : Bool) (channels : List UInt64) :
    Errors (Status.Classified texts) (subscriptionBatch ext config db faults principal token fromSeq
      limit onlyMyRecipient channels) := by
  refine .bind ((classified_reported db hfaults ext).authenticate principal token) ?_
  intro _ _
  refine .bind (validateReadableChannels_classified db hfaults principal channels) ?_
  intro _ _
  exact fetchVisible_classified db hfaults _ _ _ _ _

theorem SubscriptionOperation.run_classified (hfaults : faults.Prints texts)
    (operation : SubscriptionOperation) :
    Errors (Status.Classified texts) (operation.run ext config db faults) := by
  have hmap {α β : Type} {f : α → β} {result : Result α}
      (h : Errors (Status.Classified texts) result) :
      Errors (Status.Classified texts) (result.map f) := by
    cases result with
    | error status => exact .error (h status rfl)
    | ok value => exact .ok _
  cases operation with
  | getSubscriptionMaxSeq principal token channels =>
      exact hmap (subscriptionMaxSeq_classified db hfaults principal token channels)
  | fetchSubscriptionBatch principal token fromSeq limit onlyMine channels =>
      exact hmap (subscriptionBatch_classified db hfaults _ _ _ _ _ _)

end Scans

/-! ### Readers -/

section Readers

variable {texts : Set String} {ext : Externals} {config : Config} (db : Db) {faults : ReadFaults}

theorem loadAuthorizedObject_classified (hfaults : faults.Prints texts) (objectId : UInt64)
    (objectToken : String) :
    Errors (Exit.Classified texts) (loadAuthorizedObject ext db faults objectId objectToken) := by
  have hcheck {status : Status} (hok : status.isOk = false) (hfatal : status.isFatal = false) :
      Exit.Classified texts { status } :=
    ⟨classified_checks _ hok hfatal, latches_plain _⟩
  unfold loadAuthorizedObject
  split
  · exact .error (hcheck rfl rfl)
  · refine .bind (latching_classified (getObject_classified db hfaults _ objectId)) ?_
    intro found _
    cases found with
    | none => exact .error (hcheck rfl rfl)
    | some object =>
        dsimp only
        split
        · exact .ok _
        · exact .error (hcheck rfl rfl)

theorem batchMetadataLoop_classified (hfaults : faults.Prints texts) (objectKeys : List ObjectKey) :
    Errors (Exit.Classified texts) (batchMetadataLoop ext db faults objectKeys) := by
  induction objectKeys with
  | nil => exact .ok _
  | cons key rest ih =>
      refine .bind (loadAuthorizedObject_classified db hfaults _ _) ?_
      intro object _
      exact .bind ih (fun _ _ => .ok _)

/-- A snapshot is the database it was taken of. -/
theorem snapshot_bind_classified (faults : ReadFaults) {α : Type} {next : Db → Result α}
    (h : Errors (Status.Classified texts) (next db)) :
    Errors (Status.Classified texts) (UnifiedStorage.createSnapshot db faults >>= next) := by
  refine .bind (createSnapshot_classified db faults) ?_
  intro snapshot hsnapshot
  obtain rfl := (reads_createSnapshot db faults).of_ok hsnapshot
  exact h

theorem snapshot_exit_classified (faults : ReadFaults) {α : Type} {next : Db → Except Exit α}
    (h : Errors (Exit.Classified texts) (next db)) :
    Errors (Exit.Classified texts) (plain (UnifiedStorage.createSnapshot db faults) >>= next) := by
  refine .bind (plain_classified (createSnapshot_classified db faults)) ?_
  intro snapshot hsnapshot
  obtain rfl := createSnapshot_ok hsnapshot
  exact h

theorem readObjectRecord_classified (hfaults : faults.Prints texts) (request : ReadObjectRequest) :
    Errors (Exit.Classified texts) (readObjectRecord ext none db faults request) := by
  refine .bind (.ok _) ?_
  intro _ _
  refine .guard ⟨classified_checks _ rfl rfl, latches_plain _⟩ ?_
  intro _
  exact snapshot_exit_classified db faults (loadAuthorizedObject_classified db hfaults _ _)

/-- The operations that answer from their own snapshot. -/
theorem ReadOperation.run_classified (hfaults : faults.Prints texts) (operation : ReadOperation) :
    Errors (Exit.Classified texts) (operation.run ext config db faults) := by
  have hmap {α β : Type} {f : α → β} {result : Except Exit α}
      (h : Errors (Exit.Classified texts) result) :
      Errors (Exit.Classified texts) (result.map f) := by
    cases result with
    | error exit => exact .error (h exit rfl)
    | ok value => exact .ok _
  have hreported := classified_reported db hfaults ext
  have hchecks := @classified_checks texts
  cases operation with
  | getStatus principal token =>
      refine hmap (plain_classified (.bind (.ok _) (fun _ _ => ?_)))
      refine snapshot_bind_classified db faults (.bind (hreported.authenticate _ _) ?_)
      intro _ _
      exact hreported.maxSeq
  | getSeqByUuid uuid =>
      refine hmap (plain_classified (.bind (.ok _) (fun _ _ => ?_)))
      refine snapshot_bind_classified db faults (.bind (hreported.usedUuid uuid) ?_)
      intro found _
      cases found with
      | none => exact .error (hchecks _ rfl rfl)
      | some seq => exact .ok _
  | fetch request =>
      refine hmap (plain_classified (.bind (.ok _) (fun _ _ => ?_)))
      refine .bind (hchecks.validateLimit _) ?_
      intro _ _
      refine snapshot_bind_classified db faults (.bind (hreported.authenticate _ _) ?_)
      intro _ _
      refine .bind (validateReadableChannels_classified db hfaults _ _) ?_
      intro _ _
      exact fetchVisible_classified db hfaults _ _ _ _ _
  | getObjectMetadata key =>
      refine hmap (.bind (.ok _) (fun _ _ => snapshot_exit_classified db faults ?_))
      exact .bind (loadAuthorizedObject_classified db hfaults _ _) (fun _ _ => .ok _)
  | batchGetObjectMetadata objectKeys =>
      refine hmap (.bind (.ok _) (fun _ _ => ?_))
      refine .guard ⟨hchecks _ rfl rfl, latches_plain _⟩ ?_
      intro _
      refine .bind (plain_classified (hchecks.validateObjectKeysShape _)) ?_
      intro _ _
      exact snapshot_exit_classified db faults (batchMetadataLoop_classified db hfaults _)
  | getChannel request =>
      refine hmap (plain_classified (.bind (.ok _) (fun _ _ => ?_)))
      refine snapshot_bind_classified db faults (.bind (hreported.authenticate _ _) ?_)
      intro _ _
      refine .bind (hreported.loadChannel _) ?_
      intro found _
      cases found with
      | none => exact .error (hchecks _ rfl rfl)
      | some channel =>
          dsimp only
          split
          · exact .ok _
          · exact .error (hchecks _ rfl rfl)
  | listChannels request =>
      refine hmap (plain_classified (.bind (.ok _) (fun _ _ => ?_)))
      refine .bind (hchecks.validateFilter _) ?_
      intro _ _
      refine snapshot_bind_classified db faults (.bind (hreported.authenticate _ _) ?_)
      intro _ _
      exact .bind (listChannels_classified db hfaults) (fun _ _ => .ok _)
  | listMessages fromSeq limit =>
      refine hmap (plain_classified (.bind (.ok _) (fun _ _ => ?_)))
      refine .bind (hchecks.validateLimit _) ?_
      intro _ _
      exact snapshot_bind_classified db faults (listAllMessages_classified db hfaults _ _)
  | maxSeq =>
      refine hmap (plain_classified (.bind (.ok _) (fun _ _ => ?_)))
      exact snapshot_bind_classified db faults hreported.maxSeq

end Readers

/-! ### Object files -/

section Files

open ObjectFileStore

variable {dir dir' : ObjectDirectory} {outcome : SyscallOutcome} {status : Status}

theorem objectIoStatus_classified (operation : String) (error : Errno) :
    (objectIoStatus operation error).Classified texts :=
  .of_not_fatal (objectIoStatus_not_fatal operation error)

theorem ok_classified : Status.ok.Classified texts := .of_not_fatal rfl

theorem writeStep_classified {objectId : UInt64} {data : Bytes} {phase : WritePhase}
    (h : writeStep objectId data dir phase outcome = some (dir', .done status)) :
    status.Classified texts := by
  unfold writeStep at h
  repeat' split at h
  all_goals
    cases h
    try first
      | exact objectIoStatus_classified _ _
      | exact ok_classified
      | exact .of_not_fatal rfl
  · exact classified_corruption (.temporaryFile objectId (by simp [fileFaults]))
  · exact classified_corruption (.finalFile objectId (by simp [fileFaults]))

theorem unlinkKnownPath_classified {name : String}
    (hname : ∃ objectId, name = finalName objectId ∨ name = temporaryName objectId)
    (h : unlinkKnownPath dir name outcome = some (dir', status)) : status.Classified texts := by
  have hdiagnostic : Diagnostic texts "remove object path"
      ("object path is not a removable file: " ++ name) := by
    obtain ⟨objectId, rfl | rfl⟩ := hname
    · exact .finalFile objectId (by simp [fileFaults])
    · exact .temporaryFile objectId (by simp [fileFaults])
  unfold unlinkKnownPath at h
  repeat' split at h
  all_goals
    cases h
    try first
      | exact objectIoStatus_classified _ _
      | exact ok_classified
      | exact classified_corruption hdiagnostic

theorem cleanupStep_classified {phase : CleanupPhase}
    (h : cleanupStep dir phase outcome = some (dir', .done status)) : status.Classified texts := by
  have hreported {name : String} {after : ObjectDirectory} {reported : Status}
      {found : CleanupPhase}
      (hname : ∃ objectId, name = finalName objectId ∨ name = temporaryName objectId)
      (hunlink : unlinkKnownPath dir name outcome = some (after, reported))
      (hrest : (if reported.isOk then some (after, Progress.next found)
        else some (after, .done reported)) = some (dir', .done status)) :
      status.Classified texts := by
    split at hrest
    · cases hrest
    · cases hrest
      exact unlinkKnownPath_classified hname hunlink
  unfold cleanupStep at h
  split at h
  · obtain ⟨⟨after, reported⟩, hunlink, hrest⟩ := Option.bind_eq_some_iff.mp h
    exact hreported ⟨_, Or.inr rfl⟩ hunlink hrest
  · obtain ⟨⟨after, reported⟩, hunlink, hrest⟩ := Option.bind_eq_some_iff.mp h
    exact hreported ⟨_, Or.inl rfl⟩ hunlink hrest
  · split at h
    · cases h
      exact ok_classified
    · cases h
      exact objectIoStatus_classified _ _
    · cases h

theorem preadLoop_classified {file : Bytes} {objectId : UInt64} {offset count : Nat}
    {outcomes : List SyscallOutcome} {data : Bytes} {result : Result Bytes}
    (h : preadLoop (finalName objectId) file offset count outcomes data = some result) :
    Errors (Status.Classified texts) result := by
  induction outcomes generalizing data with
  | nil =>
      unfold preadLoop at h
      split at h
      · cases h
        exact .ok _
      · cases h
  | cons first rest ih =>
      unfold preadLoop at h
      split at h
      · cases h
        exact .ok _
      · cases first with
        | success => cases h
        | failed error =>
            dsimp only at h
            split at h
            · exact ih h
            · cases h
              exact .error (objectIoStatus_classified _ _)
        | transferred got =>
            dsimp only at h
            split at h
            · split at h
              · cases h
                exact .error (classified_corruption (.finalFile objectId (by simp [fileFaults])))
              · cases h
            · split at h
              · exact ih h
              · cases h

theorem readRange_classified {objectId expectedSize offset nbytes : UInt64} {io : ReadIo}
    {result : Result Bytes}
    (h : readRange dir objectId expectedSize offset nbytes io = some result) :
    Errors (Status.Classified texts) result := by
  unfold readRange at h
  split at h
  · cases h
    exact .error (classified_corruption (.record (by simp [recordFaults])))
  · split at h
    · cases h
      exact .error (classified_checks _ rfl rfl)
    · split at h
      · cases h
        exact .error (classified_checks _ rfl rfl)
      · dsimp only at h
        split at h
        · split at h
          · rename_i herror
            split at h
            · cases h
              exact .error (classified_corruption (.missingFile objectId herror))
            · cases h
          · cases h
            exact .error (objectIoStatus_classified _ _)
        · split at h
          · cases h
          · split at h
            · cases h
              exact .error (objectIoStatus_classified _ _)
            · cases h
            · split at h
              · cases h
                exact .error (classified_corruption (.finalFile objectId (by simp [fileFaults])))
              · split at h
                · cases h
                · rename_i hread
                  cases h
                  exact preadLoop_classified hread
                · split at h
                  · cases h
                    exact .ok _
                  · cases h
                    exact .error (objectIoStatus_classified _ _)
                  · cases h
        · cases h

theorem readObjectFile_classified {io : ReadIo} {request : ReadObjectRequest}
    {object : StoredObject} {result : Except Exit Bytes}
    (h : readObjectFile dir io request object = some result) :
    Errors (Exit.Classified texts) result := by
  unfold readObjectFile at h
  split at h
  · cases h
    exact .error ⟨classified_checks _ rfl rfl, latches_plain _⟩
  · obtain ⟨found, hread, rfl⟩ := Option.map_eq_some_iff.mp h
    exact latching_classified (readRange_classified hread)

end Files

end OpenEvent
