import OpenEvent.Guarantees.ObjectReferences
import OpenEvent.Reference
import OpenEvent.Refinement.Statuses

/-!
The writers leave nothing that a reader takes for corruption: no request, no
piece of an object write and no open answers DATA_LOSS as long as RocksDB
itself reports no corruption and nobody else touches the data directory.
-/

namespace OpenEvent

open OpenEventCore ObjectFileStore Fallible

/-- The status that a step answers with, if it ends a call or an open. -/
def Event.answered : Event → Option Status
  | .opened (.error status) => some status
  | .mutation _ _ status _ => some status
  | .write _ _ (some (status, _)) => some status
  | _ => none

/-- What a step meets is no corruption: RocksDB reports none, and `unlink`
does not fail with EPERM, which regular files of the server's own do not give. -/
def EnvironmentIntact : Action × Event → Prop
  | (.openStore _ faults, _) => faults.NoCorruption
  | (.recoveryCall outcome, _) => outcome ≠ .failed .eperm
  | (.recoveryCommit outcome, _) => outcome.NoCorruption
  | (.runMutation _ env, _) => env.NoCorruption
  | (.prepareWrite _ env, _) => env.NoCorruption
  | (.commitWrite _ env, _) => env.NoCorruption
  | (.deletePreparing _ env, _) => env.NoCorruption
  | (.fileCall _ outcome, .write call _ _) =>
      (∃ phase result, call.phase = .cleaning phase result) → outcome ≠ .failed .eperm
  | _ => True

/-- Every stored record passes the checks of its readers, and a restart passes
its own. -/
structure RecordsIntact (ext : Externals) (db : Db) : Prop where
  channel : ∀ channelId value, db.metadata.get (numericKey kChannelPrefix channelId) = some value →
    ∃ channel, ext.channelInfo.parseFromString value = some channel ∧
      channel.channelId = channelId ∧ validStoredChannel ext channel = true
  message : ∀ seq value, db.messages.get (numericKey kMessagePrefix seq) = some value →
    ∃ message, UnifiedStorage.checkMessage ext seq value = .ok message ∧
      ∃ channel, loadChannel ext db {} message.channelId = .ok (some channel)
  preparing : ∀ objectId value,
    db.objects.get (numericKey kPreparingObjectPrefix objectId) = some value →
    ∃ object, parseObject ext value objectId = .ok object
  committed : ∀ objectId value,
    db.objects.get (numericKey kCommittedObjectPrefix objectId) = some value →
    ∃ object, parseObject ext value objectId = .ok object
  uuid : ∀ uuid, ∃ seq, UnifiedStorage.getUsedUuidSeq db {} uuid = .ok seq
  credential : ∀ principal token, ∃ known, UnifiedStorage.hasToken db {} principal token = .ok known
  validates : UnifiedStorage.validate ext db {} = .ok ()
  recovers : ∃ objects, UnifiedStorage.planRecovery ext db {} = .ok objects

/-- The calls in flight find no file and no record that they do not expect. -/
structure WritesIntact (ext : Externals) (server : Server) : Prop where
  no_temporary : ∀ id call, server.call id = some call → call.phase = .writing .openTemporary →
    server.dir.entries (temporaryName call.object.objectId) = none
  no_final : ∀ id call, server.call id = some call → call.phase = .writing .renameFile →
    server.dir.entries (finalName call.object.objectId) = none
  unchanged : ∀ id call, server.call id = some call → call.phase = .commit →
    ∃ preparing, UnifiedStorage.getPreparingObject ext server.db {} call.object.objectId =
      .ok (some preparing) ∧ sameObject preparing call.object = true

/-- No reader answers DATA_LOSS. The file of `ReadObject` is read at `later`. -/
structure ReadsIntact (ext : Externals) (config : Config) (fatalError : Option Status)
    (faults : ReadFaults) (server later : Server) : Prop where
  getStatus : ∀ principal token,
    Errors Status.Intact (getStatus fatalError server.db faults principal token)
  getSeqByUuid : ∀ uuid, Errors Status.Intact (getSeqByUuid fatalError server.db faults uuid)
  maxSeq : Errors Status.Intact (OpenEventCore.maxSeq fatalError server.db faults)
  getObjectMetadata : ∀ key,
    Errors Exit.Intact (getObjectMetadata ext fatalError server.db faults key)
  batchGetObjectMetadata : ∀ objectKeys,
    Errors Exit.Intact (batchGetObjectMetadata ext fatalError server.db faults objectKeys)
  readObject : ∀ io request result,
    readObject ext fatalError server.db faults later.dir io request = some result →
    Errors Exit.Intact result
  getChannel : ∀ request,
    Errors Status.Intact (getChannel ext fatalError server.db faults request)
  listChannels : ∀ request,
    Errors Status.Intact (listChannels ext fatalError server.db faults request)
  fetch : ∀ request, Errors Status.Intact (fetch ext config fatalError server.db faults request)
  listMessages : ∀ fromSeq limit,
    Errors Status.Intact (listMessages ext config fatalError server.db faults fromSeq limit)
  subscriptionMaxSeq : ∀ principal token channels,
    Errors Status.Intact (subscriptionMaxSeq ext server.db faults principal token channels)
  subscriptionBatch : ∀ principal token fromSeq limit onlyMyRecipient channels,
    Errors Status.Intact (subscriptionBatch ext config server.db faults principal token fromSeq
      limit onlyMyRecipient channels)

/-! ### Steps -/

section Steps

variable {ext : Externals} {server next : Server} {store : Store} {log : List EventMessage}
variable {owner : Nat → UInt64} {labels : List (Action × Event)} {core : Running} {id : Nat}
variable {call : WriteObjectCall} {env : CallEnv} {state : CoreState}

theorem commitBatch_intact {outcome : CommitOutcome} (h : outcome.NoCorruption)
    (batch : WriteBatch) : (commitBatch state batch outcome).2.Intact := by
  cases outcome with
  | written => exact nofun
  | failed applied status =>
      rw [commitBatch_failed]
      exact rocksToStatus_intact h _

/-- What a section answers, if it ends the call. -/
def OpenEventCore.WriteObjectProgress.Intact : WriteObjectProgress → Prop
  | .next _ => True
  | .done status _ => status.Intact

theorem Server.advance_intact {applied : Option WriteSection} {progress : WriteObjectProgress}
    (h : progress.Intact) :
    ∀ status ∈ (server.advance core id call applied state progress).2.answered,
      status.Intact := by
  cases progress with
  | next phase => simp [Server.advance, Event.answered]
  | done answer data =>
      intro status hstatus
      cases hstatus
      exact h

private theorem failPrepared_intact {objectId : UInt64} {status : Status} (h : status.Intact) :
    (failPrepared state objectId status).2.Intact := by
  unfold failPrepared
  split
  · exact h
  · exact True.intro

theorem prepareSection_intact (hdb : Represents ext state.db store) (hvalid : store.Valid ext)
    (henv : env.NoCorruption) (request : WriteObjectRequest) (object : StoredObject) :
    (prepareSection ext state env request object).2.2.Intact := by
  unfold prepareSection
  split
  · rename_i status hbatch
    exact (hdb.reported hvalid henv.faults).prepareBatch request object status hbatch
  · dsimp only
    split
    · exact True.intro
    · exact commitBatch_intact henv.commit _

theorem commitSection_intact (hdb : Represents ext state.db store) (hvalid : store.Valid ext)
    (henv : env.NoCorruption) (request : WriteObjectRequest) {object : StoredObject}
    (hpreparing : store.preparing object.objectId = some object) :
    (commitSection ext state env request object).2.Intact := by
  unfold commitSection
  split
  · rename_i status hdecision
    exact commitDecision_intact hdb hvalid henv.faults hpreparing (Or.inr hdecision)
  · rename_i status hdecision
    exact failPrepared_intact
      (commitDecision_intact hdb hvalid henv.faults hpreparing (Or.inl hdecision))
  · dsimp only
    split
    · exact nofun
    · exact commitBatch_intact henv.commit _

theorem deletePreparingSection_intact (henv : env.NoCorruption) {objectId : UInt64}
    {result : Status} (h : result.Intact) :
    (deletePreparingSection state env objectId result).2.Intact := by
  unfold deletePreparingSection
  dsimp only
  split
  · exact h
  · exact commitBatch_intact henv.commit _

private theorem afterFileWrite_intact {objectId : UInt64} {status : Status} (h : status.Intact) :
    (afterFileWrite state objectId status).2.Intact := by
  unfold afterFileWrite
  split
  · exact True.intro
  · exact failPrepared_intact h

private theorem afterCleanup_intact {status result : Status} (h : status.Intact) :
    (afterCleanup state status result).2.Intact := by
  unfold afterCleanup
  split
  · exact True.intro
  · split
    · exact h
    · exact h

theorem Server.fileCall_intact {outcome : SyscallOutcome} {result : Server × Event}
    (hfiles : CallFiles server.dir owner call) (hregular : OnlyRegular server.dir)
    (hperm : (∃ phase answer, call.phase = .cleaning phase answer) → outcome ≠ .failed .eperm)
    (h : server.fileCall core id call outcome = some result) :
    ∀ status ∈ result.2.answered, status.Intact := by
  unfold Server.fileCall at h
  split at h
  · rename_i phase hphase
    simp only [CallFiles, hphase] at hfiles
    split at h
    · cases h
    · cases h
      exact Server.advance_intact True.intro
    · rename_i dir status hstep
      obtain rfl := Option.some.inj h
      exact Server.advance_intact (afterFileWrite_intact (writeStep_intact hfiles hstep))
  · rename_i phase answer hphase
    split at h
    · cases h
    · cases h
      exact Server.advance_intact True.intro
    · rename_i dir status hstep
      obtain rfl := Option.some.inj h
      exact Server.advance_intact (afterCleanup_intact
        (cleanupStep_intact hregular (hperm ⟨phase, answer, hphase⟩) hstep))
  · cases h

theorem Server.openStore_intact (hcoherent : Coherent ext store log)
    (hdb : Represents ext server.db store) {config : Config} {faults : ReadFaults}
    (hclean : faults.NoCorruption) :
    ∀ status ∈ (server.openStore ext config faults).2.answered, status.Intact := by
  unfold Server.openStore
  split
  · rename_i raised hvalidate
    rintro status ⟨⟩
    exact (hcoherent.reads_validate hdb).intact hclean _ hvalidate
  · split
    · rename_i raised hplan
      rintro status ⟨⟩
      exact (hcoherent.reads_planRecovery hdb).intact hclean _ hplan
    · split
      · rintro status ⟨⟩
      · rintro status ⟨⟩

theorem Server.recoveryCall_intact {config : Config} {objects : List StoredObject}
    {phase : CleanupPhase} {outcome : SyscallOutcome} {result : Server × Event}
    (hregular : OnlyRegular server.dir) (hperm : outcome ≠ .failed .eperm)
    (h : server.recoveryCall config objects phase outcome = some result) :
    ∀ status ∈ result.2.answered, status.Intact := by
  unfold Server.recoveryCall at h
  split at h
  · cases h
  · cases h
    rintro status ⟨⟩
  · rename_i dir answer hstep
    split at h
    · cases h
      rintro status ⟨⟩
    · cases h
      rintro status ⟨⟩
      exact cleanupStep_intact hregular hperm hstep

theorem Server.recoveryCommit_intact {config : Config} {objects : List StoredObject}
    {outcome : CommitOutcome} (h : outcome.NoCorruption) :
    ∀ status ∈ (server.recoveryCommit config objects outcome).2.answered, status.Intact := by
  cases outcome with
  | written => rintro status ⟨⟩
  | failed applied reported =>
      simp only [Server.recoveryCommit, UnifiedStorage.commit, rocksToStatus_not_ok]
      rintro status ⟨⟩
      exact rocksToStatus_intact h _

theorem Server.enterMutation_intact {mutation : Mutation} {tsMs : UInt64} :
    ∀ status ∈ (server.enterMutation core id mutation tsMs).2.answered, status.Intact := by
  unfold Server.enterMutation
  split
  · rename_i hunavailable
    rintro status ⟨⟩
    exact intact_checks.ensureAvailable _ _ hunavailable
  · rename_i hrefused
    rintro status ⟨⟩
    exact intact_checks.mutationEntry _ _ hrefused
  · rintro status ⟨⟩

theorem Server.runMutation_intact (hdb : Represents ext server.db store)
    (hvalid : store.Valid ext) (henv : env.NoCorruption) {mutation : Mutation} {tsMs : UInt64}
    {result : Server × Event}
    (h : server.runMutation ext core id mutation tsMs env = some result) :
    ∀ status ∈ result.2.answered, status.Intact := by
  unfold Server.runMutation at h
  split at h
  · cases h
  · rename_i built hbuilt
    obtain rfl := Option.some.inj h
    rintro status ⟨⟩
    cases built with
    | error exit => exact mutation_batch_intact hdb hvalid henv.faults hbuilt exit rfl
    | ok batch => exact commitBatch_intact henv.commit _

theorem Server.enterWrite_intact {request : WriteObjectRequest} {random : List GetrandomResult}
    {result : Server × Event} (h : server.enterWrite core id request random = some result) :
    ∀ status ∈ result.2.answered, status.Intact := by
  unfold Server.enterWrite at h
  dsimp only at h
  split at h
  · rename_i hunavailable
    cases h
    rintro status ⟨⟩
    exact intact_checks.ensureAvailable _ _ hunavailable
  · rename_i hrefused
    cases h
    rintro status ⟨⟩
    exact intact_checks.writeObjectEntry _ _ hrefused
  · split at h
    · cases h
    · rename_i hrandom
      cases h
      rintro status ⟨⟩
      exact intact_checks.generateObjectToken hrandom _ rfl
    · cases h
      rintro status ⟨⟩

/-- No step answers DATA_LOSS. -/
theorem RunSound.step_intact (h : RunSound ext labels server store log owner)
    {label : Action × Event} (hstep : server.step ext label.1 = some (next, label.2))
    (henv : EnvironmentIntact label) : ∀ status ∈ label.2.answered, status.Intact := by
  obtain ⟨action, event⟩ := label
  have hdb := h.sound.represents
  have hcoherent := h.sound.coherent
  have hregular := h.objects.files.regular
  dsimp only at hstep ⊢
  generalize hresult : (next, event) = result at hstep
  obtain rfl : event = result.2 := congrArg Prod.snd hresult
  clear hresult
  cases Server.step_cases hstep with
  | openStore _ => exact Server.openStore_intact hcoherent hdb henv
  | recoveryCall _ hcall => exact Server.recoveryCall_intact hregular henv hcall
  | recoveryCommit _ => exact Server.recoveryCommit_intact henv
  | enterMutation _ _ => exact Server.enterMutation_intact
  | runMutation _ _ hrun => exact Server.runMutation_intact hdb hcoherent.valid henv hrun
  | enterWrite _ _ henter => exact Server.enterWrite_intact henter
  | prepareWrite _ _ _ => exact Server.advance_intact (prepareSection_intact hdb hcoherent.valid henv _ _)
  | @fileCall core id call outcome result hmode hcall hfile =>
      obtain ⟨answer, hevent⟩ : ∃ answer, result.2 = .write call none answer := by
        cases Server.fileCall_outcome hfile <;> exact ⟨_, rfl⟩
      rw [hevent] at henv
      exact Server.fileCall_intact ((h.objects.inFlight hmode).files _ _ hcall) hregular henv hfile
  | commitWrite hmode hcall hphase =>
      have hrecord := (h.objects.inFlight hmode).record _ _ hcall (by simp [hphase])
      exact Server.advance_intact (commitSection_intact hdb hcoherent.valid henv _ hrecord)
  | deletePreparing hmode hcall hphase =>
      have hfiles := (h.objects.inFlight hmode).files _ _ hcall
      simp only [CallFiles, hphase] at hfiles
      exact Server.advance_intact (deletePreparingSection_intact henv
        (.of_not_fatal hfiles.2.2))
  | fatalError _ => rintro status ⟨⟩
  | exitProcess => rintro status ⟨⟩
  | powerLoss => rintro status ⟨⟩

theorem run_steps_intact {eventMs : UInt64}
    (hrun : Run (Server.Step ext) (Server.initial ext eventMs) labels server) :
    ∀ label ∈ labels, EnvironmentIntact label → ∀ status ∈ label.2.answered, status.Intact := by
  refine hrun.history (P := fun labels _ => ∀ label ∈ labels, EnvironmentIntact label →
    ∀ status ∈ label.2.answered, status.Intact) (by simp) ?_
  intro labels before label after hbefore hall hstep found hfound
  obtain ⟨store, log, owner, hsound⟩ := run_objectsSound hbefore
  rcases List.mem_append.mp hfound with hold | hnew
  · exact hall found hold
  · obtain rfl := List.mem_singleton.mp hnew
    exact hsound.step_intact hstep.1

end Steps

/-! ### States -/

section States

variable {ext : Externals} {server later : Server} {store store' : Store}
variable {log log' : List EventMessage} {owner owner' : Nat → UInt64}
variable {labels labels' : List (Action × Event)}

theorem Coherent.recordsIntact {db : Db} (h : Coherent ext store log)
    (hdb : Represents ext db store) : RecordsIntact ext db where
  channel channelId value hvalue := by
    have hstored : StoredAs ext.channelInfo (db.metadata.get (numericKey kChannelPrefix channelId))
        (store.channels channelId) := hdb.metadata (.channel channelId)
    rw [hvalue] at hstored
    rcases hstored.cases with ⟨hnone, _⟩ | ⟨bytes, channel, hsome, hrecord, hparse⟩
    · cases hnone
    · cases hsome
      exact ⟨channel, hparse, h.valid.channel channelId channel hrecord⟩
  message seq value hvalue := by
    have hstored := hdb.messages seq
    rw [hvalue] at hstored
    rcases hstored.cases with ⟨hnone, _⟩ | ⟨bytes, message, hsome, hrecord, hparse⟩
    · cases hnone
    · cases hsome
      obtain ⟨hseq, hreserved, hreferences⟩ := h.valid.message seq message hrecord
      rw [h.logIndex.messages] at hrecord
      obtain ⟨channel, hchannel⟩ := h.findChannel hdb (List.mem_of_getElem? hrecord)
      refine ⟨message, ?_, channel, ?_⟩
      · simp [UnifiedStorage.checkMessage, hparse, hseq, hreserved, hreferences]
      · rw [(hdb.reads_loadChannel h.valid message.channelId).eq_ok, hchannel]
  preparing objectId value hvalue := by
    have hstored := hdb.objects (.preparing objectId)
    rw [show db.objects.get (ObjectsKey.preparing objectId).bytes = some value from hvalue]
      at hstored
    rcases hstored.cases with ⟨hnone, _⟩ | ⟨bytes, object, hsome, hrecord, hparse⟩
    · cases hnone
    · cases hsome
      exact ⟨object, parseObject_ok (h.valid.object (.preparing objectId) object hrecord) hparse⟩
  committed objectId value hvalue := by
    have hstored := hdb.objects (.committed objectId)
    rw [show db.objects.get (ObjectsKey.committed objectId).bytes = some value from hvalue]
      at hstored
    rcases hstored.cases with ⟨hnone, _⟩ | ⟨bytes, object, hsome, hrecord, hparse⟩
    · cases hnone
    · cases hsome
      exact ⟨object, parseObject_ok (h.valid.object (.committed objectId) object hrecord) hparse⟩
  uuid uuid := ⟨_, (hdb.reads_getUsedUuidSeq h.valid uuid).eq_ok⟩
  credential principal token := ⟨_, (hdb.reads_hasToken principal token).eq_ok⟩
  validates := by
    obtain ⟨_, hvalidate, _⟩ := (h.reads_validate hdb).ok_of_no_faults
    exact hvalidate
  recovers := by
    obtain ⟨objects, hplan, _⟩ := (h.reads_planRecovery hdb).ok_of_no_faults
    exact ⟨objects, hplan⟩

theorem RunSound.writesIntact (h : RunSound ext labels server store log owner) :
    WritesIntact ext server := by
  have hfiles (id : Nat) (call : WriteObjectCall) (hcall : server.call id = some call) :
      CallFiles server.dir owner call ∧ (call.phase ≠ .prepare →
        store.preparing call.object.objectId = some call.object) := by
    unfold Server.call at hcall
    split at hcall
    · rename_i core hmode
      exact ⟨(h.objects.inFlight hmode).files id call hcall,
        (h.objects.inFlight hmode).record id call hcall⟩
    · cases hcall
  refine ⟨?_, ?_, ?_⟩
  · intro id call hcall hphase
    have hopen := (hfiles id call hcall).1
    simp only [CallFiles, hphase] at hopen
    exact hopen.temporary.present
  · intro id call hcall hphase
    have hrename := (hfiles id call hcall).1
    simp only [CallFiles, hphase] at hrename
    obtain ⟨_, _, _, _, hfinal⟩ := hrename
    exact hfinal.present
  · intro id call hcall hphase
    have hrecord := (hfiles id call hcall).2 (by simp [hphase])
    refine ⟨call.object, ?_, (sameObject_iff _ _).mpr rfl⟩
    rw [(h.sound.represents.reads_getPreparingObject h.sound.coherent.valid _).eq_ok, hrecord]

/-- Reads of the database at one state and of the directory at a later one. -/
theorem RunSound.readsIntact (h : RunSound ext labels server store log owner)
    (h' : RunSound ext labels' later store' log' owner')
    (hkept : ∀ objectId object, store.committed objectId = some object →
      store'.committed objectId = some object)
    (hnext : store.maxSeq + 1 ≠ 0) (config : Config) (fatalError : Option Status)
    {faults : ReadFaults} (hclean : faults.NoCorruption) :
    ReadsIntact ext config fatalError faults server later := by
  have hdb := h.sound.represents
  have hcoherent := h.sound.coherent
  have hvalid := hcoherent.valid
  constructor
  · exact getStatus_intact hdb hvalid hclean
  · exact getSeqByUuid_intact hdb hvalid hclean
  · exact maxSeq_intact hdb hclean
  · exact getObjectMetadata_intact hdb hvalid hclean
  · exact batchGetObjectMetadata_intact hdb hvalid hclean
  · intro io request result hread
    unfold readObject at hread
    split at hread
    · rename_i exit hrecord
      cases hread
      exact .error (readObjectRecord_intact hdb hvalid hclean request exit hrecord)
    · rename_i object hrecord
      have hcommitted := readObjectRecord_ok hdb hvalid hrecord
      have hobject : ObjectValid request.objectId object :=
        hvalid.object (.committed request.objectId) object hcommitted
      obtain ⟨call, hcall, rfl, inode, hdurable⟩ :=
        h'.objects.files.committed _ _ (hkept _ _ hcommitted)
      unfold readObjectFile at hread
      split at hread
      · cases hread
        exact .error nofun
      · rw [hobject.objectId_eq] at hread
        obtain ⟨found, hrange, rfl⟩ := Option.map_eq_some_iff.mp hread
        exact latching_errors (readRange_intact hobject hdurable h'.objects.files.regular
          (h'.objects.files.calls_checked call hcall).size hrange)
  · exact getChannel_intact hdb hvalid hclean
  · exact listChannels_intact hdb hvalid hclean
  · exact fetch_intact hdb hcoherent hnext hclean
  · exact listMessages_intact hdb hcoherent hnext hclean
  · exact subscriptionMaxSeq_intact hdb hvalid hclean
  · exact subscriptionBatch_intact hdb hcoherent hnext hclean

end States

/-- The steps of a run, the records, the calls in flight and the readers. -/
structure NeverCorrupt (ext : Externals) (labels : List (Action × Event)) (server later : Server) :
    Prop where
  steps : ∀ label ∈ labels, EnvironmentIntact label →
    ∀ status ∈ label.2.answered, status.code ≠ .dataLoss
  records : RecordsIntact ext server.db
  writes : WritesIntact ext server
  reads : server.db.counter kMaxSeqKey + 1 ≠ 0 → ∀ config fatalError faults,
    faults.NoCorruption → ReadsIntact ext config fatalError faults server later

/-- Whatever the writers have done, no operation takes a branch that reports
corruption: not in a step of the run, and not in a reader of the state reached. -/
theorem no_operation_reports_corruption (ext : Externals) {eventMs : UInt64}
    {labels labels' : List (Action × Event)} {server later : Server}
    (hrun : Run (Server.Step ext) (Server.initial ext eventMs) labels server)
    (hlater : Run (Server.Step ext) server labels' later) :
    NeverCorrupt ext labels server later := by
  obtain ⟨store, log, owner, hsound⟩ := run_objectsSound hrun
  obtain ⟨store', log', owner', hsound', hkept⟩ := hsound.committed_run hlater
  refine ⟨run_steps_intact hrun, hsound.sound.coherent.recordsIntact hsound.sound.represents,
    hsound.writesIntact, ?_⟩
  intro hnext config fatalError faults hclean
  rw [hsound.sound.represents.counter_maxSeq] at hnext
  exact hsound.readsIntact hsound' hkept hnext config fatalError hclean

theorem session_never_corrupt :
    NeverCorrupt Reference.externals Reference.sessionLabels Reference.sessionServer
      Reference.sessionServer :=
  no_operation_reports_corruption Reference.externals Reference.session_run (.nil _)

end OpenEvent
