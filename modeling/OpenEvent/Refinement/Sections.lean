import OpenEvent.Refinement.Objects
import OpenEvent.Refinement.Reported
import OpenEvent.Server

/-!
The ways in which each part of a `WriteObject` call can end: what it leaves in
the database, what the call does next and what it answers.
-/

namespace OpenEvent

open OpenEventCore ObjectFileStore

/-! ### Commits -/

@[simp] theorem fatalStorageError_db (state : CoreState) (status : Status) :
    (fatalStorageError state status).db = state.db := by
  unfold fatalStorageError
  split <;> rfl

theorem commitBatch_failed (state : CoreState) (batch : WriteBatch) (applied : Bool)
    (status : RocksStatus) :
    commitBatch state batch (.failed applied status) =
      (fatalStorageError { state with db := if applied then state.db.write batch else state.db }
        (rocksToStatus status "commit storage batch"),
        rocksToStatus status "commit storage batch") := by
  simp only [commitBatch, UnifiedStorage.commit, rocksToStatus_not_ok]
  simp [rocksToStatus, Status.fatal, Status.withStorageDiagnostic]

theorem commitBatch_db (state : CoreState) (batch : WriteBatch) (outcome : CommitOutcome) :
    (commitBatch state batch outcome).1.db =
      if outcome.applies then state.db.write batch else state.db := by
  cases outcome with
  | written => rfl
  | failed applied status =>
      simp only [commitBatch_failed, fatalStorageError_db, CommitOutcome.applies]
      cases applied <;> rfl

theorem commitBatch_applies {state : CoreState} {batch : WriteBatch} {outcome : CommitOutcome}
    (h : (commitBatch state batch outcome).2.isOk = true) : outcome.applies = true := by
  cases outcome with
  | written => rfl
  | failed applied status =>
      rw [commitBatch_failed] at h
      rw [rocksToStatus_not_ok] at h
      cases h

/-- The status of a commit whose batch may or may not have been applied. -/
structure Status.Ambiguous (status : Status) : Prop where
  code : status.code = .unavailable ∨ status.code = .dataLoss

theorem Status.Ambiguous.not_ok {status : Status} (h : status.Ambiguous) : status.isOk = false := by
  rcases h.code with hcode | hcode <;> simp [Status.isOk, hcode]

theorem rocksToStatus_ambiguous (status : RocksStatus) (operation : String) :
    (rocksToStatus status operation).Ambiguous := by
  constructor
  rw [rocksToStatus_code]
  cases status.isCorruption <;> simp

/-- The statuses that end a call through `FatalStorageError`. -/
theorem rocksToStatus_fatal (status : RocksStatus) (operation : String) :
    (rocksToStatus status operation).isFatal = true := by
  simp [Status.isFatal, rocksToStatus, Status.fatal, Status.withStorageDiagnostic]

section Outcomes

variable (ext : Externals) (server : Server) (store : Store) (core : Running) (id : Nat)
variable (call : WriteObjectCall)

/-- The server once the call has gone on to another phase. -/
def Server.moved (state : CoreState) (phase : WriteObjectPhase) : Server :=
  server.updated (core.setWrite id (some { call with phase })) state

/-- The server once the call has returned. -/
def Server.returned (state : CoreState) : Server :=
  server.updated (core.setWrite id none) state

/-! ### The first section -/

/-- The call with the id that the first section assigns. -/
def OpenEventCore.WriteObjectCall.assigned (store : Store) (call : WriteObjectCall) :
    WriteObjectCall :=
  { call with object := { call.object with objectId := store.nextObjectId } }

inductive PrepareOutcome : Server × Event → Prop
  | refused {status : Status} : status.isOk = false →
      PrepareOutcome (server.returned core id (core.coreState server.db),
        .write call none (some (status, .empty)))
  | notApplied {state : CoreState} {status : Status} : state.db = server.db → status.Ambiguous →
      PrepareOutcome (server.returned core id state,
        .write (call.assigned store) none (some (status, .empty)))
  | applied {state : CoreState} {status : Status} :
      store.tokens call.request.principal call.request.token = true →
      Permitted store (.prepareObject (call.assigned store).object) →
      Represents ext state.db (store.apply (.prepareObject (call.assigned store).object)) →
      status.Ambiguous →
      PrepareOutcome (server.returned core id state,
        .write (call.assigned store) (some .prepare) (some (status, .empty)))
  | prepared {state : CoreState} :
      store.tokens call.request.principal call.request.token = true →
      Permitted store (.prepareObject (call.assigned store).object) →
      Represents ext state.db (store.apply (.prepareObject (call.assigned store).object)) →
      PrepareOutcome (server.moved core id (call.assigned store) state (.writing .openTemporary),
        .write (call.assigned store) (some .prepare) none)

/-! ### The file in between -/

inductive FileOutcome (outcome : SyscallOutcome) : Server × Event → Prop
  | writing {phase phase' : WritePhase} {dir : ObjectDirectory} : call.phase = .writing phase →
      writeStep call.object.objectId call.request.data server.dir phase outcome =
        some (dir, .next phase') →
      FileOutcome outcome (({ server with dir } : Server).moved core id call
        (core.coreState server.db) (.writing phase'), .write call none none)
  | written {phase : WritePhase} {dir : ObjectDirectory} {status : Status} :
      call.phase = .writing phase →
      writeStep call.object.objectId call.request.data server.dir phase outcome =
        some (dir, .done status) → status.isOk = true →
      FileOutcome outcome (({ server with dir } : Server).moved core id call
        (core.coreState server.db) .commit, .write call none none)
  | writeFailed {phase : WritePhase} {dir : ObjectDirectory} {status : Status} :
      call.phase = .writing phase →
      writeStep call.object.objectId call.request.data server.dir phase outcome =
        some (dir, .done status) → status.isOk = false → status.isFatal = false →
      FileOutcome outcome (({ server with dir } : Server).moved core id call
        (core.coreState server.db) (.cleaning (.unlinkTemporary call.object.objectId []) status),
        .write call none none)
  | writeExit {phase : WritePhase} {dir : ObjectDirectory} {status : Status} {state : CoreState} :
      call.phase = .writing phase →
      writeStep call.object.objectId call.request.data server.dir phase outcome =
        some (dir, .done status) → status.isOk = false → status.isFatal = true →
      state.db = server.db →
      FileOutcome outcome (({ server with dir } : Server).returned core id state,
        .write call none (some (status, .empty)))
  | cleaning {phase phase' : CleanupPhase} {result : Status} {dir : ObjectDirectory} :
      call.phase = .cleaning phase result →
      cleanupStep server.dir phase outcome = some (dir, .next phase') →
      FileOutcome outcome (({ server with dir } : Server).moved core id call
        (core.coreState server.db) (.cleaning phase' result), .write call none none)
  | cleaned {phase : CleanupPhase} {result status : Status} {dir : ObjectDirectory} :
      call.phase = .cleaning phase result →
      cleanupStep server.dir phase outcome = some (dir, .done status) → status.isOk = true →
      FileOutcome outcome (({ server with dir } : Server).moved core id call
        (core.coreState server.db) (.deletePreparing result), .write call none none)
  | cleanupFailed {phase : CleanupPhase} {result status : Status} {dir : ObjectDirectory}
      {state : CoreState} : call.phase = .cleaning phase result →
      cleanupStep server.dir phase outcome = some (dir, .done status) → status.isOk = false →
      state.db = server.db →
      FileOutcome outcome (({ server with dir } : Server).returned core id state,
        .write call none (some (status, .empty)))

/-! ### The second section -/

inductive CommitOutcomes : Server × Event → Prop
  | failing {status : Status} : status.isOk = false → status.isFatal = false →
      CommitOutcomes (server.moved core id call (core.coreState server.db)
        (.cleaning (.unlinkTemporary call.object.objectId []) status), .write call none none)
  | exiting {state : CoreState} {status : Status} : state.db = server.db →
      status.isFatal = true → status.isOk = false →
      CommitOutcomes (server.returned core id state, .write call none (some (status, .empty)))
  | applied {state : CoreState} {status : Status} :
      store.tokens call.request.principal call.request.token = true →
      Permitted store (.commitObject call.object) →
      Represents ext state.db (store.apply (.commitObject call.object)) → status.Ambiguous →
      CommitOutcomes (server.returned core id state,
        .write call (some .commit) (some (status, .empty)))
  | committed {state : CoreState} :
      store.tokens call.request.principal call.request.token = true →
      Permitted store (.commitObject call.object) →
      Represents ext state.db (store.apply (.commitObject call.object)) →
      CommitOutcomes (server.returned core id state, .write call (some .commit)
        (some (.ok, .object call.object.objectId call.object.objectToken)))

/-! ### The end of a cleanup -/

inductive DeleteOutcome (result : Status) : Server × Event → Prop
  | notApplied {state : CoreState} {status : Status} : state.db = server.db → status.Ambiguous →
      DeleteOutcome result (server.returned core id state,
        .write call none (some (status, .empty)))
  | applied {state : CoreState} {status : Status} :
      Represents ext state.db (store.apply (.discardObjects [call.object.objectId])) →
      status.Ambiguous ∨ status = result →
      DeleteOutcome result (server.returned core id state,
        .write call (some .deletePreparing) (some (status, .empty)))

end Outcomes

variable {ext : Externals} {server : Server} {store : Store} {core : Running} {id : Nat}
variable {call : WriteObjectCall} {env : CallEnv}

/-! ### Which outcome a section has -/

theorem Reads.not_ok {α : Type} {P : α → Prop} {faults : ReadFaults} {result : Result α}
    (h : Reads faults P result) {status : Status} (herror : result = .error status) :
    status.isOk = false ∧ status.isFatal = true := by
  cases h with
  | found _ => cases herror
  | fault _ =>
      cases herror
      exact ⟨rocksToStatus_not_ok _ _, rocksToStatus_fatal _ _⟩
  | noSnapshot _ =>
      cases herror
      exact ⟨rfl, rfl⟩

theorem Server.prepareWrite_refused {status : Status}
    (h : prepareBatch ext server.db env call.request call.object = .error status) :
    server.prepareWrite ext core id call env =
      (server.returned core id (core.coreState server.db),
        .write call none (some (status, .empty))) := by
  simp only [Server.prepareWrite, prepareSection, Running.coreState, h]
  rfl

theorem Server.prepareWrite_prepared {batch : WriteBatch} {object : StoredObject}
    (h : prepareBatch ext server.db env call.request call.object = .ok (batch, object))
    (hcommit : env.commit = .written) :
    server.prepareWrite ext core id call env =
      (server.moved core id { call with object }
        (commitBatch (core.coreState server.db) batch .written).1 (.writing .openTemporary),
        .write { call with object } (some .prepare) none) := by
  simp only [Server.prepareWrite, prepareSection, Running.coreState, h, hcommit]
  rfl

theorem Server.prepareWrite_outcome (hdb : Represents ext server.db store)
    (hcall : CallChecked call) :
    PrepareOutcome ext server store core id call (server.prepareWrite ext core id call env) := by
  cases hbatch : prepareBatch ext server.db env call.request call.object with
  | error status =>
      rw [Server.prepareWrite_refused hbatch]
      exact .refused ((reported_refuses ext server.db env.faults).prepareBatch _ _ _ hbatch)
  | ok found =>
      obtain ⟨batch, object⟩ := found
      obtain ⟨rfl, htoken, hpermitted, hprepared⟩ := prepareBatch_ok hdb hcall hbatch
      cases hcommit : env.commit with
      | written =>
          rw [Server.prepareWrite_prepared hbatch hcommit]
          exact .prepared htoken hpermitted hprepared
      | failed applied status =>
          have hambiguous := rocksToStatus_ambiguous status "commit storage batch"
          have hresult : server.prepareWrite ext core id call env =
              (server.returned core id
                (commitBatch (core.coreState server.db) batch (.failed applied status)).1,
                .write (call.assigned store) (if applied then some .prepare else none)
                  (some (rocksToStatus status "commit storage batch", .empty))) := by
            simp only [Server.prepareWrite, prepareSection, Running.coreState, hbatch, hcommit,
              commitBatch_failed, hambiguous.not_ok]
            rfl
          have hstate := commitBatch_db (core.coreState server.db) batch (.failed applied status)
          rw [hresult]
          cases applied with
          | true => exact .applied htoken hpermitted (hstate ▸ hprepared) hambiguous
          | false => exact .notApplied hstate hambiguous

theorem Server.fileCall_outcome {outcome : SyscallOutcome} {result : Server × Event}
    (h : server.fileCall core id call outcome = some result) :
    FileOutcome server core id call outcome result := by
  unfold Server.fileCall at h
  split at h
  · rename_i phase hphase
    split at h
    · cases h
    · cases h
      exact .writing hphase ‹_›
    · rename_i dir status hstep
      dsimp only at h
      cases hok : status.isOk with
      | true =>
          simp only [afterFileWrite, hok, if_true] at h
          cases h
          exact .written hphase hstep hok
      | false =>
          cases hfatal : status.isFatal with
          | true =>
              simp only [afterFileWrite, failPrepared, hok, hfatal, if_true] at h
              cases h
              exact .writeExit hphase hstep hok hfatal (fatalStorageError_db _ _)
          | false =>
              simp only [afterFileWrite, failPrepared, hok, hfatal] at h
              cases h
              exact .writeFailed hphase hstep hok hfatal
  · rename_i phase answer hphase
    split at h
    · cases h
    · cases h
      exact .cleaning hphase ‹_›
    · rename_i dir status hstep
      dsimp only at h
      cases hok : status.isOk with
      | true =>
          simp only [afterCleanup, hok, if_true] at h
          cases h
          exact .cleaned hphase hstep hok
      | false =>
          cases hfatal : status.isFatal with
          | true =>
              simp only [afterCleanup, hok, hfatal, if_true] at h
              cases h
              exact .cleanupFailed hphase hstep hok (fatalStorageError_db _ _)
          | false =>
              simp only [afterCleanup, hok, hfatal] at h
              cases h
              exact .cleanupFailed hphase hstep hok rfl
  · cases h

/-- The statuses with which the second section may end before its commit. -/
def DecisionSound : CommitDecision → Prop
  | .commit _ => True
  | .fail status => status.isOk = false
  | .exit status => status.isFatal = true ∧ status.isOk = false

theorem commitDecision_sound (hdb : Represents ext server.db store) (hvalid : store.Valid ext) :
    DecisionSound (commitDecision ext server.db env call.request call.object) := by
  unfold commitDecision
  split
  · rename_i hsnapshot
    exact ((reads_createSnapshot server.db env.faults).not_ok hsnapshot).1
  · rename_i snapshot hsnapshot
    obtain rfl := ((reads_createSnapshot server.db env.faults).of_ok hsnapshot).symm
    split
    · exact (reported_refuses ext server.db env.faults).authenticate _ _ _ ‹_›
    · split
      · rename_i raised hpreparing
        have herror := (hdb.reads_getPreparingObject hvalid _).not_ok hpreparing
        rw [if_pos herror.2]
        exact herror.symm
      · exact ⟨rfl, rfl⟩
      · split
        · exact ⟨rfl, rfl⟩
        · split
          · rename_i hput
            refine Fallible.Errors.bind (refuses_checks.serializeObject call.object) ?_ _ hput
            exact fun _ _ => .ok _
          · exact True.intro

theorem Server.commitWrite_outcome (hdb : Represents ext server.db store)
    (hvalid : store.Valid ext) :
    CommitOutcomes ext server store core id call (server.commitWrite ext core id call env) := by
  have hsound : DecisionSound (commitDecision ext server.db env call.request call.object) :=
    commitDecision_sound hdb hvalid
  cases hdecision : commitDecision ext server.db env call.request call.object with
  | exit status =>
      obtain ⟨hfatal, hnot⟩ : status.isFatal = true ∧ status.isOk = false := by
        rwa [hdecision] at hsound
      have hresult : server.commitWrite ext core id call env =
          (server.returned core id (fatalStorageError (core.coreState server.db) status),
            .write call none (some (status, .empty))) := by
        simp only [Server.commitWrite, commitSection, Running.coreState, hdecision]
        rfl
      rw [hresult]
      exact .exiting (fatalStorageError_db _ _) hfatal hnot
  | fail status =>
      have hnot : status.isOk = false := by rwa [hdecision] at hsound
      cases hfatal : status.isFatal with
      | true =>
          have hresult : server.commitWrite ext core id call env =
              (server.returned core id (fatalStorageError (core.coreState server.db) status),
                .write call none (some (status, .empty))) := by
            simp only [Server.commitWrite, commitSection, Running.coreState, hdecision,
              failPrepared, hfatal]
            rfl
          rw [hresult]
          exact .exiting (fatalStorageError_db _ _) hfatal hnot
      | false =>
          have hresult : server.commitWrite ext core id call env =
              (server.moved core id call (core.coreState server.db)
                (.cleaning (.unlinkTemporary call.object.objectId []) status),
                .write call none none) := by
            simp only [Server.commitWrite, commitSection, Running.coreState, hdecision,
              failPrepared, hfatal]
            rfl
          rw [hresult]
          exact .failing hnot hfatal
  | commit batch =>
      obtain ⟨htoken, hpermitted, hcommitted⟩ := commitDecision_commit hdb hvalid hdecision
      cases hcommit : env.commit with
      | written =>
          have hresult : server.commitWrite ext core id call env =
              (server.returned core id (commitBatch (core.coreState server.db) batch .written).1,
                .write call (some .commit)
                  (some (.ok, .object call.object.objectId call.object.objectToken))) := by
            simp only [Server.commitWrite, commitSection, Running.coreState, hdecision, hcommit]
            rfl
          rw [hresult]
          exact .committed htoken hpermitted hcommitted
      | failed applied status =>
          have hambiguous := rocksToStatus_ambiguous status "commit storage batch"
          have hstate := commitBatch_db (core.coreState server.db) batch (.failed applied status)
          have hresult : server.commitWrite ext core id call env =
              (server.returned core id (fatalStorageError
                (commitBatch (core.coreState server.db) batch (.failed applied status)).1
                (rocksToStatus status "commit storage batch")),
                .write call (if applied then some .commit else none)
                  (some (rocksToStatus status "commit storage batch", .empty))) := by
            simp only [Server.commitWrite, commitSection, Running.coreState, hdecision, hcommit,
              commitBatch_failed, hambiguous.not_ok]
            rfl
          rw [hresult]
          cases applied with
          | true =>
              refine .applied htoken hpermitted ?_ hambiguous
              rw [fatalStorageError_db, hstate]
              exact hcommitted
          | false =>
              exact .exiting (by rw [fatalStorageError_db, hstate]; rfl)
                (rocksToStatus_fatal _ _) hambiguous.not_ok

theorem Server.deletePreparing_outcome (hdb : Represents ext server.db store) {result : Status} :
    DeleteOutcome ext server store core id call result
      (server.deletePreparing core id call result env) := by
  have hdiscarded := hdb.start.discard [call.object.objectId]
  cases hcommit : env.commit with
  | written =>
      have hresult : server.deletePreparing core id call result env =
          (server.returned core id (commitBatch (core.coreState server.db)
            (UnifiedStorage.deletePreparingObject [] call.object.objectId) .written).1,
            .write call (some .deletePreparing) (some (result, .empty))) := by
        simp only [Server.deletePreparing, deletePreparingSection, hcommit]
        rfl
      rw [hresult]
      exact .applied hdiscarded (Or.inr rfl)
  | failed applied status =>
      have hambiguous := rocksToStatus_ambiguous status "commit storage batch"
      have hstate := commitBatch_db (core.coreState server.db)
        (UnifiedStorage.deletePreparingObject [] call.object.objectId) (.failed applied status)
      have hresult : server.deletePreparing core id call result env =
          (server.returned core id (commitBatch (core.coreState server.db)
            (UnifiedStorage.deletePreparingObject [] call.object.objectId)
              (.failed applied status)).1,
            .write call (if applied then some .deletePreparing else none)
              (some (rocksToStatus status "commit storage batch", .empty))) := by
        simp only [Server.deletePreparing, deletePreparingSection, hcommit, commitBatch_failed,
          hambiguous.not_ok]
        rfl
      rw [hresult]
      cases applied with
      | true => exact .applied (hstate ▸ hdiscarded) (Or.inl hambiguous)
      | false => exact .notApplied hstate hambiguous

end OpenEvent
