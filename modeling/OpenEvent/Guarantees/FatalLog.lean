import OpenEvent.Guarantees.FatalLatch
import OpenEvent.Refinement.Diagnostics
import OpenEvent.Refinement.Sections

/-!
What the fatal error handler is called with, and so what a server logs when it goes
down: a status of the storage with a diagnostic of the server's own texts, in every
interleaving, on any database and whatever fails. No credential, name or payload gets
into that line.
-/

namespace OpenEvent

open OpenEventCore Fallible

/-! ### Sections -/

def CommitOutcome.Prints (texts : Set String) : CommitOutcome → Prop
  | .written => True
  | .failed _ status => status.diagnostic ∈ texts

/-- The RocksDB statuses that a section meets print as texts of the enums. -/
structure CallEnv.Prints (texts : Set String) (env : CallEnv) : Prop where
  faults : env.faults.Prints texts
  commit : env.commit.Prints texts

/-- A status that may be given to the handler. -/
def Status.Loggable (texts : Set String) (status : Status) : Prop :=
  status.isFatal = true ∧ status.Classified texts

/-- The section raises no other. -/
def CoreState.Raises (texts : Set String) (state : CoreState) : Prop :=
  ∀ status, state.fatalError = some status → status.Loggable texts

/-- The result that a call carries through its cleanup. -/
def OpenEventCore.WriteObjectPhase.Classified (texts : Set String) : WriteObjectPhase → Prop
  | .cleaning _ result => result.Classified texts
  | .deletePreparing result => result.Classified texts
  | _ => True

def OpenEventCore.WriteObjectProgress.Classified (texts : Set String) : WriteObjectProgress → Prop
  | .next phase => phase.Classified texts
  | .done status _ => status.Classified texts

section Sections

variable {texts : Set String} {state : CoreState} {env : CallEnv}

theorem raises_of_none (h : state.fatalError = none) : state.Raises texts := by
  intro status hset
  rw [h] at hset
  cases hset

theorem fatalStorageError_raises {status : Status} (h : state.Raises texts)
    (hlog : status.Loggable texts) :
    (fatalStorageError state status).Raises texts := by
  unfold fatalStorageError
  split
  · exact h
  · intro raised hraised
    cases hraised
    exact hlog

theorem commit_classified (db : Db) (batch : WriteBatch) {outcome : CommitOutcome}
    (houtcome : outcome.Prints texts) :
    (UnifiedStorage.commit db batch outcome).2.Classified texts := by
  cases outcome with
  | written => exact ok_classified
  | failed applied status => exact classified_rocks houtcome (by simp [rocksOperations])

theorem commitBatch_raises (h : state.Raises texts) (batch : WriteBatch) {outcome : CommitOutcome}
    (houtcome : outcome.Prints texts) :
    (commitBatch state batch outcome).1.Raises texts ∧
      (commitBatch state batch outcome).2.Classified texts := by
  have hclassified := commit_classified state.db batch houtcome
  unfold commitBatch
  dsimp only
  split
  · exact ⟨h, hclassified⟩
  · split
    · rename_i hexit
      refine ⟨fatalStorageError_raises h ⟨?_, hclassified⟩, hclassified⟩
      simp [Status.isFatal, hexit]
    · exact ⟨h, hclassified⟩

/-- Every failure of a commit is fatal. -/
theorem commitBatch_fatal {batch : WriteBatch} {outcome : CommitOutcome}
    (h : (commitBatch state batch outcome).2.isOk = false) :
    (commitBatch state batch outcome).2.isFatal = true := by
  cases outcome with
  | written => cases h
  | failed applied status =>
      rw [commitBatch_failed]
      rfl

theorem conclude_raises (h : state.Raises texts) (henv : env.Prints texts)
    {built : Except Exit (WriteBatch × ResponseData)}
    (hbuilt : Errors (Exit.Classified texts) built) :
    (conclude state env built).1.Raises texts ∧
      (conclude state env built).2.1.Classified texts := by
  cases built with
  | error exit =>
      obtain ⟨hstatus, hlatches⟩ := hbuilt exit rfl
      refine ⟨?_, hstatus⟩
      unfold conclude leave
      dsimp only
      split
      · rename_i hfatal
        exact fatalStorageError_raises h ⟨hlatches hfatal, hstatus⟩
      · exact h
  | ok found => exact commitBatch_raises h found.1 henv.commit

theorem prepareSection_raises (h : state.Raises texts) (henv : env.Prints texts)
    (ext : Externals) (request : WriteObjectRequest) (object : StoredObject) :
    (prepareSection ext state env request object).1.Raises texts ∧
      (prepareSection ext state env request object).2.2.Classified texts := by
  have hprepare := (classified_reported state.db henv.faults ext).prepareBatch request object
  unfold prepareSection
  cases hbatch : prepareBatch ext state.db env request object with
  | error status => exact ⟨h, hprepare status hbatch⟩
  | ok found =>
      have hcommit := commitBatch_raises h found.1 henv.commit
      dsimp only
      split
      · exact ⟨hcommit.1, True.intro⟩
      · exact hcommit

theorem failPrepared_raises (h : state.Raises texts) (objectId : UInt64) {status : Status}
    (hstatus : status.Classified texts) :
    (failPrepared state objectId status).1.Raises texts ∧
      (failPrepared state objectId status).2.Classified texts := by
  unfold failPrepared
  split
  · rename_i hfatal
    exact ⟨fatalStorageError_raises h ⟨hfatal, hstatus⟩, hstatus⟩
  · exact ⟨h, hstatus⟩

theorem afterFileWrite_raises (h : state.Raises texts) (objectId : UInt64) {status : Status}
    (hstatus : status.Classified texts) :
    (afterFileWrite state objectId status).1.Raises texts ∧
      (afterFileWrite state objectId status).2.Classified texts := by
  unfold afterFileWrite
  split
  · exact ⟨h, True.intro⟩
  · exact failPrepared_raises h objectId hstatus

theorem afterCleanup_raises (h : state.Raises texts) {status result : Status}
    (hstatus : status.Classified texts) (hresult : result.Classified texts) :
    (afterCleanup state status result).1.Raises texts ∧
      (afterCleanup state status result).2.Classified texts := by
  unfold afterCleanup
  split
  · exact ⟨h, hresult⟩
  · split
    · rename_i hfatal
      exact ⟨fatalStorageError_raises h ⟨hfatal, hstatus⟩, hstatus⟩
    · exact ⟨h, hstatus⟩

theorem deletePreparingSection_raises (h : state.Raises texts) (henv : env.Prints texts)
    (objectId : UInt64) {result : Status} (hresult : result.Classified texts) :
    (deletePreparingSection state env objectId result).1.Raises texts ∧
      (deletePreparingSection state env objectId result).2.Classified texts := by
  have hcommit := commitBatch_raises h (UnifiedStorage.deletePreparingObject [] objectId)
    henv.commit
  unfold deletePreparingSection
  dsimp only
  refine ⟨hcommit.1, ?_⟩
  unfold OpenEventCore.WriteObjectProgress.Classified
  dsimp only
  split
  · exact hresult
  · exact hcommit.2

/-- What the second section decides on comes with classified statuses, and it goes
through the latch only with fatal ones. -/
theorem commitDecision_classified (henv : env.Prints texts) (ext : Externals) (db : Db)
    (request : WriteObjectRequest) (object : StoredObject) {status : Status} :
    (commitDecision ext db env request object = .fail status → status.Classified texts) ∧
      (commitDecision ext db env request object = .exit status → status.Loggable texts) := by
  have hreported := classified_reported db henv.faults ext
  have hchanged : Status.Loggable texts (.storageCorruption "commit object metadata"
      "preparing object metadata changed unexpectedly") :=
    ⟨rfl, classified_corruption (.record (by simp [recordFaults]))⟩
  have hexit {raised : Status} (h : raised.Loggable texts) :
      (CommitDecision.exit raised = .fail status → status.Classified texts) ∧
        (CommitDecision.exit raised = .exit status → status.Loggable texts) := by
    refine ⟨(by intro heq; cases heq), ?_⟩
    intro heq
    cases heq
    exact h
  have hfail {raised : Status} (h : raised.Classified texts) :
      (CommitDecision.fail raised = .fail status → status.Classified texts) ∧
        (CommitDecision.fail raised = .exit status → status.Loggable texts) := by
    refine ⟨?_, (by intro heq; cases heq)⟩
    intro heq
    cases heq
    exact h
  unfold commitDecision
  cases hsnapshot : UnifiedStorage.createSnapshot db env.faults with
  | error raised => exact hfail (hreported.snapshot raised hsnapshot)
  | ok snapshot =>
      obtain rfl := (reads_createSnapshot db env.faults).of_ok hsnapshot
      cases hauth : authenticate snapshot env.faults request.principal request.token with
      | error raised =>
          simp only [hauth]
          exact hfail (hreported.authenticate _ _ raised hauth)
      | ok _ =>
          simp only [hauth]
          cases hget : UnifiedStorage.getPreparingObject ext snapshot env.faults
            object.objectId with
          | error raised =>
              have hraised := getObject_classified snapshot henv.faults _ _ raised hget
              dsimp only
              split
              · rename_i hfatal
                exact hexit ⟨hfatal, hraised⟩
              · exact hfail hraised
          | ok found =>
              cases found with
              | none => exact hexit hchanged
              | some preparing =>
                  dsimp only
                  split
                  · exact hexit hchanged
                  · cases hput : UnifiedStorage.putCommittedObject ext [] object with
                    | error raised =>
                        refine hfail (Errors.bind (classified_checks.serializeObject object) ?_ _
                          hput)
                        intro payload _
                        exact .ok _
                    | ok batch => exact ⟨(by intro heq; cases heq), (by intro heq; cases heq)⟩

theorem commitSection_raises (h : state.Raises texts) (henv : env.Prints texts)
    (ext : Externals) (request : WriteObjectRequest) (object : StoredObject) :
    (commitSection ext state env request object).1.Raises texts ∧
      (commitSection ext state env request object).2.Classified texts := by
  have hdecided {status : Status} :=
    @commitDecision_classified texts env henv ext state.db request object status
  unfold commitSection
  cases hdecision : commitDecision ext state.db env request object with
  | exit status =>
      have hlog := hdecided.2 hdecision
      exact ⟨fatalStorageError_raises h hlog, hlog.2⟩
  | fail status => exact failPrepared_raises h object.objectId (hdecided.1 hdecision)
  | commit batch =>
      have hcommit := commitBatch_raises h batch henv.commit
      dsimp only
      split
      · exact ⟨hcommit.1, ok_classified⟩
      · rename_i hfailed
        have hfatal := commitBatch_fatal (Bool.eq_false_iff.mpr hfailed)
        exact ⟨fatalStorageError_raises hcommit.1 ⟨hfatal, hcommit.2⟩, hcommit.2⟩

end Sections

/-! ### Calls and streams -/

def CallReturn.Classified (texts : Set String) : CallReturn → Prop
  | .returned status _ => status.Classified texts
  | .answered status _ => status.Classified texts

def CallPhase.Classified (texts : Set String) : CallPhase → Prop
  | .called => True
  | .working (.write call) => call.phase.Classified texts
  | .working _ => True
  | .latching _ status outcome => status.Loggable texts ∧ outcome.Classified texts
  | .settled outcome => outcome.Classified texts

def StreamPhase.Classified (texts : Set String) : StreamPhase → Prop
  | .running subscription =>
      ∀ status, subscription.phase = .returned status → status.Classified texts
  | .latching _ status => status.Loggable texts
  | .answered _ => True

def RefresherPhase.Classified (texts : Set String) : RefresherPhase → Prop
  | .refreshing (.created _ snapshot) => Errors (Status.Classified texts) snapshot
  | .refreshing (.failing status) => status.Loggable texts
  | .refreshing _ => True
  | .notifying status => status.Loggable texts

section Phases

variable {texts : Set String} {ext : Externals} {config : Config} {shared : SharedSnapshot}

theorem finishCall_classified {state : CoreState} {status : Status} (answer : Answer)
    (h : state.Raises texts) (hstatus : status.Classified texts) :
    (finishCall state status answer).Classified texts := by
  unfold finishCall
  split
  · rename_i raised hraised
    exact ⟨h raised hraised, hstatus⟩
  · exact hstatus

theorem leaveCall_classified {exit : Exit} (h : exit.Classified texts) :
    (leaveCall exit).Classified texts := by
  unfold leaveCall
  split
  · rename_i hfatal
    exact ⟨⟨h.2 hfatal, h.1⟩, h.1⟩
  · exact h.1

theorem continueWrite_classified (call : WriteObjectCall) {state : CoreState}
    {progress : WriteObjectProgress} (h : state.Raises texts)
    (hprogress : progress.Classified texts) :
    (continueWrite call state progress).Classified texts := by
  cases progress with
  | next phase => exact hprogress
  | done status data => exact finishCall_classified _ h hprogress

theorem enter_classified {fatalError : Option Status} {tsMs : UInt64}
    {random : List GetrandomResult} {operation : Operation} {phase : CallPhase}
    (h : operation.enter fatalError tsMs random = some phase) : phase.Classified texts := by
  have hchecks := @classified_checks texts
  unfold Operation.enter at h
  dsimp only at h
  split at h
  · cases h
    exact True.intro
  · rename_i status _ hgate
    cases h
    exact hchecks.ensureAvailable fatalError status hgate
  · rename_i change _
    split at h
    · rename_i status hentry
      cases h
      exact hchecks.mutationEntry change status hentry
    · cases h
      exact True.intro
  · rename_i request _
    split at h
    · rename_i status hentry
      cases h
      exact hchecks.writeObjectEntry request status hentry
    · split at h
      · cases h
      · rename_i status hgenerated
        cases h
        exact hchecks.generateObjectToken hgenerated status rfl
      · cases h
        exact True.intro
  · cases h
    exact True.intro
  · cases h
    exact True.intro
  · cases h
    exact True.intro

/-- A piece of work ends with classified statuses and raises no others. -/
theorem work_classified {state after : CoreState} {dir dir' : ObjectDirectory} {env : WorkEnv}
    {work : Work} {phase : CallPhase} (hnone : state.fatalError = none)
    (henv : env.env.Prints texts) (hwork : (CallPhase.working work).Classified texts)
    (h : work.step ext config state dir env = some (after, dir', phase)) :
    phase.Classified texts := by
  have hraises := @raises_of_none texts state hnone
  cases work with
  | mutation change tsMs =>
      rw [Work.step] at h
      split at h
      · cases h
      · rename_i built hbuilt
        cases h
        obtain ⟨hafter, hstatus⟩ := conclude_raises hraises henv
          (mutationBatch_classified ext config state.db env.env henv.faults hbuilt)
        exact finishCall_classified _ hafter hstatus
  | write call =>
      rw [Work.step] at h
      split at h
      · cases h
        obtain ⟨hafter, hprogress⟩ := prepareSection_raises hraises henv ext call.request
          call.object
        exact continueWrite_classified _ hafter hprogress
      · split at h
        · cases h
        · cases h
          exact True.intro
        · rename_i hwritten
          cases h
          obtain ⟨hafter, hprogress⟩ := afterFileWrite_raises hraises call.object.objectId
            (writeStep_classified hwritten)
          exact continueWrite_classified _ hafter hprogress
      · cases h
        obtain ⟨hafter, hprogress⟩ := commitSection_raises hraises henv ext call.request
          call.object
        exact continueWrite_classified _ hafter hprogress
      · rename_i cleaning result hphase
        have hresult : result.Classified texts := by
          unfold CallPhase.Classified at hwork
          dsimp only at hwork
          rw [hphase] at hwork
          exact hwork
        split at h
        · cases h
        · cases h
          exact hresult
        · rename_i hcleaned
          cases h
          obtain ⟨hafter, hprogress⟩ := afterCleanup_raises hraises
            (cleanupStep_classified hcleaned) hresult
          exact continueWrite_classified _ hafter hprogress
      · rename_i result hphase
        have hresult : result.Classified texts := by
          unfold CallPhase.Classified at hwork
          dsimp only at hwork
          rw [hphase] at hwork
          exact hwork
        cases h
        obtain ⟨hafter, hprogress⟩ := deletePreparingSection_raises hraises henv
          call.object.objectId hresult
        exact continueWrite_classified _ hafter hprogress
  | read operation =>
      rw [Work.step] at h
      split at h
      · cases h
        exact ok_classified
      · rename_i exit hexit
        cases h
        exact leaveCall_classified (operation.run_classified state.db henv.faults exit hexit)
  | record request =>
      rw [Work.step] at h
      split at h
      · cases h
        exact True.intro
      · rename_i exit hexit
        cases h
        exact leaveCall_classified
          (readObjectRecord_classified state.db henv.faults request exit hexit)
  | file request object =>
      rw [Work.step] at h
      split at h
      · cases h
      · cases h
        exact ok_classified
      · rename_i exit hread
        cases h
        exact leaveCall_classified (readObjectFile_classified hread exit rfl)
  | acquire operation phase => cases h
  | snapshot operation acquired =>
      rw [Work.step] at h
      split at h
      · cases h
        exact ok_classified
      · rename_i status hfailed
        cases h
        exact operation.run_classified acquired.snapshot.db henv.faults status hfailed

/-- `AcquireSubscriptionSnapshot` returns the status of the last refresh, or a check. -/
theorem acquireStep_classified (h : shared.status.Classified texts) {phase : AcquirePhase}
    {status : Status} (hacquire : shared.acquireStep phase = some (.done (.error status))) :
    status.Classified texts := by
  unfold SharedSnapshot.acquireStep at hacquire
  split at hacquire
  · split at hacquire
    · rename_i hgate
      cases hacquire
      exact classified_checks.ensureAvailable shared.fatalError status hgate
    · cases hacquire
  · cases hacquire
  · rename_i requiredGeneration
    split at hacquire
    · have hreturned : shared.acquired requiredGeneration = .error status := by
        simpa using hacquire
      unfold SharedSnapshot.acquired at hreturned
      split at hreturned
      · cases hreturned
        exact h
      · split at hreturned
        · cases hreturned
        · split at hreturned
          · cases hreturned
            exact classified_checks _ rfl rfl
          · cases hreturned
            exact classified_checks _ rfl rfl
    · cases hacquire

theorem acquirePhase_classified (h : shared.status.Classified texts) {phase : AcquirePhase}
    (operation : SubscriptionOperation) {progress : AcquireProgress}
    (hacquire : shared.acquireStep phase = some progress) :
    (acquirePhase operation progress).Classified texts := by
  unfold acquirePhase
  split
  · exact True.intro
  · exact acquireStep_classified h hacquire
  · exact True.intro

theorem Subscription.acquire_classified (h : shared.status.Classified texts)
    {subscription after : Subscription} {phase : AcquirePhase}
    {waits : AcquirePhase → SubscriptionPhase} {goesOn : SubscriptionSnapshot → SubscriptionPhase}
    {status : Status} (hwaits : ∀ phase, waits phase ≠ .returned status)
    (hgoesOn : ∀ acquired, goesOn acquired ≠ .returned status)
    (hacquire : subscription.acquire shared phase waits goesOn = some after)
    (hreturned : after.phase = .returned status) : status.Classified texts := by
  unfold acquire at hacquire
  split at hacquire
  · cases hacquire
  · cases hacquire
    exact absurd hreturned (hwaits _)
  · rename_i hfailed
    cases hacquire
    cases hreturned
    exact acquireStep_classified h hfailed
  · cases hacquire
    exact absurd hreturned (hgoesOn _)

/-- The loop of a stream returns classified statuses. -/
theorem Subscription.step_classified (h : shared.status.Classified texts)
    {subscription after : Subscription} {input : LoopInput} (hinput : input.faults.Prints texts)
    (hstep : subscription.step ext config shared input = some after) {status : Status}
    (hreturned : after.phase = .returned status) : status.Classified texts := by
  unfold step at hstep
  dsimp only at hstep
  split at hstep
  case h_1 =>
      split at hstep
      · rename_i hgate
        cases hstep
        cases hreturned
        exact classified_checks.ensureAvailable shared.fatalError status hgate
      · cases hstep
        cases hreturned
  case h_2 =>
      exact acquire_classified h (by intro _ heq; cases heq) (by intro _ heq; cases heq) hstep
        hreturned
  case h_3 acquired _ =>
      split at hstep
      · rename_i hfailed
        cases hstep
        cases hreturned
        exact subscriptionMaxSeq_classified acquired.snapshot.db hinput _ _ _ status hfailed
      · split at hstep
        · cases hstep
          cases hreturned
          exact classified_checks _ rfl rfl
        · cases hstep
          cases hreturned
  case h_4 =>
      split at hstep
      · cases hstep
        cases hreturned
        exact ok_classified
      · cases hstep
        cases hreturned
  case h_5 =>
      exact acquire_classified h (by intro _ heq; cases heq) (by intro _ heq; cases heq) hstep
        hreturned
  case h_6 acquired _ =>
      split at hstep
      · rename_i hfailed
        cases hstep
        cases hreturned
        exact subscriptionBatch_classified acquired.snapshot.db hinput _ _ _ _ _ _ status
          hfailed
      · cases hstep
        cases hreturned
  case h_7 =>
      cases hstep
      unfold finishBatch at hreturned
      dsimp only at hreturned
      split at hreturned
      · cases hreturned
      · cases hreturned
  case h_8 =>
      split at hstep
      · cases hstep
        cases hreturned
      · cases hstep
        cases hreturned
        exact ok_classified
  case h_9 hphase =>
      split at hstep
      · cases hstep
        cases hreturned
      · cases hstep
        rw [hphase] at hreturned
        cases hreturned
  case h_10 => cases hstep

end Phases

/-! ### The service -/

namespace Service

variable {texts : Set String} {ext : Externals} {service next : Service} {label : ServiceLabel}

/-- Everything that may get to the handler, and everything that has. -/
structure Logs (texts : Set String) (service : Service) : Prop where
  calls : ∀ id call, service.calls id = some call → call.phase.Classified texts
  streams : ∀ id phase, service.streams id = some phase → phase.Classified texts
  refresher : service.refresher.Classified texts
  shared : service.shared.status.Classified texts
  handled : ∀ status ∈ service.handled, status.Loggable texts

theorem Logs.setCall (h : service.Logs texts) (id : Nat) {call : CoreCall}
    (hcall : call.phase.Classified texts) : (service.setCall id call).Logs texts where
  calls := by
    intro other found hfound
    by_cases heq : other = id
    · subst heq
      rw [setCall_self] at hfound
      cases hfound
      exact hcall
    · rw [setCall_of_ne _ _ heq] at hfound
      exact h.calls other found hfound
  streams := h.streams
  refresher := h.refresher
  shared := h.shared
  handled := h.handled

theorem Logs.setStream (h : service.Logs texts) (id : Nat) {phase : StreamPhase}
    (hphase : phase.Classified texts) : (service.setStream id phase).Logs texts where
  calls := h.calls
  streams := by
    intro other found hfound
    by_cases heq : other = id
    · subst heq
      have hself : (service.setStream other phase).streams other = some phase :=
        Function.update_self _ _ _
      cases hself.symm.trans hfound
      exact hphase
    · have hother : (service.setStream id phase).streams other = service.streams other :=
        Function.update_of_ne heq _ _
      exact h.streams other found (hother.symm.trans hfound)
  refresher := h.refresher
  shared := h.shared
  handled := h.handled

theorem Logs.setRefresher (h : service.Logs texts) {phase : RefresherPhase}
    (hphase : phase.Classified texts) : { service with refresher := phase }.Logs texts :=
  ⟨h.calls, h.streams, hphase, h.shared, h.handled⟩

theorem Logs.exchange (h : service.Logs texts) (status : Status) :
    (service.exchange status).Logs texts :=
  ⟨h.calls, h.streams, h.refresher, h.shared, h.handled⟩

theorem Logs.notify (h : service.Logs texts) {status : Status} (hstatus : status.Loggable texts) :
    { service with handled := service.handled ++ [status] }.Logs texts where
  calls := h.calls
  streams := h.streams
  refresher := h.refresher
  shared := h.shared
  handled := by
    intro found hfound
    rcases List.mem_append.mp hfound with hold | hnew
    · exact h.handled found hold
    · rw [List.mem_singleton.mp hnew]
      exact hstatus

theorem afterExchange_classified {Phase : Type} {P : Phase → Prop} (service : Service)
    {notify settled : Phase} (hnotify : P notify) (hsettled : P settled) :
    P (service.afterExchange notify settled) := by
  unfold afterExchange
  split
  · exact hsettled
  · exact hnotify

/-- A step in which the RocksDB statuses that the storage meets print as texts of the
enums, which `texts` are. -/
structure PrintsStep (texts : Set String) (ext : Externals) (service : Service)
    (label : ServiceLabel) (next : Service) : Prop where
  step : Step ext service label next
  call : ∀ id call work, label.thread = some (.call id) → label.storage = true →
    service.calls id = some call → call.phase = .working work →
    ∃ env state dir phase, env.env.Prints texts ∧
      work.step ext service.config service.coreState service.dir env = some (state, dir, phase) ∧
      next.calls id = some { call with phase }
  stream : ∀ id subscription after, label.thread = some (.stream id) →
    service.streams id = some (.running subscription) →
    next.streams id = some (.running after) →
    ∃ input : LoopInput, input.faults.Prints texts ∧
      subscription.step ext service.config service.shared input = some after

theorem Logs.step (h : service.Logs texts) (hprints : PrintsStep texts ext service label next) :
    next.Logs texts := by
  obtain ⟨hstep, hcalled, hstreamed⟩ := hprints
  cases hstep with
  | @beginCall id operation hfree => exact h.setCall id True.intro
  | @enterCall id call tsMs random phase hcall hphase henter =>
      exact h.setCall id (enter_classified henter)
  | @acquireCall id call operation phase progress hcall hphase hacquire =>
      exact h.setCall id (acquirePhase_classified h.shared operation hacquire)
  | @workCall id call work env state dir phase hcall hphase hwork =>
      have hworking : (CallPhase.working work).Classified texts := hphase ▸ h.calls id call hcall
      have hworked : (service.worked state dir).Logs texts :=
        ⟨h.calls, h.streams, h.refresher, h.shared, h.handled⟩
      obtain ⟨_, _, _, found, henv, hfound, hafter⟩ := hcalled id call work rfl rfl hcall hphase
      obtain rfl : phase = found := by
        rw [setCall_self] at hafter
        exact congrArg CoreCall.phase (Option.some.inj hafter)
      exact hworked.setCall id (work_classified rfl henv hworking hfound)
  | @exchangeCall id call status outcome hcall hphase =>
      have hlatching : (CallPhase.latching .exchange status outcome).Classified texts :=
        hphase ▸ h.calls id call hcall
      refine (h.exchange status).setCall id ?_
      exact afterExchange_classified (P := CallPhase.Classified texts) service hlatching hlatching.2
  | @notifyCall id call status outcome hcall hphase =>
      have hlatching : (CallPhase.latching .notify status outcome).Classified texts :=
        hphase ▸ h.calls id call hcall
      exact (h.notify hlatching.1).setCall id hlatching.2
  | @reportCall id call status answer hcall _ hphase =>
      have hsettled : (CallPhase.settled (.returned status answer)).Classified texts :=
        hphase ▸ h.calls id call hcall
      refine h.setCall id ?_
      dsimp only
      split
      · rename_i hfatal
        exact ⟨⟨hfatal, hsettled⟩, hsettled⟩
      · exact hsettled
  | @subscribe id request hfree =>
      refine h.setStream id ?_
      split
      · exact True.intro
      · intro status hreturned
        cases hreturned
  | @streamStep id subscription after input hstream hmove =>
      have hafter : (service.setStream id (.running after)).streams id = some (.running after) :=
        Function.update_self _ _ _
      obtain ⟨found, hinput, hfound⟩ := hstreamed id subscription after rfl hstream hafter
      exact h.setStream id (fun status hreturned =>
        Subscription.step_classified h.shared hinput hfound hreturned)
  | @reportStream id subscription status hstream hphase =>
      refine h.setStream id ?_
      split
      · rename_i hfatal
        exact ⟨hfatal, h.streams id _ hstream status hphase⟩
      · exact True.intro
  | @exchangeStream id status hstream =>
      have hlatching : status.Loggable texts := h.streams id _ hstream
      refine (h.exchange status).setStream id ?_
      exact afterExchange_classified (P := StreamPhase.Classified texts) service hlatching
        True.intro
  | @notifyStream id status hstream =>
      exact (h.notify (h.streams id _ hstream)).setStream id True.intro
  | refreshWake _ =>
      refine h.setRefresher ?_
      unfold SharedSnapshot.refreshWake
      split
      · exact True.intro
      · split
        · exact True.intro
        · exact True.intro
  | @refreshCreate generation faults hphase =>
      refine h.setRefresher ?_
      intro status hfailed
      cases hsnapshot : UnifiedStorage.createSnapshot service.db faults with
      | ok db =>
          rw [hsnapshot] at hfailed
          cases hfailed
      | error found =>
          rw [hsnapshot] at hfailed
          cases hfailed
          exact createSnapshot_classified service.db faults _ hsnapshot
  | refreshBreak _ _ => exact h.setRefresher True.intro
  | @refreshStore generation snapshot hphase hflag =>
      have hsnapshot : Errors (Status.Classified texts) snapshot := by
        have hrefresher := h.refresher
        rw [hphase] at hrefresher
        exact hrefresher
      cases snapshot with
      | ok found => exact ⟨h.calls, h.streams, True.intro, ok_classified, h.handled⟩
      | error status =>
          have hstatus := hsnapshot status rfl
          refine ⟨h.calls, h.streams, ?_, hstatus, h.handled⟩
          unfold SharedSnapshot.afterRefresh
          dsimp only
          split
          · rename_i hexit
            exact ⟨by simp [Status.isFatal, hexit], hstatus⟩
          · exact True.intro
  | @refreshExchange status hphase =>
      have hrefresher := h.refresher
      rw [hphase] at hrefresher
      refine (h.exchange status).setRefresher ?_
      exact afterExchange_classified (P := RefresherPhase.Classified texts) service hrefresher
        True.intro
  | @refreshNotify status hphase =>
      have hrefresher := h.refresher
      rw [hphase] at hrefresher
      exact (h.notify hrefresher).setRefresher True.intro
  | stopSubscriptions => exact ⟨h.calls, h.streams, h.refresher, h.shared, h.handled⟩
  | stopRefresher => exact ⟨h.calls, h.streams, h.refresher, h.shared, h.handled⟩

/-- Before the first call only the constructor may have called the handler. -/
theorem logs_of_idle (hcalls : service.calls = fun _ => none)
    (hstreams : service.streams = fun _ => none) (hrefresher : service.refresher.Classified texts)
    (hshared : service.shared.status.Classified texts)
    (hhandled : ∀ status ∈ service.handled, status.Loggable texts) : service.Logs texts where
  calls := by
    intro id call hcall
    rw [hcalls] at hcall
    cases hcall
  streams := by
    intro id phase hstream
    rw [hstreams] at hstream
    cases hstream
  refresher := hrefresher
  shared := hshared
  handled := hhandled

theorem logs_start (config : Config) (db : Db) (dir : ObjectDirectory) (faults : ReadFaults) :
    (start config db dir faults).Logs texts := by
  have hclassified := @createSnapshot_classified texts db faults
  unfold start
  cases hsnapshot : UnifiedStorage.createSnapshot db faults with
  | ok snapshot => exact logs_of_idle rfl rfl True.intro ok_classified (by simp)
  | error status =>
      have hstatus := hclassified status hsnapshot
      dsimp only
      split
      · rename_i hexit
        refine logs_of_idle rfl rfl True.intro hstatus ?_
        intro found hfound
        rw [List.mem_singleton.mp hfound]
        exact ⟨by simp [Status.isFatal, hexit], hstatus⟩
      · exact logs_of_idle rfl rfl True.intro hstatus (by simp)

/-- The line that is logged for a status with a diagnostic. -/
theorem fatalLogMessage_eq {status : Status} {operation error : String}
    (h : status.storageDiagnostic = "operation=" ++ operation ++ "; error=" ++ error) :
    status.fatalLogMessage = "fatal storage error: operation=" ++ operation ++ "; error=" ++
      error ++ "; grpc_code=" ++ toString status.code.number := by
  have hempty : status.storageDiagnostic.isEmpty = false := by
    rw [h]
    simp
  have hstart : "fatal storage error: operation=" = "fatal storage error: " ++ "operation=" := by
    decide +kernel
  unfold Status.fatalLogMessage
  rw [hempty, hstart, h]
  simp only [Bool.false_eq_true, if_false, String.append_assoc]

/-- However the threads of a core interleave, on any database and in any directory, and
whatever fails: at most one line is logged, and it is made of an operation and an error
of the server's own texts or of the RocksDB enums, and of the code UNAVAILABLE or
DATA_LOSS. Nothing but a text of the enums could break the line. -/
theorem fatal_log_classified {config : Config} {db : Db} {dir : ObjectDirectory}
    {faults : ReadFaults} {labels : List ServiceLabel}
    (hrun : Run (PrintsStep texts ext) (start config db dir faults) labels service) :
    service.handled.length ≤ 1 ∧
      ∀ status ∈ service.handled, ∃ operation error code, Diagnostic texts operation error ∧
        (code = 14 ∨ code = 15) ∧
        status.fatalLogMessage = "fatal storage error: operation=" ++ operation ++ "; error=" ++
          error ++ "; grpc_code=" ++ toString code ∧
        ((∀ text ∈ texts, oneLine text = true) → oneLine status.fatalLogMessage = true) := by
  have hlogs : service.Logs texts :=
    hrun.invariant (logs_start config db dir faults) (fun _ _ _ => Logs.step)
  have hsound : service.Sound :=
    hrun.invariant (sound_start config db dir faults) (fun _ _ _ hs hstep => hs.step hstep.step)
  constructor
  · rcases hsound.latch.handled with hnone | ⟨status, _, hone⟩
    · rw [show service.handled = [] from hnone]
      exact Nat.zero_le 1
    · rw [show service.handled = [status] from hone]
      exact le_refl 1
  · intro status hmem
    obtain ⟨hfatal, hclassified⟩ := hlogs.handled status hmem
    obtain ⟨hcode, operation, error, hdiagnostic, htext⟩ := hclassified hfatal
    have hline := fatalLogMessage_eq htext
    refine ⟨operation, error, status.code.number, hdiagnostic, ?_, hline, ?_⟩
    · rcases hcode with hcode | hcode
      · rw [hcode]
        exact Or.inl rfl
      · rw [hcode]
        exact Or.inr rfl
    · intro htexts
      obtain ⟨hoperation, herror⟩ := hdiagnostic.oneLine htexts
      rw [hline]
      have hfatalText : oneLine "fatal storage error: operation=" = true := by decide +kernel
      have herrorText : oneLine "; error=" = true := by decide +kernel
      have hcodeText : oneLine "; grpc_code=" = true := by decide +kernel
      have hstart := oneLine_append (oneLine_append hfatalText hoperation) herrorText
      exact oneLine_append (oneLine_append (oneLine_append hstart herror) hcodeText)
        (oneLine_number _)

end Service

namespace Reference

open Service

/-- A RocksDB status whose free text is not fit for the log. -/
def corruption : RocksStatus :=
  { isCorruption := true, text := "Corruption: 07070707\nforged line",
    diagnostic := "Corruption: " }

def unreadable : WorkEnv := { env := { faults := { get := fun _ _ => some corruption } } }

def unreadableStatus : Status := rocksToStatus corruption "read credential"

theorem unreadable_prints : unreadable.env.Prints {"Corruption: "} where
  faults := by
    refine ⟨?_, ?_⟩
    · intro _ _ status hfault
      cases hfault
      rfl
    · intro _ _ _ hfault
      cases hfault
  commit := True.intro

theorem printsStep_of_call {texts : Set String} {service next : Service} {id : Nat}
    (hstep : Step externals service ⟨some (.call id), false⟩ next) :
    PrintsStep texts externals service ⟨some (.call id), false⟩ next where
  step := hstep
  call := by
    intro _ _ _ _ hstorage
    cases hstorage
  stream := by
    intro _ _ _ hthread
    cases hthread

/-- A `GetStatus` cannot read its credential, and its RPC is answered. -/
theorem unreadable_run :
    ∃ labels service, Run (PrintsStep {"Corruption: "} externals)
      (start config openServer.db openServer.dir {}) labels service ∧
      service.handled = [unreadableStatus] := by
  have hbegun := Run.single (@printsStep_of_call {"Corruption: "} _ _ 0
    (@Step.beginCall externals (start config openServer.db openServer.dir {}) 0
      statusOperation rfl))
  have hentered := hbegun.snoc (printsStep_of_call (@Step.enterCall externals _ 0 _ 0 []
    (.working (.read (.getStatus 7 credential))) (setCall_self _ _ _) rfl rfl))
  have hfailed := hentered.snoc (@PrintsStep.mk {"Corruption: "} externals _ _ _
    (@Step.workCall externals _ 0 _ _ unreadable _ _
      (.settled (.returned unreadableStatus .empty)) (setCall_self _ _ _) rfl rfl)
    (by
      intro _ _ _ hthread _ hcall hphase
      cases hthread
      cases (setCall_self _ _ _).symm.trans hcall
      cases hphase
      exact ⟨unreadable, _, _, _, unreadable_prints, rfl, setCall_self _ _ _⟩)
    (by
      intro _ _ _ hthread
      cases hthread))
  have hreported := hfailed.snoc (printsStep_of_call (.reportCall (setCall_self _ _ _) rfl rfl))
  have hraised := hreported.snoc (printsStep_of_call (@Step.exchangeCall externals _ 0 _
    unreadableStatus (.answered unreadableStatus .empty) (setCall_self _ _ _) rfl))
  exact ⟨_, _, hraised.snoc (printsStep_of_call (@Step.notifyCall externals _ 0 _
    unreadableStatus (.answered unreadableStatus .empty) (setCall_self _ _ _) rfl)), rfl⟩

theorem unreadable_credential_logged :
    oneLine unreadableStatus.message = false ∧
      oneLine unreadableStatus.fatalLogMessage = true := by
  obtain ⟨_, _, hrun, hhandled⟩ := unreadable_run
  obtain ⟨_, hlines⟩ := fatal_log_classified hrun
  obtain ⟨_, _, _, _, _, _, hline⟩ := hlines unreadableStatus (by rw [hhandled]; simp)
  refine ⟨by decide +kernel, hline ?_⟩
  intro text htext
  rw [Set.mem_singleton_iff.mp htext]
  decide +kernel

end Reference

end OpenEvent
