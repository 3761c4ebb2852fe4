import OpenEvent.Refinement.Reported

/-!
`PublishAutoSeq` and `Publish` are one operation but for the choice of the
seq, on any database and with any read and commit results.
-/

namespace OpenEvent

open OpenEventCore Fallible

/-- The `Publish` request with the same fields and the given seq. -/
def PublishAutoSeqRequest.withSeq (request : PublishAutoSeqRequest) (seq : UInt64) :
    PublishRequest :=
  { principal := request.principal, token := request.token, channelId := request.channelId, seq,
    uuid := request.uuid, recipients := request.recipients, payload := request.payload,
    objectKeys := request.objectKeys }

/-- The checks of `PublishAutoSeq` under the mutex that precede the choice of
the seq, with the snapshot they use and the `max_seq` they find. -/
def publishAutoSeqChecks (config : Config) (db : Db) (env : CallEnv)
    (request : PublishAutoSeqRequest) : Except Exit (Db × UInt64) := do
  plain (checkRpcActive env.rpcBefore)
  let snapshot ← plain (UnifiedStorage.createSnapshot db env.faults)
  plain (authenticate snapshot env.faults request.principal request.token)
  plain (validateAvailableUuid snapshot env.faults request.uuid)
  plain (validatePayloadSize config request.payload)
  plain (validateObjectKeysShape request.objectKeys)
  let maxSeq ← plain (UnifiedStorage.getMaxSeq snapshot env.faults)
  pure (snapshot, maxSeq)

/-- What follows them once the seq is chosen. -/
def publishAs (ext : Externals) (env : CallEnv) (request : PublishAutoSeqRequest) (tsMs : UInt64)
    (snapshot : Db) (seq : UInt64) (data : ResponseData) :
    Except Exit (WriteBatch × ResponseData) := do
  let batch ← buildPublishBatch ext snapshot env.faults request.principal request.channelId seq
    request.uuid request.recipients request.payload request.objectKeys tsMs
  plain (checkRpcActive env.rpcAfter)
  pure (batch, data)

section Equations

variable {ext : Externals} {config : Config} {db : Db} {env : CallEnv} {tsMs seq : UInt64}
variable {request : PublishAutoSeqRequest}

theorem publishAutoSeqBatch_eq :
    publishAutoSeqBatch ext config db env request tsMs =
      publishAutoSeqChecks config db env request >>= fun found =>
        publishAs ext env request tsMs found.1 (found.2 + 1) (.seq (found.2 + 1)) := by
  simp only [publishAutoSeqBatch, publishAutoSeqChecks, publishAs, bind_assoc, pure_bind]

theorem publishBatch_eq :
    publishBatch ext config db env (request.withSeq seq) tsMs =
      publishAutoSeqChecks config db env request >>= fun found =>
        if seq ≠ found.2 + 1 then
          .error { status := { code := .aborted, message := "seq must equal max_seq + 1" } }
        else publishAs ext env request tsMs found.1 seq .empty := by
  simp only [publishBatch, publishAutoSeqChecks, publishAs, bind_assoc, pure_bind,
    PublishAutoSeqRequest.withSeq]
  rfl

end Equations

/-! ### The checks before the seq is chosen -/

/-- A refusal that is neither about the seq nor through the fatal latch. -/
def Exit.BeforeSeq (exit : Exit) : Prop :=
  exit.fatal = false ∧ exit.status.isOk = false ∧ exit.status.code ≠ .aborted

private theorem plain_beforeSeq {α : Type} {result : Result α}
    (h : Errors (fun status : Status => status.isOk = false ∧ status.code ≠ .aborted) result) :
    Errors Exit.BeforeSeq (plain result) := by
  cases result with
  | error status => exact .error ⟨rfl, h status rfl⟩
  | ok value => exact .ok value

private theorem storageErrors_beforeSeq :
    StorageErrors (fun status : Status => status.isOk = false ∧ status.code ≠ .aborted) where
  rocks status operation := by
    refine ⟨rocksToStatus_not_ok status operation, ?_⟩
    rw [rocksToStatus_code]
    split <;> simp
  corruption operation error := ⟨rfl, by simp⟩
  snapshot := by decide

section Checks

variable {config : Config} {db : Db} {env : CallEnv} {request : PublishAutoSeqRequest}

theorem publishAutoSeqChecks_errors :
    Errors Exit.BeforeSeq (publishAutoSeqChecks config db env request) := by
  have hstorage := storageErrors_beforeSeq
  refine .bind (plain_beforeSeq ?_) ?_
  · cases env.rpcBefore with
    | active => exact .ok _
    | deadlineExceeded => exact .error (by decide)
    | cancelled => exact .error (by decide)
  intro _ _
  refine .bind (plain_beforeSeq (hstorage.createSnapshot db env.faults)) ?_
  intro snapshot _
  refine .bind (plain_beforeSeq ?_) ?_
  · unfold authenticate
    split
    · exact .error (by decide)
    · split
      · exact .error (by decide)
      · refine .bind (hstorage.hasToken snapshot env.faults _ _) ?_
        intro found _
        split
        · exact .ok _
        · exact .error (by decide)
  intro _ _
  refine .bind (plain_beforeSeq ?_) ?_
  · unfold validateAvailableUuid
    split
    · exact .error (by decide)
    · refine .bind (hstorage.getRequiredUint64 snapshot env.faults _) ?_
      intro nextUuid _
      refine .guard (by decide) ?_
      intro _
      refine .bind (hstorage.getUsedUuidSeq snapshot env.faults _) ?_
      intro uuidSeq _
      split
      · exact .error (by decide)
      · exact .ok _
  intro _ _
  refine .bind (plain_beforeSeq ?_) ?_
  · unfold validatePayloadSize
    split
    · exact .ok _
    · exact .error ⟨rfl, by simp⟩
  intro _ _
  refine .bind (plain_beforeSeq ?_) ?_
  · unfold validateObjectKeysShape
    split
    · exact .error (by decide)
    · split
      · exact .error (by decide)
      · exact .ok _
  intro _ _
  refine .bind (plain_beforeSeq (hstorage.getRequiredUint64 snapshot env.faults _)) ?_
  intro maxSeq _
  exact .ok _

theorem publishAutoSeqChecks_ok {found : Db × UInt64}
    (h : publishAutoSeqChecks config db env request = .ok found) :
    found.1 = db ∧ UnifiedStorage.getMaxSeq db env.faults = .ok found.2 := by
  obtain ⟨_, _, h⟩ := bind_ok h
  obtain ⟨snapshot, hsnapshot, h⟩ := bind_ok h
  obtain rfl := createSnapshot_ok hsnapshot
  obtain ⟨_, _, h⟩ := bind_ok h
  obtain ⟨_, _, h⟩ := bind_ok h
  obtain ⟨_, _, h⟩ := bind_ok h
  obtain ⟨_, _, h⟩ := bind_ok h
  obtain ⟨maxSeq, hmaxSeq, h⟩ := bind_ok h
  obtain rfl := Except.ok.inj h
  exact ⟨rfl, plain_ok hmaxSeq⟩

end Checks

/-- `PublishAutoSeq` gets past every check that precedes the choice of the seq. -/
def PassesChecks (config : Config) (state : CoreState) (env : CallEnv)
    (request : PublishAutoSeqRequest) : Prop :=
  ensureAvailable state.fatalError = .ok () ∧
    publishEntry request.principal request.recipients = .ok () ∧
    ∃ found, publishAutoSeqChecks config state.db env request = .ok found

section Guarantee

variable {ext : Externals} {config : Config} {state : CoreState} {env : CallEnv}
variable {tsMs seq : UInt64} {request : PublishAutoSeqRequest}

/-- The sections of the two operations, when the seq is the one chosen. -/
theorem publish_section_eq (ext : Externals) (config : Config) (request : PublishAutoSeqRequest)
    (tsMs : UInt64)
    (hseq : ∀ maxSeq, UnifiedStorage.getMaxSeq state.db env.faults = .ok maxSeq →
      seq = maxSeq + 1) :
    publishBatch ext config state.db env (request.withSeq seq) tsMs =
        (publishAutoSeqBatch ext config state.db env request tsMs).map
          (fun built => (built.1, .empty)) ∧
      ∀ batch data, publishAutoSeqBatch ext config state.db env request tsMs = .ok (batch, data) →
        data = .seq seq := by
  rw [publishBatch_eq, publishAutoSeqBatch_eq]
  cases hchecks : publishAutoSeqChecks config state.db env request with
  | error exit => exact ⟨rfl, nofun⟩
  | ok found =>
      have hchosen := hseq found.2 (publishAutoSeqChecks_ok hchecks).2
      rw [ok_bind, ok_bind, if_neg (not_not.mpr hchosen), ← hchosen]
      unfold publishAs
      cases buildPublishBatch ext found.1 env.faults request.principal request.channelId seq
          request.uuid request.recipients request.payload request.objectKeys tsMs with
      | error exit => exact ⟨rfl, nofun⟩
      | ok batch =>
          rw [ok_bind, ok_bind]
          cases plain (checkRpcActive env.rpcAfter) with
          | error exit => exact ⟨rfl, nofun⟩
          | ok _ =>
              refine ⟨rfl, ?_⟩
              intro built data hbuilt
              exact (Prod.mk.inj (Except.ok.inj hbuilt)).2.symm

/-- The ends of the two sections, which differ in the response only. -/
theorem conclude_map (built : Except Exit (WriteBatch × ResponseData)) :
    conclude state env (built.map (fun built => (built.1, .empty))) =
      ((conclude state env built).1, (conclude state env built).2.1, .empty) := by
  cases built with
  | error exit => rfl
  | ok found =>
      simp only [conclude, Except.map]
      split <;> rfl

theorem publish_chosen_seq (ext : Externals) (config : Config) (request : PublishAutoSeqRequest)
    (tsMs : UInt64)
    (hseq : ∀ maxSeq, UnifiedStorage.getMaxSeq state.db env.faults = .ok maxSeq →
      seq = maxSeq + 1) :
    ∃ next status data,
      Mutation.call ext config state env tsMs (.publishAutoSeq request) =
        some (next, status, data) ∧
      Mutation.call ext config state env tsMs (.publish (request.withSeq seq)) =
        some (next, status, .empty) ∧
      (status.isOk = true → data = .seq seq) := by
  obtain ⟨hsection, hdata⟩ := publish_section_eq ext config request tsMs hseq
  have hentry : Mutation.entry (.publish (request.withSeq seq)) =
      Mutation.entry (.publishAutoSeq request) := rfl
  have hrefuses : Errors Status.Refuses (Mutation.entry (.publishAutoSeq request)) :=
    refuses_checks.mutationEntry (.publishAutoSeq request)
  unfold Mutation.call
  rw [hentry]
  cases havailable : ensureAvailable state.fatalError with
  | error status =>
      have hstatus := refuses_checks.ensureAvailable state.fatalError status havailable
      refine ⟨state, status, .empty, rfl, rfl, ?_⟩
      intro hok
      rw [hstatus] at hok
      cases hok
  | ok _ =>
      cases hchecked : Mutation.entry (.publishAutoSeq request) with
      | error status =>
          have hstatus := hrefuses status hchecked
          refine ⟨state, status, .empty, rfl, rfl, ?_⟩
          intro hok
          rw [hstatus] at hok
          cases hok
      | ok _ =>
          dsimp only [Mutation.batch, Option.map_some]
          rw [hsection, conclude_map]
          refine ⟨_, _, _, rfl, rfl, ?_⟩
          cases hbuilt : publishAutoSeqBatch ext config state.db env request tsMs with
          | error exit =>
              have hstatus := (reported_refuses ext state.db env.faults).publishAutoSeqBatch
                request tsMs exit hbuilt
              intro hok
              have hfalse : exit.status.isOk = false := hstatus
              simp [leave, hfalse] at hok
          | ok found =>
              intro hok
              have hchosen := hdata found.1 found.2 hbuilt
              dsimp only [conclude] at hok ⊢
              rw [if_pos hok, hchosen]

theorem publish_other_seq (ext : Externals) (config : Config) (request : PublishAutoSeqRequest)
    (tsMs : UInt64) {maxSeq : UInt64}
    (hmaxSeq : UnifiedStorage.getMaxSeq state.db env.faults = .ok maxSeq)
    (hother : seq ≠ maxSeq + 1) :
    ∃ status,
      Mutation.call ext config state env tsMs (.publish (request.withSeq seq)) =
        some (state, status, .empty) ∧
      status.isOk = false ∧
      (status.code = .aborted ↔ PassesChecks config state env request) := by
  have hentry : Mutation.entry (.publish (request.withSeq seq)) =
      publishEntry request.principal request.recipients := rfl
  unfold Mutation.call PassesChecks
  rw [hentry]
  cases havailable : ensureAvailable state.fatalError with
  | error status =>
      refine ⟨status, rfl, refuses_checks.ensureAvailable state.fatalError status havailable, ?_⟩
      have hcode : status.code = .unavailable := by
        cases hfatal : state.fatalError with
        | none => simp [ensureAvailable, hfatal] at havailable
        | some raised =>
            rw [hfatal] at havailable
            cases havailable
            rfl
      simp [hcode]
  | ok _ =>
      cases hchecked : publishEntry request.principal request.recipients with
      | error status =>
          unfold publishEntry at hchecked
          split at hchecked
          · cases hchecked
            exact ⟨_, rfl, rfl, by simp⟩
          · cases hchecked
      | ok _ =>
          dsimp only [Mutation.batch, Option.map_some]
          rw [publishBatch_eq]
          cases hchecks : publishAutoSeqChecks config state.db env request with
          | error exit =>
              obtain ⟨hfatal, hstatus, hcode⟩ := publishAutoSeqChecks_errors exit hchecks
              refine ⟨exit.status, ?_, hstatus, ?_⟩
              · simp [conclude, leave, hfatal]
              · simp [hcode]
          | ok found =>
              have hfound := (publishAutoSeqChecks_ok hchecks).2
              obtain rfl : maxSeq = found.2 := Except.ok.inj (hmaxSeq.symm.trans hfound)
              rw [ok_bind, if_pos hother]
              exact ⟨_, rfl, rfl, by simp⟩

/-- On any database, whatever reads, commit and RPC context do: with the seq
after `max_seq`, `Publish` returns what `PublishAutoSeq` returns and leaves the
same state; with any other seq it changes nothing, and it is ABORTED exactly
when `PublishAutoSeq` gets past the checks before the seq is chosen. -/
theorem publishAutoSeq_is_publish (ext : Externals) (config : Config) (state : CoreState)
    (env : CallEnv) (tsMs : UInt64) (request : PublishAutoSeqRequest) :
    (∀ seq, (∀ maxSeq, UnifiedStorage.getMaxSeq state.db env.faults = .ok maxSeq →
        seq = maxSeq + 1) →
      ∃ next status data,
        Mutation.call ext config state env tsMs (.publishAutoSeq request) =
          some (next, status, data) ∧
        Mutation.call ext config state env tsMs (.publish (request.withSeq seq)) =
          some (next, status, .empty) ∧
        (status.isOk = true → data = .seq seq)) ∧
      ∀ seq maxSeq, UnifiedStorage.getMaxSeq state.db env.faults = .ok maxSeq →
        seq ≠ maxSeq + 1 →
        ∃ status,
          Mutation.call ext config state env tsMs (.publish (request.withSeq seq)) =
            some (state, status, .empty) ∧
          status.isOk = false ∧
          (status.code = .aborted ↔ PassesChecks config state env request) :=
  ⟨fun _ hseq => publish_chosen_seq ext config request tsMs hseq,
    fun _ _ hmaxSeq hother => publish_other_seq ext config request tsMs hmaxSeq hother⟩

end Guarantee

end OpenEvent
