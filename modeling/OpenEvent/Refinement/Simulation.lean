import OpenEvent.Refinement.Sections

/-!
The server refines the abstract store: every step leaves the database as it
is, or performs one permitted effect on the store that the database represents.
-/

namespace OpenEvent

open OpenEventCore

/-! ### What a step's event says about its effect -/

/-- The effect of a step that applied a batch. -/
inductive Applies (store : Store) : Event → Effect → Prop
  | mutation {mutation : Mutation} {status : Status} {answered data : ResponseData}
      {effect : Effect} : Performs store mutation effect data →
      Applies store (.mutation mutation true status answered) effect
  | prepare {call : WriteObjectCall} {answer : Option (Status × ResponseData)} :
      store.tokens call.request.principal call.request.token = true →
      Applies store (.write call (some .prepare) answer) (.prepareObject call.object)
  | commit {call : WriteObjectCall} {answer : Option (Status × ResponseData)} :
      store.tokens call.request.principal call.request.token = true →
      Applies store (.write call (some .commit) answer) (.commitObject call.object)
  | deletePreparing {call : WriteObjectCall} {answer : Option (Status × ResponseData)} :
      Applies store (.write call (some .deletePreparing) answer)
        (.discardObjects [call.object.objectId])
  | recovery {result : Result Unit} {objects : List StoredObject} :
      Applies store (.opened result) (.discardObjects (objects.map (·.objectId)))

/-- The database after a step: the same, or changed by one permitted effect. -/
inductive StepEffect (ext : Externals) (store : Store) (event : Event) (before after : Db) : Prop
  | unchanged : event.applied = false → after = before → StepEffect ext store event before after
  | applied {effect : Effect} : Applies store event effect → Permitted store effect →
      Represents ext after (store.apply effect) → StepEffect ext store event before after

/-- Every call in flight has passed its entry checks. -/
structure CallsChecked (core : Running) : Prop where
  mutations : ∀ id mutation tsMs, core.mutations id = some (mutation, tsMs) →
    mutation.entry = .ok ()
  writes : ∀ id call, core.writes id = some call → CallChecked call

def Server.CallsChecked (server : Server) : Prop :=
  ∀ core, server.mode = .running core → OpenEvent.CallsChecked core

/-! ### Sections -/

theorem conclude_db (state : CoreState) (env : CallEnv)
    (built : Except Exit (WriteBatch × ResponseData)) :
    (conclude state env built).1.db =
      match built with
      | .error _ => state.db
      | .ok (batch, _) => if env.commit.applies then state.db.write batch else state.db := by
  cases built with
  | error exit =>
      simp only [conclude, leave]
      split <;> simp
  | ok found => exact commitBatch_db state found.1 env.commit

theorem commit_db (db : Db) (batch : WriteBatch) (outcome : CommitOutcome) :
    (UnifiedStorage.commit db batch outcome).1 =
      if outcome.applies then db.write batch else db := by
  cases outcome <;> rfl

section Steps

variable {ext : Externals} {server next : Server} {core : Running} {store : Store}
variable {event : Event} {env : CallEnv} {id : Nat} {call : WriteObjectCall}

@[simp] theorem Server.updated_db (server : Server) (core : Running) (state : CoreState) :
    (server.updated core state).db = state.db := rfl

theorem Server.advance_event (server : Server) (core : Running) (id : Nat) (call : WriteObjectCall)
    (applied : Option WriteSection) (state : CoreState) (progress : WriteObjectProgress) :
    ∃ answer, (server.advance core id call applied state progress).2 =
      .write call applied answer := by
  cases progress with
  | next phase => exact ⟨none, rfl⟩
  | done status data => exact ⟨some (status, data), rfl⟩

theorem Server.openStore_effect {config : Config} {faults : ReadFaults}
    (h : server.openStore ext config faults = (next, event)) :
    StepEffect ext store event server.db next.db := by
  unfold Server.openStore at h
  split at h
  · obtain ⟨rfl, rfl⟩ := Prod.mk.inj h
    exact .unchanged rfl rfl
  · split at h
    · obtain ⟨rfl, rfl⟩ := Prod.mk.inj h
      exact .unchanged rfl rfl
    · split at h
      · obtain ⟨rfl, rfl⟩ := Prod.mk.inj h
        exact .unchanged rfl rfl
      · obtain ⟨rfl, rfl⟩ := Prod.mk.inj h
        exact .unchanged rfl rfl

theorem Server.recoveryCall_effect {config : Config} {objects : List StoredObject}
    {phase : ObjectFileStore.CleanupPhase} {outcome : SyscallOutcome}
    (h : server.recoveryCall config objects phase outcome = some (next, event)) :
    StepEffect ext store event server.db next.db := by
  unfold Server.recoveryCall at h
  split at h
  · cases h
  · obtain ⟨rfl, rfl⟩ := Prod.mk.inj (Option.some.inj h)
    exact .unchanged rfl rfl
  · split at h
    · obtain ⟨rfl, rfl⟩ := Prod.mk.inj (Option.some.inj h)
      exact .unchanged rfl rfl
    · obtain ⟨rfl, rfl⟩ := Prod.mk.inj (Option.some.inj h)
      exact .unchanged rfl rfl

theorem Server.recoveryCommit_effect (hdb : Represents ext server.db store) {config : Config}
    {objects : List StoredObject} {outcome : CommitOutcome}
    (h : server.recoveryCommit config objects outcome = (next, event)) :
    StepEffect ext store event server.db next.db := by
  have hcommit := commit_db server.db (UnifiedStorage.recoveryBatch objects) outcome
  have hshape : next.db = (UnifiedStorage.commit server.db
      (UnifiedStorage.recoveryBatch objects) outcome).1 ∧ ∃ result, event = .opened result := by
    unfold Server.recoveryCommit at h
    dsimp only at h
    split at h
    · obtain ⟨rfl, rfl⟩ := Prod.mk.inj h
      exact ⟨rfl, _, rfl⟩
    · obtain ⟨rfl, rfl⟩ := Prod.mk.inj h
      exact ⟨rfl, _, rfl⟩
  obtain ⟨hnext, result, rfl⟩ := hshape
  rw [hcommit] at hnext
  split_ifs at hnext
  · rw [hnext]
    exact .applied .recovery .discardObjects (hdb.recoveryBatch objects)
  · exact .unchanged rfl hnext

theorem Server.enterMutation_effect {mutation : Mutation} {tsMs : UInt64}
    (h : server.enterMutation core id mutation tsMs = (next, event)) :
    StepEffect ext store event server.db next.db := by
  unfold Server.enterMutation at h
  split at h
  all_goals
    obtain ⟨rfl, rfl⟩ := Prod.mk.inj h
    exact .unchanged rfl rfl

theorem Server.runMutation_effect (hdb : Represents ext server.db store) (hvalid : store.Valid ext)
    {mutation : Mutation} {tsMs : UInt64} (hentry : mutation.entry = .ok ())
    (h : server.runMutation ext core id mutation tsMs env = some (next, event)) :
    StepEffect ext store event server.db next.db := by
  unfold Server.runMutation at h
  cases hbuilt : mutation.batch ext core.config server.db env tsMs with
  | none => simp [hbuilt] at h
  | some built =>
      simp only [hbuilt] at h
      obtain ⟨rfl, rfl⟩ := Prod.mk.inj (Option.some.inj h)
      have hconclude := conclude_db (core.coreState server.db) env built
      cases built with
      | error exit => exact .unchanged rfl hconclude
      | ok found =>
          obtain ⟨batch, data⟩ := found
          simp only [Server.updated_db] at hconclude ⊢
          by_cases happlies : env.commit.applies = true
          · obtain ⟨effect, hspec⟩ := Mutation.batch_ok hdb hvalid hentry hbuilt
            rw [hconclude, if_pos happlies, happlies]
            exact .applied (.mutation hspec.performs) hspec.permitted hspec.represents
          · rw [hconclude, if_neg happlies]
            exact .unchanged (by simpa [Event.applied] using happlies) rfl

theorem Server.enterWrite_effect {request : WriteObjectRequest} {random : List GetrandomResult}
    (h : server.enterWrite core id request random = some (next, event)) :
    StepEffect ext store event server.db next.db := by
  unfold Server.enterWrite at h
  dsimp only at h
  split at h
  · obtain ⟨rfl, rfl⟩ := Prod.mk.inj (Option.some.inj h)
    exact .unchanged rfl rfl
  · obtain ⟨rfl, rfl⟩ := Prod.mk.inj (Option.some.inj h)
    exact .unchanged rfl rfl
  · split at h
    · cases h
    · obtain ⟨rfl, rfl⟩ := Prod.mk.inj (Option.some.inj h)
      exact .unchanged rfl rfl
    · obtain ⟨rfl, rfl⟩ := Prod.mk.inj (Option.some.inj h)
      exact .unchanged rfl rfl

theorem PrepareOutcome.effect {result : Server × Event}
    (h : PrepareOutcome ext server store core id call result) :
    StepEffect ext store result.2 server.db result.1.db := by
  cases h with
  | refused _ => exact .unchanged rfl rfl
  | notApplied hdb _ => exact .unchanged rfl hdb
  | applied htoken hpermitted hdb _ => exact .applied (.prepare htoken) hpermitted hdb
  | prepared htoken hpermitted hdb => exact .applied (.prepare htoken) hpermitted hdb

theorem FileOutcome.effect {outcome : SyscallOutcome} {result : Server × Event}
    (h : FileOutcome server core id call outcome result) :
    StepEffect ext store result.2 server.db result.1.db := by
  cases h with
  | writeExit _ _ _ _ hdb => exact .unchanged rfl hdb
  | cleanupFailed _ _ _ hdb => exact .unchanged rfl hdb
  | _ => exact .unchanged rfl rfl

theorem CommitOutcomes.effect {result : Server × Event}
    (h : CommitOutcomes ext server store core id call result) :
    StepEffect ext store result.2 server.db result.1.db := by
  cases h with
  | failing _ _ => exact .unchanged rfl rfl
  | exiting hdb _ _ => exact .unchanged rfl hdb
  | applied htoken hpermitted hdb _ => exact .applied (.commit htoken) hpermitted hdb
  | committed htoken hpermitted hdb => exact .applied (.commit htoken) hpermitted hdb

theorem DeleteOutcome.effect {status : Status} {result : Server × Event}
    (h : DeleteOutcome ext server store core id call status result) :
    StepEffect ext store result.2 server.db result.1.db := by
  cases h with
  | notApplied hdb _ => exact .unchanged rfl hdb
  | applied hdb _ => exact .applied .deletePreparing .discardObjects hdb

/-- Every step of the server is a step of the abstract store. -/
theorem Server.step_effect (hdb : Represents ext server.db store) (hvalid : store.Valid ext)
    (hcalls : server.CallsChecked) {action : Action}
    (h : server.step ext action = some (next, event)) :
    StepEffect ext store event server.db next.db := by
  generalize hresult : (next, event) = result at h
  cases Server.step_cases h with
  | openStore _ => exact Server.openStore_effect hresult.symm
  | recoveryCall _ hcall => exact Server.recoveryCall_effect (hresult ▸ hcall)
  | recoveryCommit _ => exact Server.recoveryCommit_effect hdb hresult.symm
  | enterMutation _ _ => exact Server.enterMutation_effect hresult.symm
  | runMutation hmode hcall hrun =>
      exact Server.runMutation_effect hdb hvalid ((hcalls _ hmode).mutations _ _ _ hcall)
        (hresult ▸ hrun)
  | enterWrite _ _ henter => exact Server.enterWrite_effect (hresult ▸ henter)
  | @prepareWrite core id call env hmode hcall _ =>
      have houtcome : PrepareOutcome ext server store core id call (next, event) := by
        rw [hresult]
        exact Server.prepareWrite_outcome hdb ((hcalls _ hmode).writes _ _ hcall)
      exact houtcome.effect
  | fileCall _ _ hfile =>
      subst hresult
      exact (Server.fileCall_outcome hfile).effect
  | @commitWrite core id call env _ _ _ =>
      have houtcome : CommitOutcomes ext server store core id call (next, event) := by
        rw [hresult]
        exact Server.commitWrite_outcome hdb hvalid
      exact houtcome.effect
  | @deletePreparing core id call env answer _ _ _ =>
      have houtcome : DeleteOutcome ext server store core id call answer (next, event) := by
        rw [hresult]
        exact Server.deletePreparing_outcome hdb
      exact houtcome.effect
  | fatalError _ =>
      obtain ⟨rfl, rfl⟩ := Prod.mk.inj hresult
      exact .unchanged rfl (by simp [Running.coreState])
  | exitProcess =>
      obtain ⟨rfl, rfl⟩ := Prod.mk.inj hresult
      exact .unchanged rfl rfl
  | powerLoss =>
      obtain ⟨rfl, rfl⟩ := Prod.mk.inj hresult
      exact .unchanged rfl rfl

/-! ### Steps of object writes -/

/-- The steps of `WriteObject` calls, with their outcomes. -/
inductive WriteStep (ext : Externals) (server : Server) (store : Store) : Server × Event → Prop
  | enter {core : Running} {id : Nat} {request : WriteObjectRequest}
      {random : List GetrandomResult} {result : Server × Event} : server.mode = .running core →
      core.writes id = none → server.enterWrite core id request random = some result →
      WriteStep ext server store result
  | prepare {core : Running} {id : Nat} {call : WriteObjectCall} {result : Server × Event} :
      server.mode = .running core → core.writes id = some call → call.phase = .prepare →
      PrepareOutcome ext server store core id call result → WriteStep ext server store result
  | file {core : Running} {id : Nat} {call : WriteObjectCall} {outcome : SyscallOutcome}
      {result : Server × Event} : server.mode = .running core → core.writes id = some call →
      FileOutcome server core id call outcome result → WriteStep ext server store result
  | commit {core : Running} {id : Nat} {call : WriteObjectCall} {result : Server × Event} :
      server.mode = .running core → core.writes id = some call → call.phase = .commit →
      CommitOutcomes ext server store core id call result → WriteStep ext server store result
  | delete {core : Running} {id : Nat} {call : WriteObjectCall} {answer : Status}
      {result : Server × Event} : server.mode = .running core → core.writes id = some call →
      call.phase = .deletePreparing answer →
      DeleteOutcome ext server store core id call answer result → WriteStep ext server store result

def Event.isWrite : Event → Bool
  | .write _ _ _ => true
  | _ => false

theorem Server.openStore_event (config : Config) (faults : ReadFaults) :
    (server.openStore ext config faults).2.isWrite = false := by
  unfold Server.openStore
  split
  · rfl
  · split
    · rfl
    · split <;> rfl

theorem Server.recoveryCall_event {config : Config} {objects : List StoredObject}
    {phase : ObjectFileStore.CleanupPhase} {outcome : SyscallOutcome} {result : Server × Event}
    (h : server.recoveryCall config objects phase outcome = some result) :
    result.2.isWrite = false := by
  unfold Server.recoveryCall at h
  split at h
  · cases h
  · cases h
    rfl
  · split at h <;> (cases h; rfl)

theorem Server.recoveryCommit_event (config : Config) (objects : List StoredObject)
    (outcome : CommitOutcome) :
    (server.recoveryCommit config objects outcome).2.isWrite = false := by
  unfold Server.recoveryCommit
  dsimp only
  split <;> rfl

theorem Server.enterMutation_event (mutation : Mutation) (tsMs : UInt64) :
    (server.enterMutation core id mutation tsMs).2.isWrite = false := by
  unfold Server.enterMutation
  split <;> rfl

theorem Server.runMutation_event {mutation : Mutation} {tsMs : UInt64} {result : Server × Event}
    (h : server.runMutation ext core id mutation tsMs env = some result) :
    result.2.isWrite = false := by
  unfold Server.runMutation at h
  split at h
  · cases h
  · cases h
    rfl

theorem Server.step_write (hdb : Represents ext server.db store) (hvalid : store.Valid ext)
    (hcalls : server.CallsChecked) {action : Action} {result : Server × Event}
    (h : server.step ext action = some result) (hevent : result.2.isWrite = true) :
    WriteStep ext server store result := by
  have hother (hfalse : result.2.isWrite = false) : WriteStep ext server store result := by
    rw [hevent] at hfalse
    cases hfalse
  cases Server.step_cases h with
  | openStore _ => exact hother (Server.openStore_event _ _)
  | recoveryCall _ hcall => exact hother (Server.recoveryCall_event hcall)
  | recoveryCommit _ => exact hother (Server.recoveryCommit_event _ _ _)
  | enterMutation _ _ => exact hother (Server.enterMutation_event _ _)
  | runMutation _ _ hrun => exact hother (Server.runMutation_event hrun)
  | enterWrite hmode hfree henter => exact .enter hmode hfree henter
  | prepareWrite hmode hcall hphase =>
      exact .prepare hmode hcall hphase
        (Server.prepareWrite_outcome hdb ((hcalls _ hmode).writes _ _ hcall))
  | fileCall hmode hcall hfile => exact .file hmode hcall (Server.fileCall_outcome hfile)
  | commitWrite hmode hcall hphase =>
      exact .commit hmode hcall hphase (Server.commitWrite_outcome hdb hvalid)
  | deletePreparing hmode hcall hphase =>
      exact .delete hmode hcall hphase (Server.deletePreparing_outcome hdb)
  | fatalError _ => exact hother rfl
  | exitProcess => exact hother rfl
  | powerLoss => exact hother rfl

/-- The steps that answer a mutation: its entry refuses it, or its section ends. -/
inductive MutationStep (ext : Externals) (server next : Server) (operation : Mutation)
    (applied : Bool) (status : Status) (data : ResponseData) : Action → Prop
  | refused {core : Running} {id : Nat} {tsMs : UInt64} : server.mode = .running core →
      (ensureAvailable core.fatalError = .error status ∨ operation.entry = .error status) →
      applied = false → data = .empty → next = server →
      MutationStep ext server next operation applied status data (.enterMutation id operation tsMs)
  | ran {core : Running} {id : Nat} {tsMs : UInt64} {env : CallEnv} :
      server.mode = .running core → core.mutations id = some (operation, tsMs) →
      server.runMutation ext core id operation tsMs env =
        some (next, .mutation operation applied status data) →
      MutationStep ext server next operation applied status data (.runMutation id env)

theorem Server.step_mutation {action : Action} {operation : Mutation} {applied : Bool}
    {status : Status} {data : ResponseData}
    (h : server.step ext action = some (next, .mutation operation applied status data)) :
    MutationStep ext server next operation applied status data action := by
  have hadvance {server : Server} {core : Running} {id : Nat} {call : WriteObjectCall}
      {written : Option WriteSection} {state : CoreState} {progress : WriteObjectProgress}
      (hresult : (next, Event.mutation operation applied status data) =
        server.advance core id call written state progress) : False := by
    obtain ⟨answer, hevent⟩ := server.advance_event core id call written state progress
    rw [← hresult] at hevent
    cases hevent
  generalize hresult : (next, Event.mutation operation applied status data) = result at h
  cases Server.step_cases h with
  | @runMutation core id called tsMs env _ hmode hcall hrun =>
      subst hresult
      obtain rfl : called = operation := by
        unfold Server.runMutation at hrun
        split at hrun
        · cases hrun
        · exact (Event.mutation.inj (Prod.mk.inj (Option.some.inj hrun)).2).1
      exact .ran hmode hcall hrun
  | openStore _ =>
      unfold Server.openStore at hresult
      split at hresult
      · cases hresult
      · split at hresult
        · cases hresult
        · split at hresult <;> cases hresult
  | recoveryCall _ hcall =>
      subst hresult
      unfold Server.recoveryCall at hcall
      split at hcall
      · cases hcall
      · cases hcall
      · split at hcall <;> cases hcall
  | recoveryCommit _ =>
      unfold Server.recoveryCommit at hresult
      dsimp only at hresult
      split at hresult <;> cases hresult
  | enterMutation hmode _ =>
      unfold Server.enterMutation at hresult
      split at hresult
      · rename_i hunavailable
        cases hresult
        exact .refused hmode (Or.inl hunavailable) rfl rfl rfl
      · rename_i hentry
        cases hresult
        exact .refused hmode (Or.inr hentry) rfl rfl rfl
      · cases hresult
  | enterWrite _ _ henter =>
      subst hresult
      unfold Server.enterWrite at henter
      dsimp only at henter
      split at henter
      · cases henter
      · cases henter
      · split at henter <;> cases henter
  | prepareWrite _ _ _ => exact (hadvance hresult).elim
  | fileCall _ _ hfile =>
      subst hresult
      unfold Server.fileCall at hfile
      split at hfile
      · split at hfile
        · cases hfile
        · exact (hadvance (Option.some.inj hfile).symm).elim
        · exact (hadvance (Option.some.inj hfile).symm).elim
      · split at hfile
        · cases hfile
        · exact (hadvance (Option.some.inj hfile).symm).elim
        · exact (hadvance (Option.some.inj hfile).symm).elim
      · cases hfile
  | commitWrite _ _ _ => exact (hadvance hresult).elim
  | deletePreparing _ _ _ =>
      unfold Server.deletePreparing deletePreparingSection at hresult
      exact (hadvance hresult).elim
  | fatalError _ => cases hresult
  | exitProcess => cases hresult
  | powerLoss => cases hresult

/-- Only the section of a mutation applies the batch of a mutation. -/
theorem Server.step_mutation_applied {action : Action} {mutation : Mutation} {status : Status}
    {data : ResponseData}
    (h : server.step ext action = some (next, .mutation mutation true status data)) :
    ∃ core id tsMs env, action = .runMutation id env ∧ server.mode = .running core ∧
      server.runMutation ext core id mutation tsMs env =
        some (next, .mutation mutation true status data) := by
  cases Server.step_mutation h with
  | refused _ _ happlied => cases happlied
  | ran hmode _ hrun => exact ⟨_, _, _, _, rfl, hmode, hrun⟩

/-- How the section of a mutation ends. -/
inductive SectionEnds (server next : Server) (core : Running) (env : CallEnv) (applied : Bool)
    (status : Status) (data : ResponseData) : Except Exit (WriteBatch × ResponseData) → Prop
  | left {exit : Exit} : applied = false → status = exit.status → data = .empty →
      next.db = server.db → SectionEnds server next core env applied status data (.error exit)
  | committed {batch : WriteBatch} {answer : ResponseData} : applied = env.commit.applies →
      status = (commitBatch (core.coreState server.db) batch env.commit).2 →
      (data = if status.isOk then answer else .empty) →
      (next.db = if applied then server.db.write batch else server.db) →
      SectionEnds server next core env applied status data (.ok (batch, answer))

theorem Server.runMutation_ends {core : Running} {id : Nat} {operation : Mutation}
    {tsMs : UInt64} {env : CallEnv} {applied : Bool} {status : Status} {data : ResponseData}
    (h : server.runMutation ext core id operation tsMs env =
      some (next, .mutation operation applied status data)) :
    ∃ built, operation.batch ext core.config server.db env tsMs = some built ∧
      SectionEnds server next core env applied status data built := by
  unfold Server.runMutation at h
  split at h
  · cases h
  · rename_i built hbuilt
    obtain ⟨rfl, hevent⟩ := Prod.mk.inj (Option.some.inj h)
    refine ⟨built, hbuilt, ?_⟩
    have hdb := conclude_db (core.coreState server.db) env built
    cases built with
    | error exit =>
        obtain ⟨_, rfl, rfl, rfl⟩ := Event.mutation.inj hevent
        exact .left rfl rfl rfl hdb
    | ok found =>
        obtain ⟨_, rfl, rfl, rfl⟩ := Event.mutation.inj hevent
        exact .committed rfl rfl rfl hdb

end Steps

/-! ### Calls in flight -/

section Calls

variable {ext : Externals} {server next : Server} {core : Running} {event : Event} {id : Nat}
variable {call : WriteObjectCall}

theorem CallsChecked.empty (config : Config) : CallsChecked { config } := by
  constructor <;> simp

theorem CallsChecked.setMutation (h : CallsChecked core) {entered : Option (Mutation × UInt64)}
    (hentered : ∀ mutation tsMs, entered = some (mutation, tsMs) → mutation.entry = .ok ()) :
    CallsChecked (core.setMutation id entered) where
  mutations other mutation tsMs hcall := by
    by_cases hid : other = id
    · subst hid
      exact hentered mutation tsMs (by simpa [Running.setMutation] using hcall)
    · exact h.mutations other mutation tsMs (by simpa [Running.setMutation, hid] using hcall)
  writes := h.writes

theorem CallsChecked.setWrite (h : CallsChecked core) {entered : Option WriteObjectCall}
    (hentered : ∀ call, entered = some call → CallChecked call) :
    CallsChecked (core.setWrite id entered) where
  mutations := h.mutations
  writes other found hcall := by
    by_cases hid : other = id
    · subst hid
      exact hentered found (by simpa [Running.setWrite] using hcall)
    · exact h.writes other found (by simpa [Running.setWrite, hid] using hcall)

theorem CallsChecked.withState (h : CallsChecked core) (state : CoreState) :
    CallsChecked (core.withState state) :=
  ⟨h.mutations, h.writes⟩

theorem Server.callsChecked_running (h : OpenEvent.CallsChecked core)
    (hmode : server.mode = .running core) : server.CallsChecked := by
  intro other hother
  rw [hmode] at hother
  obtain rfl := Mode.running.inj hother
  exact h

theorem Server.advance_callsChecked (h : OpenEvent.CallsChecked core) (hcall : CallChecked call)
    {applied : Option WriteSection} {state : CoreState} {progress : WriteObjectProgress}
    (hadvance : server.advance core id call applied state progress = (next, event)) :
    next.CallsChecked := by
  cases progress with
  | next phase =>
      obtain ⟨rfl, rfl⟩ := Prod.mk.inj hadvance
      refine Server.callsChecked_running ((h.setWrite ?_).withState state) rfl
      intro found hfound
      obtain rfl := Option.some.inj hfound
      exact ⟨hcall.entry, hcall.token, hcall.object⟩
  | done status data =>
      obtain ⟨rfl, rfl⟩ := Prod.mk.inj hadvance
      refine Server.callsChecked_running ((h.setWrite ?_).withState state) rfl
      rintro _ ⟨⟩

private theorem callsChecked_of_not_running (h : ∀ core, server.mode ≠ .running core) :
    server.CallsChecked :=
  fun core hmode => absurd hmode (h core)

private theorem Server.openStore_callsChecked {config : Config} {faults : ReadFaults}
    (hcalls : server.CallsChecked) (h : server.openStore ext config faults = (next, event)) :
    next.CallsChecked := by
  unfold Server.openStore at h
  split at h
  · obtain ⟨rfl, rfl⟩ := Prod.mk.inj h
    exact hcalls
  · split at h
    · obtain ⟨rfl, rfl⟩ := Prod.mk.inj h
      exact hcalls
    · split at h
      · obtain ⟨rfl, rfl⟩ := Prod.mk.inj h
        exact Server.callsChecked_running (CallsChecked.empty config) rfl
      · obtain ⟨rfl, rfl⟩ := Prod.mk.inj h
        exact callsChecked_of_not_running (by simp)

private theorem Server.recovery_callsChecked {config : Config} {objects : List StoredObject}
    {outcome : CommitOutcome} (h : server.recoveryCommit config objects outcome = (next, event)) :
    next.CallsChecked := by
  unfold Server.recoveryCommit at h
  dsimp only at h
  split at h
  · obtain ⟨rfl, rfl⟩ := Prod.mk.inj h
    exact Server.callsChecked_running (CallsChecked.empty config) rfl
  · obtain ⟨rfl, rfl⟩ := Prod.mk.inj h
    exact callsChecked_of_not_running (by simp)

private theorem Server.recoveryCall_callsChecked {config : Config} {objects : List StoredObject}
    {phase : ObjectFileStore.CleanupPhase} {outcome : SyscallOutcome}
    (h : server.recoveryCall config objects phase outcome = some (next, event)) :
    next.CallsChecked := by
  unfold Server.recoveryCall at h
  split at h
  · cases h
  · obtain ⟨rfl, rfl⟩ := Prod.mk.inj (Option.some.inj h)
    exact callsChecked_of_not_running (by simp)
  · split at h
    · obtain ⟨rfl, rfl⟩ := Prod.mk.inj (Option.some.inj h)
      exact callsChecked_of_not_running (by simp)
    · obtain ⟨rfl, rfl⟩ := Prod.mk.inj (Option.some.inj h)
      exact callsChecked_of_not_running (by simp)

private theorem Server.enterMutation_callsChecked (hcore : OpenEvent.CallsChecked core)
    (hcalls : server.CallsChecked) {mutation : Mutation} {tsMs : UInt64}
    (h : server.enterMutation core id mutation tsMs = (next, event)) : next.CallsChecked := by
  unfold Server.enterMutation at h
  split at h
  · obtain ⟨rfl, rfl⟩ := Prod.mk.inj h
    exact hcalls
  · obtain ⟨rfl, rfl⟩ := Prod.mk.inj h
    exact hcalls
  · rename_i hentry
    obtain ⟨rfl, rfl⟩ := Prod.mk.inj h
    refine Server.callsChecked_running (hcore.setMutation ?_) rfl
    rintro found foundTs hfound
    obtain ⟨rfl, rfl⟩ : mutation = found ∧ tsMs = foundTs := by simpa using hfound
    exact hentry

private theorem Server.enterWrite_callsChecked (hcore : OpenEvent.CallsChecked core)
    (hcalls : server.CallsChecked) {request : WriteObjectRequest} {random : List GetrandomResult}
    (h : server.enterWrite core id request random = some (next, event)) : next.CallsChecked := by
  unfold Server.enterWrite at h
  dsimp only at h
  split at h
  · obtain ⟨rfl, rfl⟩ := Prod.mk.inj (Option.some.inj h)
    exact hcalls
  · obtain ⟨rfl, rfl⟩ := Prod.mk.inj (Option.some.inj h)
    exact hcalls
  · rename_i hentry
    split at h
    · cases h
    · obtain ⟨rfl, rfl⟩ := Prod.mk.inj (Option.some.inj h)
      exact hcalls
    · rename_i token htoken
      obtain ⟨rfl, rfl⟩ := Prod.mk.inj (Option.some.inj h)
      refine Server.callsChecked_running (hcore.setWrite ?_) rfl
      rintro _ ⟨⟩
      exact ⟨hentry, generateObjectToken_shape htoken, rfl⟩

/-- The object that the first section leaves: the same, or with an id assigned. -/
theorem prepareSection_object (ext : Externals) (state : CoreState) (env : CallEnv)
    (request : WriteObjectRequest) (object : StoredObject) :
    ∃ objectId, (prepareSection ext state env request object).2.1 = { object with objectId } := by
  unfold prepareSection
  cases hbatch : prepareBatch ext state.db env request object with
  | error status => exact ⟨object.objectId, rfl⟩
  | ok found =>
      obtain ⟨batch, assigned⟩ := found
      obtain ⟨objectId, rfl⟩ : ∃ objectId, assigned = { object with objectId } := by
        unfold prepareBatch at hbatch
        obtain ⟨_, _, hbatch⟩ := Fallible.bind_ok hbatch
        obtain ⟨_, _, hbatch⟩ := Fallible.bind_ok hbatch
        obtain ⟨nextObjectId, _, hbatch⟩ := Fallible.bind_ok hbatch
        obtain ⟨_, _, hbatch⟩ := Fallible.bind_ok hbatch
        obtain ⟨_, _, hbatch⟩ := Fallible.bind_ok hbatch
        exact ⟨nextObjectId, (Prod.mk.inj (Except.ok.inj hbatch)).2.symm⟩
      refine ⟨objectId, ?_⟩
      dsimp only
      split_ifs <;> rfl

private theorem Server.runMutation_callsChecked (hcore : OpenEvent.CallsChecked core)
    {mutation : Mutation} {tsMs : UInt64} {env : CallEnv}
    (h : server.runMutation ext core id mutation tsMs env = some (next, event)) :
    next.CallsChecked := by
  unfold Server.runMutation at h
  split at h
  · cases h
  · obtain ⟨rfl, rfl⟩ := Prod.mk.inj (Option.some.inj h)
    refine Server.callsChecked_running ((hcore.setMutation ?_).withState _) rfl
    rintro _ _ ⟨⟩

private theorem Server.prepareWrite_callsChecked (hcore : OpenEvent.CallsChecked core)
    (hcall : CallChecked call) {env : CallEnv}
    (h : server.prepareWrite ext core id call env = (next, event)) : next.CallsChecked := by
  obtain ⟨objectId, hobject⟩ := prepareSection_object ext (core.coreState server.db) env
    call.request call.object
  unfold Server.prepareWrite at h
  dsimp only at h
  rw [hobject] at h
  have hassigned : CallChecked { call with object := { call.object with objectId } } :=
    ⟨hcall.entry, hcall.token, congrArg (fun object : StoredObject =>
      { object with objectId }) hcall.object⟩
  exact Server.advance_callsChecked hcore hassigned h

private theorem Server.fileCall_callsChecked (hcore : OpenEvent.CallsChecked core)
    (hcall : CallChecked call) {outcome : SyscallOutcome}
    (h : server.fileCall core id call outcome = some (next, event)) : next.CallsChecked := by
  unfold Server.fileCall at h
  split at h
  · split at h
    · cases h
    · exact Server.advance_callsChecked hcore hcall (Option.some.inj h)
    · exact Server.advance_callsChecked hcore hcall (Option.some.inj h)
  · split at h
    · cases h
    · exact Server.advance_callsChecked hcore hcall (Option.some.inj h)
    · exact Server.advance_callsChecked hcore hcall (Option.some.inj h)
  · cases h

/-- Calls in flight stay as their entry checks left them. -/
theorem Server.step_callsChecked (hcalls : server.CallsChecked) {action : Action}
    (h : server.step ext action = some (next, event)) : next.CallsChecked := by
  generalize hresult : (next, event) = result at h
  cases Server.step_cases h with
  | openStore _ => exact Server.openStore_callsChecked hcalls hresult.symm
  | recoveryCall _ hcall => exact Server.recoveryCall_callsChecked (hresult ▸ hcall)
  | recoveryCommit _ => exact Server.recovery_callsChecked hresult.symm
  | enterMutation hmode _ =>
      exact Server.enterMutation_callsChecked (hcalls _ hmode) hcalls hresult.symm
  | runMutation hmode _ hrun =>
      exact Server.runMutation_callsChecked (hcalls _ hmode) (hresult ▸ hrun)
  | enterWrite hmode _ henter =>
      exact Server.enterWrite_callsChecked (hcalls _ hmode) hcalls (hresult ▸ henter)
  | prepareWrite hmode hcall _ =>
      exact Server.prepareWrite_callsChecked (hcalls _ hmode) ((hcalls _ hmode).writes _ _ hcall)
        hresult.symm
  | fileCall hmode hcall hfile =>
      exact Server.fileCall_callsChecked (hcalls _ hmode) ((hcalls _ hmode).writes _ _ hcall)
        (hresult ▸ hfile)
  | commitWrite hmode hcall _ =>
      exact Server.advance_callsChecked (hcalls _ hmode) ((hcalls _ hmode).writes _ _ hcall)
        hresult.symm
  | deletePreparing hmode hcall _ =>
      unfold Server.deletePreparing deletePreparingSection at hresult
      exact Server.advance_callsChecked (hcalls _ hmode) ((hcalls _ hmode).writes _ _ hcall)
        hresult.symm
  | fatalError hmode =>
      obtain ⟨rfl, rfl⟩ := Prod.mk.inj hresult
      exact Server.callsChecked_running ((hcalls _ hmode).withState _) rfl
  | exitProcess =>
      obtain ⟨rfl, rfl⟩ := Prod.mk.inj hresult
      exact callsChecked_of_not_running (by simp)
  | powerLoss =>
      obtain ⟨rfl, rfl⟩ := Prod.mk.inj hresult
      exact callsChecked_of_not_running (by simp)

end Calls

end OpenEvent
