import OpenEvent.Core.WriteObject
import OpenEvent.Lib.LabelledRun

/-!
The server as a transition system over the database, the object directory and
the calls in flight. A step is one section under the coordinator mutex, one
system call, the arrival of a request, one piece of startup, or the end of the
process; the order of steps is arbitrary. Database batches are atomic and
durable; the directory follows `DurableDirectory`.
-/

namespace OpenEvent

open OpenEventCore

/-- Where `RecoverPreparingObjects` is during startup. -/
inductive RecoveryPhase where
  | cleaning (phase : ObjectFileStore.CleanupPhase)
  | commit

/-- The core of a running process and the calls past their entry checks. -/
structure Running where
  config : Config
  fatalError : Option Status := none
  commitGeneration : Nat := 0
  mutations : Nat → Option (Mutation × UInt64) := fun _ => none
  writes : Nat → Option WriteObjectCall := fun _ => none

inductive Mode where
  | closed
  | recovering (config : Config) (objects : List StoredObject) (phase : RecoveryPhase)
  | running (core : Running)

structure Server where
  db : Db
  dir : ObjectDirectory
  mode : Mode

/-- The environment's choice of the next step. -/
inductive Action where
  | openStore (config : Config) (faults : ReadFaults)
  | recoveryCall (outcome : SyscallOutcome)
  | recoveryCommit (outcome : CommitOutcome)
  | enterMutation (id : Nat) (mutation : Mutation) (tsMs : UInt64)
  | runMutation (id : Nat) (env : CallEnv)
  | enterWrite (id : Nat) (request : WriteObjectRequest) (random : List GetrandomResult)
  | prepareWrite (id : Nat) (env : CallEnv)
  | fileCall (id : Nat) (outcome : SyscallOutcome)
  | commitWrite (id : Nat) (env : CallEnv)
  | deletePreparing (id : Nat) (env : CallEnv)
  | fatalError (status : Status)
  | exitProcess
  | powerLoss (choice : String → Nat) (contents : Nat → Bytes)

/-- The section of `WriteObject` that a step ran. -/
inductive WriteSection where
  | prepare
  | commit
  | deletePreparing
deriving DecidableEq

/-- What a step did: the batch it applied, if any, and the answer it gave. -/
inductive Event where
  | silent
  | opened (result : Result Unit)
  | mutation (mutation : Mutation) (applied : Bool) (status : Status) (data : ResponseData)
  | write (call : WriteObjectCall) (applied : Option WriteSection)
      (answer : Option (Status × ResponseData))

/-- Whether a request's step applied a batch. -/
def Event.applied : Event → Bool
  | .mutation _ applied _ _ => applied
  | .write _ applied _ => applied.isSome
  | _ => false

/-- Whether the step ended a successful open. -/
def Event.isOpened : Event → Bool
  | .opened (.ok ()) => true
  | _ => false

theorem Event.eq_of_isOpened {event : Event} (h : event.isOpened = true) :
    event = .opened (.ok ()) := by
  unfold Event.isOpened at h
  split at h
  · rfl
  · cases h

namespace Running

def coreState (core : Running) (db : Db) : CoreState :=
  { db, fatalError := core.fatalError, commitGeneration := core.commitGeneration }

/-- The core after a section left the shared state as given. -/
def withState (core : Running) (state : CoreState) : Running :=
  { core with fatalError := state.fatalError, commitGeneration := state.commitGeneration }

def setMutation (core : Running) (id : Nat) (call : Option (Mutation × UInt64)) : Running :=
  { core with mutations := Function.update core.mutations id call }

def setWrite (core : Running) (id : Nat) (call : Option WriteObjectCall) : Running :=
  { core with writes := Function.update core.writes id call }

end Running

namespace Server

/-- The store right after `InitializeNew`, not opened yet. -/
def initial (ext : Externals) (eventMs : UInt64) : Server :=
  { db := UnifiedStorage.initializeNew ext eventMs, dir := DurableDirectory.empty, mode := .closed }

/-- `OpenExisting` up to the first file operation of the recovery. -/
def openStore (ext : Externals) (server : Server) (config : Config) (faults : ReadFaults) :
    Server × Event :=
  match UnifiedStorage.validate ext server.db faults with
  | .error status => (server, .opened (.error status))
  | .ok () =>
      match UnifiedStorage.planRecovery ext server.db faults with
      | .error status => (server, .opened (.error status))
      | .ok objects =>
          match ObjectFileStore.cleanupStart (objects.map (·.objectId)) with
          | .done _ => ({ server with mode := .running { config } }, .opened (.ok ()))
          | .next phase => ({ server with mode := .recovering config objects (.cleaning phase) },
              .silent)

/-- A system call of the recovery's `Cleanup`; an error ends the attempt. -/
def recoveryCall (server : Server) (config : Config) (objects : List StoredObject)
    (phase : ObjectFileStore.CleanupPhase) (outcome : SyscallOutcome) : Option (Server × Event) :=
  match ObjectFileStore.cleanupStep server.dir phase outcome with
  | none => none
  | some (dir, .next phase) =>
      some ({ server with dir, mode := .recovering config objects (.cleaning phase) }, .silent)
  | some (dir, .done status) =>
      if status.isOk then
        some ({ server with dir, mode := .recovering config objects .commit }, .silent)
      else some ({ server with dir, mode := .closed }, .opened (.error status))

def recoveryCommit (server : Server) (config : Config) (objects : List StoredObject)
    (outcome : CommitOutcome) : Server × Event :=
  let (db, status) :=
    UnifiedStorage.commit server.db (UnifiedStorage.recoveryBatch objects) outcome
  if status.isOk then ({ server with db, mode := .running { config } }, .opened (.ok ()))
  else ({ server with db, mode := .closed }, .opened (.error status))

/-- The result of a section: the shared state, written back. -/
def updated (server : Server) (core : Running) (state : CoreState) : Server :=
  { server with db := state.db, mode := .running (core.withState state) }

def enterMutation (server : Server) (core : Running) (id : Nat) (mutation : Mutation)
    (tsMs : UInt64) : Server × Event :=
  match ensureAvailable core.fatalError, mutation.entry with
  | .error status, _ => (server, .mutation mutation false status .empty)
  | .ok _, .error status => (server, .mutation mutation false status .empty)
  | .ok _, .ok _ =>
      ({ server with mode := .running (core.setMutation id (some (mutation, tsMs))) }, .silent)

def runMutation (ext : Externals) (server : Server) (core : Running) (id : Nat)
    (mutation : Mutation) (tsMs : UInt64) (env : CallEnv) : Option (Server × Event) :=
  match mutation.batch ext core.config server.db env tsMs with
  | none => none
  | some built =>
      let (state, status, data) := conclude (core.coreState server.db) env built
      let applied := match built with
        | .ok _ => env.commit.applies
        | .error _ => false
      some (server.updated (core.setMutation id none) state,
        .mutation mutation applied status data)

def enterWrite (server : Server) (core : Running) (id : Nat) (request : WriteObjectRequest)
    (random : List GetrandomResult) : Option (Server × Event) :=
  let rejected (status : Status) : Option (Server × Event) :=
    some (server, .write ⟨request, newObject request "", .prepare⟩ none (some (status, .empty)))
  match ensureAvailable core.fatalError, writeObjectEntry request with
  | .error status, _ => rejected status
  | .ok _, .error status => rejected status
  | .ok _, .ok _ =>
      match generateObjectToken random with
      | none => none
      | some (.error status) => rejected status
      | some (.ok token) =>
          some ({ server with mode := .running (core.setWrite id
            (some ⟨request, newObject request token, .prepare⟩)) }, .silent)

/-- A call goes on in its next phase, or returns and is in flight no more. -/
def advance (server : Server) (core : Running) (id : Nat) (call : WriteObjectCall)
    (applied : Option WriteSection) (state : CoreState) (progress : WriteObjectProgress) :
    Server × Event :=
  match progress with
  | .next phase =>
      (server.updated (core.setWrite id (some { call with phase })) state,
        .write call applied none)
  | .done status data =>
      (server.updated (core.setWrite id none) state, .write call applied (some (status, data)))

def prepareWrite (ext : Externals) (server : Server) (core : Running) (id : Nat)
    (call : WriteObjectCall) (env : CallEnv) : Server × Event :=
  let (state, object, progress) :=
    prepareSection ext (core.coreState server.db) env call.request call.object
  let applied := match prepareBatch ext server.db env call.request call.object with
    | .ok _ => if env.commit.applies then some .prepare else none
    | .error _ => none
  server.advance core id { call with object } applied state progress

/-- A system call of `Write` or of `Cleanup`. -/
def fileCall (server : Server) (core : Running) (id : Nat) (call : WriteObjectCall)
    (outcome : SyscallOutcome) : Option (Server × Event) :=
  match call.phase with
  | .writing phase =>
      match ObjectFileStore.writeStep call.object.objectId call.request.data server.dir phase
        outcome with
      | none => none
      | some (dir, .next phase) =>
          some (({ server with dir } : Server).advance core id call none
            (core.coreState server.db) (.next (.writing phase)))
      | some (dir, .done status) =>
          let (state, progress) :=
            afterFileWrite (core.coreState server.db) call.object.objectId status
          some (({ server with dir } : Server).advance core id call none state progress)
  | .cleaning phase result =>
      match ObjectFileStore.cleanupStep server.dir phase outcome with
      | none => none
      | some (dir, .next phase) =>
          some (({ server with dir } : Server).advance core id call none
            (core.coreState server.db) (.next (.cleaning phase result)))
      | some (dir, .done status) =>
          let (state, progress) := afterCleanup (core.coreState server.db) status result
          some (({ server with dir } : Server).advance core id call none state progress)
  | _ => none

def commitWrite (ext : Externals) (server : Server) (core : Running) (id : Nat)
    (call : WriteObjectCall) (env : CallEnv) : Server × Event :=
  let (state, progress) :=
    commitSection ext (core.coreState server.db) env call.request call.object
  let applied := match commitDecision ext server.db env call.request call.object with
    | .commit _ => if env.commit.applies then some .commit else none
    | _ => none
  server.advance core id call applied state progress

def deletePreparing (server : Server) (core : Running) (id : Nat) (call : WriteObjectCall)
    (result : Status) (env : CallEnv) : Server × Event :=
  let (state, progress) :=
    deletePreparingSection (core.coreState server.db) env call.object.objectId result
  let applied := if env.commit.applies then some .deletePreparing else none
  server.advance core id call applied state progress

/-- One step, if the action is possible in this state. -/
def step (ext : Externals) (server : Server) (action : Action) : Option (Server × Event) :=
  match action, server.mode with
  | .openStore config faults, .closed => some (server.openStore ext config faults)
  | .recoveryCall outcome, .recovering config objects (.cleaning phase) =>
      server.recoveryCall config objects phase outcome
  | .recoveryCommit outcome, .recovering config objects .commit =>
      some (server.recoveryCommit config objects outcome)
  | .enterMutation id mutation tsMs, .running core =>
      match core.mutations id with
      | some _ => none
      | none => some (server.enterMutation core id mutation tsMs)
  | .runMutation id env, .running core =>
      match core.mutations id with
      | none => none
      | some (mutation, tsMs) => server.runMutation ext core id mutation tsMs env
  | .enterWrite id request random, .running core =>
      match core.writes id with
      | some _ => none
      | none => server.enterWrite core id request random
  | .prepareWrite id env, .running core =>
      match core.writes id with
      | some call =>
          if call.phase = .prepare then some (server.prepareWrite ext core id call env) else none
      | none => none
  | .fileCall id outcome, .running core =>
      match core.writes id with
      | some call => server.fileCall core id call outcome
      | none => none
  | .commitWrite id env, .running core =>
      match core.writes id with
      | some call =>
          if call.phase = .commit then some (server.commitWrite ext core id call env) else none
      | none => none
  | .deletePreparing id env, .running core =>
      match core.writes id with
      | some call =>
          match call.phase with
          | .deletePreparing result => some (server.deletePreparing core id call result env)
          | _ => none
      | none => none
  | .fatalError status, .running core =>
      some (server.updated core (fatalStorageError (core.coreState server.db) status), .silent)
  | .exitProcess, _ => some ({ server with mode := .closed }, .silent)
  | .powerLoss choice contents, _ =>
      some ({ server with dir := server.dir.crash choice contents, mode := .closed }, .silent)
  | _, _ => none

/-- The steps that are possible, with the state in which each is. -/
inductive StepKind (ext : Externals) (server : Server) : Action → Server × Event → Prop
  | openStore {config : Config} {faults : ReadFaults} : server.mode = .closed →
      StepKind ext server (.openStore config faults) (server.openStore ext config faults)
  | recoveryCall {config : Config} {objects : List StoredObject}
      {phase : ObjectFileStore.CleanupPhase} {outcome : SyscallOutcome} {result : Server × Event} :
      server.mode = .recovering config objects (.cleaning phase) →
      server.recoveryCall config objects phase outcome = some result →
      StepKind ext server (.recoveryCall outcome) result
  | recoveryCommit {config : Config} {objects : List StoredObject} {outcome : CommitOutcome} :
      server.mode = .recovering config objects .commit →
      StepKind ext server (.recoveryCommit outcome) (server.recoveryCommit config objects outcome)
  | enterMutation {core : Running} {id : Nat} {mutation : Mutation} {tsMs : UInt64} :
      server.mode = .running core → core.mutations id = none →
      StepKind ext server (.enterMutation id mutation tsMs)
        (server.enterMutation core id mutation tsMs)
  | runMutation {core : Running} {id : Nat} {mutation : Mutation} {tsMs : UInt64} {env : CallEnv}
      {result : Server × Event} : server.mode = .running core →
      core.mutations id = some (mutation, tsMs) →
      server.runMutation ext core id mutation tsMs env = some result →
      StepKind ext server (.runMutation id env) result
  | enterWrite {core : Running} {id : Nat} {request : WriteObjectRequest}
      {random : List GetrandomResult} {result : Server × Event} : server.mode = .running core →
      core.writes id = none → server.enterWrite core id request random = some result →
      StepKind ext server (.enterWrite id request random) result
  | prepareWrite {core : Running} {id : Nat} {call : WriteObjectCall} {env : CallEnv} :
      server.mode = .running core → core.writes id = some call → call.phase = .prepare →
      StepKind ext server (.prepareWrite id env) (server.prepareWrite ext core id call env)
  | fileCall {core : Running} {id : Nat} {call : WriteObjectCall} {outcome : SyscallOutcome}
      {result : Server × Event} : server.mode = .running core → core.writes id = some call →
      server.fileCall core id call outcome = some result →
      StepKind ext server (.fileCall id outcome) result
  | commitWrite {core : Running} {id : Nat} {call : WriteObjectCall} {env : CallEnv} :
      server.mode = .running core → core.writes id = some call → call.phase = .commit →
      StepKind ext server (.commitWrite id env) (server.commitWrite ext core id call env)
  | deletePreparing {core : Running} {id : Nat} {call : WriteObjectCall} {env : CallEnv}
      {answer : Status} : server.mode = .running core → core.writes id = some call →
      call.phase = .deletePreparing answer →
      StepKind ext server (.deletePreparing id env) (server.deletePreparing core id call answer env)
  | fatalError {core : Running} {status : Status} : server.mode = .running core →
      StepKind ext server (.fatalError status)
        (server.updated core (fatalStorageError (core.coreState server.db) status), .silent)
  | exitProcess : StepKind ext server .exitProcess ({ server with mode := .closed }, .silent)
  | powerLoss {choice : String → Nat} {contents : Nat → Bytes} :
      StepKind ext server (.powerLoss choice contents)
        ({ server with dir := server.dir.crash choice contents, mode := .closed }, .silent)

theorem step_cases {ext : Externals} {server : Server} {action : Action} {result : Server × Event}
    (h : server.step ext action = some result) : StepKind ext server action result := by
  unfold step at h
  split at h
  · rename_i hmode
    cases h
    exact .openStore hmode
  · rename_i hmode
    exact .recoveryCall hmode h
  · rename_i hmode
    cases h
    exact .recoveryCommit hmode
  · rename_i hmode
    split at h
    · cases h
    · cases h
      exact .enterMutation hmode ‹_›
  · rename_i hmode
    split at h
    · cases h
    · exact .runMutation hmode ‹_› h
  · rename_i hmode
    split at h
    · cases h
    · exact .enterWrite hmode ‹_› h
  · rename_i hmode
    split at h
    · split at h
      · cases h
        exact .prepareWrite hmode ‹_› ‹_›
      · cases h
    · cases h
  · rename_i hmode
    split at h
    · exact .fileCall hmode ‹_› h
    · cases h
  · rename_i hmode
    split at h
    · split at h
      · cases h
        exact .commitWrite hmode ‹_› ‹_›
      · cases h
    · cases h
  · rename_i hmode
    split at h
    · split at h
      · cases h
        exact .deletePreparing hmode ‹_› ‹_›
      · cases h
    · cases h
  · rename_i hmode
    cases h
    exact .fatalError hmode
  · cases h
    exact .exitProcess
  · cases h
    exact .powerLoss
  · cases h

/-- An open that succeeds at once leaves a running core. -/
theorem step_opened {ext : Externals} {server next : Server} {config : Config} {faults : ReadFaults}
    {event : Event} (h : server.step ext (.openStore config faults) = some (next, event))
    (hopened : event.isOpened = true) : next.mode = .running { config } := by
  generalize hresult : (next, event) = result at h
  cases step_cases h with
  | openStore hclosed =>
      unfold openStore at hresult
      split at hresult
      · cases hresult
        cases hopened
      · split at hresult
        · cases hresult
          cases hopened
        · split at hresult
          · cases hresult
            rfl
          · cases hresult
            cases hopened

end Server

/-- A stored counter; absent or malformed counters read as zero. -/
def Db.counter (db : Db) (key : String) : UInt64 :=
  decodeUint64 ((db.metadata.get (Bytes.ofString key)).getD [])

/-- No 64-bit counter wraps between two states: none of them decreases. -/
def NoWrap (before after : Db) : Prop :=
  ∀ key ∈ [kMaxSeqKey, kNextUuidKey, kNextChannelIdKey, kNextObjectIdKey],
    before.counter key ≤ after.counter key

theorem NoWrap.refl (db : Db) : NoWrap db db := fun _ _ => UInt64.le_refl _

instance (before after : Db) : Decidable (NoWrap before after) :=
  inferInstanceAs (Decidable (∀ key ∈ _, _))

/-- The steps of the server in which no counter wraps. -/
def Server.Step (ext : Externals) (server : Server) (label : Action × Event) (next : Server) :
    Prop :=
  server.step ext label.1 = some (next, label.2) ∧ NoWrap server.db next.db

theorem Server.step_exitProcess (ext : Externals) (server : Server) :
    Server.Step ext server (.exitProcess, .silent) { server with mode := .closed } := by
  refine ⟨?_, NoWrap.refl server.db⟩
  unfold Server.step
  split <;> first | rfl | contradiction

/-- The step function, restricted to these steps. -/
def Server.stepNoWrap (ext : Externals) (server : Server) (action : Action) :
    Option (Server × Event) :=
  (server.step ext action).filter (fun result => NoWrap server.db result.1.db)

theorem Server.stepNoWrap_step {ext : Externals} (server : Server) (action : Action)
    (next : Server) (event : Event) (h : server.stepNoWrap ext action = some (next, event)) :
    Server.Step ext server (action, event) next := by
  obtain ⟨hstep, hwrap⟩ := Option.filter_eq_some_iff.mp h
  exact ⟨hstep, of_decide_eq_true hwrap⟩

/-- The states that runs reach from a newly initialized store. -/
def Reachable (ext : Externals) (server : Server) : Prop :=
  ∃ eventMs labels, Run (Server.Step ext) (Server.initial ext eventMs) labels server

end OpenEvent
