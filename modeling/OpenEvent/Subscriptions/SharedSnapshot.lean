import OpenEvent.Server

/-!
The snapshot that subscriptions share, over the lifetime of one process. The
refresh thread replaces it after commits; callers of
`AcquireSubscriptionSnapshot` wait until it covers the commits they have to
see. A step is one section under a mutex or one access to an atomic variable;
the counters of one process lifetime do not overflow and are natural numbers.
-/

namespace OpenEvent

open OpenEventCore

/-- A database snapshot. `moment` is how many batches of the process it
contains; the code does not store it. -/
structure ReadSnapshot where
  db : Db
  moment : Nat

/-- What `AcquireSubscriptionSnapshot` returns. -/
structure SubscriptionSnapshot where
  snapshot : ReadSnapshot
  version : Nat

/-- The fields of `OpenEventCore` that subscriptions share. `fatalError` is the
fatal flag as other threads see it. -/
structure SharedSnapshot where
  stop : Bool := false
  fatalError : Option Status := none
  commitGeneration : Nat := 0
  snapshot : Option ReadSnapshot := none
  version : Nat := 0
  generation : Nat := 0
  attemptGeneration : Nat := 0
  status : Status := .ok

/-! ### AcquireSubscriptionSnapshot -/

/-- Where a call of `AcquireSubscriptionSnapshot` is. -/
inductive AcquirePhase where
  | called
  | available
  | waiting (requiredGeneration : Nat)

inductive AcquireProgress where
  | next (phase : AcquirePhase)
  | done (result : Result SubscriptionSnapshot)

namespace SharedSnapshot

/-- The last refresh failed, and it was for the required generation. -/
def failed (shared : SharedSnapshot) (requiredGeneration : Nat) : Bool :=
  !shared.status.isOk && decide (shared.attemptGeneration ≥ requiredGeneration)

/-- The two reasons to end the wait that concern the required generation. -/
def settles (shared : SharedSnapshot) (requiredGeneration : Nat) : Bool :=
  decide (shared.generation ≥ requiredGeneration) || shared.failed requiredGeneration

/-- The predicate of the wait in `AcquireSubscriptionSnapshot`. -/
def wakes (shared : SharedSnapshot) (requiredGeneration : Nat) : Bool :=
  shared.stop || shared.fatalError.isSome || shared.settles requiredGeneration

/-- The return of `AcquireSubscriptionSnapshot` after its wait. -/
def acquired (shared : SharedSnapshot) (requiredGeneration : Nat) : Result SubscriptionSnapshot :=
  if shared.failed requiredGeneration then .error shared.status
  else
    match shared.snapshot with
    | some snapshot => .ok { snapshot, version := shared.version }
    | none =>
        if shared.fatalError.isSome then
          .error { code := .unavailable,
                   message := "subscription snapshot is unavailable after fatal storage error" }
        else .error { code := .unavailable, message := "subscription snapshot is unavailable" }

/-- One step of `AcquireSubscriptionSnapshot`; there is none while it waits. -/
def acquireStep (shared : SharedSnapshot) : AcquirePhase → Option AcquireProgress
  | .called =>
      match ensureAvailable shared.fatalError with
      | .error status => some (.done (.error status))
      | .ok () => some (.next .available)
  | .available => some (.next (.waiting shared.commitGeneration))
  | .waiting requiredGeneration =>
      if shared.wakes requiredGeneration then some (.done (shared.acquired requiredGeneration))
      else none

/-- What `WaitForSubscriptionSnapshot` returns. -/
def waitForSubscriptionSnapshot (shared : SharedSnapshot) (observedVersion : Nat) : Bool :=
  shared.fatalError.isSome || decide (shared.version ≠ observedVersion) ||
    (!shared.status.isOk && decide (shared.attemptGeneration > shared.generation))

end SharedSnapshot

/-! ### RefreshSubscriptionSnapshots -/

/-- Where the refresh thread is. -/
inductive RefreshPhase where
  | waiting
  | loaded (generation : Nat)
  | created (generation : Nat) (snapshot : Result ReadSnapshot)
  | failing (status : Status)
  | ended

namespace SharedSnapshot

/-- The end of a timed wait of the refresh thread. -/
def refreshWake (shared : SharedSnapshot) : RefreshPhase :=
  if shared.stop || shared.fatalError.isSome then .ended
  else if shared.snapshot.isSome && shared.commitGeneration = shared.generation then .waiting
  else .loaded shared.commitGeneration

/-- The section that stores the outcome of a refresh. -/
def refreshed (shared : SharedSnapshot) (generation : Nat) (snapshot : Result ReadSnapshot) :
    SharedSnapshot :=
  match snapshot with
  | .ok snapshot =>
      { shared with attemptGeneration := generation, snapshot := some snapshot, generation,
                    version := shared.version + 1, status := .ok }
  | .error status => { shared with attemptGeneration := generation, status }

/-- Where the refresh thread goes on after that section. -/
def afterRefresh (snapshot : Result ReadSnapshot) : RefreshPhase :=
  match snapshot with
  | .ok _ => .waiting
  | .error status => if status.requiresServerExit then .failing status else .waiting

end SharedSnapshot

/-! ### One process -/

/-- Whether a step of the server is a section under the coordinator mutex. -/
def Action.locksCoordinator : Action → Bool
  | .runMutation _ _ => true
  | .prepareWrite _ _ => true
  | .commitWrite _ _ => true
  | .deletePreparing _ _ => true
  | _ => false

/-- A process: the server, the shared snapshot and the threads that use it. A
section of the server changes the database first; other threads see the new
generation, or the fatal flag, at a later step of their own.

The last fields are not in the code: the database at the start, each batch that
was applied since with the database after it, for each generation the number of
batches applied when it was reached, and the number applied by the calls that
have returned. -/
structure Process where
  server : Server
  shared : SharedSnapshot
  refresher : RefreshPhase
  locked : Bool := false
  acquires : Nat → Option (AcquirePhase × Nat) := fun _ => none
  base : Db
  batches : List (Event × Db) := []
  moments : Nat → Nat := fun _ => 0
  returned : Nat := 0

inductive ProcessLabel where
  | silent
  | served (action : Action) (event : Event)
  | acquired (id begun : Nat) (result : Result SubscriptionSnapshot)

namespace Process

/-- The database after the first `moment` batches. -/
def dbAt (process : Process) (moment : Nat) : Option Db :=
  (process.base :: process.batches.map Prod.snd)[moment]?

/-- The constructor of `OpenEventCore`, for a server that has just opened. -/
def start (server : Server) (config : Config) (faults : ReadFaults) : Process :=
  match UnifiedStorage.createSnapshot server.db faults with
  | .ok db =>
      { server, base := server.db, refresher := .waiting,
        shared := { snapshot := some { db, moment := 0 }, version := 1 } }
  | .error status =>
      if status.requiresServerExit then
        { server := { server with mode := .running { config, fatalError := some status } },
          base := server.db, refresher := .ended, shared := { fatalError := some status, status } }
      else { server, base := server.db, refresher := .waiting, shared := { status } }

/-- The process after a step of its server; `generation` is the one before. -/
def serve (process : Process) (generation : Nat) (action : Action) (event : Event)
    (server : Server) : Process :=
  let batches :=
    if event.applied then process.batches ++ [(event, server.db)] else process.batches
  { process with
    server, batches
    locked := process.locked || action.locksCoordinator
    moments := fun reached =>
      if reached ≤ generation then process.moments reached else batches.length }

def setAcquire (process : Process) (id : Nat) (call : Option (AcquirePhase × Nat)) : Process :=
  { process with acquires := Function.update process.acquires id call }

/-- The snapshot that the refresh thread takes now. -/
def createSnapshot (process : Process) (faults : ReadFaults) : Result ReadSnapshot :=
  (UnifiedStorage.createSnapshot process.server.db faults).map
    (fun db => { db, moment := process.batches.length })

/-- The steps of a process until it ends. -/
inductive Step (ext : Externals) (process : Process) : ProcessLabel → Process → Prop
  /-- A step of the server. A section waits for the coordinator mutex. -/
  | serve {action : Action} {event : Event} {server : Server} {core core' : Running} :
      process.server.mode = .running core →
      Server.Step ext process.server (action, event) server → server.mode = .running core' →
      (action.locksCoordinator = true → process.locked = false) →
      Step ext process (.served action event)
        (process.serve core.commitGeneration action event server)
  /-- `CommitBatch` adds one to the generation and returns OK. -/
  | commitReturns {core : Running} : process.server.mode = .running core →
      process.shared.commitGeneration ≠ core.commitGeneration →
      Step ext process .silent
        { process with
          shared := { process.shared with commitGeneration := core.commitGeneration }
          returned := process.batches.length }
  /-- `FatalStorageError` sets the flag. -/
  | latch {core : Running} {status : Status} : process.server.mode = .running core →
      core.fatalError = some status →
      Step ext process .silent
        { process with shared := { process.shared with fatalError := some status } }
  /-- A section gives the coordinator mutex back and its call returns. -/
  | unlock {core : Running} : process.server.mode = .running core → process.locked = true →
      process.shared.commitGeneration = core.commitGeneration →
      (core.fatalError.isSome → process.shared.fatalError.isSome) →
      Step ext process .silent { process with locked := false, returned := process.batches.length }
  | refreshWake : process.refresher = .waiting →
      Step ext process .silent { process with refresher := process.shared.refreshWake }
  | refreshCreate {generation : Nat} {faults : ReadFaults} :
      process.refresher = .loaded generation →
      Step ext process .silent
        { process with refresher := .created generation (process.createSnapshot faults) }
  /-- The thread ends instead of storing its snapshot once the flag is set. -/
  | refreshBreak {generation : Nat} {snapshot : Result ReadSnapshot} :
      process.refresher = .created generation snapshot → process.shared.fatalError.isSome →
      Step ext process .silent { process with refresher := .ended }
  | refreshStore {generation : Nat} {snapshot : Result ReadSnapshot} :
      process.refresher = .created generation snapshot → process.shared.fatalError = none →
      Step ext process .silent
        { process with
          shared := process.shared.refreshed generation snapshot
          refresher := SharedSnapshot.afterRefresh snapshot }
  /-- `FatalStorageError` in the refresh thread. -/
  | refreshFail {status : Status} {event : Event} {server : Server} {core core' : Running} :
      process.refresher = .failing status → process.server.mode = .running core →
      Server.Step ext process.server (.fatalError status, event) server →
      server.mode = .running core' →
      Step ext process (.served (.fatalError status) event)
        { process.serve core.commitGeneration (.fatalError status) event server with
          shared := { process.shared with fatalError := core'.fatalError }
          refresher := .ended }
  /-- The destructor asks the refresh thread to stop. -/
  | stop : Step ext process .silent { process with shared := { process.shared with stop := true } }
  | acquireCall {id : Nat} : process.acquires id = none →
      Step ext process .silent (process.setAcquire id (some (.called, process.returned)))
  | acquireNext {id begun : Nat} {phase phase' : AcquirePhase} :
      process.acquires id = some (phase, begun) →
      process.shared.acquireStep phase = some (.next phase') →
      Step ext process .silent (process.setAcquire id (some (phase', begun)))
  | acquireReturn {id begun : Nat} {phase : AcquirePhase} {result : Result SubscriptionSnapshot} :
      process.acquires id = some (phase, begun) →
      process.shared.acquireStep phase = some (.done result) →
      Step ext process (.acquired id begun result) (process.setAcquire id none)

end Process

end OpenEvent
