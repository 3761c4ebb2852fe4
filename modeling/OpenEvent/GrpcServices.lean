import OpenEvent.Core.Reads
import OpenEvent.Lib.OneShotLatch
import OpenEvent.Subscriptions.RunSubscription

/-!
The operations of `OpenEventCore` behind the gRPC services: any number of calls and
streams and the refresh thread, all of which read and raise the one fatal flag. A
step is one access to the flag, one section under the coordinator mutex, one system
call, or one piece of work on a snapshot. The mutex is not kept between sections, so
that there are more interleavings here than in the code.
-/

namespace OpenEvent

open OpenEventCore

/-! ### Operations -/

/-- What an operation has put into its response. -/
inductive Answer where
  | empty
  | changed (data : ResponseData)
  | seq (value : UInt64)
  | messages (page : FetchResponse)
  | metadata (objects : List ObjectMetadata)
  | channels (channels : List ChannelInfo)
  | bytes (data : Bytes)

def Answer.ofData : ResponseData → Answer
  | .empty => .empty
  | data => .changed data

/-- The operations that answer from a snapshot of their own. -/
inductive ReadOperation where
  | getStatus (principal : UInt64) (token : Bytes)
  | getSeqByUuid (uuid : UInt64)
  | fetch (request : FetchRequest)
  | getObjectMetadata (key : ObjectKey)
  | batchGetObjectMetadata (objectKeys : List ObjectKey)
  | getChannel (request : GetChannelRequest)
  | listChannels (request : ListChannelsRequest)
  | listMessages (fromSeq : UInt64) (limit : UInt32)
  | maxSeq

/-- The rest of the operation once `EnsureAvailable` has let it pass. -/
def ReadOperation.run (ext : Externals) (config : Config) (db : Db) (faults : ReadFaults) :
    ReadOperation → Except Exit Answer
  | .getStatus principal token =>
      (plain (OpenEventCore.getStatus none db faults principal token)).map .seq
  | .getSeqByUuid uuid => (plain (OpenEventCore.getSeqByUuid none db faults uuid)).map .seq
  | .fetch request =>
      (plain (OpenEventCore.fetch ext config none db faults request)).map .messages
  | .getObjectMetadata key =>
      (OpenEventCore.getObjectMetadata ext none db faults key).map (fun found => .metadata [found])
  | .batchGetObjectMetadata objectKeys =>
      (OpenEventCore.batchGetObjectMetadata ext none db faults objectKeys).map .metadata
  | .getChannel request =>
      (plain (OpenEventCore.getChannel ext none db faults request)).map
        (fun channel => .channels [channel])
  | .listChannels request =>
      (plain (OpenEventCore.listChannels ext none db faults request)).map .channels
  | .listMessages fromSeq limit =>
      (plain (OpenEventCore.listMessages ext config none db faults fromSeq limit)).map .messages
  | .maxSeq => (plain (OpenEventCore.maxSeq none db faults)).map .seq

/-- The operations that answer from the shared snapshot. -/
inductive SubscriptionOperation where
  | getSubscriptionMaxSeq (principal : UInt64) (token : Bytes) (channels : List UInt64)
  | fetchSubscriptionBatch (principal : UInt64) (token : Bytes) (fromSeq : UInt64)
      (limit : UInt32) (onlyMyRecipient : Bool) (channels : List UInt64)

def SubscriptionOperation.run (ext : Externals) (config : Config) (snapshot : Db)
    (faults : ReadFaults) : SubscriptionOperation → Result Answer
  | .getSubscriptionMaxSeq principal token channels =>
      (subscriptionMaxSeq ext snapshot faults principal token channels).map .seq
  | .fetchSubscriptionBatch principal token fromSeq limit onlyMyRecipient channels =>
      (subscriptionBatch ext config snapshot faults principal token fromSeq limit onlyMyRecipient
        channels).map .messages

inductive Operation where
  | mutation (mutation : Mutation)
  | writeObject (request : WriteObjectRequest)
  | read (operation : ReadOperation)
  | readObject (request : ReadObjectRequest)
  | subscription (operation : SubscriptionOperation)

/-- Whether a gRPC method does nothing but call the operation and return its status
through `ToGrpcStatus`. `Subscribe` calls the operations on the shared snapshot as
part of its stream, and nothing calls `MaxSeq`. -/
def Operation.isRpc : Operation → Bool
  | .read .maxSeq => false
  | .subscription _ => false
  | _ => true

/-! ### Calls -/

/-- What a call does next once it has passed its gate. -/
inductive Work where
  | mutation (mutation : Mutation) (tsMs : UInt64)
  | write (call : WriteObjectCall)
  | read (operation : ReadOperation)
  | record (request : ReadObjectRequest)
  | file (request : ReadObjectRequest) (object : StoredObject)
  | acquire (operation : SubscriptionOperation) (phase : AcquirePhase)
  | snapshot (operation : SubscriptionOperation) (acquired : SubscriptionSnapshot)

/-- Inside `FatalStorageError`: before the exchange of the flag, or before the call
of the handler. -/
inductive LatchPhase where
  | exchange
  | notify

/-- The operation has returned to its caller, or the RPC has been answered. -/
inductive CallReturn where
  | returned (status : Status) (answer : Answer)
  | answered (status : Status) (answer : Answer)

inductive CallPhase where
  | called
  | working (work : Work)
  | latching (phase : LatchPhase) (status : Status) (outcome : CallReturn)
  | settled (outcome : CallReturn)

/-- One call of an operation. `late` says whether the flag was set when it began; the
code does not keep that. -/
structure CoreCall where
  operation : Operation
  phase : CallPhase
  late : Bool

/-- The first step of an operation. `FetchSubscriptionBatch` leaves the gate to
`AcquireSubscriptionSnapshot`. There is none while `getrandom` has not filled the
buffer of `WriteObject`. -/
def Operation.enter (fatalError : Option Status) (tsMs : UInt64) (random : List GetrandomResult)
    (operation : Operation) : Option CallPhase :=
  let refused (status : Status) : CallPhase := .settled (.returned status .empty)
  match operation, ensureAvailable fatalError with
  | .subscription (.fetchSubscriptionBatch principal token fromSeq limit onlyMine channels), _ =>
      some (.working (.acquire
        (.fetchSubscriptionBatch principal token fromSeq limit onlyMine channels) .called))
  | _, .error status => some (refused status)
  | .mutation change, .ok () =>
      match change.entry with
      | .error status => some (refused status)
      | .ok () => some (.working (.mutation change tsMs))
  | .writeObject request, .ok () =>
      match writeObjectEntry request with
      | .error status => some (refused status)
      | .ok () =>
          match generateObjectToken random with
          | none => none
          | some (.error status) => some (refused status)
          | some (.ok token) =>
              some (.working (.write ⟨request, newObject request token, .prepare⟩))
  | .read operation, .ok () => some (.working (.read operation))
  | .readObject request, .ok () => some (.working (.record request))
  | .subscription operation, .ok () => some (.working (.acquire operation .called))

/-- A return through `FatalStorageError`, if the state it leaves says so. -/
def finishCall (state : CoreState) (status : Status) (answer : Answer) : CallPhase :=
  match state.fatalError with
  | some raised => .latching .exchange raised (.returned status answer)
  | none => .settled (.returned status answer)

def leaveCall (exit : Exit) : CallPhase :=
  if exit.fatal then .latching .exchange exit.status (.returned exit.status .empty)
  else .settled (.returned exit.status .empty)

def continueWrite (call : WriteObjectCall) (state : CoreState) (progress : WriteObjectProgress) :
    CallPhase :=
  match progress with
  | .next phase => .working (.write { call with phase })
  | .done status data => finishCall state status (.ofData data)

/-- What one piece of work meets. -/
structure WorkEnv where
  env : CallEnv := {}
  outcome : SyscallOutcome := .success
  io : ObjectFileStore.ReadIo := ⟨[], .success, [], .success⟩

/-- One piece of work on the storage: the state it leaves, the directory, and where
the call goes on. A flag in the state left is one that the work raises. -/
def Work.step (ext : Externals) (config : Config) (state : CoreState) (dir : ObjectDirectory)
    (env : WorkEnv) : Work → Option (CoreState × ObjectDirectory × CallPhase)
  | .mutation change tsMs =>
      match change.batch ext config state.db env.env tsMs with
      | none => none
      | some built =>
          let (state, status, data) := conclude state env.env built
          some (state, dir, finishCall state status (.ofData data))
  | .write call =>
      match call.phase with
      | .prepare =>
          let (state, object, progress) :=
            prepareSection ext state env.env call.request call.object
          some (state, dir, continueWrite { call with object } state progress)
      | .writing phase =>
          match ObjectFileStore.writeStep call.object.objectId call.request.data dir phase
            env.outcome with
          | none => none
          | some (dir, .next phase) =>
              some (state, dir, .working (.write { call with phase := .writing phase }))
          | some (dir, .done status) =>
              let (state, progress) := afterFileWrite state call.object.objectId status
              some (state, dir, continueWrite call state progress)
      | .commit =>
          let (state, progress) := commitSection ext state env.env call.request call.object
          some (state, dir, continueWrite call state progress)
      | .cleaning phase result =>
          match ObjectFileStore.cleanupStep dir phase env.outcome with
          | none => none
          | some (dir, .next phase) =>
              some (state, dir, .working (.write { call with phase := .cleaning phase result }))
          | some (dir, .done status) =>
              let (state, progress) := afterCleanup state status result
              some (state, dir, continueWrite call state progress)
      | .deletePreparing result =>
          let (state, progress) :=
            deletePreparingSection state env.env call.object.objectId result
          some (state, dir, continueWrite call state progress)
  | .read operation =>
      match operation.run ext config state.db env.env.faults with
      | .ok answer => some (state, dir, .settled (.returned .ok answer))
      | .error exit => some (state, dir, leaveCall exit)
  | .record request =>
      match readObjectRecord ext none state.db env.env.faults request with
      | .ok object => some (state, dir, .working (.file request object))
      | .error exit => some (state, dir, leaveCall exit)
  | .file request object =>
      match readObjectFile dir env.io request object with
      | none => none
      | some (.ok data) => some (state, dir, .settled (.returned .ok (.bytes data)))
      | some (.error exit) => some (state, dir, leaveCall exit)
  | .acquire _ _ => none
  | .snapshot operation acquired =>
      match operation.run ext config acquired.snapshot.db env.env.faults with
      | .ok answer => some (state, dir, .settled (.returned .ok answer))
      | .error status => some (state, dir, .settled (.returned status .empty))

/-- A step of `AcquireSubscriptionSnapshot`. -/
def acquirePhase (operation : SubscriptionOperation) : AcquireProgress → CallPhase
  | .next phase => .working (.acquire operation phase)
  | .done (.error status) => .settled (.returned status .empty)
  | .done (.ok acquired) => .working (.snapshot operation acquired)

/-! ### The service -/

/-- Whether the next step of the stream's loop reads from a snapshot. -/
def SubscriptionPhase.readsStorage : SubscriptionPhase → Bool
  | .validating _ => true
  | .reading _ => true
  | _ => false

/-- One `Subscribe`. -/
inductive StreamPhase where
  | running (subscription : Subscription)
  | latching (phase : LatchPhase) (status : Status)
  | answered (status : Status)

/-- The refresh thread, in its loop or about to call the fatal error handler. -/
inductive RefresherPhase where
  | refreshing (phase : RefreshPhase)
  | notifying (status : Status)

/-- The core with everything that runs on it. `shared.fatalError` is the fatal flag
with the status that set it, and `handled` the calls of the fatal error handler. -/
structure Service where
  config : Config
  db : Db
  dir : ObjectDirectory
  shared : SharedSnapshot
  refresher : RefresherPhase
  calls : Nat → Option CoreCall := fun _ => none
  streams : Nat → Option StreamPhase := fun _ => none
  stopping : Bool := false
  handled : List Status := []

/-- The thread that makes a step. -/
inductive ServiceThread where
  | call (id : Nat)
  | stream (id : Nat)
  | refresher
deriving DecidableEq

/-- Who makes a step, and whether it reads or writes the storage. -/
structure ServiceLabel where
  thread : Option ServiceThread
  storage : Bool := false

namespace Service

def flag (service : Service) : Option Status := service.shared.fatalError

/-- The state that a piece of work starts from; the flag is raised by a step of its
own. -/
def coreState (service : Service) : CoreState :=
  { db := service.db, commitGeneration := service.shared.commitGeneration }

def setCall (service : Service) (id : Nat) (call : CoreCall) : Service :=
  { service with calls := Function.update service.calls id (some call) }

def setStream (service : Service) (id : Nat) (phase : StreamPhase) : Service :=
  { service with streams := Function.update service.streams id (some phase) }

/-- The exchange of the flag: the first status stays. -/
def exchange (service : Service) (status : Status) : Service :=
  { service with
    shared := { service.shared with fatalError := service.flag.or (some status) } }

/-- The storage after a piece of work. -/
def worked (service : Service) (state : CoreState) (dir : ObjectDirectory) : Service :=
  { service with
    db := state.db, dir
    shared := { service.shared with commitGeneration := state.commitGeneration } }

/-- The constructor of `OpenEventCore`. -/
def start (config : Config) (db : Db) (dir : ObjectDirectory) (faults : ReadFaults) : Service :=
  match UnifiedStorage.createSnapshot db faults with
  | .ok snapshot =>
      { config, db, dir, refresher := .refreshing .waiting
        shared := { snapshot := some { db := snapshot, moment := 0 }, version := 1 } }
  | .error status =>
      if status.requiresServerExit then
        { config, db, dir, refresher := .refreshing .ended
          shared := { fatalError := some status, status }, handled := [status] }
      else { config, db, dir, refresher := .refreshing .waiting, shared := { status } }

/-- Where a thread goes on after the exchange: only the one that set the flag calls
the handler. -/
def afterExchange {Phase : Type} (service : Service) (notify settled : Phase) : Phase :=
  if service.flag.isSome then settled else notify

inductive Step (ext : Externals) (service : Service) : ServiceLabel → Service → Prop
  | beginCall {id : Nat} {operation : Operation} : service.calls id = none →
      Step ext service ⟨some (.call id), false⟩
        (service.setCall id ⟨operation, .called, service.flag.isSome⟩)
  | enterCall {id : Nat} {call : CoreCall} {tsMs : UInt64} {random : List GetrandomResult}
      {phase : CallPhase} : service.calls id = some call → call.phase = .called →
      call.operation.enter service.flag tsMs random = some phase →
      Step ext service ⟨some (.call id), false⟩ (service.setCall id { call with phase })
  | acquireCall {id : Nat} {call : CoreCall} {operation : SubscriptionOperation}
      {phase : AcquirePhase} {progress : AcquireProgress} : service.calls id = some call →
      call.phase = .working (.acquire operation phase) →
      service.shared.acquireStep phase = some progress →
      Step ext service ⟨some (.call id), false⟩
        (service.setCall id { call with phase := acquirePhase operation progress })
  | workCall {id : Nat} {call : CoreCall} {work : Work} {env : WorkEnv} {state : CoreState}
      {dir : ObjectDirectory} {phase : CallPhase} : service.calls id = some call →
      call.phase = .working work →
      work.step ext service.config service.coreState service.dir env = some (state, dir, phase) →
      Step ext service ⟨some (.call id), true⟩
        ((service.worked state dir).setCall id { call with phase })
  | exchangeCall {id : Nat} {call : CoreCall} {status : Status} {outcome : CallReturn} :
      service.calls id = some call → call.phase = .latching .exchange status outcome →
      Step ext service ⟨some (.call id), false⟩
        ((service.exchange status).setCall id { call with
          phase := service.afterExchange (.latching .notify status outcome) (.settled outcome) })
  | notifyCall {id : Nat} {call : CoreCall} {status : Status} {outcome : CallReturn} :
      service.calls id = some call → call.phase = .latching .notify status outcome →
      Step ext service ⟨some (.call id), false⟩
        ({ service with handled := service.handled ++ [status] }.setCall id
          { call with phase := .settled outcome })
  /-- `ToGrpcStatus`: `HandleRpcStatus` raises a fatal status before the answer. -/
  | reportCall {id : Nat} {call : CoreCall} {status : Status} {answer : Answer} :
      service.calls id = some call → call.operation.isRpc = true →
      call.phase = .settled (.returned status answer) →
      Step ext service ⟨some (.call id), false⟩
        (service.setCall id { call with
          phase := if status.isFatal then .latching .exchange status (.answered status answer)
            else .settled (.answered status answer) })
  /-- `Subscribe`; none are registered once `StopSubscriptions` has been called. -/
  | subscribe {id : Nat} {request : SubscribeRequest} : service.streams id = none →
      Step ext service ⟨some (.stream id), false⟩
        (service.setStream id (if service.stopping then
            .answered { code := .unavailable, message := "server is shutting down" }
          else .running (.start request)))
  | streamStep {id : Nat} {subscription next : Subscription} {input : LoopInput} :
      service.streams id = some (.running subscription) →
      subscription.step ext service.config service.shared input = some next →
      Step ext service ⟨some (.stream id), subscription.phase.readsStorage⟩
        (service.setStream id (.running next))
  | reportStream {id : Nat} {subscription : Subscription} {status : Status} :
      service.streams id = some (.running subscription) →
      subscription.phase = .returned status →
      Step ext service ⟨some (.stream id), false⟩
        (service.setStream id
          (if status.isFatal then .latching .exchange status else .answered status))
  | exchangeStream {id : Nat} {status : Status} :
      service.streams id = some (.latching .exchange status) →
      Step ext service ⟨some (.stream id), false⟩
        ((service.exchange status).setStream id
          (service.afterExchange (.latching .notify status) (.answered status)))
  | notifyStream {id : Nat} {status : Status} :
      service.streams id = some (.latching .notify status) →
      Step ext service ⟨some (.stream id), false⟩
        ({ service with handled := service.handled ++ [status] }.setStream id (.answered status))
  | refreshWake : service.refresher = .refreshing .waiting →
      Step ext service ⟨some .refresher, false⟩
        { service with refresher := .refreshing service.shared.refreshWake }
  | refreshCreate {generation : Nat} {faults : ReadFaults} :
      service.refresher = .refreshing (.loaded generation) →
      Step ext service ⟨some .refresher, true⟩
        { service with
          refresher := .refreshing (.created generation
            ((UnifiedStorage.createSnapshot service.db faults).map (fun db => ⟨db, 0⟩))) }
  | refreshBreak {generation : Nat} {snapshot : Result ReadSnapshot} :
      service.refresher = .refreshing (.created generation snapshot) → service.flag.isSome →
      Step ext service ⟨some .refresher, false⟩ { service with refresher := .refreshing .ended }
  | refreshStore {generation : Nat} {snapshot : Result ReadSnapshot} :
      service.refresher = .refreshing (.created generation snapshot) → service.flag = none →
      Step ext service ⟨some .refresher, false⟩
        { service with
          shared := service.shared.refreshed generation snapshot
          refresher := .refreshing (SharedSnapshot.afterRefresh snapshot) }
  | refreshExchange {status : Status} : service.refresher = .refreshing (.failing status) →
      Step ext service ⟨some .refresher, false⟩
        { service.exchange status with
          refresher := service.afterExchange (.notifying status) (.refreshing .ended) }
  | refreshNotify {status : Status} : service.refresher = .notifying status →
      Step ext service ⟨some .refresher, false⟩
        { service with handled := service.handled ++ [status], refresher := .refreshing .ended }
  | stopSubscriptions : Step ext service ⟨none, false⟩ { service with stopping := true }
  | stopRefresher :
      Step ext service ⟨none, false⟩
        { service with shared := { service.shared with stop := true } }

/-- The services that a core can be in, from its constructor on. -/
def Reachable (ext : Externals) (service : Service) : Prop :=
  ∃ config db dir faults labels, Run (Step ext) (start config db dir faults) labels service

end Service

end OpenEvent
