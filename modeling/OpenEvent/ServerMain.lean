import OpenEvent.Lib.LabelledRun

/-!
`main` from the construction of the core on: the start of the two gRPC servers, the threads
that wait for a signal or a fatal storage error, and the shutdown. A step is one access to an
atomic variable, one section under `fatal_storage_error_mu`, or one call. A thread that sleeps
on the condition variable wakes on `notify_all` only.

Of gRPC it is used that `Shutdown` refuses new calls and returns once none is in flight, and
that `Wait` returns after that.
-/

namespace OpenEvent

inductive GrpcPhase where
  | absent
  | serving
  | draining
  | down
deriving DecidableEq

/-- Where an execution of `shutdown_servers` is, by its next call. -/
inductive ServersPhase where
  | stopSubscriptions
  | startPublicShutdown
  | shutdownAdmin
  | awaitAdmin
  | joinPublicShutdown
deriving DecidableEq

/-- The thread `public_shutdown`. -/
inductive PublicShutdownPhase where
  | absent
  | shutdown
  | await
  | ended
deriving DecidableEq

/-- The thread `shutdown_thread`, which waits for a signal. -/
inductive SignalPhase where
  | absent
  | sigwait
  | storeReceived
  | loadFatal
  | exchange (fatal : Bool)
  | shutting (phase : ServersPhase)
  | ended
deriving DecidableEq

/-- The thread `fatal_shutdown_thread`; `check` is before a section that tests what it
waits for. -/
inductive FatalPhase where
  | absent
  | check
  | asleep
  | exchange
  | shutting (phase : ServersPhase)
  | ended
deriving DecidableEq

inductive AdminPhase where
  | absent
  | wait
  | ended
deriving DecidableEq

/-- The fatal error handler that `main` gives to the core. -/
inductive HandlerPhase where
  | idle
  | store
  | notify
  | returned
deriving DecidableEq

/-- Who calls the handler: a public call, a registered stream, an admin call, or the core
itself in its constructor or its refresh thread. -/
inductive Raiser where
  | call
  | stream
  | admin
  | core
deriving DecidableEq

inductive MainPhase where
  | checkConstructed
  | startAdmin
  | startPublic
  | abandonAdmin
  | awaitAbandoned
  | waitPublic
  | checkInitiated
  | stopSubscriptions
  | shutdownAdmin
  | awaitAdmin
  | storeStop
  | notify
  | checkReceived
  | kill
  | joinAdmin
  | joinShutdown
  | joinFatal
  | loadFatal
  | exited (code : Nat)
deriving DecidableEq

/-- What a shutdown writes to the log. -/
inductive Announcement where
  | afterFatalError
  | afterSignal
deriving DecidableEq

/-- The process. `calls` are the public calls in flight that are not registered as
streams, `pending` says that a shutdown signal has not been taken yet, and `stopping` is
`subscriptions_stopping_`. -/
structure Lifecycle where
  main : MainPhase := .checkConstructed
  publicServer : GrpcPhase := .absent
  adminServer : GrpcPhase := .absent
  calls : Nat := 0
  streams : Nat := 0
  adminCalls : Nat := 0
  stopping : Bool := false
  fatalStorageError : Bool := false
  shutdownInitiated : Bool := false
  signalReceived : Bool := false
  stopThreads : Bool := false
  pending : Bool := false
  handler : HandlerPhase := .idle
  raiser : Raiser := .core
  adminThread : AdminPhase := .absent
  shutdownThread : SignalPhase := .absent
  fatalThread : FatalPhase := .absent
  publicShutdown : PublicShutdownPhase := .absent
  log : List Announcement := []

inductive LifecycleThread where
  | main
  | adminThread
  | shutdownThread
  | fatalThread
  | publicShutdown
  | handler
deriving DecidableEq

/-- What happens next: a thread goes on, with the outcome of the start of a server if it
starts one, or something comes from outside. -/
inductive LifecycleAction where
  | thread (thread : LifecycleThread) (started : Bool)
  | signal
  | beginCall
  | endCall
  | register
  | endStream
  | beginAdminCall
  | endAdminCall
  | raise (raiser : Raiser)
deriving DecidableEq

namespace Lifecycle

/-- `notify_all`. -/
def notifyAll (state : Lifecycle) : Lifecycle :=
  if state.fatalThread = .asleep then { state with fatalThread := .check } else state

/-- The next call of `shutdown_servers`, and where the execution goes on, if it does. -/
def serversStep (state : Lifecycle) : ServersPhase → Option (Lifecycle × Option ServersPhase)
  | .stopSubscriptions => some ({ state with stopping := true }, some .startPublicShutdown)
  | .startPublicShutdown =>
      some ({ state with publicShutdown := .shutdown }, some .shutdownAdmin)
  | .shutdownAdmin => some ({ state with adminServer := .draining }, some .awaitAdmin)
  | .awaitAdmin =>
      if state.adminCalls = 0 then
        some ({ state with adminServer := .down }, some .joinPublicShutdown)
      else none
  | .joinPublicShutdown => if state.publicShutdown = .ended then some (state, none) else none

/-- The exchange of `shutdown_initiated` by a thread that found it unset. -/
def initiate (state : Lifecycle) (announcement : Announcement) : Lifecycle :=
  { state with shutdownInitiated := true, log := state.log ++ [announcement] }

def shutdownThreadStep (state : Lifecycle) : Option Lifecycle :=
  match state.shutdownThread with
  | .absent => none
  | .sigwait =>
      if state.pending then
        some { state with pending := false, shutdownThread := .storeReceived }
      else none
  | .storeReceived => some { state with signalReceived := true, shutdownThread := .loadFatal }
  | .loadFatal => some { state with shutdownThread := .exchange state.fatalStorageError }
  | .exchange fatal =>
      if state.shutdownInitiated then some { state with shutdownThread := .ended }
      else
        some { state.initiate (if fatal then .afterFatalError else .afterSignal) with
          shutdownThread := .shutting .stopSubscriptions }
  | .shutting phase =>
      (state.serversStep phase).map (fun (state, next) =>
        { state with shutdownThread := (next.map .shutting).getD .ended })
  | .ended => none

def fatalThreadStep (state : Lifecycle) : Option Lifecycle :=
  match state.fatalThread with
  | .absent => none
  | .check =>
      if state.fatalStorageError then some { state with fatalThread := .exchange }
      else if state.stopThreads then some { state with fatalThread := .ended }
      else some { state with fatalThread := .asleep }
  | .asleep => none
  | .exchange =>
      if state.shutdownInitiated then some { state with fatalThread := .ended }
      else
        some { state.initiate .afterFatalError with
          fatalThread := .shutting .stopSubscriptions }
  | .shutting phase =>
      (state.serversStep phase).map (fun (state, next) =>
        { state with fatalThread := (next.map .shutting).getD .ended })
  | .ended => none

def publicShutdownStep (state : Lifecycle) : Option Lifecycle :=
  match state.publicShutdown with
  | .shutdown => some { state with publicServer := .draining, publicShutdown := .await }
  | .await =>
      if state.calls = 0 ∧ state.streams = 0 then
        some { state with publicServer := .down, publicShutdown := .ended }
      else none
  | _ => none

def adminThreadStep (state : Lifecycle) : Option Lifecycle :=
  if state.adminThread = .wait ∧ state.adminServer = .down then
    some { state with adminThread := .ended }
  else none

def handlerStep (state : Lifecycle) : Option Lifecycle :=
  match state.handler with
  | .store => some { state with fatalStorageError := true, handler := .notify }
  | .notify => some { state.notifyAll with handler := .returned }
  | _ => none

def mainStep (state : Lifecycle) (started : Bool) : Option Lifecycle :=
  match state.main with
  | .checkConstructed =>
      some { state with main := if state.fatalStorageError then .exited 1 else .startAdmin }
  | .startAdmin =>
      if started then some { state with adminServer := .serving, main := .startPublic }
      else some { state with main := .exited 1 }
  | .startPublic =>
      if started then
        some { state with
          publicServer := .serving
          adminThread := .wait
          shutdownThread := .sigwait
          fatalThread := .check
          main := .waitPublic }
      else some { state with main := .abandonAdmin }
  | .abandonAdmin => some { state with adminServer := .draining, main := .awaitAbandoned }
  | .awaitAbandoned =>
      if state.adminCalls = 0 then
        some { state with adminServer := .down, main := .exited 1 }
      else none
  | .waitPublic =>
      if state.publicServer = .down then some { state with main := .checkInitiated } else none
  | .checkInitiated =>
      some { state with
        main := if state.shutdownInitiated then .storeStop else .stopSubscriptions }
  | .stopSubscriptions => some { state with stopping := true, main := .shutdownAdmin }
  | .shutdownAdmin => some { state with adminServer := .draining, main := .awaitAdmin }
  | .awaitAdmin =>
      if state.adminCalls = 0 then some { state with adminServer := .down, main := .storeStop }
      else none
  | .storeStop => some { state with stopThreads := true, main := .notify }
  | .notify => some { state.notifyAll with main := .checkReceived }
  | .checkReceived =>
      some { state with main := if state.signalReceived then .joinAdmin else .kill }
  | .kill => some { state with pending := true, main := .joinAdmin }
  | .joinAdmin =>
      if state.adminThread = .ended then some { state with main := .joinShutdown } else none
  | .joinShutdown =>
      if state.shutdownThread = .ended then some { state with main := .joinFatal } else none
  | .joinFatal =>
      if state.fatalThread = .ended then some { state with main := .loadFatal } else none
  | .loadFatal =>
      some { state with main := .exited (if state.fatalStorageError then 1 else 0) }
  | .exited _ => none

def threadStep (state : Lifecycle) (started : Bool) : LifecycleThread → Option Lifecycle
  | .main => state.mainStep started
  | .adminThread => state.adminThreadStep
  | .shutdownThread => state.shutdownThreadStep
  | .fatalThread => state.fatalThreadStep
  | .publicShutdown => state.publicShutdownStep
  | .handler => state.handlerStep

/-- The calls of a kind that cannot end yet, because the handler runs in one of them. -/
def handling (state : Lifecycle) (raiser : Raiser) : Nat :=
  if (state.handler = .store ∨ state.handler = .notify) ∧ state.raiser = raiser then 1 else 0

/-- Whether there is a thread of the core that could raise a fatal error. -/
def canRaise (state : Lifecycle) : Raiser → Bool
  | .call => decide (0 < state.calls)
  | .stream => decide (0 < state.streams)
  | .admin => decide (0 < state.adminCalls)
  | .core => true

/-- The core calls the handler at most once. `RegisterSubscription` refuses once the
subscriptions are stopping; the call then ends as any other. -/
def step (state : Lifecycle) : LifecycleAction → Option Lifecycle
  | .thread thread started => state.threadStep started thread
  | .signal => some { state with pending := true }
  | .beginCall =>
      if state.publicServer = .serving then some { state with calls := state.calls + 1 }
      else none
  | .endCall =>
      if state.handling .call < state.calls then some { state with calls := state.calls - 1 }
      else none
  | .register =>
      if state.handling .call < state.calls ∧ state.stopping = false then
        some { state with calls := state.calls - 1, streams := state.streams + 1 }
      else none
  | .endStream =>
      if state.handling .stream < state.streams then
        some { state with streams := state.streams - 1 }
      else none
  | .beginAdminCall =>
      if state.adminServer = .serving then some { state with adminCalls := state.adminCalls + 1 }
      else none
  | .endAdminCall =>
      if state.handling .admin < state.adminCalls then
        some { state with adminCalls := state.adminCalls - 1 }
      else none
  | .raise raiser =>
      if state.handler = .idle ∧ state.canRaise raiser = true then
        some { state with handler := .store, raiser }
      else none

def Step (state : Lifecycle) (action : LifecycleAction) (next : Lifecycle) : Prop :=
  state.step action = some next

def Reachable (state : Lifecycle) : Prop := ∃ actions, Run Step {} actions state

end Lifecycle

end OpenEvent
