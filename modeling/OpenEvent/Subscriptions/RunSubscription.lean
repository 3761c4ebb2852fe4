import OpenEvent.Core.Reads
import OpenEvent.Subscriptions.Execution

/-!
`EventServiceImpl::RunSubscription`: the loop that writes messages to one
stream. Its steps interleave with those of the process; it sees only the shared
snapshot. A step is one access to the shared state, one batch read from a
snapshot, one message written or one test of the RPC context.
-/

namespace OpenEvent

open OpenEventCore

/-- What the environment decides at a step of the loop: which reads fail,
whether the RPC is cancelled, and whether the writer takes the message. -/
structure LoopInput where
  faults : ReadFaults := {}
  cancelled : Bool := false
  accepts : Bool := true

/-- A batch that the loop has written. The code does not keep it. -/
structure WrittenBatch where
  fromSeq : UInt64
  nextSeq : UInt64
  snapshot : ReadSnapshot
  version : Nat

inductive SubscriptionPhase where
  /-- `GetSubscriptionMaxSeq` before, in and after its wait for a snapshot. -/
  | ensuring
  | starting (phase : AcquirePhase)
  | validating (acquired : SubscriptionSnapshot)
  /-- The head of the loop. -/
  | head
  /-- `FetchSubscriptionBatch` in and after its wait for a snapshot. -/
  | fetching (phase : AcquirePhase)
  | reading (acquired : SubscriptionSnapshot)
  | writing (pending : List EventMessage) (page : FetchResponse) (acquired : SubscriptionSnapshot)
  | waiting (snapshotVersion : Nat)
  | returned (status : Status)

structure Subscription where
  request : SubscribeRequest
  phase : SubscriptionPhase
  nextSeq : UInt64
  written : List EventMessage := []
  batches : List WrittenBatch := []

namespace Subscription

/-- The call of `RunSubscription`. -/
def start (request : SubscribeRequest) : Subscription :=
  { request, phase := .ensuring, nextSeq := request.fromSeq }

/-- The number of messages that the loop asks for at once. -/
def kBatchLimit : UInt32 := 100

/-- A step of `AcquireSubscriptionSnapshot` on behalf of the loop. -/
def acquire (shared : SharedSnapshot) (subscription : Subscription) (phase : AcquirePhase)
    (waits : AcquirePhase → SubscriptionPhase) (goesOn : SubscriptionSnapshot → SubscriptionPhase) :
    Option Subscription :=
  match shared.acquireStep phase with
  | none => none
  | some (.next phase') => some { subscription with phase := waits phase' }
  | some (.done (.error status)) => some { subscription with phase := .returned status }
  | some (.done (.ok acquired)) => some { subscription with phase := goesOn acquired }

/-- The end of a batch: the cursor moves on, and the loop waits if nothing is
left in the snapshot. -/
def finishBatch (subscription : Subscription) (page : FetchResponse) (acquired : SubscriptionSnapshot) :
    Subscription :=
  { subscription with
    nextSeq := page.nextSeq
    batches := subscription.batches ++
      [⟨subscription.nextSeq, page.nextSeq, acquired.snapshot, acquired.version⟩]
    phase := if page.nextSeq > page.lastSeq then .waiting acquired.version else .head }

def step (ext : Externals) (config : Config) (shared : SharedSnapshot) (subscription : Subscription)
    (input : LoopInput) : Option Subscription :=
  let request := subscription.request
  match subscription.phase with
  | .ensuring =>
      match ensureAvailable shared.fatalError with
      | .error status => some { subscription with phase := .returned status }
      | .ok () => some { subscription with phase := .starting .called }
  | .starting phase => subscription.acquire shared phase .starting .validating
  | .validating acquired =>
      match subscriptionMaxSeq ext acquired.snapshot.db input.faults request.principal
          request.token request.channels with
      | .error status => some { subscription with phase := .returned status }
      | .ok maxSeq =>
          if subscription.nextSeq > maxSeq ∧ subscription.nextSeq - maxSeq > 1 then
            let status : Status :=
              { code := .outOfRange, message := "from_seq exceeds max_seq + 1" }
            some { subscription with phase := .returned status }
          else some { subscription with phase := .head }
  | .head =>
      if input.cancelled then some { subscription with phase := .returned .ok }
      else some { subscription with phase := .fetching .called }
  | .fetching phase => subscription.acquire shared phase .fetching .reading
  | .reading acquired =>
      match subscriptionBatch ext config acquired.snapshot.db input.faults request.principal
          request.token subscription.nextSeq kBatchLimit request.onlyMyRecipient request.channels with
      | .error status => some { subscription with phase := .returned status }
      | .ok page => some { subscription with phase := .writing page.messages page acquired }
  | .writing [] page acquired => some (subscription.finishBatch page acquired)
  | .writing (message :: pending) page acquired =>
      if input.accepts then
        some { subscription with
          written := subscription.written ++ [message], phase := .writing pending page acquired }
      else some { subscription with phase := .returned .ok }
  | .waiting snapshotVersion =>
      if input.cancelled || shared.waitForSubscriptionSnapshot snapshotVersion then
        some { subscription with phase := .head }
      else some subscription
  | .returned _ => none

end Subscription

/-- A process and one of its streams. -/
structure Streaming where
  process : Process
  subscription : Subscription

inductive StreamingLabel where
  | process (label : ProcessLabel)
  | subscription (input : LoopInput)

/-- The interleavings of the steps of both. -/
inductive Streaming.Step (ext : Externals) (config : Config) (state : Streaming) :
    StreamingLabel → Streaming → Prop
  | process {label : ProcessLabel} {next : Process} : state.process.Step ext label next →
      Step ext config state (.process label) { state with process := next }
  | subscription {input : LoopInput} {next : Subscription} :
      state.subscription.step ext config state.process.shared input = some next →
      Step ext config state (.subscription input) { state with subscription := next }

/-- The choice of the next step. -/
inductive StreamingAction where
  | process (action : ProcessAction)
  | subscription (input : LoopInput)

def Streaming.step (ext : Externals) (config : Config) (state : Streaming) :
    StreamingAction → Option (Streaming × StreamingLabel)
  | .process action =>
      (state.process.step ext action).map
        (fun result => ({ state with process := result.1 }, .process result.2))
  | .subscription input =>
      (state.subscription.step ext config state.process.shared input).map
        (fun next => ({ state with subscription := next }, .subscription input))

theorem Streaming.step_sound {ext : Externals} {config : Config} {state next : Streaming}
    {action : StreamingAction} {label : StreamingLabel}
    (h : state.step ext config action = some (next, label)) :
    state.Step ext config label next := by
  cases action with
  | process action =>
      obtain ⟨result, hstep, hresult⟩ := Option.map_eq_some_iff.mp h
      cases hresult
      exact .process (Process.step_sound hstep)
  | subscription input =>
      obtain ⟨result, hstep, hresult⟩ := Option.map_eq_some_iff.mp h
      cases hresult
      exact .subscription hstep

/-- The run that a list of choices makes. -/
theorem Streaming.execute_steps {ext : Externals} {config : Config} {state : Streaming}
    {actions : List StreamingAction} {found : List (StreamingAction × StreamingLabel) × Streaming}
    (h : execute (Streaming.step ext config) state actions = some found) :
    Run (Streaming.Step ext config) state (found.1.map Prod.snd) found.2 := by
  have hrun : Run (fun state label next => Streaming.Step ext config state label.2 next) state
      found.1 found.2 := execute_run (fun _ _ _ _ hstep => Streaming.step_sound hstep) h
  exact hrun.map (fun _ _ _ hstep => hstep)

end OpenEvent
