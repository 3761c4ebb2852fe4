import OpenEvent.ServerMain

/-!
What holds of the process in every state of every run: which threads are there, how far the
shutdown of the servers has come, and what each thread that waits is waiting for.
-/

namespace OpenEvent

/-! ### The invariant -/

/-- The execution of `shutdown_servers` that a thread is in. -/
def SignalPhase.servers : SignalPhase → Option ServersPhase
  | .shutting phase => some phase
  | _ => none

def FatalPhase.servers : FatalPhase → Option ServersPhase
  | .shutting phase => some phase
  | _ => none

namespace MainPhase

/-- Before `main` has started both servers. -/
def starting : MainPhase → Bool
  | .checkConstructed | .startAdmin | .startPublic | .abandonAdmin | .awaitAbandoned => true
  | _ => false

/-- After the public server has shut down. -/
def closing : MainPhase → Bool
  | .checkInitiated | .storeStop | .notify | .checkReceived | .kill | .joinAdmin => true
  | .joinShutdown | .joinFatal | .loadFatal | .exited _ => true
  | _ => false

/-- After `stop_shutdown_threads` has been stored. -/
def stopped : MainPhase → Bool
  | .notify | .checkReceived | .kill | .joinAdmin | .joinShutdown | .joinFatal => true
  | .loadFatal | .exited _ => true
  | _ => false

/-- After `main` has made sure that `shutdown_thread` gets a signal. -/
def signalled : MainPhase → Bool
  | .joinAdmin | .joinShutdown | .joinFatal | .loadFatal | .exited _ => true
  | _ => false

/-- How many threads `main` has joined. -/
def joined : MainPhase → Nat
  | .joinShutdown => 1
  | .joinFatal => 2
  | .loadFatal | .exited _ => 3
  | _ => 0

end MainPhase

namespace Lifecycle

/-- Before the threads are there. -/
structure Unstarted (state : Lifecycle) : Prop where
  main : state.main.starting = true ∨ state.main = .exited 1
  threads : state.shutdownThread = .absent ∧ state.fatalThread = .absent ∧
    state.publicShutdown = .absent
  flags : state.shutdownInitiated = false ∧ state.signalReceived = false ∧
    state.stopThreads = false ∧ state.log = []
  server : state.publicServer = .absent
  unserved : state.main = .checkConstructed ∨ state.main = .startAdmin →
    state.adminServer = .absent
  served : state.main = .startPublic ∨ state.main = .abandonAdmin → state.adminServer = .serving
  abandoned : state.main = .awaitAbandoned → state.adminServer = .draining
  exited : state.main = .exited 1 → state.adminServer = .absent ∨ state.adminServer = .down

/-- The public server follows the thread that shuts it down. -/
def PublicSound (server : GrpcPhase) (stopping : Bool) : PublicShutdownPhase → Prop
  | .absent => server = .serving
  | .shutdown => server = .serving ∧ stopping = true
  | .await => server = .draining ∧ stopping = true
  | .ended => server = .down ∧ stopping = true

/-- The streams have been told to stop before that thread starts. -/
theorem PublicSound.stopping {server : GrpcPhase} {stopping : Bool} {phase : PublicShutdownPhase}
    (h : PublicSound server stopping phase) (hstarted : phase ≠ .absent) : stopping = true := by
  cases phase with
  | absent => exact absurd rfl hstarted
  | shutdown => exact h.2
  | await => exact h.2
  | ended => exact h.2

/-- What an execution of `shutdown_servers` has done so far; `none` is its end. -/
def ServersSound (publicShutdown : PublicShutdownPhase) (admin : GrpcPhase) (stopping : Bool) :
    Option ServersPhase → Prop
  | some .stopSubscriptions => publicShutdown = .absent ∧ admin = .serving
  | some .startPublicShutdown => publicShutdown = .absent ∧ admin = .serving ∧ stopping = true
  | some .shutdownAdmin => publicShutdown ≠ .absent ∧ admin = .serving
  | some .awaitAdmin => publicShutdown ≠ .absent ∧ admin = .draining
  | some .joinPublicShutdown => publicShutdown ≠ .absent ∧ admin = .down
  | none => publicShutdown = .ended ∧ admin = .down

structure Started (state : Lifecycle) : Prop where
  main : state.main = .waitPublic ∨ state.main.closing = true
  present : state.adminThread ≠ .absent
  threads : state.shutdownThread ≠ .absent ∧ state.fatalThread ≠ .absent
  publicServer : PublicSound state.publicServer state.stopping state.publicShutdown
  closing : state.main.closing = true → state.publicShutdown = .ended
  uninitiated : state.shutdownInitiated = false → state.shutdownThread.servers = none ∧
    state.fatalThread.servers = none ∧ state.publicShutdown = .absent ∧
    state.adminServer = .serving ∧ state.log = []
  initiated : state.shutdownInitiated = true → state.log.length = 1 ∧
    ServersSound state.publicShutdown state.adminServer state.stopping
      (state.shutdownThread.servers.or state.fatalThread.servers)
  alone : state.shutdownThread.servers = none ∨ state.fatalThread.servers = none
  adminThread : state.adminThread = .ended → state.adminServer = .down
  stopped : state.stopThreads = state.main.stopped
  asleep : state.fatalThread = .asleep →
    (state.fatalStorageError = true → state.handler = .notify) ∧
      (state.stopThreads = true → state.main = .notify)
  received : state.signalReceived = true →
    state.shutdownThread ≠ .sigwait ∧ state.shutdownThread ≠ .storeReceived
  signalled : state.main.signalled = true → state.shutdownThread = .sigwait →
    state.pending = true
  endedShutdown : state.shutdownThread = .ended → state.shutdownInitiated = true
  endedFatal : state.fatalThread = .ended →
    state.shutdownInitiated = true ∨ state.stopThreads = true
  joinedAdmin : 1 ≤ state.main.joined → state.adminThread = .ended
  joinedShutdown : 2 ≤ state.main.joined → state.shutdownThread = .ended
  joinedFatal : 3 ≤ state.main.joined → state.fatalThread = .ended

/-- The handler and the calls in flight. -/
structure CallsSound (state : Lifecycle) : Prop where
  raised : state.fatalStorageError = true ↔ state.handler = .notify ∨ state.handler = .returned
  raiser : state.handler = .store ∨ state.handler = .notify → state.canRaise state.raiser = true
  drained : state.publicServer = .absent ∨ state.publicServer = .down →
    state.calls = 0 ∧ state.streams = 0
  adminDrained : state.adminServer = .absent ∨ state.adminServer = .down → state.adminCalls = 0

structure Sound (state : Lifecycle) : Prop where
  calls : state.CallsSound
  phase : state.adminThread = .absent ∧ state.Unstarted ∨ state.Started

variable {state next : Lifecycle}

theorem sound_initial : Sound {} := by
  constructor
  · constructor <;> simp
  · refine Or.inl ⟨rfl, ?_⟩
    constructor <;> simp [MainPhase.starting]

/-- The calls in flight play no part in the control flow. -/
theorem Started.frame (h : state.Started) (calls streams adminCalls : Nat) :
    Started { state with calls, streams, adminCalls } :=
  ⟨h.main, h.present, h.threads, h.publicServer, h.closing, h.uninitiated, h.initiated, h.alone,
    h.adminThread, h.stopped, h.asleep, h.received, h.signalled, h.endedShutdown,
    h.endedFatal, h.joinedAdmin, h.joinedShutdown, h.joinedFatal⟩

/-! ### The threads that shut down -/

/-- `fatal_shutdown_thread` goes on outside `shutdown_servers`. -/
theorem Started.fatal_moves (h : state.Started) {phase : FatalPhase}
    (hbefore : state.fatalThread.servers = none) (hlives : state.fatalThread ≠ .ended)
    (hpresent : phase ≠ .absent) (hservers : phase.servers = none)
    (hasleep : phase = .asleep → (state.fatalStorageError = true → state.handler = .notify) ∧
      (state.stopThreads = true → state.main = .notify))
    (hended : phase = .ended → state.shutdownInitiated = true ∨ state.stopThreads = true) :
    Started { state with fatalThread := phase } := by
  refine { h with
    threads := ⟨h.threads.1, hpresent⟩, uninitiated := ?_, initiated := ?_,
    alone := Or.inr hservers, asleep := hasleep, endedFatal := hended, joinedFatal := ?_ }
  · intro hunset
    obtain ⟨hsignal, _, hrest⟩ := h.uninitiated hunset
    exact ⟨hsignal, hservers, hrest⟩
  · intro hset
    obtain ⟨hlog, hcurrent⟩ := h.initiated hset
    rw [hbefore] at hcurrent
    dsimp only
    rw [hservers]
    exact ⟨hlog, hcurrent⟩
  · intro hjoined
    exact absurd (h.joinedFatal hjoined) hlives

/-- `shutdown_thread` goes on outside `shutdown_servers`. -/
theorem Started.signal_moves (h : state.Started) {phase : SignalPhase} {pending received : Bool}
    (hbefore : state.shutdownThread.servers = none) (hlives : state.shutdownThread ≠ .ended)
    (hpresent : phase ≠ .absent) (hservers : phase.servers = none) (hwaited : phase ≠ .sigwait)
    (hreceived : received = true → phase ≠ .storeReceived)
    (hended : phase = .ended → state.shutdownInitiated = true) :
    Started { state with pending, signalReceived := received, shutdownThread := phase } := by
  refine { h with
    threads := ⟨hpresent, h.threads.2⟩, uninitiated := ?_, initiated := ?_,
    alone := Or.inl hservers, received := ?_, signalled := ?_, endedShutdown := hended,
    joinedShutdown := ?_ }
  · intro hunset
    exact ⟨hservers, (h.uninitiated hunset).2⟩
  · intro hset
    obtain ⟨hlog, hcurrent⟩ := h.initiated hset
    rw [hbefore] at hcurrent
    dsimp only
    rw [hservers]
    exact ⟨hlog, hcurrent⟩
  · intro hset
    exact ⟨hwaited, hreceived hset⟩
  · intro _ hphase
    exact absurd hphase hwaited
  · intro hjoined
    exact absurd (h.joinedShutdown hjoined) hlives

/-- After `notify_all` no thread sleeps. -/
theorem notifyAll_awake (state : Lifecycle) : state.notifyAll.fatalThread ≠ .asleep := by
  unfold notifyAll
  split
  · simp
  · assumption

theorem Started.notifyAll (h : state.Started) : state.notifyAll.Started := by
  unfold Lifecycle.notifyAll
  split
  · rename_i hphase
    apply h.fatal_moves
    all_goals simp [hphase, FatalPhase.servers]
  · exact h

theorem Started.handlerStep (h : state.Started) (hstep : state.handlerStep = some next) :
    next.Started := by
  unfold Lifecycle.handlerStep at hstep
  split at hstep
  · cases hstep
    refine { h with asleep := ?_ }
    intro hsleeps
    exact ⟨fun _ => rfl, (h.asleep hsleeps).2⟩
  · cases hstep
    refine { h.notifyAll with asleep := ?_ }
    intro hsleeps
    exact absurd hsleeps (notifyAll_awake state)
  · cases hstep

/-- The public server goes down while `shutdown_servers` is under way. -/
theorem ServersSound.public_moves {before after : PublicShutdownPhase} {admin : GrpcPhase}
    {stopping : Bool} {phase : Option ServersPhase} (h : ServersSound before admin stopping phase)
    (hbefore : before = .shutdown ∨ before = .await) (hafter : after ≠ .absent) :
    ServersSound after admin stopping phase := by
  have habsent : before ≠ .absent := by
    rintro rfl
    simp at hbefore
  have hended : before ≠ .ended := by
    rintro rfl
    simp at hbefore
  cases phase with
  | none => exact absurd h.1 hended
  | some phase =>
      cases phase with
      | stopSubscriptions => exact absurd h.1 habsent
      | startPublicShutdown => exact absurd h.1 habsent
      | shutdownAdmin => exact ⟨hafter, h.2⟩
      | awaitAdmin => exact ⟨hafter, h.2⟩
      | joinPublicShutdown => exact ⟨hafter, h.2⟩

/-- The thread `public_shutdown` goes on, and the public server with it. -/
theorem Started.public_moves (h : state.Started) {server : GrpcPhase}
    {phase : PublicShutdownPhase}
    (hbefore : state.publicShutdown = .shutdown ∨ state.publicShutdown = .await)
    (hpresent : phase ≠ .absent) (hpublic : PublicSound server state.stopping phase) :
    Started { state with publicServer := server, publicShutdown := phase } := by
  refine { h with publicServer := hpublic, closing := ?_, uninitiated := ?_, initiated := ?_ }
  · intro hclosing
    rw [h.closing hclosing] at hbefore
    simp at hbefore
  · intro hunset
    rw [(h.uninitiated hunset).2.2.1] at hbefore
    simp at hbefore
  · intro hset
    obtain ⟨hlog, hcurrent⟩ := h.initiated hset
    exact ⟨hlog, hcurrent.public_moves hbefore hpresent⟩

theorem Started.publicShutdownStep (h : state.Started)
    (hstep : state.publicShutdownStep = some next) : next.Started := by
  have hpublic := h.publicServer
  unfold Lifecycle.publicShutdownStep at hstep
  split at hstep
  · rename_i hphase
    cases hstep
    rw [hphase] at hpublic
    exact h.public_moves (Or.inl hphase) (by simp) ⟨rfl, hpublic.2⟩
  · rename_i hphase
    split at hstep
    · cases hstep
      rw [hphase] at hpublic
      exact h.public_moves (Or.inr hphase) (by simp) ⟨rfl, hpublic.2⟩
    · cases hstep
  · cases hstep

theorem Started.adminThreadStep (h : state.Started) (hstep : state.adminThreadStep = some next) :
    next.Started := by
  unfold Lifecycle.adminThreadStep at hstep
  split at hstep
  · rename_i hdown
    cases hstep
    exact { h with
      present := by simp, adminThread := fun _ => hdown.2, joinedAdmin := fun _ => rfl }
  · cases hstep

/-- What one call of `shutdown_servers` changes. -/
structure ServersMove (state after : Lifecycle) (next : Option ServersPhase) : Prop where
  frame : after = { state with
    stopping := after.stopping
    publicShutdown := after.publicShutdown
    adminServer := after.adminServer }
  servers : ServersSound after.publicShutdown after.adminServer after.stopping next
  publicServer : PublicSound after.publicServer after.stopping after.publicShutdown
  ended : state.publicShutdown = .ended → after.publicShutdown = .ended
  admin : state.adminServer = .down → after.adminServer = .down
  drained : after.adminServer = .down → state.adminServer = .down ∨ after.adminCalls = 0

/-- The three fields that it may change, and what is known of them. -/
theorem ServersMove.parts {after : Lifecycle} {following : Option ServersPhase}
    (h : ServersMove state after following) :
    ∃ stopping publicShutdown adminServer,
      after = { state with stopping, publicShutdown, adminServer } ∧
      ServersSound publicShutdown adminServer stopping following ∧
      PublicSound state.publicServer stopping publicShutdown ∧
      (state.publicShutdown = .ended → publicShutdown = .ended) ∧
      (state.adminServer = .down → adminServer = .down) := by
  have hpublic := h.publicServer
  rw [h.frame] at hpublic
  exact ⟨_, _, _, h.frame, h.servers, hpublic, h.ended, h.admin⟩

theorem serversStep_moves {phase : ServersPhase} {after : Lifecycle}
    {following : Option ServersPhase} (hstep : state.serversStep phase = some (after, following))
    (hservers : ServersSound state.publicShutdown state.adminServer state.stopping (some phase))
    (hpublic : PublicSound state.publicServer state.stopping state.publicShutdown) :
    ServersMove state after following := by
  unfold serversStep at hstep
  split at hstep
  · cases hstep
    obtain ⟨habsent, hserving⟩ := hservers
    rw [habsent] at hpublic
    refine ⟨rfl, ⟨habsent, hserving, rfl⟩, ?_, id, id, Or.inl⟩
    dsimp only
    rw [habsent]
    exact hpublic
  · cases hstep
    obtain ⟨habsent, hserving, hstopping⟩ := hservers
    rw [habsent] at hpublic
    refine ⟨rfl, ⟨by simp, hserving⟩, ⟨hpublic, hstopping⟩, ?_, id, Or.inl⟩
    rw [habsent]
    intro hended
    cases hended
  · cases hstep
    obtain ⟨hpresent, hserving⟩ := hservers
    refine ⟨rfl, ⟨hpresent, rfl⟩, hpublic, id, ?_, ?_⟩
    · rw [hserving]
      intro hdown
      cases hdown
    · intro hdown
      cases hdown
  · split at hstep
    · rename_i hnone
      cases hstep
      exact ⟨rfl, ⟨hservers.1, rfl⟩, hpublic, id, fun _ => rfl, fun _ => Or.inr hnone⟩
    · cases hstep
  · split at hstep
    · rename_i hended
      cases hstep
      exact ⟨rfl, ⟨hended, hservers.2⟩, hpublic, id, id, Or.inl⟩
    · cases hstep

/-- A thread in `shutdown_servers` is the one that initiated the shutdown. -/
theorem Started.signal_shutting (h : state.Started) {phase : ServersPhase}
    (hphase : state.shutdownThread = .shutting phase) : state.shutdownInitiated = true ∧
      ServersSound state.publicShutdown state.adminServer state.stopping (some phase) := by
  have hset : state.shutdownInitiated = true := by
    rw [← Bool.not_eq_false]
    intro hunset
    have hnone := (h.uninitiated hunset).1
    rw [hphase] at hnone
    cases hnone
  have hcurrent := (h.initiated hset).2
  rw [hphase] at hcurrent
  exact ⟨hset, hcurrent⟩

theorem Started.fatal_shutting (h : state.Started) {phase : ServersPhase}
    (hphase : state.fatalThread = .shutting phase) : state.shutdownInitiated = true ∧
      state.shutdownThread.servers = none ∧
      ServersSound state.publicShutdown state.adminServer state.stopping (some phase) := by
  have hset : state.shutdownInitiated = true := by
    rw [← Bool.not_eq_false]
    intro hunset
    have hnone := (h.uninitiated hunset).2.1
    rw [hphase] at hnone
    cases hnone
  have halone : state.shutdownThread.servers = none := by
    obtain hnone | hnone := h.alone
    · exact hnone
    · rw [hphase] at hnone
      cases hnone
  have hcurrent := (h.initiated hset).2
  rw [hphase, halone] at hcurrent
  exact ⟨hset, halone, hcurrent⟩

/-- `shutdown_thread` goes on in `shutdown_servers`. -/
theorem Started.signal_serves (h : state.Started) {phase : ServersPhase} {after : Lifecycle}
    {following : Option ServersPhase} (hphase : state.shutdownThread = .shutting phase)
    (hmoved : ServersMove state after following) :
    Started { after with shutdownThread := (following.map .shutting).getD .ended } := by
  obtain ⟨hset, _⟩ := h.signal_shutting hphase
  have hfatal : state.fatalThread.servers = none := by
    obtain hnone | hnone := h.alone
    · rw [hphase] at hnone
      cases hnone
    · exact hnone
  obtain ⟨stopping, publicShutdown, adminServer, rfl, hservers, hpublic, hended, hadmin⟩ :=
    hmoved.parts
  refine { h with
    threads := ⟨?_, h.threads.2⟩, publicServer := hpublic, closing := ?_, uninitiated := ?_,
    initiated := ?_, alone := Or.inr hfatal, adminThread := ?_, received := ?_, signalled := ?_,
    endedShutdown := fun _ => hset, joinedShutdown := ?_ }
  · cases following <;> simp
  · intro hclosing
    exact hended (h.closing hclosing)
  · intro hunset
    exact absurd (hset.symm.trans hunset) (by simp)
  · intro _
    refine ⟨(h.initiated hset).1, ?_⟩
    dsimp only
    rw [hfatal]
    cases following <;> exact hservers
  · intro hdown
    exact hadmin (h.adminThread hdown)
  · intro _
    cases following <;> simp
  · intro _
    cases following <;> simp
  · intro hjoined
    have hexited := h.joinedShutdown hjoined
    rw [hphase] at hexited
    cases hexited

/-- `fatal_shutdown_thread` goes on in `shutdown_servers`. -/
theorem Started.fatal_serves (h : state.Started) {phase : ServersPhase} {after : Lifecycle}
    {following : Option ServersPhase} (hphase : state.fatalThread = .shutting phase)
    (hmoved : ServersMove state after following) :
    Started { after with fatalThread := (following.map .shutting).getD .ended } := by
  obtain ⟨hset, halone, _⟩ := h.fatal_shutting hphase
  obtain ⟨stopping, publicShutdown, adminServer, rfl, hservers, hpublic, hended, hadmin⟩ :=
    hmoved.parts
  refine { h with
    threads := ⟨h.threads.1, ?_⟩, publicServer := hpublic, closing := ?_, uninitiated := ?_,
    initiated := ?_, alone := Or.inl halone, adminThread := ?_, asleep := ?_,
    endedFatal := fun _ => Or.inl hset, joinedFatal := ?_ }
  · cases following <;> simp
  · intro hclosing
    exact hended (h.closing hclosing)
  · intro hunset
    exact absurd (hset.symm.trans hunset) (by simp)
  · intro _
    refine ⟨(h.initiated hset).1, ?_⟩
    dsimp only
    rw [halone]
    cases following <;> exact hservers
  · intro hdown
    exact hadmin (h.adminThread hdown)
  · cases following <;> simp
  · intro hjoined
    have hexited := h.joinedFatal hjoined
    rw [hphase] at hexited
    cases hexited

/-- A thread that finds `shutdown_initiated` unset enters `shutdown_servers`. -/
theorem Started.initiates (h : state.Started) (hunset : state.shutdownInitiated = false)
    {signal : SignalPhase} {fatal : FatalPhase} {announcement : Announcement}
    (hsignal : signal = state.shutdownThread ∧ fatal = .shutting .stopSubscriptions ∧
        state.fatalThread = .exchange ∨
      signal = .shutting .stopSubscriptions ∧ fatal = state.fatalThread ∧
        ∃ found, state.shutdownThread = .exchange found) :
    Started { state.initiate announcement with
      shutdownThread := signal, fatalThread := fatal } := by
  obtain ⟨hnoSignal, hnoFatal, hpublic, hadmin, hlog⟩ := h.uninitiated hunset
  have hcurrent : ServersSound state.publicShutdown state.adminServer state.stopping
      (some .stopSubscriptions) := ⟨hpublic, hadmin⟩
  have hone : (state.log ++ [announcement]).length = 1 := by rw [hlog]; rfl
  rcases hsignal with ⟨rfl, rfl, hexchange⟩ | ⟨rfl, rfl, found, hexchange⟩
  · refine { h with
      threads := ⟨h.threads.1, by simp⟩, uninitiated := by simp [initiate], initiated := ?_,
      alone := Or.inl hnoSignal, asleep := by simp, endedShutdown := fun _ => rfl,
      endedFatal := by simp, joinedFatal := ?_ }
    · intro _
      dsimp only
      rw [hnoSignal]
      exact ⟨hone, hcurrent⟩
    · intro hjoined
      have hexited := h.joinedFatal hjoined
      rw [hexchange] at hexited
      cases hexited
  · refine { h with
      threads := ⟨by simp, h.threads.2⟩, uninitiated := by simp [initiate], initiated := ?_,
      alone := Or.inr hnoFatal, received := by simp, signalled := by simp,
      endedShutdown := by simp, endedFatal := fun _ => Or.inl rfl, joinedShutdown := ?_ }
    · intro _
      exact ⟨hone, hcurrent⟩
    · intro hjoined
      have hexited := h.joinedShutdown hjoined
      rw [hexchange] at hexited
      cases hexited

theorem Started.shutdownThreadStep (h : state.Started)
    (hstep : state.shutdownThreadStep = some next) : next.Started := by
  unfold Lifecycle.shutdownThreadStep at hstep
  split at hstep
  · cases hstep
  · rename_i hphase
    split at hstep
    · cases hstep
      refine h.signal_moves ?_ ?_ ?_ rfl ?_ ?_ ?_
      all_goals simp [hphase, SignalPhase.servers]
      rw [← Bool.not_eq_true]
      intro hset
      exact absurd hphase (h.received hset).1
    · cases hstep
  · rename_i hphase
    cases hstep
    refine h.signal_moves ?_ ?_ ?_ rfl ?_ ?_ ?_
    all_goals simp [hphase, SignalPhase.servers]
  · rename_i hphase
    cases hstep
    refine h.signal_moves ?_ ?_ ?_ rfl ?_ ?_ ?_
    all_goals simp [hphase, SignalPhase.servers]
  · rename_i found hphase
    split at hstep
    · rename_i hset
      cases hstep
      refine h.signal_moves ?_ ?_ ?_ rfl ?_ ?_ (fun _ => hset)
      all_goals simp [hphase, SignalPhase.servers]
    · rename_i hunset
      cases hstep
      exact h.initiates (Bool.eq_false_of_not_eq_true hunset) (Or.inr ⟨rfl, rfl, found, hphase⟩)
  · rename_i phase hphase
    obtain ⟨⟨after, following⟩, hmove, rfl⟩ := Option.map_eq_some_iff.mp hstep
    obtain ⟨_, hservers⟩ := h.signal_shutting hphase
    exact h.signal_serves hphase (serversStep_moves hmove hservers h.publicServer)
  · cases hstep

theorem Started.fatalThreadStep (h : state.Started) (hstep : state.fatalThreadStep = some next) :
    next.Started := by
  unfold Lifecycle.fatalThreadStep at hstep
  split at hstep
  · cases hstep
  · rename_i hphase
    have hservers : state.fatalThread.servers = none := by rw [hphase]; rfl
    have hlives : state.fatalThread ≠ .ended := by rw [hphase]; simp
    split at hstep
    · cases hstep
      exact h.fatal_moves hservers hlives (by simp) rfl (by simp) (by simp)
    · rename_i hunset
      split at hstep
      · rename_i hstop
        cases hstep
        exact h.fatal_moves hservers hlives (by simp) rfl (by simp) (fun _ => Or.inr hstop)
      · rename_i hstop
        cases hstep
        refine h.fatal_moves hservers hlives (by simp) rfl ?_ (by simp)
        intro _
        exact ⟨fun hset => absurd hset hunset, fun hset => absurd hset hstop⟩
  · cases hstep
  · rename_i hphase
    split at hstep
    · rename_i hset
      cases hstep
      refine h.fatal_moves ?_ ?_ (by simp) rfl (by simp) (fun _ => Or.inl hset)
      · rw [hphase]
        rfl
      · simp [hphase]
    · rename_i hunset
      cases hstep
      exact h.initiates (Bool.eq_false_of_not_eq_true hunset) (Or.inl ⟨rfl, rfl, hphase⟩)
  · rename_i phase hphase
    obtain ⟨⟨after, following⟩, hmove, rfl⟩ := Option.map_eq_some_iff.mp hstep
    obtain ⟨_, _, hservers⟩ := h.fatal_shutting hphase
    exact h.fatal_serves hphase (serversStep_moves hmove hservers h.publicServer)
  · cases hstep

/-- `main` goes on after the public server has shut down. -/
theorem Started.main_moves (h : state.Started) {phase : MainPhase}
    (hended : state.publicShutdown = .ended) (hclosing : phase.closing = true)
    (hstopped : phase.stopped = state.main.stopped)
    (hasleep : state.main = .notify → phase = .notify ∨ state.fatalThread ≠ .asleep)
    (hsignalled : phase.signalled = true → state.shutdownThread = .sigwait →
      state.pending = true)
    (hadmin : 1 ≤ phase.joined → state.adminThread = .ended)
    (hshutdown : 2 ≤ phase.joined → state.shutdownThread = .ended)
    (hfatal : 3 ≤ phase.joined → state.fatalThread = .ended) :
    Started { state with main := phase } := by
  refine ⟨Or.inr hclosing, h.present, h.threads, h.publicServer, fun _ => hended, h.uninitiated,
    h.initiated, h.alone, h.adminThread, h.stopped.trans hstopped.symm, ?_, h.received,
    hsignalled, h.endedShutdown, h.endedFatal, hadmin, hshutdown, hfatal⟩
  intro hsleeps
  refine ⟨(h.asleep hsleeps).1, ?_⟩
  intro hstop
  have hnotify := hasleep ((h.asleep hsleeps).2 hstop)
  exact hnotify.resolve_right (fun hne => hne hsleeps)

theorem Started.waitPublic (h : state.Started) (hmain : state.main = .waitPublic)
    (hdown : state.publicServer = .down) : Started { state with main := .checkInitiated } := by
  have hended : state.publicShutdown = .ended := by
    have hpublic := h.publicServer
    rw [hdown] at hpublic
    generalize state.publicShutdown = phase at hpublic ⊢
    cases phase <;> simp [PublicSound] at hpublic ⊢
  apply h.main_moves hended
  all_goals
    simp [MainPhase.closing, MainPhase.stopped, MainPhase.signalled, MainPhase.joined, hmain]

theorem Started.storeStop (h : state.Started) (hmain : state.main = .storeStop) :
    Started { state with stopThreads := true, main := .notify } := by
  have hended := h.closing (by rw [hmain]; rfl)
  exact ⟨Or.inr rfl, h.present, h.threads, h.publicServer, fun _ => hended, h.uninitiated,
    h.initiated, h.alone, h.adminThread, rfl,
    fun hsleeps => ⟨(h.asleep hsleeps).1, fun _ => rfl⟩, h.received, nofun, h.endedShutdown,
    fun _ => Or.inr rfl, nofun, nofun, nofun⟩

theorem Started.kill (h : state.Started) (hmain : state.main = .kill) :
    Started { state with pending := true, main := .joinAdmin } := by
  have hended := h.closing (by rw [hmain]; rfl)
  have hstopped : state.stopThreads = true := by
    rw [h.stopped, hmain]
    rfl
  refine ⟨Or.inr rfl, h.present, h.threads, h.publicServer, fun _ => hended, h.uninitiated,
    h.initiated, h.alone, h.adminThread, hstopped, ?_, h.received, fun _ _ => rfl, h.endedShutdown,
    h.endedFatal, nofun, nofun, nofun⟩
  intro hsleeps
  have hnotify := (h.asleep hsleeps).2 hstopped
  rw [hmain] at hnotify
  cases hnotify

/-- `main` finds that the shutdown has been initiated: nothing else ends the public
server. -/
theorem Started.initiated_of_closing (h : state.Started) (hclosing : state.main.closing = true) :
    state.shutdownInitiated = true := by
  rw [← Bool.not_eq_false]
  intro hnot
  have habsent := (h.uninitiated hnot).2.2.1
  rw [h.closing hclosing] at habsent
  cases habsent

theorem Started.mainStep (h : state.Started) {started : Bool}
    (hstep : state.mainStep started = some next) : next.Started := by
  have hmain := h.main
  have hclosing := h.closing
  have hjoinedAdmin := h.joinedAdmin
  have hjoinedShutdown := h.joinedShutdown
  have hsignalled := h.signalled
  unfold Lifecycle.mainStep at hstep
  split at hstep
  all_goals
    rename_i hphase
    rw [hphase] at hmain hclosing hjoinedAdmin hjoinedShutdown hsignalled
  case h_6 =>
    split at hstep
    · cases hstep
      exact h.waitPublic hphase (by assumption)
    · cases hstep
  case h_7 =>
    cases hstep
    rw [if_pos (h.initiated_of_closing (by rw [hphase]; rfl))]
    exact h.main_moves (hclosing rfl) rfl (by rw [hphase]; rfl) (by simp [hphase]) nofun nofun
      nofun nofun
  case h_11 =>
    cases hstep
    exact h.storeStop hphase
  case h_12 =>
    cases hstep
    have hnotified := h.notifyAll
    have hkept : state.notifyAll.main = .notify ∧
        state.notifyAll.publicShutdown = state.publicShutdown := by
      unfold Lifecycle.notifyAll
      split <;> exact ⟨hphase, rfl⟩
    apply hnotified.main_moves (hkept.2.trans (hclosing rfl))
    all_goals simp [MainPhase.closing, MainPhase.stopped, MainPhase.signalled, MainPhase.joined,
      hkept.1, notifyAll_awake]
  case h_13 =>
    cases hstep
    split
    · rename_i hreceived
      apply h.main_moves (hclosing rfl)
      all_goals simp [MainPhase.closing, MainPhase.stopped, MainPhase.signalled, MainPhase.joined,
        hphase, h.received hreceived]
    · apply h.main_moves (hclosing rfl)
      all_goals simp [MainPhase.closing, MainPhase.stopped, MainPhase.signalled, MainPhase.joined,
        hphase]
  case h_14 =>
    cases hstep
    exact h.kill hphase
  case h_15 =>
    split at hstep
    · rename_i hended
      cases hstep
      exact h.main_moves (hclosing rfl) rfl (by rw [hphase]; rfl) (by simp [hphase])
        (fun _ => hsignalled rfl) (fun _ => hended) nofun nofun
    · cases hstep
  case h_16 =>
    split at hstep
    · rename_i hended
      cases hstep
      exact h.main_moves (hclosing rfl) rfl (by rw [hphase]; rfl) (by simp [hphase])
        (fun _ => hsignalled rfl) (fun _ => hjoinedAdmin le_rfl) (fun _ => hended) nofun
    · cases hstep
  case h_17 =>
    split at hstep
    · rename_i hended
      cases hstep
      exact h.main_moves (hclosing rfl) rfl (by rw [hphase]; rfl) (by simp [hphase])
        (fun _ => hsignalled rfl) (fun _ => hjoinedAdmin (by decide))
        (fun _ => hjoinedShutdown le_rfl) (fun _ => hended)
    · cases hstep
  case h_18 =>
    cases hstep
    exact h.main_moves (hclosing rfl) rfl (by rw [hphase]; rfl) (by simp [hphase])
      (fun _ => hsignalled rfl) (fun _ => hjoinedAdmin (by decide))
      (fun _ => hjoinedShutdown (by decide)) (fun _ => h.joinedFatal (by rw [hphase]; decide))
  all_goals
    simp [MainPhase.closing] at hmain hstep

/-- The threads neither begin nor end calls, and a server that they find down has none. -/
structure KeepsCalls (state next : Lifecycle) : Prop where
  calls : next.calls = state.calls
  streams : next.streams = state.streams
  adminCalls : next.adminCalls = state.adminCalls
  raiser : next.raiser = state.raiser
  drained : next.publicServer = .absent ∨ next.publicServer = .down →
    (state.publicServer = .absent ∨ state.publicServer = .down) ∨
      state.calls = 0 ∧ state.streams = 0
  adminDrained : next.adminServer = .absent ∨ next.adminServer = .down →
    (state.adminServer = .absent ∨ state.adminServer = .down) ∨ state.adminCalls = 0

/-- A step outside the handler leaves its phase and the flag alone. -/
def KeepsHandler (state next : Lifecycle) : Prop :=
  next.handler = state.handler ∧ next.fatalStorageError = state.fatalStorageError

/-- The calls in flight, the servers and the handler. -/
def callsView (state : Lifecycle) :
    (Nat × Nat × Nat) × (GrpcPhase × GrpcPhase) × Raiser × HandlerPhase × Bool :=
  ((state.calls, state.streams, state.adminCalls), (state.publicServer, state.adminServer),
    state.raiser, state.handler, state.fatalStorageError)

/-- A step that leaves all of them as they are. -/
theorem keeps_same (h : next.callsView = state.callsView) :
    KeepsCalls state next ∧ KeepsHandler state next := by
  simp only [callsView, Prod.mk.injEq] at h
  obtain ⟨⟨hcalls, hstreams, hadmin⟩, ⟨hpublicServer, hadminServer⟩, hraiser, hhandler⟩ := h
  refine ⟨⟨hcalls, hstreams, hadmin, hraiser, ?_, ?_⟩, hhandler⟩
  · rw [hpublicServer]
    exact Or.inl
  · rw [hadminServer]
    exact Or.inl

theorem serversStep_keeps {phase : ServersPhase} {after : Lifecycle}
    {following : Option ServersPhase}
    (hstep : state.serversStep phase = some (after, following)) :
    KeepsCalls state after ∧ KeepsHandler state after := by
  unfold serversStep at hstep
  cases phase with
  | stopSubscriptions =>
      cases hstep
      exact keeps_same rfl
  | startPublicShutdown =>
      cases hstep
      exact keeps_same rfl
  | shutdownAdmin =>
      cases hstep
      exact ⟨⟨rfl, rfl, rfl, rfl, Or.inl, by simp⟩, rfl, rfl⟩
  | awaitAdmin =>
      obtain ⟨hnone, hnext⟩ := Option.ite_none_right_eq_some.mp hstep
      cases hnext
      exact ⟨⟨rfl, rfl, rfl, rfl, Or.inl, fun _ => Or.inr hnone⟩, rfl, rfl⟩
  | joinPublicShutdown =>
      obtain ⟨_, hnext⟩ := Option.ite_none_right_eq_some.mp hstep
      cases hnext
      exact keeps_same rfl

theorem shutdownThreadStep_keeps (hstep : state.shutdownThreadStep = some next) :
    KeepsCalls state next ∧ KeepsHandler state next := by
  unfold Lifecycle.shutdownThreadStep at hstep
  generalize state.shutdownThread = phase at hstep
  cases phase with
  | absent => cases hstep
  | sigwait =>
      obtain ⟨_, hnext⟩ := Option.ite_none_right_eq_some.mp hstep
      cases hnext
      exact keeps_same rfl
  | storeReceived =>
      cases hstep
      exact keeps_same rfl
  | loadFatal =>
      cases hstep
      exact keeps_same rfl
  | exchange found =>
      dsimp only at hstep
      split at hstep
      · cases hstep
        exact keeps_same rfl
      · cases hstep
        exact keeps_same rfl
  | shutting phase =>
      obtain ⟨⟨after, following⟩, hmove, rfl⟩ := Option.map_eq_some_iff.mp hstep
      obtain ⟨hcalls, hhandler⟩ := serversStep_keeps hmove
      exact ⟨{ hcalls with }, hhandler⟩
  | ended => cases hstep

theorem fatalThreadStep_keeps (hstep : state.fatalThreadStep = some next) :
    KeepsCalls state next ∧ KeepsHandler state next := by
  unfold Lifecycle.fatalThreadStep at hstep
  generalize state.fatalThread = phase at hstep
  cases phase with
  | absent => cases hstep
  | check =>
      dsimp only at hstep
      split at hstep
      · cases hstep
        exact keeps_same rfl
      · split at hstep
        · cases hstep
          exact keeps_same rfl
        · cases hstep
          exact keeps_same rfl
  | asleep => cases hstep
  | exchange =>
      dsimp only at hstep
      split at hstep
      · cases hstep
        exact keeps_same rfl
      · cases hstep
        exact keeps_same rfl
  | shutting phase =>
      obtain ⟨⟨after, following⟩, hmove, rfl⟩ := Option.map_eq_some_iff.mp hstep
      obtain ⟨hcalls, hhandler⟩ := serversStep_keeps hmove
      exact ⟨{ hcalls with }, hhandler⟩
  | ended => cases hstep

theorem notifyAll_frame (state : Lifecycle) :
    state.notifyAll = { state with fatalThread := state.notifyAll.fatalThread } := by
  unfold notifyAll
  split <;> rfl

theorem mainStep_keeps {started : Bool} (hstep : state.mainStep started = some next) :
    KeepsCalls state next ∧ KeepsHandler state next := by
  unfold Lifecycle.mainStep at hstep
  generalize state.main = phase at hstep
  cases phase with
  | startAdmin =>
      dsimp only at hstep
      split at hstep
      · cases hstep
        exact ⟨⟨rfl, rfl, rfl, rfl, Or.inl, by simp⟩, rfl, rfl⟩
      · cases hstep
        exact keeps_same rfl
  | startPublic =>
      dsimp only at hstep
      split at hstep
      · cases hstep
        exact ⟨⟨rfl, rfl, rfl, rfl, by simp, Or.inl⟩, rfl, rfl⟩
      · cases hstep
        exact keeps_same rfl
  | abandonAdmin | shutdownAdmin =>
      cases hstep
      exact ⟨⟨rfl, rfl, rfl, rfl, Or.inl, by simp⟩, rfl, rfl⟩
  | awaitAbandoned | awaitAdmin =>
      obtain ⟨hnone, hnext⟩ := Option.ite_none_right_eq_some.mp hstep
      cases hnext
      exact ⟨⟨rfl, rfl, rfl, rfl, Or.inl, fun _ => Or.inr hnone⟩, rfl, rfl⟩
  | notify =>
      dsimp only at hstep
      rw [notifyAll_frame] at hstep
      cases hstep
      exact keeps_same rfl
  | waitPublic | joinAdmin | joinShutdown | joinFatal =>
      obtain ⟨_, hnext⟩ := Option.ite_none_right_eq_some.mp hstep
      cases hnext
      exact keeps_same rfl
  | exited code => cases hstep
  | checkConstructed | checkInitiated | stopSubscriptions | storeStop | checkReceived | kill
  | loadFatal =>
      cases hstep
      exact keeps_same rfl

theorem publicShutdownStep_keeps (hstep : state.publicShutdownStep = some next) :
    KeepsCalls state next ∧ KeepsHandler state next := by
  unfold Lifecycle.publicShutdownStep at hstep
  generalize state.publicShutdown = phase at hstep
  cases phase with
  | shutdown =>
      cases hstep
      exact ⟨⟨rfl, rfl, rfl, rfl, by simp, Or.inl⟩, rfl, rfl⟩
  | await =>
      obtain ⟨hnone, hnext⟩ := Option.ite_none_right_eq_some.mp hstep
      cases hnext
      exact ⟨⟨rfl, rfl, rfl, rfl, fun _ => Or.inr hnone, Or.inl⟩, rfl, rfl⟩
  | absent => cases hstep
  | ended => cases hstep

theorem adminThreadStep_keeps (hstep : state.adminThreadStep = some next) :
    KeepsCalls state next ∧ KeepsHandler state next := by
  obtain ⟨_, hnext⟩ := Option.ite_none_right_eq_some.mp hstep
  cases hnext
  exact keeps_same rfl

theorem handlerStep_keeps (hstep : state.handlerStep = some next) :
    KeepsCalls state next ∧
      ((state.handler = .store ∧ next.handler = .notify ∧ next.fatalStorageError = true) ∨
        (state.handler = .notify ∧ next.handler = .returned ∧
          next.fatalStorageError = state.fatalStorageError)) := by
  unfold Lifecycle.handlerStep at hstep
  cases hphase : state.handler with
  | idle =>
      rw [hphase] at hstep
      cases hstep
  | store =>
      rw [hphase] at hstep
      cases hstep
      exact ⟨⟨rfl, rfl, rfl, rfl, Or.inl, Or.inl⟩, Or.inl ⟨rfl, rfl, rfl⟩⟩
  | notify =>
      rw [hphase, notifyAll_frame] at hstep
      cases hstep
      exact ⟨⟨rfl, rfl, rfl, rfl, Or.inl, Or.inl⟩, Or.inr ⟨rfl, rfl, rfl⟩⟩
  | returned =>
      rw [hphase] at hstep
      cases hstep

theorem KeepsCalls.canRaise (h : KeepsCalls state next) (raiser : Raiser) :
    next.canRaise raiser = state.canRaise raiser := by
  cases raiser with
  | call => simp [Lifecycle.canRaise, h.calls]
  | stream => simp [Lifecycle.canRaise, h.streams]
  | admin => simp [Lifecycle.canRaise, h.adminCalls]
  | core => rfl

theorem CallsSound.keeps (h : state.CallsSound) (hcalls : KeepsCalls state next)
    (hraised : next.fatalStorageError = true ↔
      next.handler = .notify ∨ next.handler = .returned)
    (hhandler : next.handler = .store ∨ next.handler = .notify →
      state.handler = .store ∨ state.handler = .notify) : next.CallsSound := by
  refine ⟨hraised, ?_, ?_, ?_⟩
  · intro hbusy
    rw [hcalls.raiser, hcalls.canRaise]
    exact h.raiser (hhandler hbusy)
  · intro hserver
    rw [hcalls.calls, hcalls.streams]
    exact (hcalls.drained hserver).elim h.drained id
  · intro hserver
    rw [hcalls.adminCalls]
    exact (hcalls.adminDrained hserver).elim h.adminDrained id

theorem CallsSound.keepsHandler (h : state.CallsSound)
    (hkeeps : KeepsCalls state next ∧ KeepsHandler state next) : next.CallsSound := by
  obtain ⟨hcalls, hphase, hflag⟩ := hkeeps
  refine h.keeps hcalls ?_ ?_
  · rw [hphase, hflag]
    exact h.raised
  · rw [hphase]
    exact id

theorem CallsSound.threadStep (h : state.CallsSound) {started : Bool} {thread : LifecycleThread}
    (hstep : state.threadStep started thread = some next) : next.CallsSound := by
  cases thread with
  | main => exact h.keepsHandler (mainStep_keeps hstep)
  | adminThread => exact h.keepsHandler (adminThreadStep_keeps hstep)
  | shutdownThread => exact h.keepsHandler (shutdownThreadStep_keeps hstep)
  | fatalThread => exact h.keepsHandler (fatalThreadStep_keeps hstep)
  | publicShutdown => exact h.keepsHandler (publicShutdownStep_keeps hstep)
  | handler =>
      obtain ⟨hcalls, ⟨hstore, hnotify, hflag⟩ | ⟨hnotify, hreturned, hflag⟩⟩ :=
        handlerStep_keeps hstep
      · refine h.keeps hcalls ?_ (fun _ => Or.inl hstore)
        simp [hnotify, hflag]
      · have hset : state.fatalStorageError = true := h.raised.mpr (Or.inl hnotify)
        refine h.keeps hcalls ?_ (fun _ => Or.inr hnotify)
        simp [hreturned, hflag, hset]

/-! ### Before the threads are there -/

theorem Unstarted.frame (h : state.Unstarted) {calls streams adminCalls : Nat} {pending : Bool}
    {handler : HandlerPhase} {raiser : Raiser} {fatalStorageError : Bool} :
    Unstarted { state with
      calls, streams, adminCalls, pending, handler, raiser, fatalStorageError } :=
  ⟨h.main, h.threads, h.flags, h.server, h.unserved, h.served, h.abandoned,
    h.exited⟩

/-- `main` goes on before it has started the threads. -/
theorem Unstarted.main_moves (h : state.Unstarted) {phase : MainPhase} {admin : GrpcPhase}
    (hmain : phase.starting = true ∨ phase = .exited 1)
    (hunserved : phase = .checkConstructed ∨ phase = .startAdmin → admin = .absent)
    (hserved : phase = .startPublic ∨ phase = .abandonAdmin → admin = .serving)
    (habandoned : phase = .awaitAbandoned → admin = .draining)
    (hexited : phase = .exited 1 → admin = .absent ∨ admin = .down) :
    Unstarted { state with main := phase, adminServer := admin } :=
  ⟨hmain, h.threads, h.flags, h.server, hunserved, hserved, habandoned, hexited⟩

theorem Unstarted.checkConstructed (h : state.Unstarted) (hphase : state.main = .checkConstructed) :
    Unstarted { state with
      main := if state.fatalStorageError then .exited 1 else .startAdmin } := by
  have hadmin := h.unserved (Or.inl hphase)
  split
  · exact h.main_moves (Or.inr rfl) (by simp) (by simp) (by simp) (fun _ => Or.inl hadmin)
  · exact h.main_moves (Or.inl rfl) (fun _ => hadmin) (by simp) (by simp) (by simp)

/-- Both servers run: the threads start. -/
theorem Unstarted.starts (h : state.Unstarted) (hphase : state.main = .startPublic) :
    Started { state with
      publicServer := .serving
      adminThread := .wait
      shutdownThread := .sigwait
      fatalThread := .check
      main := .waitPublic } := by
  obtain ⟨_, _, hpublic⟩ := h.threads
  obtain ⟨hinitiated, hreceived, hstop, hlog⟩ := h.flags
  have hserved := h.served (Or.inl hphase)
  exact {
    main := Or.inl rfl
    present := by simp
    threads := ⟨by simp, by simp⟩
    publicServer := by
      dsimp only
      rw [hpublic]
      rfl
    closing := by simp [MainPhase.closing]
    uninitiated := fun _ => ⟨rfl, rfl, hpublic, hserved, hlog⟩
    initiated := fun hset => absurd (hinitiated.symm.trans hset) (by simp)
    alone := Or.inl rfl
    adminThread := by simp
    stopped := hstop
    asleep := by simp
    received := fun hset => absurd (hreceived.symm.trans hset) (by simp)
    signalled := by simp [MainPhase.signalled]
    endedShutdown := by simp
    endedFatal := by simp
    joinedAdmin := by simp [MainPhase.joined]
    joinedShutdown := by simp [MainPhase.joined]
    joinedFatal := by simp [MainPhase.joined] }

/-- `main` stays before the start of the threads, or starts them. -/
theorem Unstarted.mainStep (h : state.Unstarted) (habsent : state.adminThread = .absent)
    {started : Bool} (hstep : state.mainStep started = some next) :
    next.adminThread = .absent ∧ next.Unstarted ∨ next.Started := by
  have hmain := h.main
  unfold Lifecycle.mainStep at hstep
  cases hphase : state.main with
  | checkConstructed =>
      rw [hphase] at hstep
      cases hstep
      exact Or.inl ⟨habsent, h.checkConstructed hphase⟩
  | startAdmin =>
      rw [hphase] at hstep
      dsimp only at hstep
      split at hstep
      · cases hstep
        exact Or.inl ⟨habsent, h.main_moves (Or.inl rfl) (by simp) (fun _ => rfl) (by simp)
          (by simp)⟩
      · cases hstep
        exact Or.inl ⟨habsent, h.main_moves (Or.inr rfl) (by simp) (by simp) (by simp)
          (fun _ => Or.inl (h.unserved (Or.inr hphase)))⟩
  | startPublic =>
      rw [hphase] at hstep
      dsimp only at hstep
      split at hstep
      · cases hstep
        exact Or.inr (h.starts hphase)
      · cases hstep
        exact Or.inl ⟨habsent, h.main_moves (Or.inl rfl) (by simp)
          (fun _ => h.served (Or.inl hphase)) (by simp) (by simp)⟩
  | abandonAdmin =>
      rw [hphase] at hstep
      cases hstep
      exact Or.inl ⟨habsent, h.main_moves (Or.inl rfl) (by simp) (by simp) (fun _ => rfl)
        (by simp)⟩
  | awaitAbandoned =>
      rw [hphase] at hstep
      obtain ⟨_, hnext⟩ := Option.ite_none_right_eq_some.mp hstep
      cases hnext
      exact Or.inl ⟨habsent, h.main_moves (Or.inr rfl) (by simp) (by simp) (by simp)
        (fun _ => Or.inr rfl)⟩
  | exited code =>
      rw [hphase] at hstep
      cases hstep
  | _ =>
      rw [hphase] at hmain
      simp [MainPhase.starting] at hmain

theorem Unstarted.handlerStep (h : state.Unstarted) (hstep : state.handlerStep = some next) :
    next.adminThread = state.adminThread ∧ next.Unstarted := by
  have hawake : state.notifyAll = state := by
    unfold notifyAll
    rw [h.threads.2.1]
    rfl
  unfold Lifecycle.handlerStep at hstep
  rw [hawake] at hstep
  split at hstep
  · cases hstep
    exact ⟨rfl, ⟨h.main, h.threads, h.flags, h.server, h.unserved, h.served, h.abandoned,
    h.exited⟩⟩
  · cases hstep
    exact ⟨rfl, ⟨h.main, h.threads, h.flags, h.server, h.unserved, h.served, h.abandoned,
    h.exited⟩⟩
  · cases hstep

/-- The other threads are not there yet. -/
theorem Unstarted.threadStep (h : state.Unstarted) (habsent : state.adminThread = .absent)
    {started : Bool} {thread : LifecycleThread}
    (hstep : state.threadStep started thread = some next) :
    next.adminThread = .absent ∧ next.Unstarted ∨ next.Started := by
  cases thread with
  | main => exact h.mainStep habsent hstep
  | handler =>
      obtain ⟨hsame, hnext⟩ := h.handlerStep hstep
      exact Or.inl ⟨hsame.trans habsent, hnext⟩
  | adminThread => simp [Lifecycle.threadStep, adminThreadStep, habsent] at hstep
  | shutdownThread =>
      simp [Lifecycle.threadStep, shutdownThreadStep, h.threads.1] at hstep
  | fatalThread => simp [Lifecycle.threadStep, fatalThreadStep, h.threads.2.1] at hstep
  | publicShutdown =>
      simp [Lifecycle.threadStep, publicShutdownStep, h.threads.2.2] at hstep

/-! ### Every step -/

theorem Started.threadStep (h : state.Started) {started : Bool} {thread : LifecycleThread}
    (hstep : state.threadStep started thread = some next) : next.Started := by
  cases thread with
  | main => exact h.mainStep hstep
  | adminThread => exact h.adminThreadStep hstep
  | shutdownThread => exact h.shutdownThreadStep hstep
  | fatalThread => exact h.fatalThreadStep hstep
  | publicShutdown => exact h.publicShutdownStep hstep
  | handler => exact h.handlerStep hstep

theorem Sound.threadStep (h : state.Sound) {started : Bool} {thread : LifecycleThread}
    (hstep : state.threadStep started thread = some next) : next.Sound := by
  refine ⟨h.calls.threadStep hstep, ?_⟩
  obtain ⟨habsent, hunstarted⟩ | hstarted := h.phase
  · exact hunstarted.threadStep habsent hstep
  · exact Or.inr (hstarted.threadStep hstep)

/-- A call in which the handler runs is in flight. -/
theorem CallsSound.handling_le (h : state.CallsSound) : state.handling .call ≤ state.calls ∧
    state.handling .stream ≤ state.streams ∧ state.handling .admin ≤ state.adminCalls := by
  have hraiser := h.raiser
  unfold handling
  refine ⟨?_, ?_, ?_⟩
  all_goals
    split
    · rename_i hbusy
      have hcan := hraiser hbusy.1
      rw [hbusy.2] at hcan
      exact of_decide_eq_true hcan
    · omega

/-- Calls begin or end, and nothing else changes. -/
theorem Sound.setCalls (h : state.Sound) {calls streams adminCalls : Nat}
    (hcall : state.handling .call ≤ calls) (hstream : state.handling .stream ≤ streams)
    (hadmin : state.handling .admin ≤ adminCalls)
    (hdrained : state.publicServer = .absent ∨ state.publicServer = .down →
      calls = 0 ∧ streams = 0)
    (hadminDrained : state.adminServer = .absent ∨ state.adminServer = .down → adminCalls = 0) :
    Sound { state with calls, streams, adminCalls } := by
  refine ⟨⟨h.calls.raised, ?_, hdrained, hadminDrained⟩, ?_⟩
  · intro hbusy
    dsimp only at hbusy ⊢
    have hhandling (raiser : Raiser) (heq : state.raiser = raiser) : state.handling raiser = 1 :=
      if_pos ⟨hbusy, heq⟩
    cases heq : state.raiser with
    | call => exact decide_eq_true ((hhandling _ heq).ge.trans hcall)
    | stream => exact decide_eq_true ((hhandling _ heq).ge.trans hstream)
    | admin => exact decide_eq_true ((hhandling _ heq).ge.trans hadmin)
    | core => rfl
  · obtain ⟨habsent, hunstarted⟩ | hstarted := h.phase
    · exact Or.inl ⟨habsent, hunstarted.frame⟩
    · exact Or.inr (hstarted.frame calls streams adminCalls)

theorem Started.raise (h : state.Started) (hunset : state.fatalStorageError = false)
    (raiser : Raiser) : Started { state with handler := .store, raiser } := by
  refine { h with asleep := ?_ }
  intro hsleeps
  exact ⟨fun hset => absurd (hunset.symm.trans hset) (by simp), (h.asleep hsleeps).2⟩

theorem Sound.raise (h : state.Sound) (hidle : state.handler = .idle) {raiser : Raiser}
    (hcan : state.canRaise raiser = true) : Sound { state with handler := .store, raiser } := by
  have hunset : state.fatalStorageError = false := by
    rw [← Bool.not_eq_true, h.calls.raised, hidle]
    simp
  refine ⟨⟨?_, fun _ => hcan, h.calls.drained, h.calls.adminDrained⟩, ?_⟩
  · simp [hunset]
  · obtain ⟨habsent, hunstarted⟩ | hstarted := h.phase
    · exact Or.inl ⟨habsent, hunstarted.frame⟩
    · exact Or.inr (hstarted.raise hunset raiser)

theorem Sound.signal (h : state.Sound) : Sound { state with pending := true } := by
  refine ⟨⟨h.calls.raised, h.calls.raiser, h.calls.drained, h.calls.adminDrained⟩, ?_⟩
  obtain ⟨habsent, hunstarted⟩ | hstarted := h.phase
  · exact Or.inl ⟨habsent, hunstarted.frame⟩
  · exact Or.inr { hstarted with signalled := fun _ _ => rfl }

theorem Sound.step (h : state.Sound) {action : LifecycleAction} (hstep : state.Step action next) :
    next.Sound := by
  obtain ⟨hcall, hstream, hadmin⟩ := h.calls.handling_le
  have hdrained := h.calls.drained
  have hadminDrained := h.calls.adminDrained
  cases action with
  | thread thread started => exact h.threadStep hstep
  | signal =>
      cases hstep
      exact h.signal
  | beginCall =>
      obtain ⟨hserving, hnext⟩ := Option.ite_none_right_eq_some.mp hstep
      cases hnext
      exact h.setCalls (by omega) hstream hadmin (by simp [hserving]) hadminDrained
  | endCall =>
      obtain ⟨hsome, hnext⟩ := Option.ite_none_right_eq_some.mp hstep
      cases hnext
      refine h.setCalls (by omega) hstream hadmin ?_ hadminDrained
      intro hserver
      have hnone := hdrained hserver
      omega
  | register =>
      obtain ⟨⟨hsome, _⟩, hnext⟩ := Option.ite_none_right_eq_some.mp hstep
      cases hnext
      refine h.setCalls (by omega) (by omega) hadmin ?_ hadminDrained
      intro hserver
      have hnone := hdrained hserver
      omega
  | endStream =>
      obtain ⟨hsome, hnext⟩ := Option.ite_none_right_eq_some.mp hstep
      cases hnext
      refine h.setCalls hcall (by omega) hadmin ?_ hadminDrained
      intro hserver
      have hnone := hdrained hserver
      omega
  | beginAdminCall =>
      obtain ⟨hserving, hnext⟩ := Option.ite_none_right_eq_some.mp hstep
      cases hnext
      exact h.setCalls hcall hstream (by omega) hdrained (by simp [hserving])
  | endAdminCall =>
      obtain ⟨hsome, hnext⟩ := Option.ite_none_right_eq_some.mp hstep
      cases hnext
      refine h.setCalls hcall hstream (by omega) hdrained ?_
      intro hserver
      have hnone := hadminDrained hserver
      omega
  | raise raiser =>
      obtain ⟨⟨hidle, hcan⟩, hnext⟩ := Option.ite_none_right_eq_some.mp hstep
      cases hnext
      exact h.raise hidle hcan

theorem Reachable.sound (h : state.Reachable) : state.Sound := by
  obtain ⟨actions, hrun⟩ := h
  exact hrun.invariant sound_initial (fun _ _ _ hs hstep => hs.step hstep)

end Lifecycle

end OpenEvent
