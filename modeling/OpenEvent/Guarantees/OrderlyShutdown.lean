import OpenEvent.ShutdownInvariant

/-!
The shutdown of the process over every interleaving of its threads with signals, calls and
fatal storage errors: it happens once, no thread is left behind, and the exit code tells of
every fatal error that a call reported.
-/

namespace OpenEvent

namespace Lifecycle

variable {state next : Lifecycle}

/-! ### The exit -/

/-- Nothing is left in flight when `main` returns. -/
theorem Sound.exited_idle (h : state.Sound) {code : Nat} (hexited : state.main = .exited code) :
    state.calls = 0 ∧ state.streams = 0 ∧ state.adminCalls = 0 := by
  obtain ⟨_, hunstarted⟩ | hstarted := h.phase
  · obtain ⟨hcalls, hstreams⟩ := h.calls.drained (Or.inl hunstarted.server)
    have hcode : state.main = .exited 1 := by
      obtain hstarting | hcode := hunstarted.main
      · rw [hexited] at hstarting
        cases hstarting
      · exact hcode
    exact ⟨hcalls, hstreams, h.calls.adminDrained (hunstarted.exited hcode)⟩
  · have hended := hstarted.closing (by rw [hexited]; rfl)
    have hpublic := hstarted.publicServer
    rw [hended] at hpublic
    obtain ⟨hcalls, hstreams⟩ := h.calls.drained (Or.inr hpublic.1)
    have hjoined := hstarted.joinedAdmin (by rw [hexited]; exact Nat.le_add_left 1 2)
    have hadmin := hstarted.adminThread hjoined
    exact ⟨hcalls, hstreams, h.calls.adminDrained (Or.inr hadmin)⟩

/-- With no calls in flight, only the core itself is left to raise an error. -/
theorem raiser_core (hcalls : state.calls = 0) (hstreams : state.streams = 0)
    (hadmin : state.adminCalls = 0) {raiser : Raiser} (hcan : state.canRaise raiser = true) :
    raiser = .core := by
  cases raiser with
  | call => simp [canRaise, hcalls] at hcan
  | stream => simp [canRaise, hstreams] at hcan
  | admin => simp [canRaise, hadmin] at hcan
  | core => rfl

/-- `main` returns 1 if it does so early, and otherwise what the flag says. -/
theorem mainStep_exits {started : Bool} {code : Nat} (hstep : state.mainStep started = some next)
    (hexited : next.main = .exited code) :
    code = 1 ∨ state.main = .loadFatal ∧ code = if state.fatalStorageError then 1 else 0 := by
  unfold Lifecycle.mainStep notifyAll at hstep
  grind

theorem serversStep_main {phase : ServersPhase} {following : Option ServersPhase}
    (hstep : state.serversStep phase = some (next, following)) : next.main = state.main := by
  unfold serversStep at hstep
  grind

/-- The other threads leave `main` where it is. -/
theorem threadStep_main {started : Bool} {thread : LifecycleThread}
    (hstep : state.threadStep started thread = some next) (hthread : thread ≠ .main) :
    next.main = state.main := by
  cases thread with
  | main => exact absurd rfl hthread
  | adminThread =>
      obtain ⟨_, hnext⟩ := Option.ite_none_right_eq_some.mp hstep
      cases hnext
      rfl
  | shutdownThread =>
      have hstep : state.shutdownThreadStep = some next := hstep
      unfold shutdownThreadStep at hstep
      split at hstep
      case h_6 =>
        obtain ⟨⟨after, following⟩, hmove, rfl⟩ := Option.map_eq_some_iff.mp hstep
        have hmain := serversStep_main hmove
        exact hmain
      all_goals grind [initiate]
  | fatalThread =>
      have hstep : state.fatalThreadStep = some next := hstep
      unfold fatalThreadStep at hstep
      split at hstep
      case h_5 =>
        obtain ⟨⟨after, following⟩, hmove, rfl⟩ := Option.map_eq_some_iff.mp hstep
        have hmain := serversStep_main hmove
        exact hmain
      all_goals grind [initiate]
  | publicShutdown =>
      have hstep : state.publicShutdownStep = some next := hstep
      unfold publicShutdownStep at hstep
      grind
  | handler =>
      have hstep : state.handlerStep = some next := hstep
      unfold handlerStep notifyAll at hstep
      grind

/-- What does not come from a thread changes neither the flag nor `main`. -/
theorem step_outside {action : LifecycleAction} (hstep : state.Step action next)
    (haction : ∀ thread started, action ≠ .thread thread started) :
    next.main = state.main ∧ next.fatalStorageError = state.fatalStorageError := by
  cases action with
  | thread thread started => exact absurd rfl (haction thread started)
  | signal =>
      cases hstep
      exact ⟨rfl, rfl⟩
  | beginCall =>
      obtain ⟨_, hnext⟩ := Option.ite_none_right_eq_some.mp hstep
      cases hnext
      exact ⟨rfl, rfl⟩
  | endCall =>
      obtain ⟨_, hnext⟩ := Option.ite_none_right_eq_some.mp hstep
      cases hnext
      exact ⟨rfl, rfl⟩
  | register =>
      obtain ⟨_, hnext⟩ := Option.ite_none_right_eq_some.mp hstep
      cases hnext
      exact ⟨rfl, rfl⟩
  | endStream =>
      obtain ⟨_, hnext⟩ := Option.ite_none_right_eq_some.mp hstep
      cases hnext
      exact ⟨rfl, rfl⟩
  | beginAdminCall =>
      obtain ⟨_, hnext⟩ := Option.ite_none_right_eq_some.mp hstep
      cases hnext
      exact ⟨rfl, rfl⟩
  | endAdminCall =>
      obtain ⟨_, hnext⟩ := Option.ite_none_right_eq_some.mp hstep
      cases hnext
      exact ⟨rfl, rfl⟩
  | raise raiser =>
      obtain ⟨_, hnext⟩ := Option.ite_none_right_eq_some.mp hstep
      cases hnext
      exact ⟨rfl, rfl⟩

/-- No step clears the flag. -/
theorem Sound.flag_stays (h : state.Sound) {action : LifecycleAction}
    (hstep : state.Step action next) (hflag : state.fatalStorageError = true) :
    next.fatalStorageError = true := by
  have hnext := (h.step hstep).calls.raised
  cases action with
  | thread thread started =>
      have hkeeps (hkept : KeepsCalls state next ∧ KeepsHandler state next) :
          next.fatalStorageError = true := hkept.2.2.trans hflag
      cases thread with
      | main => exact hkeeps (mainStep_keeps hstep)
      | adminThread => exact hkeeps (adminThreadStep_keeps hstep)
      | shutdownThread => exact hkeeps (shutdownThreadStep_keeps hstep)
      | fatalThread => exact hkeeps (fatalThreadStep_keeps hstep)
      | publicShutdown => exact hkeeps (publicShutdownStep_keeps hstep)
      | handler =>
          obtain ⟨_, ⟨_, _, hset⟩ | ⟨_, _, hset⟩⟩ := handlerStep_keeps hstep
          · exact hset
          · exact hset.trans hflag
  | _ => exact ((step_outside hstep (by intro _ _; nofun)).2).trans hflag

/-- After an exit with 0, an error can have been raised by the core alone. -/
def Quiet (state : Lifecycle) : Prop :=
  state.main = .exited 0 → state.handler = .idle ∨ state.raiser = .core

/-- The handler returns in a step of its own, and `raiser` stays until then. -/
theorem step_returned {action : LifecycleAction} (hstep : state.Step action next)
    (hreturned : next.handler = .returned) :
    next.raiser = state.raiser ∧ (state.handler = .notify ∨ state.handler = .returned) := by
  have hkeeps (hkept : KeepsCalls state next ∧ KeepsHandler state next) :
      next.raiser = state.raiser ∧ (state.handler = .notify ∨ state.handler = .returned) :=
    ⟨hkept.1.raiser, Or.inr (hkept.2.1.symm.trans hreturned)⟩
  cases action with
  | thread thread started =>
      cases thread with
      | main => exact hkeeps (mainStep_keeps hstep)
      | adminThread => exact hkeeps (adminThreadStep_keeps hstep)
      | shutdownThread => exact hkeeps (shutdownThreadStep_keeps hstep)
      | fatalThread => exact hkeeps (fatalThreadStep_keeps hstep)
      | publicShutdown => exact hkeeps (publicShutdownStep_keeps hstep)
      | handler =>
          obtain ⟨hcalls, ⟨_, hnotify, _⟩ | ⟨hnotify, _, _⟩⟩ := handlerStep_keeps hstep
          · rw [hreturned] at hnotify
            cases hnotify
          · exact ⟨hcalls.raiser, Or.inl hnotify⟩
  | signal =>
      cases hstep
      exact ⟨rfl, Or.inr hreturned⟩
  | raise raiser =>
      obtain ⟨_, hnext⟩ := Option.ite_none_right_eq_some.mp hstep
      cases hnext
      cases hreturned
  | _ =>
      obtain ⟨_, hnext⟩ := Option.ite_none_right_eq_some.mp hstep
      cases hnext
      exact ⟨rfl, Or.inr hreturned⟩

theorem Sound.quiet_step (h : state.Sound) (hquiet : state.Quiet) {action : LifecycleAction}
    (hstep : state.Step action next) : next.Quiet := by
  intro hexited
  have hnext := h.step hstep
  obtain ⟨hcalls, hstreams, hadmin⟩ := hnext.exited_idle hexited
  have hbusy (hhandler : next.handler = .store ∨ next.handler = .notify) : next.raiser = .core :=
    raiser_core hcalls hstreams hadmin (hnext.calls.raiser hhandler)
  cases hhandler : next.handler with
  | idle => exact Or.inl rfl
  | store => exact Or.inr (hbusy (Or.inl hhandler))
  | notify => exact Or.inr (hbusy (Or.inr hhandler))
  | returned =>
      obtain ⟨hraiser, hbefore⟩ := step_returned hstep hhandler
      have hset : state.fatalStorageError = true := h.calls.raised.mpr hbefore
      have hmain : state.main = .exited 0 := by
        cases action with
        | thread thread started =>
            by_cases hthread : thread = .main
            · -- `main` would have seen the flag
              subst hthread
              obtain hcode | ⟨_, hcode⟩ := mainStep_exits hstep hexited
              · cases hcode
              · rw [if_pos hset] at hcode
                cases hcode
            · rw [← threadStep_main hstep hthread]
              exact hexited
        | _ => exact ((step_outside hstep (by intro _ _; nofun)).1).symm.trans hexited
      rw [hraiser]
      obtain hidle | hcore := hquiet hmain
      · rw [hidle] at hbefore
        simp at hbefore
      · exact Or.inr hcore

theorem Reachable.quiet (h : state.Reachable) : state.Quiet := by
  obtain ⟨actions, hrun⟩ := h
  have hall : state.Sound ∧ state.Quiet := by
    refine hrun.invariant (P := fun later => later.Sound ∧ later.Quiet)
      ⟨sound_initial, fun hexited => nomatch hexited⟩ ?_
    intro before action after ⟨hsound, hquiet⟩ hstep
    exact ⟨hsound.step hstep, hsound.quiet_step hquiet hstep⟩
  exact hall.2

/-- A signal, a fatal error, or a shutdown under way. -/
def Triggered (state : Lifecycle) : Prop :=
  state.fatalStorageError = true ∨ state.pending = true ∨ state.signalReceived = true ∨
    state.shutdownInitiated = true

/-- A thread can go on, or a server that refuses new calls waits for one that can end. The
streams have then been told to stop, or there is no public server to have any. -/
def CanGoOn (state : Lifecycle) : Prop :=
  (∃ thread next, state.Step (.thread thread true) next) ∨
    (state.publicServer = .draining ∧ state.stopping = true ∧
      ∃ next, state.Step .endCall next ∨ state.Step .endStream next) ∨
    (state.adminServer = .draining ∧ (state.stopping = true ∨ state.publicServer = .absent) ∧
      ∃ next, state.Step .endAdminCall next)

/-- A thread of the process cannot move. -/
def Blocked (state : Lifecycle) (thread : LifecycleThread) : Prop :=
  state.threadStep true thread = none

theorem canGoOn_of_not_blocked {thread : LifecycleThread} (h : ¬ state.Blocked thread) :
    state.CanGoOn := by
  obtain ⟨next, hnext⟩ := Option.ne_none_iff_exists'.mp h
  exact Or.inl ⟨thread, next, hnext⟩

/-- While the handler does not run, every call can end. -/
theorem handling_idle (hidle : state.Blocked .handler) (raiser : Raiser) :
    state.handling raiser = 0 := by
  have hidle : state.handlerStep = none := hidle
  unfold handlerStep at hidle
  unfold handling
  rw [if_neg]
  rintro ⟨hstore | hnotify, _⟩
  · rw [hstore] at hidle
    cases hidle
  · rw [hnotify] at hidle
    cases hidle

theorem canGoOn_admin (hidle : state.Blocked .handler) (hdraining : state.adminServer = .draining)
    (hstreams : state.stopping = true ∨ state.publicServer = .absent)
    (hcalls : state.adminCalls ≠ 0) : state.CanGoOn := by
  refine Or.inr (Or.inr ⟨hdraining, hstreams, ?_⟩)
  refine ⟨{ state with adminCalls := state.adminCalls - 1 }, ?_⟩
  exact if_pos (by rw [handling_idle hidle]; omega)

theorem canGoOn_public (hidle : state.Blocked .handler) (hdraining : state.publicServer = .draining)
    (hstopping : state.stopping = true) (hcalls : ¬ (state.calls = 0 ∧ state.streams = 0)) :
    state.CanGoOn := by
  refine Or.inr (Or.inl ⟨hdraining, hstopping, ?_⟩)
  by_cases hnone : state.calls = 0
  · refine ⟨{ state with streams := state.streams - 1 }, Or.inr (if_pos ?_)⟩
    rw [handling_idle hidle]
    omega
  · refine ⟨{ state with calls := state.calls - 1 }, Or.inl (if_pos ?_)⟩
    rw [handling_idle hidle]
    omega

theorem Unstarted.canGoOn (h : state.Unstarted) (hidle : state.Blocked .handler)
    (hrunning : ∀ code, state.main ≠ .exited code) : state.CanGoOn := by
  by_cases hblocked : state.Blocked .main
  · have hblocked : state.mainStep true = none := hblocked
    have hwaits : state.main = .awaitAbandoned ∧ state.adminCalls ≠ 0 := by
      have hmain := h.main
      unfold Lifecycle.mainStep at hblocked
      grind [MainPhase.starting]
    exact canGoOn_admin hidle (h.abandoned hwaits.1) (Or.inr h.server) hwaits.2
  · exact canGoOn_of_not_blocked hblocked

/-- Where `shutdown_servers` waits: for an admin call, or for the public server. -/
theorem serversStep_blocked {phase : ServersPhase} (h : state.serversStep phase = none) :
    phase = .awaitAdmin ∧ state.adminCalls ≠ 0 ∨
      phase = .joinPublicShutdown ∧ state.publicShutdown ≠ .ended := by
  unfold serversStep at h
  grind

theorem shutdownThread_blocked (h : state.Blocked .shutdownThread) :
    state.shutdownThread = .absent ∨ state.shutdownThread = .ended ∨
      state.shutdownThread = .sigwait ∧ state.pending = false ∨
      ∃ phase, state.shutdownThread.servers = some phase ∧ state.serversStep phase = none := by
  have h : state.shutdownThreadStep = none := h
  unfold shutdownThreadStep at h
  split at h
  case h_6 phase hphase =>
    exact Or.inr (Or.inr (Or.inr ⟨phase, by rw [hphase]; rfl, Option.map_eq_none_iff.mp h⟩))
  all_goals grind

theorem fatalThread_blocked (h : state.Blocked .fatalThread) :
    state.fatalThread = .absent ∨ state.fatalThread = .ended ∨ state.fatalThread = .asleep ∨
      ∃ phase, state.fatalThread.servers = some phase ∧ state.serversStep phase = none := by
  have h : state.fatalThreadStep = none := h
  unfold fatalThreadStep at h
  split at h
  case h_5 phase hphase =>
    exact Or.inr (Or.inr (Or.inr ⟨phase, by rw [hphase]; rfl, Option.map_eq_none_iff.mp h⟩))
  all_goals grind

theorem publicShutdown_blocked (h : state.Blocked .publicShutdown) :
    state.publicShutdown = .absent ∨ state.publicShutdown = .ended ∨
      state.publicShutdown = .await ∧ ¬ (state.calls = 0 ∧ state.streams = 0) := by
  have h : state.publicShutdownStep = none := h
  unfold publicShutdownStep at h
  cases hphase : state.publicShutdown with
  | absent => exact Or.inl rfl
  | shutdown =>
      rw [hphase] at h
      cases h
  | await =>
      rw [hphase] at h
      refine Or.inr (Or.inr ⟨rfl, ?_⟩)
      intro hnone
      dsimp only at h
      rw [if_pos hnone] at h
      cases h
  | ended => exact Or.inr (Or.inl rfl)

/-- Where `main` waits once both servers run. -/
theorem Started.main_blocked (h : state.Started) (hblocked : state.Blocked .main) :
    (∃ code, state.main = .exited code) ∨
      state.main = .waitPublic ∧ state.publicServer ≠ .down ∨
      state.main = .joinAdmin ∧ state.adminThread ≠ .ended ∨
      state.main = .joinShutdown ∧ state.shutdownThread ≠ .ended ∨
      state.main = .joinFatal ∧ state.fatalThread ≠ .ended := by
  have hblocked : state.mainStep true = none := hblocked
  have hmain := h.main
  unfold Lifecycle.mainStep at hblocked
  grind [MainPhase.closing]

/-- An execution of `shutdown_servers` waits only for calls that can end. -/
theorem Started.canGoOn_shutting (h : state.Started) (hidle : state.Blocked .handler)
    (hpublic : state.Blocked .publicShutdown) {phase : ServersPhase}
    (hservers : ServersSound state.publicShutdown state.adminServer state.stopping (some phase))
    (hblocked : state.serversStep phase = none) : state.CanGoOn := by
  obtain ⟨rfl, hcalls⟩ | ⟨rfl, hrunning⟩ := serversStep_blocked hblocked
  · have hstopping := h.publicServer.stopping hservers.1
    exact canGoOn_admin hidle hservers.2 (Or.inl hstopping) hcalls
  · obtain habsent | hended | ⟨hawait, hcalls⟩ := publicShutdown_blocked hpublic
    · exact absurd habsent hservers.1
    · exact absurd hended hrunning
    · have hdraining := h.publicServer
      rw [hawait] at hdraining
      exact canGoOn_public hidle hdraining.1 hdraining.2 hcalls

/-- With the servers down, `main` has no thread to wait for. -/
theorem Started.main_not_blocked (h : state.Started) (hset : state.shutdownInitiated = true)
    (hrunning : ∀ code, state.main ≠ .exited code)
    (hservers : state.shutdownThread.servers = none ∧ state.fatalThread.servers = none)
    (hsignal : state.shutdownThread = .ended ∨
      state.shutdownThread = .sigwait ∧ state.pending = false)
    (hfatal : state.fatalThread = .ended ∨ state.fatalThread = .asleep)
    (hadmin : state.Blocked .adminThread) : ¬ state.Blocked .main := by
  intro hblocked
  obtain ⟨hended, hdown⟩ : state.publicShutdown = .ended ∧ state.adminServer = .down := by
    have hcurrent := (h.initiated hset).2
    rw [hservers.1, hservers.2] at hcurrent
    exact hcurrent
  obtain ⟨code, hexited⟩ | ⟨_, hpublic⟩ | ⟨_, hthread⟩ | ⟨hmain, hthread⟩ | ⟨hmain, hthread⟩ :=
    h.main_blocked hblocked
  · exact hrunning code hexited
  · have hsound := h.publicServer
    rw [hended] at hsound
    exact hpublic hsound.1
  · have hwait : state.adminThread = .wait := by
      cases hphase : state.adminThread with
      | absent => exact absurd hphase h.present
      | wait => rfl
      | ended => exact absurd hphase hthread
    have hnone : state.adminThreadStep = none := hadmin
    rw [Lifecycle.adminThreadStep, if_pos ⟨hwait, hdown⟩] at hnone
    cases hnone
  · obtain hdone | ⟨hwaits, hpending⟩ := hsignal
    · exact hthread hdone
    · rw [h.signalled (by rw [hmain]; rfl) hwaits] at hpending
      cases hpending
  · obtain hdone | hasleep := hfatal
    · exact hthread hdone
    · have hnotify := (h.asleep hasleep).2 (by rw [h.stopped, hmain]; rfl)
      rw [hmain] at hnotify
      cases hnotify

/-- Without a shutdown under way, a thread that waits has not been triggered. -/
theorem Started.not_triggered (h : state.Started) (hidle : state.Blocked .handler)
    (hset : state.shutdownInitiated = false)
    (hsignal : state.shutdownThread = .ended ∨
      state.shutdownThread = .sigwait ∧ state.pending = false)
    (hfatal : state.fatalThread = .ended ∨ state.fatalThread = .asleep) :
    ¬ state.Triggered := by
  have hnotEnded : state.shutdownThread ≠ .ended := by
    intro hended
    rw [h.endedShutdown hended] at hset
    cases hset
  obtain ⟨hwaits, hpending⟩ := hsignal.resolve_left hnotEnded
  have hstop : state.stopThreads = false := by
    rw [h.stopped, ← Bool.not_eq_true]
    intro hstopped
    have hclosing : state.main.closing = true := by
      generalize state.main = phase at hstopped
      cases phase <;> simp [MainPhase.stopped, MainPhase.closing] at hstopped ⊢
    rw [h.initiated_of_closing hclosing] at hset
    cases hset
  rintro (hflag | hsome | hreceived | hinitiated)
  · obtain hended | hasleep := hfatal
    · obtain hdone | hstopped := h.endedFatal hended
      · rw [hdone] at hset
        cases hset
      · rw [hstopped] at hstop
        cases hstop
    · -- the handler still has to notify
      have hnotify := (h.asleep hasleep).1 hflag
      have hnone : state.handlerStep = none := hidle
      rw [Lifecycle.handlerStep, hnotify] at hnone
      cases hnone
  · rw [hsome] at hpending
    cases hpending
  · exact (h.received hreceived).1 hwaits
  · rw [hinitiated] at hset
    cases hset

theorem Started.canGoOn (h : state.Started) (hidle : state.Blocked .handler)
    (htriggered : state.Triggered) (hrunning : ∀ code, state.main ≠ .exited code) :
    state.CanGoOn := by
  by_contra hstuck
  have hblocked (thread : LifecycleThread) : state.Blocked thread := by
    by_contra hmoves
    exact hstuck (canGoOn_of_not_blocked hmoves)
  have hsignal := (shutdownThread_blocked (hblocked .shutdownThread)).resolve_left h.threads.1
  have hfatal := (fatalThread_blocked (hblocked .fatalThread)).resolve_left h.threads.2
  have hshutting {phase : ServersPhase} (hset : state.shutdownInitiated = true)
      (hcurrent : state.shutdownThread.servers.or state.fatalThread.servers = some phase)
      (hwaits : state.serversStep phase = none) : False := by
    have hservers := (h.initiated hset).2
    rw [hcurrent] at hservers
    exact hstuck (h.canGoOn_shutting hidle (hblocked .publicShutdown) hservers hwaits)
  cases hset : state.shutdownInitiated with
  | false =>
      obtain ⟨hnone, hnone', _⟩ := h.uninitiated hset
      refine h.not_triggered hidle hset ?_ ?_ htriggered
      · obtain hended | hwaits | ⟨phase, hphase, _⟩ := hsignal
        · exact Or.inl hended
        · exact Or.inr hwaits
        · rw [hnone] at hphase
          cases hphase
      · obtain hended | hasleep | ⟨phase, hphase, _⟩ := hfatal
        · exact Or.inl hended
        · exact Or.inr hasleep
        · rw [hnone'] at hphase
          cases hphase
  | true =>
      obtain hended | hwaits | ⟨phase, hphase, hnone⟩ := hsignal
      · obtain hdone | hasleep | ⟨phase, hphase, hnone⟩ := hfatal
        · exact h.main_not_blocked hset hrunning (by rw [hended, hdone]; exact ⟨rfl, rfl⟩)
            (Or.inl hended) (Or.inl hdone) (hblocked .adminThread) (hblocked .main)
        · exact h.main_not_blocked hset hrunning (by rw [hended, hasleep]; exact ⟨rfl, rfl⟩)
            (Or.inl hended) (Or.inr hasleep) (hblocked .adminThread) (hblocked .main)
        · exact hshutting hset (by rw [hended]; exact hphase) hnone
      · obtain hdone | hasleep | ⟨phase, hphase, hnone⟩ := hfatal
        · exact h.main_not_blocked hset hrunning (by rw [hwaits.1, hdone]; exact ⟨rfl, rfl⟩)
            (Or.inr hwaits) (Or.inl hdone) (hblocked .adminThread) (hblocked .main)
        · exact h.main_not_blocked hset hrunning (by rw [hwaits.1, hasleep]; exact ⟨rfl, rfl⟩)
            (Or.inr hwaits) (Or.inr hasleep) (hblocked .adminThread) (hblocked .main)
        · exact hshutting hset (by rw [hwaits.1]; exact hphase) hnone
      · exact hshutting hset (by rw [hphase]; rfl) hnone

theorem Sound.canGoOn (h : state.Sound) (htriggered : state.Triggered)
    (hrunning : ∀ code, state.main ≠ .exited code) : state.CanGoOn := by
  by_cases hidle : state.Blocked .handler
  · obtain ⟨_, hunstarted⟩ | hstarted := h.phase
    · exact hunstarted.canGoOn hidle hrunning
    · exact hstarted.canGoOn hidle htriggered hrunning
  · exact canGoOn_of_not_blocked hidle

end Lifecycle

/-! ### Termination -/

def MainPhase.rank : MainPhase → Nat
  | .checkConstructed => 17
  | .startAdmin => 16
  | .startPublic => 15
  | .waitPublic => 14
  | .checkInitiated => 13
  | .stopSubscriptions => 12
  | .shutdownAdmin => 11
  | .awaitAdmin => 10
  | .storeStop => 9
  | .notify => 8
  | .checkReceived => 6
  | .kill => 5
  | .joinAdmin => 4
  | .joinShutdown => 3
  | .joinFatal | .abandonAdmin => 2
  | .loadFatal | .awaitAbandoned => 1
  | .exited _ => 0

def ServersPhase.rank : ServersPhase → Nat
  | .stopSubscriptions => 5
  | .startPublicShutdown => 4
  | .shutdownAdmin => 3
  | .awaitAdmin => 2
  | .joinPublicShutdown => 1

def SignalPhase.rank : SignalPhase → Nat
  | .absent | .sigwait => 9
  | .storeReceived => 8
  | .loadFatal => 7
  | .exchange _ => 6
  | .shutting phase => phase.rank
  | .ended => 0

/-- A thread that is woken tests its condition once more. -/
def FatalPhase.rank : FatalPhase → Nat
  | .absent | .check => 8
  | .asleep => 7
  | .exchange => 6
  | .shutting phase => phase.rank
  | .ended => 0

def PublicShutdownPhase.rank : PublicShutdownPhase → Nat
  | .absent | .shutdown => 2
  | .await => 1
  | .ended => 0

def AdminPhase.rank : AdminPhase → Nat
  | .absent | .wait => 1
  | .ended => 0

/-- A call of `notify_all` counts twice, as it may wake a thread. -/
def HandlerPhase.rank : HandlerPhase → Nat
  | .idle | .store => 3
  | .notify => 2
  | .returned => 0

namespace Lifecycle

variable {state next : Lifecycle}

/-- A bound on the steps that the threads have left. -/
def rank (state : Lifecycle) : Nat :=
  state.main.rank + state.shutdownThread.rank + state.fatalThread.rank +
    state.publicShutdown.rank + state.adminThread.rank + state.handler.rank

theorem notifyAll_rank (state : Lifecycle) :
    state.notifyAll.fatalThread.rank ≤ state.fatalThread.rank + 1 := by
  unfold notifyAll
  split
  · rename_i hasleep
    rw [hasleep]
    exact le_rfl
  · exact Nat.le_succ _

/-- One call of `shutdown_servers` leaves fewer to make. -/
theorem serversStep_rank {phase : ServersPhase} {following : Option ServersPhase}
    (hstep : state.serversStep phase = some (next, following))
    (hservers : ServersSound state.publicShutdown state.adminServer state.stopping (some phase)) :
    (following.map ServersPhase.rank).getD 0 < phase.rank ∧
      next.publicShutdown.rank = state.publicShutdown.rank := by
  unfold serversStep at hstep
  split at hstep
  · cases hstep
    exact ⟨by decide, rfl⟩
  · cases hstep
    exact ⟨by decide, by rw [hservers.1]; rfl⟩
  · cases hstep
    exact ⟨by decide, rfl⟩
  · split at hstep
    · cases hstep
      exact ⟨by decide, rfl⟩
    · cases hstep
  · split at hstep
    · cases hstep
      exact ⟨by decide, rfl⟩
    · cases hstep

theorem Started.shutdownThread_rank (h : state.Started)
    (hstep : state.shutdownThreadStep = some next) : next.rank < state.rank := by
  unfold Lifecycle.shutdownThreadStep at hstep
  split at hstep
  case h_6 phase hphase =>
    obtain ⟨⟨after, following⟩, hmove, rfl⟩ := Option.map_eq_some_iff.mp hstep
    obtain ⟨_, hservers⟩ := h.signal_shutting hphase
    obtain ⟨hless, hsame⟩ := serversStep_rank hmove hservers
    have hframe := (serversStep_moves hmove hservers h.publicServer).frame
    unfold rank
    rw [hframe, hphase]
    dsimp only [SignalPhase.rank]
    rw [hsame]
    cases following with
    | none =>
        dsimp only [Option.map_none, Option.getD_none, SignalPhase.rank] at hless ⊢
        omega
    | some following =>
        dsimp only [Option.map_some, Option.getD_some, SignalPhase.rank] at hless ⊢
        omega
  all_goals grind [rank, initiate, SignalPhase.rank, ServersPhase.rank]

theorem Started.fatalThread_rank (h : state.Started)
    (hstep : state.fatalThreadStep = some next) : next.rank < state.rank := by
  unfold Lifecycle.fatalThreadStep at hstep
  split at hstep
  case h_5 phase hphase =>
    obtain ⟨⟨after, following⟩, hmove, rfl⟩ := Option.map_eq_some_iff.mp hstep
    obtain ⟨_, _, hservers⟩ := h.fatal_shutting hphase
    obtain ⟨hless, hsame⟩ := serversStep_rank hmove hservers
    have hframe := (serversStep_moves hmove hservers h.publicServer).frame
    unfold rank
    rw [hframe, hphase]
    dsimp only [FatalPhase.rank]
    rw [hsame]
    cases following with
    | none =>
        dsimp only [Option.map_none, Option.getD_none, FatalPhase.rank] at hless ⊢
        omega
    | some following =>
        dsimp only [Option.map_some, Option.getD_some, FatalPhase.rank] at hless ⊢
        omega
  all_goals grind [rank, initiate, FatalPhase.rank, ServersPhase.rank]

theorem publicShutdown_rank (hstep : state.publicShutdownStep = some next) :
    next.rank < state.rank := by
  unfold publicShutdownStep at hstep
  grind [rank, PublicShutdownPhase.rank]

theorem adminThread_rank (hstep : state.adminThreadStep = some next) :
    next.rank < state.rank := by
  unfold adminThreadStep at hstep
  grind [rank, AdminPhase.rank]

theorem handler_rank (hstep : state.handlerStep = some next) : next.rank < state.rank := by
  have hwake := notifyAll_rank state
  unfold handlerStep at hstep
  rw [notifyAll_frame] at hstep
  grind [rank, HandlerPhase.rank]

/-- A step of `main` that starts no threads. -/
theorem mainStep_rank {started : Bool} (hstep : state.mainStep started = some next)
    (hstart : state.main = .startPublic → state.shutdownThread = .absent ∧
      state.fatalThread = .absent ∧ state.adminThread = .absent) : next.rank < state.rank := by
  have hwake := notifyAll_rank state
  unfold mainStep at hstep
  rw [notifyAll_frame] at hstep
  split at hstep
  all_goals grind [rank, MainPhase.rank, SignalPhase.rank, FatalPhase.rank, AdminPhase.rank]

theorem Sound.threadStep_rank (h : state.Sound) {started : Bool} {thread : LifecycleThread}
    (hstep : state.threadStep started thread = some next) : next.rank < state.rank := by
  cases thread with
  | main =>
      refine mainStep_rank hstep ?_
      intro hphase
      obtain ⟨habsent, hunstarted⟩ | hstarted := h.phase
      · exact ⟨hunstarted.threads.1, hunstarted.threads.2.1, habsent⟩
      · have hmain := hstarted.main
        rw [hphase] at hmain
        simp [MainPhase.closing] at hmain
  | adminThread => exact adminThread_rank hstep
  | shutdownThread =>
      obtain ⟨_, hunstarted⟩ | hstarted := h.phase
      · simp [Lifecycle.threadStep, shutdownThreadStep, hunstarted.threads.1] at hstep
      · exact hstarted.shutdownThread_rank hstep
  | fatalThread =>
      obtain ⟨_, hunstarted⟩ | hstarted := h.phase
      · simp [Lifecycle.threadStep, fatalThreadStep, hunstarted.threads.2.1] at hstep
      · exact hstarted.fatalThread_rank hstep
  | publicShutdown => exact publicShutdown_rank hstep
  | handler => exact handler_rank hstep

/-- Calls, signals and errors leave the threads what they have to do. -/
theorem step_outside_rank {action : LifecycleAction} (hstep : state.Step action next)
    (haction : ∀ thread started, action ≠ .thread thread started) : next.rank = state.rank := by
  cases action with
  | thread thread started => exact absurd rfl (haction thread started)
  | signal =>
      cases hstep
      rfl
  | raise raiser =>
      obtain ⟨⟨hidle, _⟩, hnext⟩ := Option.ite_none_right_eq_some.mp hstep
      cases hnext
      simp [rank, hidle, HandlerPhase.rank]
  | _ =>
      obtain ⟨_, hnext⟩ := Option.ite_none_right_eq_some.mp hstep
      cases hnext
      rfl

def isThread : LifecycleAction → Bool
  | .thread _ _ => true
  | _ => false

/-- How many of the steps are those of a thread. -/
def threadSteps (actions : List LifecycleAction) : Nat :=
  actions.countP isThread

theorem Sound.run_rank (h : state.Sound) {actions : List LifecycleAction}
    (hrun : Run Step state actions next) : next.rank + threadSteps actions ≤ state.rank := by
  refine hrun.pays h (fun _ _ _ hsound hstep => hsound.step hstep) ?_
  intro before action after hsound hstep
  cases action with
  | thread thread started => exact hsound.threadStep_rank hstep
  | _ => exact (step_outside_rank hstep (by intro _ _; nofun)).le

/-- The threads of the process make at most forty steps in any run. Once a signal or a fatal
error has come, one of them can make a step until `main` has returned, or a server that
refuses new calls waits for one in flight that can end, with every stream told to stop. The
bound is for a condition variable that wakes on `notify_all` only; a spurious wake-up would
add the two steps of a test that fails. It is taken that `sigwait` does not fail. -/
theorem shutdown_completes {actions : List LifecycleAction} (hrun : Run Step {} actions state) :
    threadSteps actions ≤ 40 ∧
      (state.Triggered → (∀ code, state.main ≠ .exited code) → state.CanGoOn) := by
  constructor
  · have hbound := sound_initial.run_rank hrun
    have hinitial : rank {} = 40 := by decide
    omega
  · exact (Reachable.sound ⟨actions, hrun⟩).canGoOn

theorem execute_steps {actions : List LifecycleAction}
    {found : List (LifecycleAction × Unit) × Lifecycle}
    (h : execute (fun state action => (state.step action).map (·, ())) state actions =
      some found) : Run Step state (found.1.map Prod.fst) found.2 := by
  have hrun : Run (fun state (label : LifecycleAction × Unit) next => Step state label.1 next) state
      found.1 found.2 := by
    refine execute_run ?_ h
    intro before action after _ hstep
    obtain ⟨next, hnext, hpair⟩ := Option.map_eq_some_iff.mp hstep
    cases hpair
    exact hnext
  exact hrun.map (fun _ _ _ hstep => hstep)

end Lifecycle

namespace Reference

open Lifecycle

def steps (thread : LifecycleThread) (count : Nat) : List LifecycleAction :=
  List.replicate count (.thread thread true)

/-- A stream is open when a call raises a fatal error. -/
def raisedByCall : List LifecycleAction :=
  steps .main 3 ++ [.beginCall, .register, .beginCall, .raise .call] ++ steps .handler 2 ++
    [.endCall]

theorem raisedByCall_executes :
    (execute (fun state action => (Lifecycle.step state action).map (·, ())) {}
      raisedByCall).isSome = true := by
  decide

def raisedState : Lifecycle := (Option.get _ raisedByCall_executes).2

theorem raisedState_run : ∃ actions, Run Step {} actions raisedState :=
  ⟨_, execute_steps (Option.some_get raisedByCall_executes).symm⟩

theorem fatal_call_goes_on : raisedState.Triggered ∧ raisedState.CanGoOn := by
  obtain ⟨actions, hrun⟩ := raisedState_run
  have hset : raisedState.fatalStorageError = true := by decide +kernel
  have hrunning : raisedState.main = .waitPublic := by decide +kernel
  exact ⟨Or.inl hset, (shutdown_completes hrun).2 (Or.inl hset) (by rw [hrunning]; nofun)⟩

end Reference

end OpenEvent
