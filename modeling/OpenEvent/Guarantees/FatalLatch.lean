import OpenEvent.GrpcServices
import OpenEvent.Reference

/-!
The fatal latch over every interleaving of calls, streams and the refresh thread.
With respect to the flag and its handler the service is a one-shot latch; a call that
begins once the flag is set gets no further than its gate.
-/

namespace OpenEvent

open OpenEventCore

/-! ### The service as a latch -/

/-- The status that a call is about to call the handler with. -/
def CallPhase.notifying : CallPhase → Option Status
  | .latching .notify status _ => some status
  | _ => none

def StreamPhase.notifying : StreamPhase → Option Status
  | .latching .notify status => some status
  | _ => none

def RefresherPhase.notifies : RefresherPhase → Option Status
  | .notifying status => some status
  | .refreshing _ => none

namespace Service

def notifying (service : Service) : ServiceThread → Option Status
  | .call id => (service.calls id).bind (fun call => call.phase.notifying)
  | .stream id => (service.streams id).bind StreamPhase.notifying
  | .refresher => service.refresher.notifies

/-- What the service is as a latch. -/
def latch (service : Service) : OneShotLatch ServiceThread Status :=
  ⟨service.flag, service.notifying, service.handled⟩

variable {ext : Externals} {service next : Service} {label : ServiceLabel}

@[simp] theorem setCall_self (service : Service) (id : Nat) (call : CoreCall) :
    (service.setCall id call).calls id = some call :=
  Function.update_self _ _ _

theorem setCall_of_ne (service : Service) {id other : Nat} (call : CoreCall) (h : other ≠ id) :
    (service.setCall id call).calls other = service.calls other :=
  Function.update_of_ne h _ _

theorem notifying_setCall (service : Service) (id : Nat) (call : CoreCall) :
    (service.setCall id call).notifying =
      Function.update service.notifying (.call id) call.phase.notifying := by
  funext thread
  cases thread with
  | call other =>
      by_cases heq : other = id
      · subst heq
        rw [Function.update_self, notifying, setCall]
        simp
      · rw [Function.update_of_ne (by simpa using heq), notifying, setCall]
        simp [heq, notifying]
  | stream other => rfl
  | refresher => rfl

theorem notifying_setStream (service : Service) (id : Nat) (phase : StreamPhase) :
    (service.setStream id phase).notifying =
      Function.update service.notifying (.stream id) phase.notifying := by
  funext thread
  cases thread with
  | stream other =>
      by_cases heq : other = id
      · subst heq
        rw [Function.update_self, notifying, setStream]
        simp
      · rw [Function.update_of_ne (by simpa using heq), notifying, setStream]
        simp [heq, notifying]
  | call other => rfl
  | refresher => rfl

end Service

/-! ### Phases inside an operation -/

/-- The operation has not been answered, and its call of `FatalStorageError`, if any,
has not got to the flag. -/
def CallPhase.InCore : CallPhase → Prop
  | .working _ => True
  | .latching .exchange _ (.returned _ _) => True
  | .settled (.returned _ _) => True
  | _ => False

theorem CallPhase.InCore.notifying {phase : CallPhase} (h : phase.InCore) :
    phase.notifying = none := by
  unfold CallPhase.InCore at h
  split at h
  · rfl
  · rfl
  · rfl
  · cases h

theorem finishCall_inCore (state : CoreState) (status : Status) (answer : Answer) :
    (finishCall state status answer).InCore := by
  unfold finishCall
  split
  · exact True.intro
  · exact True.intro

theorem leaveCall_inCore (exit : Exit) : (leaveCall exit).InCore := by
  unfold leaveCall
  split
  · exact True.intro
  · exact True.intro

theorem continueWrite_inCore (call : WriteObjectCall) (state : CoreState)
    (progress : WriteObjectProgress) : (continueWrite call state progress).InCore := by
  unfold continueWrite
  split
  · exact True.intro
  · exact finishCall_inCore _ _ _

theorem acquirePhase_inCore (operation : SubscriptionOperation) (progress : AcquireProgress) :
    (acquirePhase operation progress).InCore := by
  unfold acquirePhase
  split
  · exact True.intro
  · exact True.intro
  · exact True.intro

theorem enter_inCore {fatalError : Option Status} {tsMs : UInt64} {random : List GetrandomResult}
    {operation : Operation} {phase : CallPhase}
    (h : operation.enter fatalError tsMs random = some phase) : phase.InCore := by
  unfold Operation.enter at h
  dsimp only at h
  split at h
  · cases h
    exact True.intro
  · cases h
    exact True.intro
  · split at h
    · cases h
      exact True.intro
    · cases h
      exact True.intro
  · split at h
    · cases h
      exact True.intro
    · split at h
      · cases h
      · cases h
        exact True.intro
      · cases h
        exact True.intro
  · cases h
    exact True.intro
  · cases h
    exact True.intro
  · cases h
    exact True.intro

theorem work_inCore {ext : Externals} {config : Config} {state after : CoreState}
    {dir dir' : ObjectDirectory} {env : WorkEnv} {work : Work} {phase : CallPhase}
    (h : work.step ext config state dir env = some (after, dir', phase)) : phase.InCore := by
  cases work with
  | mutation change tsMs =>
      rw [Work.step] at h
      split at h
      · cases h
      · cases h
        exact finishCall_inCore _ _ _
  | write call =>
      rw [Work.step] at h
      split at h
      · cases h
        exact continueWrite_inCore _ _ _
      · split at h
        · cases h
        · cases h
          exact True.intro
        · cases h
          exact continueWrite_inCore _ _ _
      · cases h
        exact continueWrite_inCore _ _ _
      · split at h
        · cases h
        · cases h
          exact True.intro
        · cases h
          exact continueWrite_inCore _ _ _
      · cases h
        exact continueWrite_inCore _ _ _
  | read operation =>
      rw [Work.step] at h
      split at h
      · cases h
        exact True.intro
      · cases h
        exact leaveCall_inCore _
  | record request =>
      rw [Work.step] at h
      split at h
      · cases h
        exact True.intro
      · cases h
        exact leaveCall_inCore _
  | file request object =>
      rw [Work.step] at h
      split at h
      · cases h
      · cases h
        exact True.intro
      · cases h
        exact leaveCall_inCore _
  | acquire operation phase => cases h
  | snapshot operation acquired =>
      rw [Work.step] at h
      split at h
      · cases h
        exact True.intro
      · cases h
        exact True.intro

/-! ### Refinement -/

namespace Service

variable {ext : Externals} {service next : Service} {label : ServiceLabel}

theorem latch_setCall {id : Nat} {call : CoreCall} (hcall : service.notifying (.call id) = none)
    (hphase : call.phase.notifying = none) : (service.setCall id call).latch = service.latch := by
  have hsame : (service.setCall id call).notifying = service.notifying := by
    rw [notifying_setCall, hphase, ← hcall, Function.update_eq_self]
  unfold latch
  rw [hsame]
  rfl

theorem latch_setStream {id : Nat} {phase : StreamPhase}
    (hstream : service.notifying (.stream id) = none) (hphase : phase.notifying = none) :
    (service.setStream id phase).latch = service.latch := by
  have hsame : (service.setStream id phase).notifying = service.notifying := by
    rw [notifying_setStream, hphase, ← hstream, Function.update_eq_self]
  unfold latch
  rw [hsame]
  rfl

theorem notifying_call {id : Nat} {call : CoreCall} (h : service.calls id = some call) :
    service.notifying (.call id) = call.phase.notifying := by
  rw [notifying, h]
  rfl

theorem notifying_stream {id : Nat} {phase : StreamPhase} (h : service.streams id = some phase) :
    service.notifying (.stream id) = phase.notifying := by
  rw [notifying, h]
  rfl

theorem notifying_refresher {phase : RefresherPhase} (after : Service)
    (hcalls : after.calls = service.calls) (hstreams : after.streams = service.streams)
    (hphase : after.refresher = phase) :
    after.notifying = Function.update service.notifying .refresher phase.notifies := by
  funext thread
  cases thread with
  | refresher => rw [Function.update_self, notifying, hphase]
  | call id => rw [Function.update_of_ne (by simp), notifying, notifying, hcalls]
  | stream id => rw [Function.update_of_ne (by simp), notifying, notifying, hstreams]

/-- An exchange by a thread that is not about to call the handler. -/
theorem latch_exchange {thread : ServiceThread} {status : Status} {after : Service}
    (hidle : service.notifying thread = none)
    (hflag : after.flag = service.flag.or (some status)) (hhandled : after.handled = service.handled)
    (hnotifying : after.notifying = Function.update service.notifying thread
      (service.afterExchange (some status) none)) :
    OneShotLatch.Step service.latch after.latch := by
  unfold latch
  cases hset : service.flag with
  | some held =>
      have hsame : after.notifying = service.notifying := by
        rw [hnotifying, afterExchange, hset, Option.isSome_some, if_pos rfl, ← hidle,
          Function.update_eq_self]
      rw [hsame, hflag, hset, hhandled]
      exact .quiet
  | none =>
      rw [hnotifying, hflag, hset, hhandled, afterExchange, hset]
      exact .raise thread status rfl hidle

theorem latch_notify {thread : ServiceThread} {status : Status} {after : Service}
    (hnotifies : service.notifying thread = some status) (hflag : after.flag = service.flag)
    (hhandled : after.handled = service.handled ++ [status])
    (hnotifying : after.notifying = Function.update service.notifying thread none) :
    OneShotLatch.Step service.latch after.latch := by
  unfold latch
  rw [hflag, hhandled, hnotifying]
  exact .notify thread status hnotifies

theorem idle_refresher {phase : RefreshPhase} (h : service.refresher = .refreshing phase) :
    service.notifying .refresher = none := by
  rw [notifying, h]
  rfl

/-- The loop of the refresh thread does not touch the latch. -/
theorem latch_refresher {phase phase' : RefreshPhase} {after : Service}
    (h : service.refresher = .refreshing phase) (hcalls : after.calls = service.calls)
    (hstreams : after.streams = service.streams) (hphase : after.refresher = .refreshing phase')
    (hflag : after.flag = service.flag) (hhandled : after.handled = service.handled) :
    after.latch = service.latch := by
  have hidle : (RefresherPhase.refreshing phase').notifies = service.notifying .refresher :=
    (idle_refresher h).symm
  have hsame : after.notifying = service.notifying := by
    rw [notifying_refresher after hcalls hstreams hphase, hidle, Function.update_eq_self]
  unfold latch
  rw [hsame, hflag, hhandled]

/-- Every step of the service is a step of the latch, or leaves the latch alone. -/
theorem Step.latch (h : Step ext service label next) :
    OneShotLatch.Step service.latch next.latch := by
  have hquiet {after : Service} (hsame : after.latch = service.latch) :
      OneShotLatch.Step service.latch after.latch := by
    rw [hsame]
    exact .quiet
  cases h with
  | beginCall hfree =>
      refine hquiet (latch_setCall ?_ rfl)
      rw [notifying, hfree]
      rfl
  | enterCall hcall hphase henter =>
      refine hquiet (latch_setCall ?_ (enter_inCore henter).notifying)
      rw [notifying_call hcall, hphase]
      rfl
  | acquireCall hcall hphase _ =>
      refine hquiet (latch_setCall ?_ (acquirePhase_inCore _ _).notifying)
      rw [notifying_call hcall, hphase]
      rfl
  | workCall hcall hphase hwork =>
      refine hquiet ((latch_setCall ?_ (work_inCore hwork).notifying).trans rfl)
      exact (notifying_call hcall).trans (by rw [hphase]; rfl)
  | @exchangeCall id call status outcome hcall hphase =>
      have hidle : service.notifying (.call id) = none := by
        rw [notifying_call hcall, hphase]
        rfl
      refine latch_exchange hidle rfl rfl ?_
      rw [notifying_setCall]
      unfold afterExchange
      split
      · rfl
      · rfl
  | notifyCall hcall hphase =>
      refine latch_notify ((notifying_call hcall).trans (by rw [hphase]; rfl)) rfl rfl ?_
      exact notifying_setCall _ _ _
  | @reportCall id call status answer hcall _ hphase =>
      refine hquiet (latch_setCall ?_ ?_)
      · rw [notifying_call hcall, hphase]
        rfl
      · dsimp only
        split
        · rfl
        · rfl
  | subscribe hfree =>
      refine hquiet (latch_setStream ?_ ?_)
      · rw [notifying, hfree]
        rfl
      · split
        · rfl
        · rfl
  | streamStep hstream _ =>
      exact hquiet (latch_setStream (notifying_stream hstream) rfl)
  | reportStream hstream _ =>
      refine hquiet (latch_setStream (notifying_stream hstream) ?_)
      split
      · rfl
      · rfl
  | exchangeStream hstream =>
      refine latch_exchange (notifying_stream hstream) rfl rfl ?_
      rw [notifying_setStream]
      unfold afterExchange
      split
      · rfl
      · rfl
  | notifyStream hstream =>
      exact latch_notify (notifying_stream hstream) rfl rfl (notifying_setStream _ _ _)
  | refreshWake hphase => exact hquiet (latch_refresher hphase rfl rfl rfl rfl rfl)
  | refreshCreate hphase => exact hquiet (latch_refresher hphase rfl rfl rfl rfl rfl)
  | refreshBreak hphase _ => exact hquiet (latch_refresher hphase rfl rfl rfl rfl rfl)
  | @refreshStore generation snapshot hphase _ =>
      have hsame : (service.shared.refreshed generation snapshot).fatalError =
          service.shared.fatalError := by
        unfold SharedSnapshot.refreshed
        split
        · rfl
        · rfl
      exact hquiet (latch_refresher hphase rfl rfl rfl hsame rfl)
  | @refreshExchange status hphase =>
      have hrefresher := @notifying_refresher service _
        { service.exchange status with
          refresher := service.afterExchange (.notifying status) (.refreshing .ended) } rfl rfl rfl
      refine latch_exchange (idle_refresher hphase) rfl rfl (hrefresher.trans ?_)
      unfold afterExchange
      split
      · rfl
      · rfl
  | @refreshNotify status hphase =>
      have hnotifies : service.notifying .refresher = some status := by
        rw [notifying, hphase]
        rfl
      have hrefresher := @notifying_refresher service _
        { service with handled := service.handled ++ [status], refresher := .refreshing .ended }
        rfl rfl rfl
      exact latch_notify hnotifies rfl rfl hrefresher
  | stopSubscriptions => exact hquiet rfl
  | stopRefresher => exact hquiet rfl

/-- The flag keeps the status that set it. -/
theorem Step.flag_stays (h : Step ext service label next) {status : Status}
    (hflag : service.flag = some status) : next.flag = some status :=
  OneShotLatch.Step.flag h.latch hflag

end Service

/-! ### Calls that come late -/

/-- What `EnsureAvailable` returns once the flag is set. -/
def gateClosed : Status :=
  { code := .unavailable, message := "server is shutting down due to a fatal storage error" }

/-- What the operation has returned to its caller. -/
def CallPhase.result : CallPhase → Option (Status × Answer)
  | .settled (.returned status answer) => some (status, answer)
  | .settled (.answered status answer) => some (status, answer)
  | _ => none

/-- Where a call can be that began after the flag was set. -/
inductive LatePhase : CallPhase → Prop
  | called : LatePhase .called
  | acquiring (operation : SubscriptionOperation) : LatePhase (.working (.acquire operation .called))
  | returned : LatePhase (.settled (.returned gateClosed .empty))
  | answered : LatePhase (.settled (.answered gateClosed .empty))

/-- A call that was answered with a fatal status, or that began late. -/
structure CallSound (flag : Option Status) (call : CoreCall) : Prop where
  answered : ∀ status answer, call.phase = .settled (.answered status answer) →
    status.isFatal = true → flag.isSome = true
  late : call.late = true → flag.isSome = true ∧ LatePhase call.phase

/-- The same for a stream. -/
def StreamSound (flag : Option Status) (phase : StreamPhase) : Prop :=
  ∀ status, phase = .answered status → status.isFatal = true → flag.isSome = true

theorem CallSound.mono {flag later : Option Status} {call : CoreCall} (h : CallSound flag call)
    (hstays : flag.isSome = true → later.isSome = true) : CallSound later call := by
  constructor
  · intro status answer hanswered hfatal
    exact hstays (h.answered status answer hanswered hfatal)
  · intro hlate
    exact ⟨hstays (h.late hlate).1, (h.late hlate).2⟩

theorem CallPhase.InCore.not_answered {phase : CallPhase} (h : phase.InCore) {status : Status}
    {answer : Answer} : phase ≠ .settled (.answered status answer) := by
  rintro rfl
  exact h

theorem CallSound.of_inCore {flag : Option Status} {call : CoreCall} (h : call.phase.InCore)
    (hlate : call.late = true → flag.isSome = true ∧ LatePhase call.phase) :
    CallSound flag call :=
  ⟨fun _ _ hanswered => absurd hanswered h.not_answered, hlate⟩

theorem enter_late {fatalError : Option Status} (hflag : fatalError.isSome = true) {tsMs : UInt64}
    {random : List GetrandomResult} {operation : Operation} {phase : CallPhase}
    (h : operation.enter fatalError tsMs random = some phase) : LatePhase phase := by
  obtain ⟨status, rfl⟩ := Option.isSome_iff_exists.mp hflag
  unfold Operation.enter at h
  dsimp only [ensureAvailable] at h
  split at h
  · cases h
    exact .acquiring _
  · rename_i heq
    cases heq
    cases h
    exact .returned
  all_goals
    rename_i heq
    cases heq

theorem acquire_late {shared : SharedSnapshot} (hflag : shared.fatalError.isSome = true)
    {progress : AcquireProgress} (h : shared.acquireStep .called = some progress) :
    progress = .done (.error gateClosed) := by
  obtain ⟨status, hstatus⟩ := Option.isSome_iff_exists.mp hflag
  unfold SharedSnapshot.acquireStep at h
  rw [hstatus] at h
  exact (Option.some.inj h).symm

namespace Service

variable {ext : Externals} {service next : Service} {label : ServiceLabel}

/-- The invariant of the service. -/
structure Sound (service : Service) : Prop where
  latch : service.latch.Sound
  calls : ∀ id call, service.calls id = some call → CallSound service.flag call
  streams : ∀ id phase, service.streams id = some phase → StreamSound service.flag phase

theorem isSome_stays (h : ∀ status, service.flag = some status → next.flag = some status)
    (hflag : service.flag.isSome = true) : next.flag.isSome = true := by
  obtain ⟨status, hstatus⟩ := Option.isSome_iff_exists.mp hflag
  rw [h status hstatus]
  rfl

/-- The calls after a step that changes one of them. -/
theorem Sound.calls_step (h : service.Sound)
    (hflag : ∀ status, service.flag = some status → next.flag = some status) {id : Nat}
    {call : CoreCall} (hcalls : next.calls = Function.update service.calls id (some call))
    (hcall : CallSound next.flag call) :
    ∀ other found, next.calls other = some found → CallSound next.flag found := by
  intro other found hfound
  rw [hcalls] at hfound
  by_cases heq : other = id
  · subst heq
    rw [Function.update_self] at hfound
    exact Option.some.inj hfound ▸ hcall
  · rw [Function.update_of_ne heq] at hfound
    exact (h.calls other found hfound).mono (isSome_stays hflag)

theorem Sound.calls_kept (h : service.Sound)
    (hflag : ∀ status, service.flag = some status → next.flag = some status)
    (hcalls : next.calls = service.calls) :
    ∀ id call, next.calls id = some call → CallSound next.flag call := by
  intro id call hcall
  rw [hcalls] at hcall
  exact (h.calls id call hcall).mono (isSome_stays hflag)

theorem Sound.streams_step (h : service.Sound)
    (hflag : ∀ status, service.flag = some status → next.flag = some status) {id : Nat}
    {phase : StreamPhase} (hstreams : next.streams = Function.update service.streams id (some phase))
    (hphase : StreamSound next.flag phase) :
    ∀ other found, next.streams other = some found → StreamSound next.flag found := by
  intro other found hfound
  rw [hstreams] at hfound
  by_cases heq : other = id
  · subst heq
    rw [Function.update_self] at hfound
    exact Option.some.inj hfound ▸ hphase
  · rw [Function.update_of_ne heq] at hfound
    intro status hanswered hfatal
    exact isSome_stays hflag (h.streams other found hfound status hanswered hfatal)

theorem Sound.streams_kept (h : service.Sound)
    (hflag : ∀ status, service.flag = some status → next.flag = some status)
    (hstreams : next.streams = service.streams) :
    ∀ id phase, next.streams id = some phase → StreamSound next.flag phase := by
  intro id phase hphase status hanswered hfatal
  rw [hstreams] at hphase
  exact isSome_stays hflag (h.streams id phase hphase status hanswered hfatal)

theorem exchange_isSome (service : Service) (status : Status) :
    (service.flag.or (some status)).isSome = true := by
  cases service.flag with
  | none => rfl
  | some held => rfl

/-- Late calls are not in the middle of `FatalStorageError`. -/
theorem Sound.not_late_latching (h : service.Sound) {id : Nat} {call : CoreCall}
    (hcall : service.calls id = some call) {latching : LatchPhase} {status : Status}
    {outcome : CallReturn} (hphase : call.phase = .latching latching status outcome) :
    call.late = false := by
  rw [← Bool.not_eq_true]
  intro hlate
  have hlatePhase := ((h.calls id call hcall).late hlate).2
  rw [hphase] at hlatePhase
  cases hlatePhase

theorem Sound.step (h : service.Sound) (hstep : Step ext service label next) : next.Sound := by
  have hflag : ∀ status, service.flag = some status → next.flag = some status :=
    fun _ => hstep.flag_stays
  have hlatch := h.latch.step hstep.latch
  cases hstep with
  | beginCall hfree =>
      refine ⟨hlatch, h.calls_step hflag rfl ?_, h.streams_kept hflag rfl⟩
      exact ⟨nofun, fun hlate => ⟨hlate, .called⟩⟩
  | enterCall hcall hphase henter =>
      refine ⟨hlatch, h.calls_step hflag rfl (.of_inCore (enter_inCore henter) ?_),
        h.streams_kept hflag rfl⟩
      intro hlate
      have hset := ((h.calls _ _ hcall).late hlate).1
      exact ⟨hset, enter_late hset henter⟩
  | @acquireCall id call operation phase progress hcall hphase hacquire =>
      refine ⟨hlatch, h.calls_step hflag rfl (.of_inCore (acquirePhase_inCore _ _) ?_),
        h.streams_kept hflag rfl⟩
      intro hlate
      obtain ⟨hset, hlatePhase⟩ := (h.calls _ _ hcall).late hlate
      rw [hphase] at hlatePhase
      cases hlatePhase with
      | acquiring _ =>
          rw [acquire_late hset hacquire]
          exact ⟨hset, .returned⟩
  | workCall hcall hphase hwork =>
      refine ⟨hlatch, h.calls_step hflag rfl (.of_inCore (work_inCore hwork) ?_),
        h.streams_kept hflag rfl⟩
      intro hlate
      have hlatePhase := ((h.calls _ _ hcall).late hlate).2
      rw [hphase] at hlatePhase
      cases hlatePhase with
      | acquiring _ => cases hwork
  | exchangeCall hcall hphase =>
      refine ⟨hlatch, h.calls_step hflag rfl ?_, h.streams_kept hflag rfl⟩
      refine ⟨fun _ _ _ _ => exchange_isSome service _, ?_⟩
      intro hlate
      have hnot := h.not_late_latching hcall hphase
      rw [show _ = true from hlate] at hnot
      cases hnot
  | @notifyCall id call status outcome hcall hphase =>
      have hset : service.flag = some status := by
        refine (h.latch.notifying (.call id) status ?_).1
        show service.notifying (.call id) = some status
        rw [notifying_call hcall, hphase]
        rfl
      refine ⟨hlatch, h.calls_step hflag rfl ?_, h.streams_kept hflag rfl⟩
      refine ⟨fun _ _ _ _ => Option.isSome_iff_exists.mpr ⟨status, hset⟩, ?_⟩
      intro hlate
      have hnot := h.not_late_latching hcall hphase
      rw [show _ = true from hlate] at hnot
      cases hnot
  | @reportCall id call status answer hcall _ hphase =>
      refine ⟨hlatch, h.calls_step hflag rfl ?_, h.streams_kept hflag rfl⟩
      refine ⟨?_, ?_⟩
      · intro other data hanswered hfatal
        dsimp only at hanswered
        split at hanswered
        · cases hanswered
        · rename_i hplain
          cases hanswered
          exact absurd hfatal hplain
      · intro hlate
        obtain ⟨hset, hlatePhase⟩ := (h.calls _ _ hcall).late hlate
        rw [hphase] at hlatePhase
        cases hlatePhase
        exact ⟨hset, .answered⟩
  | subscribe hfree =>
      refine ⟨hlatch, h.calls_kept hflag rfl, h.streams_step hflag rfl ?_⟩
      intro status hanswered hfatal
      split at hanswered
      · cases hanswered
        cases hfatal
      · cases hanswered
  | streamStep _ _ =>
      exact ⟨hlatch, h.calls_kept hflag rfl, h.streams_step hflag rfl nofun⟩
  | reportStream _ _ =>
      refine ⟨hlatch, h.calls_kept hflag rfl, h.streams_step hflag rfl ?_⟩
      intro status hanswered hfatal
      split at hanswered
      · cases hanswered
      · rename_i hplain
        cases hanswered
        exact absurd hfatal hplain
  | exchangeStream _ =>
      exact ⟨hlatch, h.calls_kept hflag rfl,
        h.streams_step hflag rfl (fun _ _ _ => exchange_isSome service _)⟩
  | @notifyStream id status hstream =>
      have hset : service.flag = some status :=
        (h.latch.notifying (.stream id) status (notifying_stream hstream)).1
      exact ⟨hlatch, h.calls_kept hflag rfl, h.streams_step hflag rfl
        (fun _ _ _ => Option.isSome_iff_exists.mpr ⟨status, hset⟩)⟩
  | refreshWake _ => exact ⟨hlatch, h.calls_kept hflag rfl, h.streams_kept hflag rfl⟩
  | refreshCreate _ => exact ⟨hlatch, h.calls_kept hflag rfl, h.streams_kept hflag rfl⟩
  | refreshBreak _ _ => exact ⟨hlatch, h.calls_kept hflag rfl, h.streams_kept hflag rfl⟩
  | refreshStore _ _ => exact ⟨hlatch, h.calls_kept hflag rfl, h.streams_kept hflag rfl⟩
  | refreshExchange _ => exact ⟨hlatch, h.calls_kept hflag rfl, h.streams_kept hflag rfl⟩
  | refreshNotify _ => exact ⟨hlatch, h.calls_kept hflag rfl, h.streams_kept hflag rfl⟩
  | stopSubscriptions => exact ⟨hlatch, h.calls_kept hflag rfl, h.streams_kept hflag rfl⟩
  | stopRefresher => exact ⟨hlatch, h.calls_kept hflag rfl, h.streams_kept hflag rfl⟩

/-! ### Whole runs -/

theorem sound_start (config : Config) (db : Db) (dir : ObjectDirectory) (faults : ReadFaults) :
    (start config db dir faults).Sound := by
  have hidle {service : Service} {phase : RefreshPhase}
      (hcalls : service.calls = fun _ => none) (hstreams : service.streams = fun _ => none)
      (hrefresher : service.refresher = .refreshing phase) :
      service.notifying = fun _ => none := by
    funext thread
    cases thread with
    | call id => rw [notifying, hcalls]; rfl
    | stream id => rw [notifying, hstreams]; rfl
    | refresher => exact idle_refresher hrefresher
  have hsound {service : Service} {phase : RefreshPhase}
      (hcalls : service.calls = fun _ => none) (hstreams : service.streams = fun _ => none)
      (hrefresher : service.refresher = .refreshing phase)
      (hlatch : (⟨service.flag, fun _ => none, service.handled⟩ :
        OneShotLatch ServiceThread Status).Sound) : service.Sound := by
    refine ⟨?_, ?_, ?_⟩
    · unfold latch
      rw [hidle hcalls hstreams hrefresher]
      exact hlatch
    · intro id call hcall
      rw [hcalls] at hcall
      cases hcall
    · intro id phase hphase
      rw [hstreams] at hphase
      cases hphase
  unfold start
  split
  · exact hsound rfl rfl rfl .initial
  · split
    · exact hsound rfl rfl rfl (.raised _)
    · exact hsound rfl rfl rfl .initial

theorem Reachable.sound (h : service.Reachable ext) : service.Sound := by
  obtain ⟨config, db, dir, faults, labels, hrun⟩ := h
  exact hrun.invariant (sound_start config db dir faults) (fun _ _ _ hs hstep => hs.step hstep)

/-- A run keeps the status in the flag. -/
theorem flag_stays_run {labels : List ServiceLabel} (hrun : Run (Step ext) service labels next)
    {status : Status} (hflag : service.flag = some status) : next.flag = some status :=
  hrun.invariant hflag (fun _ _ _ h hstep => hstep.flag_stays h)

/-- The calls after a step: as before, moved on, or new with what the flag said. -/
theorem Step.call_origin (h : Step ext service label next) {id : Nat} {call : CoreCall}
    (hcall : next.calls id = some call) :
    (∃ before, service.calls id = some before ∧ before.late = call.late) ∨
      call.late = service.flag.isSome := by
  have hmoved {other : Nat} {found : CoreCall} {phase : CallPhase} {after : Service}
      (hfound : service.calls other = some found)
      (hcalls : after.calls = Function.update service.calls other (some { found with phase }))
      (hnext : after.calls id = some call) :
      ∃ before, service.calls id = some before ∧ before.late = call.late := by
    rw [hcalls] at hnext
    by_cases heq : id = other
    · subst heq
      rw [Function.update_self] at hnext
      cases hnext
      exact ⟨found, hfound, rfl⟩
    · rw [Function.update_of_ne heq] at hnext
      exact ⟨call, hnext, rfl⟩
  cases h with
  | @beginCall other operation hfree =>
      by_cases heq : id = other
      · subst heq
        rw [setCall_self] at hcall
        cases hcall
        exact Or.inr rfl
      · rw [setCall_of_ne _ _ heq] at hcall
        exact Or.inl ⟨call, hcall, rfl⟩
  | enterCall hfound _ _ => exact Or.inl (hmoved hfound rfl hcall)
  | acquireCall hfound _ _ => exact Or.inl (hmoved hfound rfl hcall)
  | workCall hfound _ _ => exact Or.inl (hmoved hfound rfl hcall)
  | exchangeCall hfound _ => exact Or.inl (hmoved hfound rfl hcall)
  | notifyCall hfound _ => exact Or.inl (hmoved hfound rfl hcall)
  | reportCall hfound _ _ => exact Or.inl (hmoved hfound rfl hcall)
  | subscribe _ => exact Or.inl ⟨call, hcall, rfl⟩
  | streamStep _ _ => exact Or.inl ⟨call, hcall, rfl⟩
  | reportStream _ _ => exact Or.inl ⟨call, hcall, rfl⟩
  | exchangeStream _ => exact Or.inl ⟨call, hcall, rfl⟩
  | notifyStream _ => exact Or.inl ⟨call, hcall, rfl⟩
  | refreshWake _ => exact Or.inl ⟨call, hcall, rfl⟩
  | refreshCreate _ => exact Or.inl ⟨call, hcall, rfl⟩
  | refreshBreak _ _ => exact Or.inl ⟨call, hcall, rfl⟩
  | refreshStore _ _ => exact Or.inl ⟨call, hcall, rfl⟩
  | refreshExchange _ => exact Or.inl ⟨call, hcall, rfl⟩
  | refreshNotify _ => exact Or.inl ⟨call, hcall, rfl⟩
  | stopSubscriptions => exact Or.inl ⟨call, hcall, rfl⟩
  | stopRefresher => exact Or.inl ⟨call, hcall, rfl⟩

/-- A call that is not there while the flag is set begins late. -/
theorem late_of_run {labels : List ServiceLabel} (hrun : Run (Step ext) service labels next)
    (hflag : service.flag.isSome = true) {id : Nat} (hfree : service.calls id = none) :
    next.flag.isSome = true ∧ ∀ call, next.calls id = some call → call.late = true := by
  refine hrun.invariant (P := fun later => later.flag.isSome = true ∧
    ∀ call, later.calls id = some call → call.late = true) ⟨hflag, ?_⟩ ?_
  · intro call hcall
    rw [hfree] at hcall
    cases hcall
  · intro middle label after hbefore hstep
    refine ⟨isSome_stays (fun _ => hstep.flag_stays) hbefore.1, ?_⟩
    intro call hcall
    obtain ⟨before, hfound, hlate⟩ | hlate := hstep.call_origin hcall
    · rw [← hlate]
      exact hbefore.2 before hfound
    · rw [hlate]
      exact hbefore.1

/-! ### The steps of a late call -/

/-- The steps that a late call has left until its operation has returned. -/
def lateSteps : Option CoreCall → Nat
  | none => 3
  | some call =>
      match call.phase with
      | .called => 2
      | .working _ => 1
      | _ => 0

/-- What one step of the service does to a call that came late. -/
structure LateStep (service next : Service) (label : ServiceLabel) (id : Nat) : Prop where
  storage : label.storage = false
  db : next.db = service.db
  dir : next.dir = service.dir
  nearer : lateSteps (next.calls id) ≤ lateSteps (service.calls id) - 1

theorem Sound.late_step (h : service.Sound) (hstep : Step ext service label next) {id : Nat}
    (hthread : label.thread = some (.call id)) (hflag : service.flag.isSome = true)
    (hlate : ∀ call, service.calls id = some call → call.late = true) :
    LateStep service next label id := by
  cases hstep with
  | @beginCall other operation hfree =>
      cases hthread
      refine ⟨rfl, rfl, rfl, ?_⟩
      rw [setCall_self, hfree]
      rfl
  | @enterCall other call tsMs random phase hcall hphase henter =>
      cases hthread
      refine ⟨rfl, rfl, rfl, ?_⟩
      have hnext := enter_late hflag henter
      have hinCore := enter_inCore henter
      rw [setCall_self, hcall]
      simp only [lateSteps, hphase]
      cases hnext with
      | called => exact hinCore.elim
      | acquiring _ => exact le_refl _
      | returned => exact Nat.zero_le _
      | answered => exact Nat.zero_le _
  | @acquireCall other call operation phase progress hcall hphase hacquire =>
      cases hthread
      refine ⟨rfl, rfl, rfl, ?_⟩
      have hlatePhase := ((h.calls _ _ hcall).late (hlate _ hcall)).2
      rw [hphase] at hlatePhase
      cases hlatePhase with
      | acquiring _ =>
          rw [setCall_self, acquire_late hflag hacquire]
          exact Nat.zero_le _
  | @workCall other call work env state dir phase hcall hphase hwork =>
      cases hthread
      have hlatePhase := ((h.calls _ _ hcall).late (hlate _ hcall)).2
      rw [hphase] at hlatePhase
      cases hlatePhase with
      | acquiring _ => cases hwork
  | exchangeCall hcall hphase =>
      cases hthread
      have hnot := h.not_late_latching hcall hphase
      rw [hlate _ hcall] at hnot
      cases hnot
  | notifyCall hcall hphase =>
      cases hthread
      have hnot := h.not_late_latching hcall hphase
      rw [hlate _ hcall] at hnot
      cases hnot
  | @reportCall other call status answer hcall _ hphase =>
      cases hthread
      refine ⟨rfl, rfl, rfl, ?_⟩
      rw [setCall_self]
      by_cases hfatal : status.isFatal
      · rw [if_pos hfatal]
        exact Nat.zero_le _
      · rw [if_neg hfatal]
        exact Nat.zero_le _
  | subscribe _ => cases hthread
  | streamStep _ _ => cases hthread
  | reportStream _ _ => cases hthread
  | exchangeStream _ => cases hthread
  | notifyStream _ => cases hthread
  | refreshWake _ => cases hthread
  | refreshCreate _ => cases hthread
  | refreshBreak _ _ => cases hthread
  | refreshStore _ _ => cases hthread
  | refreshExchange _ => cases hthread
  | refreshNotify _ => cases hthread
  | stopSubscriptions => cases hthread
  | stopRefresher => cases hthread

/-- The other threads leave a call alone. -/
theorem Step.call_kept (hstep : Step ext service label next) {id : Nat}
    (hthread : label.thread ≠ some (.call id)) : next.calls id = service.calls id := by
  have hne {other : Nat} (h : some (ServiceThread.call other) ≠ some (.call id)) : id ≠ other := by
    rintro rfl
    exact h rfl
  cases hstep with
  | beginCall _ => exact setCall_of_ne _ _ (hne hthread)
  | enterCall _ _ _ => exact setCall_of_ne _ _ (hne hthread)
  | acquireCall _ _ _ => exact setCall_of_ne _ _ (hne hthread)
  | workCall _ _ _ => exact setCall_of_ne _ _ (hne hthread)
  | exchangeCall _ _ => exact setCall_of_ne _ _ (hne hthread)
  | notifyCall _ _ => exact setCall_of_ne _ _ (hne hthread)
  | reportCall _ _ _ => exact setCall_of_ne _ _ (hne hthread)
  | subscribe _ => rfl
  | streamStep _ _ => rfl
  | reportStream _ _ => rfl
  | exchangeStream _ => rfl
  | notifyStream _ => rfl
  | refreshWake _ => rfl
  | refreshCreate _ => rfl
  | refreshBreak _ _ => rfl
  | refreshStore _ _ => rfl
  | refreshExchange _ => rfl
  | refreshNotify _ => rfl
  | stopSubscriptions => rfl
  | stopRefresher => rfl

/-- How many of the steps are those of a call. -/
def ownSteps (id : Nat) (labels : List ServiceLabel) : Nat :=
  labels.countP (fun label => label.thread = some (.call id))

/-- Each step of its own brings a late call nearer to its return, and no other step
takes it back. -/
theorem Sound.lateSteps_run (h : service.Sound) {labels : List ServiceLabel}
    (hrun : Run (Step ext) service labels next) (hflag : service.flag.isSome = true) {id : Nat}
    (hfree : service.calls id = none) : lateSteps (next.calls id) ≤ 3 - ownSteps id labels := by
  have hboth : next.Sound ∧ lateSteps (next.calls id) ≤ 3 - ownSteps id labels := by
    refine hrun.history (P := fun labels later =>
      later.Sound ∧ lateSteps (later.calls id) ≤ 3 - ownSteps id labels) ⟨h, ?_⟩ ?_
    · rw [hfree]
      exact le_refl 3
    · intro labels before label after hbefore ⟨hsound, hsteps⟩ hstep
      obtain ⟨hset, hlate⟩ := late_of_run hbefore hflag hfree
      refine ⟨hsound.step hstep, ?_⟩
      rw [ownSteps, List.countP_append, List.countP_singleton]
      rw [ownSteps] at hsteps
      by_cases hthread : label.thread = some (.call id)
      · have hnearer := (hsound.late_step hstep hthread hset hlate).nearer
        rw [if_pos (by simpa using hthread)]
        omega
      · rw [if_neg (by simpa using hthread), hstep.call_kept hthread]
        exact hsteps
  exact hboth.2

/-- A late call has a step until its operation has returned. -/
theorem Sound.late_proceeds (h : service.Sound) {id : Nat} {call : CoreCall}
    (hcall : service.calls id = some call) (hlate : call.late = true)
    (hleft : lateSteps (some call) ≠ 0) :
    ∃ after, Step ext service ⟨some (.call id), false⟩ after := by
  obtain ⟨hflag, hphase⟩ := (h.calls id call hcall).late hlate
  obtain ⟨status, hstatus⟩ := Option.isSome_iff_exists.mp hflag
  generalize hcurrent : call.phase = phase at hphase
  cases hphase with
  | called =>
      have henter : ∃ phase, call.operation.enter service.flag 0 [] = some phase := by
        rw [hstatus]
        unfold Operation.enter
        dsimp only [ensureAvailable]
        split
        · exact ⟨_, rfl⟩
        · exact ⟨_, rfl⟩
        all_goals
          rename_i heq
          cases heq
      obtain ⟨phase, henter⟩ := henter
      exact ⟨_, .enterCall hcall hcurrent henter⟩
  | acquiring operation =>
      have hacquire : service.shared.acquireStep .called = some (.done (.error gateClosed)) := by
        unfold SharedSnapshot.acquireStep
        rw [show service.shared.fatalError = some status from hstatus]
        rfl
      exact ⟨_, .acquireCall hcall hcurrent hacquire⟩
  | returned =>
      rw [lateSteps] at hleft
      rw [hcurrent] at hleft
      exact absurd rfl hleft
  | answered =>
      rw [lateSteps] at hleft
      rw [hcurrent] at hleft
      exact absurd rfl hleft

/-! ### The gate in a stream -/

/-- The stream is at the entry of `GetSubscriptionMaxSeq` or `FetchSubscriptionBatch`. -/
def entersCore : SubscriptionPhase → Bool
  | .ensuring => true
  | .fetching .called => true
  | _ => false

theorem gate_closed {subscription : Subscription} {config : Config} {shared : SharedSnapshot}
    (hflag : shared.fatalError.isSome = true) (henters : entersCore subscription.phase = true)
    (input : LoopInput) :
    subscription.step ext config shared input =
      some { subscription with phase := .returned gateClosed } := by
  obtain ⟨status, hstatus⟩ := Option.isSome_iff_exists.mp hflag
  unfold Subscription.step
  generalize subscription.phase = phase at henters ⊢
  unfold entersCore at henters
  split at henters
  · dsimp only
    rw [hstatus]
    rfl
  · dsimp only [Subscription.acquire, SharedSnapshot.acquireStep]
    rw [hstatus]
    rfl
  · cases henters

/-! ### The guarantee -/

/-- A call that is refused: it returns UNAVAILABLE and no data, has a step until it has
returned, and none of its steps touches the storage. -/
structure Refused (ext : Externals) (service : Service) (id : Nat) (call : CoreCall) : Prop where
  outcome : ∀ status answer, call.phase.result = some (status, answer) →
    status.code = .unavailable ∧ answer = .empty
  proceeds : call.phase.result = none → ∃ label next, Step ext service label next ∧
    label.thread = some (.call id)
  spares : ∀ label next, Step ext service label next → label.thread = some (.call id) →
    label.storage = false ∧ next.db = service.db ∧ next.dir = service.dir

/-- The same for an operation that a stream calls: it returns at its next step. -/
structure StreamRefused (ext : Externals) (service : Service) (id : Nat)
    (subscription : Subscription) : Prop where
  proceeds : ∃ label next, Step ext service label next ∧ label.thread = some (.stream id)
  refuses : ∀ label next, Step ext service label next → label.thread = some (.stream id) →
    label.storage = false ∧ next.db = service.db ∧ next.dir = service.dir ∧
      ∃ status, status.code = .unavailable ∧
        next.streams id = some (.running { subscription with phase := .returned status })

theorem Sound.refused (h : service.Sound) (hflag : service.flag.isSome = true) {id : Nat}
    {call : CoreCall} (hcall : service.calls id = some call) (hlate : call.late = true) :
    Refused ext service id call := by
  have hphase := ((h.calls id call hcall).late hlate).2
  have hlates : ∀ found, service.calls id = some found → found.late = true := by
    intro found hfound
    rw [hcall] at hfound
    cases hfound
    exact hlate
  constructor
  · intro status answer hresult
    generalize call.phase = phase at hphase hresult
    cases hphase with
    | called => cases hresult
    | acquiring _ => cases hresult
    | returned =>
        cases hresult
        exact ⟨rfl, rfl⟩
    | answered =>
        cases hresult
        exact ⟨rfl, rfl⟩
  · intro hresult
    have hleft : lateSteps (some call) ≠ 0 := by
      rw [lateSteps]
      generalize call.phase = phase at hphase hresult
      cases hphase with
      | called => exact Nat.succ_ne_zero 1
      | acquiring _ => exact Nat.succ_ne_zero 0
      | returned => cases hresult
      | answered => cases hresult
    obtain ⟨after, hstep⟩ := h.late_proceeds hcall hlate hleft
    exact ⟨_, after, hstep, rfl⟩
  · intro label next hstep hthread
    have hlate := h.late_step hstep hthread hflag hlates
    exact ⟨hlate.storage, hlate.db, hlate.dir⟩

theorem streamRefused (hflag : service.flag.isSome = true) {id : Nat} {subscription : Subscription}
    (hstream : service.streams id = some (.running subscription))
    (henters : entersCore subscription.phase = true) :
    StreamRefused ext service id subscription := by
  constructor
  · exact ⟨_, _, @Step.streamStep ext service id subscription _ {} hstream
      (gate_closed hflag henters {}), rfl⟩
  · intro label next hstep hthread
    cases hstep with
    | subscribe hfree =>
        cases hthread
        rw [hfree] at hstream
        cases hstream
    | @streamStep _ found after input hfound hnext =>
        cases hthread
        rw [hstream] at hfound
        cases hfound
        rw [gate_closed hflag henters input] at hnext
        cases hnext
        refine ⟨?_, rfl, rfl, gateClosed, rfl, Function.update_self _ _ _⟩
        generalize subscription.phase = phase at henters ⊢
        unfold entersCore at henters
        split at henters
        · rfl
        · rfl
        · cases henters
    | reportStream hfound hreturned =>
        cases hthread
        rw [hstream] at hfound
        cases hfound
        rw [hreturned] at henters
        cases henters
    | exchangeStream hfound =>
        cases hthread
        rw [hstream] at hfound
        cases hfound
    | notifyStream hfound =>
        cases hthread
        rw [hstream] at hfound
        cases hfound
    | beginCall _ => cases hthread
    | enterCall _ _ _ => cases hthread
    | acquireCall _ _ _ => cases hthread
    | workCall _ _ _ => cases hthread
    | exchangeCall _ _ => cases hthread
    | notifyCall _ _ => cases hthread
    | reportCall _ _ _ => cases hthread
    | refreshWake _ => cases hthread
    | refreshCreate _ => cases hthread
    | refreshBreak _ _ => cases hthread
    | refreshStore _ _ => cases hthread
    | refreshExchange _ => cases hthread
    | refreshNotify _ => cases hthread
    | stopSubscriptions => cases hthread
    | stopRefresher => cases hthread

/-- The fatal latch. From any state that the service can be in, over any run: the flag
is never cleared; the handler has been called at most once, with the status that set the
flag; an RPC or a stream answered with a fatal status has set the flag; and an operation
that begins once the flag is set is refused, at the latest after three steps of its own. -/
theorem fatal_latch {later : Service} {labels : List ServiceLabel} (h : service.Reachable ext)
    (hrun : Run (Step ext) service labels later) :
    (∀ status, service.flag = some status → later.flag = some status) ∧
    (later.handled = [] ∨ ∃ status, later.flag = some status ∧ later.handled = [status]) ∧
    (∀ id call status answer, later.calls id = some call →
      call.phase = .settled (.answered status answer) → status.isFatal = true →
      later.flag.isSome = true) ∧
    (∀ id status, later.streams id = some (.answered status) → status.isFatal = true →
      later.flag.isSome = true) ∧
    (service.flag.isSome = true → ∀ id, service.calls id = none →
      (∀ call, later.calls id = some call → Refused ext later id call) ∧
      (3 ≤ ownSteps id labels → ∃ call, later.calls id = some call ∧
        call.phase.result ≠ none)) ∧
    (later.flag.isSome = true → ∀ id subscription,
      later.streams id = some (.running subscription) → entersCore subscription.phase = true →
      StreamRefused ext later id subscription) := by
  have hsound : service.Sound := h.sound
  have hlater : later.Sound := hrun.invariant hsound (fun _ _ _ hs hstep => hs.step hstep)
  refine ⟨fun status => flag_stays_run hrun, hlater.latch.handled, ?_, ?_, ?_, ?_⟩
  · intro id call status answer hcall hphase hfatal
    exact (hlater.calls id call hcall).answered status answer hphase hfatal
  · intro id status hstream hfatal
    exact hlater.streams id _ hstream status rfl hfatal
  · intro hflag id hfree
    obtain ⟨hset, hlate⟩ := late_of_run hrun hflag hfree
    refine ⟨fun call hcall => hlater.refused hset hcall (hlate call hcall), ?_⟩
    intro hsteps
    have hleft := hsound.lateSteps_run hrun hflag hfree
    cases hfound : later.calls id with
    | none =>
        rw [hfound, lateSteps] at hleft
        omega
    | some call =>
        refine ⟨call, rfl, ?_⟩
        have hphase := ((hlater.calls id call hfound).late (hlate call hfound)).2
        rw [hfound, lateSteps] at hleft
        generalize call.phase = phase at hphase hleft
        cases hphase with
        | called => dsimp only at hleft; omega
        | acquiring _ => dsimp only at hleft; omega
        | returned => exact Option.some_ne_none _
        | answered => exact Option.some_ne_none _
  · intro hset id subscription hstream henters
    exact streamRefused hset hstream henters

end Service

namespace Reference

open Service

/-- What a core returns when RocksDB gives it no snapshot. -/
def noSnapshot : Status :=
  (Status.fatal .unavailable "create storage snapshot failed").withStorageDiagnostic
    "create storage snapshot" "RocksDB returned no snapshot"

def statusOperation : Operation := .read (.getStatus 7 credential)

def batchOperation : Operation :=
  .subscription (.fetchSubscriptionBatch 7 credential 1 100 false [])

/-- A `GetStatus` finds no snapshot, and its RPC is answered. -/
theorem failed_status_reached :
    ∃ service : Service, service.Reachable externals ∧ service.flag = some noSnapshot ∧
      service.handled = [noSnapshot] ∧ service.calls 1 = none := by
  have hbegun := Run.single (@Step.beginCall externals
    (start config openServer.db openServer.dir {}) 0 statusOperation rfl)
  have hentered := hbegun.snoc (@Step.enterCall externals _ 0 _ 0 []
    (.working (.read (.getStatus 7 credential))) (setCall_self _ _ _) rfl rfl)
  have hfailed := hentered.snoc (@Step.workCall externals _ 0 _ _
    { env := { faults := { snapshot := true } } } _ _ (.settled (.returned noSnapshot .empty))
    (setCall_self _ _ _) rfl rfl)
  have hreported := hfailed.snoc (.reportCall (setCall_self _ _ _) rfl rfl)
  have hraised := hreported.snoc (@Step.exchangeCall externals _ 0 _ noSnapshot
    (.answered noSnapshot .empty) (setCall_self _ _ _) rfl)
  have hanswered := hraised.snoc (@Step.notifyCall externals _ 0 _ noSnapshot
    (.answered noSnapshot .empty) (setCall_self _ _ _) rfl)
  exact ⟨_, ⟨config, openServer.db, openServer.dir, {}, _, hanswered⟩, rfl, rfl, rfl⟩

/-- The three steps of a `FetchSubscriptionBatch` behind a closed gate. -/
theorem batch_run {service : Service} {status : Status} (hflag : service.flag = some status)
    (hfree : service.calls 1 = none) :
    ∃ later, Run (Step externals) service (List.replicate 3 ⟨some (.call 1), false⟩) later ∧
      later.handled = service.handled := by
  have hbegun := Run.single (@Step.beginCall externals service 1 batchOperation hfree)
  have hentered := hbegun.snoc (@Step.enterCall externals _ 1 _ 0 [] _ (setCall_self _ _ _) rfl rfl)
  have hacquire : service.shared.acquireStep .called = some (.done (.error gateClosed)) := by
    unfold SharedSnapshot.acquireStep
    rw [show service.shared.fatalError = some status from hflag]
    rfl
  exact ⟨_, hentered.snoc (.acquireCall (setCall_self _ _ _) rfl hacquire), rfl⟩

theorem batch_refused_after_failed_status :
    ∃ later : Service, later.Reachable externals ∧ later.flag = some noSnapshot ∧
      later.handled = [noSnapshot] ∧ ∃ call status, later.calls 1 = some call ∧
        call.phase.result = some (status, .empty) ∧ status.code = .unavailable := by
  obtain ⟨service, hreachable, hflag, hhandled, hfree⟩ := failed_status_reached
  obtain ⟨later, hrun, hkept⟩ := batch_run hflag hfree
  obtain ⟨hstays, _, _, _, hlate, _⟩ := fatal_latch hreachable hrun
  obtain ⟨hrefused, hreturns⟩ := hlate (by rw [hflag]; rfl) 1 hfree
  obtain ⟨call, hcall, hresult⟩ := hreturns (by decide)
  obtain ⟨⟨status, answer⟩, hresult⟩ := Option.ne_none_iff_exists'.mp hresult
  obtain ⟨hcode, rfl⟩ := (hrefused call hcall).outcome status answer hresult
  obtain ⟨config, db, dir, faults, labels, hreached⟩ := hreachable
  exact ⟨later, ⟨config, db, dir, faults, _, hreached.append hrun⟩, hstays _ hflag,
    hkept.trans hhandled, call, status, hcall, hresult, hcode⟩

end Reference

end OpenEvent
