import OpenEvent.Guarantees.FatalLatch
import OpenEvent.Subscriptions.Commits

/-!
The refresh thread among the other threads of the service: which generations are
waited for, how the generations of the shared snapshot are ordered, and how many steps
of the refresh thread a wait lasts at most.
-/

namespace OpenEvent

open OpenEventCore

/-! ### Waits -/

/-- The generation that a call of `AcquireSubscriptionSnapshot` waits for. -/
def AcquirePhase.required : AcquirePhase → Option Nat
  | .waiting requiredGeneration => some requiredGeneration
  | _ => none

def CallPhase.required : CallPhase → Option Nat
  | .working (.acquire _ phase) => phase.required
  | _ => none

def SubscriptionPhase.required : SubscriptionPhase → Option Nat
  | .starting phase => phase.required
  | .fetching phase => phase.required
  | _ => none

def StreamPhase.required : StreamPhase → Option Nat
  | .running subscription => subscription.phase.required
  | _ => none

/-- The generation that a thread of the service waits for. -/
def Service.required (service : Service) : ServiceThread → Option Nat
  | .call id => (service.calls id).bind (fun call => call.phase.required)
  | .stream id => (service.streams id).bind StreamPhase.required
  | .refresher => none

theorem finishCall_required (state : CoreState) (status : Status) (answer : Answer) :
    (finishCall state status answer).required = none := by
  unfold finishCall
  split
  · rfl
  · rfl

theorem leaveCall_required (exit : Exit) : (leaveCall exit).required = none := by
  unfold leaveCall
  split
  · rfl
  · rfl

theorem continueWrite_required (call : WriteObjectCall) (state : CoreState)
    (progress : WriteObjectProgress) : (continueWrite call state progress).required = none := by
  unfold continueWrite
  split
  · rfl
  · exact finishCall_required _ _ _

/-- An operation does not wait at its gate. -/
theorem enter_required {fatalError : Option Status} {tsMs : UInt64}
    {random : List GetrandomResult} {operation : Operation} {phase : CallPhase}
    (h : operation.enter fatalError tsMs random = some phase) : phase.required = none := by
  unfold Operation.enter at h
  dsimp only at h
  repeat' split at h
  all_goals
    cases h
    try rfl

/-- Nor does work on the storage lead into a wait. -/
theorem work_required {ext : Externals} {config : Config} {state after : CoreState}
    {dir dir' : ObjectDirectory} {env : WorkEnv} {work : Work} {phase : CallPhase}
    (h : work.step ext config state dir env = some (after, dir', phase)) :
    phase.required = none := by
  unfold Work.step at h
  repeat' split at h
  all_goals
    cases h
    try first
      | rfl
      | exact finishCall_required _ _ _
      | exact leaveCall_required _
      | exact continueWrite_required _ _ _

/-- The steps of `AcquireSubscriptionSnapshot`. -/
theorem acquireStep_cases {shared : SharedSnapshot} {phase : AcquirePhase}
    {progress : AcquireProgress} (h : shared.acquireStep phase = some progress) :
    (phase = .called ∧ progress = .next .available) ∨
      (phase = .available ∧ progress = .next (.waiting shared.commitGeneration)) ∨
      (∃ status, progress = .done (.error status)) ∨
      ∃ requiredGeneration acquired, phase = .waiting requiredGeneration ∧
        progress = .done (.ok acquired) := by
  unfold SharedSnapshot.acquireStep at h
  split at h
  · split at h
    · cases h
      exact Or.inr (Or.inr (Or.inl ⟨_, rfl⟩))
    · cases h
      exact Or.inl ⟨rfl, rfl⟩
  · cases h
    exact Or.inr (Or.inl ⟨rfl, rfl⟩)
  · rename_i requiredGeneration
    split at h
    · cases h
      cases hacquired : shared.acquired requiredGeneration with
      | error status => exact Or.inr (Or.inr (Or.inl ⟨status, rfl⟩))
      | ok acquired => exact Or.inr (Or.inr (Or.inr ⟨requiredGeneration, acquired, rfl, rfl⟩))
    · cases h

/-- `AcquireSubscriptionSnapshot` waits for the commits that it has seen. -/
theorem acquireStep_required {shared : SharedSnapshot} {phase phase' : AcquirePhase}
    {requiredGeneration : Nat} (h : shared.acquireStep phase = some (.next phase'))
    (hrequired : phase'.required = some requiredGeneration) :
    requiredGeneration = shared.commitGeneration := by
  rcases acquireStep_cases h with ⟨_, hnext⟩ | ⟨_, hnext⟩ | ⟨_, hdone⟩ | ⟨_, _, _, hdone⟩
  · cases hnext
    cases hrequired
  · cases hnext
    exact (Option.some.inj hrequired).symm
  · cases hdone
  · cases hdone

theorem acquirePhase_required {shared : SharedSnapshot} {operation : SubscriptionOperation}
    {phase : AcquirePhase} {progress : AcquireProgress} {requiredGeneration : Nat}
    (h : shared.acquireStep phase = some progress)
    (hrequired : (acquirePhase operation progress).required = some requiredGeneration) :
    requiredGeneration = shared.commitGeneration := by
  unfold acquirePhase at hrequired
  split at hrequired
  · exact acquireStep_required h hrequired
  · cases hrequired
  · cases hrequired

theorem Subscription.acquire_required {shared : SharedSnapshot} {subscription after : Subscription}
    {phase : AcquirePhase} {waits : AcquirePhase → SubscriptionPhase}
    {goesOn : SubscriptionSnapshot → SubscriptionPhase} {requiredGeneration : Nat}
    (hwaits : ∀ phase, (waits phase).required = phase.required)
    (hgoesOn : ∀ acquired, (goesOn acquired).required = none)
    (h : subscription.acquire shared phase waits goesOn = some after)
    (hrequired : after.phase.required = some requiredGeneration) :
    requiredGeneration = shared.commitGeneration := by
  unfold acquire at h
  split at h
  · cases h
  · rename_i phase' hacquire
    cases h
    exact acquireStep_required hacquire ((hwaits phase').symm.trans hrequired)
  · cases h
    cases hrequired
  · cases h
    cases (hgoesOn _).symm.trans hrequired

theorem Subscription.step_required {ext : Externals} {config : Config} {shared : SharedSnapshot}
    {subscription after : Subscription} {input : LoopInput} {requiredGeneration : Nat}
    (h : subscription.step ext config shared input = some after)
    (hrequired : after.phase.required = some requiredGeneration) :
    requiredGeneration = shared.commitGeneration := by
  unfold step at h
  dsimp only at h
  split at h
  case h_2 => exact acquire_required (fun _ => rfl) (fun _ => rfl) h hrequired
  case h_5 => exact acquire_required (fun _ => rfl) (fun _ => rfl) h hrequired
  case h_7 =>
      cases h
      unfold finishBatch at hrequired
      dsimp only at hrequired
      split at hrequired
      · cases hrequired
      · cases hrequired
  case h_9 hphase =>
      split at h
      · cases h
        cases hrequired
      · cases h
        rw [hphase] at hrequired
        cases hrequired
  all_goals
    repeat' split at h
    all_goals
      cases h
      try cases hrequired

/-! ### What the refresh thread keeps -/

/-- What the other threads do to the state that the refresh thread works on. -/
structure SharedSnapshot.Grows (before after : SharedSnapshot) : Prop where
  commitGeneration : before.commitGeneration ≤ after.commitGeneration
  fatalError : before.fatalError.isSome = true → after.fatalError.isSome = true
  stop : before.stop = true → after.stop = true
  snapshot : after.snapshot = before.snapshot
  generation : after.generation = before.generation
  attemptGeneration : after.attemptGeneration = before.attemptGeneration
  status : after.status = before.status

theorem SharedSnapshot.Grows.refl (shared : SharedSnapshot) : shared.Grows shared :=
  ⟨le_refl _, fun h => h, fun h => h, rfl, rfl, rfl, rfl⟩

/-- No piece of work takes the generation back. -/
theorem work_generation {ext : Externals} {config : Config} {state after : CoreState}
    {dir dir' : ObjectDirectory} {env : WorkEnv} {work : Work} {phase : CallPhase}
    (h : work.step ext config state dir env = some (after, dir', phase)) :
    state.commitGeneration ≤ after.commitGeneration := by
  have hraised {after : CoreState} {applied : Bool} (h : Accounted state after applied) :
      state.commitGeneration ≤ after.commitGeneration := by
    cases applied with
    | false => exact (h.skipped rfl).ge
    | true =>
        rcases h.applied rfl with hnext | ⟨hsame, _⟩
        · omega
        · exact hsame.ge
  cases work with
  | mutation change tsMs =>
      rw [Work.step] at h
      split at h
      · cases h
      · cases h
        exact hraised (Accounted.conclude state env.env _)
  | write call =>
      rw [Work.step] at h
      split at h
      · cases h
        exact hraised (Accounted.prepareSection ext state env.env _ _)
      · split at h
        · cases h
        · cases h
          exact le_refl _
        · cases h
          exact hraised (Accounted.afterFileWrite state _ _)
      · cases h
        exact hraised (Accounted.commitSection ext state env.env _ _)
      · split at h
        · cases h
        · cases h
          exact le_refl _
        · cases h
          exact hraised (Accounted.afterCleanup state _ _)
      · rename_i result _
        cases h
        exact hraised (Accounted.deletePreparingSection state env.env _ result)
  | read operation =>
      rw [Work.step] at h
      split at h <;> cases h <;> exact le_refl _
  | record request =>
      rw [Work.step] at h
      split at h <;> cases h <;> exact le_refl _
  | file request object =>
      rw [Work.step] at h
      split at h <;> cases h <;> exact le_refl _
  | acquire operation phase => cases h
  | snapshot operation acquired =>
      rw [Work.step] at h
      split at h <;> cases h <;> exact le_refl _

namespace Service

variable {ext : Externals} {service next : Service} {label : ServiceLabel}

theorem exchange_grows (service : Service) (status : Status) :
    service.shared.Grows (service.exchange status).shared :=
  ⟨le_refl _, fun _ => exchange_isSome service status, fun h => h, rfl, rfl, rfl, rfl⟩

/-- A step of any other thread leaves the refresh thread where it is. -/
theorem Step.grows (h : Step ext service label next) (hthread : label.thread ≠ some .refresher) :
    next.refresher = service.refresher ∧ service.shared.Grows next.shared := by
  cases h with
  | workCall _ _ hwork =>
      refine ⟨rfl, ?_, fun h => h, fun h => h, rfl, rfl, rfl, rfl⟩
      exact work_generation hwork
  | exchangeCall _ _ => exact ⟨rfl, exchange_grows service _⟩
  | exchangeStream _ => exact ⟨rfl, exchange_grows service _⟩
  | stopRefresher =>
      exact ⟨rfl, le_refl _, fun h => h, fun _ => rfl, rfl, rfl, rfl, rfl⟩
  | refreshWake _ => exact absurd rfl hthread
  | refreshCreate _ => exact absurd rfl hthread
  | refreshBreak _ _ => exact absurd rfl hthread
  | refreshStore _ _ => exact absurd rfl hthread
  | refreshExchange _ => exact absurd rfl hthread
  | refreshNotify _ => exact absurd rfl hthread
  | _ => exact ⟨rfl, .refl _⟩

/-- Nothing the refresh thread does changes the generation that is committed. -/
theorem Step.refresher_commitGeneration (h : Step ext service label next)
    (hthread : label.thread = some .refresher) :
    next.shared.commitGeneration = service.shared.commitGeneration ∧
      next.calls = service.calls ∧ next.streams = service.streams := by
  cases h with
  | @refreshStore generation snapshot hphase _ =>
      refine ⟨?_, rfl, rfl⟩
      cases snapshot <;> rfl
  | refreshWake _ => exact ⟨rfl, rfl, rfl⟩
  | refreshCreate _ => exact ⟨rfl, rfl, rfl⟩
  | refreshBreak _ _ => exact ⟨rfl, rfl, rfl⟩
  | refreshExchange _ => exact ⟨rfl, rfl, rfl⟩
  | refreshNotify _ => exact ⟨rfl, rfl, rfl⟩
  | _ => cases hthread

/-- Where the refresh thread may be, next to what it shares. -/
def RefresherSound (shared : SharedSnapshot) : RefresherPhase → Prop
  | .refreshing .waiting => True
  | .refreshing (.loaded generation) =>
      shared.attemptGeneration ≤ generation ∧ generation ≤ shared.commitGeneration
  | .refreshing (.created generation snapshot) =>
      shared.attemptGeneration ≤ generation ∧ generation ≤ shared.commitGeneration ∧
        ∀ status, snapshot = .error status → status.isOk = false
  | .refreshing (.failing _) => True
  | .refreshing .ended => shared.stop = true ∨ shared.fatalError.isSome = true
  | .notifying _ => shared.fatalError.isSome = true

/-- The generations are in order, and nothing waits for one that is not committed. -/
structure RefreshSound (service : Service) : Prop where
  generation : service.shared.generation ≤ service.shared.attemptGeneration
  attempt : service.shared.attemptGeneration ≤ service.shared.commitGeneration
  refresher : RefresherSound service.shared service.refresher
  required : ∀ thread requiredGeneration, service.required thread = some requiredGeneration →
    requiredGeneration ≤ service.shared.commitGeneration

theorem RefresherSound.grows {before after : SharedSnapshot} {phase : RefresherPhase}
    (h : RefresherSound before phase) (hgrows : before.Grows after) :
    RefresherSound after phase := by
  have hattempt := hgrows.attemptGeneration
  have hcommit := hgrows.commitGeneration
  unfold RefresherSound at h ⊢
  split at h
  · exact True.intro
  · exact ⟨by omega, by omega⟩
  · exact ⟨by omega, by omega, h.2.2⟩
  · exact True.intro
  · exact h.imp hgrows.stop hgrows.fatalError
  · exact hgrows.fatalError h

theorem required_setCall (service : Service) {id : Nat} {call : CoreCall} {thread : ServiceThread}
    {requiredGeneration : Nat}
    (h : (service.setCall id call).required thread = some requiredGeneration) :
    service.required thread = some requiredGeneration ∨
      call.phase.required = some requiredGeneration := by
  cases thread with
  | call other =>
      by_cases heq : other = id
      · subst heq
        rw [required, setCall_self] at h
        exact Or.inr h
      · rw [required, setCall_of_ne _ _ heq] at h
        exact Or.inl h
  | stream other => exact Or.inl h
  | refresher => exact Or.inl h

@[simp] theorem setStream_self (service : Service) (id : Nat) (phase : StreamPhase) :
    (service.setStream id phase).streams id = some phase :=
  Function.update_self _ _ _

theorem setStream_of_ne (service : Service) {id other : Nat} (phase : StreamPhase)
    (h : other ≠ id) : (service.setStream id phase).streams other = service.streams other :=
  Function.update_of_ne h _ _

theorem required_setStream (service : Service) {id : Nat} {phase : StreamPhase}
    {thread : ServiceThread} {requiredGeneration : Nat}
    (h : (service.setStream id phase).required thread = some requiredGeneration) :
    service.required thread = some requiredGeneration ∨
      phase.required = some requiredGeneration := by
  cases thread with
  | stream other =>
      by_cases heq : other = id
      · subst heq
        rw [required, setStream_self] at h
        exact Or.inr h
      · rw [required, setStream_of_ne _ _ heq] at h
        exact Or.inl h
  | call other => exact Or.inl h
  | refresher => exact Or.inl h

/-- A wait after a step was there before, or it is for what is committed now. -/
theorem Step.required (h : Step ext service label next) {thread : ServiceThread}
    {requiredGeneration : Nat} (hrequired : next.required thread = some requiredGeneration) :
    service.required thread = some requiredGeneration ∨
      requiredGeneration = service.shared.commitGeneration := by
  have hcall {after : Service} {id : Nat} {call : CoreCall}
      (hsame : after.required = service.required)
      (hrequired : (after.setCall id call).required thread = some requiredGeneration)
      (hnone : call.phase.required = none) :
      service.required thread = some requiredGeneration ∨
        requiredGeneration = service.shared.commitGeneration := by
    rcases required_setCall after hrequired with hold | hnew
    · exact Or.inl (hsame ▸ hold)
    · cases hnone.symm.trans hnew
  have hstream {after : Service} {id : Nat} {phase : StreamPhase}
      (hsame : after.required = service.required)
      (hrequired : (after.setStream id phase).required thread = some requiredGeneration)
      (hnone : phase.required = none) :
      service.required thread = some requiredGeneration ∨
        requiredGeneration = service.shared.commitGeneration := by
    rcases required_setStream after hrequired with hold | hnew
    · exact Or.inl (hsame ▸ hold)
    · cases hnone.symm.trans hnew
  cases h with
  | beginCall _ => exact hcall rfl hrequired rfl
  | enterCall _ _ henter => exact hcall rfl hrequired (enter_required henter)
  | acquireCall _ _ hacquire =>
      rcases required_setCall service hrequired with hold | hnew
      · exact Or.inl hold
      · exact Or.inr (acquirePhase_required hacquire hnew)
  | workCall _ _ hwork => exact hcall rfl hrequired (work_required hwork)
  | exchangeCall _ _ =>
      refine hcall rfl hrequired ?_
      unfold afterExchange
      split <;> rfl
  | notifyCall _ _ => exact hcall rfl hrequired rfl
  | reportCall _ _ _ =>
      refine hcall rfl hrequired ?_
      dsimp only
      split <;> rfl
  | subscribe _ =>
      refine hstream rfl hrequired ?_
      split <;> rfl
  | streamStep _ hmove =>
      rcases required_setStream service hrequired with hold | hnew
      · exact Or.inl hold
      · exact Or.inr (Subscription.step_required hmove hnew)
  | reportStream _ _ =>
      refine hstream rfl hrequired ?_
      split <;> rfl
  | exchangeStream _ =>
      refine hstream rfl hrequired ?_
      unfold afterExchange
      split <;> rfl
  | notifyStream _ => exact hstream rfl hrequired rfl
  | _ => exact Or.inl hrequired

theorem createSnapshot_error {db : Db} {faults : ReadFaults} {status : Status}
    (h : UnifiedStorage.createSnapshot db faults = .error status) :
    status.isOk = false ∧ status.requiresServerExit = true := by
  unfold UnifiedStorage.createSnapshot at h
  split at h
  · cases h
    exact ⟨rfl, rfl⟩
  · cases h

/-- The refresh thread keeps the generations in order. -/
theorem RefreshSound.refresh (h : service.RefreshSound) (hstep : Step ext service label next)
    (hthread : label.thread = some .refresher) :
    next.shared.generation ≤ next.shared.attemptGeneration ∧
      next.shared.attemptGeneration ≤ next.shared.commitGeneration ∧
      RefresherSound next.shared next.refresher := by
  have hgeneration := h.generation
  have hattempt := h.attempt
  have hsound := h.refresher
  cases hstep with
  | refreshWake hphase =>
      refine ⟨hgeneration, hattempt, ?_⟩
      unfold SharedSnapshot.refreshWake
      split
      · rename_i hend
        simpa [RefresherSound] using hend
      · split
        · exact True.intro
        · exact ⟨hattempt, le_refl _⟩
  | @refreshCreate generation faults hphase =>
      rw [hphase] at hsound
      refine ⟨hgeneration, hattempt, hsound.1, hsound.2, ?_⟩
      intro status hfailed
      cases hsnapshot : UnifiedStorage.createSnapshot service.db faults with
      | ok db =>
          rw [hsnapshot] at hfailed
          cases hfailed
      | error found =>
          rw [hsnapshot] at hfailed
          cases hfailed
          exact (createSnapshot_error hsnapshot).1
  | refreshBreak hphase hflag => exact ⟨hgeneration, hattempt, Or.inr hflag⟩
  | @refreshStore generation snapshot hphase hflag =>
      rw [hphase] at hsound
      obtain ⟨hfrom, hto, _⟩ := hsound
      cases snapshot with
      | ok found => exact ⟨le_refl _, hto, True.intro⟩
      | error status =>
          refine ⟨hgeneration.trans hfrom, hto, ?_⟩
          unfold SharedSnapshot.afterRefresh
          dsimp only
          split
          · exact True.intro
          · exact True.intro
  | @refreshExchange status hphase =>
      refine ⟨hgeneration, hattempt, ?_⟩
      have hset := exchange_isSome service status
      unfold afterExchange
      split
      · exact Or.inr hset
      · exact hset
  | refreshNotify hphase =>
      rw [hphase] at hsound
      exact ⟨hgeneration, hattempt, Or.inr hsound⟩
  | _ => cases hthread

theorem RefreshSound.step (h : service.RefreshSound) (hstep : Step ext service label next) :
    next.RefreshSound := by
  have hrequired (hle : service.shared.commitGeneration ≤ next.shared.commitGeneration)
      (thread : ServiceThread) (requiredGeneration : Nat)
      (hnext : next.required thread = some requiredGeneration) :
      requiredGeneration ≤ next.shared.commitGeneration := by
    rcases hstep.required hnext with hold | hnew
    · exact (h.required thread requiredGeneration hold).trans hle
    · exact hnew.le.trans hle
  by_cases hthread : label.thread = some .refresher
  · obtain ⟨hgeneration, hattempt, hrefresher⟩ := h.refresh hstep hthread
    have hsame := (hstep.refresher_commitGeneration hthread).1
    exact ⟨hgeneration, hattempt, hrefresher, hrequired hsame.ge⟩
  · obtain ⟨hkept, hgrows⟩ := hstep.grows hthread
    refine ⟨?_, ?_, ?_, hrequired hgrows.commitGeneration⟩
    · rw [hgrows.generation, hgrows.attemptGeneration]
      exact h.generation
    · rw [hgrows.attemptGeneration]
      exact h.attempt.trans hgrows.commitGeneration
    · rw [hkept]
      exact h.refresher.grows hgrows

theorem refreshSound_start (config : Config) (db : Db) (dir : ObjectDirectory)
    (faults : ReadFaults) : (start config db dir faults).RefreshSound := by
  have hnone (refresher : RefresherPhase) (shared : SharedSnapshot) (handled : List Status)
      (thread : ServiceThread) (requiredGeneration : Nat)
      (h : ({ config, db, dir, shared, refresher, handled } : Service).required thread =
        some requiredGeneration) : requiredGeneration ≤ shared.commitGeneration := by
    cases thread <;> cases h
  unfold start
  split
  · exact ⟨le_refl _, le_refl _, True.intro, hnone _ _ _⟩
  · split
    · exact ⟨le_refl _, le_refl _, Or.inr rfl, hnone _ _ _⟩
    · exact ⟨le_refl _, le_refl _, True.intro, hnone _ _ _⟩

theorem Reachable.refreshSound (h : service.Reachable ext) : service.RefreshSound := by
  obtain ⟨config, db, dir, faults, labels, hrun⟩ := h
  exact hrun.invariant (refreshSound_start config db dir faults) (fun _ _ _ => RefreshSound.step)

end Service

/-! ### Waits end -/

namespace SharedSnapshot

variable {shared before after : SharedSnapshot} {requiredGeneration : Nat}

theorem wakes_iff : shared.wakes requiredGeneration = true ↔
    shared.stop = true ∨ shared.fatalError.isSome = true ∨
      requiredGeneration ≤ shared.generation ∨
      shared.status.isOk = false ∧ requiredGeneration ≤ shared.attemptGeneration := by
  simp [wakes, settles, failed, or_assoc]

theorem Grows.wakes (hgrows : before.Grows after)
    (h : before.wakes requiredGeneration = true) : after.wakes requiredGeneration = true := by
  rw [wakes_iff] at h ⊢
  rw [hgrows.generation, hgrows.status, hgrows.attemptGeneration]
  exact h.imp hgrows.stop (Or.imp_left hgrows.fatalError)

/-- The outcome of a refresh ends every wait for its generation. -/
theorem refreshed_wakes {generation : Nat} {snapshot : Result ReadSnapshot}
    (hfailed : ∀ status, snapshot = .error status → status.isOk = false)
    (h : requiredGeneration ≤ generation) :
    (shared.refreshed generation snapshot).wakes requiredGeneration = true := by
  rw [wakes_iff]
  cases snapshot with
  | ok found => exact Or.inr (Or.inr (Or.inl h))
  | error status => exact Or.inr (Or.inr (Or.inr ⟨hfailed status rfl, h⟩))

end SharedSnapshot

namespace Service

variable {ext : Externals} {service next later : Service} {label : ServiceLabel}
  {labels : List ServiceLabel} {requiredGeneration : Nat}

/-- A wait that may end stays so. -/
theorem RefreshSound.wakes_step (h : service.RefreshSound) (hstep : Step ext service label next)
    (hwakes : service.shared.wakes requiredGeneration = true) :
    next.shared.wakes requiredGeneration = true := by
  by_cases hthread : label.thread = some .refresher
  · cases hstep with
    | @refreshStore generation snapshot hphase hflag =>
        have hsound := h.refresher
        rw [hphase] at hsound
        obtain ⟨hfrom, _, hfailed⟩ := hsound
        rcases SharedSnapshot.wakes_iff.mp hwakes with hstop | hset | hreached | ⟨_, hattempted⟩
        · rw [SharedSnapshot.wakes_iff]
          cases snapshot <;> exact Or.inl hstop
        · rw [show service.shared.fatalError = none from hflag] at hset
          cases hset
        · exact SharedSnapshot.refreshed_wakes hfailed (hreached.trans (h.generation.trans hfrom))
        · exact SharedSnapshot.refreshed_wakes hfailed (hattempted.trans hfrom)
    | @refreshExchange status hphase => exact (exchange_grows service status).wakes hwakes
    | refreshWake _ => exact hwakes
    | refreshCreate _ => exact hwakes
    | refreshBreak _ _ => exact hwakes
    | refreshNotify _ => exact hwakes
    | _ => cases hthread
  · exact (hstep.grows hthread).2.wakes hwakes

/-- How many steps the refresh thread may take from here until it has dealt with a
generation that is committed. -/
def refresherLeft (requiredGeneration : Nat) : RefresherPhase → Nat
  | .refreshing .waiting => 3
  | .refreshing (.loaded generation) => if requiredGeneration ≤ generation then 2 else 5
  | .refreshing (.created generation _) => if requiredGeneration ≤ generation then 1 else 4
  | .refreshing (.failing _) => 1
  | .refreshing .ended => 1
  | .notifying _ => 1

/-- The same for a wait, which may already be over. -/
def refreshesLeft (requiredGeneration : Nat) (service : Service) : Nat :=
  if service.shared.wakes requiredGeneration = true then 0
  else refresherLeft requiredGeneration service.refresher

theorem refreshesLeft_wakes (h : service.shared.wakes requiredGeneration = true) :
    refreshesLeft requiredGeneration service = 0 :=
  if_pos h

/-- A wait that goes on for something committed makes the refresh thread load it. -/
theorem refreshWake_loads {shared : SharedSnapshot}
    (hasleep : shared.wakes requiredGeneration ≠ true)
    (hcommitted : requiredGeneration ≤ shared.commitGeneration) :
    shared.refreshWake = .loaded shared.commitGeneration := by
  rw [Ne, SharedSnapshot.wakes_iff] at hasleep
  unfold SharedSnapshot.refreshWake
  rw [if_neg, if_neg]
  · intro hidle
    have hreached : shared.commitGeneration = shared.generation := by
      simpa using (Bool.and_eq_true_iff.mp hidle).2
    exact hasleep (Or.inr (Or.inr (Or.inl (hcommitted.trans hreached.le))))
  · intro hended
    rcases Bool.or_eq_true_iff.mp hended with hstop | hset
    · exact hasleep (Or.inl hstop)
    · exact hasleep (Or.inr (Or.inl hset))

theorem afterRefresh_left (requiredGeneration : Nat) (snapshot : Result ReadSnapshot) :
    refresherLeft requiredGeneration (.refreshing (SharedSnapshot.afterRefresh snapshot)) ≤ 3 := by
  unfold SharedSnapshot.afterRefresh
  split
  · exact le_refl _
  · split
    · exact Nat.le_of_ble_eq_true rfl
    · exact le_refl _

/-- Each step of the refresh thread shortens a wait for what is committed. -/
theorem RefreshSound.refresh_shortens (h : service.RefreshSound)
    (hstep : Step ext service label next) (hthread : label.thread = some .refresher)
    (hcommitted : requiredGeneration ≤ service.shared.commitGeneration) :
    refreshesLeft requiredGeneration next ≤ refreshesLeft requiredGeneration service - 1 := by
  by_cases hwakes : service.shared.wakes requiredGeneration = true
  · rw [refreshesLeft_wakes (h.wakes_step hstep hwakes)]
    exact Nat.zero_le _
  by_cases hlater : next.shared.wakes requiredGeneration = true
  · rw [refreshesLeft_wakes hlater]
    exact Nat.zero_le _
  have hawake := mt SharedSnapshot.wakes_iff.mpr hwakes
  have hsound := h.refresher
  unfold refreshesLeft
  rw [if_neg hwakes, if_neg hlater]
  cases hstep with
  | refreshWake hphase =>
      dsimp only
      rw [hphase, refreshWake_loads hwakes hcommitted]
      simp [refresherLeft, hcommitted]
  | @refreshCreate generation faults hphase =>
      rw [hphase]
      unfold refresherLeft
      dsimp only
      split
      · exact le_refl _
      · exact le_refl _
  | refreshBreak hphase hflag => exact absurd (Or.inr (Or.inl hflag)) hawake
  | @refreshStore generation snapshot hphase hflag =>
      rw [hphase] at hsound ⊢
      have hless : ¬ requiredGeneration ≤ generation := by
        intro hreached
        exact hlater (SharedSnapshot.refreshed_wakes hsound.2.2 hreached)
      have hbefore : refresherLeft requiredGeneration
          (.refreshing (.created generation snapshot)) = 4 := if_neg hless
      have hafter := afterRefresh_left requiredGeneration snapshot
      dsimp only
      omega
  | @refreshExchange status hphase =>
      refine absurd (SharedSnapshot.wakes_iff.mpr (Or.inr (Or.inl ?_))) hlater
      exact exchange_isSome service status
  | refreshNotify hphase =>
      rw [hphase] at hsound
      exact absurd (Or.inr (Or.inl hsound)) hawake
  | _ => cases hthread

/-- The other threads do not lengthen it. -/
theorem refreshesLeft_grows (hstep : Step ext service label next)
    (hthread : label.thread ≠ some .refresher) :
    refreshesLeft requiredGeneration next ≤ refreshesLeft requiredGeneration service := by
  obtain ⟨hkept, hgrows⟩ := hstep.grows hthread
  unfold refreshesLeft
  rw [hkept]
  by_cases hwakes : service.shared.wakes requiredGeneration = true
  · rw [if_pos hwakes, if_pos (hgrows.wakes hwakes)]
  · rw [if_neg hwakes]
    split
    · exact Nat.zero_le _
    · exact le_refl _

theorem refresherLeft_bounds (requiredGeneration : Nat) (phase : RefresherPhase) :
    0 < refresherLeft requiredGeneration phase ∧ refresherLeft requiredGeneration phase ≤ 5 := by
  unfold refresherLeft
  repeat' split
  all_goals omega

/-- How many of the steps are those of the refresh thread. -/
def refresherSteps (labels : List ServiceLabel) : Nat :=
  labels.countP (fun label => label.thread = some .refresher)

/-- Five steps of the refresh thread end any wait for what is committed. -/
theorem RefreshSound.wakes_after (h : service.RefreshSound)
    (hrun : Run (Step ext) service labels later)
    (hcommitted : requiredGeneration ≤ service.shared.commitGeneration)
    (hsteps : 5 ≤ refresherSteps labels) : later.shared.wakes requiredGeneration = true := by
  have hinv (before : Service) (label : ServiceLabel) (after : Service)
      (hbefore : before.RefreshSound ∧ requiredGeneration ≤ before.shared.commitGeneration)
      (hstep : Step ext before label after) :
      after.RefreshSound ∧ requiredGeneration ≤ after.shared.commitGeneration := by
    refine ⟨hbefore.1.step hstep, hbefore.2.trans ?_⟩
    by_cases hthread : label.thread = some .refresher
    · exact (hstep.refresher_commitGeneration hthread).1.ge
    · exact (hstep.grows hthread).2.commitGeneration
  have hleft : refreshesLeft requiredGeneration later ≤
      refreshesLeft requiredGeneration service - refresherSteps labels := by
    refine hrun.lowers ⟨h, hcommitted⟩ hinv ?_
    intro before label after hbefore hstep
    by_cases hthread : label.thread = some .refresher
    · simpa [hthread] using hbefore.1.refresh_shortens hstep hthread hbefore.2
    · simpa [hthread] using refreshesLeft_grows hstep hthread
  by_contra hasleep
  have hpositive : 0 < refreshesLeft requiredGeneration later := by
    rw [refreshesLeft, if_neg hasleep]
    exact (refresherLeft_bounds _ _).1
  have hbound : refreshesLeft requiredGeneration service ≤ 5 := by
    unfold refreshesLeft
    split
    · exact Nat.zero_le _
    · exact (refresherLeft_bounds _ _).2
  omega

/-- The end of a wait, on behalf of the loop of a stream. -/
theorem acquire_awake {shared : SharedSnapshot} (subscription : Subscription)
    {waits : AcquirePhase → SubscriptionPhase} {goesOn : SubscriptionSnapshot → SubscriptionPhase}
    (hgoesOn : ∀ acquired, (goesOn acquired).required = none)
    (hwakes : shared.wakes requiredGeneration = true) :
    ∃ after, subscription.acquire shared (.waiting requiredGeneration) waits goesOn = some after ∧
      after.phase.required = none := by
  have hacquire : shared.acquireStep (.waiting requiredGeneration) =
      some (.done (shared.acquired requiredGeneration)) := if_pos hwakes
  unfold Subscription.acquire
  rw [hacquire]
  cases shared.acquired requiredGeneration with
  | error status => exact ⟨_, rfl, rfl⟩
  | ok acquired => exact ⟨_, rfl, hgoesOn acquired⟩

/-- A stream that waits makes the step that ends its wait. -/
theorem stream_awake {subscription : Subscription} {shared : SharedSnapshot} (ext : Externals)
    (config : Config) (input : LoopInput)
    (hrequired : subscription.phase.required = some requiredGeneration)
    (hwakes : shared.wakes requiredGeneration = true) :
    ∃ after, subscription.step ext config shared input = some after ∧
      after.phase.required = none := by
  unfold SubscriptionPhase.required at hrequired
  split at hrequired
  · rename_i phase hphase
    cases phase with
    | called => cases hrequired
    | available => cases hrequired
    | waiting found =>
        cases hrequired
        unfold Subscription.step
        rw [hphase]
        exact acquire_awake subscription (fun _ => rfl) hwakes
  · rename_i phase hphase
    cases phase with
    | called => cases hrequired
    | available => cases hrequired
    | waiting found =>
        cases hrequired
        unfold Subscription.step
        rw [hphase]
        exact acquire_awake subscription (fun _ => rfl) hwakes
  · cases hrequired

/-- The refresh thread has a step, or it has ended and nothing waits for it. -/
theorem RefreshSound.refresher_goes_on (h : service.RefreshSound) (ext : Externals) :
    (∃ label next, label.thread = some .refresher ∧ Step ext service label next) ∨
      ∀ requiredGeneration, service.shared.wakes requiredGeneration = true := by
  have hsound := h.refresher
  cases hphase : service.refresher with
  | notifying status => exact Or.inl ⟨_, _, rfl, .refreshNotify hphase⟩
  | refreshing phase =>
      cases phase with
      | waiting => exact Or.inl ⟨_, _, rfl, .refreshWake hphase⟩
      | loaded generation =>
          exact Or.inl ⟨_, _, rfl, @Step.refreshCreate ext service generation {} hphase⟩
      | created generation snapshot =>
          cases hflag : service.flag with
          | none => exact Or.inl ⟨_, _, rfl, .refreshStore hphase hflag⟩
          | some status => exact Or.inl ⟨_, _, rfl, .refreshBreak hphase (by rw [hflag]; rfl)⟩
      | failing status => exact Or.inl ⟨_, _, rfl, .refreshExchange hphase⟩
      | ended =>
          rw [hphase] at hsound
          refine Or.inr (fun requiredGeneration => SharedSnapshot.wakes_iff.mpr ?_)
          exact hsound.imp id Or.inl

/-- A thread whose wait may end has a step that ends it. -/
theorem required_goes_on {thread : ServiceThread}
    (hrequired : service.required thread = some requiredGeneration)
    (hwakes : service.shared.wakes requiredGeneration = true) :
    ∃ label next, label.thread = some thread ∧ Step ext service label next ∧
      next.required thread = none := by
  have hacquire : service.shared.acquireStep (.waiting requiredGeneration) =
      some (.done (service.shared.acquired requiredGeneration)) := if_pos hwakes
  cases thread with
  | call id =>
      obtain ⟨call, hcall, hphase⟩ := Option.bind_eq_some_iff.mp hrequired
      unfold CallPhase.required at hphase
      split at hphase
      · rename_i operation phase hworking
        cases phase with
        | called => cases hphase
        | available => cases hphase
        | waiting found =>
            cases hphase
            refine ⟨_, _, rfl, .acquireCall hcall hworking hacquire, ?_⟩
            rw [required, setCall_self]
            cases service.shared.acquired requiredGeneration <;> rfl
      · cases hphase
  | stream id =>
      obtain ⟨phase, hstream, hphase⟩ := Option.bind_eq_some_iff.mp hrequired
      cases phase with
      | latching phase status => cases hphase
      | answered status => cases hphase
      | running subscription =>
          obtain ⟨after, hmove, hnone⟩ := stream_awake ext service.config {} hphase hwakes
          refine ⟨_, _, rfl, .streamStep hstream hmove, ?_⟩
          rw [required, setStream_self]
          exact hnone
  | refresher => cases hrequired

end Service

end OpenEvent
