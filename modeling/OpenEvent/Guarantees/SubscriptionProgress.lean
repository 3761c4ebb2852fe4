import OpenEvent.Refinement.ScanTrace
import OpenEvent.Subscriptions.RefreshProgress

/-!
No wait for the shared snapshot lasts: whatever the other threads do, a few steps of
the refresh thread end it. A cancelled stream has a bounded number of steps left and
is held up by nothing but such a wait.
-/

namespace OpenEvent

open OpenEventCore

namespace Service

variable {ext : Externals} {service next later : Service} {label : ServiceLabel}
  {labels : List ServiceLabel}

/-- A thread that waits for the shared snapshot may go on once the refresh thread has
made five steps, whatever the other threads do, and then stays free to. The refresh
thread has a step whenever one of them waits in vain. -/
theorem snapshot_waits_end (h : service.Reachable ext)
    (hrun : Run (Step ext) service labels later) :
    (∀ thread requiredGeneration, service.required thread = some requiredGeneration →
      5 ≤ refresherSteps labels → later.shared.wakes requiredGeneration = true) ∧
    (∀ requiredGeneration, service.shared.wakes requiredGeneration = true →
      later.shared.wakes requiredGeneration = true) ∧
    (∀ thread requiredGeneration, later.required thread = some requiredGeneration →
      if later.shared.wakes requiredGeneration = true then
        ∃ label next, label.thread = some thread ∧ Step ext later label next ∧
          next.required thread = none
      else ∃ label next, label.thread = some .refresher ∧ Step ext later label next) := by
  have hsound := h.refreshSound
  have hinv (before : Service) (label : ServiceLabel) (after : Service)
      (hbefore : before.RefreshSound) (hstep : Step ext before label after) : after.RefreshSound :=
    hbefore.step hstep
  refine ⟨?_, ?_, ?_⟩
  · intro thread requiredGeneration hrequired hsteps
    exact hsound.wakes_after hrun (hsound.required thread requiredGeneration hrequired) hsteps
  · intro requiredGeneration hwakes
    exact (hrun.invariant (P := fun reached => reached.RefreshSound ∧
      reached.shared.wakes requiredGeneration = true) ⟨hsound, hwakes⟩
      (fun _ _ _ hbefore hstep => ⟨hbefore.1.step hstep, hbefore.1.wakes_step hstep hbefore.2⟩)).2
  · intro thread requiredGeneration hrequired
    split
    · rename_i hwakes
      exact required_goes_on hrequired hwakes
    · rename_i hasleep
      rcases (hrun.invariant hsound hinv).refresher_goes_on ext with hstep | hall
      · exact hstep
      · exact absurd (hall requiredGeneration) hasleep

end Service

/-! ### Pages from any database -/

/-- What holds between the visits of a scan gives what holds at its end, whatever is
stored. -/
theorem scanMessages_visits {σ : Type} {ext : Externals} {db : Db} {faults : ReadFaults}
    {fromSeq lastSeq maxRecords : UInt64}
    {visitor : σ → EventMessage → σ × Result UnifiedStorage.MessageScanAction} {state : σ}
    {P Q : σ → Prop} (hend : ∀ state, P state → Q state)
    (hvisit : ∀ state message, P state → Q (visitor state message).1)
    (hcontinue : ∀ state message next, P state →
      visitor state message = (next, .ok .kContinue) → P next) (hstate : P state) :
    Q (UnifiedStorage.scanMessages ext db faults fromSeq lastSeq maxRecords visitor state).1 := by
  have hloop (entries : List (Bytes × Bytes)) (scanned nextSeq : UInt64) :
      Q (UnifiedStorage.scanLoop ext lastSeq maxRecords visitor entries state scanned
        nextSeq).state := by
    induction entries generalizing state scanned nextSeq with
    | nil => exact hend state hstate
    | cons entry rest ih =>
        unfold UnifiedStorage.scanLoop
        split
        · exact hend state hstate
        · split
          · exact hend state hstate
          · split
            · exact hend state hstate
            · split
              · exact hend state hstate
              · split
                · exact hend state hstate
                · split
                  · exact hend state hstate
                  · rename_i message _
                    have hnext := hvisit state message hstate
                    split
                    all_goals
                      rename_i hvisited
                      rw [hvisited] at hnext
                    · exact hnext
                    · exact hnext
                    · exact hnext
                    · exact ih (hcontinue state message _ hstate hvisited) _ _
  unfold UnifiedStorage.scanMessages
  generalize db.iterate faults .messages (numericKey kMessagePrefix fromSeq) = iterated
  obtain ⟨entries, status⟩ := iterated
  have hexit := hloop entries 0 fromSeq
  dsimp only
  split
  · rename_i heq
    rw [heq] at hexit
    exact hexit
  · rename_i heq
    rw [heq] at hexit
    split
    · exact hexit
    · split <;> exact hexit

theorem addMessage_length {ext : Externals} {config : Config} {limit : UInt32} {state : ScanState}
    {message : EventMessage} (h : state.messages.length < limit.toNat) :
    (addMessage ext config limit state message).1.messages.length ≤ limit.toNat ∧
      ((addMessage ext config limit state message).2 = .ok .kContinue →
        (addMessage ext config limit state message).1.messages.length < limit.toNat) := by
  unfold addMessage
  dsimp only
  split
  · exact ⟨h.le, fun _ => h⟩
  · split
    · rename_i hfull
      refine ⟨?_, fun hcontinue => by cases hcontinue⟩
      rw [List.length_append, List.length_singleton]
      omega
    · rename_i hroom
      rw [List.length_append, List.length_singleton] at hroom ⊢
      exact ⟨by omega, fun _ => by omega⟩

theorem channelEntry_messages {ext : Externals} {snapshot : Db} {faults : ReadFaults}
    {operation : String} {verdict : ChannelInfo → Bool} {state next : ScanState}
    {channelId : UInt64} {known : Bool}
    (h : channelEntry ext snapshot faults operation verdict state channelId = .ok (next, known)) :
    next.messages = state.messages := by
  unfold channelEntry at h
  split at h
  · cases h
    rfl
  · cases hload : loadChannel ext snapshot faults channelId with
    | error status =>
        rw [hload] at h
        cases h
    | ok found =>
        rw [hload] at h
        cases found with
        | none => cases h
        | some channel =>
            cases h
            rfl

theorem visitVisible_length {ext : Externals} {config : Config} {snapshot : Db}
    {faults : ReadFaults} {principal : UInt64} {limit : UInt32} {onlyMyRecipient : Bool}
    {channels : List UInt64} {state : ScanState} {message : EventMessage}
    (h : state.messages.length < limit.toNat) :
    let visited := visitVisible ext config snapshot faults principal limit onlyMyRecipient
      channels state message
    visited.1.messages.length ≤ limit.toNat ∧
      (visited.2 = .ok .kContinue → visited.1.messages.length < limit.toNat) := by
  dsimp only
  unfold visitVisible
  split
  · exact ⟨h.le, fun _ => h⟩
  · split
    · exact ⟨h.le, fun _ => h⟩
    · rename_i next readable hentry
      rw [← channelEntry_messages hentry] at h
      split
      · exact ⟨h.le, fun _ => h⟩
      · exact addMessage_length h

/-- A page never holds more messages than were asked for. -/
theorem fetchVisible_length {ext : Externals} {config : Config} {snapshot : Db}
    {faults : ReadFaults} {principal fromSeq : UInt64} {limit : UInt32} {onlyMyRecipient : Bool}
    {channels : List UInt64} {page : FetchResponse} (hlimit : 0 < limit.toNat)
    (h : fetchVisible ext config snapshot faults principal fromSeq limit onlyMyRecipient channels =
      .ok page) : page.messages.length ≤ limit.toNat := by
  unfold fetchVisible at h
  obtain ⟨maxSeq, _, h⟩ := Fallible.bind_ok h
  split at h
  · cases h
    exact Nat.zero_le _
  · obtain ⟨nextSeq, _, h⟩ := Fallible.bind_ok h
    cases h
    refine scanMessages_visits (P := fun state : ScanState => state.messages.length < limit.toNat)
      (Q := fun state : ScanState => state.messages.length ≤ limit.toNat) (fun _ => le_of_lt) ?_ ?_
      hlimit
    · intro state message hstate
      exact (visitVisible_length hstate).1
    · intro state message next hstate hvisit
      have hnext := (visitVisible_length hstate).2 (congrArg Prod.snd hvisit)
      rw [hvisit] at hnext
      exact hnext

theorem subscriptionBatch_length {ext : Externals} {config : Config} {snapshot : Db}
    {faults : ReadFaults} {principal : UInt64} {token : Bytes} {fromSeq : UInt64} {limit : UInt32}
    {onlyMyRecipient : Bool} {channels : List UInt64} {page : FetchResponse}
    (hlimit : 0 < limit.toNat)
    (h : subscriptionBatch ext config snapshot faults principal token fromSeq limit onlyMyRecipient
      channels = .ok page) : page.messages.length ≤ limit.toNat := by
  unfold subscriptionBatch at h
  obtain ⟨_, _, h⟩ := Fallible.bind_ok h
  obtain ⟨_, _, h⟩ := Fallible.bind_ok h
  exact fetchVisible_length hlimit h

/-! ### Cancelled streams -/

/-- The steps that the loop has left at most once its RPC is cancelled. -/
def SubscriptionPhase.left : SubscriptionPhase → Nat
  | .fetching .called => 110
  | .fetching .available => 109
  | .fetching (.waiting _) => 108
  | .reading _ => 107
  | .writing pending _ _ => pending.length + 6
  | .ensuring => 9
  | .starting .called => 8
  | .starting .available => 7
  | .starting (.waiting _) => 6
  | .validating _ => 5
  | .waiting _ => 5
  | .head => 4
  | .returned _ => 3

def StreamPhase.left : StreamPhase → Nat
  | .running subscription => subscription.phase.left
  | .latching .exchange _ => 2
  | .latching .notify _ => 1
  | .answered _ => 0

/-- The loop has no more to write than one batch. -/
def SubscriptionPhase.Short (phase : SubscriptionPhase) : Prop :=
  ∀ pending page acquired, phase = .writing pending page acquired → pending.length ≤ 100

theorem SubscriptionPhase.Short.left_le {phase : SubscriptionPhase} (h : phase.Short) :
    phase.left ≤ 110 := by
  unfold left
  split
  case h_5 pending page acquired =>
      have hlength := h pending page acquired rfl
      omega
  all_goals omega

namespace Subscription

variable {ext : Externals} {config : Config} {shared : SharedSnapshot}
  {subscription after : Subscription} {input : LoopInput}

/-- A step of `AcquireSubscriptionSnapshot` on behalf of the loop gets nearer to the
end of it. -/
theorem acquire_left {phase : AcquirePhase} {waits : AcquirePhase → SubscriptionPhase}
    {goesOn : SubscriptionSnapshot → SubscriptionPhase}
    (hcalled : (waits .available).left < (waits .called).left)
    (havailable : ∀ required, (waits (.waiting required)).left < (waits .available).left)
    (hgoesOn : ∀ required acquired, (goesOn acquired).left < (waits (.waiting required)).left)
    (hreturned : ∀ phase, 3 < (waits phase).left)
    (h : subscription.acquire shared phase waits goesOn = some after) :
    after.phase.left < (waits phase).left := by
  unfold acquire at h
  split at h
  · cases h
  · rename_i phase' hacquire
    cases h
    rcases acquireStep_cases hacquire with
      ⟨rfl, hnext⟩ | ⟨rfl, hnext⟩ | ⟨_, hdone⟩ | ⟨_, _, _, hdone⟩
    · cases hnext
      exact hcalled
    · cases hnext
      exact havailable _
    · cases hdone
    · cases hdone
  · cases h
    exact hreturned phase
  · rename_i acquired hacquire
    cases h
    rcases acquireStep_cases hacquire with
      ⟨_, hnext⟩ | ⟨_, hnext⟩ | ⟨_, hdone⟩ | ⟨required, _, rfl, hdone⟩
    · cases hnext
    · cases hnext
    · cases hdone
    · exact hgoesOn required acquired

/-- A batch has at most a hundred messages. -/
theorem step_short (h : subscription.step ext config shared input = some after)
    (hshort : subscription.phase.Short) : after.phase.Short := by
  intro pending page acquired hwriting
  have hacquire {phase : AcquirePhase} {waits : AcquirePhase → SubscriptionPhase}
      {goesOn : SubscriptionSnapshot → SubscriptionPhase}
      (hwaits : ∀ phase, waits phase ≠ .writing pending page acquired)
      (hgoesOn : ∀ found, goesOn found ≠ .writing pending page acquired)
      (h : subscription.acquire shared phase waits goesOn = some after) : pending.length ≤ 100 := by
    unfold acquire at h
    split at h
    · cases h
    · cases h
      exact absurd hwriting (hwaits _)
    · cases h
      cases hwriting
    · cases h
      exact absurd hwriting (hgoesOn _)
  unfold step at h
  dsimp only at h
  split at h
  case h_2 => exact hacquire (by intro _ heq; cases heq) (by intro _ heq; cases heq) h
  case h_5 => exact hacquire (by intro _ heq; cases heq) (by intro _ heq; cases heq) h
  case h_6 found hphase =>
      split at h
      · cases h
        cases hwriting
      · rename_i batch hbatch
        cases h
        cases hwriting
        exact subscriptionBatch_length (by decide) hbatch
  case h_7 =>
      cases h
      unfold finishBatch at hwriting
      dsimp only at hwriting
      split at hwriting
      · cases hwriting
      · cases hwriting
  case h_8 message rest batch found hphase =>
      split at h
      · cases h
        cases hwriting
        have hlength := hshort _ _ _ hphase
        rw [List.length_cons] at hlength
        omega
      · cases h
        cases hwriting
  case h_9 hphase =>
      split at h
      · cases h
        cases hwriting
      · cases h
        exact hshort _ _ _ hwriting
  all_goals
    repeat' split at h
    all_goals
      cases h
      try cases hwriting

/-- Each step of a cancelled loop brings it nearer to its end. -/
theorem step_left (hcancelled : input.cancelled = true)
    (h : subscription.step ext config shared input = some after) :
    after.phase.left < subscription.phase.left := by
  unfold step at h
  dsimp only at h
  split at h
  case h_1 hphase =>
      rw [hphase]
      split at h
      · cases h
        simp [SubscriptionPhase.left]
      · cases h
        simp [SubscriptionPhase.left]
  case h_2 phase hphase =>
      rw [hphase]
      refine acquire_left (by decide) ?_ ?_ ?_ h
      · intro required
        exact Nat.lt_succ_self 6
      · intro required acquired
        exact Nat.lt_succ_self 5
      · intro phase
        cases phase <;> simp [SubscriptionPhase.left]
  case h_3 acquired hphase =>
      rw [hphase]
      split at h
      · cases h
        simp [SubscriptionPhase.left]
      · split at h
        · cases h
          simp [SubscriptionPhase.left]
        · cases h
          simp [SubscriptionPhase.left]
  case h_4 hphase =>
      rw [hphase]
      rw [if_pos hcancelled] at h
      cases h
      simp [SubscriptionPhase.left]
  case h_5 phase hphase =>
      rw [hphase]
      refine acquire_left (by decide) ?_ ?_ ?_ h
      · intro required
        exact Nat.lt_succ_self 108
      · intro required acquired
        exact Nat.lt_succ_self 107
      · intro phase
        cases phase <;> simp [SubscriptionPhase.left]
  case h_6 found hphase =>
      rw [hphase]
      split at h
      · cases h
        simp [SubscriptionPhase.left]
      · rename_i batch hbatch
        cases h
        have hlength := subscriptionBatch_length (by decide) hbatch
        have hlimit : kBatchLimit.toNat = 100 := rfl
        simp only [SubscriptionPhase.left]
        omega
  case h_7 hphase =>
      rw [hphase]
      cases h
      unfold finishBatch
      dsimp only
      split
      · simp [SubscriptionPhase.left]
      · simp [SubscriptionPhase.left]
  case h_8 message rest batch found hphase =>
      rw [hphase]
      split at h
      · cases h
        simp [SubscriptionPhase.left]
      · cases h
        simp [SubscriptionPhase.left]
  case h_9 hphase =>
      rw [hphase]
      rw [if_pos (by rw [hcancelled]; rfl)] at h
      cases h
      simp [SubscriptionPhase.left]
  case h_10 => cases h

/-- A cancelled loop has a step, unless it has returned or waits for the snapshot. -/
theorem step_cancelled (ext : Externals) (config : Config) (shared : SharedSnapshot)
    (subscription : Subscription) :
    (∃ status, subscription.phase = .returned status) ∨
      (∃ requiredGeneration, subscription.phase.required = some requiredGeneration) ∨
      ∃ after, subscription.step ext config shared { cancelled := true } = some after := by
  have hacquire (phase : AcquirePhase) (waits : AcquirePhase → SubscriptionPhase)
      (goesOn : SubscriptionSnapshot → SubscriptionPhase) :
      (∃ requiredGeneration, phase.required = some requiredGeneration) ∨
        ∃ after, subscription.acquire shared phase waits goesOn = some after := by
    cases phase with
    | called =>
        unfold acquire SharedSnapshot.acquireStep
        dsimp only
        cases ensureAvailable shared.fatalError with
        | error status => exact Or.inr ⟨_, rfl⟩
        | ok found => exact Or.inr ⟨_, rfl⟩
    | available => exact Or.inr ⟨_, rfl⟩
    | waiting requiredGeneration => exact Or.inl ⟨requiredGeneration, rfl⟩
  unfold step
  cases hphase : subscription.phase with
  | ensuring =>
      refine Or.inr (Or.inr ?_)
      cases ensureAvailable shared.fatalError with
      | error status => exact ⟨_, rfl⟩
      | ok found => exact ⟨_, rfl⟩
  | starting phase => exact Or.inr (hacquire phase _ _)
  | validating acquired =>
      refine Or.inr (Or.inr ?_)
      dsimp only
      split
      · exact ⟨_, rfl⟩
      · split
        · exact ⟨_, rfl⟩
        · exact ⟨_, rfl⟩
  | head => exact Or.inr (Or.inr ⟨_, rfl⟩)
  | fetching phase => exact Or.inr (hacquire phase _ _)
  | reading acquired =>
      refine Or.inr (Or.inr ?_)
      dsimp only
      split
      · exact ⟨_, rfl⟩
      · exact ⟨_, rfl⟩
  | writing pending page acquired =>
      refine Or.inr (Or.inr ?_)
      cases pending with
      | nil => exact ⟨_, rfl⟩
      | cons message rest => exact ⟨_, rfl⟩
  | waiting snapshotVersion => exact Or.inr (Or.inr ⟨_, rfl⟩)
  | returned status => exact Or.inl ⟨status, rfl⟩

end Subscription

/-- What a step of its own does to a stream of the service. -/
inductive StreamMove (ext : Externals) (service : Service) : Option StreamPhase → StreamPhase → Prop
  | registered {request : SubscribeRequest} :
      StreamMove ext service none (.running (.start request))
  | turnedAway {status : Status} : StreamMove ext service none (.answered status)
  | loops {subscription after : Subscription} {input : LoopInput} :
      subscription.step ext service.config service.shared input = some after →
      StreamMove ext service (some (.running subscription)) (.running after)
  | raises {subscription : Subscription} {status : Status} :
      subscription.phase = .returned status →
      StreamMove ext service (some (.running subscription)) (.latching .exchange status)
  | reports {subscription : Subscription} {status : Status} :
      subscription.phase = .returned status →
      StreamMove ext service (some (.running subscription)) (.answered status)
  | sets {status : Status} :
      StreamMove ext service (some (.latching .exchange status)) (.latching .notify status)
  | findsSet {status : Status} :
      StreamMove ext service (some (.latching .exchange status)) (.answered status)
  | notifies {status : Status} :
      StreamMove ext service (some (.latching .notify status)) (.answered status)

namespace Service

variable {ext : Externals} {service next later : Service} {label : ServiceLabel}
  {labels : List ServiceLabel} {id : Nat}

/-- The other threads leave a stream alone. -/
theorem Step.stream_kept (hstep : Step ext service label next)
    (hthread : label.thread ≠ some (.stream id)) : next.streams id = service.streams id := by
  have hne {other : Nat} (h : some (ServiceThread.stream other) ≠ some (.stream id)) :
      id ≠ other := by
    rintro rfl
    exact h rfl
  cases hstep with
  | subscribe _ => exact setStream_of_ne _ _ (hne hthread)
  | streamStep _ _ => exact setStream_of_ne _ _ (hne hthread)
  | reportStream _ _ => exact setStream_of_ne _ _ (hne hthread)
  | exchangeStream _ => exact setStream_of_ne _ _ (hne hthread)
  | notifyStream _ => exact setStream_of_ne _ _ (hne hthread)
  | _ => rfl

theorem Step.stream_moves (hstep : Step ext service label next)
    (hthread : label.thread = some (.stream id)) :
    ∃ phase, next.streams id = some phase ∧ StreamMove ext service (service.streams id) phase := by
  cases hstep with
  | subscribe hfree =>
      cases hthread
      refine ⟨_, setStream_self _ _ _, ?_⟩
      rw [hfree]
      split
      · exact .turnedAway
      · exact .registered
  | streamStep hstream hmove =>
      cases hthread
      refine ⟨_, setStream_self _ _ _, ?_⟩
      rw [hstream]
      exact .loops hmove
  | reportStream hstream hphase =>
      cases hthread
      refine ⟨_, setStream_self _ _ _, ?_⟩
      rw [hstream]
      split
      · exact .raises hphase
      · exact .reports hphase
  | exchangeStream hstream =>
      cases hthread
      refine ⟨_, setStream_self _ _ _, ?_⟩
      rw [hstream]
      unfold afterExchange
      split
      · exact .findsSet
      · exact .sets
  | notifyStream hstream =>
      cases hthread
      refine ⟨_, setStream_self _ _ _, ?_⟩
      rw [hstream]
      exact .notifies
  | _ => cases hthread

/-- No loop has more to write than one batch. -/
def StreamsShort (service : Service) : Prop :=
  ∀ id subscription, service.streams id = some (.running subscription) → subscription.phase.Short

theorem StreamsShort.step (h : service.StreamsShort) (hstep : Step ext service label next) :
    next.StreamsShort := by
  intro id subscription hstream
  by_cases hthread : label.thread = some (.stream id)
  · obtain ⟨phase, hphase, hmove⟩ := hstep.stream_moves hthread
    cases hphase.symm.trans hstream
    generalize hbefore : service.streams id = before at hmove
    cases hmove with
    | registered =>
        intro pending page acquired hwriting
        cases hwriting
    | loops hloop => exact Subscription.step_short hloop (h id _ hbefore)
  · rw [hstep.stream_kept hthread] at hstream
    exact h id subscription hstream

theorem Reachable.streamsShort (h : service.Reachable ext) : service.StreamsShort := by
  obtain ⟨config, db, dir, faults, labels, hrun⟩ := h
  refine hrun.invariant ?_ (fun _ _ _ => StreamsShort.step)
  intro id subscription hstream
  have hnone : (start config db dir faults).streams id = none := by
    unfold start
    repeat' split
    all_goals rfl
  rw [hnone] at hstream
  cases hstream

/-- A step of the service while the RPC of one stream is cancelled: its loop finds
that out whenever it looks. -/
def CancelledStep (ext : Externals) (id : Nat) (service : Service) (label : ServiceLabel)
    (next : Service) : Prop :=
  Step ext service label next ∧
    ∀ subscription after, label.thread = some (.stream id) →
      service.streams id = some (.running subscription) →
      next.streams id = some (.running after) →
      ∃ input : LoopInput, input.cancelled = true ∧
        subscription.step ext service.config service.shared input = some after

/-- How many of the steps are those of a stream. -/
def streamSteps (id : Nat) (labels : List ServiceLabel) : Nat :=
  labels.countP (fun label => label.thread = some (.stream id))

/-- The steps that a stream has left at most. -/
def streamLeft (id : Nat) (service : Service) : Nat :=
  ((service.streams id).map StreamPhase.left).getD 0

/-- A cancelled stream pays for each of its steps. -/
theorem CancelledStep.pays (hstep : CancelledStep ext id service label next)
    (hopen : (service.streams id).isSome = true) :
    (next.streams id).isSome = true ∧
      streamLeft id next + (decide (label.thread = some (.stream id))).toNat ≤
        streamLeft id service := by
  by_cases hthread : label.thread = some (.stream id)
  · obtain ⟨phase, hphase, hmove⟩ := hstep.1.stream_moves hthread
    refine ⟨by rw [hphase]; rfl, ?_⟩
    rw [streamLeft, streamLeft, hphase, decide_eq_true hthread]
    have hcancelled (subscription after : Subscription) := hstep.2 subscription after hthread
    generalize hbefore : service.streams id = before at hmove hopen hcancelled
    simp only [Option.map_some, Option.getD_some, Bool.toNat_true]
    cases hmove with
    | registered => cases hopen
    | turnedAway => cases hopen
    | @loops subscription after input hloop =>
        obtain ⟨found, hset, hfound⟩ := hcancelled subscription after rfl hphase
        exact Subscription.step_left hset hfound
    | raises hreturned => simp [StreamPhase.left, hreturned, SubscriptionPhase.left]
    | reports hreturned => simp [StreamPhase.left, hreturned, SubscriptionPhase.left]
    | sets => exact le_refl _
    | findsSet => simp [StreamPhase.left]
    | notifies => exact le_refl _
  · rw [streamLeft, streamLeft, hstep.1.stream_kept hthread, decide_eq_false hthread]
    exact ⟨hopen, le_refl _⟩

/-- A step of a cancelled loop is one of the service. -/
theorem cancelledStep_of_loop {subscription after : Subscription} {input : LoopInput}
    (hstream : service.streams id = some (.running subscription)) (hinput : input.cancelled = true)
    (hmove : subscription.step ext service.config service.shared input = some after) :
    CancelledStep ext id service ⟨some (.stream id), subscription.phase.readsStorage⟩
      (service.setStream id (.running after)) := by
  refine ⟨.streamStep hstream hmove, ?_⟩
  intro found later _ hfound hlater
  cases hstream.symm.trans hfound
  rw [setStream_self] at hlater
  cases hlater
  exact ⟨input, hinput, hmove⟩

/-- A step after which the stream is in no loop. -/
theorem cancelledStep_of_end {phase : StreamPhase} (hstep : Step ext service label next)
    (hnext : next.streams id = some phase) (hended : ∀ after, phase ≠ .running after) :
    CancelledStep ext id service label next := by
  refine ⟨hstep, ?_⟩
  intro subscription after _ _ hafter
  exact absurd (Option.some.inj (hnext.symm.trans hafter)) (hended after)

/-- Until a cancelled stream is answered it has a step, or it waits for the snapshot and
the refresh thread has one. -/
theorem RefreshSound.stream_goes_on (h : service.RefreshSound)
    (hopen : (service.streams id).isSome = true) :
    (∃ status, service.streams id = some (.answered status)) ∨
      (∃ label next, label.thread = some (.stream id) ∧ CancelledStep ext id service label next) ∨
      ∃ requiredGeneration label next, service.required (.stream id) = some requiredGeneration ∧
        label.thread = some .refresher ∧ CancelledStep ext id service label next := by
  obtain ⟨phase, hstream⟩ := Option.isSome_iff_exists.mp hopen
  cases phase with
  | answered status => exact Or.inl ⟨status, hstream⟩
  | latching phase status =>
      refine Or.inr (Or.inl ?_)
      cases phase with
      | exchange =>
          refine ⟨_, _, rfl, cancelledStep_of_end (.exchangeStream hstream)
            (setStream_self _ _ _) ?_⟩
          intro after
          unfold afterExchange
          split
          · simp
          · simp
      | notify =>
          refine ⟨_, _, rfl, cancelledStep_of_end (.notifyStream hstream) (setStream_self _ _ _) ?_⟩
          intro after
          simp
  | running subscription =>
      have hloop := Subscription.step_cancelled ext service.config service.shared subscription
      rcases hloop with ⟨status, hreturned⟩ | ⟨requiredGeneration, hrequired⟩ | ⟨after, hmove⟩
      · refine Or.inr (Or.inl ⟨_, _, rfl, cancelledStep_of_end (.reportStream hstream hreturned)
          (setStream_self _ _ _) ?_⟩)
        intro after
        split
        · simp
        · simp
      · by_cases hwakes : service.shared.wakes requiredGeneration = true
        · obtain ⟨after, hmove, _⟩ :=
            stream_awake ext service.config { cancelled := true } hrequired hwakes
          exact Or.inr (Or.inl ⟨_, _, rfl, cancelledStep_of_loop hstream rfl hmove⟩)
        · rcases h.refresher_goes_on ext with ⟨label, next, hthread, hstep⟩ | hall
          · refine Or.inr (Or.inr ⟨requiredGeneration, label, next, ?_, hthread, hstep, ?_⟩)
            · rw [Service.required, hstream]
              exact hrequired
            · intro _ _ hother
              cases hthread.symm.trans hother
          · exact absurd (hall requiredGeneration) hwakes
      · exact Or.inr (Or.inl ⟨_, _, rfl, cancelledStep_of_loop hstream rfl hmove⟩)

/-- Once its RPC is cancelled a stream makes at most 110 more steps, and nothing but a
wait for the shared snapshot, which the refresh thread ends, holds them up. -/
theorem cancelled_stream_ends (h : service.Reachable ext)
    (hopen : (service.streams id).isSome = true)
    (hrun : Run (CancelledStep ext id) service labels later) :
    streamSteps id labels ≤ 110 ∧
      ((∃ status, later.streams id = some (.answered status)) ∨
        (∃ label next, label.thread = some (.stream id) ∧ CancelledStep ext id later label next) ∨
        ∃ requiredGeneration label next, later.required (.stream id) = some requiredGeneration ∧
          label.thread = some .refresher ∧ CancelledStep ext id later label next) := by
  have hpaid : streamLeft id later + streamSteps id labels ≤ streamLeft id service :=
    hrun.pays (P := fun reached => (reached.streams id).isSome = true) hopen
      (fun _ _ _ hbefore hstep => (hstep.pays hbefore).1)
      (fun _ _ _ hbefore hstep => (hstep.pays hbefore).2)
  have hreached := hrun.invariant (P := fun reached =>
    reached.RefreshSound ∧ (reached.streams id).isSome = true) ⟨h.refreshSound, hopen⟩
    (fun _ _ _ hbefore hstep => ⟨hbefore.1.step hstep.1, (hstep.pays hbefore.2).1⟩)
  refine ⟨?_, hreached.1.stream_goes_on hreached.2⟩
  obtain ⟨phase, hstream⟩ := Option.isSome_iff_exists.mp hopen
  have hleft : streamLeft id service ≤ 110 := by
    rw [streamLeft, hstream, Option.map_some, Option.getD_some]
    unfold StreamPhase.left
    split
    · exact (h.streamsShort id _ hstream).left_le
    all_goals omega
  omega

end Service

namespace Reference

open Service

/-- A core on the store of the reference session. -/
def idleService : Service := start config openServer.db openServer.dir {}

def tokenMutation : Mutation := .addToken ⟨8⟩

def tokenEnv : WorkEnv := { env := { random := [.filled (List.replicate 16 8)] } }

/-- The commit of a new credential. -/
def tokenCommit : Option (CoreState × ObjectDirectory × CallPhase) :=
  (Work.mutation tokenMutation 0).step externals idleService.config idleService.coreState
    idleService.dir tokenEnv

theorem tokenCommit_possible : tokenCommit.isSome = true := by decide +kernel

def tokenCommitted : CoreState × ObjectDirectory × CallPhase := Option.get _ tokenCommit_possible

theorem tokenCommitted_generation : tokenCommitted.1.commitGeneration = 1 := by decide +kernel

theorem tokenCommit_eq : tokenCommit = some tokenCommitted :=
  (Option.some_get tokenCommit_possible).symm

/-- A batch is asked for after a commit that the shared snapshot does not have. -/
theorem wait_run {service : Service} {committed : CoreState × ObjectDirectory × CallPhase}
    (hfree : service.calls = fun _ => none) (hflag : service.flag = none)
    (hcommit : (Work.mutation tokenMutation 0).step externals service.config service.coreState
      service.dir tokenEnv = some committed) :
    ∃ labels later, Run (Step externals) service labels later ∧
      later.required (.call 1) = some committed.1.commitGeneration ∧
      later.shared = { service.shared with commitGeneration := committed.1.commitGeneration } ∧
      later.refresher = service.refresher := by
  have henter : (Operation.mutation tokenMutation).enter service.flag 0 [] =
      some (.working (.mutation tokenMutation 0)) := by
    rw [hflag]
    rfl
  have hasking : batchOperation.enter service.flag 0 [] = some (.working (.acquire
      (.fetchSubscriptionBatch 7 credential 1 100 false []) .called)) := by
    rw [hflag]
    rfl
  have havailable : service.shared.acquireStep .called = some (.next .available) := by
    unfold SharedSnapshot.acquireStep
    rw [show service.shared.fatalError = none from hflag]
    rfl
  have hbegun := Run.single (@Step.beginCall externals service 0 (.mutation tokenMutation)
    (by rw [hfree]))
  have hentered := hbegun.snoc (.enterCall (setCall_self _ _ _) rfl henter)
  have hcommitted := hentered.snoc (@Step.workCall externals _ 0 _ _ tokenEnv committed.1
    committed.2.1 committed.2.2 (setCall_self _ _ _) rfl hcommit)
  have hasked := hcommitted.snoc (@Step.beginCall externals _ 1 batchOperation (by
    simp [setCall, worked, hfree]))
  have hstarted := hasked.snoc (.enterCall (setCall_self _ _ _) rfl hasking)
  have hcalled := hstarted.snoc (@Step.acquireCall externals _ 1 _ _ _ (.next .available)
    (setCall_self _ _ _) rfl havailable)
  have hwaiting := hcalled.snoc (@Step.acquireCall externals _ 1 _ _ _
    (.next (.waiting committed.1.commitGeneration)) (setCall_self _ _ _) rfl rfl)
  refine ⟨_, _, hwaiting, ?_, rfl, rfl⟩
  rw [Service.required, setCall_self]
  rfl

/-- The refresh thread takes a snapshot and looks twice for more. -/
theorem refresh_run {service : Service} (hphase : service.refresher = .refreshing .waiting)
    (hflag : service.flag = none) (hstop : service.shared.stop = false)
    (hbehind : service.shared.commitGeneration ≠ service.shared.generation) :
    ∃ labels later, Run (Step externals) service labels later ∧ refresherSteps labels = 5 := by
  have hset : service.shared.fatalError = none := hflag
  have hloads : service.shared.refreshWake = .loaded service.shared.commitGeneration := by
    simp [SharedSnapshot.refreshWake, hstop, hset, hbehind]
  have hwoken := Run.single (@Step.refreshWake externals service hphase)
  have hcreated := hwoken.snoc (@Step.refreshCreate externals _ service.shared.commitGeneration {}
    (congrArg RefresherPhase.refreshing hloads))
  have hstored := hcreated.snoc (.refreshStore rfl hflag)
  have hsecond := hstored.snoc (.refreshWake rfl)
  refine ⟨_, _, hsecond.snoc (.refreshWake (congrArg RefresherPhase.refreshing ?_)), rfl⟩
  simp [SharedSnapshot.refreshWake, SharedSnapshot.refreshed, UnifiedStorage.createSnapshot,
    Except.map, hstop, hset]

theorem committed_wait_ends :
    ∃ service later : Service, service.Reachable externals ∧
      service.required (.call 1) = some 1 ∧ service.shared.wakes 1 = false ∧
      later.shared.wakes 1 = true := by
  obtain ⟨before, service, hwait, hrequired, hshared, hrefresher⟩ :=
    @wait_run idleService _ rfl rfl tokenCommit_eq
  rw [tokenCommitted_generation] at hrequired hshared
  have hreachable : service.Reachable externals :=
    ⟨config, openServer.db, openServer.dir, {}, before, hwait⟩
  obtain ⟨labels, later, hrun, hsteps⟩ := refresh_run (hrefresher.trans rfl)
    (by rw [flag, hshared]; rfl) (by rw [hshared]; rfl) (by rw [hshared]; exact Nat.one_ne_zero)
  obtain ⟨hends, _⟩ := snapshot_waits_end hreachable hrun
  refine ⟨service, later, hreachable, hrequired, ?_, hends _ 1 hrequired hsteps.ge⟩
  rw [hshared]
  rfl

def newStream : SubscribeRequest := ⟨7, credential, 1, [], false⟩

/-- Steps of a cancelled loop on its own. -/
def cancelledLoop (config : Config) (shared : SharedSnapshot) :
    Nat → Subscription → Option Subscription
  | 0, subscription => some subscription
  | count + 1, subscription =>
      (subscription.step externals config shared { cancelled := true }).bind
        (cancelledLoop config shared count)

theorem cancelledLoop_run {service : Service} {count : Nat} {subscription after : Subscription}
    (hstream : service.streams 0 = some (.running subscription))
    (h : cancelledLoop service.config service.shared count subscription = some after) :
    ∃ labels later, Run (CancelledStep externals 0) service labels later ∧
      later.streams 0 = some (.running after) ∧ streamSteps 0 labels = count := by
  induction count generalizing service subscription with
  | zero =>
      obtain rfl := Option.some.inj h
      exact ⟨[], service, .nil service, hstream, rfl⟩
  | succ count ih =>
      obtain ⟨middle, hmove, hrest⟩ := Option.bind_eq_some_iff.mp h
      have hstep := cancelledStep_of_loop hstream rfl hmove
      obtain ⟨labels, later, hrun, hlater, hcount⟩ :=
        @ih (service.setStream 0 (.running middle)) middle (setStream_self _ _ _) hrest
      refine ⟨_, later, (Run.single hstep).append hrun, hlater, ?_⟩
      rw [streamSteps, List.countP_append, ← streamSteps, ← streamSteps, hcount]
      simp [streamSteps, Nat.add_comm]

/-- Its loop acquires the snapshot and finds the credential missing. -/
def endedLoop : Option Subscription :=
  cancelledLoop idleService.config idleService.shared 5 (.start newStream)

def rejects : SubscriptionPhase → Bool
  | .returned status => status.code = .unauthenticated
  | _ => false

theorem rejects_required {phase : SubscriptionPhase} (h : rejects phase = true) :
    phase.required = none := by
  cases phase with
  | returned status => rfl
  | _ => cases h

theorem endedLoop_rejects : endedLoop.any (fun subscription => rejects subscription.phase) =
    true := by
  decide +kernel

/-- Its loop has just been entered when a stream is cancelled; five steps later it has yet
to report how it ended. -/
theorem cancelled_stream_goes_on :
    ∃ service later : Service, ∃ labels, service.Reachable externals ∧
      Run (CancelledStep externals 0) service labels later ∧ streamSteps 0 labels = 5 ∧
      ∃ label next, label.thread = some (.stream 0) ∧
        CancelledStep externals 0 later label next := by
  have hopened := Run.single (@Step.subscribe externals idleService 0 newStream rfl)
  have hreachable : Service.Reachable externals (idleService.setStream 0
      (.running (.start newStream))) :=
    ⟨config, openServer.db, openServer.dir, {}, _, hopened⟩
  obtain ⟨after, hloop, hrejects⟩ := (Option.any_eq_true _ _).mp endedLoop_rejects
  obtain ⟨labels, later, hrun, hlater, hcount⟩ :=
    @cancelledLoop_run (idleService.setStream 0 (.running (.start newStream))) 5
      (.start newStream) after (setStream_self _ _ _) hloop
  refine ⟨_, later, labels, hreachable, hrun, hcount, ?_⟩
  obtain ⟨_, ⟨status, hanswered⟩ | hstep | ⟨generation, _, _, hwaits, _⟩⟩ :=
    cancelled_stream_ends hreachable rfl hrun
  · rw [hlater] at hanswered
    cases hanswered
  · exact hstep
  · rw [Service.required, hlater] at hwaits
    cases (rejects_required hrejects).symm.trans hwaits

end Reference

end OpenEvent
