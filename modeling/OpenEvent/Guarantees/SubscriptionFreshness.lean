import OpenEvent.Reference
import OpenEvent.Subscriptions.Execution
import OpenEvent.Subscriptions.Revocation

/-!
How fresh the snapshots are that subscriptions read from. A snapshot contains
every batch whose call had returned before it was asked for, unless the stop
flag or the fatal flag ends the wait for it: then the wait returns the snapshot
that is stored, however old it is.
-/

namespace OpenEvent

open OpenEventCore

/-- The batches after the one at `index`, up to a moment. -/
def Process.since (process : Process) (index moment : Nat) : List (Event × Db) :=
  (process.batches.drop (index + 1)).take (moment - (index + 1))

/-- No subscription read from this database accepts the credential. -/
def AcceptsNowhere (ext : Externals) (db : Db) (principal : UInt64) (token : Bytes) : Prop :=
  ∀ faults channels,
    (∀ seq, subscriptionMaxSeq ext db faults principal token channels ≠ .ok seq) ∧
      ∀ config fromSeq limit onlyMyRecipient page,
        subscriptionBatch ext config db faults principal token fromSeq limit onlyMyRecipient
          channels ≠ .ok page

/-- No subscription read from this database shows the principal anything of the
channel. -/
def ShowsNothing (ext : Externals) (db : Db) (principal channelId : UInt64) : Prop :=
  ∀ faults token channels,
    (channelId ∈ channels →
      ∀ seq, subscriptionMaxSeq ext db faults principal token channels ≠ .ok seq) ∧
    ∀ config fromSeq limit onlyMyRecipient page,
      subscriptionBatch ext config db faults principal token fromSeq limit onlyMyRecipient
        channels = .ok page →
      channelId ∉ channels ∧ ∀ message ∈ page.messages, message.channelId ≠ channelId

/-- What holds of a snapshot for a caller who began when the first `begun`
batches had been applied by calls that have returned. -/
structure FreshSnapshot (ext : Externals) (process : Process) (begun : Nat)
    (snapshot : ReadSnapshot) : Prop where
  contains : begun ≤ snapshot.moment
  holds : process.Holds snapshot
  deletedToken : ∀ index request applied status data db, index < begun →
    process.batches[index]? = some (.mutation (.deleteToken request) applied status data, db) →
    (∃ entry ∈ process.since index snapshot.moment, entry.1.addsToken request.principal = true ∧
      entry.2.HasCredential request.principal request.token) ∨
    AcceptsNowhere ext snapshot.db request.principal request.token
  removedMember : ∀ index request applied status data db channel, index < begun →
    process.batches[index]? = some (.mutation (.removeMember request) applied status data, db) →
    db.findChannel ext request.channelId = some channel →
    channel.visibility = .visibilityPrivate →
    (∃ entry ∈ process.since index snapshot.moment,
      entry.1.addsMember request.channelId request.targetPrincipal = true) ∨
    ShowsNothing ext snapshot.db request.targetPrincipal request.channelId

/-- Whether a call that returns from its wait does so for another reason than
the stop flag or the fatal flag alone, or finds no snapshot. -/
def Process.settled (process : Process) : ProcessLabel → Bool
  | .acquired id _ _ =>
      match process.acquires id with
      | some (.waiting requiredGeneration, _) =>
          process.shared.settles requiredGeneration || process.shared.snapshot.isNone
      | _ => true
  | _ => true

def Process.SettledStep (ext : Externals) (process : Process) (label : ProcessLabel)
    (next : Process) : Prop :=
  process.Step ext label next ∧ process.settled label = true

/-- The step function, restricted to these steps. -/
def Process.stepSettled (ext : Externals) (process : Process) (action : ProcessAction) :
    Option (Process × ProcessLabel) :=
  (process.step ext action).filter (fun result => process.settled result.2)

section Freshness

variable {ext : Externals} {process next : Process} {core : Running} {label : ProcessLabel}
variable {db : Db}

theorem acceptsNowhere_of_absent {principal : UInt64} {token : Bytes}
    (h : ¬ db.HasCredential principal token) : AcceptsNowhere ext db principal token := by
  intro faults channels
  constructor
  · intro seq hok
    exact h (subscriptionMaxSeq_rights hok).1
  · intro config fromSeq limit onlyMyRecipient page hok
    exact h (subscriptionBatch_rights hok).1

theorem Excluded.showsNothing {principal channelId : UInt64}
    (h : Excluded ext db principal channelId) : ShowsNothing ext db principal channelId := by
  have hhidden : readable ext db principal channelId ≠ true := by
    rw [h.not_readable]
    decide
  intro faults token channels
  constructor
  · intro hmember seq hok
    exact hhidden ((subscriptionMaxSeq_rights hok).2 channelId hmember)
  · intro config fromSeq limit onlyMyRecipient page hok
    obtain ⟨_, hchannels, hmessages⟩ := subscriptionBatch_rights hok
    refine ⟨fun hmember => hhidden (hchannels channelId hmember), ?_⟩
    rintro message hmessage rfl
    exact hhidden (hmessages message hmessage)

/-! ### Steps -/

/-- What `AcquireSubscriptionSnapshot` returns when its wait is settled. -/
theorem ProcessSound.acquired (h : ProcessSound ext process core) {id begun : Nat}
    {phase : AcquirePhase} {acquired : SubscriptionSnapshot}
    (hcall : process.acquires id = some (phase, begun))
    (hreturn : process.shared.acquireStep phase = some (.done (.ok acquired)))
    (hsettled : process.settled (.acquired id begun (.ok acquired)) = true) :
    begun ≤ acquired.snapshot.moment ∧ process.Holds acquired.snapshot := by
  cases phase with
  | called =>
      unfold SharedSnapshot.acquireStep at hreturn
      dsimp only at hreturn
      split at hreturn <;> cases hreturn
  | available => cases hreturn
  | waiting requiredGeneration =>
      obtain ⟨_, hbegun⟩ := h.acquires id _ begun hcall
      unfold SharedSnapshot.acquireStep at hreturn
      dsimp only at hreturn
      split at hreturn
      · have hacquired := AcquireProgress.done.inj (Option.some.inj hreturn)
        unfold SharedSnapshot.acquired at hacquired
        split at hacquired
        · cases hacquired
        · rename_i hfailed
          split at hacquired
          · rename_i snapshot hsnapshot
            obtain rfl := Except.ok.inj hacquired
            have hcovers := h.stored snapshot hsnapshot
            refine ⟨?_, hcovers.holds⟩
            have hsettled : process.shared.settles requiredGeneration = true := by
              simpa [Process.settled, hcall, hsnapshot] using hsettled
            have hreached : requiredGeneration ≤ process.shared.generation := by
              unfold SharedSnapshot.settles at hsettled
              simpa [hfailed] using hsettled
            exact hbegun.trans ((h.generations.monotone hreached).trans hcovers.moments_le)
          · split at hacquired <;> cases hacquired
      · cases hreturn

/-! ### Runs -/

theorem Process.execute_settled {actions : List ProcessAction}
    {found : List (ProcessAction × ProcessLabel) × Process}
    (h : execute (Process.stepSettled ext) process actions = some found) :
    Run (Process.SettledStep ext) process (found.1.map Prod.snd) found.2 := by
  have hrun : Run (fun state label next => Process.SettledStep ext state label.2 next) process
      found.1 found.2 := by
    refine execute_run ?_ h
    intro state action next label hstep
    obtain ⟨hstep, hsettled⟩ := Option.filter_eq_some_iff.mp hstep
    exact ⟨Process.step_sound hstep, hsettled⟩
  exact hrun.map (fun _ _ _ hstep => hstep)

/-- The batch at an index of the chain. -/
theorem ProcessSound.batchAt (h : ProcessSound ext process core) {index : Nat} {event : Event}
    (hentry : process.batches[index]? = some (event, db)) :
    ∃ before, process.dbAt index = some before ∧ process.dbAt (index + 1) = some db ∧
      BatchStep ext before (event, db) db := by
  obtain ⟨hlt, hget⟩ := List.getElem?_eq_some_iff.mp hentry
  have hafter : process.dbAt (index + 1) = some db := by
    unfold Process.dbAt
    rw [List.getElem?_cons_succ, List.getElem?_map, hentry]
    rfl
  obtain ⟨before, hbefore⟩ : ∃ before, process.dbAt index = some before := by
    have hinside : index < (process.base :: process.batches.map Prod.snd).length := by
      rw [List.length_cons, List.length_map]
      omega
    exact ⟨_, List.getElem?_eq_getElem hinside⟩
  have hrun := h.between hbefore hafter (Nat.le_succ index)
  have hone : (process.batches.drop index).take (index + 1 - index) = [(event, db)] := by
    rw [Nat.add_sub_cancel_left, List.drop_eq_getElem_cons hlt, hget]
    rfl
  rw [hone] at hrun
  exact ⟨before, hbefore, hafter, hrun.step_of_single⟩

/-- A sound process, with what its callers have been given so far. -/
structure HandsOut (ext : Externals) (base : Db) (labels : List ProcessLabel) (process : Process) :
    Prop where
  sound : ∃ core, ProcessSound ext process core
  base : process.base = base
  acquired : ∀ id begun acquired, .acquired id begun (.ok acquired) ∈ labels →
    begun ≤ acquired.snapshot.moment ∧ process.Holds acquired.snapshot

theorem HandsOut.step {base : Db} {labels : List ProcessLabel}
    (h : HandsOut ext base labels process) (hstep : process.SettledStep ext label next) :
    HandsOut ext base (labels ++ [label]) next := by
  obtain ⟨core, hsound⟩ := h.sound
  refine ⟨hsound.step hstep.1, hstep.1.base.trans h.base, ?_⟩
  intro id begun acquired hmember
  rcases List.mem_append.mp hmember with hold | hnew
  · obtain ⟨hle, hholds⟩ := h.acquired id begun acquired hold
    exact ⟨hle, hstep.1.dbAt hholds⟩
  · obtain rfl := List.mem_singleton.mp hnew
    have hdbs : process.Holds acquired.snapshot → next.Holds acquired.snapshot :=
      fun hholds => hstep.1.dbAt hholds
    cases hstep.1 with
    | @acquireReturn _ _ phase _ hcall hreturn =>
        obtain ⟨hle, hholds⟩ := hsound.acquired hcall hreturn hstep.2
        exact ⟨hle, hdbs hholds⟩

/-- A snapshot that a sound process has handed out is fresh. -/
theorem ProcessSound.freshSnapshot (h : ProcessSound ext process core)
    (hdistinct : process.base.MembersDistinct ext) {begun : Nat} {snapshot : ReadSnapshot}
    (hcontains : begun ≤ snapshot.moment) (hholds : process.Holds snapshot) :
    FreshSnapshot ext process begun snapshot where
  contains := hcontains
  holds := hholds
  deletedToken index request applied status data db hindex hentry := by
    obtain ⟨before, _, hafter, hbatch⟩ := h.batchAt hentry
    exact (batches_keep_absent (h.between hafter hholds (by omega)) hbatch.deleteToken).imp_right
      acceptsNowhere_of_absent
  removedMember index request applied status data db channel hindex hentry hchannel hprivate := by
    obtain ⟨before, hbefore, hafter, hbatch⟩ := h.batchAt hentry
    have hbase : process.dbAt 0 = some process.base := rfl
    have hmembers := batches_membersDistinct (h.between hbase hbefore (Nat.zero_le index)) hdistinct
    exact (batches_keep_excluded (h.between hafter hholds (by omega))
      (hbatch.removeMember hmembers hchannel hprivate)).imp_right Excluded.showsNothing

/-- Every snapshot handed out in a run of settled steps is fresh. -/
theorem acquired_snapshots_fresh (ext : Externals) {server : Server} {config : Config}
    (hreachable : Reachable ext server) (hmode : server.mode = .running { config })
    (faults : ReadFaults) {labels : List ProcessLabel} {process : Process}
    (hrun : Run (Process.SettledStep ext) (Process.start server config faults) labels process) :
    ∀ id begun acquired, .acquired id begun (.ok acquired) ∈ labels →
      FreshSnapshot ext process begun acquired.snapshot := by
  have hstart : HandsOut ext server.db [] (Process.start server config faults) := by
    refine ⟨start_sound hreachable hmode faults, ?_, by simp⟩
    unfold Process.start
    split
    · rfl
    · split <;> rfl
  have hhands := hrun.history (P := HandsOut ext server.db) hstart
    (fun _ _ _ _ _ hbefore hstep => hbefore.step hstep)
  have hdistinct : server.db.MembersDistinct ext := by
    obtain ⟨store, log, hsound, hmembers⟩ := hreachable.membersDistinct
    intro channelId channel hchannel
    exact hmembers channelId channel (by rwa [← hsound.represents.channel_eq])
  obtain ⟨core, hsound⟩ := hhands.sound
  intro id begun acquired hmember
  obtain ⟨hcontains, hholds⟩ := hhands.acquired id begun acquired hmember
  exact hsound.freshSnapshot (hhands.base ▸ hdistinct) hcontains hholds

end Freshness

/-! ### A stale and a fresh read -/

/-- What a step handed out. -/
def ProcessLabel.handedOut : ProcessLabel → Option (Nat × Nat × SubscriptionSnapshot)
  | .acquired id begun (.ok found) => some (id, begun, found)
  | _ => none

theorem handedOut_mem {labels : List ProcessLabel} {found : Nat × Nat × SubscriptionSnapshot}
    (h : labels.findSome? ProcessLabel.handedOut = some found) :
    .acquired found.1 found.2.1 (.ok found.2.2) ∈ labels := by
  obtain ⟨label, hmember, hlabel⟩ := List.exists_of_findSome?_eq_some h
  unfold ProcessLabel.handedOut at hlabel
  split at hlabel
  · cases hlabel
    exact hmember
  · cases hlabel

namespace Reference

/-- A credential is issued, stored in the shared snapshot and deleted; a caller
then begins to wait for a snapshot. -/
def deletion : List ProcessAction :=
  [.serve (.enterMutation 0 (.addToken ⟨7⟩) 10),
   .serve (.runMutation 0 { random := [.filled (List.replicate 16 7)] }),
   .commitReturns, .unlock,
   .refreshWake, .refreshCreate {}, .refreshStore,
   .serve (.enterMutation 0 (.deleteToken ⟨7, credential⟩) 11),
   .serve (.runMutation 0 {}),
   .commitReturns, .unlock,
   .acquireCall 0, .acquire 0, .acquire 0]

/-- Another call fails in storage before the refresh thread is done. -/
def staleRead : List ProcessAction :=
  deletion ++
    [.serve (.fatalError { code := .unavailable, message := "io", requiresServerExit := true }),
     .latch, .acquire 0]

theorem staleRead_executes :
    (execute (Process.step externals) (Process.start openServer config {}) staleRead).isSome =
      true := by
  decide +kernel

def staleLabels : List ProcessLabel := (Option.get _ staleRead_executes).1.map Prod.snd

def staleProcess : Process := (Option.get _ staleRead_executes).2

theorem staleRead_run :
    Run (Process.Step externals) (Process.start openServer config {}) staleLabels staleProcess :=
  Process.execute_steps (Option.some_get staleRead_executes).symm

/-- The refresh thread stores a snapshot with the deletion first. -/
def freshRead : List ProcessAction :=
  deletion ++ [.refreshWake, .refreshCreate {}, .refreshStore, .acquire 0]

theorem freshRead_executes :
    (execute (Process.stepSettled externals) (Process.start openServer config {})
      freshRead).isSome = true := by
  decide +kernel

/-- A committed deletion of the session's credential that returned OK. -/
def deletesCredential : Event → Bool
  | .mutation (.deleteToken ⟨principal, token⟩) true status _ =>
      decide (principal = 7) && decide (token = credential) && status.isOk
  | _ => false

end Reference

/-- The caller is handed a snapshot without the second batch, the `DeleteToken`
that had returned OK before, and the deleted credential is accepted there. -/
theorem stale_snapshot_after_fatal :
    ∃ labels process id begun acquired,
      Run (Process.Step Reference.externals)
        (Process.start Reference.openServer Reference.config {}) labels process ∧
      .acquired id begun (.ok acquired) ∈ labels ∧ acquired.snapshot.moment < begun ∧
      (∃ status data db, status.isOk = true ∧ process.batches[acquired.snapshot.moment]? =
        some (.mutation (.deleteToken ⟨7, Reference.credential⟩) true status data, db)) ∧
      subscriptionMaxSeq Reference.externals acquired.snapshot.db {} 7 Reference.credential [] =
        .ok 0 := by
  have hsome : (Reference.staleLabels.findSome? ProcessLabel.handedOut).isSome = true := by
    decide +kernel
  have hmoment : (Reference.staleLabels.findSome? ProcessLabel.handedOut).map
      (fun found => (found.2.1, found.2.2.snapshot.moment)) = some (2, 1) := by
    decide +kernel
  have haccepted : (Reference.staleLabels.findSome? ProcessLabel.handedOut).map
      (fun found => (subscriptionMaxSeq Reference.externals found.2.2.snapshot.db {} 7
        Reference.credential []).toOption) = some (some 0) := by
    decide +kernel
  have hdeleted : (Reference.staleProcess.batches[1]?).any
      (fun entry => Reference.deletesCredential entry.1) = true := by
    decide +kernel
  obtain ⟨⟨id, begun, acquired⟩, hfound⟩ := Option.isSome_iff_exists.mp hsome
  rw [hfound] at hmoment haccepted
  obtain ⟨hbegun, hmoment⟩ : begun = 2 ∧ acquired.snapshot.moment = 1 := by
    simpa using hmoment
  refine ⟨_, _, id, begun, acquired, Reference.staleRead_run, handedOut_mem hfound, by omega, ?_, ?_⟩
  · rw [hmoment]
    obtain ⟨⟨event, db⟩, hentry, hevent⟩ := (Option.any_eq_true _ _).mp hdeleted
    dsimp only [Reference.deletesCredential] at hevent
    split at hevent
    · rename_i principal token status data
      simp only [Bool.and_eq_true, decide_eq_true_eq] at hevent
      obtain ⟨⟨rfl, rfl⟩, hok⟩ := hevent
      exact ⟨status, data, db, hok, hentry⟩
    · cases hevent
  · have hanswer := Option.some.inj haccepted
    dsimp only at hanswer
    cases hread : subscriptionMaxSeq Reference.externals acquired.snapshot.db {} 7
        Reference.credential [] with
    | error status =>
        rw [hread] at hanswer
        cases hanswer
    | ok seq =>
        rw [hread] at hanswer
        exact congrArg Except.ok (Option.some.inj hanswer)

/-- In the other order the caller gets a snapshot of both batches. -/
theorem fresh_snapshot_after_refresh :
    ∃ labels process id begun acquired,
      Run (Process.SettledStep Reference.externals)
        (Process.start Reference.openServer Reference.config {}) labels process ∧
      .acquired id begun (.ok acquired) ∈ labels ∧ begun = 2 ∧
      FreshSnapshot Reference.externals process begun acquired.snapshot := by
  let found := Option.get _ Reference.freshRead_executes
  have hrun := Process.execute_settled (Option.some_get Reference.freshRead_executes).symm
  have hbegun : ((found.1.map Prod.snd).findSome? ProcessLabel.handedOut).map (·.2.1) =
      some 2 := by
    decide +kernel
  obtain ⟨⟨id, begun, acquired⟩, hfound, rfl⟩ := Option.map_eq_some_iff.mp hbegun
  have hmember := handedOut_mem hfound
  exact ⟨_, _, id, _, acquired, hrun, hmember, rfl, acquired_snapshots_fresh Reference.externals
    Reference.openServer_reachable Reference.openServer_mode {} hrun id _ acquired hmember⟩

end OpenEvent
