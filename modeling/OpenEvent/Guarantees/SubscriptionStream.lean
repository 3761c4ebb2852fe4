import OpenEvent.Reference
import OpenEvent.Subscriptions.Execution
import OpenEvent.Subscriptions.StreamInvariant

/-!
A subscription delivers exactly what its reader may see, each message once and
in order, whatever commits and refreshes run beside its loop, as long as the
seq after the last one is still a 64-bit value.
-/

namespace OpenEvent

open OpenEventCore

/-- The refresh thread stores a snapshot. -/
def Process.Publishes (process next : Process) : Prop :=
  ∃ generation snapshot, process.refresher = .created generation (.ok snapshot) ∧
    next = { process with
      shared := process.shared.refreshed generation (.ok snapshot)
      refresher := SharedSnapshot.afterRefresh (.ok snapshot) }

/-- What the wait of the loop rests on. Nothing but the snapshot of the last
batch is ever stored under its version, and the wait ends under any other. -/
structure WaitsOn (ext : Externals) (process : Process) (subscription : Subscription)
    (version : Nat) (batch : WrittenBatch) : Prop where
  version_eq : batch.version = version
  cursor : subscription.nextSeq = batch.snapshot.db.counter kMaxSeqKey + 1
  stored : ∀ labels later, Run (Process.Step ext) process labels later →
    later.shared.version = version → later.shared.snapshot = some batch.snapshot
  published : ∀ labels later next, Run (Process.Step ext) process labels later →
    later.Publishes next → next.shared.version ≠ version
  ends : process.shared.version ≠ version →
    process.shared.waitForSubscriptionSnapshot version = true

/-- What was written to a stream, and from which batches it comes. -/
structure StreamExact (ext : Externals) (process : Process) (subscription : Subscription) :
    Prop where
  increasing : subscription.written.Pairwise (fun earlier later => earlier.seq < later.seq)
  linked : Linked subscription.request.fromSeq subscription.batches subscription.nextSeq
  batches : ∀ batch ∈ subscription.batches, process.Holds batch.snapshot ∧
    batch.fromSeq ≤ batch.nextSeq ∧ batch.nextSeq.toNat ≤ (batch.snapshot.db.log ext).length
  atHead : (subscription.phase = .head ∨ ∃ version, subscription.phase = .waiting version) →
    subscription.written =
      subscription.batches.flatMap (WrittenBatch.delivered ext subscription.request)
  forward : subscription.batches.Pairwise
    (fun earlier later => earlier.snapshot.db.log ext <+: later.snapshot.db.log ext)
  waiting : ∀ version, subscription.phase = .waiting version →
    ∃ batch, subscription.batches.getLast? = some batch ∧
      WaitsOn ext process subscription version batch

/-- The invariant of a run, while the next seq does not wrap. -/
structure StreamingSound (ext : Externals) (state : Streaming) : Prop where
  process : ∃ core, ProcessSound ext state.process core
  subscription : (state.process.server.db.log ext).length < 2 ^ 64 →
    SubscriptionSound ext state.process state.subscription

section Streams

variable {ext : Externals} {config : Config} {process next : Process} {core : Running}
variable {subscription : Subscription} {state state' : Streaming} {label : StreamingLabel}
variable {processLabel : ProcessLabel}

theorem ProcessSound.step_grows (h : ProcessSound ext process core)
    (hstep : process.Step ext processLabel next) :
    process.server.db.log ext <+: next.server.db.log ext := by
  obtain ⟨core', hnext⟩ := h.step hstep
  have hat := hstep.dbAt h.dbAt_last
  exact hnext.log_grows hat hnext.dbAt_last (ProcessSound.moment_le hat)

/-- One step keeps the invariant, and the cursor does not move back. -/
theorem StreamingSound.step (h : StreamingSound ext state)
    (hstep : state.Step ext config label state') :
    StreamingSound ext state' ∧ ((state'.process.server.db.log ext).length < 2 ^ 64 →
      (state.process.server.db.log ext).length < 2 ^ 64 ∧
        state.subscription.nextSeq ≤ state'.subscription.nextSeq) := by
  obtain ⟨core, hprocess⟩ := h.process
  cases hstep with
  | process hstep =>
      have hgrows := (hprocess.step_grows hstep).length_le
      refine ⟨⟨hprocess.step hstep, ?_⟩, ?_⟩
      · intro hroom
        exact hprocess.step_subscription hstep (h.subscription (hgrows.trans_lt hroom))
      · intro hroom
        exact ⟨hgrows.trans_lt hroom, UInt64.le_refl _⟩
  | subscription hstep =>
      refine ⟨⟨⟨core, hprocess⟩, ?_⟩, ?_⟩
      · intro hroom
        exact ((h.subscription hroom).step hprocess hroom hstep).1
      · intro hroom
        exact ⟨hroom, ((h.subscription hroom).step hprocess hroom hstep).2⟩

theorem StreamingSound.run {labels : List StreamingLabel} (h : StreamingSound ext state)
    (hrun : Run (Streaming.Step ext config) state labels state') :
    StreamingSound ext state' ∧ ((state'.process.server.db.log ext).length < 2 ^ 64 →
      state.subscription.nextSeq ≤ state'.subscription.nextSeq) := by
  induction hrun with
  | nil => exact ⟨h, fun _ => UInt64.le_refl _⟩
  | snoc _ hstep ih =>
      obtain ⟨hafter, hcursor⟩ := ih.1.step hstep
      refine ⟨hafter, ?_⟩
      intro hroom
      obtain ⟨hbefore, hle⟩ := hcursor hroom
      exact UInt64.le_trans (ih.2 hbefore) hle

/-- A published snapshot stays published along the steps of the process. -/
theorem ProcessSound.run_published (h : ProcessSound ext process core)
    {labels : List ProcessLabel} {later : Process} {acquired : SubscriptionSnapshot}
    (hpublished : process.Published acquired) (hrun : Run (Process.Step ext) process labels later) :
    later.Published acquired := by
  have hboth := hrun.invariant
    (P := fun state => (∃ core, ProcessSound ext state core) ∧ state.Published acquired)
    ⟨⟨core, h⟩, hpublished⟩ (by
      rintro state label state' ⟨⟨core, hsound⟩, hpublished⟩ hstep
      exact ⟨hsound.step hstep, hsound.step_published hstep hpublished⟩)
  exact hboth.2

theorem SubscriptionSound.exact (hprocess : ProcessSound ext process core)
    (h : SubscriptionSound ext process subscription) : StreamExact ext process subscription := by
  obtain ⟨done, hwritten, hascending, hphase⟩ := h.progress
  obtain ⟨hpairs, hbelow⟩ :=
    SubscriptionSound.delivered_ascending hprocess subscription.request h.linked h.batches
  refine ⟨?_, h.linked, ?_, ?_, ?_, ?_⟩
  · rw [hwritten]
    refine List.pairwise_append.mpr ⟨hpairs, hascending.increasing, ?_⟩
    intro first hfirst second hsecond
    exact UInt64.lt_of_lt_of_le (hbelow first hfirst) (hascending.above second hsecond)
  · intro batch hbatch
    have hsound := h.batches batch hbatch
    exact ⟨hsound.published.holds, hsound.fromSeq_le, hsound.nextSeq_le⟩
  · intro hat
    obtain rfl : done = [] := by
      rcases hat with hhead | ⟨version, hwaits⟩
      · rw [hhead] at hphase
        exact hphase.1
      · rw [hwaits] at hphase
        exact hphase.1
    rw [hwritten, List.append_nil]
  · refine h.ordered.imp_of_mem ?_
    intro first second hfirst hsecond hle
    exact hprocess.log_grows (h.batches first hfirst).published.holds
      (h.batches second hsecond).published.holds hle
  · intro version hwaits
    rw [hwaits] at hphase
    obtain ⟨_, batch, hlast, rfl, hcursor⟩ := hphase
    have hpublished := (h.batches batch (List.mem_of_getLast? hlast)).published
    refine ⟨batch, hlast, rfl, ?_, ?_, ?_, ?_⟩
    · obtain ⟨store, log, hdb, hcoherent⟩ := hprocess.explained hpublished.holds
      rw [hdb.log_eq hcoherent.logIndex, ← hcoherent.logIndex.maxSeq] at hcursor
      rw [hdb.counter_maxSeq]
      apply UInt64.toNat_inj.mp
      have hlt := subscription.nextSeq.toNat_lt
      rw [hcursor, UInt64.toNat_add, UInt64.toNat_one, Nat.mod_eq_of_lt (by omega)]
    · intro labels later hrun hversion
      exact (hprocess.run_published hpublished hrun).current hversion
    · rintro labels later next hrun ⟨generation, snapshot, _, rfl⟩
      have hle := (hprocess.run_published hpublished hrun).version_le
      have hnext : (later.shared.refreshed generation (.ok snapshot)).version =
          later.shared.version + 1 := rfl
      dsimp only at hle ⊢
      omega
    · intro hother
      simp [SharedSnapshot.waitForSubscriptionSnapshot, hother]

theorem start_streamingSound {server : Server} (hreachable : Reachable ext server)
    (hmode : server.mode = .running { config }) (faults : ReadFaults) (request : SubscribeRequest) :
    StreamingSound ext ⟨Process.start server config faults, .start request⟩ where
  process := start_sound hreachable hmode faults
  subscription _ := ⟨.nil, nofun, .nil, [], rfl, ⟨.nil, nofun⟩, rfl, rfl⟩

/-- In every interleaving of a subscription with its process. -/
theorem subscription_stream_exact (ext : Externals) {server : Server} {config : Config}
    (hreachable : Reachable ext server) (hmode : server.mode = .running { config })
    (faults : ReadFaults) (request : SubscribeRequest) {first second : List StreamingLabel}
    {middle final : Streaming}
    (hfirst : Run (Streaming.Step ext config)
      ⟨Process.start server config faults, .start request⟩ first middle)
    (hsecond : Run (Streaming.Step ext config) middle second final)
    (hroom : final.process.server.db.counter kMaxSeqKey + 1 ≠ 0) :
    middle.subscription.nextSeq ≤ final.subscription.nextSeq ∧
      StreamExact ext final.process final.subscription := by
  have hmiddle := ((start_streamingSound hreachable hmode faults request).run hfirst).1
  obtain ⟨hfinal, hcursor⟩ := hmiddle.run hsecond
  obtain ⟨core, hprocess⟩ := hfinal.process
  have hlength : (final.process.server.db.log ext).length < 2 ^ 64 := by
    obtain ⟨store, log, hdb, hcoherent⟩ := hprocess.explained hprocess.dbAt_last
    rw [hdb.counter_maxSeq] at hroom
    have hsucc := UInt64.toNat_add_one hroom
    have hlt := (store.maxSeq + 1).toNat_lt
    rw [hdb.log_eq hcoherent.logIndex, ← hcoherent.logIndex.maxSeq]
    omega
  exact ⟨hcursor hlength, (hfinal.subscription hlength).exact hprocess⟩

end Streams

/-! ### A subscription -/

namespace Reference

/-- Principal 7 gets a credential; once the refresh thread has stored it, he
subscribes from seq 0 and is written the initialization message. -/
def subscribing : List StreamingAction :=
  [.process (.serve (.enterMutation 0 (.addToken ⟨7⟩) 10)),
   .process (.serve (.runMutation 0 { random := [.filled (List.replicate 16 7)] })),
   .process .commitReturns, .process .unlock,
   .process .refreshWake, .process (.refreshCreate {}), .process .refreshStore] ++
  List.replicate 12 (.subscription {})

def streamingStart : Streaming :=
  ⟨Process.start openServer config {}, .start ⟨7, credential, 0, [], false⟩⟩

theorem subscribing_executes :
    (execute (Streaming.step externals config) streamingStart subscribing).isSome = true := by
  decide +kernel

def streamingLabels : List StreamingLabel := (Option.get _ subscribing_executes).1.map Prod.snd

def streamingEnd : Streaming := (Option.get _ subscribing_executes).2

theorem subscribing_run :
    Run (Streaming.Step externals config) streamingStart streamingLabels streamingEnd :=
  Streaming.execute_steps (Option.some_get subscribing_executes).symm

end Reference

theorem stream_of_new_subscriber :
    StreamExact Reference.externals Reference.streamingEnd.process
        Reference.streamingEnd.subscription ∧
      Reference.streamingEnd.subscription.written.map (·.seq) = [0] := by
  have hroom : Reference.streamingEnd.process.server.db.counter kMaxSeqKey + 1 ≠ 0 := by
    decide +kernel
  have hexact := subscription_stream_exact Reference.externals Reference.openServer_reachable
    Reference.openServer_mode {} ⟨7, Reference.credential, 0, [], false⟩ Reference.subscribing_run
    (.nil Reference.streamingEnd) hroom
  exact ⟨hexact.2, by decide +kernel⟩

end OpenEvent
