import OpenEvent.Lib.Slice
import OpenEvent.Refinement.ReadRights
import OpenEvent.Subscriptions.ProcessInvariant
import OpenEvent.Subscriptions.RunSubscription

/-!
The invariant of a subscription next to its process: its batches cover the seqs
from the start to the cursor, each from the log of a snapshot that was stored,
and what was written is what the batches show.
-/

namespace OpenEvent

open OpenEventCore Fallible

/-- A snapshot that the refresh thread has stored under a version. Nothing else
is ever stored under it. -/
structure Process.Published (process : Process) (acquired : SubscriptionSnapshot) : Prop where
  holds : process.Holds acquired.snapshot
  version_le : acquired.version ≤ process.shared.version
  current : process.shared.version = acquired.version →
    process.shared.snapshot = some acquired.snapshot
  stored : ∃ snapshot, process.shared.snapshot = some snapshot ∧
    acquired.snapshot.moment ≤ snapshot.moment

/-- What a batch shows the subscriber. -/
def WrittenBatch.delivered (ext : Externals) (request : SubscribeRequest) (batch : WrittenBatch) :
    List EventMessage :=
  (slice (batch.snapshot.db.log ext) batch.fromSeq.toNat batch.nextSeq.toNat).filter
    (visible ext batch.snapshot.db request.principal request.onlyMyRecipient request.channels)

/-- Batches that follow each other, from one cursor to another. -/
inductive Linked (start : UInt64) : List WrittenBatch → UInt64 → Prop
  | nil : Linked start [] start
  | snoc {batches : List WrittenBatch} {batch : WrittenBatch} :
      Linked start batches batch.fromSeq → Linked start (batches ++ [batch]) batch.nextSeq

structure BatchSound (ext : Externals) (process : Process) (batch : WrittenBatch) : Prop where
  published : process.Published ⟨batch.snapshot, batch.version⟩
  fromSeq_le : batch.fromSeq ≤ batch.nextSeq
  nextSeq_le : batch.nextSeq.toNat ≤ (batch.snapshot.db.log ext).length

/-- What a page read from a snapshot holds. -/
structure PageSound (ext : Externals) (request : SubscribeRequest) (fromSeq : UInt64)
    (snapshot : ReadSnapshot) (page : FetchResponse) : Prop where
  lastSeq : page.lastSeq.toNat + 1 = (snapshot.db.log ext).length
  fromSeq_le : fromSeq ≤ page.nextSeq
  nextSeq_le : page.nextSeq.toNat ≤ (snapshot.db.log ext).length
  messages : page.messages = (slice (snapshot.db.log ext) fromSeq.toNat page.nextSeq.toNat).filter
    (visible ext snapshot.db request.principal request.onlyMyRecipient request.channels)

/-- What the phase of the loop says. `done` is what was written of a batch that
is not finished. -/
def PhaseSound (ext : Externals) (process : Process) (subscription : Subscription)
    (done : List EventMessage) : SubscriptionPhase → Prop
  | .ensuring => done = [] ∧ subscription.batches = []
  | .starting _ => done = [] ∧ subscription.batches = []
  | .validating acquired => done = [] ∧ subscription.batches = [] ∧ process.Published acquired
  | .head => done = [] ∧ ∃ acquired, process.Published acquired ∧
      subscription.nextSeq.toNat ≤ (acquired.snapshot.db.log ext).length
  | .fetching _ => done = [] ∧ ∃ acquired, process.Published acquired ∧
      subscription.nextSeq.toNat ≤ (acquired.snapshot.db.log ext).length
  | .reading acquired => done = [] ∧ process.Published acquired ∧
      subscription.nextSeq.toNat ≤ (acquired.snapshot.db.log ext).length ∧
      ∀ batch ∈ subscription.batches, batch.snapshot.moment ≤ acquired.snapshot.moment
  | .writing pending page acquired => page.messages = done ++ pending ∧
      process.Published acquired ∧
      PageSound ext subscription.request subscription.nextSeq acquired.snapshot page ∧
      ∀ batch ∈ subscription.batches, batch.snapshot.moment ≤ acquired.snapshot.moment
  | .waiting snapshotVersion => done = [] ∧ ∃ batch, subscription.batches.getLast? = some batch ∧
      batch.version = snapshotVersion ∧
      subscription.nextSeq.toNat = (batch.snapshot.db.log ext).length
  | .returned _ => True

/-- Messages of increasing seqs, none below the cursor. -/
structure Ascending (cursor : UInt64) (messages : List EventMessage) : Prop where
  increasing : messages.Pairwise (fun earlier later => earlier.seq < later.seq)
  above : ∀ message ∈ messages, cursor ≤ message.seq

structure SubscriptionSound (ext : Externals) (process : Process) (subscription : Subscription) :
    Prop where
  linked : Linked subscription.request.fromSeq subscription.batches subscription.nextSeq
  batches : ∀ batch ∈ subscription.batches, BatchSound ext process batch
  ordered : subscription.batches.Pairwise
    (fun earlier later => earlier.snapshot.moment ≤ later.snapshot.moment)
  progress : ∃ done, subscription.written =
      subscription.batches.flatMap (WrittenBatch.delivered ext subscription.request) ++ done ∧
    Ascending subscription.nextSeq done ∧
    PhaseSound ext process subscription done subscription.phase

/-! ### Snapshots -/

section Snapshots

variable {ext : Externals} {process next : Process} {core : Running} {label : ProcessLabel}
variable {acquired : SubscriptionSnapshot}

theorem Process.Published.follows (h : process.Published acquired)
    (hbase : next.base = process.base) (hbatches : next.batches = process.batches)
    (hversion : next.shared.version = process.shared.version)
    (hsnapshot : next.shared.snapshot = process.shared.snapshot) : next.Published acquired := by
  refine ⟨?_, ?_, ?_, ?_⟩
  · have hholds := h.holds
    unfold Process.Holds Process.dbAt at hholds ⊢
    rw [hbase, hbatches]
    exact hholds
  · rw [hversion]
    exact h.version_le
  · rw [hversion, hsnapshot]
    exact h.current
  · rw [hsnapshot]
    exact h.stored

/-- A published snapshot stays published, whatever the process does. -/
theorem ProcessSound.step_published (h : ProcessSound ext process core)
    (hstep : process.Step ext label next) (hpublished : process.Published acquired) :
    next.Published acquired := by
  cases hstep with
  | serve =>
      exact ⟨Process.dbAt_serve hpublished.holds, hpublished.version_le, hpublished.current,
        hpublished.stored⟩
  | @refreshFail status event server core' _ _ _ _ _ =>
      have hholds : (process.serve core'.commitGeneration (.fatalError status) event
          server).Holds acquired.snapshot := Process.dbAt_serve hpublished.holds
      exact ⟨hholds, hpublished.version_le, hpublished.current, hpublished.stored⟩
  | @refreshStore generation snapshot hphase _ =>
      cases snapshot with
      | error status => exact hpublished.follows rfl rfl rfl rfl
      | ok created =>
          have hcreated : RefreshSound process (.created generation (.ok created)) :=
            hphase ▸ h.refresher
          obtain ⟨current, hcurrent, hle⟩ := hpublished.stored
          have hversion := hpublished.version_le
          refine ⟨hpublished.holds, hversion.trans (Nat.le_succ _), ?_, ?_⟩
          · intro hsame
            have hnext : process.shared.version + 1 = acquired.version := hsame
            omega
          · exact ⟨created, rfl, hle.trans (hcreated.2 current hcurrent)⟩
  | _ => exact hpublished.follows rfl rfl rfl rfl

/-- What `AcquireSubscriptionSnapshot` returns is what is stored. -/
theorem acquireStep_ok {shared : SharedSnapshot} {phase : AcquirePhase}
    (h : shared.acquireStep phase = some (.done (.ok acquired))) :
    shared.snapshot = some acquired.snapshot ∧ acquired.version = shared.version := by
  cases phase with
  | called =>
      unfold SharedSnapshot.acquireStep at h
      dsimp only at h
      split at h <;> cases h
  | available => cases h
  | waiting requiredGeneration =>
      unfold SharedSnapshot.acquireStep at h
      dsimp only at h
      split at h
      · have hacquired := AcquireProgress.done.inj (Option.some.inj h)
        unfold SharedSnapshot.acquired at hacquired
        split at hacquired
        · cases hacquired
        · split at hacquired
          · rename_i hsnapshot
            obtain rfl := Except.ok.inj hacquired
            exact ⟨hsnapshot, rfl⟩
          · split at hacquired <;> cases hacquired
      · cases h

theorem ProcessSound.published (h : ProcessSound ext process core)
    (hsnapshot : process.shared.snapshot = some acquired.snapshot)
    (hversion : acquired.version = process.shared.version) : process.Published acquired where
  holds := (h.stored _ hsnapshot).holds
  version_le := Nat.le_of_eq hversion
  current _ := hsnapshot
  stored := ⟨_, hsnapshot, le_rfl⟩

end Snapshots

/-! ### Pages -/

section Pages

variable {ext : Externals} {config : Config} {db : Db} {faults : ReadFaults}
variable {request : SubscribeRequest} {fromSeq nextSeq : UInt64} {page : FetchResponse}

/-- Messages stand in the log at their seqs. -/
theorem Explained.seq_eq (h : Explained ext db) {position : Nat} {message : EventMessage}
    (hat : (db.log ext)[position]? = some message) : message.seq.toNat = position := by
  obtain ⟨store, log, hdb, hcoherent⟩ := h
  rw [hdb.log_eq hcoherent.logIndex] at hat
  have hmessage := hcoherent.logIndex.message_of_lt hat
  have hlt := (List.getElem?_eq_some_iff.mp hat).1
  rw [(hcoherent.valid.message _ _ hmessage).1, hcoherent.logIndex.toNat_ofNat hlt]

/-- The messages between two cursors, shown or not, have increasing seqs between
these cursors. -/
theorem Explained.slice_ascending (h : Explained ext db) (start stop : Nat) :
    (slice (db.log ext) start stop).Pairwise (fun earlier later => earlier.seq < later.seq) ∧
      ∀ message ∈ slice (db.log ext) start stop,
        start ≤ message.seq.toNat ∧ message.seq.toNat < stop := by
  have hat {index : Nat} {message : EventMessage}
      (hmessage : (slice (db.log ext) start stop)[index]? = some message) :
      message.seq.toNat = start + index ∧ start + index < stop := by
    have hlt := (List.getElem?_eq_some_iff.mp hmessage).1
    rw [slice, List.length_drop, List.length_take] at hlt
    have hinside : start + index < stop := by omega
    rw [slice.getElem?_of_lt hinside] at hmessage
    exact ⟨h.seq_eq hmessage, hinside⟩
  constructor
  · rw [List.pairwise_iff_getElem]
    intro first second hfirst hsecond hlt
    have hearlier := (hat (List.getElem?_eq_getElem hfirst)).1
    have hlater := (hat (List.getElem?_eq_getElem hsecond)).1
    rw [UInt64.lt_iff_toNat_lt]
    omega
  · intro message hmessage
    obtain ⟨index, hindex⟩ := List.getElem?_of_mem hmessage
    have hseq := hat hindex
    omega

theorem PageSound.ascending {snapshot : ReadSnapshot} (h : Explained ext snapshot.db)
    (hpage : PageSound ext request fromSeq snapshot page) : Ascending fromSeq page.messages := by
  obtain ⟨hincreasing, hrange⟩ := h.slice_ascending fromSeq.toNat page.nextSeq.toNat
  rw [hpage.messages]
  refine ⟨hincreasing.filter _, ?_⟩
  intro message hmessage
  rw [UInt64.le_iff_toNat_le]
  exact (hrange message (List.mem_filter.mp hmessage).1).1

/-- A batch that succeeds is a page of the log of its snapshot. -/
theorem Explained.subscriptionBatch {snapshot : ReadSnapshot} (h : Explained ext snapshot.db)
    (hroom : (snapshot.db.log ext).length < 2 ^ 64)
    (hfrom : fromSeq.toNat ≤ (snapshot.db.log ext).length) {limit : UInt32}
    (hread : subscriptionBatch ext config snapshot.db faults request.principal request.token fromSeq
      limit request.onlyMyRecipient request.channels = .ok page) :
    PageSound ext request fromSeq snapshot page := by
  obtain ⟨_, hchannels, _⟩ := subscriptionBatch_rights hread
  obtain ⟨store, log, hdb, hcoherent⟩ := h
  rw [hdb.log_eq hcoherent.logIndex] at hroom hfrom
  have hlength := hcoherent.logIndex.maxSeq
  have hnext : store.maxSeq + 1 ≠ 0 := by
    intro hzero
    have hsucc := UInt64.toNat_add store.maxSeq 1
    rw [hzero, UInt64.toNat_one, Nat.mod_eq_of_lt (by omega)] at hsucc
    cases hsucc
  obtain ⟨_, _, hread⟩ := bind_ok hread
  obtain ⟨_, _, hread⟩ := bind_ok hread
  have hpage := (hcoherent.reads_fetchVisible hdb hnext hchannels).of_ok hread
  obtain ⟨position, hstart, hstop, hnextSeq, hmessages⟩ := hpage.page hfrom
  have hposition : page.nextSeq.toNat = position := by
    rw [hnextSeq, UInt64.toNat_ofNat', Nat.mod_eq_of_lt (by omega)]
  refine ⟨?_, ?_, ?_, ?_⟩
  · rw [hdb.log_eq hcoherent.logIndex, hpage.lastSeq, hlength]
  · rw [UInt64.le_iff_toNat_le, hposition]
    exact hstart
  · rw [hdb.log_eq hcoherent.logIndex, hposition]
    exact hstop
  · rw [hdb.log_eq hcoherent.logIndex, hposition]
    exact hmessages

theorem Explained.subscriptionMaxSeq {snapshot : ReadSnapshot} (h : Explained ext snapshot.db)
    {principal : UInt64} {token : Bytes} {channels : List UInt64} {maxSeq : UInt64}
    (hread : subscriptionMaxSeq ext snapshot.db faults principal token channels = .ok maxSeq) :
    maxSeq.toNat + 1 = (snapshot.db.log ext).length := by
  obtain ⟨store, log, hdb, hcoherent⟩ := h
  obtain ⟨_, _, hread⟩ := bind_ok hread
  obtain ⟨_, _, hread⟩ := bind_ok hread
  rw [hdb.log_eq hcoherent.logIndex, hdb.reads_getMaxSeq.of_ok hread, hcoherent.logIndex.maxSeq]

end Pages

/-! ### Steps -/

section Steps

variable {ext : Externals} {config : Config} {process next : Process} {core : Running}
variable {label : ProcessLabel} {subscription after : Subscription} {input : LoopInput}

theorem PhaseSound.follows {done : List EventMessage} {phase : SubscriptionPhase}
    (h : PhaseSound ext process subscription done phase)
    (hpublished : ∀ acquired, process.Published acquired → next.Published acquired) :
    PhaseSound ext next subscription done phase := by
  cases phase with
  | validating acquired => exact ⟨h.1, h.2.1, hpublished _ h.2.2⟩
  | head =>
      obtain ⟨hdone, acquired, hacquired, hle⟩ := h
      exact ⟨hdone, acquired, hpublished _ hacquired, hle⟩
  | fetching _ =>
      obtain ⟨hdone, acquired, hacquired, hle⟩ := h
      exact ⟨hdone, acquired, hpublished _ hacquired, hle⟩
  | reading acquired => exact ⟨h.1, hpublished _ h.2.1, h.2.2⟩
  | writing pending page acquired => exact ⟨h.1, hpublished _ h.2.1, h.2.2⟩
  | _ => exact h

/-- A step of the process leaves the subscription sound. -/
theorem ProcessSound.step_subscription (h : ProcessSound ext process core)
    (hstep : process.Step ext label next)
    (hsubscription : SubscriptionSound ext process subscription) :
    SubscriptionSound ext next subscription where
  linked := hsubscription.linked
  batches batch hbatch := by
    have hsound := hsubscription.batches batch hbatch
    exact ⟨h.step_published hstep hsound.published, hsound.fromSeq_le, hsound.nextSeq_le⟩
  ordered := hsubscription.ordered
  progress := by
    obtain ⟨done, hwritten, hascending, hphase⟩ := hsubscription.progress
    exact ⟨done, hwritten, hascending, hphase.follows (fun _ => h.step_published hstep)⟩

/-- The logs of two snapshots of a process, in the order of their moments. -/
theorem ProcessSound.log_length_le (h : ProcessSound ext process core)
    {earlier later : ReadSnapshot} (hearlier : process.Holds earlier)
    (hlater : process.Holds later) (hle : earlier.moment ≤ later.moment) :
    (earlier.db.log ext).length ≤ (later.db.log ext).length :=
  (h.log_grows hearlier hlater hle).length_le

theorem ProcessSound.log_fits (h : ProcessSound ext process core) {snapshot : ReadSnapshot}
    (hholds : process.Holds snapshot) (hroom : (process.server.db.log ext).length < 2 ^ 64) :
    (snapshot.db.log ext).length < 2 ^ 64 :=
  (h.log_grows hholds h.dbAt_last (moment_le hholds)).length_le.trans_lt hroom

namespace Subscription

theorem acquire_cases {shared : SharedSnapshot} {phase : AcquirePhase}
    {waits : AcquirePhase → SubscriptionPhase} {goesOn : SubscriptionSnapshot → SubscriptionPhase}
    (h : subscription.acquire shared phase waits goesOn = some after) :
    (∃ phase', after = { subscription with phase := waits phase' }) ∨
      (∃ status, after = { subscription with phase := .returned status }) ∨
      ∃ acquired, shared.snapshot = some acquired.snapshot ∧ acquired.version = shared.version ∧
        after = { subscription with phase := goesOn acquired } := by
  unfold acquire at h
  split at h
  · cases h
  · exact Or.inl ⟨_, (Option.some.inj h).symm⟩
  · exact Or.inr (Or.inl ⟨_, (Option.some.inj h).symm⟩)
  · rename_i acquired hacquired
    obtain ⟨hsnapshot, hversion⟩ := acquireStep_ok hacquired
    exact Or.inr (Or.inr ⟨acquired, hsnapshot, hversion, (Option.some.inj h).symm⟩)

end Subscription

namespace SubscriptionSound

/-- Only the phase changes. -/
theorem setPhase (h : SubscriptionSound ext process subscription) {phase : SubscriptionPhase}
    (hphase : ∀ done, PhaseSound ext process subscription done subscription.phase →
      PhaseSound ext process subscription done phase) :
    SubscriptionSound ext process { subscription with phase } where
  linked := h.linked
  batches := h.batches
  ordered := h.ordered
  progress := by
    obtain ⟨done, hwritten, hascending, hbefore⟩ := h.progress
    have hafter := hphase done hbefore
    refine ⟨done, hwritten, hascending, ?_⟩
    cases phase <;> exact hafter

theorem returned (h : SubscriptionSound ext process subscription) (status : Status) :
    SubscriptionSound ext process { subscription with phase := .returned status } :=
  h.setPhase (fun _ _ => True.intro)

/-- The messages of the finished batches, below the cursor. -/
theorem delivered_ascending (hprocess : ProcessSound ext process core)
    (request : SubscribeRequest) {start cursor : UInt64} {batches : List WrittenBatch}
    (hlinked : Linked start batches cursor)
    (hbatches : ∀ batch ∈ batches, BatchSound ext process batch) :
    (batches.flatMap (WrittenBatch.delivered ext request)).Pairwise
        (fun earlier later => earlier.seq < later.seq) ∧
      ∀ message ∈ batches.flatMap (WrittenBatch.delivered ext request),
        message.seq < cursor := by
  induction hlinked with
  | nil => simp
  | @snoc earlier batch _ ih =>
      have hsound := hbatches batch (by simp)
      obtain ⟨hpairs, hbelow⟩ := ih (fun other hother => hbatches other (by simp [hother]))
      obtain ⟨hincreasing, hrange⟩ := (hprocess.explained hsound.published.holds).slice_ascending
        batch.fromSeq.toNat batch.nextSeq.toNat
      have hdelivered : ∀ message ∈ batch.delivered ext request,
          batch.fromSeq.toNat ≤ message.seq.toNat ∧ message.seq.toNat < batch.nextSeq.toNat :=
        fun message hmessage => hrange message (List.mem_filter.mp hmessage).1
      rw [List.flatMap_append, List.flatMap_singleton]
      constructor
      · refine List.pairwise_append.mpr ⟨hpairs, hincreasing.filter _, ?_⟩
        intro first hfirst second hsecond
        have hlow := UInt64.lt_iff_toNat_lt.mp (hbelow first hfirst)
        have hhigh := (hdelivered second hsecond).1
        rw [UInt64.lt_iff_toNat_lt]
        omega
      · intro message hmessage
        rw [UInt64.lt_iff_toNat_lt]
        rcases List.mem_append.mp hmessage with hold | hnew
        · have hlow := UInt64.lt_iff_toNat_lt.mp (hbelow message hold)
          have hle := UInt64.le_iff_toNat_le.mp hsound.fromSeq_le
          omega
        · exact (hdelivered message hnew).2

/-- A batch is finished. -/
theorem finishBatch (h : SubscriptionSound ext process subscription) {page : FetchResponse}
    {acquired : SubscriptionSnapshot} (hphase : subscription.phase = .writing [] page acquired) :
    SubscriptionSound ext process (subscription.finishBatch page acquired) ∧
      subscription.nextSeq ≤ (subscription.finishBatch page acquired).nextSeq := by
  obtain ⟨done, hwritten, _, hbefore⟩ := h.progress
  rw [hphase] at hbefore
  obtain ⟨hdone, hpublished, hpage, hearlier⟩ := hbefore
  rw [List.append_nil] at hdone
  let batch : WrittenBatch :=
    ⟨subscription.nextSeq, page.nextSeq, acquired.snapshot, acquired.version⟩
  have hlinked : Linked subscription.request.fromSeq (subscription.batches ++ [batch])
      batch.nextSeq := .snoc h.linked
  refine ⟨⟨hlinked, ?_, ?_, [], ?_, ⟨.nil, nofun⟩, ?_⟩, hpage.fromSeq_le⟩
  · intro other hother
    rcases List.mem_append.mp hother with hold | hnew
    · exact h.batches other hold
    · obtain rfl := List.mem_singleton.mp hnew
      exact ⟨hpublished, hpage.fromSeq_le, hpage.nextSeq_le⟩
  · refine List.pairwise_append.mpr ⟨h.ordered, List.pairwise_singleton _ _, ?_⟩
    intro first hfirst second hsecond
    obtain rfl := List.mem_singleton.mp hsecond
    exact hearlier first hfirst
  · have hdelivered : batch.delivered ext subscription.request = done := by
      rw [← hdone, hpage.messages]
      rfl
    have hbatches : (subscription.finishBatch page acquired).batches =
        subscription.batches ++ [batch] := rfl
    rw [hbatches, List.flatMap_append, List.flatMap_singleton, List.append_nil]
    exact hwritten.trans (congrArg _ hdelivered.symm)
  · by_cases hpast : page.nextSeq > page.lastSeq
    · have hwaits : (subscription.finishBatch page acquired).phase = .waiting acquired.version :=
        if_pos hpast
      have hlast := hpage.lastSeq
      have hle := hpage.nextSeq_le
      have hlt := UInt64.lt_iff_toNat_lt.mp hpast
      rw [hwaits]
      refine ⟨rfl, batch, List.getLast?_concat, rfl, ?_⟩
      have hcursor : page.nextSeq.toNat = (acquired.snapshot.db.log ext).length := by omega
      exact hcursor
    · have hhead : (subscription.finishBatch page acquired).phase = .head := if_neg hpast
      rw [hhead]
      exact ⟨rfl, acquired, hpublished, hpage.nextSeq_le⟩

/-- A message is taken by the writer. -/
theorem write (hprocess : ProcessSound ext process core)
    (h : SubscriptionSound ext process subscription) {message : EventMessage}
    {pending : List EventMessage} {page : FetchResponse} {acquired : SubscriptionSnapshot}
    (hphase : subscription.phase = .writing (message :: pending) page acquired) :
    SubscriptionSound ext process
      { subscription with
        written := subscription.written ++ [message], phase := .writing pending page acquired } := by
  obtain ⟨done, hwritten, _, hbefore⟩ := h.progress
  rw [hphase] at hbefore
  obtain ⟨hdone, hpublished, hpage, hearlier⟩ := hbefore
  have hdone : page.messages = (done ++ [message]) ++ pending := by simpa using hdone
  have hascending := hpage.ascending (hprocess.explained hpublished.holds)
  rw [hdone] at hascending
  refine ⟨h.linked, h.batches, h.ordered, done ++ [message], ?_, ⟨?_, ?_⟩, hdone, hpublished, hpage,
    hearlier⟩
  · rw [hwritten, List.append_assoc]
  · exact (List.pairwise_append.mp hascending.increasing).1
  · intro other hother
    exact hascending.above other (List.mem_append_left _ hother)

/-- The cursor is within the log of the snapshot that was acquired. -/
theorem acquired (hprocess : ProcessSound ext process core)
    (h : SubscriptionSound ext process subscription) {phase : AcquirePhase}
    (hphase : subscription.phase = .fetching phase) {acquired : SubscriptionSnapshot}
    (hsnapshot : process.shared.snapshot = some acquired.snapshot)
    (hversion : acquired.version = process.shared.version) :
    SubscriptionSound ext process { subscription with phase := .reading acquired } := by
  have hpublished := hprocess.published hsnapshot hversion
  have hlatest {earlier : SubscriptionSnapshot} (hearlier : process.Published earlier) :
      earlier.snapshot.moment ≤ acquired.snapshot.moment := by
    obtain ⟨current, hcurrent, hle⟩ := hearlier.stored
    obtain rfl : current = acquired.snapshot := Option.some.inj (hcurrent.symm.trans hsnapshot)
    exact hle
  refine h.setPhase ?_
  intro done hbefore
  rw [hphase] at hbefore
  obtain ⟨hdone, earlier, hearlier, hle⟩ := hbefore
  refine ⟨hdone, hpublished, ?_, ?_⟩
  · exact hle.trans (hprocess.log_length_le hearlier.holds hpublished.holds (hlatest hearlier))
  · intro batch hbatch
    exact hlatest (h.batches batch hbatch).published

/-- A batch is read. -/
theorem read (hprocess : ProcessSound ext process core)
    (hroom : (process.server.db.log ext).length < 2 ^ 64)
    (h : SubscriptionSound ext process subscription) {acquired : SubscriptionSnapshot}
    {page : FetchResponse} {faults : ReadFaults} {limit : UInt32}
    (hphase : subscription.phase = .reading acquired)
    (hread : subscriptionBatch ext config acquired.snapshot.db faults
      subscription.request.principal subscription.request.token subscription.nextSeq limit
      subscription.request.onlyMyRecipient subscription.request.channels = .ok page) :
    SubscriptionSound ext process
      { subscription with phase := .writing page.messages page acquired } := by
  refine h.setPhase ?_
  intro done hbefore
  rw [hphase] at hbefore
  obtain ⟨rfl, hpublished, hle, hearlier⟩ := hbefore
  refine ⟨rfl, hpublished, ?_, hearlier⟩
  exact (hprocess.explained hpublished.holds).subscriptionBatch
    (hprocess.log_fits hpublished.holds hroom) hle hread

/-- The start is accepted. -/
theorem accept (hprocess : ProcessSound ext process core)
    (h : SubscriptionSound ext process subscription) {acquired : SubscriptionSnapshot}
    {faults : ReadFaults} {principal : UInt64} {token : Bytes} {channels : List UInt64}
    {maxSeq : UInt64} (hphase : subscription.phase = .validating acquired)
    (hread : subscriptionMaxSeq ext acquired.snapshot.db faults principal token channels =
      .ok maxSeq)
    (hstart : ¬ (subscription.nextSeq > maxSeq ∧ subscription.nextSeq - maxSeq > 1)) :
    SubscriptionSound ext process { subscription with phase := .head } := by
  refine h.setPhase ?_
  intro done hbefore
  rw [hphase] at hbefore
  obtain ⟨hdone, _, hpublished⟩ := hbefore
  refine ⟨hdone, acquired, hpublished, ?_⟩
  rw [← (hprocess.explained hpublished.holds).subscriptionMaxSeq hread]
  by_contra hpast
  apply hstart
  have hlt : maxSeq < subscription.nextSeq := by
    rw [UInt64.lt_iff_toNat_lt]
    omega
  refine ⟨hlt, ?_⟩
  have hsub := UInt64.toNat_sub_of_le _ _ (UInt64.le_of_lt hlt)
  have hone : (1 : UInt64).toNat = 1 := rfl
  rw [gt_iff_lt, UInt64.lt_iff_toNat_lt]
  omega

/-- Every step of the loop keeps the invariant and never moves the cursor back. -/
theorem step (hprocess : ProcessSound ext process core)
    (hroom : (process.server.db.log ext).length < 2 ^ 64)
    (h : SubscriptionSound ext process subscription)
    (hstep : subscription.step ext config process.shared input = some after) :
    SubscriptionSound ext process after ∧ subscription.nextSeq ≤ after.nextSeq := by
  have hrefl : subscription.nextSeq ≤ subscription.nextSeq := UInt64.le_refl _
  unfold Subscription.step at hstep
  dsimp only at hstep
  split at hstep
  · rename_i hphase
    split at hstep
    · obtain rfl := Option.some.inj hstep
      exact ⟨h.returned _, hrefl⟩
    · obtain rfl := Option.some.inj hstep
      refine ⟨h.setPhase ?_, hrefl⟩
      intro done hbefore
      rw [hphase] at hbefore
      exact hbefore
  · rename_i hphase
    rcases Subscription.acquire_cases hstep with ⟨phase', rfl⟩ | ⟨status, rfl⟩ |
      ⟨acquired, hsnapshot, hversion, rfl⟩
    · refine ⟨h.setPhase ?_, hrefl⟩
      intro done hbefore
      rw [hphase] at hbefore
      exact hbefore
    · exact ⟨h.returned _, hrefl⟩
    · refine ⟨h.setPhase ?_, hrefl⟩
      intro done hbefore
      rw [hphase] at hbefore
      exact ⟨hbefore.1, hbefore.2, hprocess.published hsnapshot hversion⟩
  · rename_i hphase
    split at hstep
    · obtain rfl := Option.some.inj hstep
      exact ⟨h.returned _, hrefl⟩
    · rename_i hread
      split at hstep
      · obtain rfl := Option.some.inj hstep
        exact ⟨h.returned _, hrefl⟩
      · rename_i hstart
        obtain rfl := Option.some.inj hstep
        exact ⟨h.accept hprocess hphase hread hstart, hrefl⟩
  · rename_i hphase
    split at hstep
    · obtain rfl := Option.some.inj hstep
      exact ⟨h.returned _, hrefl⟩
    · obtain rfl := Option.some.inj hstep
      refine ⟨h.setPhase ?_, hrefl⟩
      intro done hbefore
      rw [hphase] at hbefore
      exact hbefore
  · rename_i hphase
    rcases Subscription.acquire_cases hstep with ⟨phase', rfl⟩ | ⟨status, rfl⟩ |
      ⟨acquired, hsnapshot, hversion, rfl⟩
    · refine ⟨h.setPhase ?_, hrefl⟩
      intro done hbefore
      rw [hphase] at hbefore
      exact hbefore
    · exact ⟨h.returned _, hrefl⟩
    · exact ⟨h.acquired hprocess hphase hsnapshot hversion, hrefl⟩
  · rename_i hphase
    split at hstep
    · obtain rfl := Option.some.inj hstep
      exact ⟨h.returned _, hrefl⟩
    · rename_i hread
      obtain rfl := Option.some.inj hstep
      exact ⟨h.read hprocess hroom hphase hread, hrefl⟩
  · rename_i hphase
    obtain rfl := Option.some.inj hstep
    exact h.finishBatch hphase
  · rename_i hphase
    split at hstep
    · obtain rfl := Option.some.inj hstep
      exact ⟨h.write hprocess hphase, hrefl⟩
    · obtain rfl := Option.some.inj hstep
      exact ⟨h.returned _, hrefl⟩
  · rename_i hphase
    split at hstep
    · obtain rfl := Option.some.inj hstep
      refine ⟨h.setPhase ?_, hrefl⟩
      intro done hbefore
      rw [hphase] at hbefore
      obtain ⟨hdone, batch, hlast, _, hcursor⟩ := hbefore
      have hbatch := h.batches batch (List.mem_of_getLast? hlast)
      exact ⟨hdone, _, hbatch.published, Nat.le_of_eq hcursor⟩
    · obtain rfl := Option.some.inj hstep
      exact ⟨h, hrefl⟩
  · cases hstep

end SubscriptionSound

end Steps

end OpenEvent
