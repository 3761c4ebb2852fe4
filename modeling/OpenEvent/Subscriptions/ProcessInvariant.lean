import OpenEvent.Subscriptions.Commits

/-!
The invariant of a process. Each generation stands for a number of batches:
those that had been applied when it was reached. The shared snapshot contains
the batches of its generation, and a waiting caller needs those of the
generation that it read.
-/

namespace OpenEvent

open OpenEventCore

/-- The generations and the batches that each of them stands for. -/
structure GenerationsSound (process : Process) (core : Running) : Prop where
  monotone : Monotone process.moments
  moments_le : ∀ generation, process.moments generation ≤ process.batches.length
  generation_le : process.shared.commitGeneration ≤ core.commitGeneration
  settled : core.fatalError = none →
    process.moments core.commitGeneration = process.batches.length
  pending : process.shared.commitGeneration ≠ core.commitGeneration → process.locked = true ∧
    process.moments core.commitGeneration = process.batches.length
  returned_le : process.returned ≤ process.batches.length
  returned : process.shared.fatalError = none →
    process.returned ≤ process.moments process.shared.commitGeneration

/-- A snapshot of the database as it was after `moment` batches. -/
def Process.Holds (process : Process) (snapshot : ReadSnapshot) : Prop :=
  process.dbAt snapshot.moment = some snapshot.db

/-- A snapshot that contains the batches of a generation. -/
structure Process.Covers (process : Process) (generation : Nat) (snapshot : ReadSnapshot) :
    Prop where
  holds : process.Holds snapshot
  reached : generation ≤ process.shared.commitGeneration
  moments_le : process.moments generation ≤ snapshot.moment

/-- What the refresh thread holds in its hands. -/
def RefreshSound (process : Process) : RefreshPhase → Prop
  | .loaded generation => generation ≤ process.shared.commitGeneration
  | .created generation (.ok snapshot) => process.Covers generation snapshot ∧
      ∀ current, process.shared.snapshot = some current → current.moment ≤ snapshot.moment
  | _ => True

/-- What a caller of `AcquireSubscriptionSnapshot` has established. -/
def AcquireSound (process : Process) (begun : Nat) : AcquirePhase → Prop
  | .called => begun ≤ process.returned
  | .available => begun ≤ process.moments process.shared.commitGeneration
  | .waiting requiredGeneration => requiredGeneration ≤ process.shared.commitGeneration ∧
      begun ≤ process.moments requiredGeneration

structure ProcessSound (ext : Externals) (process : Process) (core : Running) : Prop where
  mode : process.server.mode = .running core
  reachable : Reachable ext process.server
  base : Explained ext process.base
  batches : Run (BatchStep ext) process.base process.batches process.server.db
  generations : GenerationsSound process core
  stored : ∀ snapshot, process.shared.snapshot = some snapshot →
    process.Covers process.shared.generation snapshot
  refresher : RefreshSound process process.refresher
  acquires : ∀ id phase begun, process.acquires id = some (phase, begun) →
    AcquireSound process begun phase

/-! ### The chain of databases -/

section Chain

variable {ext : Externals} {base db before after : Db} {batches : List (Event × Db)}
variable {process : Process} {core : Running} {moment later : Nat}

private theorem run_last (hrun : Run (BatchStep ext) base batches db) :
    (base :: batches.map Prod.snd)[batches.length]? = some db := by
  cases hrun with
  | nil => rfl
  | snoc _ hstep =>
      cases hstep with
      | applied => simp

namespace ProcessSound

theorem dbAt_last (h : ProcessSound ext process core) :
    process.dbAt process.batches.length = some process.server.db :=
  run_last h.batches

theorem moment_le (hat : process.dbAt moment = some db) :
    moment ≤ process.batches.length := by
  have hlt := (List.getElem?_eq_some_iff.mp hat).1
  rw [List.length_cons, List.length_map] at hlt
  exact Nat.le_of_lt_succ hlt

/-- The batches that lead from one database of the process to a later one. -/
theorem between (h : ProcessSound ext process core) (hbefore : process.dbAt moment = some before)
    (hafter : process.dbAt later = some after) (hle : moment ≤ later) :
    Run (BatchStep ext) before ((process.batches.drop moment).take (later - moment)) after := by
  have hlater := moment_le hafter
  have hwhole := h.batches
  rw [← List.take_append_drop later process.batches] at hwhole
  obtain ⟨middle, hfirst, _⟩ := hwhole.split
  have hmiddle : middle = after := by
    have hlast := run_last hfirst
    rw [List.length_take, Nat.min_eq_left hlater, List.map_take, ← List.take_succ_cons,
      List.getElem?_take_of_lt (Nat.lt_succ_self later)] at hlast
    exact Option.some.inj (hlast.symm.trans hafter)
  subst hmiddle
  rw [← List.take_append_drop moment (process.batches.take later), List.take_take,
    Nat.min_eq_left hle] at hfirst
  obtain ⟨start, hstart, hrest⟩ := hfirst.split
  have heq : start = before := by
    have hlast := run_last hstart
    rw [List.length_take, Nat.min_eq_left (hle.trans hlater), List.map_take,
      ← List.take_succ_cons, List.getElem?_take_of_lt (Nat.lt_succ_self moment)] at hlast
    exact Option.some.inj (hlast.symm.trans hbefore)
  subst heq
  rwa [List.drop_take] at hrest

theorem explained (h : ProcessSound ext process core) (hat : process.dbAt moment = some db) :
    Explained ext db := by
  have hbase : process.dbAt 0 = some process.base := rfl
  exact batches_explained (h.between hbase hat (Nat.zero_le moment)) h.base

theorem log_grows (h : ProcessSound ext process core) (hbefore : process.dbAt moment = some before)
    (hafter : process.dbAt later = some after) (hle : moment ≤ later) :
    before.log ext <+: after.log ext :=
  batches_grow (h.between hbefore hafter hle)

end ProcessSound

end Chain

/-! ### Steps of the server -/

section Serve

variable {ext : Externals} {process : Process} {core core' : Running} {action : Action}
variable {event : Event} {server : Server} {moment : Nat} {db : Db}

namespace Process

theorem serve_batches (process : Process) (generation : Nat) (action : Action) (event : Event)
    (server : Server) : process.batches <+: (process.serve generation action event server).batches := by
  simp only [serve]
  split
  · exact List.prefix_append _ _
  · exact List.prefix_refl _

theorem dbAt_serve (hat : process.dbAt moment = some db) :
    (process.serve core.commitGeneration action event server).dbAt moment = some db := by
  obtain ⟨rest, hrest⟩ := process.serve_batches core.commitGeneration action event server
  unfold dbAt at hat ⊢
  rw [← hrest, List.map_append, ← List.cons_append, List.getElem?_append_left]
  · exact hat
  · exact (List.getElem?_eq_some_iff.mp hat).1

theorem serve_moments (generation : Nat) (h : generation ≤ core.commitGeneration) :
    (process.serve core.commitGeneration action event server).moments generation =
      process.moments generation :=
  if_pos h

theorem serve_moments_next (generation : Nat) (h : core.commitGeneration < generation) :
    (process.serve core.commitGeneration action event server).moments generation =
      (process.serve core.commitGeneration action event server).batches.length :=
  if_neg (Nat.not_le.mpr h)

end Process

/-- The generations after a step of the server. -/
theorem GenerationsSound.serve (h : GenerationsSound process core)
    (hstep : ServedStep process.server server core core' action event)
    (hlock : action.locksCoordinator = true → process.locked = false) :
    GenerationsSound (process.serve core.commitGeneration action event server) core' := by
  have hgrows := (process.serve_batches core.commitGeneration action event server).length_le
  have hkept : (process.serve core.commitGeneration action event server).batches =
      if event.applied then process.batches ++ [(event, server.db)] else process.batches := rfl
  have hshared : (process.serve core.commitGeneration action event server).shared =
      process.shared := rfl
  refine ⟨?_, ?_, ?_, ?_, ?_, h.returned_le.trans hgrows, ?_⟩
  · intro first second hle
    rcases Nat.lt_or_ge core.commitGeneration second with hnext | hold
    · rw [Process.serve_moments_next second hnext]
      rcases Nat.lt_or_ge core.commitGeneration first with hfirst | hfirst
      · rw [Process.serve_moments_next first hfirst]
      · rw [Process.serve_moments first hfirst]
        exact (h.moments_le first).trans hgrows
    · rw [Process.serve_moments second hold, Process.serve_moments first (hle.trans hold)]
      exact h.monotone hle
  · intro generation
    rcases Nat.lt_or_ge core.commitGeneration generation with hnext | hold
    · rw [Process.serve_moments_next generation hnext]
    · rw [Process.serve_moments generation hold]
      exact (h.moments_le generation).trans hgrows
  · have hle := h.generation_le
    rw [hshared]
    rcases hstep.cases with ⟨_, hsame⟩ | ⟨_, hnext⟩ | ⟨_, hsame, _⟩ <;> omega
  · intro hnone
    rcases hstep.cases with ⟨happlied, hsame⟩ | ⟨_, hnext⟩ | ⟨_, _, hset⟩
    · rw [hsame, Process.serve_moments _ le_rfl, hkept, happlied]
      exact h.settled (hstep.accounted.fatalError_none hnone)
    · rw [hnext, Process.serve_moments_next _ (Nat.lt_succ_self _)]
    · exact absurd hnone hset
  · intro hpending
    rw [hshared] at hpending
    -- A section has the mutex, so that nothing was pending before it.
    have hsynced (happlied : event.applied = true) :
        process.shared.commitGeneration = core.commitGeneration := by
      by_contra hdiffers
      have hlocked := (h.pending hdiffers).1
      rw [hlock (hstep.locks happlied)] at hlocked
      cases hlocked
    rcases hstep.cases with ⟨happlied, hsame⟩ | ⟨happlied, hnext⟩ | ⟨happlied, hsame, _⟩
    · rw [hsame] at hpending ⊢
      obtain ⟨hlocked, hmoments⟩ := h.pending hpending
      rw [Process.serve_moments _ le_rfl, hkept, happlied]
      exact ⟨by simp [Process.serve, hlocked], hmoments⟩
    · rw [hnext, Process.serve_moments_next _ (Nat.lt_succ_self _)]
      exact ⟨by simp [Process.serve, hstep.locks happlied], rfl⟩
    · exact absurd ((hsynced happlied).trans hsame.symm) hpending
  · intro hnone
    rw [hshared, Process.serve_moments _ h.generation_le]
    exact h.returned hnone

theorem Process.Covers.serve {generation : Nat} {snapshot : ReadSnapshot}
    (h : process.Covers generation snapshot)
    (hle : process.shared.commitGeneration ≤ core.commitGeneration) :
    (process.serve core.commitGeneration action event server).Covers generation snapshot where
  holds := Process.dbAt_serve h.holds
  reached := h.reached
  moments_le := by
    rw [Process.serve_moments _ (h.reached.trans hle)]
    exact h.moments_le

theorem Reachable.step {server next : Server} {label : Action × Event} (h : Reachable ext server)
    (hstep : Server.Step ext server label next) : Reachable ext next := by
  obtain ⟨eventMs, labels, hrun⟩ := h
  exact ⟨eventMs, labels ++ [label], hrun.snoc hstep⟩

theorem ProcessSound.serve (h : ProcessSound ext process core)
    (hstep : Server.Step ext process.server (action, event) server)
    (hmode : server.mode = .running core')
    (hlock : action.locksCoordinator = true → process.locked = false) :
    ProcessSound ext (process.serve core.commitGeneration action event server) core' where
  mode := hmode
  reachable := h.reachable.step hstep
  base := h.base
  batches := by
    rcases h.reachable.batch hstep h.mode hmode with ⟨happlied, hbatch⟩ | ⟨happlied, hdb⟩
    · have hbatches : (process.serve core.commitGeneration action event server).batches =
          process.batches ++ [(event, server.db)] := by simp [Process.serve, happlied]
      rw [hbatches]
      exact h.batches.snoc hbatch
    · have hbatches : (process.serve core.commitGeneration action event server).batches =
          process.batches := by simp [Process.serve, happlied]
      have hserver : (process.serve core.commitGeneration action event server).server.db =
          process.server.db := hdb
      rw [hbatches, hserver]
      exact h.batches
  generations := h.generations.serve (Server.step_served hstep.1 h.mode hmode) hlock
  stored snapshot hsnapshot := (h.stored snapshot hsnapshot).serve h.generations.generation_le
  refresher := by
    have hrefresher := h.refresher
    have hphase : (process.serve core.commitGeneration action event server).refresher =
        process.refresher := rfl
    rw [hphase]
    unfold RefreshSound at hrefresher ⊢
    split at hrefresher
    · exact hrefresher
    · exact ⟨hrefresher.1.serve h.generations.generation_le, hrefresher.2⟩
    · exact True.intro
  acquires id phase begun hcall := by
    have hcaller := h.acquires id phase begun hcall
    cases phase with
    | called => exact hcaller
    | available =>
        have hbegun : begun ≤ process.moments process.shared.commitGeneration := hcaller
        exact hbegun.trans (Nat.le_of_eq (Process.serve_moments _ h.generations.generation_le).symm)
    | waiting requiredGeneration =>
        have hle := hcaller.1.trans h.generations.generation_le
        exact ⟨hcaller.1, hcaller.2.trans (Nat.le_of_eq (Process.serve_moments _ hle).symm)⟩

end Serve

/-! ### Steps of the other threads -/

/-- A later state with the same batches behind it. -/
structure Process.SameBatches (process next : Process) : Prop where
  server : next.server = process.server
  base : next.base = process.base
  batches : next.batches = process.batches
  moments : next.moments = process.moments
  generation_le : process.shared.commitGeneration ≤ next.shared.commitGeneration
  returned_le : process.returned ≤ next.returned

section Threads

variable {ext : Externals} {process next : Process} {core : Running} {label : ProcessLabel}

theorem Process.Covers.follows {generation : Nat} {snapshot : ReadSnapshot}
    (h : process.Covers generation snapshot) (hsame : process.SameBatches next) :
    next.Covers generation snapshot where
  holds := by
    have hholds := h.holds
    unfold Process.Holds Process.dbAt at hholds ⊢
    rw [hsame.base, hsame.batches]
    exact hholds
  reached := h.reached.trans hsame.generation_le
  moments_le := by
    rw [hsame.moments]
    exact h.moments_le

theorem RefreshSound.ended (process : Process) : RefreshSound process .ended := True.intro

theorem RefreshSound.follows {phase : RefreshPhase} (h : RefreshSound process phase)
    (hsame : process.SameBatches next) (hsnapshot : next.shared.snapshot = process.shared.snapshot) :
    RefreshSound next phase := by
  unfold RefreshSound at h ⊢
  split at h
  · exact h.trans hsame.generation_le
  · rw [hsnapshot]
    exact ⟨h.1.follows hsame, h.2⟩
  · exact True.intro

theorem AcquireSound.follows {phase : AcquirePhase} {begun : Nat}
    (h : AcquireSound process begun phase) (hmonotone : Monotone process.moments)
    (hsame : process.SameBatches next) : AcquireSound next begun phase := by
  cases phase with
  | called => exact Nat.le_trans h hsame.returned_le
  | available =>
      have hbegun : begun ≤ process.moments process.shared.commitGeneration := h
      unfold AcquireSound
      rw [hsame.moments]
      exact hbegun.trans (hmonotone hsame.generation_le)
  | waiting requiredGeneration =>
      refine ⟨h.1.trans hsame.generation_le, ?_⟩
      rw [hsame.moments]
      exact h.2

namespace ProcessSound

/-- What a step without a batch has to show. -/
theorem follows (h : ProcessSound ext process core) (hsame : process.SameBatches next)
    (hgenerations : GenerationsSound next core)
    (hstored : ∀ snapshot, next.shared.snapshot = some snapshot →
      process.shared.snapshot = some snapshot ∧ next.shared.generation = process.shared.generation ∨
        next.Covers next.shared.generation snapshot)
    (hrefresher : RefreshSound next next.refresher)
    (hacquires : ∀ id phase begun, next.acquires id = some (phase, begun) →
      process.acquires id = some (phase, begun) ∨ AcquireSound next begun phase) :
    ProcessSound ext next core where
  mode := by
    rw [hsame.server]
    exact h.mode
  reachable := by
    rw [hsame.server]
    exact h.reachable
  base := by
    rw [hsame.base]
    exact h.base
  batches := by
    rw [hsame.base, hsame.batches, hsame.server]
    exact h.batches
  generations := hgenerations
  stored snapshot hsnapshot := by
    rcases hstored snapshot hsnapshot with ⟨hold, hgeneration⟩ | hcovers
    · rw [hgeneration]
      exact (h.stored snapshot hold).follows hsame
    · exact hcovers
  refresher := hrefresher
  acquires id phase begun hcall := by
    rcases hacquires id phase begun hcall with hold | hsound
    · exact (h.acquires id phase begun hold).follows h.generations.monotone hsame
    · exact hsound

/-- The flags of the shared snapshot play no role in the invariant, but for the
returned calls of a process that is shutting down. -/
theorem setFlags (h : ProcessSound ext process core) (stop : Bool) (fatalError : Option Status)
    (hfatal : fatalError = none → process.shared.fatalError = none) :
    ProcessSound ext { process with shared := { process.shared with stop, fatalError } } core := by
  have hsame : process.SameBatches
      { process with shared := { process.shared with stop, fatalError } } :=
    ⟨rfl, rfl, rfl, rfl, le_rfl, le_rfl⟩
  have hgenerations := h.generations
  refine h.follows hsame ⟨hgenerations.monotone, hgenerations.moments_le,
    hgenerations.generation_le, hgenerations.settled, hgenerations.pending,
    hgenerations.returned_le, fun hnone => hgenerations.returned (hfatal hnone)⟩
    (fun _ hsnapshot => Or.inl ⟨hsnapshot, rfl⟩) (h.refresher.follows hsame rfl)
    (fun _ _ _ hcall => Or.inl hcall)

theorem setRefresher (h : ProcessSound ext process core) {phase : RefreshPhase}
    (hphase : RefreshSound process phase) :
    ProcessSound ext { process with refresher := phase } core := by
  have hsame : process.SameBatches { process with refresher := phase } :=
    ⟨rfl, rfl, rfl, rfl, le_rfl, le_rfl⟩
  have hgenerations := h.generations
  exact h.follows hsame ⟨hgenerations.monotone, hgenerations.moments_le,
    hgenerations.generation_le, hgenerations.settled, hgenerations.pending,
    hgenerations.returned_le, hgenerations.returned⟩
    (fun _ hsnapshot => Or.inl ⟨hsnapshot, rfl⟩) (hphase.follows hsame rfl)
    (fun _ _ _ hcall => Or.inl hcall)

theorem setAcquire (h : ProcessSound ext process core) {id : Nat}
    {call : Option (AcquirePhase × Nat)}
    (hcall : ∀ phase begun, call = some (phase, begun) → AcquireSound process begun phase) :
    ProcessSound ext (process.setAcquire id call) core := by
  have hsame : process.SameBatches (process.setAcquire id call) :=
    ⟨rfl, rfl, rfl, rfl, le_rfl, le_rfl⟩
  have hgenerations := h.generations
  refine h.follows hsame ⟨hgenerations.monotone, hgenerations.moments_le,
    hgenerations.generation_le, hgenerations.settled, hgenerations.pending,
    hgenerations.returned_le, hgenerations.returned⟩
    (fun _ hsnapshot => Or.inl ⟨hsnapshot, rfl⟩) (h.refresher.follows hsame rfl) ?_
  intro other phase begun hother
  by_cases heq : other = id
  · have hset : call = some (phase, begun) := by simpa [Process.setAcquire, heq] using hother
    exact Or.inr ((hcall phase begun hset).follows hgenerations.monotone hsame)
  · exact Or.inl (by simpa [Process.setAcquire, heq] using hother)

theorem commitReturns (h : ProcessSound ext process core)
    (hpending : process.shared.commitGeneration ≠ core.commitGeneration) :
    ProcessSound ext
      { process with
        shared := { process.shared with commitGeneration := core.commitGeneration }
        returned := process.batches.length } core := by
  have hgenerations := h.generations
  have hsame : process.SameBatches
      { process with
        shared := { process.shared with commitGeneration := core.commitGeneration }
        returned := process.batches.length } :=
    ⟨rfl, rfl, rfl, rfl, hgenerations.generation_le, hgenerations.returned_le⟩
  exact h.follows hsame ⟨hgenerations.monotone, hgenerations.moments_le, le_rfl,
    hgenerations.settled, fun hdiffers => absurd rfl hdiffers, le_rfl,
    fun _ => Nat.le_of_eq (hgenerations.pending hpending).2.symm⟩
    (fun _ hsnapshot => Or.inl ⟨hsnapshot, rfl⟩) (h.refresher.follows hsame rfl)
    (fun _ _ _ hcall => Or.inl hcall)

theorem unlock (h : ProcessSound ext process core)
    (hsynced : process.shared.commitGeneration = core.commitGeneration)
    (hlatched : core.fatalError.isSome → process.shared.fatalError.isSome) :
    ProcessSound ext { process with locked := false, returned := process.batches.length } core := by
  have hgenerations := h.generations
  have hsame : process.SameBatches
      { process with locked := false, returned := process.batches.length } :=
    ⟨rfl, rfl, rfl, rfl, le_rfl, hgenerations.returned_le⟩
  refine h.follows hsame ⟨hgenerations.monotone, hgenerations.moments_le,
    hgenerations.generation_le, hgenerations.settled, fun hdiffers => absurd hsynced hdiffers,
    le_rfl, ?_⟩ (fun _ hsnapshot => Or.inl ⟨hsnapshot, rfl⟩) (h.refresher.follows hsame rfl)
    (fun _ _ _ hcall => Or.inl hcall)
  intro hnone
  have hcore : core.fatalError = none := by
    by_contra hsome
    have hset := hlatched (Option.isSome_iff_ne_none.mpr hsome)
    exact Option.isSome_iff_ne_none.mp hset hnone
  have hmoments := hgenerations.settled hcore
  rw [← hsynced] at hmoments
  exact Nat.le_of_eq hmoments.symm

theorem refreshCreate (h : ProcessSound ext process core) {generation : Nat}
    (hphase : process.refresher = .loaded generation) (faults : ReadFaults) :
    RefreshSound process (.created generation (process.createSnapshot faults)) := by
  have hloaded : RefreshSound process (.loaded generation) := hphase ▸ h.refresher
  unfold Process.createSnapshot
  cases hcreated : UnifiedStorage.createSnapshot process.server.db faults with
  | error status => exact True.intro
  | ok db =>
      obtain rfl := (reads_createSnapshot process.server.db faults).of_ok hcreated
      refine ⟨⟨h.dbAt_last, hloaded, h.generations.moments_le generation⟩, ?_⟩
      intro current hcurrent
      exact moment_le (h.stored current hcurrent).holds

theorem refreshStore (h : ProcessSound ext process core) {generation : Nat}
    {snapshot : Result ReadSnapshot} (hphase : process.refresher = .created generation snapshot) :
    ProcessSound ext
      { process with
        shared := process.shared.refreshed generation snapshot
        refresher := SharedSnapshot.afterRefresh snapshot } core := by
  have hgenerations := h.generations
  have hcreated : RefreshSound process (.created generation snapshot) := hphase ▸ h.refresher
  cases snapshot with
  | error status =>
      refine h.follows ⟨rfl, rfl, rfl, rfl, le_rfl, le_rfl⟩ ⟨hgenerations.monotone,
        hgenerations.moments_le, hgenerations.generation_le, hgenerations.settled,
        hgenerations.pending, hgenerations.returned_le, hgenerations.returned⟩
        (fun _ hsnapshot => Or.inl ⟨hsnapshot, rfl⟩) ?_ (fun _ _ _ hcall => Or.inl hcall)
      unfold SharedSnapshot.afterRefresh
      dsimp only
      split <;> exact True.intro
  | ok created =>
      refine h.follows ⟨rfl, rfl, rfl, rfl, le_rfl, le_rfl⟩ ⟨hgenerations.monotone,
        hgenerations.moments_le, hgenerations.generation_le, hgenerations.settled,
        hgenerations.pending, hgenerations.returned_le, hgenerations.returned⟩ ?_ True.intro
        (fun _ _ _ hcall => Or.inl hcall)
      intro current hcurrent
      obtain rfl : created = current := Option.some.inj hcurrent
      exact Or.inr (hcreated.1.follows ⟨rfl, rfl, rfl, rfl, le_rfl, le_rfl⟩)

theorem acquireNext (h : ProcessSound ext process core) {id begun : Nat}
    {phase phase' : AcquirePhase} (hcall : process.acquires id = some (phase, begun))
    (hnext : process.shared.acquireStep phase = some (.next phase')) :
    AcquireSound process begun phase' := by
  have hcaller := h.acquires id phase begun hcall
  cases phase with
  | called =>
      cases hfatal : process.shared.fatalError with
      | some status => simp [SharedSnapshot.acquireStep, ensureAvailable, hfatal] at hnext
      | none =>
          obtain rfl : AcquirePhase.available = phase' := by
            simpa [SharedSnapshot.acquireStep, ensureAvailable, hfatal] using hnext
          exact Nat.le_trans hcaller (h.generations.returned hfatal)
  | available =>
      obtain rfl : AcquirePhase.waiting process.shared.commitGeneration = phase' := by
        simpa [SharedSnapshot.acquireStep] using hnext
      exact ⟨le_rfl, hcaller⟩
  | waiting requiredGeneration =>
      cases hwakes : process.shared.wakes requiredGeneration <;>
        simp [SharedSnapshot.acquireStep, hwakes] at hnext

end ProcessSound

theorem Server.step_fatalError {server next : Server} {core' : Running} {status : Status}
    {event : Event} (h : server.step ext (.fatalError status) = some (next, event))
    (hnext : next.mode = .running core') :
    core'.fatalError ≠ none := by
  generalize hresult : (next, event) = result at h
  cases Server.step_cases h with
  | fatalError hrunning =>
      obtain ⟨rfl, rfl⟩ := Prod.mk.inj hresult
      cases hnext
      exact Accounted.fatalStorageError_fatalError _ _

/-- Every step of a process keeps the invariant. -/
theorem ProcessSound.step (h : ProcessSound ext process core) (hstep : process.Step ext label next) :
    ∃ core', ProcessSound ext next core' := by
  have hcore {other : Running} (hmode : process.server.mode = .running other) : core = other :=
    Mode.running.inj (h.mode.symm.trans hmode)
  cases hstep with
  | serve hmode hserved hnext hlock =>
      obtain rfl := hcore hmode
      exact ⟨_, h.serve hserved hnext hlock⟩
  | commitReturns hmode hpending =>
      obtain rfl := hcore hmode
      exact ⟨_, h.commitReturns hpending⟩
  | @latch _ status hmode _ => exact ⟨_, h.setFlags _ (some status) nofun⟩
  | unlock hmode _ hsynced hlatched =>
      obtain rfl := hcore hmode
      exact ⟨_, h.unlock hsynced hlatched⟩
  | refreshWake hphase =>
      refine ⟨_, h.setRefresher ?_⟩
      unfold SharedSnapshot.refreshWake
      split
      · exact True.intro
      · split
        · exact True.intro
        · exact le_rfl
  | refreshCreate hphase => exact ⟨_, h.setRefresher (h.refreshCreate hphase _)⟩
  | refreshBreak _ _ =>
      exact ⟨_, h.setRefresher (RefreshSound.ended process)⟩
  | refreshStore hphase _ => exact ⟨_, h.refreshStore hphase⟩
  | @refreshFail _ _ _ _ core' hphase hmode hserved hnext =>
      obtain rfl := hcore hmode
      have hset := Server.step_fatalError hserved.1 hnext
      have hlatched := (h.serve hserved hnext nofun).setFlags process.shared.stop core'.fatalError
        (fun hnone => absurd hnone hset)
      exact ⟨_, hlatched.setRefresher (RefreshSound.ended _)⟩
  | stop => exact ⟨_, h.setFlags true _ id⟩
  | acquireCall _ =>
      refine ⟨_, h.setAcquire ?_⟩
      rintro phase begun hcall
      cases hcall
      exact le_rfl
  | acquireNext hcall hnext =>
      refine ⟨_, h.setAcquire ?_⟩
      rintro phase begun hset
      cases hset
      exact h.acquireNext hcall hnext
  | acquireReturn _ _ => exact ⟨_, h.setAcquire nofun⟩

/-- The databases of a process stay where they are. -/
theorem Process.Step.dbAt (h : process.Step ext label next) {moment : Nat}
    {db : Db} (hat : process.dbAt moment = some db) : next.dbAt moment = some db := by
  cases h with
  | serve => exact Process.dbAt_serve hat
  | @refreshFail status event server core _ _ _ _ _ =>
      have hserved : (process.serve core.commitGeneration (.fatalError status) event server).dbAt
          moment = some db := Process.dbAt_serve hat
      exact hserved
  | _ => exact hat

theorem Process.Step.base (h : process.Step ext label next) : next.base = process.base := by
  cases h <;> rfl

/-! ### The start of a process -/

theorem start_sound {server : Server} {config : Config} (h : Reachable ext server)
    (hmode : server.mode = .running { config }) (faults : ReadFaults) :
    ∃ core, ProcessSound ext (Process.start server config faults) core := by
  obtain ⟨store, log, hsound⟩ := h.sound
  have hbase : Explained ext server.db := ⟨store, log, hsound.represents, hsound.coherent⟩
  unfold Process.start
  cases hcreated : UnifiedStorage.createSnapshot server.db faults with
  | ok db =>
      obtain rfl := (reads_createSnapshot server.db faults).of_ok hcreated
      refine ⟨_, hmode, h, hbase, .nil _, ⟨fun _ _ _ => le_rfl, fun _ => le_rfl, le_rfl,
        fun _ => rfl, fun hdiffers => absurd rfl hdiffers, le_rfl, fun _ => le_rfl⟩, ?_,
        True.intro, ?_⟩
      · intro snapshot hsnapshot
        cases hsnapshot
        exact ⟨rfl, le_rfl, le_rfl⟩
      · intro _ _ _ hacquire
        cases hacquire
  | error status =>
      dsimp only
      split
      · have hfatal : Server.Step ext server (.fatalError status, .silent)
            { server with mode := .running { config, fatalError := some status } } :=
          ⟨by simp [Server.step, hmode, Server.updated, fatalStorageError, Running.coreState,
            Running.withState], NoWrap.refl server.db⟩
        refine ⟨_, rfl, h.step hfatal, hbase, .nil _, ⟨fun _ _ _ => le_rfl, fun _ => le_rfl,
          le_rfl, fun _ => rfl, fun hdiffers => absurd rfl hdiffers, le_rfl, fun _ => le_rfl⟩, ?_,
          True.intro, ?_⟩
        · intro _ hsnapshot
          cases hsnapshot
        · intro _ _ _ hacquire
          cases hacquire
      · refine ⟨_, hmode, h, hbase, .nil _, ⟨fun _ _ _ => le_rfl, fun _ => le_rfl, le_rfl,
          fun _ => rfl, fun hdiffers => absurd rfl hdiffers, le_rfl, fun _ => le_rfl⟩, ?_,
          True.intro, ?_⟩
        · intro _ hsnapshot
          cases hsnapshot
        · intro _ _ _ hacquire
          cases hacquire

end Threads

end OpenEvent
