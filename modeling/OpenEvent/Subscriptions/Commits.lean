import OpenEvent.MessageLog
import OpenEvent.Reachable
import OpenEvent.Subscriptions.SharedSnapshot

/-!
What the steps of a running server do to the commit generation and to the
fatal flag, and the chain of databases that its batches make.
-/

namespace OpenEvent

open OpenEventCore

/-! ### Commits and the generation -/

/-- A set fatal flag stays as it was set. Every applied batch raised the
generation, or its commit failed and the server is shutting down. -/
structure Accounted (before after : CoreState) (applied : Bool) : Prop where
  fatalError : ∀ status, before.fatalError = some status → after.fatalError = some status
  skipped : applied = false → after.commitGeneration = before.commitGeneration
  applied : applied = true → after.commitGeneration = before.commitGeneration + 1 ∨
    after.commitGeneration = before.commitGeneration ∧ after.fatalError ≠ none

namespace Accounted

variable {before after : CoreState} {applied : Bool}

theorem fatalError_none (h : Accounted before after applied) (hnone : after.fatalError = none) :
    before.fatalError = none := by
  cases hset : before.fatalError with
  | none => rfl
  | some status =>
      rw [h.fatalError status hset] at hnone
      cases hnone

theorem unchanged {db : Db} (state : CoreState) : Accounted state { state with db } false :=
  ⟨fun _ hset => hset, fun _ => rfl, fun h => by cases h⟩

theorem fatalStorageError_fatalError (state : CoreState) (status : Status) :
    (fatalStorageError state status).fatalError ≠ none := by
  unfold fatalStorageError
  split
  · rename_i hsome
    simp [hsome]
  · simp

theorem fatalStorageError_keeps {state : CoreState} {first : Status}
    (h : state.fatalError = some first) (status : Status) :
    (fatalStorageError state status).fatalError = some first := by
  rw [fatalStorageError, h]
  exact h

theorem fatalStorageError_generation (state : CoreState) (status : Status) :
    (fatalStorageError state status).commitGeneration = state.commitGeneration := by
  unfold fatalStorageError
  split <;> rfl

/-- The latch may follow anything. -/
theorem latched (h : Accounted before after applied) (status : Status) :
    Accounted before (fatalStorageError after status) applied := by
  have hset := fatalStorageError_fatalError after status
  have hgeneration := fatalStorageError_generation after status
  refine ⟨fun first hfirst => fatalStorageError_keeps (h.fatalError first hfirst) status, ?_, ?_⟩
  · intro happlied
    rw [hgeneration, h.skipped happlied]
  · intro happlied
    rw [hgeneration]
    rcases h.applied happlied with hcommitted | ⟨hsame, _⟩
    · exact Or.inl hcommitted
    · exact Or.inr ⟨hsame, hset⟩

theorem commitBatch (state : CoreState) (batch : WriteBatch) (outcome : CommitOutcome) :
    Accounted state (OpenEventCore.commitBatch state batch outcome).1 outcome.applies := by
  cases outcome with
  | written =>
      refine ⟨fun _ hset => hset, ?_, fun _ => Or.inl rfl⟩
      intro happlied
      cases happlied
  | failed applied status =>
      rw [commitBatch_failed]
      generalize (if applied then state.db.write batch else state.db) = db
      have hset := fatalStorageError_fatalError { state with db }
        (rocksToStatus status "commit storage batch")
      have hgeneration := fatalStorageError_generation { state with db }
        (rocksToStatus status "commit storage batch")
      have hkeeps (first : Status) (hfirst : ({ state with db } : CoreState).fatalError = some first) :=
        fatalStorageError_keeps hfirst (rocksToStatus status "commit storage batch")
      exact ⟨hkeeps, fun _ => hgeneration, fun _ => Or.inr ⟨hgeneration, hset⟩⟩

theorem conclude (state : CoreState) (env : CallEnv)
    (built : Except Exit (WriteBatch × ResponseData)) :
    Accounted state (OpenEventCore.conclude state env built).1
      (match built with
        | .ok _ => env.commit.applies
        | .error _ => false) := by
  cases built with
  | error exit =>
      simp only [OpenEventCore.conclude, leave]
      split
      · exact (unchanged state).latched exit.status
      · exact unchanged state
  | ok found => exact commitBatch state found.1 env.commit

theorem prepareSection (ext : Externals) (state : CoreState) (env : CallEnv)
    (request : WriteObjectRequest) (object : StoredObject) :
    Accounted state (OpenEventCore.prepareSection ext state env request object).1
      (match prepareBatch ext state.db env request object with
        | .ok _ => if env.commit.applies then some WriteSection.prepare else none
        | .error _ => none).isSome := by
  unfold OpenEventCore.prepareSection
  cases prepareBatch ext state.db env request object with
  | error status => exact unchanged state
  | ok found =>
      have hcommit := commitBatch state found.1 env.commit
      have happlied : (if env.commit.applies = true then some WriteSection.prepare else none).isSome =
          env.commit.applies := by
        cases env.commit.applies <;> rfl
      dsimp only
      rw [happlied]
      split <;> exact hcommit

theorem failPrepared (state : CoreState) (objectId : UInt64) (status : Status) :
    Accounted state (OpenEventCore.failPrepared state objectId status).1 false := by
  unfold OpenEventCore.failPrepared
  split
  · exact (unchanged state).latched status
  · exact unchanged state

theorem afterFileWrite (state : CoreState) (objectId : UInt64) (status : Status) :
    Accounted state (OpenEventCore.afterFileWrite state objectId status).1 false := by
  unfold OpenEventCore.afterFileWrite
  split
  · exact unchanged state
  · exact failPrepared state objectId status

theorem afterCleanup (state : CoreState) (status result : Status) :
    Accounted state (OpenEventCore.afterCleanup state status result).1 false := by
  unfold OpenEventCore.afterCleanup
  split
  · exact unchanged state
  · split
    · exact (unchanged state).latched status
    · exact unchanged state

theorem commitSection (ext : Externals) (state : CoreState) (env : CallEnv)
    (request : WriteObjectRequest) (object : StoredObject) :
    Accounted state (OpenEventCore.commitSection ext state env request object).1
      (match commitDecision ext state.db env request object with
        | .commit _ => if env.commit.applies then some WriteSection.commit else none
        | _ => none).isSome := by
  unfold OpenEventCore.commitSection
  cases commitDecision ext state.db env request object with
  | exit status => exact (unchanged state).latched status
  | fail status => exact failPrepared state object.objectId status
  | commit batch =>
      have hcommit := commitBatch state batch env.commit
      have happlied : (if env.commit.applies = true then some WriteSection.commit else none).isSome =
          env.commit.applies := by
        cases env.commit.applies <;> rfl
      dsimp only
      rw [happlied]
      split
      · exact hcommit
      · exact hcommit.latched _

theorem deletePreparingSection (state : CoreState) (env : CallEnv) (objectId : UInt64)
    (result : Status) :
    Accounted state (OpenEventCore.deletePreparingSection state env objectId result).1
      (if env.commit.applies then some WriteSection.deletePreparing else none).isSome := by
  have hcommit := commitBatch state (UnifiedStorage.deletePreparingObject [] objectId) env.commit
  have happlied : (if env.commit.applies = true then some WriteSection.deletePreparing
      else none).isSome = env.commit.applies := by
    cases env.commit.applies <;> rfl
  rw [happlied]
  exact hcommit

end Accounted

/-- The step of a running server, as other threads may come to see it. -/
structure ServedStep (server next : Server) (core core' : Running) (action : Action)
    (event : Event) : Prop where
  accounted : Accounted (core.coreState server.db) (core'.coreState next.db) event.applied
  locks : event.applied = true → action.locksCoordinator = true
  opened : ∀ result, event ≠ .opened result

/-- No batch, a committed batch, or a batch whose commit failed. -/
theorem ServedStep.cases {server next : Server} {core core' : Running} {action : Action}
    {event : Event} (h : ServedStep server next core core' action event) :
    event.applied = false ∧ core'.commitGeneration = core.commitGeneration ∨
      event.applied = true ∧ core'.commitGeneration = core.commitGeneration + 1 ∨
      event.applied = true ∧ core'.commitGeneration = core.commitGeneration ∧
        core'.fatalError ≠ none := by
  cases happlied : event.applied with
  | false => exact Or.inl ⟨rfl, h.accounted.skipped happlied⟩
  | true =>
      rcases h.accounted.applied happlied with hcommitted | hfailed
      · exact Or.inr (Or.inl ⟨rfl, hcommitted⟩)
      · exact Or.inr (Or.inr ⟨rfl, hfailed⟩)

section Steps

variable {ext : Externals} {server next : Server} {core core' : Running} {action : Action}
variable {event : Event}

private theorem advance_served {dir : ObjectDirectory} {id : Nat} {call : WriteObjectCall}
    {applied : Option WriteSection} {state : CoreState} {progress : WriteObjectProgress}
    (h : Accounted (core.coreState server.db) state applied.isSome)
    (hlocks : applied.isSome = true → action.locksCoordinator = true)
    (hresult : ({ server with dir } : Server).advance core id call applied state progress =
      (next, event)) (hmode : next.mode = .running core') :
    ServedStep server next core core' action event := by
  cases progress with
  | next phase =>
      obtain ⟨rfl, rfl⟩ := Prod.mk.inj hresult
      cases hmode
      exact ⟨h, hlocks, nofun⟩
  | done status data =>
      obtain ⟨rfl, rfl⟩ := Prod.mk.inj hresult
      cases hmode
      exact ⟨h, hlocks, nofun⟩

theorem Server.step_served (h : server.step ext action = some (next, event))
    (hmode : server.mode = .running core) (hnext : next.mode = .running core') :
    ServedStep server next core core' action event := by
  generalize hresult : (next, event) = result at h
  cases Server.step_cases h with
  | openStore hclosed => rw [hmode] at hclosed; cases hclosed
  | recoveryCall hrecovering _ => rw [hmode] at hrecovering; cases hrecovering
  | recoveryCommit hrecovering => rw [hmode] at hrecovering; cases hrecovering
  | enterMutation hrunning _ =>
      obtain rfl := Mode.running.inj (hmode.symm.trans hrunning)
      unfold Server.enterMutation at hresult
      split at hresult
      · obtain ⟨rfl, rfl⟩ := Prod.mk.inj hresult
        obtain rfl := Mode.running.inj (hmode.symm.trans hnext)
        exact ⟨.unchanged _, nofun, nofun⟩
      · obtain ⟨rfl, rfl⟩ := Prod.mk.inj hresult
        obtain rfl := Mode.running.inj (hmode.symm.trans hnext)
        exact ⟨.unchanged _, nofun, nofun⟩
      · obtain ⟨rfl, rfl⟩ := Prod.mk.inj hresult
        cases hnext
        exact ⟨.unchanged _, nofun, nofun⟩
  | runMutation hrunning _ hrun =>
      obtain rfl := Mode.running.inj (hmode.symm.trans hrunning)
      subst hresult
      unfold Server.runMutation at hrun
      split at hrun
      · cases hrun
      · obtain ⟨rfl, rfl⟩ := Prod.mk.inj (Option.some.inj hrun)
        cases hnext
        exact ⟨Accounted.conclude _ _ _, fun _ => rfl, nofun⟩
  | enterWrite hrunning _ henter =>
      obtain rfl := Mode.running.inj (hmode.symm.trans hrunning)
      subst hresult
      unfold Server.enterWrite at henter
      dsimp only at henter
      split at henter
      · obtain ⟨rfl, rfl⟩ := Prod.mk.inj (Option.some.inj henter)
        obtain rfl := Mode.running.inj (hmode.symm.trans hnext)
        exact ⟨.unchanged _, nofun, nofun⟩
      · obtain ⟨rfl, rfl⟩ := Prod.mk.inj (Option.some.inj henter)
        obtain rfl := Mode.running.inj (hmode.symm.trans hnext)
        exact ⟨.unchanged _, nofun, nofun⟩
      · split at henter
        · cases henter
        · obtain ⟨rfl, rfl⟩ := Prod.mk.inj (Option.some.inj henter)
          obtain rfl := Mode.running.inj (hmode.symm.trans hnext)
          exact ⟨.unchanged _, nofun, nofun⟩
        · obtain ⟨rfl, rfl⟩ := Prod.mk.inj (Option.some.inj henter)
          cases hnext
          exact ⟨.unchanged _, nofun, nofun⟩
  | prepareWrite hrunning _ _ =>
      obtain rfl := Mode.running.inj (hmode.symm.trans hrunning)
      exact advance_served (.prepareSection _ _ _ _ _) (fun _ => rfl) hresult.symm hnext
  | @fileCall _ id call outcome _ hrunning _ hfile =>
      obtain rfl := Mode.running.inj (hmode.symm.trans hrunning)
      subst hresult
      have hunlocked : (none : Option WriteSection).isSome = true →
          (Action.fileCall id outcome).locksCoordinator = true := fun happlied => by cases happlied
      unfold Server.fileCall at hfile
      split at hfile
      · split at hfile
        · cases hfile
        · exact advance_served (.unchanged _) hunlocked (Option.some.inj hfile) hnext
        · exact advance_served (.afterFileWrite _ _ _) hunlocked (Option.some.inj hfile) hnext
      · split at hfile
        · cases hfile
        · exact advance_served (.unchanged _) hunlocked (Option.some.inj hfile) hnext
        · exact advance_served (.afterCleanup _ _ _) hunlocked (Option.some.inj hfile) hnext
      · cases hfile
  | commitWrite hrunning _ _ =>
      obtain rfl := Mode.running.inj (hmode.symm.trans hrunning)
      exact advance_served (.commitSection _ _ _ _ _) (fun _ => rfl) hresult.symm hnext
  | @deletePreparing _ id call env answer hrunning _ _ =>
      obtain rfl := Mode.running.inj (hmode.symm.trans hrunning)
      have hsection := Accounted.deletePreparingSection (core.coreState server.db) env
        call.object.objectId answer
      unfold Server.deletePreparing at hresult
      exact advance_served hsection (fun _ => rfl) hresult.symm hnext
  | fatalError hrunning =>
      obtain rfl := Mode.running.inj (hmode.symm.trans hrunning)
      obtain ⟨rfl, rfl⟩ := Prod.mk.inj hresult
      cases hnext
      exact ⟨(Accounted.unchanged _).latched _, nofun, nofun⟩
  | exitProcess =>
      obtain ⟨rfl, rfl⟩ := Prod.mk.inj hresult
      cases hnext
  | powerLoss =>
      obtain ⟨rfl, rfl⟩ := Prod.mk.inj hresult
      cases hnext

end Steps

/-! ### The chain of batches -/

/-- One batch: what it did to the store that the database represents. -/
inductive BatchStep (ext : Externals) (before : Db) : Event × Db → Db → Prop
  | applied {event : Event} {after : Db} {store : Store} {log : List EventMessage}
      {effect : Effect} : Represents ext before store → Coherent ext store log →
      Applies store event effect → Permitted store effect →
      Represents ext after (store.apply effect) →
      Coherent ext (store.apply effect) (log ++ effect.messages) →
      BatchStep ext before (event, after) after

section Batches

variable {ext : Externals} {server next : Server} {core core' : Running} {action : Action}
variable {event : Event} {before after : Db} {batches : List (Event × Db)}

/-- A step of a running server applies one batch or leaves the database alone. -/
theorem Reachable.batch (h : Reachable ext server)
    (hstep : Server.Step ext server (action, event) next) (hmode : server.mode = .running core)
    (hnext : next.mode = .running core') :
    event.applied = true ∧ BatchStep ext server.db (event, next.db) next.db ∨
      event.applied = false ∧ next.db = server.db := by
  obtain ⟨store, log, hsound⟩ := h.sound
  cases Server.step_effect hsound.represents hsound.coherent.valid hsound.calls hstep.1 with
  | unchanged hevent hdb => exact Or.inr ⟨hevent, hdb⟩
  | @applied effect happlies hpermitted hdb =>
      have hwrap := hsound.represents.noWrap hdb hstep.2
      refine Or.inl ⟨?_, .applied hsound.represents hsound.coherent happlies hpermitted hdb
        (hsound.coherent.apply hpermitted hwrap)⟩
      cases happlies with
      | recovery => exact absurd rfl ((Server.step_served hstep.1 hmode hnext).opened _)
      | _ => rfl

/-- A log that represents and explains the database. -/
def Explained (ext : Externals) (db : Db) : Prop :=
  ∃ store log, Represents ext db store ∧ Coherent ext store log

theorem BatchStep.explained {label : Event × Db} (h : BatchStep ext before label after) :
    Explained ext after := by
  cases h with
  | applied _ _ _ _ hdb hcoherent => exact ⟨_, _, hdb, hcoherent⟩

theorem batches_explained (hrun : Run (BatchStep ext) before batches after)
    (h : Explained ext before) : Explained ext after :=
  hrun.invariant h (fun _ _ _ _ hstep => hstep.explained)

/-- Batches only append to the log. -/
theorem batches_grow (hrun : Run (BatchStep ext) before batches after) :
    before.log ext <+: after.log ext := by
  refine hrun.relates (P := fun _ => True) (R := fun db db' => db.log ext <+: db'.log ext)
    True.intro (fun _ _ _ _ _ => True.intro) (fun _ => List.prefix_refl _)
    (fun _ _ _ => List.IsPrefix.trans) ?_
  intro db label db' _ hstep
  cases hstep with
  | applied hdb hcoherent _ _ hdb' hcoherent' =>
      rw [hdb.log_eq hcoherent.logIndex, hdb'.log_eq hcoherent'.logIndex]
      exact List.prefix_append _ _

end Batches

end OpenEvent
