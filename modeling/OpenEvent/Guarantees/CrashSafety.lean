import OpenEvent.ObjectInvariant
import OpenEvent.Reference

/-!
The object store after a restart: whatever calls were in flight, whatever file
operations failed and wherever the power was lost, a successful open leaves
the committed objects with their files and nothing else.
-/

namespace OpenEvent

open OpenEventCore ObjectFileStore

/-- The final file of an object holds the given bytes. -/
structure HasFile (dir : ObjectDirectory) (objectId : UInt64) (data : Bytes) : Prop where
  file : ∃ inode, dir.entries (finalName objectId) = some inode ∧
    (dir.inodes inode).kind = .regular ∧ (dir.inodes inode).bytes = data

/-- The object store right after a successful open. `calls` are the
`WriteObject` calls whose PREPARING batch has ever been applied. -/
structure CleanObjectStore (ext : Externals) (server : Server) (calls : List WriteObjectCall) :
    Prop where
  no_preparing : ∀ objectId,
    server.db.objects.get (numericKey kPreparingObjectPrefix objectId) = none
  committed : ∀ objectId,
    server.db.objects.get (numericKey kCommittedObjectPrefix objectId) ≠ none →
    ∃ call ∈ calls, call.object.objectId = objectId ∧
      (∀ other ∈ calls, other.object.objectId = objectId → other = call) ∧
      server.db.committedObject ext objectId = some call.object ∧
      HasFile server.dir objectId call.request.data
  no_other_file : ∀ name, server.dir.entries name ≠ none → ∃ objectId, name = finalName objectId ∧
    server.db.objects.get (numericKey kCommittedObjectPrefix objectId) ≠ none
  next_exceeds : ∀ call ∈ calls, call.object.objectId < server.db.counter kNextObjectIdKey

variable {ext : Externals} {server next : Server} {store : Store} {log : List EventMessage}
variable {calls : List WriteObjectCall} {owner : Nat → UInt64}

theorem Durable.hasFile {dir : ObjectDirectory} {objectId : UInt64} {inode : Nat} {data : Bytes}
    (h : Durable dir owner objectId inode data) (hregular : OnlyRegular dir) :
    HasFile dir objectId data :=
  ⟨inode, h.final.present, hregular inode, h.file.bytes_eq⟩

/-- The call of an id is the only one with that id. -/
theorem FilesSound.call_unique {dir : ObjectDirectory} (h : FilesSound dir owner store calls)
    {call other : WriteObjectCall} (hcall : call ∈ calls) (hother : other ∈ calls)
    (hid : other.object.objectId = call.object.objectId) : other = call :=
  List.inj_on_of_nodup_map h.calls_distinct hother hcall hid

/-- Without PREPARING records the committed objects are all there is. -/
theorem FilesSound.clean (h : FilesSound server.dir owner store calls)
    (hdb : Represents ext server.db store) (hvalid : store.Valid ext)
    (hnone : ∀ objectId, store.preparing objectId = none) : CleanObjectStore ext server calls where
  no_preparing objectId := (hdb.objects (.preparing objectId)).eq_none_iff.mpr (hnone objectId)
  committed objectId hkey := by
    have hrecord : store.committed objectId ≠ none := fun hmissing =>
      hkey ((hdb.objects (.committed objectId)).eq_none_iff.mpr hmissing)
    obtain ⟨object, hobject⟩ := Option.ne_none_iff_exists'.mp hrecord
    have hid := (hvalid.object (.committed objectId) object hobject).objectId_eq
    obtain ⟨call, hcall, rfl, inode, hdurable⟩ := h.committed objectId object hobject
    refine ⟨call, hcall, hid, ?_, ?_, hdurable.hasFile h.regular⟩
    · intro other hother hsame
      exact h.call_unique hcall hother (hsame.trans hid.symm)
    · rw [hdb.committedObject_eq, hobject]
  no_other_file name hentry := by
    by_cases hname : ∃ objectId, ObjectName objectId name
    · obtain ⟨objectId, hname⟩ := hname
      cases hcommitted : store.committed objectId with
      | none =>
          have habsent := h.absent objectId (hnone objectId) hcommitted
          rcases hname with rfl | rfl
          · exact absurd habsent.temporary.present hentry
          · exact absurd habsent.final.present hentry
      | some object =>
          obtain ⟨call, _, _, inode, hdurable⟩ := h.committed objectId object hcommitted
          rcases hname with rfl | rfl
          · exact absurd hdurable.temporary.present hentry
          · refine ⟨objectId, rfl, fun hmissing => ?_⟩
            have hrecord : store.committed objectId = none :=
              (hdb.objects (.committed objectId)).eq_none_iff.mp hmissing
            rw [hcommitted] at hrecord
            cases hrecord
    · exact absurd (h.strangers name (not_exists.mp hname)).present hentry
  next_exceeds call hcall := by
    rw [hdb.counter_nextObjectId]
    exact h.calls_lt call hcall

theorem Server.advance_ne_opened (server : Server) (core : Running) (id : Nat)
    (call : WriteObjectCall) (applied : Option WriteSection) (state : CoreState)
    (progress : WriteObjectProgress) {result : Result Unit} :
    server.advance core id call applied state progress ≠ (next, .opened result) := by
  cases progress <;> simp [Server.advance]

/-- A successful open leaves no PREPARING record. -/
theorem RunSound.opened {labels : List (Action × Event)}
    (h : RunSound ext labels server store log owner) {action : Action}
    (hstep : server.step ext action = some (next, .opened (.ok ()))) {store' : Store}
    (hdb' : Represents ext next.db store') (objectId : UInt64) :
    store'.preparing objectId = none := by
  have hdb := h.sound.represents
  generalize hresult : (next, Event.opened (.ok ())) = result at hstep
  cases Server.step_cases hstep with
  | @openStore config faults _ =>
      unfold Server.openStore at hresult
      split at hresult
      · cases hresult
      · split at hresult
        · cases hresult
        · rename_i objects hplan
          split at hresult
          · rename_i status hdone
            cases hresult
            obtain rfl := hdb.unique hdb'
            by_contra hsome
            have hlisted := (planRecovery_listed hdb h.sound.coherent.valid hplan objectId).mp hsome
            unfold cleanupStart at hdone
            split at hdone
            · rename_i hempty
              simp [hempty] at hlisted
            · cases hdone
          · cases hresult
  | @recoveryCall config objects phase outcome _ _ hcall =>
      subst hresult
      unfold Server.recoveryCall at hcall
      split at hcall
      · cases hcall
      · cases hcall
      · split at hcall <;> cases hcall
  | @recoveryCommit config objects outcome hmode =>
      have hrecovery : RecoveryFiles server.dir store (objects.map (·.objectId)) .commit := by
        have hfiles := h.objects.mode
        rwa [hmode] at hfiles
      cases outcome with
      | written =>
          cases hresult
          obtain rfl := (hdb.recoveryBatch objects).unique hdb'
          rw [store.discard_preparing]
          by_cases hmember : objectId ∈ objects.map (·.objectId)
          · rw [if_pos hmember]
          · rw [if_neg hmember]
            by_contra hsome
            exact hmember ((hrecovery.listed objectId).mp hsome)
      | failed applied status =>
          simp only [Server.recoveryCommit, UnifiedStorage.commit, rocksToStatus_not_ok] at hresult
          cases hresult
  | enterMutation _ _ =>
      unfold Server.enterMutation at hresult
      split at hresult <;> cases hresult
  | runMutation _ _ hrun =>
      subst hresult
      unfold Server.runMutation at hrun
      split at hrun <;> cases hrun
  | enterWrite _ _ henter =>
      subst hresult
      unfold Server.enterWrite at henter
      dsimp only at henter
      split at henter
      · cases henter
      · cases henter
      · split at henter <;> cases henter
  | prepareWrite _ _ _ => exact absurd hresult.symm (Server.advance_ne_opened _ _ _ _ _ _ _)
  | fileCall _ _ hfile =>
      subst hresult
      cases Server.fileCall_outcome hfile
  | commitWrite _ _ _ => exact absurd hresult.symm (Server.advance_ne_opened _ _ _ _ _ _ _)
  | @deletePreparing core id call env answer _ _ _ =>
      exact absurd hresult.symm (Server.advance_ne_opened server core id call _ _
        (deletePreparingSection (core.coreState server.db) env call.object.objectId answer).2)
  | fatalError _ => cases hresult
  | exitProcess => cases hresult
  | powerLoss => cases hresult

/-- After every run and the successful open that follows it, the objects
directory holds the committed objects and nothing else. -/
theorem objectStore_clean_after_open (ext : Externals) {eventMs : UInt64}
    {labels : List (Action × Event)} {server next : Server} {action : Action}
    (hrun : Run (Server.Step ext) (Server.initial ext eventMs) labels server)
    (hopen : Server.Step ext server (action, .opened (.ok ())) next) :
    CleanObjectStore ext next (preparedCalls labels) := by
  obtain ⟨store, log, owner, hsound⟩ := run_objectsSound hrun
  obtain ⟨store', log', owner', hsound'⟩ := run_objectsSound (hrun.snoc hopen)
  have hfiles := hsound'.objects.files
  rw [preparedCalls_append] at hfiles
  have hcalls : preparedCalls labels ++
      (Event.prepared (.opened (.ok ()))).toList = preparedCalls labels := List.append_nil _
  rw [hcalls] at hfiles
  exact hfiles.clean hsound'.sound.represents hsound'.sound.coherent.valid
    (hsound.opened hopen.1 hsound'.sound.represents)

/-- The session, ended and opened again. -/
theorem session_clean_after_open :
    ∃ next, CleanObjectStore Reference.externals next
      (preparedCalls (Reference.sessionLabels ++ [(.exitProcess, .silent)])) := by
  have hexit := Server.step_exitProcess Reference.externals Reference.sessionServer
  have hopened : ((Server.stepNoWrap Reference.externals
      { Reference.sessionServer with mode := .closed }
      (.openStore Reference.config {})).map (fun result => result.2.isOpened)) = some true := by
    decide +kernel
  obtain ⟨⟨next, event⟩, hstep, hevent⟩ := Option.map_eq_some_iff.mp hopened
  obtain rfl := Event.eq_of_isOpened hevent
  exact ⟨next, objectStore_clean_after_open Reference.externals
    (Reference.session_run.snoc hexit) (Server.stepNoWrap_step _ _ _ _ hstep)⟩

end OpenEvent
