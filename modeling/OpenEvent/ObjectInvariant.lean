import OpenEvent.ObjectFiles
import OpenEvent.Reachable

/-!
The object files and the object records together: in every state that runs
reach, committed objects have their files, discarded and unused ids have none,
and the files of a PREPARING object are those of the call that works on it.
-/

namespace OpenEvent

open OpenEventCore ObjectFileStore DurableDirectory

/-- The call whose PREPARING batch a step applied. -/
def Event.prepared : Event → Option WriteObjectCall
  | .write call (some .prepare) _ => some call
  | _ => none

/-- The calls whose PREPARING batch was applied in a run, in order. -/
def preparedCalls (labels : List (Action × Event)) : List WriteObjectCall :=
  labels.filterMap (fun label => label.2.prepared)

/-! ### The invariant -/

/-- Records and files, apart from the calls in flight. `calls` are those whose
PREPARING batch was applied so far. -/
structure FilesSound (dir : ObjectDirectory) (owner : Nat → UInt64) (store : Store)
    (calls : List WriteObjectCall) : Prop where
  strangers : ∀ name, (∀ objectId, ¬ ObjectName objectId name) → dir.Certain name none
  regular : OnlyRegular dir
  absent : ∀ objectId, store.preparing objectId = none → store.committed objectId = none →
    Absent dir objectId
  committed : ∀ objectId object, store.committed objectId = some object →
    ∃ call ∈ calls, call.object = object ∧
      ∃ inode, Durable dir owner objectId inode call.request.data
  calls_lt : ∀ call ∈ calls, call.object.objectId < store.nextObjectId
  calls_distinct : (calls.map (fun call => call.object.objectId)).Nodup
  calls_checked : ∀ call ∈ calls, CallChecked call

/-- The files of the object that a call works on. -/
def CallFiles (dir : ObjectDirectory) (owner : Nat → UInt64) (call : WriteObjectCall) : Prop :=
  match call.phase with
  | .prepare => call.object.objectId = 0
  | .writing phase => WriteFiles dir owner call.object.objectId call.request.data phase
  | .commit => ∃ inode, Durable dir owner call.object.objectId inode call.request.data
  | .cleaning phase result => CleanupFiles dir [call.object.objectId] phase ∧
      result.isOk = false ∧ result.isFatal = false
  | .deletePreparing result => Absent dir call.object.objectId ∧
      result.isOk = false ∧ result.isFatal = false

/-- The calls in flight: each past its first section has its PREPARING record
and an id of its own. -/
structure InFlight (dir : ObjectDirectory) (owner : Nat → UInt64) (store : Store)
    (calls : List WriteObjectCall) (writes : Nat → Option WriteObjectCall) : Prop where
  files : ∀ id call, writes id = some call → CallFiles dir owner call
  record : ∀ id call, writes id = some call → call.phase ≠ .prepare →
    store.preparing call.object.objectId = some call.object
  origin : ∀ id call, writes id = some call → call.phase ≠ .prepare →
    ∃ prepared ∈ calls, prepared.object = call.object ∧ prepared.request = call.request
  unique : ∀ id other call found, writes id = some call → writes other = some found →
    call.phase ≠ .prepare → found.phase ≠ .prepare →
    call.object.objectId = found.object.objectId → id = other

/-- The recovery under way lists the PREPARING records and removes their files. -/
structure RecoveryFiles (dir : ObjectDirectory) (store : Store) (objectIds : List UInt64)
    (phase : RecoveryPhase) : Prop where
  listed : ∀ objectId, store.preparing objectId ≠ none ↔ objectId ∈ objectIds
  cleaning : ∀ cleanup, phase = .cleaning cleanup → CleanupFiles dir objectIds cleanup
  commit : phase = .commit → ∀ objectId ∈ objectIds, Absent dir objectId

def ModeFiles (dir : ObjectDirectory) (owner : Nat → UInt64) (store : Store)
    (calls : List WriteObjectCall) : Mode → Prop
  | .closed => True
  | .recovering _ objects phase => RecoveryFiles dir store (objects.map (·.objectId)) phase
  | .running core => InFlight dir owner store calls core.writes

structure ObjectsSound (server : Server) (store : Store) (calls : List WriteObjectCall)
    (owner : Nat → UInt64) : Prop where
  files : FilesSound server.dir owner store calls
  mode : ModeFiles server.dir owner store calls server.mode

/-! ### Records and files -/

namespace FilesSound

variable {dir dir' : ObjectDirectory} {owner owner' : Nat → UInt64} {store store' : Store}
variable {calls : List WriteObjectCall}

/-- Work on the files of PREPARING objects. -/
theorem elsewhere {objectIds : List UInt64} (h : FilesSound dir owner store calls)
    (hchange : Elsewhere objectIds owner owner' dir dir') (hregular : OnlyRegular dir')
    (hpreparing : ∀ objectId ∈ objectIds,
      store.preparing objectId ≠ none ∧ store.committed objectId = none) :
    FilesSound dir' owner' store calls where
  strangers name hname := by
    refine hchange.changes.certain name none ?_ (h.strangers name hname)
    rintro ⟨objectId, _, hobject⟩
    exact hname objectId hobject
  regular := hregular
  absent objectId hnone hnotCommitted :=
    hchange.absent (fun hmember => (hpreparing objectId hmember).1 hnone)
      (h.absent objectId hnone hnotCommitted)
  committed objectId object hobject := by
    obtain ⟨call, hcall, hrecord, inode, hdurable⟩ := h.committed objectId object hobject
    refine ⟨call, hcall, hrecord, inode, hchange.durable ?_ hdurable⟩
    intro hmember
    rw [(hpreparing objectId hmember).2] at hobject
    cases hobject
  calls_lt := h.calls_lt
  calls_distinct := h.calls_distinct
  calls_checked := h.calls_checked

theorem crash (h : FilesSound dir owner store calls) (choice : String → Nat)
    (contents : Nat → Bytes) : FilesSound (dir.crash choice contents) owner store calls where
  strangers name hname := (h.strangers name hname).crash choice contents
  regular := h.regular.crash choice contents
  absent objectId hnone hnotCommitted :=
    (h.absent objectId hnone hnotCommitted).crash choice contents
  committed objectId object hobject := by
    obtain ⟨call, hcall, hrecord, inode, hdurable⟩ := h.committed objectId object hobject
    exact ⟨call, hcall, hrecord, inode, hdurable.crash choice contents⟩
  calls_lt := h.calls_lt
  calls_distinct := h.calls_distinct
  calls_checked := h.calls_checked

/-- A change of the store that leaves its objects alone. -/
theorem frame (h : FilesSound dir owner store calls) (hpreparing : store'.preparing = store.preparing)
    (hcommitted : store'.committed = store.committed)
    (hnext : store'.nextObjectId = store.nextObjectId) : FilesSound dir owner store' calls := by
  obtain ⟨hstrangers, hregular, habsent, hdurable, hlt, hdistinct, hchecked⟩ := h
  rw [← hpreparing, ← hcommitted] at habsent
  rw [← hcommitted] at hdurable
  rw [← hnext] at hlt
  exact ⟨hstrangers, hregular, habsent, hdurable, hlt, hdistinct, hchecked⟩

/-- The PREPARING record of a call with a new id. -/
theorem prepare (h : FilesSound dir owner store calls) {call : WriteObjectCall}
    (hid : call.object.objectId = store.nextObjectId) (hchecked : CallChecked call)
    (hlt : store.nextObjectId < store.nextObjectId + 1) :
    FilesSound dir owner (store.apply (.prepareObject call.object)) (calls ++ [call]) where
  strangers := h.strangers
  regular := h.regular
  absent objectId hnone hnotCommitted := by
    by_cases hne : objectId = call.object.objectId
    · simp [Store.apply, Store.setPreparing, hne] at hnone
    · exact h.absent objectId (by simpa [Store.apply, Store.setPreparing, hne] using hnone)
        hnotCommitted
  committed objectId object hobject := by
    obtain ⟨found, hfound, hrecord⟩ := h.committed objectId object hobject
    exact ⟨found, List.mem_append_left _ hfound, hrecord⟩
  calls_lt found hfound := by
    simp only [Store.apply, hid]
    rcases List.mem_append.mp hfound with hold | hnew
    · exact UInt64.lt_trans (h.calls_lt found hold) hlt
    · obtain rfl := List.mem_singleton.mp hnew
      rw [hid]
      exact hlt
  calls_distinct := by
    rw [List.map_append, List.nodup_append]
    refine ⟨h.calls_distinct, by simp, ?_⟩
    intro used hused other hother heq
    obtain ⟨found, hfound, rfl⟩ := List.mem_map.mp hused
    have hlast : other = call.object.objectId := by simpa using hother
    have hold := h.calls_lt found hfound
    rw [heq, hlast, hid] at hold
    exact UInt64.lt_irrefl _ hold
  calls_checked found hfound := by
    rcases List.mem_append.mp hfound with hold | hnew
    · exact h.calls_checked found hold
    · obtain rfl := List.mem_singleton.mp hnew
      exact hchecked

/-- The COMMITTED record of an object whose file is durable. -/
theorem commit (h : FilesSound dir owner store calls) {call : WriteObjectCall} {inode : Nat}
    (hcall : call ∈ calls)
    (hdurable : Durable dir owner call.object.objectId inode call.request.data) :
    FilesSound dir owner (store.apply (.commitObject call.object)) calls where
  strangers := h.strangers
  regular := h.regular
  absent objectId hnone hnotCommitted := by
    by_cases hne : objectId = call.object.objectId
    · simp [Store.apply, Store.setCommitted, hne] at hnotCommitted
    · refine h.absent objectId ?_ ?_
      · simpa [Store.apply, Store.setPreparing, Store.setCommitted, hne] using hnone
      · simpa [Store.apply, Store.setPreparing, Store.setCommitted, hne] using hnotCommitted
  committed objectId object hobject := by
    by_cases hne : objectId = call.object.objectId
    · subst hne
      obtain rfl : call.object = object := by
        simpa [Store.apply, Store.setCommitted] using hobject
      exact ⟨call, hcall, rfl, inode, hdurable⟩
    · refine h.committed objectId object ?_
      simpa [Store.apply, Store.setPreparing, Store.setCommitted, hne] using hobject
  calls_lt := h.calls_lt
  calls_distinct := h.calls_distinct
  calls_checked := h.calls_checked

/-- Records of objects without files are removed. -/
theorem discard (h : FilesSound dir owner store calls) {objectIds : List UInt64}
    (habsent : ∀ objectId ∈ objectIds, Absent dir objectId) :
    FilesSound dir owner (store.apply (.discardObjects objectIds)) calls := by
  have hpreparing := store.discard_preparing objectIds
  rw [store.discard_frame objectIds]
  refine ⟨h.strangers, h.regular, ?_, h.committed, h.calls_lt, h.calls_distinct, h.calls_checked⟩
  intro objectId hnone hnotCommitted
  by_cases hmember : objectId ∈ objectIds
  · exact habsent objectId hmember
  · refine h.absent objectId ?_ hnotCommitted
    simpa [hpreparing, hmember] using hnone

end FilesSound

/-! ### Calls in flight -/

theorem Elsewhere.callFiles {objectIds : List UInt64} {owner owner' : Nat → UInt64}
    {dir dir' : ObjectDirectory} {call : WriteObjectCall}
    (h : Elsewhere objectIds owner owner' dir dir') (hother : call.object.objectId ∉ objectIds)
    (hfiles : CallFiles dir owner call) : CallFiles dir' owner' call := by
  unfold CallFiles at *
  split at hfiles
  · exact hfiles
  · exact h.writeFiles hother hfiles
  · obtain ⟨inode, hdurable⟩ := hfiles
    exact ⟨inode, h.durable hother hdurable⟩
  · exact ⟨h.cleanupFiles (by simpa using hother) hfiles.1, hfiles.2⟩
  · exact ⟨h.absent hother hfiles.1, hfiles.2⟩

namespace InFlight

variable {dir dir' : ObjectDirectory} {owner owner' : Nat → UInt64} {store store' : Store}
variable {calls calls' : List WriteObjectCall} {writes : Nat → Option WriteObjectCall}
variable {id : Nat} {call : WriteObjectCall}

theorem empty (dir : ObjectDirectory) (owner : Nat → UInt64) (store : Store)
    (calls : List WriteObjectCall) : InFlight dir owner store calls (fun _ => none) := by
  constructor <;> simp

/-- The other calls when one call has moved on or returned: their records and
their files are untouched. -/
theorem others (h : InFlight dir owner store calls writes) (hcall : writes id = some call)
    (hphase : call.phase ≠ .prepare)
    (helsewhere : Elsewhere [call.object.objectId] owner owner' dir dir')
    (hkept : ∀ objectId, objectId ≠ call.object.objectId →
      store'.preparing objectId = store.preparing objectId) :
    InFlight dir' owner' store' calls (Function.update writes id none) := by
  have hold {other : Nat} {found : WriteObjectCall}
      (hfound : Function.update writes id none other = some found) :
      other ≠ id ∧ writes other = some found := by
    by_cases hid : other = id
    · simp [hid] at hfound
    · exact ⟨hid, by simpa [hid] using hfound⟩
  have hdistinct {other : Nat} {found : WriteObjectCall} (hid : other ≠ id)
      (hfound : writes other = some found) (hfoundPhase : found.phase ≠ .prepare) :
      found.object.objectId ≠ call.object.objectId :=
    fun heq => hid (h.unique other id found call hfound hcall hfoundPhase hphase heq)
  constructor
  · intro other found hfound
    obtain ⟨hid, hwrites⟩ := hold hfound
    have hfiles := h.files other found hwrites
    by_cases hfoundPhase : found.phase = .prepare
    · simpa [CallFiles, hfoundPhase] using hfiles
    · exact helsewhere.callFiles (by simpa using hdistinct hid hwrites hfoundPhase) hfiles
  · intro other found hfound hfoundPhase
    obtain ⟨hid, hwrites⟩ := hold hfound
    rw [hkept _ (hdistinct hid hwrites hfoundPhase)]
    exact h.record other found hwrites hfoundPhase
  · intro other found hfound hfoundPhase
    exact h.origin other found (hold hfound).2 hfoundPhase
  · intro first second found found' hfound hfound' hfoundPhase hfoundPhase' heq
    exact h.unique first second found found' (hold hfound).2 (hold hfound').2 hfoundPhase
      hfoundPhase' heq

/-- A call is added that no other call shares its object with. -/
theorem insert (h : InFlight dir owner store calls writes) (hfree : writes id = none)
    (hfiles : CallFiles dir owner call)
    (hrecord : call.phase ≠ .prepare →
      store.preparing call.object.objectId = some call.object ∧
      (∃ prepared ∈ calls, prepared.object = call.object ∧ prepared.request = call.request) ∧
      ∀ other found, writes other = some found → found.phase ≠ .prepare →
        found.object.objectId ≠ call.object.objectId) :
    InFlight dir owner store calls (Function.update writes id (some call)) := by
  have hcases {other : Nat} {found : WriteObjectCall}
      (hfound : Function.update writes id (some call) other = some found) :
      other = id ∧ call = found ∨ other ≠ id ∧ writes other = some found := by
    by_cases hid : other = id
    · exact Or.inl ⟨hid, by simpa [hid] using hfound⟩
    · exact Or.inr ⟨hid, by simpa [hid] using hfound⟩
  constructor
  · intro other found hfound
    rcases hcases hfound with ⟨_, rfl⟩ | ⟨_, hwrites⟩
    · exact hfiles
    · exact h.files other found hwrites
  · intro other found hfound hphase
    rcases hcases hfound with ⟨_, rfl⟩ | ⟨_, hwrites⟩
    · exact (hrecord hphase).1
    · exact h.record other found hwrites hphase
  · intro other found hfound hphase
    rcases hcases hfound with ⟨_, rfl⟩ | ⟨_, hwrites⟩
    · exact (hrecord hphase).2.1
    · exact h.origin other found hwrites hphase
  · intro first second found found' hfound hfound' hphase hphase' heq
    rcases hcases hfound with ⟨rfl, rfl⟩ | ⟨hid, hwrites⟩
    · rcases hcases hfound' with ⟨rfl, rfl⟩ | ⟨_, hwrites'⟩
      · rfl
      · exact absurd heq.symm ((hrecord hphase).2.2 second found' hwrites' hphase')
    · rcases hcases hfound' with ⟨rfl, rfl⟩ | ⟨_, hwrites'⟩
      · exact absurd heq ((hrecord hphase').2.2 first found hwrites hphase)
      · exact h.unique first second found found' hwrites hwrites' hphase hphase' heq

/-- One call goes on to its next phase. -/
theorem moved (h : InFlight dir owner store calls writes) (hcall : writes id = some call)
    (hphase : call.phase ≠ .prepare)
    (helsewhere : Elsewhere [call.object.objectId] owner owner' dir dir')
    {phase : WriteObjectPhase} (hfiles : CallFiles dir' owner' { call with phase }) :
    InFlight dir' owner' store calls (Function.update writes id (some { call with phase })) := by
  have hothers : InFlight dir' owner' store calls (Function.update writes id none) :=
    h.others hcall hphase helsewhere (fun _ _ => rfl)
  have hinsert : InFlight dir' owner' store calls
      (Function.update (Function.update writes id none) id (some { call with phase })) := by
    refine hothers.insert (by simp) hfiles ?_
    intro _
    refine ⟨h.record id call hcall hphase, h.origin id call hcall hphase, ?_⟩
    intro other found hfound hfoundPhase heq
    by_cases hid : other = id
    · simp [hid] at hfound
    · exact hid (h.unique other id found call (by simpa [hid] using hfound) hcall hfoundPhase
        hphase heq)
  simpa using hinsert

/-- A call that has not passed its first section leaves. -/
theorem remove (h : InFlight dir owner store calls writes) (id : Nat) :
    InFlight dir owner store calls (Function.update writes id none) := by
  have hold {other : Nat} {found : WriteObjectCall}
      (hfound : Function.update writes id none other = some found) :
      writes other = some found := by
    by_cases hid : other = id
    · simp [hid] at hfound
    · simpa [hid] using hfound
  constructor
  · intro other found hfound
    exact h.files other found (hold hfound)
  · intro other found hfound
    exact h.record other found (hold hfound)
  · intro other found hfound
    exact h.origin other found (hold hfound)
  · intro first second found found' hfound hfound'
    exact h.unique first second found found' (hold hfound) (hold hfound')

/-- The calls in flight do not see changes to other objects of the store. -/
theorem frame (h : InFlight dir owner store calls writes) (hcalls : calls ⊆ calls')
    (hkept : ∀ id call, writes id = some call → call.phase ≠ .prepare →
      store'.preparing call.object.objectId = store.preparing call.object.objectId) :
    InFlight dir owner store' calls' writes where
  files := h.files
  record id call hcall hphase := by
    rw [hkept id call hcall hphase]
    exact h.record id call hcall hphase
  origin id call hcall hphase := by
    obtain ⟨prepared, hprepared, hsame⟩ := h.origin id call hcall hphase
    exact ⟨prepared, hcalls hprepared, hsame⟩
  unique := h.unique

end InFlight

/-! ### Steps -/

/-- The step has kept the invariant, whatever store its database represents. -/
def KeepsObjects (ext : Externals) (calls : List WriteObjectCall) (result : Server × Event) : Prop :=
  ∀ store log, Represents ext result.1.db store → ObjectIndex store log →
    ∃ owner, ObjectsSound result.1 store (calls ++ result.2.prepared.toList) owner

section Steps

variable {ext : Externals} {server : Server} {store : Store} {log : List EventMessage}
variable {calls : List WriteObjectCall} {owner owner' : Nat → UInt64} {core : Running} {id : Nat}
variable {call : WriteObjectCall} {result : Server × Event}

/-- A step without a change of the database. -/
private theorem keepsObjects_of_same (hdb : Represents ext server.db store)
    (hsame : result.1.db = server.db) (hevent : result.2.prepared = none)
    (hsound : ObjectsSound result.1 store calls owner) : KeepsObjects ext calls result := by
  intro store' log' hdb' _
  rw [hsame] at hdb'
  obtain rfl := hdb.unique hdb'
  exact ⟨owner, by simpa [hevent] using hsound⟩

/-- A step whose database represents a store that is known. -/
private theorem keepsObjects_of_store (hdb : Represents ext result.1.db store)
    (hevent : result.2.prepared = none) (hsound : ObjectsSound result.1 store calls owner) :
    KeepsObjects ext calls result := by
  intro store' log' hdb' _
  obtain rfl := hdb.unique hdb'
  exact ⟨owner, by simpa [hevent] using hsound⟩

theorem planRecovery_listed (hdb : Represents ext server.db store) (hvalid : store.Valid ext)
    {faults : ReadFaults} {objects : List StoredObject}
    (h : UnifiedStorage.planRecovery ext server.db faults = .ok objects) (objectId : UInt64) :
    store.preparing objectId ≠ none ↔ objectId ∈ objects.map (·.objectId) := by
  obtain ⟨listed, hlisted, hrest⟩ := Fallible.bind_ok h
  obtain ⟨_, hall⟩ := (hdb.reads_listPreparingObjects hvalid).of_ok hlisted
  have hobjects : listed = objects := by
    split at hrest
    · rename_i hempty
      rw [List.isEmpty_iff.mp hempty]
      exact Except.ok.inj hrest
    · obtain ⟨_, _, hrest⟩ := Fallible.bind_ok hrest
      obtain ⟨_, _, hrest⟩ := Fallible.bind_ok hrest
      exact Except.ok.inj hrest
  subst hobjects
  rw [List.mem_map]
  constructor
  · intro hsome
    obtain ⟨object, hobject⟩ := Option.ne_none_iff_exists'.mp hsome
    have hid := (hvalid.object (.preparing objectId) object hobject).objectId_eq
    exact ⟨object, (hall object).mpr (by rw [hid]; exact hobject), hid⟩
  · rintro ⟨object, hmember, rfl⟩
    simp [(hall object).mp hmember]

private theorem keepsObjects_openStore (hdb : Represents ext server.db store)
    (hvalid : store.Valid ext) (h : ObjectsSound server store calls owner) {config : Config}
    {faults : ReadFaults} : KeepsObjects ext calls (server.openStore ext config faults) := by
  unfold Server.openStore
  split
  · exact keepsObjects_of_same hdb rfl rfl h
  · split
    · exact keepsObjects_of_same hdb rfl rfl h
    · rename_i objects hplan
      have hlisted := planRecovery_listed hdb hvalid hplan
      unfold cleanupStart
      by_cases hempty : objects.map (·.objectId) = []
      · rw [if_pos hempty]
        exact keepsObjects_of_same hdb rfl rfl
          (⟨h.files, .empty server.dir owner store calls⟩ :
            ObjectsSound { server with mode := .running { config } } store calls owner)
      · rw [if_neg hempty]
        refine keepsObjects_of_same hdb rfl rfl ⟨h.files, hlisted, ?_, ?_⟩
        · rintro _ ⟨⟩
          exact cleanupLoop_files (List.nil_append _).symm (by simp)
        · rintro ⟨⟩

private theorem keepsObjects_recoveryCall (hdb : Represents ext server.db store)
    (hobjects : ObjectIndex store log) (h : ObjectsSound server store calls owner)
    {config : Config} {objects : List StoredObject} {phase : CleanupPhase}
    {outcome : SyscallOutcome} (hmode : server.mode = .recovering config objects (.cleaning phase))
    (hcall : server.recoveryCall config objects phase outcome = some result) :
    KeepsObjects ext calls result := by
  have hrecovery : RecoveryFiles server.dir store (objects.map (·.objectId)) (.cleaning phase) := by
    have hfiles := h.mode
    rwa [hmode] at hfiles
  unfold Server.recoveryCall at hcall
  cases hstep : cleanupStep server.dir phase outcome with
  | none => simp [hstep] at hcall
  | some found =>
      obtain ⟨dir, progress⟩ := found
      have hadvance : CleanupAdvance server.dir dir owner (objects.map (·.objectId)) progress :=
        cleanupStep_advance owner (hrecovery.cleaning phase rfl) hstep
      have hfiles : FilesSound dir owner store calls :=
        h.files.elsewhere hadvance.elsewhere (h.files.regular.cleanupStep hstep)
          (fun objectId hmember => ⟨(hrecovery.listed objectId).mpr hmember,
            hobjects.disjoint objectId ((hrecovery.listed objectId).mpr hmember)⟩)
      cases progress with
      | next phase' =>
          simp only [hstep] at hcall
          cases hcall
          refine keepsObjects_of_same hdb rfl rfl ⟨hfiles, hrecovery.listed, ?_, ?_⟩
          · rintro _ ⟨⟩
            exact hadvance.next phase' rfl
          · rintro ⟨⟩
      | done status =>
          simp only [hstep] at hcall
          cases hok : status.isOk with
          | true =>
              rw [hok, if_pos rfl] at hcall
              cases hcall
              refine keepsObjects_of_same hdb rfl rfl ⟨hfiles, hrecovery.listed, ?_, ?_⟩
              · rintro _ ⟨⟩
              · intro _
                exact hadvance.done status rfl hok
          | false =>
              rw [hok, if_neg Bool.false_ne_true] at hcall
              cases hcall
              exact keepsObjects_of_same hdb rfl rfl
                (⟨hfiles, True.intro⟩ : ObjectsSound { server with dir, mode := .closed } _ _ _)

private theorem keepsObjects_recoveryCommit (hdb : Represents ext server.db store)
    (h : ObjectsSound server store calls owner) {config : Config} {objects : List StoredObject}
    {outcome : CommitOutcome} (hmode : server.mode = .recovering config objects .commit) :
    KeepsObjects ext calls (server.recoveryCommit config objects outcome) := by
  have hrecovery : RecoveryFiles server.dir store (objects.map (·.objectId)) .commit := by
    have hfiles := h.mode
    rwa [hmode] at hfiles
  have hdiscarded := hdb.recoveryBatch objects
  have hfiles := h.files.discard (hrecovery.commit rfl)
  have hclosed {store' : Store} (hsound : FilesSound server.dir owner store' calls) (db : Db) :
      ObjectsSound { server with db, mode := .closed } store' calls owner :=
    ⟨hsound, True.intro⟩
  cases outcome with
  | written =>
      exact keepsObjects_of_store hdiscarded rfl ⟨hfiles, .empty server.dir owner _ calls⟩
  | failed applied status =>
      have hresult : server.recoveryCommit config objects (.failed applied status) =
          ({ server with
              db := if applied then server.db.write (UnifiedStorage.recoveryBatch objects)
                else server.db
              mode := .closed },
            .opened (.error (rocksToStatus status "commit storage batch"))) := by
        simp only [Server.recoveryCommit, UnifiedStorage.commit, rocksToStatus_not_ok]
        rfl
      rw [hresult]
      cases applied with
      | true => exact keepsObjects_of_store hdiscarded rfl (hclosed hfiles _)
      | false => exact keepsObjects_of_same hdb rfl rfl (hclosed h.files _)

theorem Performs.objects {mutation : Mutation} {effect : Effect} {data : ResponseData}
    (h : Performs store mutation effect data) :
    (store.apply effect).preparing = store.preparing ∧
      (store.apply effect).committed = store.committed ∧
      (store.apply effect).nextObjectId = store.nextObjectId := by
  cases h <;> exact ⟨rfl, rfl, rfl⟩

theorem ObjectsSound.inFlight (h : ObjectsSound server store calls owner)
    (hmode : server.mode = .running core) :
    InFlight server.dir owner store calls core.writes := by
  have hfiles := h.mode
  rwa [hmode] at hfiles

private theorem keepsObjects_enterMutation (hdb : Represents ext server.db store)
    (h : ObjectsSound server store calls owner) {mutation : Mutation} {tsMs : UInt64}
    (hmode : server.mode = .running core) :
    KeepsObjects ext calls (server.enterMutation core id mutation tsMs) := by
  have hflight := h.inFlight hmode
  unfold Server.enterMutation
  split
  · exact keepsObjects_of_same hdb rfl rfl h
  · exact keepsObjects_of_same hdb rfl rfl h
  · exact keepsObjects_of_same hdb rfl rfl ⟨h.files, hflight⟩

private theorem keepsObjects_runMutation (hdb : Represents ext server.db store)
    (hvalid : store.Valid ext) (h : ObjectsSound server store calls owner) {mutation : Mutation}
    {tsMs : UInt64} {env : CallEnv} (hmode : server.mode = .running core)
    (hentry : mutation.entry = .ok ())
    (hrun : server.runMutation ext core id mutation tsMs env = some result) :
    KeepsObjects ext calls result := by
  have hflight := h.inFlight hmode
  have heffect : StepEffect ext store result.2 server.db result.1.db :=
    Server.runMutation_effect hdb hvalid hentry hrun
  obtain ⟨state, applied, status, data, rfl⟩ : ∃ state applied status data,
      result = (server.updated (core.setMutation id none) state,
        .mutation mutation applied status data) := by
    unfold Server.runMutation at hrun
    split at hrun
    · cases hrun
    · exact ⟨_, _, _, _, (Option.some.inj hrun).symm⟩
  cases heffect with
  | unchanged _ hsame => exact keepsObjects_of_same hdb hsame rfl ⟨h.files, hflight⟩
  | applied happlies _ hafter =>
      cases happlies with
      | mutation hperforms =>
          obtain ⟨hpreparing, hcommitted, hnext⟩ := hperforms.objects
          refine keepsObjects_of_store hafter rfl
            ⟨h.files.frame hpreparing hcommitted hnext, ?_⟩
          exact hflight.frame (List.Subset.refl _) (fun _ _ _ _ => by rw [hpreparing])

private theorem keepsObjects_enterWrite (hdb : Represents ext server.db store)
    (h : ObjectsSound server store calls owner) {request : WriteObjectRequest}
    {random : List GetrandomResult} (hmode : server.mode = .running core)
    (hfree : core.writes id = none)
    (henter : server.enterWrite core id request random = some result) :
    KeepsObjects ext calls result := by
  unfold Server.enterWrite at henter
  dsimp only at henter
  split at henter
  · cases henter
    exact keepsObjects_of_same hdb rfl rfl h
  · cases henter
    exact keepsObjects_of_same hdb rfl rfl h
  · split at henter
    · cases henter
    · cases henter
      exact keepsObjects_of_same hdb rfl rfl h
    · rename_i token _
      cases henter
      have hinsert : InFlight server.dir owner store calls
          (Function.update core.writes id (some ⟨request, newObject request token, .prepare⟩)) :=
        (h.inFlight hmode).insert hfree rfl (fun hphase => absurd rfl hphase)
      exact keepsObjects_of_same hdb rfl rfl ⟨h.files, hinsert⟩

private theorem keepsObjects_prepareWrite (hdb : Represents ext server.db store)
    (hobjects : ObjectIndex store log) (h : ObjectsSound server store calls owner)
    (hchecked : CallChecked call) (hmode : server.mode = .running core)
    (houtcome : PrepareOutcome ext server store core id call result) :
    KeepsObjects ext calls result := by
  have hflight := h.inFlight hmode
  have hreturned := hflight.remove id
  have hassigned : CallChecked (call.assigned store) :=
    ⟨hchecked.entry, hchecked.token, congrArg (fun object : StoredObject =>
      { object with objectId := store.nextObjectId }) hchecked.object⟩
  -- The assigned id is new, so no call in flight has it.
  have hnew (other : Nat) (found : WriteObjectCall) (hfound : core.writes other = some found)
      (hphase : found.phase ≠ .prepare) :
      found.object.objectId ≠ (call.assigned store).object.objectId := by
    intro heq
    obtain ⟨prepared, hprepared, hsame, _⟩ := hflight.origin other found hfound hphase
    have hlt := h.files.calls_lt prepared hprepared
    rw [hsame, heq] at hlt
    exact UInt64.lt_irrefl _ hlt
  have hkept (other : Nat) (found : WriteObjectCall) (hfound : core.writes other = some found)
      (hphase : found.phase ≠ .prepare) :
      (store.apply (.prepareObject (call.assigned store).object)).preparing found.object.objectId =
        store.preparing found.object.objectId := by
    simp [Store.apply, Store.setPreparing, hnew other found hfound hphase]
  have hprepared (store' : Store) (log' : List EventMessage)
      (hstore : store.apply (.prepareObject (call.assigned store).object) = store')
      (hobjects' : ObjectIndex store' log') :
      FilesSound server.dir owner store' (calls ++ [call.assigned store]) := by
    subst hstore
    refine h.files.prepare rfl hassigned ?_
    exact hobjects'.objectId_lt (.preparing store.nextObjectId) (call.assigned store).object
      (by simp [Store.object, Store.apply, Store.setPreparing,
        OpenEventCore.WriteObjectCall.assigned])
  cases houtcome with
  | refused _ => exact keepsObjects_of_same hdb rfl rfl ⟨h.files, hreturned⟩
  | notApplied hsame _ => exact keepsObjects_of_same hdb hsame rfl ⟨h.files, hreturned⟩
  | applied _ _ hafter _ =>
      intro store' log' hdb' hobjects'
      obtain rfl := hafter.unique hdb'
      refine ⟨owner, hprepared _ log' rfl hobjects', ?_⟩
      exact (hflight.frame (List.subset_append_left _ _) hkept).remove id
  | prepared _ _ hafter =>
      intro store' log' hdb' hobjects'
      obtain rfl := hafter.unique hdb'
      have hfiles := hprepared _ log' rfl hobjects'
      refine ⟨owner, hfiles, ?_⟩
      have hothers := (hflight.frame (List.subset_append_left calls [call.assigned store])
        hkept).remove id
      have hinsert : InFlight server.dir owner
          (store.apply (.prepareObject (call.assigned store).object))
          (calls ++ [call.assigned store])
          (Function.update (Function.update core.writes id none) id
            (some { call.assigned store with phase := .writing .openTemporary })) := by
        refine hothers.insert (by simp) ?_ ?_
        · refine h.files.absent _ ?_ ?_
          · by_contra hsome
            obtain ⟨object, hobject⟩ := Option.ne_none_iff_exists'.mp hsome
            exact UInt64.lt_irrefl _ (hobjects.objectId_lt (.preparing _) object hobject)
          · by_contra hsome
            obtain ⟨object, hobject⟩ := Option.ne_none_iff_exists'.mp hsome
            exact UInt64.lt_irrefl _ (hobjects.objectId_lt (.committed _) object hobject)
        · intro _
          refine ⟨by simp [Store.apply, Store.setPreparing], ⟨call.assigned store, by simp, rfl,
            rfl⟩, ?_⟩
          intro other found hfound hphase
          by_cases hid : other = id
          · simp [hid] at hfound
          · exact hnew other found (by simpa [hid] using hfound) hphase
      rwa [Function.update_idem] at hinsert

private theorem elsewhere_same (objectIds : List UInt64) (owner : Nat → UInt64)
    (dir : ObjectDirectory) : Elsewhere objectIds owner owner dir dir :=
  .of_changes (.refl dir)

/-- What a call past its first section is known to have. -/
private theorem InFlight.preparing (h : InFlight server.dir owner store calls core.writes)
    (hobjects : ObjectIndex store log) (hcall : core.writes id = some call)
    (hphase : call.phase ≠ .prepare) :
    ∀ objectId ∈ [call.object.objectId],
      store.preparing objectId ≠ none ∧ store.committed objectId = none := by
  intro objectId hmember
  obtain rfl := List.mem_singleton.mp hmember
  have hsome : store.preparing call.object.objectId ≠ none := by
    simp [h.record id call hcall hphase]
  exact ⟨hsome, hobjects.disjoint _ hsome⟩

private theorem keepsObjects_fileCall (hdb : Represents ext server.db store)
    (hobjects : ObjectIndex store log) (h : ObjectsSound server store calls owner)
    (hmode : server.mode = .running core) (hcall : core.writes id = some call)
    {outcome : SyscallOutcome} (houtcome : FileOutcome server core id call outcome result) :
    KeepsObjects ext calls result := by
  have hflight := h.inFlight hmode
  have hfiles := hflight.files id call hcall
  -- The files elsewhere, once the call has changed those of its own object.
  have hsound {dir : ObjectDirectory} {owner' : Nat → UInt64} (hphase : call.phase ≠ .prepare)
      (helsewhere : Elsewhere [call.object.objectId] owner owner' server.dir dir)
      (hregular : OnlyRegular dir) : FilesSound dir owner' store calls :=
    h.files.elsewhere helsewhere hregular (hflight.preparing hobjects hcall hphase)
  cases houtcome with
  | @writing phase phase' dir hphase hstep =>
      have hpast : call.phase ≠ .prepare := by simp [hphase]
      simp only [CallFiles, hphase] at hfiles
      obtain ⟨owner', hadvance⟩ := writeStep_advance hfiles hstep
      refine keepsObjects_of_same hdb rfl rfl
        ⟨hsound hpast hadvance.elsewhere (h.files.regular.writeStep hstep), ?_⟩
      exact hflight.moved hcall hpast hadvance.elsewhere (hadvance.next phase' rfl)
  | @written phase dir status hphase hstep hok =>
      have hpast : call.phase ≠ .prepare := by simp [hphase]
      simp only [CallFiles, hphase] at hfiles
      obtain ⟨owner', hadvance⟩ := writeStep_advance hfiles hstep
      refine keepsObjects_of_same hdb rfl rfl
        ⟨hsound hpast hadvance.elsewhere (h.files.regular.writeStep hstep), ?_⟩
      exact hflight.moved hcall hpast hadvance.elsewhere (hadvance.done status rfl hok)
  | @writeFailed phase dir status hphase hstep hok hfatal =>
      have hpast : call.phase ≠ .prepare := by simp [hphase]
      simp only [CallFiles, hphase] at hfiles
      obtain ⟨owner', hadvance⟩ := writeStep_advance hfiles hstep
      refine keepsObjects_of_same hdb rfl rfl
        ⟨hsound hpast hadvance.elsewhere (h.files.regular.writeStep hstep), ?_⟩
      exact hflight.moved hcall hpast hadvance.elsewhere ⟨⟨[], rfl, by simp⟩, hok, hfatal⟩
  | @writeExit phase dir status state hphase hstep _ _ hsame =>
      have hpast : call.phase ≠ .prepare := by simp [hphase]
      simp only [CallFiles, hphase] at hfiles
      obtain ⟨owner', hadvance⟩ := writeStep_advance hfiles hstep
      refine keepsObjects_of_same hdb hsame rfl
        ⟨hsound hpast hadvance.elsewhere (h.files.regular.writeStep hstep), ?_⟩
      exact hflight.others hcall hpast hadvance.elsewhere (fun _ _ => rfl)
  | @cleaning phase phase' answer dir hphase hstep =>
      have hpast : call.phase ≠ .prepare := by simp [hphase]
      simp only [CallFiles, hphase] at hfiles
      have hadvance := cleanupStep_advance owner hfiles.1 hstep
      refine keepsObjects_of_same hdb rfl rfl
        ⟨hsound hpast hadvance.elsewhere (h.files.regular.cleanupStep hstep), ?_⟩
      exact hflight.moved hcall hpast hadvance.elsewhere ⟨hadvance.next phase' rfl, hfiles.2⟩
  | @cleaned phase answer status dir hphase hstep hok =>
      have hpast : call.phase ≠ .prepare := by simp [hphase]
      simp only [CallFiles, hphase] at hfiles
      have hadvance := cleanupStep_advance owner hfiles.1 hstep
      refine keepsObjects_of_same hdb rfl rfl
        ⟨hsound hpast hadvance.elsewhere (h.files.regular.cleanupStep hstep), ?_⟩
      exact hflight.moved hcall hpast hadvance.elsewhere
        ⟨hadvance.done status rfl hok _ (by simp), hfiles.2⟩
  | @cleanupFailed phase answer status dir state hphase hstep _ hsame =>
      have hpast : call.phase ≠ .prepare := by simp [hphase]
      simp only [CallFiles, hphase] at hfiles
      have hadvance := cleanupStep_advance owner hfiles.1 hstep
      refine keepsObjects_of_same hdb hsame rfl
        ⟨hsound hpast hadvance.elsewhere (h.files.regular.cleanupStep hstep), ?_⟩
      exact hflight.others hcall hpast hadvance.elsewhere (fun _ _ => rfl)

private theorem keepsObjects_commitWrite (hdb : Represents ext server.db store)
    (h : ObjectsSound server store calls owner) (hmode : server.mode = .running core)
    (hcall : core.writes id = some call) (hphase : call.phase = .commit)
    (houtcome : CommitOutcomes ext server store core id call result) :
    KeepsObjects ext calls result := by
  have hflight := h.inFlight hmode
  have hpast : call.phase ≠ .prepare := by simp [hphase]
  have hsame := elsewhere_same [call.object.objectId] owner server.dir
  obtain ⟨inode, hdurable⟩ : ∃ inode,
      Durable server.dir owner call.object.objectId inode call.request.data := by
    simpa [CallFiles, hphase] using hflight.files id call hcall
  have hcommitted : FilesSound server.dir owner (store.apply (.commitObject call.object)) calls := by
    obtain ⟨prepared, hprepared, hobject, hrequest⟩ := hflight.origin id call hcall hpast
    rw [← hobject]
    exact h.files.commit hprepared (by rw [hobject, hrequest]; exact hdurable)
  have hothers : InFlight server.dir owner (store.apply (.commitObject call.object)) calls
      (Function.update core.writes id none) :=
    hflight.others hcall hpast hsame
      (fun objectId hne => by simp [Store.apply, Store.setPreparing, Store.setCommitted, hne])
  cases houtcome with
  | failing hnot hfatal =>
      refine keepsObjects_of_same hdb rfl rfl ⟨h.files, ?_⟩
      exact hflight.moved hcall hpast hsame ⟨⟨[], rfl, by simp⟩, hnot, hfatal⟩
  | exiting hsameDb _ _ =>
      exact keepsObjects_of_same hdb hsameDb rfl
        ⟨h.files, hflight.others hcall hpast hsame (fun _ _ => rfl)⟩
  | applied _ _ hafter _ => exact keepsObjects_of_store hafter rfl ⟨hcommitted, hothers⟩
  | committed _ _ hafter => exact keepsObjects_of_store hafter rfl ⟨hcommitted, hothers⟩

private theorem keepsObjects_deletePreparing (hdb : Represents ext server.db store)
    (h : ObjectsSound server store calls owner) (hmode : server.mode = .running core)
    (hcall : core.writes id = some call) {answer : Status}
    (hphase : call.phase = .deletePreparing answer)
    (houtcome : DeleteOutcome ext server store core id call answer result) :
    KeepsObjects ext calls result := by
  have hflight := h.inFlight hmode
  have hpast : call.phase ≠ .prepare := by simp [hphase]
  have hsame := elsewhere_same [call.object.objectId] owner server.dir
  have habsent : Absent server.dir call.object.objectId := by
    have hfiles := hflight.files id call hcall
    simp only [CallFiles, hphase] at hfiles
    exact hfiles.1
  have hdiscarded : FilesSound server.dir owner
      (store.apply (.discardObjects [call.object.objectId])) calls :=
    h.files.discard (by simpa using habsent)
  cases houtcome with
  | notApplied hsameDb _ =>
      exact keepsObjects_of_same hdb hsameDb rfl
        ⟨h.files, hflight.others hcall hpast hsame (fun _ _ => rfl)⟩
  | applied hafter _ =>
      refine keepsObjects_of_store hafter rfl ⟨hdiscarded, ?_⟩
      refine hflight.others hcall hpast hsame ?_
      intro objectId hne
      rw [store.discard_preparing]
      simp [hne]

/-- Every step keeps the records and the files of objects together. -/
theorem ObjectsSound.step (h : ObjectsSound server store calls owner)
    (hsound : Sound ext server store log) {action : Action}
    (hstep : server.step ext action = some result) : KeepsObjects ext calls result := by
  have hdb := hsound.represents
  have hvalid := hsound.coherent.valid
  have hobjects := hsound.coherent.objectIndex
  cases Server.step_cases hstep with
  | openStore _ => exact keepsObjects_openStore hdb hvalid h
  | recoveryCall hmode hcall => exact keepsObjects_recoveryCall hdb hobjects h hmode hcall
  | recoveryCommit hmode => exact keepsObjects_recoveryCommit hdb h hmode
  | enterMutation hmode _ => exact keepsObjects_enterMutation hdb h hmode
  | runMutation hmode hcall hrun =>
      exact keepsObjects_runMutation hdb hvalid h hmode
        ((hsound.calls _ hmode).mutations _ _ _ hcall) hrun
  | enterWrite hmode hfree henter => exact keepsObjects_enterWrite hdb h hmode hfree henter
  | prepareWrite hmode hcall _ =>
      have hchecked := (hsound.calls _ hmode).writes _ _ hcall
      exact keepsObjects_prepareWrite hdb hobjects h hchecked hmode
        (Server.prepareWrite_outcome hdb hchecked)
  | fileCall hmode hcall hfile =>
      exact keepsObjects_fileCall hdb hobjects h hmode hcall (Server.fileCall_outcome hfile)
  | commitWrite hmode hcall hphase =>
      exact keepsObjects_commitWrite hdb h hmode hcall hphase
        (Server.commitWrite_outcome hdb hvalid)
  | deletePreparing hmode hcall hphase =>
      exact keepsObjects_deletePreparing hdb h hmode hcall hphase
        (Server.deletePreparing_outcome hdb)
  | fatalError hmode =>
      have hflight := h.inFlight hmode
      exact keepsObjects_of_same hdb (fatalStorageError_db _ _) rfl ⟨h.files, hflight⟩
  | exitProcess =>
      exact keepsObjects_of_same hdb rfl rfl
        (⟨h.files, True.intro⟩ : ObjectsSound { server with mode := .closed } _ _ _)
  | @powerLoss choice contents =>
      exact keepsObjects_of_same hdb rfl rfl
        (⟨h.files.crash choice contents, True.intro⟩ : ObjectsSound
          { server with dir := server.dir.crash choice contents, mode := .closed } _ _ _)

end Steps

/-! ### Runs -/

variable {ext : Externals} {server : Server}

theorem initial_objectsSound (ext : Externals) (eventMs : UInt64) :
    ObjectsSound (Server.initial ext eventMs) (initialStore eventMs) [] (fun _ => 0) := by
  refine ⟨⟨fun name _ => certain_empty name, fun _ => rfl, ?_, ?_, by simp, by simp, by simp⟩,
    True.intro⟩
  · intro objectId _ _
    exact ⟨certain_empty _, certain_empty _⟩
  · rintro objectId object ⟨⟩

theorem preparedCalls_append (labels : List (Action × Event)) (label : Action × Event) :
    preparedCalls (labels ++ [label]) = preparedCalls labels ++ label.2.prepared.toList := by
  cases hprepared : label.2.prepared <;> simp [preparedCalls, hprepared]

/-- The server with the store it represents, its log and its files. -/
structure RunSound (ext : Externals) (labels : List (Action × Event)) (server : Server)
    (store : Store) (log : List EventMessage) (owner : Nat → UInt64) : Prop where
  sound : Sound ext server store log
  objects : ObjectsSound server store (preparedCalls labels) owner

theorem RunSound.step {labels : List (Action × Event)} {label : Action × Event} {next : Server}
    {store : Store} {log : List EventMessage} {owner : Nat → UInt64}
    (h : RunSound ext labels server store log owner) (hstep : Server.Step ext server label next) :
    ∃ store' log' owner', RunSound ext (labels ++ [label]) next store' log' owner' ∧
      Advances store log label.2 store' log' := by
  obtain ⟨store', log', hsound', hadvances⟩ := h.sound.step hstep
  obtain ⟨owner', hobjects'⟩ := h.objects.step h.sound hstep.1 store' log'
    hsound'.represents hsound'.coherent.objectIndex
  refine ⟨store', log', owner', ⟨hsound', ?_⟩, hadvances⟩
  rw [preparedCalls_append]
  exact hobjects'

theorem run_objectsSound {eventMs : UInt64} {labels : List (Action × Event)}
    (hrun : Run (Server.Step ext) (Server.initial ext eventMs) labels server) :
    ∃ store log owner, RunSound ext labels server store log owner := by
  refine hrun.history (P := fun labels server => ∃ store log owner,
    RunSound ext labels server store log owner) ?_ ?_
  · exact ⟨_, _, _, initial_sound ext eventMs, initial_objectsSound ext eventMs⟩
  · rintro labels before label after _ ⟨store, log, owner, hrunSound⟩ hstep
    obtain ⟨store', log', owner', hrunSound', _⟩ := hrunSound.step hstep
    exact ⟨store', log', owner', hrunSound'⟩

end OpenEvent
