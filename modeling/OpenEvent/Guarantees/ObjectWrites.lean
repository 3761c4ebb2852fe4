import OpenEvent.Guarantees.CrashSafety
import OpenEvent.Reference
import OpenEvent.Refinement.ObjectReads

/-!
What the answer to a `WriteObject` call says about its object for the rest of
the run, and what the readers of objects may rely on.
-/

namespace OpenEvent

open OpenEventCore ObjectFileStore

/-! ### Calls in flight over one step -/

/-- The call in flight under an id, if the process runs and there is one. -/
def Server.call (server : Server) (id : Nat) : Option WriteObjectCall :=
  match server.mode with
  | .running core => core.writes id
  | _ => none

/-- A call past its first section. -/
structure Server.Working (server : Server) (id : Nat) (call : WriteObjectCall) : Prop where
  inFlight : server.call id = some call
  phase : call.phase ≠ .prepare

section Calls

variable {ext : Externals} {server next : Server} {core : Running} {store : Store}
variable {event : Event} {id other : Nat} {call found : WriteObjectCall}

theorem Server.call_running (h : server.mode = .running core) (id : Nat) :
    server.call id = core.writes id := by
  simp [Server.call, h]

theorem Server.call_moved (state : CoreState) (phase : WriteObjectPhase) :
    (server.moved core id call state phase).call other =
      if other = id then some { call with phase } else core.writes other := by
  simp [Server.call, Server.moved, Server.updated, Running.withState, Running.setWrite,
    Function.update_apply]

theorem Server.call_returned (state : CoreState) :
    (server.returned core id state).call other =
      if other = id then none else core.writes other := by
  simp [Server.call, Server.returned, Server.updated, Running.withState, Running.setWrite,
    Function.update_apply]

/-- Where a call that is at work after a step comes from: it was at work
before, or the step has just committed its PREPARING record. -/
def Carried (server : Server) (event : Event) (call : WriteObjectCall) : Prop :=
  (∃ id before, server.Working id before ∧ before.object = call.object ∧
    before.request = call.request) ∨
  ∃ prepared answer, event = .write prepared (some .prepare) answer ∧
    prepared.object = call.object

private theorem carried_kept (hmode : server.mode = .running core)
    (hcall : core.writes id = some call) (hphase : call.phase ≠ .prepare) :
    Carried server event call :=
  Or.inl ⟨id, call, ⟨by rw [Server.call_running hmode, hcall], hphase⟩, rfl, rfl⟩

/-- The calls after one of them has gone on to another phase. -/
private theorem carried_moved (hmode : server.mode = .running core)
    (hcall : core.writes id = some call) (hphase : call.phase ≠ .prepare) {dir : ObjectDirectory}
    {state : CoreState} {phase : WriteObjectPhase}
    (hworking : (({ server with dir } : Server).moved core id call state phase).Working other found) :
    Carried server event found := by
  have hfound := hworking.inFlight
  rw [Server.call_moved] at hfound
  split at hfound
  · obtain rfl := Option.some.inj hfound
    exact Or.inl ⟨id, call, ⟨by rw [Server.call_running hmode, hcall], hphase⟩, rfl, rfl⟩
  · exact carried_kept hmode hfound hworking.phase

private theorem carried_returned (hmode : server.mode = .running core) {dir : ObjectDirectory}
    {state : CoreState}
    (hworking : (({ server with dir } : Server).returned core id state).Working other found) :
    Carried server event found := by
  have hfound := hworking.inFlight
  rw [Server.call_returned] at hfound
  split at hfound
  · cases hfound
  · exact carried_kept hmode hfound hworking.phase

/-! Nothing is in flight while the process starts. -/

private theorem Server.openStore_call {config : Config} {faults : ReadFaults}
    (hmode : server.mode = .closed) (id : Nat) :
    (server.openStore ext config faults).1.call id = none := by
  have hclosed : server.call id = none := by simp [Server.call, hmode]
  unfold Server.openStore
  split
  · exact hclosed
  · split
    · exact hclosed
    · split <;> rfl

private theorem Server.recoveryCall_call {config : Config} {objects : List StoredObject}
    {phase : CleanupPhase} {outcome : SyscallOutcome} {result : Server × Event}
    (h : server.recoveryCall config objects phase outcome = some result) (id : Nat) :
    result.1.call id = none := by
  unfold Server.recoveryCall at h
  split at h
  · cases h
  · cases h
    rfl
  · split at h <;> (cases h; rfl)

private theorem Server.recoveryCommit_call {config : Config} {objects : List StoredObject}
    {outcome : CommitOutcome} (id : Nat) :
    (server.recoveryCommit config objects outcome).1.call id = none := by
  unfold Server.recoveryCommit
  dsimp only
  split <;> rfl

private theorem Server.enterMutation_call {mutation : Mutation} {tsMs : UInt64}
    (hmode : server.mode = .running core) (id other : Nat) :
    (server.enterMutation core id mutation tsMs).1.call other = core.writes other := by
  unfold Server.enterMutation
  split
  · exact Server.call_running hmode other
  · exact Server.call_running hmode other
  · rfl

private theorem Server.runMutation_call {mutation : Mutation} {tsMs : UInt64} {env : CallEnv}
    {result : Server × Event}
    (h : server.runMutation ext core id mutation tsMs env = some result) (other : Nat) :
    result.1.call other = core.writes other := by
  unfold Server.runMutation at h
  split at h
  · cases h
  · cases h
    rfl

/-- A call that enters has not passed its first section. -/
private theorem Server.enterWrite_call {request : WriteObjectRequest}
    {random : List GetrandomResult} {result : Server × Event} (hmode : server.mode = .running core)
    (h : server.enterWrite core id request random = some result)
    (hworking : result.1.Working other found) : core.writes other = some found := by
  have hfound := hworking.inFlight
  unfold Server.enterWrite at h
  dsimp only at h
  split at h
  · cases h
    rwa [Server.call_running hmode] at hfound
  · cases h
    rwa [Server.call_running hmode] at hfound
  · split at h
    · cases h
    · cases h
      rwa [Server.call_running hmode] at hfound
    · rename_i token _
      cases h
      by_cases hid : other = id
      · have hentered : (⟨request, newObject request token, .prepare⟩ : WriteObjectCall) = found := by
          simpa [Server.call, Running.setWrite, hid] using hfound
        exact absurd (by rw [← hentered]) hworking.phase
      · simpa [Server.call, Running.setWrite, hid] using hfound

theorem Server.step_working (hdb : Represents ext server.db store) (hvalid : store.Valid ext)
    (hcalls : server.CallsChecked) {action : Action}
    (hstep : server.step ext action = some (next, event)) (hworking : next.Working id call) :
    Carried server event call := by
  generalize hresult : (next, event) = result at hstep
  have hnext : next = result.1 := congrArg Prod.fst hresult
  have hnone (h : next.call id = none) : Carried server event call := by
    have hcall := hworking.inFlight
    rw [h] at hcall
    cases hcall
  cases Server.step_cases hstep with
  | openStore hmode => exact hnone (by rw [hnext, openStore_call hmode])
  | recoveryCall _ hcall =>
      subst hresult
      exact hnone (recoveryCall_call hcall id)
  | recoveryCommit _ => exact hnone (by rw [hnext, recoveryCommit_call])
  | enterMutation hmode _ =>
      have hkept := hworking.inFlight
      rw [hnext, enterMutation_call hmode] at hkept
      exact carried_kept hmode hkept hworking.phase
  | runMutation hmode _ hrun =>
      subst hresult
      have hkept := hworking.inFlight
      rw [runMutation_call hrun] at hkept
      exact carried_kept hmode hkept hworking.phase
  | enterWrite hmode _ henter =>
      subst hresult
      exact carried_kept hmode (enterWrite_call hmode henter hworking) hworking.phase
  | @prepareWrite core entered found env hmode hfound _ =>
      have houtcome : PrepareOutcome ext server store core entered found (next, event) := by
        rw [hresult]
        exact prepareWrite_outcome hdb ((hcalls _ hmode).writes _ _ hfound)
      cases houtcome with
      | refused _ => exact carried_returned hmode hworking
      | notApplied _ _ => exact carried_returned hmode hworking
      | applied _ _ _ _ => exact carried_returned hmode hworking
      | prepared _ _ _ =>
          have hcall := hworking.inFlight
          rw [call_moved] at hcall
          split at hcall
          · obtain rfl := Option.some.inj hcall
            exact Or.inr ⟨found.assigned store, none, rfl, rfl⟩
          · exact carried_kept hmode hcall hworking.phase
  | @fileCall core entered found outcome result hmode hfound hfile =>
      subst hresult
      cases fileCall_outcome hfile with
      | writing hphase _ => exact carried_moved hmode hfound (by simp [hphase]) hworking
      | written hphase _ _ => exact carried_moved hmode hfound (by simp [hphase]) hworking
      | writeFailed hphase _ _ _ => exact carried_moved hmode hfound (by simp [hphase]) hworking
      | writeExit _ _ _ _ _ => exact carried_returned hmode hworking
      | cleaning hphase _ => exact carried_moved hmode hfound (by simp [hphase]) hworking
      | cleaned hphase _ _ => exact carried_moved hmode hfound (by simp [hphase]) hworking
      | cleanupFailed _ _ _ _ => exact carried_returned hmode hworking
  | @commitWrite core entered found env hmode hfound hphase =>
      have houtcome : CommitOutcomes ext server store core entered found (next, event) := by
        rw [hresult]
        exact commitWrite_outcome hdb hvalid
      cases houtcome with
      | failing _ _ => exact carried_moved hmode hfound (by simp [hphase]) hworking
      | exiting _ _ _ => exact carried_returned hmode hworking
      | applied _ _ _ _ => exact carried_returned hmode hworking
      | committed _ _ _ => exact carried_returned hmode hworking
  | @deletePreparing core entered found env answer hmode hfound hphase =>
      have houtcome : DeleteOutcome ext server store core entered found answer (next, event) := by
        rw [hresult]
        exact deletePreparing_outcome hdb
      cases houtcome with
      | notApplied _ _ => exact carried_returned hmode hworking
      | applied _ _ => exact carried_returned hmode hworking
  | fatalError hmode =>
      cases hresult
      exact carried_kept hmode hworking.inFlight hworking.phase
  | exitProcess =>
      cases hresult
      exact hnone rfl
  | powerLoss =>
      cases hresult
      exact hnone rfl

/-- A call that is turned away on entry has no id and an error for an answer. -/
theorem Server.enterWrite_rejected {request : WriteObjectRequest} {random : List GetrandomResult}
    {applied : Option WriteSection} {answer : Option (Status × ResponseData)}
    (h : server.enterWrite core id request random = some (next, .write call applied answer)) :
    applied = none ∧ call.object.objectId = 0 ∧ next = server ∧
      ∃ status, answer = some (status, .empty) ∧ status.isOk = false := by
  unfold Server.enterWrite at h
  dsimp only at h
  split at h
  · rename_i hunavailable
    cases h
    exact ⟨rfl, rfl, rfl, _, rfl, refuses_checks.ensureAvailable _ _ hunavailable⟩
  · rename_i hrefused
    cases h
    exact ⟨rfl, rfl, rfl, _, rfl, refuses_checks.writeObjectEntry _ _ hrefused⟩
  · split at h
    · cases h
    · rename_i hrandom
      cases h
      exact ⟨rfl, rfl, rfl, _, rfl, refuses_checks.generateObjectToken hrandom _ rfl⟩
    · cases h

/-- The step that applies a COMMITTED batch is one of a call at work. -/
theorem WriteStep.commits {answer : Option (Status × ResponseData)}
    (h : WriteStep ext server store (next, .write call (some .commit) answer)) :
    ∃ id, server.Working id call := by
  cases h with
  | enter _ _ henter => cases (Server.enterWrite_rejected henter).1
  | prepare _ _ _ houtcome => cases houtcome
  | file _ _ houtcome => cases houtcome
  | @commit core id _ _ hmode hcall hphase houtcome =>
      cases houtcome with
      | applied _ _ _ _ => exact ⟨id, by rw [Server.call_running hmode, hcall], by simp [hphase]⟩
      | committed _ _ _ => exact ⟨id, by rw [Server.call_running hmode, hcall], by simp [hphase]⟩
  | delete _ _ _ houtcome => cases houtcome

end Calls

/-! ### What an answer settles -/

/-- No step can commit the id any more. -/
structure Retired (server : Server) (store : Store) (objectId : UInt64) : Prop where
  not_committed : store.committed objectId = none
  assigned : objectId < store.nextObjectId
  idle : ∀ id call, server.Working id call → call.object.objectId ≠ objectId

/-- What the answer to a call says about its object. `calls` are the calls whose
PREPARING batch was applied. -/
structure Settled (server : Server) (store : Store) (calls : List WriteObjectCall)
    (call : WriteObjectCall) (status : Status) (data : ResponseData) : Prop where
  ok : status.isOk = true →
    data = .object call.object.objectId call.object.objectToken ∧
    store.committed call.object.objectId = some call.object ∧
    ∃ prepared ∈ calls, prepared.object = call.object ∧ prepared.request = call.request
  refused : status.isOk = false → ¬ status.Ambiguous → Retired server store call.object.objectId

/-- The id whose COMMITTED batch a step applied. -/
def Event.committedId : Event → Option UInt64
  | .write call (some .commit) _ => some call.object.objectId
  | _ => none

structure WriteHistory (labels : List (Action × Event)) (server : Server) (store : Store) :
    Prop where
  settled : ∀ action call applied status data,
    (action, Event.write call applied (some (status, data))) ∈ labels →
    Settled server store (preparedCalls labels) call status data
  committed : ∀ objectId, store.committed objectId ≠ none →
    ∃ label ∈ labels, label.2.committedId = some objectId

section Settling

variable {ext : Externals} {server next : Server} {store store' : Store}
variable {log log' : List EventMessage} {owner owner' : Nat → UInt64}
variable {labels : List (Action × Event)} {label : Action × Event} {objectId : UInt64}

/-- A step commits at most one object, of a call at work, and no step takes a
committed object back. -/
theorem RunSound.committed_step (h : RunSound ext labels server store log owner)
    (hstep : Server.Step ext server label next) (hadvances : Advances store log label.2 store' log') :
    store'.committed = store.committed ∨ ∃ id call answer, server.Working id call ∧
      label.2 = .write call (some .commit) answer ∧
      store.committed call.object.objectId = none ∧
      store'.committed = Function.update store.committed call.object.objectId
        (some call.object) := by
  have hcoherent := h.sound.coherent
  cases hadvances with
  | unchanged _ => exact Or.inl rfl
  | @applied effect happlies hpermitted =>
      generalize hevent : label.2 = event at happlies
      cases happlies with
      | mutation hperforms => exact Or.inl hperforms.objects.2.1
      | prepare _ => exact Or.inl rfl
      | @commit call answer _ =>
          have hworking : ∃ id, server.Working id call := by
            have hkind : server.step ext label.1 = some (next, .write call (some .commit) answer) :=
              hevent ▸ hstep.1
            exact (Server.step_write h.sound.represents hcoherent.valid h.sound.calls hkind
              rfl).commits
          obtain ⟨id, hworking⟩ := hworking
          refine Or.inr ⟨id, call, answer, hworking, rfl, ?_, rfl⟩
          cases hpermitted with
          | commitObject hpreparing =>
              exact hcoherent.objectIndex.disjoint _ (by simp [hpreparing])
      | deletePreparing => exact Or.inl rfl
      | recovery =>
          refine Or.inl ?_
          rw [store.discard_frame]

theorem Retired.step (hretired : Retired server store objectId)
    (h : RunSound ext labels server store log owner)
    (hstep : Server.Step ext server label next)
    (h' : RunSound ext (labels ++ [label]) next store' log' owner')
    (hadvances : Advances store log label.2 store' log') : Retired next store' objectId where
  not_committed := by
    rcases h.committed_step hstep hadvances with hsame | ⟨id, call, _, hworking, _, _, hcommitted⟩
    · rw [hsame, hretired.not_committed]
    · rw [hcommitted, Function.update_of_ne (hretired.idle id call hworking).symm,
        hretired.not_committed]
  assigned := by
    have hle : store.nextObjectId ≤ store'.nextObjectId :=
      (h.sound.represents.noWrap h'.sound.represents hstep.2).nextObjectId
    exact UInt64.lt_of_lt_of_le hretired.assigned hle
  idle id call hworking := by
    rcases Server.step_working h.sound.represents h.sound.coherent.valid h.sound.calls hstep.1
      hworking with ⟨_, before, hbefore, hobject, _⟩ | ⟨prepared, answer, hevent, hobject⟩
    · rw [← hobject]
      exact hretired.idle _ before hbefore
    · -- A new call gets an id that was not assigned before.
      intro heq
      rw [hevent] at hadvances
      cases hadvances with
      | unchanged happlied => cases happlied
      | applied happlies hpermitted =>
          cases happlies with
          | prepare _ =>
              cases hpermitted with
              | prepareObject hid _ =>
                  have hlt := hretired.assigned
                  rw [← heq, ← hobject, hid] at hlt
                  exact UInt64.lt_irrefl _ hlt

/-- An id that no object has. -/
private theorem RunSound.retired_zero (h : RunSound ext labels server store log owner) :
    Retired server store 0 where
  not_committed := by
    by_contra hsome
    obtain ⟨object, hobject⟩ := Option.ne_none_iff_exists'.mp hsome
    exact (h.sound.coherent.valid.object (.committed 0) object hobject).objectId_ne rfl
  assigned := UInt64.pos_iff_ne_zero.mpr h.sound.coherent.objectIndex.nextObjectId
  idle id call hworking hzero := by
    have hfound := hworking.inFlight
    unfold Server.call at hfound
    split at hfound
    · rename_i core hmode
      have hrecord := (h.objects.inFlight hmode).record id call hfound hworking.phase
      exact (h.sound.coherent.valid.object (.preparing _) call.object hrecord).objectId_ne hzero
    · cases hfound

/-- A call at work that returns without a COMMITTED record retires its id. -/
private theorem RunSound.retired_returned (h : RunSound ext labels server store log owner)
    {core : Running} {id : Nat} {call : WriteObjectCall} (hmode : server.mode = .running core)
    (hcall : core.writes id = some call) (hphase : call.phase ≠ .prepare) {dir : ObjectDirectory}
    {state : CoreState} (hcommitted : store'.committed = store.committed)
    (hnext : store'.nextObjectId = store.nextObjectId) :
    Retired (({ server with dir } : Server).returned core id state) store' call.object.objectId := by
  have hflight := h.objects.inFlight hmode
  have hrecord := hflight.record id call hcall hphase
  have hindex := h.sound.coherent.objectIndex
  constructor
  · rw [hcommitted]
    exact hindex.disjoint _ (by simp [hrecord])
  · rw [hnext]
    exact hindex.objectId_lt (.preparing _) call.object hrecord
  · intro other found hworking heq
    have hfound := hworking.inFlight
    rw [Server.call_returned] at hfound
    split at hfound
    · cases hfound
    · rename_i hne
      exact hne (hflight.unique other id found call hfound hcall hworking.phase hphase heq)

private theorem Settled.of_retired {calls : List WriteObjectCall} {call : WriteObjectCall}
    {status : Status} {data : ResponseData} (hok : status.isOk = false)
    (h : Retired server store call.object.objectId) :
    Settled server store calls call status data where
  ok htrue := by
    rw [hok] at htrue
    cases htrue
  refused _ _ := h

private theorem Settled.of_ambiguous {calls : List WriteObjectCall} {call : WriteObjectCall}
    {status : Status} {data : ResponseData} (h : status.Ambiguous) :
    Settled server store calls call status data where
  ok htrue := by
    rw [h.not_ok] at htrue
    cases htrue
  refused _ hnot := absurd h hnot

private theorem store_of_same (hdb : Represents ext server.db store)
    (hdb' : Represents ext next.db store') (hsame : next.db = server.db) : store = store' := by
  rw [hsame] at hdb'
  exact hdb.unique hdb'

/-- The answer of a step, right after it. -/
theorem RunSound.settles (h : RunSound ext labels server store log owner)
    {call : WriteObjectCall} {applied : Option WriteSection} {status : Status}
    {data : ResponseData}
    (hkind : WriteStep ext server store (next, .write call applied (some (status, data))))
    (h' : RunSound ext (labels ++ [label]) next store' log' owner') :
    Settled next store' (preparedCalls (labels ++ [label])) call status data := by
  have hdb := h.sound.represents
  have hdb' := h'.sound.represents
  cases hkind with
  | enter _ _ henter =>
      obtain ⟨_, hzero, _, _, hanswer, hok⟩ := Server.enterWrite_rejected henter
      cases hanswer
      refine .of_retired hok ?_
      rw [hzero]
      exact h'.retired_zero
  | @prepare core id _ _ hmode hcall hphase houtcome =>
      cases houtcome with
      | refused hok =>
          have hzero : call.object.objectId = 0 := by
            simpa [CallFiles, hphase] using (h.objects.inFlight hmode).files id call hcall
          refine .of_retired hok ?_
          rw [hzero]
          exact h'.retired_zero
      | notApplied _ hambiguous => exact .of_ambiguous hambiguous
      | applied _ _ _ hambiguous => exact .of_ambiguous hambiguous
  | file hmode hcall houtcome =>
      cases houtcome with
      | writeExit hphase _ hok _ hsame =>
          obtain rfl := store_of_same hdb hdb' hsame
          exact .of_retired hok (h.retired_returned hmode hcall (by simp [hphase]) rfl rfl)
      | cleanupFailed hphase _ hok hsame =>
          obtain rfl := store_of_same hdb hdb' hsame
          exact .of_retired hok (h.retired_returned hmode hcall (by simp [hphase]) rfl rfl)
  | @commit core id _ _ hmode hcall hphase houtcome =>
      cases houtcome with
      | exiting hsame _ hok =>
          obtain rfl := store_of_same hdb hdb' hsame
          exact .of_retired hok (h.retired_returned hmode hcall (by simp [hphase]) rfl rfl)
      | applied _ _ _ hambiguous => exact .of_ambiguous hambiguous
      | committed _ _ hafter =>
          obtain rfl := hafter.unique hdb'
          refine ⟨fun _ => ⟨rfl, by simp [Store.apply, Store.setCommitted], ?_⟩, fun hok => ?_⟩
          · obtain ⟨prepared, hprepared, hsame⟩ :=
              (h.objects.inFlight hmode).origin id call hcall (by simp [hphase])
            refine ⟨prepared, ?_, hsame⟩
            rw [preparedCalls_append]
            exact List.mem_append_left _ hprepared
          · cases hok
  | @delete core id found answer _ hmode hcall hphase houtcome =>
      have hfailed : answer.isOk = false := by
        have hfiles := (h.objects.inFlight hmode).files id found hcall
        simp only [CallFiles, hphase] at hfiles
        exact hfiles.2.1
      cases houtcome with
      | notApplied _ hambiguous => exact .of_ambiguous hambiguous
      | applied hafter hstatus =>
          obtain rfl := hafter.unique hdb'
          rcases hstatus with hambiguous | rfl
          · exact .of_ambiguous hambiguous
          · refine .of_retired hfailed
              (h.retired_returned hmode hcall (by simp [hphase]) ?_ ?_)
            · rw [store.discard_frame]
            · rw [store.discard_frame]

theorem Settled.step {call : WriteObjectCall} {status : Status} {data : ResponseData}
    (hsettled : Settled server store (preparedCalls labels) call status data)
    (h : RunSound ext labels server store log owner)
    (hstep : Server.Step ext server label next)
    (h' : RunSound ext (labels ++ [label]) next store' log' owner')
    (hadvances : Advances store log label.2 store' log') :
    Settled next store' (preparedCalls (labels ++ [label])) call status data where
  ok hok := by
    obtain ⟨hdata, hcommitted, prepared, hprepared, hsame⟩ := hsettled.ok hok
    refine ⟨hdata, ?_, prepared, ?_, hsame⟩
    · rcases h.committed_step hstep hadvances with hkept | ⟨_, other, _, _, _, hnone, hupdated⟩
      · rw [hkept, hcommitted]
      · have hne : call.object.objectId ≠ other.object.objectId := by
          intro heq
          rw [heq, hnone] at hcommitted
          cases hcommitted
        rw [hupdated, Function.update_of_ne hne, hcommitted]
    · rw [preparedCalls_append]
      exact List.mem_append_left _ hprepared
  refused hfailed hnot := (hsettled.refused hfailed hnot).step h hstep h' hadvances

theorem WriteHistory.step (hhistory : WriteHistory labels server store)
    (h : RunSound ext labels server store log owner)
    (hstep : Server.Step ext server label next)
    (h' : RunSound ext (labels ++ [label]) next store' log' owner')
    (hadvances : Advances store log label.2 store' log') :
    WriteHistory (labels ++ [label]) next store' where
  settled action call applied status data hmember := by
    rcases List.mem_append.mp hmember with hold | hnew
    · exact (hhistory.settled action call applied status data hold).step h hstep h' hadvances
    · obtain rfl := List.mem_singleton.mp hnew
      exact h.settles (Server.step_write h.sound.represents h.sound.coherent.valid h.sound.calls
        hstep.1 rfl) h'
  committed objectId hcommitted := by
    rcases h.committed_step hstep hadvances with hkept | ⟨_, call, _, _, hevent, _, hupdated⟩
    · rw [hkept] at hcommitted
      obtain ⟨found, hfound, hid⟩ := hhistory.committed objectId hcommitted
      exact ⟨found, List.mem_append_left _ hfound, hid⟩
    · by_cases heq : objectId = call.object.objectId
      · exact ⟨label, by simp, by rw [hevent, heq]; rfl⟩
      · rw [hupdated, Function.update_of_ne heq] at hcommitted
        obtain ⟨found, hfound, hid⟩ := hhistory.committed objectId hcommitted
        exact ⟨found, List.mem_append_left _ hfound, hid⟩

theorem run_writeHistory {eventMs : UInt64}
    (hrun : Run (Server.Step ext) (Server.initial ext eventMs) labels server) :
    ∃ store log owner, RunSound ext labels server store log owner ∧
      WriteHistory labels server store := by
  refine hrun.history (P := fun labels server => ∃ store log owner,
    RunSound ext labels server store log owner ∧ WriteHistory labels server store) ?_ ?_
  · refine ⟨_, _, _, ⟨initial_sound ext eventMs, initial_objectsSound ext eventMs⟩, by simp, ?_⟩
    intro objectId hsome
    exact absurd rfl hsome
  · rintro labels before label after _ ⟨store, log, owner, hsound, hhistory⟩ hstep
    obtain ⟨store', log', owner', hsound', hadvances⟩ := hsound.step hstep
    exact ⟨store', log', owner', hsound', hhistory.step hsound hstep hsound' hadvances⟩

end Settling

/-! ### The outcome law -/

/-- The answers given in a run, judged by the state at its end. -/
structure WriteOutcomes (ext : Externals) (labels : List (Action × Event)) (server : Server) :
    Prop where
  distinct_ids : ((preparedCalls labels).map (fun call => call.object.objectId)).Nodup
  ok : ∀ action call applied status data,
    (action, Event.write call applied (some (status, data))) ∈ labels → status.isOk = true →
    data = .object call.object.objectId call.object.objectToken ∧
    server.db.committedObject ext call.object.objectId =
      some { newObject call.request call.object.objectToken with
        objectId := call.object.objectId } ∧
    HasFile server.dir call.object.objectId call.request.data
  refused : ∀ action call applied status data,
    (action, Event.write call applied (some (status, data))) ∈ labels →
    status.code ≠ .ok → status.code ≠ .unavailable → status.code ≠ .dataLoss →
    server.db.objects.get (numericKey kCommittedObjectPrefix call.object.objectId) = none
  unreadable : ∀ objectId, (∀ label ∈ labels, label.2.committedId ≠ some objectId) →
    NotReadable ext server.db objectId

/-- Whatever the interleaving, an OK answer comes with the object, any answer
but OK, UNAVAILABLE and DATA_LOSS without it for the rest of the run, and no
reader sees an object before its COMMITTED batch. -/
theorem writeObject_outcomes (ext : Externals) {eventMs : UInt64}
    {labels : List (Action × Event)} {server : Server}
    (hrun : Run (Server.Step ext) (Server.initial ext eventMs) labels server) :
    WriteOutcomes ext labels server := by
  obtain ⟨store, log, owner, hsound, hhistory⟩ := run_writeHistory hrun
  have hdb := hsound.sound.represents
  have hvalid := hsound.sound.coherent.valid
  have hfiles := hsound.objects.files
  refine ⟨hfiles.calls_distinct, ?_, ?_, ?_⟩
  · intro action call applied status data hmember hok
    obtain ⟨hdata, hcommitted, prepared, hprepared, hobject, hrequest⟩ :=
      (hhistory.settled action call applied status data hmember).ok hok
    have hchecked := (hfiles.calls_checked prepared hprepared).object
    rw [hobject, hrequest] at hchecked
    obtain ⟨found, hfound, hsame, inode, hdurable⟩ := hfiles.committed _ _ hcommitted
    obtain rfl : found = prepared :=
      hfiles.call_unique hprepared hfound (by rw [hsame, hobject])
    refine ⟨hdata, ?_, ?_⟩
    · rw [hdb.committedObject_eq, hcommitted, ← hchecked]
    · rw [← hrequest]
      exact hdurable.hasFile hfiles.regular
  · intro action call applied status data hmember hnotOk hnotUnavailable hnotLoss
    have hsettled := hhistory.settled action call applied status data hmember
    have hretired := hsettled.refused (by simp [Status.isOk, hnotOk])
      (fun hambiguous => hambiguous.code.elim hnotUnavailable hnotLoss)
    exact (hdb.objects (.committed _)).eq_none_iff.mpr hretired.not_committed
  · intro objectId hnever
    refine notReadable_of_not_committed hdb hvalid ?_
    by_contra hsome
    obtain ⟨label, hlabel, hid⟩ := hhistory.committed objectId hsome
    exact hnever label hlabel hid

theorem session_writeOutcomes :
    WriteOutcomes Reference.externals Reference.sessionLabels Reference.sessionServer :=
  writeObject_outcomes Reference.externals Reference.session_run

end OpenEvent
