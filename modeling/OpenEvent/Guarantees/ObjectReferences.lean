import OpenEvent.Guarantees.ObjectWrites
import OpenEvent.MessageLog
import OpenEvent.Reference

/-!
Every object key in the log can be resolved, at once and for the rest of the
run, to the data of the call that wrote the object.
-/

namespace OpenEvent

open OpenEventCore ObjectFileStore

/-- The readers answer for the key with what the request gave: the record is
read at `server`, the file at a later state. -/
structure Resolves (ext : Externals) (server later : Server) (key : ObjectKey)
    (request : WriteObjectRequest) : Prop where
  metadata : getObjectMetadata ext none server.db {} key =
    .ok { name := request.name, type := request.type, description := request.description,
          nbytes := UInt64.ofNat request.data.length }
  read : ∀ offset nbytes : UInt64, nbytes ≠ 0 → offset.toNat ≤ request.data.length →
    (∀ io result, ReadIo.NoErrors io →
      readObject ext none server.db {} later.dir io
        ⟨key.objectId, key.objectToken, offset, nbytes⟩ = some result →
      result = .ok (rangeOf request.data offset nbytes)) ∧
    ∃ io, ReadIo.NoErrors io ∧
      readObject ext none server.db {} later.dir io
        ⟨key.objectId, key.objectToken, offset, nbytes⟩ =
          some (.ok (rangeOf request.data offset nbytes))

variable {ext : Externals} {server later : Server} {store : Store} {log : List EventMessage}
variable {owner : Nat → UInt64} {labels labels' : List (Action × Event)}

/-- Committed records stay as they are. -/
theorem RunSound.committed_run (h : RunSound ext labels server store log owner)
    (hlater : Run (Server.Step ext) server labels' later) :
    ∃ store' log' owner', RunSound ext (labels ++ labels') later store' log' owner' ∧
      ∀ objectId object, store.committed objectId = some object →
        store'.committed objectId = some object := by
  refine hlater.history (P := fun labels' later => ∃ store' log' owner',
    RunSound ext (labels ++ labels') later store' log' owner' ∧
      ∀ objectId object, store.committed objectId = some object →
        store'.committed objectId = some object) ?_ ?_
  · exact ⟨store, log, owner, by rwa [List.append_nil], fun _ _ hobject => hobject⟩
  · rintro labels' before label after _ ⟨store', log', owner', hsound, hkept⟩ hstep
    obtain ⟨next, longer, owner'', hnext, hadvances⟩ := hsound.step hstep
    refine ⟨next, longer, owner'', by rwa [← List.append_assoc], ?_⟩
    intro objectId object hobject
    have hbefore := hkept objectId object hobject
    rcases hsound.committed_step hstep hadvances with hsame | ⟨_, call, _, _, _, hnone, hupdated⟩
    · rw [hsame, hbefore]
    · have hne : objectId ≠ call.object.objectId := by
        intro heq
        rw [heq, hnone] at hbefore
        cases hbefore
      rw [hupdated, Function.update_of_ne hne, hbefore]

/-- A committed object of a call, with its file at a later state. -/
private theorem resolves_of_committed (hdb : Represents ext server.db store)
    (hvalid : store.Valid ext) {call : WriteObjectCall} (hchecked : CallChecked call)
    {key : ObjectKey} (hcommitted : store.committed key.objectId = some call.object)
    (htoken : call.object.objectToken = key.objectToken) {inode : Nat}
    (hdurable : Durable later.dir owner key.objectId inode call.request.data)
    (hregular : OnlyRegular later.dir) : Resolves ext server later key call.request where
  metadata := by
    have hload := loadAuthorizedObject_committed hdb hvalid hcommitted
    have hsnapshot : UnifiedStorage.createSnapshot server.db {} = .ok server.db := rfl
    rw [htoken] at hload
    simp only [getObjectMetadata, ensureAvailable, plain, Fallible.ok_bind, hsnapshot, hload]
    rw [hchecked.object]
    rfl
  read offset nbytes hnbytes hoffset := by
    have hsize := hchecked.size
    have hwithin : offset ≤ call.object.nbytes := by
      rw [UInt64.le_iff_toNat_le, hsize]
      exact hoffset
    rw [← htoken]
    exact readObject_committed hdb hvalid hcommitted hdurable hregular hsize hwithin hnbytes

/-- Every key of every message in the log resolves to the data of the one call
that wrote the object, now and at every later state. -/
theorem object_references_resolve (ext : Externals) {eventMs : UInt64}
    {labels labels' : List (Action × Event)} {server later : Server}
    (hrun : Run (Server.Step ext) (Server.initial ext eventMs) labels server)
    (hlater : Run (Server.Step ext) server labels' later)
    {message : EventMessage} (hmessage : message ∈ server.db.log ext)
    {key : ObjectKey} (hkey : key ∈ message.objectKeys) :
    ∃ call ∈ preparedCalls labels, call.object.objectId = key.objectId ∧
      (∀ other ∈ preparedCalls (labels ++ labels'),
        other.object.objectId = key.objectId → other = call) ∧
      Resolves ext server later key call.request := by
  obtain ⟨store, log, owner, hsound⟩ := run_objectsSound hrun
  obtain ⟨store', log', owner', hsound', hkept⟩ := hsound.committed_run hlater
  have hdb := hsound.sound.represents
  have hcoherent := hsound.sound.coherent
  rw [hdb.log_eq hcoherent.logIndex] at hmessage
  obtain ⟨object, hobject, htoken⟩ := hcoherent.objectIndex.references message hmessage key hkey
  have hid := (hcoherent.valid.object (.committed key.objectId) object hobject).objectId_eq
  obtain ⟨call, hcall, rfl, _⟩ := hsound.objects.files.committed key.objectId object hobject
  -- The call is the one whose file is there later on.
  have hcall' : call ∈ preparedCalls (labels ++ labels') := by
    rw [preparedCalls, List.filterMap_append]
    exact List.mem_append_left _ hcall
  have hunique (other : WriteObjectCall) (hother : other ∈ preparedCalls (labels ++ labels'))
      (hsame : other.object.objectId = key.objectId) : other = call :=
    hsound'.objects.files.call_unique hcall' hother (hsame.trans hid.symm)
  obtain ⟨found, hfound, hrecord, inode, hdurable⟩ :=
    hsound'.objects.files.committed key.objectId call.object (hkept _ _ hobject)
  obtain rfl : found = call := hunique found hfound (by rw [hrecord]; exact hid)
  exact ⟨found, hcall, hid, hunique, resolves_of_committed hdb hcoherent.valid
    (hsound.objects.files.calls_checked found hcall) hobject htoken hdurable
    hsound'.objects.files.regular⟩

/-- The last message of the session carries the key of the object written before it. -/
theorem session_reference_resolves :
    ∃ call ∈ preparedCalls Reference.sessionLabels,
      Resolves Reference.externals Reference.sessionServer Reference.sessionServer
        Reference.objectKey call.request := by
  let message : EventMessage :=
    { seq := 3, channelId := 1, principal := 7, payload := [3], tsMs := 14, uuid := 2,
      objectKeys := [Reference.objectKey] }
  have hmessage : message ∈ Reference.sessionServer.db.log Reference.externals := by
    decide +kernel
  obtain ⟨call, hcall, _, _, hresolves⟩ := object_references_resolve Reference.externals
    Reference.session_run (.nil _) hmessage (List.mem_singleton.mpr rfl)
  exact ⟨call, hcall, hresolves⟩

end OpenEvent
