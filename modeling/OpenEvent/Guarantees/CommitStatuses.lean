import OpenEvent.Reference
import OpenEvent.Refinement.BatchWrites
import OpenEvent.Refinement.Simulation

/-!
What the status of a mutation says about the stored state, on any database:
a refused call has changed nothing, an accepted one has applied one batch with
the whole effect of the operation.
-/

namespace OpenEvent

open OpenEventCore Fallible

/-! ### Statuses -/

/-- `RemoveMember` of a principal who is not a member of the channel. -/
def RemovesNobody (ext : Externals) (db : Db) (faults : ReadFaults) (operation : Mutation) : Prop :=
  ∃ request channel, operation = .removeMember request ∧
    loadChannel ext db faults request.channelId = .ok (some channel) ∧
    request.targetPrincipal ∉ channel.members

/-- What the status of a call says about the stored state. -/
structure CallOutcome (ext : Externals) (state : CoreState) (env : CallEnv) (tsMs : UInt64)
    (operation : Mutation) (next : CoreState) (status : Status) (data : ResponseData) : Prop where
  refused : status.isOk = false → status.code ≠ .unavailable → status.code ≠ .dataLoss →
    next.db = state.db
  accepted : status.isOk = true →
    (∃ batch, FullEffect ext state.db env tsMs operation batch data ∧
      next.db = state.db.write batch) ∨
    RemovesNobody ext state.db env.faults operation ∧ next.db = state.db
  failedCommit : ∀ applied reported, env.commit = .failed applied reported →
    next.db = state.db ∨
    ∃ batch answer, FullEffect ext state.db env tsMs operation batch answer ∧
      next.db = state.db.write batch

section Statuses

variable {ext : Externals} {config : Config} {state next : CoreState} {env : CallEnv}
variable {tsMs : UInt64} {operation : Mutation} {status : Status} {data : ResponseData}

/-- A call that came to an early return. -/
theorem CallOutcome.unchanged (hdb : next.db = state.db)
    (hok : status.isOk = true → RemovesNobody ext state.db env.faults operation) :
    CallOutcome ext state env tsMs operation next status data where
  refused _ _ _ := hdb
  accepted h := Or.inr ⟨hok h, hdb⟩
  failedCommit _ _ _ := Or.inl hdb

/-- A call that came to its commit. -/
theorem CallOutcome.committed {batch : WriteBatch} {answer : ResponseData}
    (heffect : FullEffect ext state.db env tsMs operation batch answer) :
    CallOutcome ext state env tsMs operation (commitBatch state batch env.commit).1
      (commitBatch state batch env.commit).2
      (if (commitBatch state batch env.commit).2.isOk then answer else .empty) := by
  have hdb := commitBatch_db state batch env.commit
  cases hcommit : env.commit with
  | written =>
      rw [hcommit] at hdb
      refine ⟨nofun, ?_, ?_⟩
      · intro _
        exact Or.inl ⟨batch, heffect, hdb⟩
      · intro applied reported hfailed
        rw [hcommit] at hfailed
        cases hfailed
  | failed applied reported =>
      rw [hcommit] at hdb
      have hstatus : (commitBatch state batch (.failed applied reported)).2 =
          rocksToStatus reported "commit storage batch" := by
        rw [commitBatch_failed]
      refine ⟨?_, ?_, ?_⟩
      · intro _ hunavailable hdataLoss
        rw [hstatus, rocksToStatus_code] at hunavailable hdataLoss
        cases reported.isCorruption <;> simp_all
      · intro hok
        rw [hstatus, rocksToStatus_not_ok] at hok
        cases hok
      · intro _ _ _
        cases applied with
        | false => exact Or.inl hdb
        | true => exact Or.inr ⟨batch, answer, heffect, hdb⟩

/-- On any database, whatever reads, commit and RPC context do. -/
theorem statuses_tell_outcome (ext : Externals) (config : Config) (state : CoreState)
    (env : CallEnv) (tsMs : UInt64) (operation : Mutation)
    (h : Mutation.call ext config state env tsMs operation = some (next, status, data)) :
    CallOutcome ext state env tsMs operation next status data := by
  have hrefused {refusal : Status} (hrefuses : refusal.Refuses)
      (hcall : some (state, refusal, ResponseData.empty) = some (next, status, data)) :
      CallOutcome ext state env tsMs operation next status data := by
    obtain ⟨rfl, hrest⟩ := Prod.mk.inj (Option.some.inj hcall)
    obtain ⟨rfl, rfl⟩ := Prod.mk.inj hrest
    refine .unchanged rfl ?_
    intro hok
    exact absurd hok (Bool.eq_false_iff.mp hrefuses)
  unfold Mutation.call at h
  split at h
  · rename_i hunavailable
    exact hrefused (refuses_checks.ensureAvailable _ _ hunavailable) h
  · rename_i hentry
    exact hrefused (refuses_checks.mutationEntry operation _ hentry) h
  · obtain ⟨built, hbuilt, hconclude⟩ := Option.map_eq_some_iff.mp h
    cases built with
    | ok found =>
        obtain ⟨rfl, hrest⟩ := Prod.mk.inj hconclude
        obtain ⟨rfl, rfl⟩ := Prod.mk.inj hrest
        exact .committed (mutationBatch_writes hbuilt)
    | error exit =>
        obtain ⟨rfl, hrest⟩ := Prod.mk.inj hconclude
        obtain ⟨rfl, rfl⟩ := Prod.mk.inj hrest
        refine .unchanged (conclude_db state env (.error exit)) ?_
        intro hok
        rcases (reported_refuses ext state.db env.faults).mutationBatch hbuilt exit rfl with
          hrefuses | ⟨request, hoperation, hnothing⟩
        · exact absurd hok (Bool.eq_false_iff.mp hrefuses)
        · obtain ⟨channel, hchannel, hmember⟩ := hnothing.channel
          exact ⟨request, channel, hoperation, loadOwnedChannel_loads hchannel,
            by simpa [isMember] using hmember⟩

/-- `DeleteToken` on a new store, with a commit that fails after the write. -/
theorem deleteToken_tells_outcome :
    let state : CoreState := { db := UnifiedStorage.initializeNew Reference.externals 5 }
    let env : CallEnv := { commit := .failed true ⟨false, "IO error", "IOError"⟩ }
    ∃ next status data, Mutation.call Reference.externals Reference.config state env 0
        (.deleteToken ⟨7, [1]⟩) = some (next, status, data) ∧
      status.code = .unavailable ∧
      CallOutcome Reference.externals state env 0 (.deleteToken ⟨7, [1]⟩) next status data := by
  intro state env
  obtain ⟨⟨next, status, data⟩, hcall⟩ : ∃ result, Mutation.call Reference.externals
      Reference.config state env 0 (.deleteToken ⟨7, [1]⟩) = some result := ⟨_, rfl⟩
  have hcode : (Mutation.call Reference.externals Reference.config state env 0
      (.deleteToken ⟨7, [1]⟩)).map (·.2.1.code) = some .unavailable := rfl
  rw [hcall] at hcode
  exact ⟨next, status, data, hcall, Option.some.inj hcode,
    statuses_tell_outcome Reference.externals Reference.config state env 0 _ hcall⟩

end Statuses

end OpenEvent
