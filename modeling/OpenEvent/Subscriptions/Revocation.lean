import OpenEvent.Credentials
import OpenEvent.Refinement.ReadRights
import OpenEvent.Subscriptions.ProcessInvariant

/-!
Rights along the batches of a process: a deleted credential stays absent until
it is issued again, and a removed member of a private channel stays excluded
until he is added again.
-/

namespace OpenEvent

open OpenEventCore

/-- The channel exists and the principal may not read it. -/
def Excluded (ext : Externals) (db : Db) (principal channelId : UInt64) : Prop :=
  ∃ channel, db.findChannel ext channelId = some channel ∧ canRead channel principal = false

/-- No stored channel lists a member twice. -/
def Db.MembersDistinct (ext : Externals) (db : Db) : Prop :=
  ∀ channelId channel, db.channel ext channelId = some channel → channel.members.Nodup

section Batches

variable {ext : Externals} {before after : Db} {batches : List (Event × Db)}
variable {entry : Event × Db} {principal channelId : UInt64} {token : Bytes}

theorem Excluded.not_readable (h : Excluded ext after principal channelId) :
    readable ext after principal channelId = false := by
  obtain ⟨channel, hfound, hcan⟩ := h
  rw [readable, hfound]
  exact hcan

theorem Excluded.channel (h : Excluded ext after principal channelId) :
    channelId ≠ 0 ∧ ∃ channel, after.channel ext channelId = some channel ∧
      canRead channel principal = false := by
  obtain ⟨channel, hfound, hcan⟩ := h
  unfold Db.findChannel at hfound
  split at hfound
  · obtain rfl := Option.some.inj hfound
    cases hcan
  · rename_i hne
    exact ⟨hne, channel, hfound, hcan⟩

theorem Excluded.of_channel {channel : ChannelInfo} (hne : channelId ≠ 0)
    (hchannel : after.channel ext channelId = some channel)
    (hcan : canRead channel principal = false) : Excluded ext after principal channelId :=
  ⟨channel, by rw [Db.findChannel, if_neg hne, hchannel], hcan⟩

/-! ### One batch -/

theorem BatchStep.absent (h : BatchStep ext before entry after)
    (habsent : ¬ before.HasCredential principal token)
    (hadds : entry.1.addsToken principal = false) : ¬ after.HasCredential principal token := by
  cases h with
  | applied hdb _ happlies _ hdb' _ =>
      rw [hdb.hasCredential_iff, Bool.not_eq_true] at habsent
      rw [hdb'.hasCredential_iff, Bool.not_eq_true]
      exact happlies.token_absent habsent hadds

theorem BatchStep.excluded (h : BatchStep ext before entry after)
    (hexcluded : Excluded ext before principal channelId)
    (hadds : entry.1.addsMember channelId principal = false) :
    Excluded ext after principal channelId := by
  obtain ⟨hne, channel, hchannel, hcan⟩ := hexcluded.channel
  cases h with
  | applied hdb hcoherent happlies hpermitted hdb' _ =>
      rw [hdb.channel_eq] at hchannel
      obtain ⟨channel', hchannel', hcan'⟩ := happlies.excluded hcoherent hchannel hcan hadds
      rw [← hdb'.channel_eq] at hchannel'
      exact .of_channel hne hchannel' hcan'

theorem BatchStep.membersDistinct (h : BatchStep ext before entry after)
    (hdistinct : before.MembersDistinct ext) : after.MembersDistinct ext := by
  cases h with
  | @applied _ _ store _ _ hdb _ _ hpermitted hdb' _ =>
      have hstore : store.MembersDistinct := by
        intro channelId channel hchannel
        exact hdistinct channelId channel (by rwa [hdb.channel_eq])
      intro channelId channel hchannel
      rw [hdb'.channel_eq] at hchannel
      exact hstore.apply hpermitted channelId channel hchannel

theorem BatchStep.deleteToken {request : DeleteTokenRequest} {applied : Bool} {status : Status}
    {data : ResponseData}
    (h : BatchStep ext before (.mutation (.deleteToken request) applied status data, after) after) :
    ¬ after.HasCredential request.principal request.token := by
  cases h with
  | @applied _ _ store _ _ _ _ happlies _ hdb' _ =>
      rw [hdb'.hasCredential_iff, store.apply_tokens]
      cases happlies with
      | mutation hperforms =>
          cases hperforms with
          | deleteToken => simp [Effect.setsToken]

/-- A removed member is excluded from a private channel. -/
theorem BatchStep.removeMember {request : MemberRequest} {applied : Bool} {status : Status}
    {data : ResponseData} {channel : ChannelInfo}
    (h : BatchStep ext before (.mutation (.removeMember request) applied status data, after) after)
    (hdistinct : before.MembersDistinct ext)
    (hchannel : after.findChannel ext request.channelId = some channel)
    (hprivate : channel.visibility = .visibilityPrivate) :
    Excluded ext after request.targetPrincipal request.channelId := by
  refine ⟨channel, hchannel, ?_⟩
  have hne : request.channelId ≠ 0 := by
    intro hzero
    rw [Db.findChannel, if_pos hzero] at hchannel
    obtain rfl := Option.some.inj hchannel
    cases hprivate
  rw [Db.findChannel, if_neg hne] at hchannel
  cases h with
  | @applied _ _ store _ _ hdb hcoherent happlies _ hdb' _ =>
      rw [hdb'.channel_eq] at hchannel
      cases happlies with
      | mutation hperforms =>
          cases hperforms with
          | @removeMember _ found _ _ hfound _ =>
              have hid := (hcoherent.valid.channel _ _ hfound).1
              have hnodup : found.members.Nodup :=
                hdistinct request.channelId found (by rw [hdb.channel_eq]; exact hfound)
              obtain rfl : { found with members := found.members.erase request.targetPrincipal } =
                  channel := by
                rw [← hid] at hchannel
                have hput {changed : ChannelInfo} {message : EventMessage} :
                    (store.apply (.changeMembers changed message)).channels changed.channelId =
                      some changed := Function.update_self _ _ _
                exact Option.some.inj (hput.symm.trans hchannel)
              refine canRead_eq_false.mpr ⟨by rwa [← hid] at hne, ?_, ?_, ?_⟩
              · rw [hprivate]
                decide
              · rw [hprivate]
                decide
              · exact fun hmember => hnodup.not_mem_erase hmember

/-! ### Many batches -/

/-- A credential that is absent stays absent unless an `AddToken` batch for the
principal brings it back. -/
theorem batches_keep_absent (hrun : Run (BatchStep ext) before batches after)
    (habsent : ¬ before.HasCredential principal token) :
    (∃ entry ∈ batches, entry.1.addsToken principal = true ∧
      entry.2.HasCredential principal token) ∨ ¬ after.HasCredential principal token := by
  refine hrun.history (P := fun batches db => (∃ entry ∈ batches,
    entry.1.addsToken principal = true ∧ entry.2.HasCredential principal token) ∨
    ¬ db.HasCredential principal token) (Or.inr habsent) ?_
  rintro earlier db entry db' _ (⟨issued, hmember, hissued⟩ | habsent) hstep
  · exact Or.inl ⟨issued, by simp [hmember], hissued⟩
  · by_cases hstored : db'.HasCredential principal token
    · refine Or.inl ⟨entry, by simp, ?_, ?_⟩
      · by_contra hadds
        exact hstep.absent habsent (Bool.eq_false_iff.mpr hadds) hstored
      · cases hstep with
        | applied => exact hstored
    · exact Or.inr hstored

/-- A principal who is excluded from a channel stays so unless an `AddMember`
batch takes him in. -/
theorem batches_keep_excluded (hrun : Run (BatchStep ext) before batches after)
    (hexcluded : Excluded ext before principal channelId) :
    (∃ entry ∈ batches, entry.1.addsMember channelId principal = true) ∨
      Excluded ext after principal channelId := by
  refine hrun.history (P := fun batches db => (∃ entry ∈ batches,
    entry.1.addsMember channelId principal = true) ∨ Excluded ext db principal channelId)
    (Or.inr hexcluded) ?_
  rintro earlier db entry db' _ (⟨added, hmember, hadded⟩ | hexcluded) hstep
  · exact Or.inl ⟨added, by simp [hmember], hadded⟩
  · cases hadds : entry.1.addsMember channelId principal with
    | true => exact Or.inl ⟨entry, by simp, hadds⟩
    | false => exact Or.inr (hstep.excluded hexcluded hadds)

theorem batches_membersDistinct (hrun : Run (BatchStep ext) before batches after)
    (h : before.MembersDistinct ext) : after.MembersDistinct ext :=
  hrun.invariant h (fun _ _ _ hdistinct hstep => hstep.membersDistinct hdistinct)

end Batches

end OpenEvent
