import OpenEvent.Credentials
import OpenEvent.Guarantees.Channels
import OpenEvent.Reference
import OpenEvent.Refinement.BatchWrites
import OpenEvent.Refinement.Reported

/-!
Member lists are sets: in every state that runs reach, a channel lists each of
its at most 1024 members once, its creator among them, and nothing but the
members of a channel ever changes.
-/

namespace OpenEvent

open OpenEventCore Fallible

variable {ext : Externals} {server next : Server} {store : Store} {log : List EventMessage}
variable {effect : Effect}

/-! ### Stored channels -/

/-- The member list of a channel is a set of principals within the limit, with the creator in it. -/
structure ChannelInfo.MemberSet (channel : ChannelInfo) : Prop where
  nodup : channel.members.Nodup
  nonzero : 0 ∉ channel.members
  bounded : channel.members.length ≤ kMaxChannelMembers
  creator : ∃ creator, channel.creator = some creator ∧ creator ∈ channel.members

theorem NewChannel.memberSet {channel : ChannelInfo} (h : NewChannel store channel) :
    channel.MemberSet := by
  obtain ⟨creator, hcreator, _, hmember⟩ := h.creator
  exact ⟨h.members_nodup, h.members_ne, h.members_le, creator, hcreator, hmember⟩

theorem MemberChange.memberSet {before channel : ChannelInfo} {payload : Bytes}
    (h : MemberChange before channel payload) (hset : before.MemberSet) : channel.MemberSet := by
  obtain ⟨creator, hcreator, hmember⟩ := hset.creator
  cases h with
  | @added target htarget hnew hroom =>
      refine ⟨?_, ?_, ?_, creator, hcreator, ?_⟩
      · rw [← List.concat_eq_append]
        exact hset.nodup.concat hnew
      · simp [hset.nonzero, htarget.symm]
      · rw [List.length_append, List.length_singleton]
        omega
      · exact List.mem_append_left _ hmember
  | @removed target _ _ hother =>
      refine ⟨hset.nodup.erase _, ?_, ?_, creator, hcreator, ?_⟩
      · exact fun hzero => hset.nonzero (List.mem_of_mem_erase hzero)
      · exact (List.length_erase_le).trans hset.bounded
      · have hne : creator ≠ target := fun heq => hother (by rw [hcreator, heq])
        exact (List.mem_erase_of_ne hne).mpr hmember

theorem Reachable.memberSet (h : Reachable ext server) {channelId : UInt64} {channel : ChannelInfo}
    (hchannel : server.db.channel ext channelId = some channel) : channel.MemberSet := by
  obtain ⟨eventMs, labels, hrun⟩ := h
  obtain ⟨store, log, hsound, hsets⟩ := (initial_sound ext eventMs).run
    (P := fun store _ => ∀ channelId channel, store.channels channelId = some channel →
      channel.MemberSet) nofun hrun (by
        intro store log effect _ hpermitted hsets
        exact hpermitted.channels_keep (fun _ hnew => hnew.memberSet)
          (fun _ _ _ hchange hset => hchange.memberSet hset) hsets)
  rw [hsound.represents.channel_eq] at hchannel
  exact hsets channelId channel hchannel

/-! ### What never changes -/

/-- The channel is the other one but for its members. -/
def ChannelInfo.SameBut (channel other : ChannelInfo) : Prop :=
  { channel with members := other.members } = other

theorem ChannelInfo.SameBut.refl (channel : ChannelInfo) : channel.SameBut channel := rfl

theorem ChannelInfo.SameBut.trans {first second third : ChannelInfo} (h : first.SameBut second)
    (h' : second.SameBut third) : first.SameBut third := by
  unfold SameBut at h h' ⊢
  rw [← h', ← h]

theorem MemberChange.sameBut {before channel : ChannelInfo} {payload : Bytes}
    (h : MemberChange before channel payload) : channel.SameBut before := by
  cases h <;> rfl

/-- An effect leaves a stored channel stored, with at most its members changed. -/
theorem Permitted.channel_kept (hpermitted : Permitted store effect)
    (hcoherent : Coherent ext store log) {channelId : UInt64} {channel : ChannelInfo}
    (hchannel : store.channels channelId = some channel) :
    ∃ channel', (store.apply effect).channels channelId = some channel' ∧
      channel'.SameBut channel := by
  cases hpermitted with
  | @createChannel created _ hnew _ _ =>
      refine ⟨channel, ?_, .refl channel⟩
      have hlt := hcoherent.channelIndex.lt_of_some hchannel
      have hne : channelId ≠ created.channelId := by
        rintro rfl
        rw [hnew.channelId_eq] at hlt
        exact UInt64.lt_irrefl _ hlt.2
      exact (Function.update_of_ne hne _ _).trans hchannel
  | @changeMembers before changed _ hbefore hchange _ =>
      have hid : changed.channelId = before.channelId := MemberChange.channelId_eq hchange
      by_cases heq : channelId = changed.channelId
      · obtain rfl : before = channel := by
          rw [heq, hid, hbefore] at hchannel
          exact Option.some.inj hchannel
        refine ⟨changed, ?_, hchange.sameBut⟩
        rw [heq]
        exact Function.update_self _ _ _
      · exact ⟨channel, (Function.update_of_ne heq _ _).trans hchannel, .refl channel⟩
  | discardObjects =>
      refine ⟨channel, ?_, .refl channel⟩
      rw [store.discard_frame]
      exact hchannel
  | _ => exact ⟨channel, hchannel, .refl channel⟩

/-- Later in any run a channel is still there, with at most its members changed. -/
theorem Reachable.channel_kept (h : Reachable ext server) {labels : List (Action × Event)}
    (hrun : Run (Server.Step ext) server labels next) {channelId : UInt64} {channel : ChannelInfo}
    (hchannel : server.db.channel ext channelId = some channel) :
    ∃ channel', next.db.channel ext channelId = some channel' ∧ channel'.SameBut channel := by
  obtain ⟨store, log, hsound⟩ := h.sound
  rw [hsound.represents.channel_eq] at hchannel
  obtain ⟨store', log', hsound', channel', hchannel', hsame⟩ := hsound.run
    (P := fun store _ => ∃ channel', store.channels channelId = some channel' ∧
      channel'.SameBut channel) ⟨channel, hchannel, .refl channel⟩ hrun (by
        rintro store log effect hcoherent hpermitted ⟨current, hcurrent, hsame⟩
        obtain ⟨later, hlater, hkept⟩ := hpermitted.channel_kept hcoherent hcurrent
        exact ⟨later, hlater, hkept.trans hsame⟩)
  exact ⟨channel', by rw [hsound'.represents.channel_eq, hchannel'], hsame⟩

/-! ### Calls answered OK -/

/-- A call that is answered OK applied its batch, or was a `RemoveMember` of nobody. -/
theorem Server.step_answered_ok {action : Action} {operation : Mutation} {applied : Bool}
    {status : Status} {data : ResponseData}
    (h : server.step ext action = some (next, .mutation operation applied status data))
    (hok : status.isOk = true) :
    applied = true ∨ next.db = server.db ∧ ∃ request exit faults,
      operation = .removeMember request ∧
        Reported.NothingToRemove ext server.db faults request exit := by
  cases Server.step_mutation h with
  | @refused core _ _ _ hrefused _ _ _ =>
      exfalso
      rcases hrefused with hunavailable | hentry
      · exact Bool.eq_false_iff.mp (refuses_checks.ensureAvailable _ _ hunavailable) hok
      · exact Bool.eq_false_iff.mp (refuses_checks.mutationEntry operation _ hentry) hok
  | @ran core _ _ env _ _ hrun =>
      obtain ⟨built, hbuilt, hends⟩ := Server.runMutation_ends hrun
      cases hends with
      | @left exit _ hstatus _ hdb =>
          rcases (reported_refuses ext server.db env.faults).mutationBatch hbuilt exit rfl with
            hrefuses | ⟨request, hoperation, hnothing⟩
          · rw [hstatus] at hok
            exact absurd hok (Bool.eq_false_iff.mp hrefuses)
          · exact Or.inr ⟨hdb, request, exit, env.faults, hoperation, hnothing⟩
      | @committed batch _ happlied hstatus _ _ =>
          left
          rw [happlied]
          cases hcommit : env.commit with
          | written => rfl
          | failed written reported =>
              rw [hstatus, hcommit, commitBatch_failed, rocksToStatus_not_ok] at hok
              cases hok

/-- What an `AddMember` that is answered OK leaves. -/
structure MemberAdded (ext : Externals) (before after : Db) (channelId target : UInt64) : Prop where
  channels : ∃ channel, before.channel ext channelId = some channel ∧
    after.channel ext channelId =
      some { channel with members := channel.members ++ [target] } ∧
    (channel.members ++ [target]).count target = 1

/-- What a `RemoveMember` that is answered OK leaves. -/
structure MemberRemoved (ext : Externals) (before after : Db) (channelId target : UInt64) :
    Prop where
  channels : ∃ channel, before.channel ext channelId = some channel ∧
    after.channel ext channelId =
      some { channel with members := channel.members.filter (· ≠ target) }

theorem Reachable.memberAdded (h : Reachable ext server) {action : Action} {request : MemberRequest}
    {applied : Bool} {status : Status} {data : ResponseData}
    (hstep : Server.Step ext server (action, .mutation (.addMember request) applied status data) next)
    (hok : status.isOk = true) :
    MemberAdded ext server.db next.db request.channelId request.targetPrincipal := by
  obtain ⟨store, log, hsound⟩ := h.sound
  obtain ⟨store', log', hsound', hadvances⟩ := hsound.step hstep
  have hnext : Reachable ext next := by
    obtain ⟨eventMs, labels, hrun⟩ := h
    exact ⟨eventMs, _, hrun.snoc hstep⟩
  rcases Server.step_answered_ok hstep.1 hok with rfl | ⟨_, other, _, _, hother, _⟩
  · cases hadvances with
    | unchanged hevent => cases hevent
    | applied happlies hpermitted =>
        cases happlies with
        | mutation hperforms =>
            cases hperforms with
            | @addMember _ channel _ _ hchannel _ =>
                have hid := (hsound.coherent.valid.channel _ _ hchannel).1
                have hafter : next.db.channel ext request.channelId = some
                    { channel with members := channel.members ++ [request.targetPrincipal] } := by
                  rw [hsound'.represents.channel_eq, ← hid]
                  exact Function.update_self _ _ _
                refine ⟨channel, ?_, hafter, ?_⟩
                · rw [hsound.represents.channel_eq, hchannel]
                · exact List.count_eq_one_of_mem (hnext.memberSet hafter).nodup (by simp)
  · cases hother

theorem Reachable.memberRemoved (h : Reachable ext server) {action : Action}
    {request : MemberRequest} {applied : Bool} {status : Status} {data : ResponseData}
    (hstep : Server.Step ext server
      (action, .mutation (.removeMember request) applied status data) next)
    (hok : status.isOk = true) :
    MemberRemoved ext server.db next.db request.channelId request.targetPrincipal := by
  obtain ⟨store, log, hsound⟩ := h.sound
  obtain ⟨store', log', hsound', hadvances⟩ := hsound.step hstep
  rcases Server.step_answered_ok hstep.1 hok with rfl | ⟨hdb, other, _, _, hother, hnothing⟩
  · cases hadvances with
    | unchanged hevent => cases hevent
    | applied happlies hpermitted =>
        cases happlies with
        | mutation hperforms =>
            cases hperforms with
            | @removeMember _ channel _ _ hchannel _ =>
                have hid := (hsound.coherent.valid.channel _ _ hchannel).1
                have hbefore : server.db.channel ext request.channelId = some channel := by
                  rw [hsound.represents.channel_eq, hchannel]
                have herase : channel.members.erase request.targetPrincipal =
                    channel.members.filter (· ≠ request.targetPrincipal) := by
                  rw [(h.memberSet hbefore).nodup.erase_eq_filter]
                  exact List.filter_congr (fun member _ => Bool.eq_iff_iff.mpr (by simp))
                refine ⟨channel, hbefore, ?_⟩
                rw [hsound'.represents.channel_eq, ← hid]
                rw [← herase]
                exact Function.update_self _ _ _
  · obtain rfl := Mutation.removeMember.inj hother
    obtain ⟨channel, hloaded, hmember⟩ := hnothing.channel
    obtain ⟨_, hchannel, _⟩ := loadOwnedChannel_ok hsound.represents hsound.coherent.valid hloaded
    have habsent : request.targetPrincipal ∉ channel.members := by simpa [isMember] using hmember
    have hbefore : server.db.channel ext request.channelId = some channel := by
      rw [hsound.represents.channel_eq, hchannel]
    have hfilter : channel.members.filter (· ≠ request.targetPrincipal) = channel.members := by
      apply List.filter_eq_self.mpr
      intro member hmem
      simpa using ne_of_mem_of_not_mem hmem habsent
    exact ⟨channel, hbefore, by rw [hdb, hbefore, hfilter]⟩

/-! ### CreateChannel -/

/-- The members of the request cannot be stored: a 0, a list over the limit, or a set over it. -/
def BadMembers (request : CreateChannelRequest) : Prop :=
  0 ∈ request.members ∨ kMaxChannelMembers < request.members.length ∨
    kMaxChannelMembers < (insert request.principal request.members.toFinset).card

/-- The statuses by which `CreateChannel` refuses a member list. -/
def Status.RefusesMembers (status : Status) : Prop :=
  status = { code := .invalidArgument, message := "invalid Channel parameters" } ∨
    status = { code := .resourceExhausted,
               message := "Channel can contain at most 1024 members including its creator" }

/-- A request that is valid in all respects but its members, on a server that serves it. -/
structure OtherwiseValid (state : CoreState) (faults : ReadFaults) (request : CreateChannelRequest) :
    Prop where
  principal_ne : request.principal ≠ 0
  name_ne : request.name.isEmpty = false
  name_le : request.name.utf8ByteSize ≤ 255
  protocol_le : request.protocol.utf8ByteSize ≤ 255
  description_le : request.description.utf8ByteSize ≤ 4096
  visibility : validateVisibility request.visibility = .ok ()
  available : state.fatalError = none
  snapshot : UnifiedStorage.createSnapshot state.db faults = .ok state.db
  authenticated : authenticate state.db faults request.principal request.token = .ok ()

theorem initialMembers_toFinset (principal : UInt64) (members : List UInt64) :
    (initialMembers principal members).toFinset = insert principal members.toFinset := by
  ext member
  simp [mem_initialMembers]

theorem length_initialMembers (principal : UInt64) (members : List UInt64) :
    (initialMembers principal members).length = (insert principal members.toFinset).card := by
  rw [← initialMembers_toFinset, List.toFinset_card_of_nodup (nodup_initialMembers _ _)]

section Decision

variable {state : CoreState} {env : CallEnv} {request : CreateChannelRequest}

theorem OtherwiseValid.entry (h : OtherwiseValid state env.faults request) :
    createChannelEntry request =
      if 0 ∈ request.members ∨ kMaxChannelMembers < request.members.length then
        .error { code := .invalidArgument, message := "invalid Channel parameters" }
      else .ok () := by
  unfold createChannelEntry
  by_cases hbad : 0 ∈ request.members ∨ kMaxChannelMembers < request.members.length
  · rw [if_pos hbad, if_pos]
    rcases hbad with hzero | hlong
    · exact Or.inr (Or.inl (by simpa using hzero))
    · exact Or.inr (Or.inr (Or.inr (Or.inr (Or.inr (Or.inr hlong)))))
  · rw [if_neg hbad, if_neg, h.visibility]
    rw [not_or] at hbad
    simp [h.principal_ne, hbad.1, h.name_ne, Nat.not_lt.mpr h.name_le,
      Nat.not_lt.mpr h.protocol_le, Nat.not_lt.mpr h.description_le, hbad.2]

/-- No later check and no storage failure is reported as a refusal of the members. -/
theorem storageErrors_accept : StorageErrors (fun status => ¬ status.RefusesMembers) where
  rocks status operation := by
    have hcode := rocksToStatus_code status operation
    rintro (hrefuses | hrefuses) <;>
      · rw [hrefuses] at hcode
        cases hcorruption : status.isCorruption <;> simp [hcorruption] at hcode
  corruption operation error := by
    rintro (hrefuses | hrefuses) <;> exact absurd (congrArg Status.code hrefuses) (by simp)
  snapshot := by
    rintro (hrefuses | hrefuses) <;> exact absurd (congrArg Status.code hrefuses) (by decide)

theorem buildChannelMutationBatch_errors (db : Db) (channel : ChannelInfo) (payload : Bytes) :
    Errors (fun status => ¬ status.RefusesMembers)
      (buildChannelMutationBatch ext db env channel payload) := by
  have hraised {code : StatusCode} {message : String}
      (hmessage : message ≠ "invalid Channel parameters" ∧
        message ≠ "Channel can contain at most 1024 members including its creator") :
      ¬ ({ code, message } : Status).RefusesMembers := by
    rintro (hrefuses | hrefuses)
    · exact hmessage.1 (congrArg Status.message hrefuses)
    · exact hmessage.2 (congrArg Status.message hrefuses)
  unfold buildChannelMutationBatch
  refine .bind (storageErrors_accept.getRequiredUint64 db env.faults kMaxSeqKey) ?_
  intro maxSeq _
  refine .bind (storageErrors_accept.getRequiredUint64 db env.faults kNextUuidKey) ?_
  intro nextUuid _
  refine .bind ?_ (fun withChannel _ => .bind ?_ (fun withMessage _ => .bind ?_
    (fun withUuid _ => .bind (.ok _) (fun counted _ => ?_))))
  · unfold UnifiedStorage.putChannel
    split
    · exact .error (hraised (by decide))
    · exact .ok _
  · unfold UnifiedStorage.putMessage
    split
    · exact .error (hraised (by decide))
    · exact .ok _
  · unfold UnifiedStorage.putUsedUuid
    split
    · exact .error (hraised (by decide))
    · exact .ok _
  · unfold UnifiedStorage.setNextUuid
    split
    · exact .error (hraised (by decide))
    · exact .ok _

/-- With members that fit, the section fails for other reasons only. -/
theorem OtherwiseValid.batch_errors (h : OtherwiseValid state env.faults request)
    (hfits : (initialMembers request.principal request.members).length ≤ kMaxChannelMembers) :
    Errors (fun exit : Exit => ¬ exit.status.RefusesMembers)
      (createChannelBatch ext state.db env request) := by
  unfold createChannelBatch
  rw [h.snapshot]
  simp only [plain, ok_bind, h.authenticated]
  rw [if_neg (Nat.not_lt.mpr hfits)]
  refine .bind (plain_errors
    (storageErrors_accept.getRequiredUint64 state.db env.faults kNextChannelIdKey)) ?_
  intro nextChannelId _
  refine .bind (plain_errors (buildChannelMutationBatch_errors _ _ _)) ?_
  intro batch _
  exact .bind (.ok _) (fun counted _ => .ok _)

theorem OtherwiseValid.batch_refused (h : OtherwiseValid state env.faults request)
    (hlong : kMaxChannelMembers < (initialMembers request.principal request.members).length) :
    createChannelBatch ext state.db env request = .error { status :=
      { code := .resourceExhausted,
        message := "Channel can contain at most 1024 members including its creator" } } := by
  unfold createChannelBatch
  rw [h.snapshot]
  simp only [plain, ok_bind, h.authenticated]
  rw [if_pos hlong]
  rfl

/-- The request is refused because of its members exactly when they are bad. -/
theorem OtherwiseValid.refused_iff (h : OtherwiseValid state env.faults request) {config : Config}
    {tsMs : UInt64} {after : CoreState} {status : Status} {data : ResponseData}
    (hcall : (Mutation.createChannel request).call ext config state env tsMs =
      some (after, status, data)) :
    status.RefusesMembers ↔ BadMembers request := by
  unfold Mutation.call at hcall
  rw [h.available, Mutation.entry, h.entry] at hcall
  by_cases hlisted : 0 ∈ request.members ∨ kMaxChannelMembers < request.members.length
  · rw [if_pos hlisted] at hcall
    obtain ⟨_, hanswer⟩ := Prod.mk.inj (Option.some.inj hcall)
    obtain ⟨rfl, _⟩ := Prod.mk.inj hanswer
    refine iff_of_true (Or.inl rfl) ?_
    rcases hlisted with hzero | hlong
    · exact Or.inl hzero
    · exact Or.inr (Or.inl hlong)
  · rw [if_neg hlisted] at hcall
    rw [not_or] at hlisted
    obtain ⟨built, hbuilt, hconclude⟩ := Option.map_eq_some_iff.mp hcall
    obtain rfl := Option.some.inj hbuilt
    have hstatus : (conclude state env (createChannelBatch ext state.db env request)).2.1 =
        status := by rw [hconclude]
    by_cases hlong : kMaxChannelMembers <
        (initialMembers request.principal request.members).length
    · rw [h.batch_refused hlong] at hstatus
      refine iff_of_true (Or.inr hstatus.symm) (Or.inr (Or.inr ?_))
      rwa [← length_initialMembers]
    · have herrors := @OtherwiseValid.batch_errors ext _ _ _ h (Nat.not_lt.mp hlong)
      refine iff_of_false ?_ ?_
      · cases hbatch : createChannelBatch ext state.db env request with
        | error exit =>
            rw [hbatch] at hstatus
            rw [← hstatus]
            exact herrors exit hbatch
        | ok found =>
            rw [hbatch] at hstatus
            have hcommit : (commitBatch state found.1 env.commit).2 = status := hstatus
            rw [← hcommit]
            cases env.commit with
            | written => rintro (hrefuses | hrefuses) <;> cases hrefuses
            | failed applied reported =>
                rw [commitBatch_failed]
                exact storageErrors_accept.rocks _ _
      · rintro (hzero | hmany | hset)
        · exact hlisted.1 hzero
        · exact hlisted.2 hmany
        · rw [← length_initialMembers] at hset
          exact hlong hset

/-- How a call on its own ends: refused with nothing changed, with nothing to remove, or with a
permitted effect. -/
inductive CallEnds (ext : Externals) (config : Config) (state : CoreState) (store : Store)
    (env : CallEnv) (tsMs : UInt64) (operation : Mutation) (after : CoreState) (status : Status)
    (data : ResponseData) : Prop
  | refused : status.isOk = false → after.db = state.db →
      CallEnds ext config state store env tsMs operation after status data
  | nothing {removed : MemberRequest} : operation = .removeMember removed → status.isOk = true →
      after.db = state.db → data = .empty →
      CallEnds ext config state store env tsMs operation after status data
  | applied {batch : WriteBatch} {effect : Effect} {answer : ResponseData} :
      ensureAvailable state.fatalError = .ok () → operation.entry = .ok () →
      operation.batch ext config state.db env tsMs = some (.ok (batch, answer)) →
      BatchSpec ext state.db store operation batch answer effect →
      after.db = state.db.write batch → (data = if status.isOk then answer else .empty) →
      CallEnds ext config state store env tsMs operation after status data

theorem Mutation.call_ends (hdb : Represents ext state.db store) (hvalid : store.Valid ext)
    {config : Config} {tsMs : UInt64} {operation : Mutation} {after : CoreState} {status : Status}
    {data : ResponseData}
    (h : operation.call ext config state env tsMs = some (after, status, data)) :
    CallEnds ext config state store env tsMs operation after status data := by
  unfold Mutation.call at h
  split at h
  · rename_i hunavailable
    obtain ⟨rfl, hanswer⟩ := Prod.mk.inj (Option.some.inj h)
    obtain ⟨rfl, _⟩ := Prod.mk.inj hanswer
    exact .refused (refuses_checks.ensureAvailable _ _ hunavailable) rfl
  · rename_i hentry
    obtain ⟨rfl, hanswer⟩ := Prod.mk.inj (Option.some.inj h)
    obtain ⟨rfl, _⟩ := Prod.mk.inj hanswer
    exact .refused (refuses_checks.mutationEntry _ _ hentry) rfl
  · rename_i havailable hentry
    obtain ⟨built, hbuilt, hconclude⟩ := Option.map_eq_some_iff.mp h
    obtain ⟨rfl, hanswer⟩ := Prod.mk.inj hconclude
    obtain ⟨rfl, rfl⟩ := Prod.mk.inj hanswer
    have hdb' := conclude_db state env built
    cases built with
    | error exit =>
        rcases (reported_refuses ext state.db env.faults).mutationBatch hbuilt exit rfl with
          hrefuses | ⟨request, hoperation, hnothing⟩
        · exact .refused hrefuses hdb'
        · have hok : exit.status.isOk = true := by rw [hnothing.status]; rfl
          exact .nothing hoperation hok hdb' rfl
    | ok found =>
        obtain ⟨effect, hspec⟩ := Mutation.batch_ok hdb hvalid hentry hbuilt
        cases happlies : env.commit.applies with
        | true =>
            exact .applied havailable hentry hbuilt hspec (hdb'.trans (if_pos happlies)) rfl
        | false =>
            refine .refused ?_ ?_
            · show (commitBatch state found.1 env.commit).2.isOk = false
              by_contra hok
              rw [Bool.not_eq_false] at hok
              rw [commitBatch_applies hok] at happlies
              cases happlies
            · exact hdb'.trans (if_neg (by rw [happlies]; exact Bool.false_ne_true))

/-- A channel that `CreateChannel` reports is stored, with the creator and the listed members. -/
theorem createChannel_stored (hdb : Represents ext state.db store) (hvalid : store.Valid ext)
    {config : Config} {tsMs : UInt64} {after : CoreState} {status : Status} {data : ResponseData}
    (hcall : (Mutation.createChannel request).call ext config state env tsMs =
      some (after, status, data)) (hok : status.isOk = true) :
    ∃ channel, data = .channel channel ∧
      after.db.channel ext channel.channelId = some channel ∧ channel.members.Nodup ∧
      channel.members.toFinset = insert request.principal request.members.toFinset := by
  cases Mutation.call_ends hdb hvalid hcall with
  | refused hrefused _ =>
      rw [hok] at hrefused
      cases hrefused
  | nothing hoperation _ _ _ => cases hoperation
  | applied _ _ _ hspec hwritten hdata =>
      obtain ⟨hperforms, _, hstored⟩ := hspec
      cases hperforms
      rw [hok] at hdata
      refine ⟨_, hdata, ?_, nodup_initialMembers _ _, initialMembers_toFinset _ _⟩
      rw [hwritten, hstored.channel_eq]
      exact Function.update_self _ _ _

/-- Nothing outside the request stands in the way: no failed read or write, records that can be
serialized, and counters that are not at their end. -/
structure NothingFails (ext : Externals) (db : Db) (env : CallEnv) (request : CreateChannelRequest) :
    Prop where
  faults : env.faults = {}
  commit : env.commit = .written
  channel : (ext.channelInfo.serializeToString
    (request.channel (db.counter kNextChannelIdKey))).isSome
  message : (ext.eventMessage.serializeToString (announcement (db.counter kMaxSeqKey)
    (db.counter kNextUuidKey) (db.counter kNextChannelIdKey)
    (channelInitializedPayload (request.channel (db.counter kNextChannelIdKey))) env.nowMs)).isSome
  maxSeq : db.counter kMaxSeqKey + 1 ≠ 0
  nextUuid : db.counter kNextUuidKey + 1 ≠ 0

theorem OtherwiseValid.accepted (h : OtherwiseValid state env.faults request)
    (hdb : Represents ext state.db store) (huuid : store.nextUuid ≠ 0)
    (hgood : ¬ BadMembers request) (hclear : NothingFails ext state.db env request)
    (config : Config) (tsMs : UInt64) :
    ∃ after data, (Mutation.createChannel request).call ext config state env tsMs =
      some (after, .ok, data) := by
  obtain ⟨hfaults, hcommit, hchannel, hmessage, hmaxSeq, hnextUuid⟩ := hclear
  rw [hdb.counter_nextChannelId] at hchannel
  rw [hdb.counter_maxSeq, hdb.counter_nextUuid, hdb.counter_nextChannelId] at hmessage
  rw [hdb.counter_maxSeq] at hmaxSeq
  rw [hdb.counter_nextUuid] at hnextUuid
  obtain ⟨channelRecord, hchannelRecord⟩ := Option.isSome_iff_exists.mp hchannel
  obtain ⟨record, hrecord⟩ := Option.isSome_iff_exists.mp hmessage
  have hentry : createChannelEntry request = .ok () := by
    rw [h.entry]
    exact if_neg (fun hbad => hgood (hbad.imp_right Or.inl))
  have hfits : ¬ kMaxChannelMembers < (initialMembers request.principal request.members).length := by
    rw [length_initialMembers]
    exact fun hlong => hgood (Or.inr (Or.inr hlong))
  have hchannelId := (@Represents.reads_getNextChannelId ext _ _ {} hdb).eq_ok
  have hlast := (@Represents.reads_getMaxSeq ext _ _ {} hdb).eq_ok
  have hnext := (@Represents.reads_getNextUuid ext _ _ {} hdb).eq_ok
  obtain ⟨changed, hchanged⟩ : ∃ changed, buildChannelMutationBatch ext state.db env
      (request.channel store.nextChannelId)
      (channelInitializedPayload (request.channel store.nextChannelId)) = .ok changed := by
    unfold buildChannelMutationBatch
    rw [hfaults, hlast, hnext]
    simp only [ok_bind, UnifiedStorage.putChannel, hchannelRecord]
    have hmessageRecord := hrecord
    unfold announcement at hmessageRecord
    simp only [UnifiedStorage.putMessage, CreateChannelRequest.channel] at hmessageRecord ⊢
    simp only [hmessageRecord, ok_bind, UnifiedStorage.putUsedUuid, huuid, hmaxSeq, or_self,
      if_false, UnifiedStorage.setMaxSeq, UnifiedStorage.setNextUuid, hnextUuid]
    exact ⟨_, rfl⟩
  obtain ⟨batch, data, hbatch⟩ :
      ∃ batch data, createChannelBatch ext state.db env request = .ok (batch, data) := by
    unfold createChannelBatch
    rw [h.snapshot]
    simp only [plain, ok_bind, h.authenticated]
    rw [if_neg hfits, hfaults, hchannelId]
    unfold CreateChannelRequest.channel at hchanged
    simp only [ok_bind, hchanged]
    exact ⟨_, _, rfl⟩
  refine ⟨(commitBatch state batch .written).1, data, ?_⟩
  unfold Mutation.call
  rw [h.available, Mutation.entry, hentry, Mutation.batch, hbatch]
  simp only [ensureAvailable, Option.map_some, conclude, hcommit]
  rfl

end Decision

/-- In every state that runs reach, the members of a stored channel are a set within the limit that
contains its creator; whatever happens later, nothing but the members of a channel changes and they
stay such a set. `AddMember` adds one occurrence, `RemoveMember` leaves none, and `CreateChannel`
refuses exactly the members that are no such set. -/
theorem member_lists_stay_sets (ext : Externals) {server : Server} (h : Reachable ext server) :
    (∀ channelId channel, server.db.channel ext channelId = some channel → channel.MemberSet) ∧
    (∀ labels later, Run (Server.Step ext) server labels later → ∀ channelId channel,
      server.db.channel ext channelId = some channel → ∃ channel',
        later.db.channel ext channelId = some channel' ∧ channel'.SameBut channel ∧
          channel'.MemberSet) ∧
    (∀ action request applied status data next, Server.Step ext server
        (action, .mutation (.addMember request) applied status data) next → status.isOk = true →
      MemberAdded ext server.db next.db request.channelId request.targetPrincipal) ∧
    (∀ action request applied status data next, Server.Step ext server
        (action, .mutation (.removeMember request) applied status data) next → status.isOk = true →
      MemberRemoved ext server.db next.db request.channelId request.targetPrincipal) ∧
    (∀ core, server.mode = .running core → ∀ request env tsMs,
      OtherwiseValid (core.coreState server.db) env.faults request →
      (∀ after status data, (Mutation.createChannel request).call ext core.config
          (core.coreState server.db) env tsMs = some (after, status, data) →
        (status.RefusesMembers ↔ BadMembers request) ∧
        (status.isOk = true → ∃ channel, data = .channel channel ∧
          after.db.channel ext channel.channelId = some channel ∧ channel.members.Nodup ∧
          channel.members.toFinset = insert request.principal request.members.toFinset)) ∧
      (¬ BadMembers request → NothingFails ext server.db env request → ∃ after data,
        (Mutation.createChannel request).call ext core.config (core.coreState server.db) env tsMs =
          some (after, .ok, data))) := by
  refine ⟨fun _ _ hchannel => h.memberSet hchannel, ?_,
    fun _ _ _ _ _ _ hstep hok => h.memberAdded hstep hok,
    fun _ _ _ _ _ _ hstep hok => h.memberRemoved hstep hok, ?_⟩
  · intro labels later hrun channelId channel hchannel
    obtain ⟨channel', hchannel', hsame⟩ := h.channel_kept hrun hchannel
    have hlater : Reachable ext later := by
      obtain ⟨eventMs, earlier, hreached⟩ := h
      exact ⟨eventMs, _, hreached.append hrun⟩
    exact ⟨channel', hchannel', hsame, hlater.memberSet hchannel'⟩
  · intro core _ request env tsMs hvalid
    obtain ⟨store, log, hsound⟩ := h.sound
    have hdb : Represents ext (core.coreState server.db).db store := hsound.represents
    refine ⟨?_, ?_⟩
    · intro after status data hcall
      exact ⟨hvalid.refused_iff hcall,
        createChannel_stored hdb hsound.coherent.valid hcall⟩
    · intro hgood hclear
      exact hvalid.accepted hdb hsound.coherent.nextUuid_ne hgood hclear core.config tsMs

/-- The channel of the session is stored. -/
private theorem session_channel_found :
    (Reference.sessionServer.db.channel Reference.externals 1).isSome = true := by
  decide +kernel

/-- The members of the session's channel are a set with its creator. -/
theorem session_members_are_a_set :
    ∃ channel, Reference.sessionServer.db.channel Reference.externals 1 = some channel ∧
      channel.MemberSet := by
  obtain ⟨channel, hchannel⟩ := Option.isSome_iff_exists.mp session_channel_found
  exact ⟨channel, hchannel,
    (member_lists_stay_sets Reference.externals Reference.session_reachable).1 1 channel hchannel⟩

end OpenEvent
