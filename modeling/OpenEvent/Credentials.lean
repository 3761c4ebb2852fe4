import OpenEvent.Reachable

/-!
Credentials and channel rights over the batches of the server: which batches
change them, and what a DeleteToken or RemoveMember that is answered OK leaves.
-/

namespace OpenEvent

open OpenEventCore

/-! ### Credentials -/

/-- An effect on a credential: issued, deleted or left alone. -/
def Effect.setsToken (principal : UInt64) (token : Bytes) : Effect → Option Bool
  | .addToken other issued => if principal = other ∧ token = issued then some true else none
  | .deleteToken other deleted => if principal = other ∧ token = deleted then some false else none
  | _ => none

theorem Store.apply_tokens (store : Store) (effect : Effect) (principal : UInt64)
    (token : Bytes) :
    (store.apply effect).tokens principal token =
      (effect.setsToken principal token).getD (store.tokens principal token) := by
  cases effect with
  | addToken other issued =>
      simp only [Store.apply, Store.setToken_tokens, Effect.setsToken]
      split <;> rfl
  | deleteToken other deleted =>
      simp only [Store.apply, Store.setToken_tokens, Effect.setsToken]
      split <;> rfl
  | discardObjects objectIds =>
      rw [store.discard_frame]
      rfl
  | _ => rfl

/-- A batch of `AddToken` for the principal. -/
def Event.addsToken (principal : UInt64) : Event → Bool
  | .mutation (.addToken request) _ _ _ => request.principal = principal
  | _ => false

variable {ext : Externals} {server next : Server} {store : Store} {log : List EventMessage}
variable {event : Event} {effect : Effect} {principal channelId : UInt64} {token : Bytes}

/-- Only `AddToken` for the principal makes a credential of his valid. -/
theorem Applies.token_absent (h : Applies store event effect)
    (habsent : store.tokens principal token = false) (hadds : event.addsToken principal = false) :
    (store.apply effect).tokens principal token = false := by
  rw [store.apply_tokens]
  cases h with
  | mutation hperforms =>
      cases hperforms with
      | @addToken request issued =>
          have hother : ¬ (principal = request.principal ∧ token = issued) := by
            rintro ⟨rfl, _⟩
            simp [Event.addsToken] at hadds
          simpa [Effect.setsToken, hother] using habsent
      | deleteToken =>
          simp only [Effect.setsToken]
          split
          · rfl
          · exact habsent
      | _ => exact habsent
  | _ => exact habsent

/-! ### Channel rights -/

/-- A batch of `AddMember` that takes the principal into the channel. -/
def Event.addsMember (channelId principal : UInt64) : Event → Bool
  | .mutation (.addMember request) _ _ _ =>
      request.channelId = channelId && request.targetPrincipal = principal
  | _ => false

theorem canRead_eq_false {channel : ChannelInfo} :
    canRead channel principal = false ↔
      channel.channelId ≠ 0 ∧ channel.visibility ≠ .visibilityPublic ∧
        channel.visibility ≠ .visibilityProtected ∧ principal ∉ channel.members := by
  unfold canRead isMember
  split
  · simp_all
  · split
    · rename_i hvisible
      rcases hvisible with hvisible | hvisible <;> simp [hvisible]
    · rename_i hne hhidden
      rw [not_or] at hhidden
      simp [hne, hhidden.1, hhidden.2]

/-- Only `AddMember` opens a channel to a principal who could not read it. -/
theorem Applies.excluded (h : Applies store event effect) (hcoherent : Coherent ext store log)
    {channel : ChannelInfo}
    (hchannel : store.channels channelId = some channel)
    (hexcluded : canRead channel principal = false)
    (hadds : event.addsMember channelId principal = false) :
    ∃ channel', (store.apply effect).channels channelId = some channel' ∧
      canRead channel' principal = false := by
  have hid := (hcoherent.valid.channel _ _ hchannel).1
  have hkept (hsame : (store.apply effect).channels channelId = store.channels channelId) :
      ∃ channel', (store.apply effect).channels channelId = some channel' ∧
        canRead channel' principal = false :=
    ⟨channel, hsame.trans hchannel, hexcluded⟩
  cases h with
  | mutation hperforms =>
      cases hperforms with
      | @createChannel request _ _ =>
          apply hkept
          have hlt := ((hcoherent.channelIndex.channels_iff channelId).mp (by simp [hchannel])).2
          have hne : channelId ≠ store.nextChannelId := by
            rintro rfl
            exact UInt64.lt_irrefl _ hlt
          exact Function.update_of_ne hne _ _
      | @addMember request found _ _ hfound _ =>
          have hfoundId := (hcoherent.valid.channel _ _ hfound).1
          by_cases heq : channelId = found.channelId
          · obtain rfl : channelId = request.channelId := heq.trans hfoundId
            obtain rfl : found = channel := Option.some.inj (hfound.symm.trans hchannel)
            refine ⟨{ found with members := found.members ++ [request.targetPrincipal] }, ?_, ?_⟩
            · rw [heq]
              exact Function.update_self _ _ _
            · obtain ⟨hne, hpublic, hprotected, hmember⟩ := canRead_eq_false.mp hexcluded
              refine canRead_eq_false.mpr ⟨hne, hpublic, hprotected, ?_⟩
              have htarget : principal ≠ request.targetPrincipal := by
                rintro rfl
                simp [Event.addsMember] at hadds
              simp [hmember, htarget]
          · exact hkept (Function.update_of_ne heq _ _)
      | @removeMember request found _ _ hfound _ =>
          have hfoundId := (hcoherent.valid.channel _ _ hfound).1
          by_cases heq : channelId = found.channelId
          · obtain rfl : channelId = request.channelId := heq.trans hfoundId
            obtain rfl : found = channel := Option.some.inj (hfound.symm.trans hchannel)
            refine ⟨{ found with members := found.members.erase request.targetPrincipal }, ?_, ?_⟩
            · rw [heq]
              exact Function.update_self _ _ _
            · obtain ⟨hne, hpublic, hprotected, hmember⟩ := canRead_eq_false.mp hexcluded
              exact canRead_eq_false.mpr ⟨hne, hpublic, hprotected,
                fun herased => hmember (List.mem_of_mem_erase herased)⟩
          · exact hkept (Function.update_of_ne heq _ _)
      | _ => exact hkept rfl
  | deletePreparing =>
      apply hkept
      rw [store.discard_frame]
  | recovery =>
      apply hkept
      rw [store.discard_frame]
  | _ => exact hkept rfl

/-! ### Members are listed once -/

/-- A property of new channels that changes of members keep is kept by every permitted effect. -/
theorem Permitted.channels_keep {Q : ChannelInfo → Prop} (hpermitted : Permitted store effect)
    (hnew : ∀ channel, NewChannel store channel → Q channel)
    (hchange : ∀ before channel payload, MemberChange before channel payload → Q before →
      Q channel)
    (h : ∀ channelId channel, store.channels channelId = some channel → Q channel) :
    ∀ channelId channel, (store.apply effect).channels channelId = some channel → Q channel := by
  intro channelId channel hchannel
  have hput {changed : ChannelInfo} (hchanged : Q changed)
      (hfound : Function.update store.channels changed.channelId (some changed) channelId =
        some channel) : Q channel := by
    by_cases heq : channelId = changed.channelId
    · subst heq
      obtain rfl : changed = channel := by simpa using hfound
      exact hchanged
    · exact h channelId channel (by simpa [heq] using hfound)
  cases hpermitted with
  | createChannel hcreated _ _ => exact hput (hnew _ hcreated) hchannel
  | changeMembers hbefore hchanged _ =>
      exact hput (hchange _ _ _ hchanged (h _ _ hbefore)) hchannel
  | discardObjects =>
      rw [store.discard_frame] at hchannel
      exact h channelId channel hchannel
  | _ => exact h channelId channel hchannel

/-- No channel lists a member twice. -/
def Store.MembersDistinct (store : Store) : Prop :=
  ∀ channelId channel, store.channels channelId = some channel → channel.members.Nodup

theorem Store.MembersDistinct.apply (h : store.MembersDistinct) (hpermitted : Permitted store effect) :
    (store.apply effect).MembersDistinct := by
  refine hpermitted.channels_keep (fun channel hnew => hnew.members_nodup) ?_ h
  intro before channel payload hchange hnodup
  cases hchange with
  | added _ hnew =>
      rw [← List.concat_eq_append]
      exact hnodup.concat hnew
  | removed _ _ _ => exact hnodup.erase _

theorem Reachable.membersDistinct (h : Reachable ext server) :
    ∃ store log, Sound ext server store log ∧ store.MembersDistinct := by
  obtain ⟨eventMs, labels, hrun⟩ := h
  refine (initial_sound ext eventMs).run (P := fun store _ => store.MembersDistinct) nofun hrun ?_
  intro store log effect _ hpermitted hdistinct
  exact hdistinct.apply hpermitted

end OpenEvent
