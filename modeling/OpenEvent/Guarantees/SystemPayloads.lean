import OpenEvent.PayloadTexts
import OpenEvent.Reference

/-!
The payloads of system messages are JSON texts that say exactly what the server
meant: whatever the strings of a channel contain, a reader of the text finds
its fields and no others, and two texts are equal only for equal contents.
-/

namespace OpenEvent

open Rfc8259 (Value decode)

/-- What `CreateChannel` puts in the log: a creator, members that are principals, and one of the
three visibilities. -/
structure Announceable (channel : ChannelInfo) (creator : UInt64) : Prop where
  creator_eq : channel.creator = some creator
  creator_ne : creator ≠ 0
  members_ne : channel.members ≠ []
  members_principals : 0 ∉ channel.members
  visibility_declared : ∀ number, channel.visibility ≠ .other number

/-- The kinds that `AddMember` and `RemoveMember` announce. -/
def IsMemberKind (kind : String) : Prop :=
  kind = "system.member_added" ∨ kind = "system.member_removed"

/-- The object with the two members that every system payload is. -/
def systemValue (kind : String) (data : List (Bytes × Value)) : Value :=
  .object [(Bytes.ofString "kind", .string (Bytes.ofString kind)),
    (Bytes.ofString "data", .object data)]

def channelValue (channel : ChannelInfo) (creator : UInt64) (visibility : String) : Value :=
  systemValue "system.channel_initialized"
    [(Bytes.ofString "schema_version", .number 1),
      (Bytes.ofString "name", .string (Bytes.ofString channel.name)),
      (Bytes.ofString "protocol", .string (Bytes.ofString channel.protocol)),
      (Bytes.ofString "description", .string (Bytes.ofString channel.description)),
      (Bytes.ofString "visibility", .string (Bytes.ofString visibility)),
      (Bytes.ofString "creator", .number creator.toNat),
      (Bytes.ofString "members",
        .array (channel.members.map (fun principal => .number principal.toNat)))]

def memberValue (kind : String) (principal : UInt64) : Value :=
  systemValue kind
    [(Bytes.ofString "schema_version", .number 1),
      (Bytes.ofString "member", .number principal.toNat)]

/-- The three visibilities under the names readers know them by. -/
inductive VisibilityName : Visibility → String → Prop
  | visibilityPublic : VisibilityName .visibilityPublic "public"
  | visibilityProtected : VisibilityName .visibilityProtected "protected"
  | visibilityPrivate : VisibilityName .visibilityPrivate "private"

theorem visibilityName_visibilityText {visibility : Visibility}
    (h : ∀ number, visibility ≠ .other number) :
    VisibilityName visibility (visibilityText visibility) := by
  cases visibility with
  | visibilityPublic => exact .visibilityPublic
  | visibilityProtected => exact .visibilityProtected
  | visibilityPrivate => exact .visibilityPrivate
  | other number => exact absurd rfl (h number)

private theorem decode_memberKind {kind : String} (hkind : IsMemberKind kind) (principal : UInt64) :
    decodeChannelEvent (memberChangedPayload kind principal) =
      some (if kind = "system.member_added" then .memberAdded principal
        else .memberRemoved principal) := by
  rcases hkind with rfl | rfl
  · exact decode_memberAdded principal
  · exact decode_memberRemoved principal

/-- Every system payload decodes to exactly the fields of what it announces, two payloads are equal
only when these are, and the check of stored system messages accepts each of them. -/
theorem system_payloads_round_trip (ext : Externals) :
    (∀ channel creator, Announceable channel creator →
      (∃ visibility, VisibilityName channel.visibility visibility ∧
        decode (channelInitializedPayload channel) =
          some (channelValue channel creator visibility)) ∧
      (∀ message : EventMessage, message.recipients = [] → message.objectKeys = [] →
        message.payload = channelInitializedPayload channel →
          validChannelSystemMessage ext message = true) ∧
      (∀ channel' creator', Announceable channel' creator' →
        channelInitializedPayload channel' = channelInitializedPayload channel →
          { channel' with channelId := channel.channelId } = channel) ∧
      (∀ kind principal, IsMemberKind kind → principal ≠ 0 →
        channelInitializedPayload channel ≠ memberChangedPayload kind principal)) ∧
    (∀ kind principal, IsMemberKind kind → principal ≠ 0 →
      decode (memberChangedPayload kind principal) = some (memberValue kind principal) ∧
      (∀ message : EventMessage, message.recipients = [] → message.objectKeys = [] →
        message.payload = memberChangedPayload kind principal →
          validChannelSystemMessage ext message = true) ∧
      (∀ kind' principal', IsMemberKind kind' → principal' ≠ 0 →
        memberChangedPayload kind' principal' = memberChangedPayload kind principal →
          kind' = kind ∧ principal' = principal)) := by
  constructor
  · intro channel creator hchannel
    have hevent := decode_channelInitialized channel hchannel.creator_eq hchannel.members_ne
      hchannel.visibility_declared
    refine ⟨?_, ?_, ?_, ?_⟩
    · refine ⟨_, visibilityName_visibilityText hchannel.visibility_declared, ?_⟩
      have hdecoded := decode_channelInitializedPayload channel hchannel.members_ne
      rwa [hchannel.creator_eq, Option.getD_some] at hdecoded
    · intro message hrecipients hkeys hpayload
      exact validChannelSystemMessage_initialized hrecipients hkeys hpayload hchannel.creator_eq
        hchannel.creator_ne hchannel.members_ne hchannel.members_principals
    · intro channel' creator' hchannel' hsame
      have hevent' := decode_channelInitialized channel' hchannel'.creator_eq hchannel'.members_ne
        hchannel'.visibility_declared
      rw [hsame, hevent, Option.some.injEq, ChannelEvent.channelInitialized.injEq] at hevent'
      obtain ⟨hname, hprotocol, hdescription, hvisibility, hcreator, hmembers⟩ := hevent'
      have hcreators : channel'.creator = channel.creator := by
        rw [hchannel.creator_eq, hchannel'.creator_eq, hcreator]
      cases channel
      cases channel'
      simp_all
    · intro kind principal hkind _ hsame
      rw [hsame, decode_memberKind hkind] at hevent
      split at hevent <;> simp at hevent
  · intro kind principal hkind hprincipal
    refine ⟨decode_memberChangedPayload principal hkind, ?_, ?_⟩
    · intro message hrecipients hkeys hpayload
      exact validChannelSystemMessage_memberChanged hrecipients hkeys hkind hpayload hprincipal
    · intro kind' principal' hkind' _ hsame
      have hevents := congrArg decodeChannelEvent hsame
      rw [decode_memberKind hkind', decode_memberKind hkind] at hevents
      rcases hkind with rfl | rfl <;> rcases hkind' with rfl | rfl <;> simp_all

/-- A name that tries to close its string and forge a creator stays a name. -/
theorem forged_name_stays_a_name :
    ∃ visibility, decode (channelInitializedPayload
        ⟨3, "a\",\"creator\":1,\\\x00", .visibilityPrivate, "p", "", some 7, [7, 8]⟩) =
      some (channelValue ⟨3, "a\",\"creator\":1,\\\x00", .visibilityPrivate, "p", "", some 7, [7, 8]⟩ 7
        visibility) ∧ decode (memberChangedPayload "system.member_added" 8) =
          some (memberValue "system.member_added" 8) := by
  have hchannel : Announceable
      ⟨3, "a\",\"creator\":1,\\\x00", .visibilityPrivate, "p", "", some 7, [7, 8]⟩ 7 :=
    ⟨rfl, by decide, by simp, by decide, by simp⟩
  obtain ⟨hround, hmember⟩ := system_payloads_round_trip Reference.externals
  obtain ⟨⟨visibility, _, hdecoded⟩, _⟩ := hround _ 7 hchannel
  exact ⟨visibility, hdecoded, (hmember "system.member_added" 8 (Or.inl rfl) (by decide)).1⟩

end OpenEvent
