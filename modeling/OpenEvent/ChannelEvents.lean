import OpenEvent.Core.Checks

/-!
Channel state as a fold over the message log: the events that the payloads of
system messages state, read as RFC 8259 texts with exact integers, and the
channel that the system messages of one channel build up.
-/

namespace OpenEvent

open Rfc8259 (Value)

/-- A change of one channel, as the payload of a system message states it. -/
inductive ChannelEvent where
  | channelInitialized (name protocol description : String) (visibility : Visibility)
      (creator : UInt64) (members : List UInt64)
  | memberAdded (member : UInt64)
  | memberRemoved (member : UInt64)
deriving DecidableEq

def readUint64 : Value → Option UInt64
  | .number value =>
      if value.den = 1 ∧ 0 ≤ value.num ∧ value.num < 2 ^ 64 then
        some (UInt64.ofNat value.num.toNat)
      else none
  | _ => none

def readText : Value → Option String
  | .string value => String.fromUTF8? value.toByteArray
  | _ => none

def readVisibility : Value → Option Visibility
  | .string value =>
      if value = Bytes.ofString "public" then some .visibilityPublic
      else if value = Bytes.ofString "protected" then some .visibilityProtected
      else if value = Bytes.ofString "private" then some .visibilityPrivate
      else none
  | _ => none

def readMembers : Value → Option (List UInt64)
  | .array elements => elements.mapM readUint64
  | _ => none

/-- The event stated by the members of a `data` object. -/
def readChannelEvent (kind : Bytes) (data : List (Bytes × Value)) : Option ChannelEvent :=
  if kind = Bytes.ofString "system.channel_initialized" then do
    let name ← (findField data "name").bind readText
    let protocol ← (findField data "protocol").bind readText
    let description ← (findField data "description").bind readText
    let visibility ← (findField data "visibility").bind readVisibility
    let creator ← (findField data "creator").bind readUint64
    let members ← (findField data "members").bind readMembers
    pure (.channelInitialized name protocol description visibility creator members)
  else if kind = Bytes.ofString "system.member_added" then
    ((findField data "member").bind readUint64).map .memberAdded
  else if kind = Bytes.ofString "system.member_removed" then
    ((findField data "member").bind readUint64).map .memberRemoved
  else none

def decodeChannelEvent (payload : Bytes) : Option ChannelEvent :=
  match Rfc8259.decode payload with
  | some (.object fields) =>
      match findField fields "kind", findField fields "data" with
      | some (.string kind), some (.object data) => readChannelEvent kind data
      | _, _ => none
  | _ => none

/-! ### Replay -/

/-- The channel that an initialization event starts. -/
def startChannel (channelId : UInt64) : ChannelEvent → Option ChannelInfo
  | .channelInitialized name protocol description visibility creator members =>
      some { channelId, name, visibility, protocol, description, creator := some creator, members }
  | _ => none

/-- A membership event on an existing channel. An event that changes nothing,
or that starts a channel again, does not replay. -/
def changeChannel (channel : ChannelInfo) : ChannelEvent → Option ChannelInfo
  | .memberAdded member =>
      if member ∈ channel.members then none
      else some { channel with members := channel.members ++ [member] }
  | .memberRemoved member =>
      if member ∈ channel.members then
        some { channel with members := channel.members.erase member }
      else none
  | .channelInitialized .. => none

/-- One system message, replayed on the channel built so far. -/
def replayMessage (channel : ChannelInfo) (message : EventMessage) : Option ChannelInfo :=
  (decodeChannelEvent message.payload).bind (changeChannel channel)

/-- The channel that a list of system messages builds. -/
def replay (channelId : UInt64) : List EventMessage → Option ChannelInfo
  | [] => none
  | first :: rest => do
      let channel ← (decodeChannelEvent first.payload).bind (startChannel channelId)
      rest.foldlM replayMessage channel

/-- The system messages of a channel, in log order. -/
def systemMessages (channelId : UInt64) (log : List EventMessage) : List EventMessage :=
  log.filter (fun message => message.channelId = channelId ∧ message.principal = 0)

/-- The state of a channel after the messages of a log. -/
def channelAt (log : List EventMessage) (channelId : UInt64) : Option ChannelInfo :=
  replay channelId (systemMessages channelId log)

section Append

variable {channelId : UInt64} {log : List EventMessage} {message : EventMessage}

theorem replay_append {messages : List EventMessage} {channel : ChannelInfo}
    (h : replay channelId messages = some channel) :
    replay channelId (messages ++ [message]) = replayMessage channel message := by
  cases messages with
  | nil => simp [replay] at h
  | cons first rest =>
      obtain ⟨started, hstarted, hrest⟩ := Option.bind_eq_some_iff.mp h
      simp [replay, hstarted, List.foldlM_append, hrest]

/-- Business messages and messages of other channels change nothing. -/
theorem channelAt_append_of_other (h : message.channelId ≠ channelId ∨ message.principal ≠ 0) :
    channelAt (log ++ [message]) channelId = channelAt log channelId := by
  have hnot : ¬ (message.channelId = channelId ∧ message.principal = 0) := by tauto
  simp only [channelAt, systemMessages, List.filter_append, List.filter_singleton]
  simp [hnot]

theorem systemMessages_append (hchannel : message.channelId = channelId)
    (hprincipal : message.principal = 0) :
    systemMessages channelId (log ++ [message]) = systemMessages channelId log ++ [message] := by
  simp [systemMessages, List.filter_append, hchannel, hprincipal]

theorem channelAt_append_change {channel changed : ChannelInfo} {event : ChannelEvent}
    (hat : channelAt log channelId = some channel) (hchannel : message.channelId = channelId)
    (hprincipal : message.principal = 0) (hevent : decodeChannelEvent message.payload = some event)
    (hchanged : changeChannel channel event = some changed) :
    channelAt (log ++ [message]) channelId = some changed := by
  rw [channelAt, systemMessages_append hchannel hprincipal, replay_append hat, replayMessage, hevent]
  exact hchanged

theorem channelAt_append_start {channel : ChannelInfo} {event : ChannelEvent}
    (hnew : systemMessages channelId log = []) (hchannel : message.channelId = channelId)
    (hprincipal : message.principal = 0) (hevent : decodeChannelEvent message.payload = some event)
    (hstart : startChannel channelId event = some channel) :
    channelAt (log ++ [message]) channelId = some channel := by
  rw [channelAt, systemMessages_append hchannel hprincipal, hnew]
  simp [replay, hevent, hstart]

end Append

/-! ### Well-formed logs -/

/-- The messages that may follow a log: business messages that the channel
state of the moment allows, and system messages that each start a channel or
change one. -/
inductive LegalNext (log : List EventMessage) (message : EventMessage) : Prop
  | business {channel : ChannelInfo} : message.principal ≠ 0 → message.channelId ≠ 0 →
      channelAt log message.channelId = some channel →
      OpenEventCore.canWrite channel message.principal = true →
      (∀ recipient ∈ message.recipients, recipient ≠ 0 ∧ recipient ∈ channel.members) →
      LegalNext log message
  | start {event : ChannelEvent} {channel : ChannelInfo} : message.principal = 0 →
      message.channelId ≠ 0 → (∀ other ∈ log, other.channelId ≠ message.channelId) →
      decodeChannelEvent message.payload = some event →
      startChannel message.channelId event = some channel → LegalNext log message
  | change {event : ChannelEvent} {channel changed : ChannelInfo} : message.principal = 0 →
      message.channelId ≠ 0 → channelAt log message.channelId = some channel →
      decodeChannelEvent message.payload = some event →
      changeChannel channel event = some changed → LegalNext log message

/-- The logs that the server may build: the initialization message, then one
legal message after the other, each under the seq of its position. -/
inductive WellFormedLog : List EventMessage → Prop
  | initialization (tsMs : UInt64) : WellFormedLog [initializationMessage tsMs]
  | append {log : List EventMessage} {message : EventMessage} : WellFormedLog log →
      message.seq.toNat = log.length → LegalNext log message → WellFormedLog (log ++ [message])

theorem LegalNext.channelId_ne {log : List EventMessage} {message : EventMessage}
    (h : LegalNext log message) : message.channelId ≠ 0 := by
  cases h <;> assumption

theorem getElem?_append_iff {α : Type} {list : List α} {last : α} {position : Nat} {found : α} :
    (list ++ [last])[position]? = some found ↔
      list[position]? = some found ∨ position = list.length ∧ last = found := by
  rcases Nat.lt_trichotomy position list.length with hlt | rfl | hgt
  · simp [List.getElem?_append_left hlt, hlt.ne]
  · simp
  · have hlong : (list ++ [last]).length ≤ position := by simp; omega
    simp [List.getElem?_eq_none hlong, List.getElem?_eq_none (by omega : list.length ≤ position),
      hgt.ne']

namespace WellFormedLog

variable {log : List EventMessage} {position : Nat} {message : EventMessage}

theorem ne_nil (h : WellFormedLog log) : log ≠ [] := by
  cases h <;> simp

/-- Each message of the log stands at the position that its seq names. -/
theorem seq_eq (h : WellFormedLog log) (hat : log[position]? = some message) :
    message.seq.toNat = position := by
  induction h with
  | initialization tsMs =>
      obtain ⟨hlt, heq⟩ := List.getElem?_eq_some_iff.mp hat
      obtain rfl : position = 0 := by simpa using hlt
      simp [← heq, initializationMessage]
  | append _ hseq _ ih =>
      rcases getElem?_append_iff.mp hat with hold | ⟨rfl, rfl⟩
      · exact ih hold
      · exact hseq

/-- Every message but the first was legal after the messages before it. -/
theorem legal (h : WellFormedLog log) (hat : log[position]? = some message) :
    (position = 0 ∧ ∃ tsMs, message = initializationMessage tsMs) ∨
      position ≠ 0 ∧ LegalNext (log.take position) message := by
  induction h with
  | initialization tsMs =>
      obtain ⟨hlt, heq⟩ := List.getElem?_eq_some_iff.mp hat
      obtain rfl : position = 0 := by simpa using hlt
      exact Or.inl ⟨rfl, tsMs, by simpa using heq.symm⟩
  | @append log last hlog _ hlegal ih =>
      rcases getElem?_append_iff.mp hat with hold | ⟨rfl, rfl⟩
      · have hlt := (List.getElem?_eq_some_iff.mp hold).1
        rw [List.take_append_of_le_length hlt.le]
        exact ih hold
      · have hne : log.length ≠ 0 := fun hzero => hlog.ne_nil (List.length_eq_zero_iff.mp hzero)
        exact Or.inr ⟨hne, by simpa using hlegal⟩

theorem exists_of_channelAt {channelId : UInt64} {channel : ChannelInfo}
    (h : channelAt log channelId = some channel) : ∃ message ∈ log, message.channelId = channelId := by
  cases hmessages : systemMessages channelId log with
  | nil => simp [channelAt, hmessages, replay] at h
  | cons first rest =>
      have hfirst : first ∈ systemMessages channelId log := by simp [hmessages]
      obtain ⟨hmem, hcheck⟩ := List.mem_filter.mp hfirst
      exact ⟨first, hmem, (by simpa using hcheck : _ ∧ _).1⟩

/-- The first message of a channel is the event that starts it. -/
theorem first_message (h : WellFormedLog log) {channelId : UInt64} (hne : channelId ≠ 0)
    (hsome : ∃ message ∈ log, message.channelId = channelId) :
    ∃ (position : Nat) (message : EventMessage) (event : ChannelEvent) (channel : ChannelInfo),
      log[position]? = some message ∧ message.channelId = channelId ∧ message.principal = 0 ∧
      decodeChannelEvent message.payload = some event ∧
      startChannel channelId event = some channel ∧
      ∀ earlier < position, ∀ other : EventMessage,
        log[earlier]? = some other → other.channelId ≠ channelId := by
  induction h with
  | initialization tsMs =>
      obtain ⟨message, hmessage, rfl⟩ := hsome
      obtain rfl := List.mem_singleton.mp hmessage
      exact absurd rfl hne
  | @append log last hlog _ hlegal ih =>
      by_cases hbefore : ∃ message ∈ log, message.channelId = channelId
      · obtain ⟨position, message, event, channel, hat, hid, hprincipal, hevent, hstart, hfirst⟩ :=
          ih hbefore
        have hlt := (List.getElem?_eq_some_iff.mp hat).1
        refine ⟨position, message, event, channel, getElem?_append_iff.mpr (Or.inl hat), hid,
          hprincipal, hevent, hstart, ?_⟩
        intro earlier hearlier other hother
        rcases getElem?_append_iff.mp hother with hold | ⟨rfl, rfl⟩
        · exact hfirst earlier hearlier other hold
        · omega
      · have hlast : last.channelId = channelId := by
          obtain ⟨message, hmessage, hid⟩ := hsome
          rcases List.mem_append.mp hmessage with hold | hnew
          · exact absurd ⟨message, hold, hid⟩ hbefore
          · rwa [List.mem_singleton.mp hnew] at hid
        subst hlast
        -- Only a start is legal in a channel that has no message yet.
        cases hlegal with
        | business _ _ hat _ _ => exact absurd (exists_of_channelAt hat) hbefore
        | change _ _ hat _ _ => exact absurd (exists_of_channelAt hat) hbefore
        | start hprincipal _ _ hevent hstart =>
            refine ⟨log.length, last, _, _, getElem?_append_iff.mpr (Or.inr ⟨rfl, rfl⟩), rfl,
              hprincipal, hevent, hstart, ?_⟩
            intro earlier hearlier other hother hid
            rcases getElem?_append_iff.mp hother with hold | ⟨rfl, rfl⟩
            · exact hbefore ⟨other, List.mem_of_getElem? hold, hid⟩
            · omega

end WellFormedLog

end OpenEvent
