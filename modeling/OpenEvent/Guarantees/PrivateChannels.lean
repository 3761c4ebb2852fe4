import OpenEvent.Reference
import OpenEvent.Refinement.HiddenChannels

/-!
Private channels do not leak through reads: whatever a principal who is not a
member asks for, the answer does not depend on what the channel holds.
-/

namespace OpenEvent

open OpenEventCore Fallible

section Reads

variable {ext : Externals} {config : Config} {fatalError : Option Status} {faults : ReadFaults}
variable {principal : UInt64} {left right : Db}

/-- A read that takes its snapshot first depends on what it does with it. -/
theorem snapshot_eq {α : Type} {next : Db → Result α} (h : next left = next right) :
    (UnifiedStorage.createSnapshot left faults >>= next) =
      (UnifiedStorage.createSnapshot right faults >>= next) := by
  unfold UnifiedStorage.createSnapshot
  split
  · rfl
  · exact h

theorem AgreeOutsideHidden.subscriptionBatch_eq (h : AgreeOutsideHidden ext principal left right)
    (token : Bytes) (fromSeq : UInt64) (limit : UInt32) (onlyMyRecipient : Bool)
    (channels : List UInt64) :
    subscriptionBatch ext config left faults principal token fromSeq limit onlyMyRecipient channels =
      subscriptionBatch ext config right faults principal token fromSeq limit onlyMyRecipient
        channels := by
  unfold subscriptionBatch
  rw [← h.authenticate_eq, ← h.validate_eq]
  cases authenticate left faults principal token with
  | error status => rfl
  | ok _ =>
      cases hvalidated : validateReadableChannels ext left faults principal channels with
      | error status => rfl
      | ok _ =>
          have hreadable := validateReadableChannels_ok hvalidated
          exact h.fetchVisible_eq faults config fromSeq limit onlyMyRecipient hreadable

theorem AgreeOutsideHidden.fetch_eq (h : AgreeOutsideHidden ext principal left right)
    (token : Bytes) (fromSeq : UInt64) (limit : UInt32) (onlyMyRecipient : Bool)
    (channels : List UInt64) :
    fetch ext config fatalError left faults
        ⟨principal, token, fromSeq, limit, onlyMyRecipient, channels⟩ =
      fetch ext config fatalError right faults
        ⟨principal, token, fromSeq, limit, onlyMyRecipient, channels⟩ := by
  unfold fetch
  congr 1
  funext _
  congr 1
  funext _
  exact snapshot_eq (h.subscriptionBatch_eq token fromSeq limit onlyMyRecipient channels)

theorem AgreeOutsideHidden.getChannel_eq (h : AgreeOutsideHidden ext principal left right)
    (token : Bytes) (channelId : UInt64) :
    getChannel ext fatalError left faults ⟨principal, token, channelId⟩ =
      getChannel ext fatalError right faults ⟨principal, token, channelId⟩ := by
  unfold getChannel
  congr 1
  funext _
  apply snapshot_eq
  rw [← h.authenticate_eq]
  congr 1
  funext _
  have hloads := h.loads faults channelId
  revert hloads
  generalize loadChannel ext left faults channelId = loaded
  generalize loadChannel ext right faults channelId = otherLoaded
  rintro (_ | ⟨hcan, hcannot⟩)
  · rfl
  · simp only [ok_bind, hcan, hcannot, Bool.false_eq_true, if_false]

theorem AgreeOutsideHidden.listed_eq (h : AgreeOutsideHidden ext principal left right)
    (hmax : left.metadata.get (Bytes.ofString kMaxSeqKey) ≠ none) (token : Bytes)
    (filter : ChannelFilter) :
    listChannels ext fatalError left faults ⟨principal, token, filter⟩ =
      listChannels ext fatalError right faults ⟨principal, token, filter⟩ := by
  have hlisted : ∀ channel, canRead channel principal = false →
      listed ⟨principal, token, filter⟩ channel = false := by
    intro channel hcan
    rw [listed, hcan, Bool.false_and, Bool.false_and]
  have hchannels := h.listChannels_eq hmax faults hlisted
  unfold listChannels
  congr 1
  funext _
  congr 1
  funext _
  apply snapshot_eq
  rw [← h.authenticate_eq]
  congr 1
  funext _
  revert hchannels
  generalize UnifiedStorage.listChannels ext left faults = found
  generalize UnifiedStorage.listChannels ext right faults = otherFound
  intro hchannels
  cases found with
  | error status =>
      cases otherFound with
      | error other =>
          have hstatus : status = other := Except.error.inj hchannels
          rw [hstatus]
      | ok channels => cases hchannels
  | ok channels =>
      cases otherFound with
      | error status => cases hchannels
      | ok others =>
          have hfilter : channels.filter (listed ⟨principal, token, filter⟩) =
              others.filter (listed ⟨principal, token, filter⟩) := Except.ok.inj hchannels
          simp only [ok_bind, hfilter]

theorem AgreeOutsideHidden.getStatus_eq (h : AgreeOutsideHidden ext principal left right)
    (token : Bytes) :
    getStatus fatalError left faults principal token =
      getStatus fatalError right faults principal token := by
  unfold getStatus
  congr 1
  funext _
  apply snapshot_eq
  rw [← h.authenticate_eq, ← h.getMaxSeq_eq]

end Reads

/-- On two databases that agree outside the private channels of which the
principal is not a member, every read of that principal has the same outcome:
the same status, or the same response. -/
theorem private_channels_do_not_leak (ext : Externals) (config : Config)
    (fatalError : Option Status) (faults : ReadFaults) (principal : UInt64) (left right : Db)
    (hagree : AgreeOutsideHidden ext principal left right)
    (hmax : left.metadata.get (Bytes.ofString kMaxSeqKey) ≠ none) :
    (∀ token fromSeq limit onlyMyRecipient channels,
      fetch ext config fatalError left faults
          ⟨principal, token, fromSeq, limit, onlyMyRecipient, channels⟩ =
        fetch ext config fatalError right faults
          ⟨principal, token, fromSeq, limit, onlyMyRecipient, channels⟩) ∧
      (∀ token fromSeq limit onlyMyRecipient channels,
        subscriptionBatch ext config left faults principal token fromSeq limit onlyMyRecipient
            channels =
          subscriptionBatch ext config right faults principal token fromSeq limit onlyMyRecipient
            channels) ∧
      (∀ token channelId,
        getChannel ext fatalError left faults ⟨principal, token, channelId⟩ =
          getChannel ext fatalError right faults ⟨principal, token, channelId⟩) ∧
      (∀ token filter,
        listChannels ext fatalError left faults ⟨principal, token, filter⟩ =
          listChannels ext fatalError right faults ⟨principal, token, filter⟩) ∧
      ∀ token, getStatus fatalError left faults principal token =
        getStatus fatalError right faults principal token :=
  ⟨hagree.fetch_eq, hagree.subscriptionBatch_eq, hagree.getChannel_eq, hagree.listed_eq hmax,
    hagree.getStatus_eq⟩

namespace Reference

/-- Principals 7 and 9 get credentials; 7 opens a private channel with principal
8 and publishes to it. -/
def privateSession (name : String) (payload : Bytes) : List Action :=
  [.openStore config {},
   .enterMutation 0 (.addToken ⟨7⟩) 10,
   .runMutation 0 { random := [.filled (List.replicate 16 7)] },
   .enterMutation 0 (.addToken ⟨9⟩) 11,
   .runMutation 0 { random := [.filled (List.replicate 16 7)] },
   .enterMutation 0 (.allocateUuids ⟨2⟩) 12,
   .runMutation 0 {},
   .enterMutation 0 (.createChannel ⟨7, credential, name, .visibilityPrivate, "p", "d", [8]⟩) 13,
   .runMutation 0 { nowMs := 13 },
   .enterMutation 0 (.publish ⟨7, credential, 1, 2, 1, [8], payload, []⟩) 14,
   .runMutation 0 {}]

theorem alarms_executes : (execute (Server.stepNoWrap externals) (Server.initial externals 5)
    (privateSession "alarms" [1, 2])).isSome = true := by
  decide +kernel

theorem salaries_executes : (execute (Server.stepNoWrap externals) (Server.initial externals 5)
    (privateSession "salaries" [9])).isSome = true := by
  decide +kernel

def alarmsDb : Db := (Option.get _ alarms_executes).2.db

def salariesDb : Db := (Option.get _ salaries_executes).2.db

/-- The value of the second session under a key. -/
def salariesValue (family : ColumnFamily) (key : Bytes) : Bytes :=
  ((salariesDb.family family).get key).getD []

/-- Whether channel 1 is private and principal 9 is not a member of it. -/
def hidesChannel (db : Db) : Bool :=
  match loadChannel externals db {} 1 with
  | .ok (some channel) =>
      decide (channel.visibility = .visibilityPrivate) && !channel.members.contains 9
  | _ => false

theorem hidden_of_hidesChannel {db : Db} (h : hidesChannel db = true) :
    HiddenChannel externals db 9 1 := by
  unfold hidesChannel at h
  split at h
  · rename_i channel hload
    obtain ⟨hprivate, hmember⟩ := (Bool.and_eq_true _ _).mp h
    exact ⟨channel, hload, of_decide_eq_true hprivate, by simpa using hmember⟩
  · cases h

/-- The sessions differ in the record of channel 1 and in the messages 1 and 2. -/
theorem sessions_differ :
    salariesDb.metadata.entries = (alarmsDb.metadata.put (numericKey kChannelPrefix 1)
        (salariesValue .metadata (numericKey kChannelPrefix 1))).entries ∧
      salariesDb.messages.entries = ((alarmsDb.messages.put (numericKey kMessagePrefix 1)
        (salariesValue .messages (numericKey kMessagePrefix 1))).put (numericKey kMessagePrefix 2)
          (salariesValue .messages (numericKey kMessagePrefix 2))).entries ∧
      alarmsDb.objects.entries = salariesDb.objects.entries ∧
      (hidesChannel alarmsDb = true ∧ hidesChannel salariesDb = true) ∧
      [(1 : UInt64), 2].all (fun seq =>
        (alarmsDb.scannedMessage externals seq).map (·.channelId) = some 1 ∧
          (salariesDb.scannedMessage externals seq).map (·.channelId) = some 1) = true ∧
      (alarmsDb.metadata.get (Bytes.ofString kMaxSeqKey)).isSome = true ∧
      alarmsDb.messages.get (numericKey kMessagePrefix 2) ≠
        salariesDb.messages.get (numericKey kMessagePrefix 2) := by
  decide +kernel

theorem sessions_agree : AgreeOutsideHidden externals 9 alarmsDb salariesDb := by
  obtain ⟨hmetadata, hmessages, hobjects, ⟨halarms, hsalaries⟩, hids, _⟩ := sessions_differ
  have halarms := hidden_of_hidesChannel halarms
  have hsalaries := hidden_of_hidesChannel hsalaries
  have hmessage (seq : UInt64) (hseq : seq ∈ [(1 : UInt64), 2]) :
      ∃ (found : UInt64) (message other : EventMessage),
        numericKey kMessagePrefix seq = numericKey kMessagePrefix found ∧
        alarmsDb.scannedMessage externals found = some message ∧
        salariesDb.scannedMessage externals found = some other ∧
        message.channelId = other.channelId ∧
        HiddenChannel externals alarmsDb 9 message.channelId ∧
        HiddenChannel externals salariesDb 9 other.channelId := by
    obtain ⟨hleft, hright⟩ := of_decide_eq_true (List.all_eq_true.mp hids seq hseq)
    obtain ⟨message, hmessage, hid⟩ := Option.map_eq_some_iff.mp hleft
    obtain ⟨other, hother, hotherId⟩ := Option.map_eq_some_iff.mp hright
    exact ⟨seq, message, other, rfl, hmessage, hother, hid.trans hotherId.symm,
      hid.symm ▸ halarms, hotherId.symm ▸ hsalaries⟩
  have hmetadata := SortedMap.eq_of_entries hmetadata
  have hmessages := SortedMap.eq_of_entries hmessages
  refine ⟨?_, ?_, ?_, SortedMap.eq_of_entries hobjects⟩
  · intro key _ hchannel
    rw [hmetadata, SortedMap.get_put_of_ne _ _ (hchannel 1)]
  · intro channelId
    by_cases hone : channelId = 1
    · subst hone
      exact Or.inr ⟨halarms, hsalaries⟩
    · have hkey : numericKey kChannelPrefix channelId ≠ numericKey kChannelPrefix 1 :=
        fun heq => hone (numericKey_injective _ heq)
      rw [hmetadata, SortedMap.get_put_of_ne _ _ hkey]
      exact Or.inl rfl
  · intro key
    by_cases hone : key = numericKey kMessagePrefix 1
    · subst hone
      exact Or.inr (hmessage 1 List.mem_cons_self)
    · by_cases htwo : key = numericKey kMessagePrefix 2
      · subst htwo
        exact Or.inr (hmessage 2 (List.mem_cons_of_mem _ List.mem_cons_self))
      · rw [hmessages, SortedMap.get_put_of_ne _ _ htwo, SortedMap.get_put_of_ne _ _ hone]
        exact Or.inl rfl

end Reference

/-- Principal 9 reads the same from both sessions, although they differ. -/
theorem sessions_do_not_leak :
    Reference.alarmsDb.messages.get (numericKey kMessagePrefix 2) ≠
        Reference.salariesDb.messages.get (numericKey kMessagePrefix 2) ∧
      fetch Reference.externals Reference.config none Reference.alarmsDb {}
          ⟨9, Reference.credential, 0, 10, false, []⟩ =
        fetch Reference.externals Reference.config none Reference.salariesDb {}
          ⟨9, Reference.credential, 0, 10, false, []⟩ := by
  obtain ⟨_, _, _, _, _, hmax, hdiffer⟩ := Reference.sessions_differ
  have hreads := private_channels_do_not_leak Reference.externals Reference.config none {} 9
    Reference.alarmsDb Reference.salariesDb Reference.sessions_agree
    (Option.isSome_iff_ne_none.mp hmax)
  exact ⟨hdiffer, hreads.1 Reference.credential 0 10 false []⟩

end OpenEvent
