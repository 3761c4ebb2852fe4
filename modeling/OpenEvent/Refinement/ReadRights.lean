import OpenEvent.Refinement.ScanTrace
import OpenEvent.Refinement.Scans

/-!
What a successful read says about its snapshot, whatever the snapshot holds:
the credential is stored, the channels of the request are readable, and every
message of the answer lies in a channel that is.
-/

namespace OpenEvent

open OpenEventCore Fallible

section Rights

variable {ext : Externals} {db : Db} {faults : ReadFaults} {config : Config}
variable {principal fromSeq : UInt64} {token : Bytes} {limit : UInt32} {onlyMyRecipient : Bool}
variable {channels : List UInt64}

theorem authenticate_hasCredential (h : authenticate db faults principal token = .ok ()) :
    db.HasCredential principal token := by
  unfold authenticate at h
  split at h
  · cases h
  · split at h
    · cases h
    · obtain ⟨found, hfound, h⟩ := bind_ok h
      cases found with
      | false => cases h
      | true =>
          unfold UnifiedStorage.hasToken Db.get at hfound
          split at hfound
          · cases hfound
          · cases hfound
          · rename_i hget
            split at hget
            · cases hget
            · intro hnone
              have hget := Except.ok.inj hget
              rw [Db.family, hnone] at hget
              cases hget

/-- The messages collected, and the channels noted as readable, are readable. -/
structure OnlyReadable (ext : Externals) (db : Db) (principal : UInt64) (state : ScanState) :
    Prop where
  messages : ∀ message ∈ state.messages, readable ext db principal message.channelId = true
  noted : ∀ channelId, state.readable channelId = some true →
    readable ext db principal channelId = true

theorem OnlyReadable.entry {state next : ScanState} {operation : String} {channelId : UInt64}
    {answer : Bool} (h : OnlyReadable ext db principal state)
    (hentry : channelEntry ext db faults operation (canRead · principal) state channelId =
      .ok (next, answer)) :
    OnlyReadable ext db principal next ∧
      (answer = true → readable ext db principal channelId = true) := by
  unfold channelEntry at hentry
  split at hentry
  · rename_i known hknown
    obtain ⟨rfl, rfl⟩ := Prod.mk.inj (Except.ok.inj hentry)
    refine ⟨h, ?_⟩
    rintro rfl
    exact h.noted channelId hknown
  · obtain ⟨found, hfound, hentry⟩ := bind_ok hentry
    cases found with
    | none => cases hentry
    | some channel =>
        obtain ⟨rfl, rfl⟩ := Prod.mk.inj (Except.ok.inj hentry)
        have hreadable : readable ext db principal channelId = canRead channel principal := by
          rw [readable, loadChannel_findChannel hfound]
        refine ⟨⟨h.messages, ?_⟩, fun hcan => hreadable.trans hcan⟩
        intro other hother
        by_cases heq : other = channelId
        · subst heq
          exact hreadable.trans (by simpa using hother)
        · exact h.noted other (by simpa [heq] using hother)

theorem OnlyReadable.addMessage {state : ScanState} {message : EventMessage}
    (h : OnlyReadable ext db principal state)
    (hmessage : readable ext db principal message.channelId = true) :
    OnlyReadable ext db principal (addMessage ext config limit state message).1 := by
  have hadded : OnlyReadable ext db principal
      { state with
        messages := state.messages ++ [message]
        responseBytes := state.responseBytes + ext.byteSizeLong message } := by
    refine ⟨?_, h.noted⟩
    intro other hother
    rcases List.mem_append.mp hother with hold | hnew
    · exact h.messages other hold
    · obtain rfl := List.mem_singleton.mp hnew
      exact hmessage
  unfold OpenEventCore.addMessage
  dsimp only
  split
  · exact h
  · split
    · exact hadded
    · exact hadded

theorem OnlyReadable.visitVisible {state : ScanState} (h : OnlyReadable ext db principal state)
    (message : EventMessage) :
    OnlyReadable ext db principal
      (visitVisible ext config db faults principal limit onlyMyRecipient channels state
        message).1 := by
  unfold OpenEventCore.visitVisible
  split
  · exact h
  · split
    · exact h
    · rename_i next answer hentry
      obtain ⟨hnext, hreadable⟩ := h.entry hentry
      split
      · exact hnext
      · rename_i hshown
        rw [not_or, Bool.not_eq_false] at hshown
        exact hnext.addMessage (hreadable hshown.1)

/-- Every message of a page lies in a channel that the reader may read. -/
theorem fetchVisible_readable {page : FetchResponse}
    (hchannels : ∀ channelId ∈ channels, readable ext db principal channelId = true)
    (h : fetchVisible ext config db faults principal fromSeq limit onlyMyRecipient channels =
      .ok page) :
    ∀ message ∈ page.messages, readable ext db principal message.channelId = true := by
  obtain ⟨maxSeq, _, h⟩ := bind_ok h
  split at h
  · obtain rfl := Except.ok.inj h
    simp
  · let start : ScanState :=
      { readable := fun channelId => if channels.contains channelId then some true else none }
    have hstart : OnlyReadable ext db principal start := by
      refine ⟨by simp [start], ?_⟩
      intro channelId hnoted
      exact hchannels channelId (by simpa [start] using hnoted)
    have hscan : OnlyReadable ext db principal
        (UnifiedStorage.scanMessages ext db faults fromSeq maxSeq config.maxScanRecords
          (visitVisible ext config db faults principal limit onlyMyRecipient channels) start).1 :=
      scanMessages_keeps (fun _ message hstate => hstate.visitVisible message) hstart
    obtain ⟨nextSeq, _, h⟩ := bind_ok h
    obtain rfl := Except.ok.inj h
    exact hscan.messages

theorem subscriptionMaxSeq_rights {maxSeq : UInt64}
    (h : subscriptionMaxSeq ext db faults principal token channels = .ok maxSeq) :
    db.HasCredential principal token ∧
      ∀ channelId ∈ channels, readable ext db principal channelId = true := by
  obtain ⟨_, hauth, h⟩ := bind_ok h
  obtain ⟨_, hchannels, _⟩ := bind_ok h
  exact ⟨authenticate_hasCredential hauth, validateReadableChannels_ok hchannels⟩

theorem subscriptionBatch_rights {page : FetchResponse}
    (h : subscriptionBatch ext config db faults principal token fromSeq limit onlyMyRecipient
      channels = .ok page) :
    db.HasCredential principal token ∧
      (∀ channelId ∈ channels, readable ext db principal channelId = true) ∧
      ∀ message ∈ page.messages, readable ext db principal message.channelId = true := by
  obtain ⟨_, hauth, h⟩ := bind_ok h
  obtain ⟨_, hchannels, h⟩ := bind_ok h
  have hreadable := validateReadableChannels_ok hchannels
  exact ⟨authenticate_hasCredential hauth, hreadable, fetchVisible_readable hreadable h⟩

end Rights

end OpenEvent
