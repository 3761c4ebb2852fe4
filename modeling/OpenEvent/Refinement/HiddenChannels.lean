import OpenEvent.Refinement.ChannelList
import OpenEvent.Refinement.ReadRights

/-!
Two databases that differ only in private channels of which a principal is not
a member, read side by side: each read of that principal takes the same course
on both, and the scans of messages and of channels go on in step.
-/

namespace OpenEvent

open OpenEventCore Fallible

/-- A private channel of which the principal is not a member, as it is stored. -/
def HiddenChannel (ext : Externals) (db : Db) (principal channelId : UInt64) : Prop :=
  ∃ channel, loadChannel ext db {} channelId = .ok (some channel) ∧
    channel.visibility = .visibilityPrivate ∧ principal ∉ channel.members

/-- The databases agree outside the private channels of which the principal is
not a member. Under a key where they differ, both hold such a channel, or both
hold a message of the same seq in the same such channel; all of these records
pass the checks of their readers. The used-uuid index follows the messages and
may differ anywhere. -/
structure AgreeOutsideHidden (ext : Externals) (principal : UInt64) (left right : Db) : Prop where
  metadata : ∀ key, (∀ uuid, key ≠ numericKey kUuidPrefix uuid) →
    (∀ channelId, key ≠ numericKey kChannelPrefix channelId) →
    left.metadata.get key = right.metadata.get key
  channels : ∀ channelId,
    left.metadata.get (numericKey kChannelPrefix channelId) =
        right.metadata.get (numericKey kChannelPrefix channelId) ∨
      HiddenChannel ext left principal channelId ∧ HiddenChannel ext right principal channelId
  messages : ∀ key, left.messages.get key = right.messages.get key ∨
    ∃ (seq : UInt64) (message other : EventMessage), key = numericKey kMessagePrefix seq ∧
      left.scannedMessage ext seq = some message ∧ right.scannedMessage ext seq = some other ∧
      message.channelId = other.channelId ∧
      HiddenChannel ext left principal message.channelId ∧
      HiddenChannel ext right principal other.channelId
  objects : left.objects = right.objects

section Reads

variable {ext : Externals} {principal : UInt64} {left right : Db} {faults : ReadFaults}

/-! ### Channels -/

/-- The record of a hidden channel, which the principal may not read. -/
theorem HiddenChannel.stored {db : Db} {channelId : UInt64}
    (h : HiddenChannel ext db principal channelId) :
    channelId ≠ 0 ∧ ∃ value channel,
      db.metadata.get (numericKey kChannelPrefix channelId) = some value ∧
      canRead channel principal = false ∧
      ∀ operation, UnifiedStorage.parseChannel ext value channelId operation = .ok channel := by
  obtain ⟨channel, hload, hprivate, hmember⟩ := h
  unfold loadChannel at hload
  split at hload
  · have hsystem : systemChannel = channel := Option.some.inj (Except.ok.inj hload)
    rw [← hsystem] at hprivate
    cases hprivate
  · rename_i hne
    unfold UnifiedStorage.getChannel Db.get at hload
    split at hload
    · cases hload
    · cases hload
    · rename_i value hvalue
      obtain ⟨found, hparsed, hfound⟩ := bind_ok hload
      obtain rfl : found = channel := Option.some.inj (Except.ok.inj hfound)
      unfold UnifiedStorage.parseChannel at hparsed
      split at hparsed
      · cases hparsed
      · rename_i parsed hparse
        split at hparsed
        · cases hparsed
        · rename_i hchecks
          obtain rfl := Except.ok.inj hparsed
          refine ⟨hne, value, parsed, Except.ok.inj hvalue, ?_, ?_⟩
          · have hid : parsed.channelId = channelId := not_not.mp (fun hid => hchecks (Or.inl hid))
            rw [canRead, if_neg (by rwa [hid]), if_neg (by simp [hprivate]), isMember]
            simpa using hmember
          · intro operation
            rw [UnifiedStorage.parseChannel, hparse]
            exact if_neg hchecks

theorem HiddenChannel.not_readable {db : Db} {channelId : UInt64}
    (h : HiddenChannel ext db principal channelId) :
    readable ext db principal channelId = false := by
  obtain ⟨hne, value, channel, hvalue, hcan, hparse⟩ := h.stored
  have hload : loadChannel ext db {} channelId = .ok (some channel) := by
    have hget : db.get {} .metadata (numericKey kChannelPrefix channelId) = .ok (some value) :=
      congrArg Except.ok hvalue
    rw [loadChannel, if_neg hne, UnifiedStorage.getChannel, hget]
    dsimp only
    rw [hparse]
    rfl
  rw [readable, loadChannel_findChannel hload]
  exact hcan

/-- Two loads of a channel that no reader can tell apart without reading it. -/
inductive LoadsAlike (principal : UInt64) :
    Result (Option ChannelInfo) → Result (Option ChannelInfo) → Prop
  | same (result : Result (Option ChannelInfo)) : LoadsAlike principal result result
  | hidden {channel other : ChannelInfo} : canRead channel principal = false →
      canRead other principal = false → LoadsAlike principal (.ok (some channel)) (.ok (some other))

theorem AgreeOutsideHidden.loads (h : AgreeOutsideHidden ext principal left right)
    (faults : ReadFaults) (channelId : UInt64) :
    LoadsAlike principal (loadChannel ext left faults channelId)
      (loadChannel ext right faults channelId) := by
  unfold loadChannel
  split
  · exact .same _
  · unfold UnifiedStorage.getChannel Db.get
    cases faults.get .metadata (numericKey kChannelPrefix channelId) with
    | some status => exact .same _
    | none =>
        simp only [Db.family]
        rcases h.channels channelId with heq | ⟨hleft, hright⟩
        · rw [heq]
          exact .same _
        · obtain ⟨_, value, channel, hvalue, hcan, hparse⟩ := hleft.stored
          obtain ⟨_, otherValue, other, hother, hcannot, hparsed⟩ := hright.stored
          rw [hvalue, hother]
          dsimp only
          rw [hparse, hparsed]
          exact .hidden hcan hcannot

theorem AgreeOutsideHidden.metadata_eq (h : AgreeOutsideHidden ext principal left right)
    (key : MetadataKey) (huuid : ∀ uuid, key ≠ .uuid uuid)
    (hchannel : ∀ channelId, key ≠ .channel channelId) :
    left.metadata.get key.bytes = right.metadata.get key.bytes := by
  apply h.metadata
  · exact fun uuid heq => huuid uuid (MetadataKey.bytes_injective heq)
  · exact fun channelId heq => hchannel channelId (MetadataKey.bytes_injective heq)

theorem AgreeOutsideHidden.getMaxSeq_eq (h : AgreeOutsideHidden ext principal left right)
    (faults : ReadFaults) :
    UnifiedStorage.getMaxSeq left faults = UnifiedStorage.getMaxSeq right faults := by
  have hmax : left.metadata.get (Bytes.ofString kMaxSeqKey) =
      right.metadata.get (Bytes.ofString kMaxSeqKey) :=
    h.metadata_eq .maxSeq (by simp) (by simp)
  have hget : left.get faults .metadata (Bytes.ofString kMaxSeqKey) =
      right.get faults .metadata (Bytes.ofString kMaxSeqKey) := by
    rw [Db.get, Db.get, Db.family, Db.family, hmax]
  rw [UnifiedStorage.getMaxSeq, UnifiedStorage.getMaxSeq, UnifiedStorage.getRequiredUint64,
    UnifiedStorage.getRequiredUint64, hget]

theorem AgreeOutsideHidden.authenticate_eq (h : AgreeOutsideHidden ext principal left right)
    (faults : ReadFaults) (token : Bytes) :
    authenticate left faults principal token = authenticate right faults principal token := by
  have htoken : left.metadata.get (tokenKey principal token) =
      right.metadata.get (tokenKey principal token) :=
    h.metadata_eq (.token principal token) (by simp) (by simp)
  have hget : left.get faults .metadata (tokenKey principal token) =
      right.get faults .metadata (tokenKey principal token) := by
    rw [Db.get, Db.get, Db.family, Db.family, htoken]
  rw [authenticate, authenticate, UnifiedStorage.hasToken, UnifiedStorage.hasToken, hget]

private theorem AgreeOutsideHidden.validateLoop_eq
    (h : AgreeOutsideHidden ext principal left right) (faults : ReadFaults)
    (channels validated : List UInt64) :
    validateReadableLoop ext left faults principal channels validated =
      validateReadableLoop ext right faults principal channels validated := by
  induction channels generalizing validated with
  | nil => rfl
  | cons channelId rest ih =>
      rw [validateReadableLoop, validateReadableLoop, ih, ih]
      have hloads := h.loads faults channelId
      revert hloads
      generalize loadChannel ext left faults channelId = loaded
      generalize loadChannel ext right faults channelId = otherLoaded
      rintro (_ | ⟨hcan, hcannot⟩)
      · rfl
      · simp only [ok_bind, hcan, hcannot]

theorem AgreeOutsideHidden.validate_eq (h : AgreeOutsideHidden ext principal left right)
    (faults : ReadFaults) (channels : List UInt64) :
    validateReadableChannels ext left faults principal channels =
      validateReadableChannels ext right faults principal channels :=
  h.validateLoop_eq faults channels []

/-! ### Visits -/

/-- Two messages that a scan cannot tell apart for the principal. -/
def MessagesAlike (ext : Externals) (db : Db) (principal : UInt64)
    (message other : EventMessage) : Prop :=
  message = other ∨
    message.channelId = other.channelId ∧ HiddenChannel ext db principal message.channelId

theorem AgreeOutsideHidden.channelEntry_eq (h : AgreeOutsideHidden ext principal left right)
    (faults : ReadFaults) (operation : String) (state : ScanState) (channelId : UInt64) :
    channelEntry ext left faults operation (canRead · principal) state channelId =
      channelEntry ext right faults operation (canRead · principal) state channelId := by
  unfold channelEntry
  split
  · rfl
  · have hloads := h.loads faults channelId
    revert hloads
    generalize loadChannel ext left faults channelId = loaded
    generalize loadChannel ext right faults channelId = otherLoaded
    rintro (_ | ⟨hcan, hcannot⟩)
    · rfl
    · simp only [ok_bind, hcan, hcannot]

variable {config : Config} {limit : UInt32} {onlyMyRecipient : Bool} {channels : List UInt64}

theorem AgreeOutsideHidden.visit_eq (h : AgreeOutsideHidden ext principal left right)
    {state : ScanState} (hstate : OnlyReadable ext left principal state)
    {message other : EventMessage} (halike : MessagesAlike ext left principal message other) :
    visitVisible ext config left faults principal limit onlyMyRecipient channels state message =
      visitVisible ext config right faults principal limit onlyMyRecipient channels state
        other := by
  unfold visitVisible
  rw [← h.channelEntry_eq]
  rcases halike with rfl | ⟨hid, hhidden⟩
  · rfl
  · rw [← hid]
    split
    · rfl
    · cases hentry : channelEntry ext left faults "scan visible messages" (canRead · principal) state
          message.channelId with
      | error status => rfl
      | ok found =>
          obtain ⟨next, answer⟩ := found
          have hanswer : answer = false := by
            rw [← Bool.not_eq_true]
            intro htrue
            have hread := (hstate.entry hentry).2 htrue
            rw [hhidden.not_readable] at hread
            cases hread
          subst hanswer
          rfl

/-! ### Scans of messages -/

/-- Two values under a key of the messages family that differ at most in a
hidden message. -/
def RecordsAlike (ext : Externals) (db : Db) (principal : UInt64) (key value other : Bytes) :
    Prop :=
  value = other ∨ ∃ (seq : UInt64) (message found : EventMessage),
    key = numericKey kMessagePrefix seq ∧
    UnifiedStorage.checkMessage ext seq value = .ok message ∧
    UnifiedStorage.checkMessage ext seq other = .ok found ∧
    MessagesAlike ext db principal message found

/-- Two entries under one key. -/
def EntriesAlike (ext : Externals) (db : Db) (principal : UInt64) (entry other : Bytes × Bytes) :
    Prop :=
  entry.1 = other.1 ∧ RecordsAlike ext db principal entry.1 entry.2 other.2

theorem AgreeOutsideHidden.records_alike (h : AgreeOutsideHidden ext principal left right)
    (key : Bytes) :
    Option.Rel (RecordsAlike ext left principal key) (left.messages.get key)
      (right.messages.get key) := by
  rcases h.messages key with heq | ⟨seq, message, other, rfl, hleft, hright, hid, hhidden, _⟩
  · rw [heq]
    cases right.messages.get key with
    | none => exact .none
    | some value => exact .some (Or.inl rfl)
  · obtain ⟨value, hvalue, hmessage⟩ := Db.scannedMessage_checked hleft
    obtain ⟨otherValue, hotherValue, hother⟩ := Db.scannedMessage_checked hright
    rw [hvalue, hotherValue]
    exact .some (Or.inr ⟨seq, message, other, rfl, hmessage, hother, Or.inr ⟨hid, hhidden⟩⟩)

theorem AgreeOutsideHidden.entries_alike (h : AgreeOutsideHidden ext principal left right)
    (faults : ReadFaults) (start : Bytes) :
    List.Forall₂ (EntriesAlike ext left principal) (left.iterate faults .messages start).1
      (right.iterate faults .messages start).1 := by
  have hseek : List.Forall₂ (EntriesAlike ext left principal) (left.messages.seek start)
      (right.messages.seek start) :=
    SortedMap.seek_forall₂ (R := RecordsAlike ext left principal) h.records_alike start
  unfold Db.iterate
  split
  · exact List.forall₂_take _ hseek
  · exact hseek

private theorem keys_eq {entries others : List (Bytes × Bytes)}
    (h : List.Forall₂ (EntriesAlike ext left principal) entries others) :
    entries.map Prod.fst = others.map Prod.fst := by
  induction h with
  | nil => rfl
  | cons halike _ ih => rw [List.map_cons, List.map_cons, halike.1, ih]

/-- Two checks of scanned records that pass on messages alike, or fail alike. -/
inductive ChecksAlike (ext : Externals) (db : Db) (principal : UInt64) :
    Result EventMessage → Result EventMessage → Prop
  | failed (status : Status) : ChecksAlike ext db principal (.error status) (.error status)
  | passed (message other : EventMessage) : MessagesAlike ext db principal message other →
      ChecksAlike ext db principal (.ok message) (.ok other)

private theorem checked_alike {key value other : Bytes} {seq : UInt64}
    (hseq : decodeNumericKey key kMessagePrefix "message" = .ok seq)
    (h : RecordsAlike ext left principal key value other) :
    ChecksAlike ext left principal (UnifiedStorage.checkMessage ext seq value)
      (UnifiedStorage.checkMessage ext seq other) := by
  rcases h with rfl | ⟨found, message, otherMessage, rfl, hmessage, hother, halike⟩
  · cases UnifiedStorage.checkMessage ext seq value with
    | error status => exact .failed status
    | ok message => exact .passed message message (Or.inl rfl)
  · rw [decodeNumericKey_numericKey] at hseq
    obtain rfl := Except.ok.inj hseq
    rw [hmessage, hother]
    exact .passed message otherMessage halike

/-- Two exits of the scan loop at the same place with the same state. -/
inductive ExitsAlike {σ : Type} : UnifiedStorage.ScanExit σ → UnifiedStorage.ScanExit σ → Prop
  | returned (state : σ) (result : Result UInt64) :
      ExitsAlike (.returned state result) (.returned state result)
  | left (state : σ) {rest other : List (Bytes × Bytes)} (scanned nextSeq : UInt64) :
      rest.map Prod.fst = other.map Prod.fst →
      ExitsAlike (.left state rest scanned nextSeq) (.left state other scanned nextSeq)

/-- Entries that differ only in what both visitors treat alike take both loops
through the same states. -/
theorem scanLoop_alike {σ : Type} {I : σ → Prop} {lastSeq maxRecords : UInt64}
    {visitor otherVisitor : σ → EventMessage → σ × Result UnifiedStorage.MessageScanAction}
    (hvisit : ∀ state message other, I state → MessagesAlike ext left principal message other →
      visitor state message = otherVisitor state other ∧ I (visitor state message).1)
    {entries others : List (Bytes × Bytes)}
    (hentries : List.Forall₂ (EntriesAlike ext left principal) entries others)
    {state : σ} (hstate : I state) (scanned nextSeq : UInt64) :
    ExitsAlike (UnifiedStorage.scanLoop ext lastSeq maxRecords visitor entries state scanned nextSeq)
      (UnifiedStorage.scanLoop ext lastSeq maxRecords otherVisitor others state scanned
        nextSeq) := by
  induction hentries generalizing state scanned nextSeq with
  | nil => exact .left _ _ _ rfl
  | @cons entry other rest otherRest halike hrest ih =>
      obtain ⟨hkey, hvalue⟩ := halike
      have hkeys : (entry :: rest).map Prod.fst = (other :: otherRest).map Prod.fst := by
        rw [List.map_cons, List.map_cons, hkey, keys_eq hrest]
      rw [UnifiedStorage.scanLoop, UnifiedStorage.scanLoop, ← hkey]
      split
      · exact .left _ _ _ hkeys
      · split
        · exact .returned _ _
        · rename_i seq hseq
          split
          · exact .left _ _ _ hkeys
          · split
            · exact .returned _ _
            · split
              · exact .left _ _ _ hkeys
              · have hchecked := checked_alike hseq hvalue
                revert hchecked
                generalize UnifiedStorage.checkMessage ext seq entry.2 = checked
                generalize UnifiedStorage.checkMessage ext seq other.2 = otherChecked
                rintro (status | ⟨message, found, hmessages⟩)
                · exact .returned _ _
                · obtain ⟨hsame, hnext⟩ := hvisit state message found hstate hmessages
                  dsimp only
                  rw [← hsame]
                  revert hnext
                  generalize visitor state message = visited
                  obtain ⟨next, result⟩ := visited
                  intro hnext
                  rcases result with status | action
                  · exact .returned _ _
                  · cases action with
                    | kContinue => exact ih hnext _ _
                    | kStopBefore => exact .returned _ _
                    | kStopAfter => exact .returned _ _

/-- Both scans hand the same state and cursor on. -/
theorem AgreeOutsideHidden.scan_eq {σ : Type} {I : σ → Prop}
    (h : AgreeOutsideHidden ext principal left right) (fromSeq lastSeq maxRecords : UInt64)
    {visitor otherVisitor : σ → EventMessage → σ × Result UnifiedStorage.MessageScanAction}
    (hvisit : ∀ state message other, I state → MessagesAlike ext left principal message other →
      visitor state message = otherVisitor state other ∧ I (visitor state message).1)
    {start : σ} (hstart : I start) :
    UnifiedStorage.scanMessages ext left faults fromSeq lastSeq maxRecords visitor start =
      UnifiedStorage.scanMessages ext right faults fromSeq lastSeq maxRecords otherVisitor
        start := by
  have hexits : ExitsAlike
      (UnifiedStorage.scanLoop ext lastSeq maxRecords visitor
        (left.iterate faults .messages (numericKey kMessagePrefix fromSeq)).1 start 0 fromSeq)
      (UnifiedStorage.scanLoop ext lastSeq maxRecords otherVisitor
        (right.iterate faults .messages (numericKey kMessagePrefix fromSeq)).1 start 0 fromSeq) :=
    scanLoop_alike hvisit (h.entries_alike faults _) hstart 0 fromSeq
  have hstatus : (left.iterate faults .messages (numericKey kMessagePrefix fromSeq)).2 =
      (right.iterate faults .messages (numericKey kMessagePrefix fromSeq)).2 := by
    unfold Db.iterate
    split <;> rfl
  unfold UnifiedStorage.scanMessages
  dsimp only
  rw [← hstatus]
  revert hexits
  generalize UnifiedStorage.scanLoop ext lastSeq maxRecords visitor _ start 0 fromSeq = exit
  generalize UnifiedStorage.scanLoop ext lastSeq maxRecords otherVisitor _ start 0 fromSeq = other
  intro hexits
  cases hexits with
  | returned state result => rfl
  | @left state rest others scanned nextSeq hkeys =>
      cases rest with
      | nil =>
          obtain rfl := List.map_eq_nil_iff.mp hkeys.symm
          rfl
      | cons entry rest =>
          cases others with
          | nil => cases hkeys
          | cons other others =>
              have hkey : entry.1 = other.1 := (List.cons.inj hkeys).1
              have hmissing : UnifiedStorage.missingAfterLoop (entry :: rest) lastSeq =
                  UnifiedStorage.missingAfterLoop (other :: others) lastSeq := by
                rw [UnifiedStorage.missingAfterLoop, UnifiedStorage.missingAfterLoop, hkey]
              cases (left.iterate faults .messages (numericKey kMessagePrefix fromSeq)).2 with
              | none => simp only [hmissing]
              | some status => simp only [hmissing]

theorem AgreeOutsideHidden.fetchVisible_eq (h : AgreeOutsideHidden ext principal left right)
    (faults : ReadFaults) (config : Config) (fromSeq : UInt64) (limit : UInt32)
    (onlyMyRecipient : Bool) {channels : List UInt64}
    (hchannels : ∀ channelId ∈ channels, readable ext left principal channelId = true) :
    fetchVisible ext config left faults principal fromSeq limit onlyMyRecipient channels =
      fetchVisible ext config right faults principal fromSeq limit onlyMyRecipient channels := by
  have hstart : OnlyReadable ext left principal
      { readable := fun channelId => if channels.contains channelId then some true else none } := by
    refine ⟨by simp, ?_⟩
    intro channelId hnoted
    exact hchannels channelId (by simpa using hnoted)
  have hscan (maxSeq : UInt64) :
      UnifiedStorage.scanMessages ext left faults fromSeq maxSeq config.maxScanRecords
        (visitVisible ext config left faults principal limit onlyMyRecipient channels)
        { readable := fun channelId => if channels.contains channelId then some true else none } =
      UnifiedStorage.scanMessages ext right faults fromSeq maxSeq config.maxScanRecords
        (visitVisible ext config right faults principal limit onlyMyRecipient channels)
        { readable := fun channelId => if channels.contains channelId then some true else none } :=
    h.scan_eq fromSeq maxSeq config.maxScanRecords
      (fun _ message _ hstate halike => ⟨h.visit_eq hstate halike, hstate.visitVisible message⟩)
      hstart
  unfold fetchVisible
  rw [← h.getMaxSeq_eq]
  congr 1
  funext maxSeq
  dsimp only
  rw [hscan]

/-! ### Scans of channels -/

/-- The channel entries of two metadata families, entry by entry, up to the
first key that is not a channel's. -/
inductive ChannelEntriesAlike (ext : Externals) (principal : UInt64) :
    List (Bytes × Bytes) → List (Bytes × Bytes) → Prop
  | nil : ChannelEntriesAlike ext principal [] []
  | stop {entry other : Bytes × Bytes} {rest others : List (Bytes × Bytes)} :
      startsWith entry.1 kChannelPrefix = false → startsWith other.1 kChannelPrefix = false →
      ChannelEntriesAlike ext principal (entry :: rest) (other :: others)
  | same (entry : Bytes × Bytes) {rest others : List (Bytes × Bytes)} :
      ChannelEntriesAlike ext principal rest others →
      ChannelEntriesAlike ext principal (entry :: rest) (entry :: others)
  | hidden {channelId : UInt64} {value other : Bytes} {channel found : ChannelInfo}
      {rest others : List (Bytes × Bytes)} :
      UnifiedStorage.parseChannel ext value channelId "list channels" = .ok channel →
      UnifiedStorage.parseChannel ext other channelId "list channels" = .ok found →
      canRead channel principal = false → canRead found principal = false →
      ChannelEntriesAlike ext principal rest others →
      ChannelEntriesAlike ext principal ((numericKey kChannelPrefix channelId, value) :: rest)
        ((numericKey kChannelPrefix channelId, other) :: others)

theorem ChannelEntriesAlike.take {entries others : List (Bytes × Bytes)}
    (h : ChannelEntriesAlike ext principal entries others) (count : Nat) :
    ChannelEntriesAlike ext principal (entries.take count) (others.take count) := by
  induction h generalizing count with
  | nil => simpa using ChannelEntriesAlike.nil
  | stop hentry hother =>
      cases count with
      | zero => exact .nil
      | succ count => exact .stop hentry hother
  | same entry _ ih =>
      cases count with
      | zero => exact .nil
      | succ count => exact .same entry (ih count)
  | hidden hchannel hfound hcan hcannot _ ih =>
      cases count with
      | zero => exact .nil
      | succ count => exact .hidden hchannel hfound hcan hcannot (ih count)

private theorem filter_cons_eq {first second : Result (List ChannelInfo)}
    {shown : ChannelInfo → Bool} {channel other : ChannelInfo}
    (hrest : first.map (·.filter shown) = second.map (·.filter shown))
    (hhead : [channel].filter shown = [other].filter shown) :
    (first >>= fun channels => pure (channel :: channels)).map (·.filter shown) =
      (second >>= fun channels => pure (other :: channels)).map (·.filter shown) := by
  have hcons (head : ChannelInfo) (tail : List ChannelInfo) :
      (head :: tail).filter shown = [head].filter shown ++ tail.filter shown := by
    rw [← List.filter_append, List.singleton_append]
  cases first with
  | error status =>
      cases second with
      | error otherStatus => exact hrest
      | ok channels => cases hrest
  | ok channels =>
      cases second with
      | error status => cases hrest
      | ok others =>
          have htail : channels.filter shown = others.filter shown := Except.ok.inj hrest
          have hall : (channel :: channels).filter shown = (other :: others).filter shown := by
            rw [hcons, hcons other, hhead, htail]
          exact congrArg Except.ok hall

/-- Both loops find the same readable channels, or fail in the same way. -/
theorem ChannelEntriesAlike.loop {entries others : List (Bytes × Bytes)}
    (h : ChannelEntriesAlike ext principal entries others) (status : Option RocksStatus)
    {shown : ChannelInfo → Bool}
    (hshown : ∀ channel, canRead channel principal = false → shown channel = false) :
    (UnifiedStorage.listChannelsLoop ext status entries).map (·.filter shown) =
      (UnifiedStorage.listChannelsLoop ext status others).map (·.filter shown) := by
  induction h with
  | nil => rfl
  | stop hentry hother =>
      rw [UnifiedStorage.listChannelsLoop, UnifiedStorage.listChannelsLoop, if_pos hentry,
        if_pos hother]
  | same entry _ ih =>
      rw [UnifiedStorage.listChannelsLoop, UnifiedStorage.listChannelsLoop]
      split
      · rfl
      · cases decodeNumericKey entry.1 kChannelPrefix "channel" with
        | error raised => rfl
        | ok channelId =>
            rw [ok_bind, ok_bind]
            cases UnifiedStorage.parseChannel ext entry.2 channelId "list channels" with
            | error raised => rfl
            | ok channel => exact filter_cons_eq ih rfl
  | @hidden channelId value other channel found rest others hchannel hfound hcan hcannot _ ih =>
      rw [UnifiedStorage.listChannelsLoop, UnifiedStorage.listChannelsLoop,
        if_neg (by simp [startsWith_numericKey]), if_neg (by simp [startsWith_numericKey]),
        decodeNumericKey_numericKey, ok_bind, ok_bind]
      dsimp only
      rw [hchannel, hfound, ok_bind, ok_bind]
      exact filter_cons_eq ih (by simp [hshown channel hcan, hshown found hcannot])

/-- Two values under a key of a channel that differ at most in a hidden channel. -/
def ChannelRecordsAlike (ext : Externals) (principal : UInt64) (key value other : Bytes) : Prop :=
  value = other ∨ ∃ (channelId : UInt64) (channel found : ChannelInfo),
    key = numericKey kChannelPrefix channelId ∧
    UnifiedStorage.parseChannel ext value channelId "list channels" = .ok channel ∧
    UnifiedStorage.parseChannel ext other channelId "list channels" = .ok found ∧
    canRead channel principal = false ∧ canRead found principal = false

theorem AgreeOutsideHidden.channelRecords_alike (h : AgreeOutsideHidden ext principal left right)
    {key : Bytes} (hstarts : startsWith key kChannelPrefix = true) :
    Option.Rel (ChannelRecordsAlike ext principal key) (left.metadata.get key)
      (right.metadata.get key) := by
  have hsame (heq : left.metadata.get key = right.metadata.get key) :
      Option.Rel (ChannelRecordsAlike ext principal key) (left.metadata.get key)
        (right.metadata.get key) := by
    rw [heq]
    cases right.metadata.get key with
    | none => exact .none
    | some value => exact .some (Or.inl rfl)
  by_cases hchannel : ∃ channelId, key = numericKey kChannelPrefix channelId
  · obtain ⟨channelId, rfl⟩ := hchannel
    rcases h.channels channelId with heq | ⟨hleft, hright⟩
    · exact hsame heq
    · obtain ⟨_, value, channel, hvalue, hcan, hparse⟩ := hleft.stored
      obtain ⟨_, otherValue, other, hother, hcannot, hparsed⟩ := hright.stored
      rw [hvalue, hother]
      exact .some (Or.inr ⟨channelId, channel, other, rfl, hparse _, hparsed _, hcan, hcannot⟩)
  · refine hsame (h.metadata key ?_ (fun channelId heq => hchannel ⟨channelId, heq⟩))
    rintro uuid rfl
    obtain ⟨rest, hrest⟩ := List.isPrefixOf_iff_prefix.mp hstarts
    have hheads : some (0x63 : UInt8) = some 0x75 := congrArg List.head? hrest
    simp at hheads

/-- The keys of channels come first in what follows their prefix. -/
private theorem split_channels {entries : List (Bytes × Bytes)}
    (hascending : entries.Pairwise (fun a b => a.1 < b.1))
    (hfrom : ∀ entry ∈ entries, Bytes.ofString kChannelPrefix ≤ entry.1) :
    entries = entries.filter (fun entry => startsWith entry.1 kChannelPrefix) ++
      entries.filter (fun entry => !startsWith entry.1 kChannelPrefix) := by
  induction entries with
  | nil => rfl
  | cons entry rest ih =>
      obtain ⟨hafter, hrest⟩ := List.pairwise_cons.mp hascending
      have hsplit := ih hrest (fun other hother => hfrom other (List.mem_cons_of_mem _ hother))
      cases hstarts : startsWith entry.1 kChannelPrefix with
      | true => simp [hstarts, ← hsplit]
      | false =>
          have hnone : rest.filter (fun other => startsWith other.1 kChannelPrefix) = [] := by
            rw [List.filter_eq_nil_iff]
            intro other hother
            rw [startsWith_after (hfrom entry (by simp)) (hafter other hother) hstarts]
            decide
          rw [hnone, List.nil_append] at hsplit
          simp [hstarts, hnone, ← hsplit]

private theorem alike_of_parts {entries others rest otherRest : List (Bytes × Bytes)}
    (h : List.Forall₂ (fun entry other => entry.1 = other.1 ∧
      ChannelRecordsAlike ext principal entry.1 entry.2 other.2) entries others)
    (hrest : rest ≠ [] ∧ ∀ entry ∈ rest, startsWith entry.1 kChannelPrefix = false)
    (hother : otherRest ≠ [] ∧ ∀ entry ∈ otherRest, startsWith entry.1 kChannelPrefix = false) :
    ChannelEntriesAlike ext principal (entries ++ rest) (others ++ otherRest) := by
  induction h with
  | nil =>
      cases rest with
      | nil => exact absurd rfl hrest.1
      | cons entry rest =>
          cases otherRest with
          | nil => exact absurd rfl hother.1
          | cons other otherRest => exact .stop (hrest.2 entry (by simp)) (hother.2 other (by simp))
  | @cons entry other entries others halike _ ih =>
      obtain ⟨key, value⟩ := entry
      obtain ⟨otherKey, otherValue⟩ := other
      obtain ⟨rfl, hvalues⟩ : key = otherKey ∧ _ := halike
      rcases hvalues with heq | ⟨channelId, channel, found, hkey, hparse, hparsed, hcan, hcannot⟩
      · obtain rfl : value = otherValue := heq
        exact .same _ ih
      · obtain rfl : key = numericKey kChannelPrefix channelId := hkey
        exact .hidden hparse hparsed hcan hcannot ih

/-- The max_seq counter stands after all channels in the metadata family. -/
private theorem rest_of_channels {table : KeyValueTable}
    (hmax : table.get (Bytes.ofString kMaxSeqKey) ≠ none) :
    (table.seek (Bytes.ofString kChannelPrefix)).filter
        (fun entry => !startsWith entry.1 kChannelPrefix) ≠ [] ∧
      ∀ entry ∈ (table.seek (Bytes.ofString kChannelPrefix)).filter
        (fun entry => !startsWith entry.1 kChannelPrefix),
        startsWith entry.1 kChannelPrefix = false := by
  obtain ⟨value, hvalue⟩ := Option.ne_none_iff_exists'.mp hmax
  have hmember : (Bytes.ofString kMaxSeqKey, value) ∈ table.seek (Bytes.ofString kChannelPrefix) :=
    (table.mem_seek _ _ _).mpr ⟨by decide, hvalue⟩
  constructor
  · have houtside : (!startsWith (Bytes.ofString kMaxSeqKey) kChannelPrefix) = true := by decide
    exact List.ne_nil_of_mem (List.mem_filter.mpr ⟨hmember, houtside⟩)
  · intro entry hentry
    simpa using (List.mem_filter.mp hentry).2

theorem AgreeOutsideHidden.channelEntries_alike (h : AgreeOutsideHidden ext principal left right)
    (hmax : left.metadata.get (Bytes.ofString kMaxSeqKey) ≠ none) :
    ChannelEntriesAlike ext principal (left.metadata.seek (Bytes.ofString kChannelPrefix))
      (right.metadata.seek (Bytes.ofString kChannelPrefix)) := by
  have hright : right.metadata.get (Bytes.ofString kMaxSeqKey) ≠ none := by
    have hsame : left.metadata.get (Bytes.ofString kMaxSeqKey) =
        right.metadata.get (Bytes.ofString kMaxSeqKey) :=
      h.metadata_eq .maxSeq (by simp) (by simp)
    rwa [← hsame]
  have hfrom (table : KeyValueTable) :
      ∀ entry ∈ table.seek (Bytes.ofString kChannelPrefix),
        Bytes.ofString kChannelPrefix ≤ entry.1 :=
    fun entry hentry => ((table.mem_seek _ entry.1 entry.2).mp hentry).1
  have hparts : List.Forall₂ (fun entry other => entry.1 = other.1 ∧
      ChannelRecordsAlike ext principal entry.1 entry.2 other.2)
      ((left.metadata.seek (Bytes.ofString kChannelPrefix)).filter
        (fun entry => startsWith entry.1 kChannelPrefix))
      ((right.metadata.seek (Bytes.ofString kChannelPrefix)).filter
        (fun entry => startsWith entry.1 kChannelPrefix)) :=
    SortedMap.seek_filter_forall₂ (fun _ hstarts => h.channelRecords_alike hstarts) _
  rw [split_channels (left.metadata.seek_ascending _) (hfrom _),
    split_channels (right.metadata.seek_ascending _) (hfrom _)]
  exact alike_of_parts hparts (rest_of_channels hmax) (rest_of_channels hright)

/-- What `ListChannels` of the storage finds, as far as the principal may read it. -/
theorem AgreeOutsideHidden.listChannels_eq (h : AgreeOutsideHidden ext principal left right)
    (hmax : left.metadata.get (Bytes.ofString kMaxSeqKey) ≠ none) (faults : ReadFaults)
    {shown : ChannelInfo → Bool}
    (hshown : ∀ channel, canRead channel principal = false → shown channel = false) :
    (UnifiedStorage.listChannels ext left faults).map (·.filter shown) =
      (UnifiedStorage.listChannels ext right faults).map (·.filter shown) := by
  have hentries := h.channelEntries_alike hmax
  unfold UnifiedStorage.listChannels Db.iterate
  cases faults.iterator .metadata with
  | none => exact hentries.loop none hshown
  | some fault => exact (hentries.take fault.1).loop (some fault.2) hshown

end Reads

end OpenEvent
