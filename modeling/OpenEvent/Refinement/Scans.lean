import OpenEvent.Core.Reads
import OpenEvent.Lib.Fallible
import OpenEvent.Lib.Slice
import OpenEvent.MessageLog

/-!
The readers that scan. `ScanMessages` visits the messages of the log from the
seq it is given, in order and without gaps; the rule for it takes an invariant
of the visitor's state and of the position that the scan has reached.
-/

namespace OpenEvent

open OpenEventCore

section Scan

variable {ext : Externals} {db : Db} {store : Store} {log : List EventMessage}
variable {faults : ReadFaults} {σ : Type}
variable {visitor : σ → EventMessage → σ × Result UnifiedStorage.MessageScanAction}
variable {I : σ → Nat → Prop} {maxRecords : UInt64}

/-- What a visit leaves when it ends with the given action. -/
def Visited (I : σ → Nat → Prop) (state : σ) (position : Nat) :
    UnifiedStorage.MessageScanAction → Prop
  | .kStopBefore => I state position
  | .kContinue | .kStopAfter => I state (position + 1)

/-- Every visit of a message of the log keeps the invariant or meets a fault. -/
def VisitorKeeps (faults : ReadFaults) (log : List EventMessage) (I : σ → Nat → Prop)
    (visitor : σ → EventMessage → σ × Result UnifiedStorage.MessageScanAction) : Prop :=
  ∀ state position message, log[position]? = some message → I state position →
    Reads faults (Visited I (visitor state message).1 position) (visitor state message).2

/-- The position that a scan returns, with the state it leaves. -/
def ScanReached (log : List EventMessage) (I : σ → Nat → Prop) (start : Nat) (state : σ)
    (nextSeq : UInt64) : Prop :=
  ∃ position, start ≤ position ∧ position ≤ log.length ∧ I state position ∧
    nextSeq = UInt64.ofNat position

theorem Represents.checkMessage (hdb : Represents ext db store) (hindex : LogIndex store log)
    (hvalid : store.Valid ext) {position : Nat} {message : EventMessage}
    (hat : log[position]? = some message) :
    UnifiedStorage.checkMessage ext (UInt64.ofNat position)
      ((ext.eventMessage.serializeToString message).getD []) = .ok message := by
  obtain ⟨hseq, hreserved, hreferences⟩ :=
    hvalid.message _ message (hindex.message_of_lt hat)
  simp [UnifiedStorage.checkMessage, hdb.parse_message hindex hat, hseq, hreserved, hreferences]

/-- How the loop of `ScanMessages` ends. -/
inductive LoopEnds (faults : ReadFaults) (log : List EventMessage) (I : σ → Nat → Prop)
    (maxRecords : UInt64) (start : Nat) (entries : List (Bytes × Bytes)) :
    UnifiedStorage.ScanExit σ → Prop
  | returned {state : σ} {result : Result UInt64} :
      Reads faults (ScanReached log I start state) result →
      LoopEnds faults log I maxRecords start entries (.returned state result)
  | exhausted {state : σ} {scanned : UInt64} : I state (start + entries.length) →
      LoopEnds faults log I maxRecords start entries
        (.left state [] scanned (UInt64.ofNat (start + entries.length)))
  | budget {state : σ} {rest : List (Bytes × Bytes)} {scanned nextSeq : UInt64} : rest ≠ [] →
      maxRecords ≤ scanned → ScanReached log I start state nextSeq →
      LoopEnds faults log I maxRecords start entries (.left state rest scanned nextSeq)

private theorem ScanReached.later {start : Nat} {state : σ} {nextSeq : UInt64}
    (h : ScanReached log I (start + 1) state nextSeq) : ScanReached log I start state nextSeq := by
  obtain ⟨position, hstart, hrest⟩ := h
  exact ⟨position, Nat.le_of_succ_le hstart, hrest⟩

private theorem LoopEnds.later {start : Nat} {entry : Bytes × Bytes}
    {rest : List (Bytes × Bytes)} {exit : UnifiedStorage.ScanExit σ}
    (h : LoopEnds faults log I maxRecords (start + 1) rest exit) :
    LoopEnds faults log I maxRecords start (entry :: rest) exit := by
  cases h with
  | returned hreads => exact .returned (hreads.imp (fun _ => ScanReached.later))
  | exhausted hstate =>
      have hlength : start + 1 + rest.length = start + (entry :: rest).length := by
        rw [List.length_cons]
        omega
      rw [hlength] at hstate ⊢
      exact .exhausted hstate
  | budget hrest hscanned hreached => exact .budget hrest hscanned hreached.later

theorem Represents.scanLoop_ends (hdb : Represents ext db store) (hindex : LogIndex store log)
    (hvalid : store.Valid ext) (hvisitor : VisitorKeeps faults log I visitor)
    {entries : List (Bytes × Bytes)} {start : Nat}
    (hentries : entries <+: (encodedLog ext log).drop start) {state : σ} {scanned : UInt64}
    (hstate : I state start) :
    LoopEnds faults log I maxRecords start entries
      (UnifiedStorage.scanLoop ext store.maxSeq maxRecords visitor entries state scanned
        (UInt64.ofNat start)) := by
  induction entries generalizing start state scanned with
  | nil => exact .exhausted hstate
  | cons entry rest ih =>
      obtain ⟨message, hat, hkey, hvalue⟩ : ∃ message, log[start]? = some message ∧
          entry.1 = numericKey kMessagePrefix (UInt64.ofNat start) ∧
          entry.2 = (ext.eventMessage.serializeToString message).getD [] := by
        have hhead : (encodedLog ext log)[start]? = some entry := by
          obtain ⟨tail, htail⟩ := hentries
          have hfirst := congrArg (fun entries => entries[0]?) htail
          simpa [List.getElem?_drop] using hfirst.symm
        rw [getElem?_encodedLog, Option.map_eq_some_iff] at hhead
        obtain ⟨message, hat, rfl⟩ := hhead
        exact ⟨message, hat, rfl, rfl⟩
      have hlt := (List.getElem?_eq_some_iff.mp hat).1
      have hrest : rest <+: (encodedLog ext log).drop (start + 1) := by
        obtain ⟨tail, htail⟩ := hentries
        refine ⟨tail, ?_⟩
        rw [← List.drop_drop, ← htail]
        rfl
      have hle : ¬ UInt64.ofNat start > store.maxSeq := by
        have hmax := hindex.maxSeq
        have hstart := hindex.toNat_ofNat hlt
        rw [gt_iff_lt, UInt64.lt_iff_toNat_lt]
        omega
      have hsucc : UInt64.ofNat start + 1 = UInt64.ofNat (start + 1) := by
        simp
      rw [UnifiedStorage.scanLoop, hkey, if_neg (by simp [startsWith_numericKey]),
        decodeNumericKey_numericKey]
      dsimp only
      rw [if_neg hle, if_neg (by simp)]
      by_cases hbudget : scanned ≥ maxRecords
      · rw [if_pos hbudget]
        exact .budget (by simp) hbudget ⟨start, le_refl _, Nat.le_of_lt hlt, hstate, rfl⟩
      · rw [if_neg hbudget, hvalue, hdb.checkMessage hindex hvalid hat]
        have hvisit := hvisitor state start message hat hstate
        dsimp only
        generalize visitor state message = outcome at hvisit ⊢
        obtain ⟨state', result⟩ := outcome
        cases hvisit with
        | fault hreport => exact .returned (.fault hreport)
        | noSnapshot hsnapshot => exact .returned (.noSnapshot hsnapshot)
        | @found action hvisited =>
            cases action with
            | kStopBefore =>
                exact .returned (.found ⟨start, le_refl _, Nat.le_of_lt hlt, hvisited, rfl⟩)
            | kStopAfter =>
                exact .returned (.found ⟨start + 1, Nat.le_succ _, hlt, hvisited, hsucc⟩)
            | kContinue =>
                dsimp only
                rw [hsucc]
                exact (ih hrest hvisited).later

/-- The rule for `ScanMessages` over the log up to its last seq. The cursor
past that seq must not wrap. -/
theorem Represents.scanMessages_reads (hdb : Represents ext db store)
    (hindex : LogIndex store log) (hvalid : store.Valid ext) (hnext : store.maxSeq + 1 ≠ 0)
    (maxRecords : UInt64) (hvisitor : VisitorKeeps faults log I visitor) {fromSeq : UInt64}
    (hfrom : fromSeq ≤ store.maxSeq) {start : σ} (hstart : I start fromSeq.toNat) :
    Reads faults
      (ScanReached log I fromSeq.toNat
        (UnifiedStorage.scanMessages ext db faults fromSeq store.maxSeq maxRecords visitor start).1)
      (UnifiedStorage.scanMessages ext db faults fromSeq store.maxSeq maxRecords visitor
        start).2 := by
  have hseek : (db.family .messages).seek (numericKey kMessagePrefix fromSeq) =
      (encodedLog ext log).drop fromSeq.toNat := hdb.seek_messages hindex fromSeq
  have hgrows : (db.iterate faults .messages (numericKey kMessagePrefix fromSeq)).1 <+:
      (encodedLog ext log).drop fromSeq.toNat := by
    unfold Db.iterate
    rw [hseek]
    split
    · exact List.take_prefix _ _
    · exact List.prefix_refl _
  have hloop : LoopEnds faults log I maxRecords fromSeq.toNat
      (db.iterate faults .messages (numericKey kMessagePrefix fromSeq)).1
      (UnifiedStorage.scanLoop ext store.maxSeq maxRecords visitor
        (db.iterate faults .messages (numericKey kMessagePrefix fromSeq)).1 start 0
        (UInt64.ofNat fromSeq.toNat)) :=
    hdb.scanLoop_ends hindex hvalid hvisitor hgrows hstart
  rw [UInt64.ofNat_toNat] at hloop
  have hstatus := @Db.iterate_status db faults .messages (numericKey kMessagePrefix fromSeq)
  have hcomplete := @Db.iterate_entries db faults .messages (numericKey kMessagePrefix fromSeq)
  unfold UnifiedStorage.scanMessages
  generalize db.iterate faults .messages (numericKey kMessagePrefix fromSeq) = iterated at *
  obtain ⟨entries, status⟩ := iterated
  dsimp only at *
  generalize UnifiedStorage.scanLoop ext store.maxSeq maxRecords visitor entries start 0 fromSeq =
    exit at hloop ⊢
  cases hloop with
  | returned hreads => exact hreads
  | @budget state rest scanned nextSeq hrest hscanned hreached =>
      have hdone : ¬ (scanned < maxRecords ∧ nextSeq ≤ store.maxSeq ∧
          UnifiedStorage.missingAfterLoop rest store.maxSeq = true) := by
        rintro ⟨hlt, _⟩
        exact UInt64.not_lt.mpr hscanned hlt
      cases rest with
      | nil => exact absurd rfl hrest
      | cons entry rest =>
          dsimp only
          rw [if_neg hdone]
          exact .found hreached
  | @exhausted state scanned hstate =>
      cases status with
      | some reported => exact .fault (hstatus rfl)
      | none =>
          have hend : fromSeq.toNat + entries.length = log.length := by
            have hmax := hindex.maxSeq
            have hle := UInt64.le_iff_toNat_le.mp hfrom
            rw [hcomplete rfl, hseek, List.length_drop, encodedLog, List.length_mapIdx]
            omega
          have hpast : UInt64.ofNat (fromSeq.toNat + entries.length) = store.maxSeq + 1 := by
            rw [hend, ← hindex.maxSeq, UInt64.ofNat_add, UInt64.ofNat_toNat]
            rfl
          have hdone : ¬ UInt64.ofNat (fromSeq.toNat + entries.length) ≤ store.maxSeq := by
            rw [hpast, UInt64.le_iff_toNat_le, UInt64.toNat_add_one hnext]
            omega
          dsimp only
          rw [if_neg (fun hmissing => hdone hmissing.2.1)]
          exact .found ⟨_, Nat.le_add_right _ _, Nat.le_of_eq hend, hstate, rfl⟩

end Scan

/-! ### Channels -/

/-- The channel that `LoadChannel` finds. -/
def Db.findChannel (ext : Externals) (db : Db) (channelId : UInt64) : Option ChannelInfo :=
  if channelId = 0 then some systemChannel else db.channel ext channelId

section Channels

variable {ext : Externals} {db : Db} {store : Store} {log : List EventMessage}
variable {faults : ReadFaults} {channelId principal : UInt64}

theorem loadChannel_findChannel {found : Option ChannelInfo}
    (h : loadChannel ext db faults channelId = .ok found) : db.findChannel ext channelId = found := by
  unfold loadChannel at h
  unfold Db.findChannel
  split at h
  · rename_i hzero
    rw [if_pos hzero]
    exact Except.ok.inj h
  · rename_i hne
    rw [if_neg hne]
    unfold UnifiedStorage.getChannel Db.get at h
    split at h
    · cases h
    · rename_i hget
      split at hget
      · cases hget
      · have hget : db.metadata.get (numericKey kChannelPrefix channelId) = none :=
          Except.ok.inj hget
        rw [Db.channel, hget, ← Except.ok.inj h]
        rfl
    · rename_i value hget
      split at hget
      · cases hget
      · have hget : db.metadata.get (numericKey kChannelPrefix channelId) = some value :=
          Except.ok.inj hget
        obtain ⟨channel, hparsed, hfound⟩ := Fallible.bind_ok h
        rw [Db.channel, hget, ← Except.ok.inj hfound]
        unfold UnifiedStorage.parseChannel at hparsed
        split at hparsed
        · cases hparsed
        · split at hparsed
          · cases hparsed
          · rw [← Except.ok.inj hparsed]
            assumption

theorem Represents.reads_loadChannel (hdb : Represents ext db store) (hvalid : store.Valid ext)
    (channelId : UInt64) :
    Reads faults (· = db.findChannel ext channelId) (loadChannel ext db faults channelId) := by
  unfold loadChannel Db.findChannel
  split
  · exact .found rfl
  · rw [hdb.channel_eq]
    exact hdb.reads_getChannel hvalid channelId

/-- No message refers to a missing channel. -/
theorem Coherent.findChannel (h : Coherent ext store log) (hdb : Represents ext db store)
    {message : EventMessage} (hmessage : message ∈ log) :
    ∃ channel, db.findChannel ext message.channelId = some channel := by
  unfold Db.findChannel
  split
  · exact ⟨_, rfl⟩
  · rename_i hne
    rw [hdb.channel_eq]
    exact Option.isSome_iff_exists.mp ((h.channelIndex.channels_iff message.channelId).mpr
      ⟨hne, h.channelIndex.channelId_lt message hmessage⟩)

/-- Whether the principal may read the channel in this snapshot. -/
def readable (ext : Externals) (snapshot : Db) (principal channelId : UInt64) : Bool :=
  match snapshot.findChannel ext channelId with
  | some channel => canRead channel principal
  | none => false

private theorem validateReadableLoop_ok {channels validated : List UInt64}
    (hvalidated : ∀ channelId ∈ validated, readable ext db principal channelId = true)
    (h : validateReadableLoop ext db faults principal channels validated = .ok ()) :
    ∀ channelId ∈ channels, readable ext db principal channelId = true := by
  induction channels generalizing validated with
  | nil => simp
  | cons first rest ih =>
      intro channelId hmember
      unfold validateReadableLoop at h
      split at h
      · rename_i hseen
        rcases List.mem_cons.mp hmember with rfl | hrest
        · exact hvalidated channelId (by simpa using hseen)
        · exact ih hvalidated h channelId hrest
      · obtain ⟨found, hfound, h⟩ := Fallible.bind_ok h
        have hread := loadChannel_findChannel hfound
        cases found with
        | none => cases h
        | some channel =>
            dsimp only at h
            split at h
            · rename_i hcan
              have hfirst : readable ext db principal first = true := by
                rw [readable, hread]
                exact hcan
              rcases List.mem_cons.mp hmember with rfl | hrest
              · exact hfirst
              · refine ih ?_ h channelId hrest
                intro other hother
                rcases List.mem_cons.mp hother with rfl | hold
                · exact hfirst
                · exact hvalidated other hold
            · cases h

theorem validateReadableChannels_ok {channels : List UInt64}
    (h : validateReadableChannels ext db faults principal channels = .ok ()) :
    ∀ channelId ∈ channels, readable ext db principal channelId = true :=
  validateReadableLoop_ok (by simp) h

end Channels

/-! ### Visitors -/

section Visitors

variable {ext : Externals} {db : Db} {store : Store} {log : List EventMessage}
variable {faults : ReadFaults} {config : Config} {principal : UInt64} {limit : UInt32}
variable {onlyMyRecipient : Bool} {channels : List UInt64}

/-- The messages that a reader is shown from this snapshot. -/
def visible (ext : Externals) (snapshot : Db) (principal : UInt64) (onlyMyRecipient : Bool)
    (channels : List UInt64) (message : EventMessage) : Bool :=
  (channels.isEmpty || channels.contains message.channelId) &&
    readable ext snapshot principal message.channelId &&
    (!onlyMyRecipient || hasRecipient message principal)

/-- What a scan from `start` has collected when it has come to `position`. -/
structure Collected (db : Db) (ext : Externals) (verdict : ChannelInfo → Bool)
    (shown : EventMessage → Bool) (log : List EventMessage) (start : Nat) (state : ScanState)
    (position : Nat) : Prop where
  start_le : start ≤ position
  messages : state.messages = (slice log start position).filter shown
  known : ∀ channelId answer, state.readable channelId = some answer →
    ∃ channel, db.findChannel ext channelId = some channel ∧ answer = verdict channel

variable {verdict : ChannelInfo → Bool} {shown : EventMessage → Bool} {start position : Nat}
variable {state : ScanState} {message : EventMessage}

theorem channelEntry_reads (hdb : Represents ext db store) (hvalid : store.Valid ext)
    (hstate : Collected db ext verdict shown log start state position) {channelId : UInt64}
    {channel : ChannelInfo} (hchannel : db.findChannel ext channelId = some channel)
    (operation : String) :
    Reads faults (fun found => found.2 = verdict channel ∧
        Collected db ext verdict shown log start found.1 position)
      (channelEntry ext db faults operation verdict state channelId) := by
  unfold channelEntry
  split
  · rename_i answer hanswer
    obtain ⟨found, hfound, rfl⟩ := hstate.known channelId answer hanswer
    rw [hchannel] at hfound
    cases hfound
    exact .found ⟨rfl, hstate⟩
  · refine (hdb.reads_loadChannel hvalid channelId).bind ?_
    rintro _ rfl
    rw [hchannel]
    refine .found ⟨rfl, hstate.start_le, hstate.messages, ?_⟩
    intro other answer hother
    by_cases heq : other = channelId
    · subst heq
      exact ⟨channel, hchannel, by simpa using hother.symm⟩
    · exact hstate.known other answer (by simpa [heq] using hother)

/-- A message that is not shown is passed over. -/
private theorem Collected.skip (h : Collected db ext verdict shown log start state position)
    (hat : log[position]? = some message) (hshown : shown message = false) :
    Collected db ext verdict shown log start state (position + 1) where
  start_le := Nat.le_succ_of_le h.start_le
  messages := by
    rw [slice.succ h.start_le hat, List.filter_append, h.messages]
    simp [hshown]
  known := h.known

theorem addMessage_reads (h : Collected db ext verdict shown log start state position)
    (hat : log[position]? = some message) (hshown : shown message = true) :
    Reads faults
      (Visited (Collected db ext verdict shown log start)
        (addMessage ext config limit state message).1 position)
      (addMessage ext config limit state message).2 := by
  have hadded : Collected db ext verdict shown log start
      { state with
        messages := state.messages ++ [message]
        responseBytes := state.responseBytes + ext.byteSizeLong message } (position + 1) :=
    ⟨Nat.le_succ_of_le h.start_le, by
      rw [slice.succ h.start_le hat, List.filter_append, h.messages]
      simp [hshown], h.known⟩
  unfold addMessage
  dsimp only
  split
  · exact .found h
  · split
    · exact .found hadded
    · exact .found hadded

theorem Coherent.visitVisible_keeps (hcoherent : Coherent ext store log)
    (hdb : Represents ext db store) (faults : ReadFaults) (config : Config) (principal : UInt64)
    (limit : UInt32) (onlyMyRecipient : Bool) (channels : List UInt64) (start : Nat) :
    VisitorKeeps faults log
      (Collected db ext (canRead · principal)
        (visible ext db principal onlyMyRecipient channels) log start)
      (visitVisible ext config db faults principal limit onlyMyRecipient channels) := by
  intro state position message hat hstate
  obtain ⟨channel, hchannel⟩ := hcoherent.findChannel hdb (List.mem_of_getElem? hat)
  have hreadable : readable ext db principal message.channelId = canRead channel principal := by
    rw [readable, hchannel]
  unfold visitVisible
  split
  · rename_i hother
    refine .found (hstate.skip hat ?_)
    have hempty : channels.isEmpty = false := by simpa using hother.1
    rw [visible, hempty, hother.2]
    rfl
  · rename_i hrequested
    have hpassed : (channels.isEmpty || channels.contains message.channelId) = true := by
      by_contra hneither
      simp only [Bool.or_eq_true, not_or, Bool.not_eq_true] at hneither
      exact hrequested ⟨by simpa using hneither.1, hneither.2⟩
    have hentry : Reads faults _ (channelEntry ext db faults "scan visible messages" _ state _) :=
      channelEntry_reads hdb hcoherent.valid hstate hchannel "scan visible messages"
    generalize channelEntry ext db faults "scan visible messages" (canRead · principal) state
      message.channelId = entry at hentry ⊢
    cases hentry with
    | fault hreport => exact .fault hreport
    | noSnapshot hsnapshot => exact .noSnapshot hsnapshot
    | @found found hfound =>
        obtain ⟨state', known⟩ := found
        obtain ⟨rfl, hstate'⟩ := hfound
        dsimp only
        split
        · rename_i hhidden
          refine .found (hstate'.skip hat ?_)
          rw [visible, hpassed, hreadable]
          rcases hhidden with hunreadable | ⟨honly, hnot⟩
          · simp [hunreadable]
          · simp [honly, hnot]
        · rename_i hshown
          refine addMessage_reads hstate' hat ?_
          rw [visible, hpassed, hreadable]
          simp only [not_or, Bool.not_eq_false, not_and] at hshown
          cases onlyMyRecipient with
          | false => simp [hshown.1]
          | true => simp [hshown.1, hshown.2 rfl]

theorem Coherent.visitAll_keeps (hcoherent : Coherent ext store log)
    (hdb : Represents ext db store) (faults : ReadFaults) (config : Config) (limit : UInt32)
    (start : Nat) :
    VisitorKeeps faults log
      (Collected db ext (fun _ => true) (fun _ => true) log start)
      (visitAll ext config db faults limit) := by
  intro state position message hat hstate
  obtain ⟨channel, hchannel⟩ := hcoherent.findChannel hdb (List.mem_of_getElem? hat)
  have hentry : Reads faults _
      (channelEntry ext db faults "scan subscription messages" _ state _) :=
    channelEntry_reads hdb hcoherent.valid hstate hchannel "scan subscription messages"
  unfold visitAll
  generalize channelEntry ext db faults "scan subscription messages" (fun _ => true) state
    message.channelId = entry at hentry ⊢
  cases hentry with
  | fault hreport => exact .fault hreport
  | noSnapshot hsnapshot => exact .noSnapshot hsnapshot
  | @found found hfound => exact addMessage_reads hfound.2 hat rfl

end Visitors

/-! ### Pages of messages -/

section Pages

variable {ext : Externals} {db : Db} {store : Store} {log : List EventMessage}
variable {faults : ReadFaults} {config : Config} {principal fromSeq : UInt64} {limit : UInt32}
variable {onlyMyRecipient : Bool} {channels : List UInt64}

/-- A page from `fromSeq` on: what is shown of the log up to the cursor that the
page returns. -/
structure PageOf (log : List EventMessage) (store : Store) (shown : EventMessage → Bool)
    (fromSeq : UInt64) (response : FetchResponse) : Prop where
  lastSeq : response.lastSeq = store.maxSeq
  page : fromSeq.toNat ≤ log.length → ∃ position, fromSeq.toNat ≤ position ∧
    position ≤ log.length ∧ response.nextSeq = UInt64.ofNat position ∧
    response.messages = (slice log fromSeq.toNat position).filter shown

/-- The page of a reader who is at the end of the log. -/
private theorem LogIndex.emptyPage (h : LogIndex store log) {shown : EventMessage → Bool}
    (hfrom : fromSeq > store.maxSeq) :
    PageOf log store shown fromSeq
      { messages := [], nextSeq := store.maxSeq + 1, lastSeq := store.maxSeq } where
  lastSeq := rfl
  page hle := by
    have hmax := h.maxSeq
    have hlt := UInt64.lt_iff_toNat_lt.mp hfrom
    have hend : fromSeq.toNat = log.length := by omega
    refine ⟨log.length, hle, le_refl _, ?_, by simp [hend]⟩
    rw [← hmax, UInt64.ofNat_add, UInt64.ofNat_toNat]
    rfl

theorem Coherent.reads_fetchVisible (hcoherent : Coherent ext store log)
    (hdb : Represents ext db store) (hnext : store.maxSeq + 1 ≠ 0)
    (hchannels : ∀ channelId ∈ channels, readable ext db principal channelId = true) :
    Reads faults (PageOf log store (visible ext db principal onlyMyRecipient channels) fromSeq)
      (fetchVisible ext config db faults principal fromSeq limit onlyMyRecipient channels) := by
  unfold fetchVisible
  refine hdb.reads_getMaxSeq.bind ?_
  rintro _ rfl
  split
  · rename_i hpast
    exact .found (hcoherent.logIndex.emptyPage hpast)
  · rename_i hwithin
    have hstart : Collected db ext (canRead · principal)
        (visible ext db principal onlyMyRecipient channels) log fromSeq.toNat
        { readable := fun channelId => if channels.contains channelId then some true else none }
        fromSeq.toNat := by
      refine ⟨le_refl _, by simp, ?_⟩
      intro channelId answer hanswer
      obtain ⟨hmember, rfl⟩ : channels.contains channelId = true ∧ true = answer := by
        simpa using hanswer
      have hreadable := hchannels channelId (by simpa using hmember)
      unfold readable at hreadable
      split at hreadable
      · rename_i channel hchannel
        exact ⟨channel, hchannel, hreadable.symm⟩
      · cases hreadable
    have hscan := hdb.scanMessages_reads hcoherent.logIndex hcoherent.valid hnext
      config.maxScanRecords
      (hcoherent.visitVisible_keeps hdb faults config principal limit onlyMyRecipient channels _)
      (UInt64.not_lt.mp hwithin) hstart
    refine hscan.bind ?_
    rintro nextSeq ⟨position, hfrom, hle, hstate, rfl⟩
    exact .found ⟨rfl, fun _ => ⟨position, hfrom, hle, rfl, hstate.messages⟩⟩

theorem Coherent.reads_listAllMessages (hcoherent : Coherent ext store log)
    (hdb : Represents ext db store) (hnext : store.maxSeq + 1 ≠ 0) :
    Reads faults (PageOf log store (fun _ => true) fromSeq)
      (listAllMessages ext config db faults fromSeq limit) := by
  unfold listAllMessages
  refine hdb.reads_getMaxSeq.bind ?_
  rintro _ rfl
  split
  · rename_i hpast
    exact .found (hcoherent.logIndex.emptyPage hpast)
  · rename_i hwithin
    have hstart : Collected db ext (fun _ => true) (fun _ => true) log fromSeq.toNat {}
        fromSeq.toNat := ⟨le_refl _, by simp, by simp⟩
    have hscan := hdb.scanMessages_reads hcoherent.logIndex hcoherent.valid hnext
      config.maxScanRecords (hcoherent.visitAll_keeps hdb faults config limit _)
      (UInt64.not_lt.mp hwithin) hstart
    refine hscan.bind ?_
    rintro nextSeq ⟨position, hfrom, hle, hstate, rfl⟩
    exact .found ⟨rfl, fun _ => ⟨position, hfrom, hle, rfl, hstate.messages⟩⟩

end Pages

/-! ### The list of channels -/

section ChannelList

variable {ext : Externals} {db : Db} {store : Store} {faults : ReadFaults}

/-- The entries of the metadata family under the channel prefix are channels. -/
theorem Represents.channel_entry (h : Represents ext db store) {entry : Bytes × Bytes}
    (hentry : db.metadata.get entry.1 = some entry.2)
    (hstarts : startsWith entry.1 kChannelPrefix = true) :
    ∃ channelId channel, entry.1 = numericKey kChannelPrefix channelId ∧
      store.channels channelId = some channel ∧
      ext.channelInfo.parseFromString entry.2 = some channel := by
  obtain ⟨key, hkey⟩ := h.metadata_only entry.1 (by simp [hentry])
  have hhead : key.bytes.head? = some 0x63 := by
    rw [← hkey]
    have hprefix : Bytes.ofString kChannelPrefix <+: entry.1 :=
      List.isPrefixOf_iff_prefix.mp hstarts
    obtain ⟨rest, hrest⟩ := hprefix
    rw [← hrest]
    rfl
  have hheld := h.metadata key
  rw [← hkey, hentry] at hheld
  cases key with
  | channel channelId =>
      have hstored : StoredAs ext.channelInfo (some entry.2) (store.channels channelId) := hheld
      rcases hstored.cases with ⟨hnone, _⟩ | ⟨bytes, channel, hsome, hrecord, hparse⟩
      · cases hnone
      · cases hsome
        exact ⟨channelId, channel, hkey, hrecord, hparse⟩
  | _ => exact absurd hhead (by simp [MetadataKey.head_bytes, MetadataKey.firstByte])

private theorem reads_listChannelsLoop (h : Represents ext db store) (hvalid : store.Valid ext)
    {status : Option RocksStatus}
    (hstatus : ∀ reported, status = some reported → faults.Reports reported)
    {entries : List (Bytes × Bytes)}
    (hentries : ∀ entry ∈ entries, db.metadata.get entry.1 = some entry.2) :
    Reads faults (fun channels => ∀ channel ∈ channels,
        store.channels channel.channelId = some channel)
      (UnifiedStorage.listChannelsLoop ext status entries) := by
  induction entries with
  | nil =>
      cases status with
      | none => exact .found (by simp)
      | some reported => exact .fault (hstatus reported rfl)
  | cons entry rest ih =>
      rw [UnifiedStorage.listChannelsLoop]
      split
      · exact .found (by simp)
      · rename_i hstarts
        obtain ⟨channelId, channel, hkey, hrecord, hparse⟩ :=
          h.channel_entry (hentries entry (by simp)) (by simpa using hstarts)
        rw [hkey, decodeNumericKey_numericKey]
        refine Reads.bind (.found rfl) ?_
        rintro _ rfl
        rw [hvalid.parseChannel hrecord hparse]
        refine Reads.bind (.found rfl) ?_
        rintro _ rfl
        refine (ih (fun other hother => hentries other (by simp [hother]))).bind ?_
        intro channels hchannels
        refine .found ?_
        intro found hfound
        rcases List.mem_cons.mp hfound with rfl | hrest
        · rw [(hvalid.channel channelId found hrecord).1, hrecord]
        · exact hchannels found hrest

theorem Represents.reads_listChannels (h : Represents ext db store) (hvalid : store.Valid ext) :
    Reads faults (fun channels => ∀ channel ∈ channels,
        store.channels channel.channelId = some channel)
      (UnifiedStorage.listChannels ext db faults) := by
  refine reads_listChannelsLoop h hvalid (fun _ hreported => Db.iterate_status hreported) ?_
  intro entry hentry
  have hmember : entry ∈ db.metadata.seek (Bytes.ofString kChannelPrefix) := Db.iterate_mem hentry
  exact ((SortedMap.mem_seek _ _ entry.1 entry.2).mp hmember).2

end ChannelList

end OpenEvent
