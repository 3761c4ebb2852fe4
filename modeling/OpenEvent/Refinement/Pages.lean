import OpenEvent.Refinement.ScanTrace
import OpenEvent.Refinement.Scans

/-!
Pages of messages from a snapshot with a valid log: what one page holds, where
it ends, and what the pages add up to when a reader follows the cursor.
-/

namespace OpenEvent

open OpenEventCore

/-- A snapshot whose messages family holds the log `0..M` and nothing else, with
`M + 1` still a 64-bit value. Every record passes the checks of the scan and
every message belongs to a channel that can be loaded. -/
structure ValidLog (ext : Externals) (db : Db) (log : List EventMessage) : Prop where
  nonempty : log ≠ []
  fits : log.length < 2 ^ 64
  maxSeq : db.metadata.get (Bytes.ofString kMaxSeqKey) =
    some (encodeUint64 (UInt64.ofNat (log.length - 1)))
  stored : ∀ position message, log[position]? = some message →
    db.scannedMessage ext (UInt64.ofNat position) = some message
  only : ∀ key, db.messages.get key ≠ none →
    ∃ position, position < log.length ∧ key = numericKey kMessagePrefix (UInt64.ofNat position)
  channels : ∀ message ∈ log,
    ∃ channel, loadChannel ext db {} message.channelId = .ok (some channel)

/-- What a page from `fromSeq` on holds and where it ends. -/
structure PageLaw (ext : Externals) (config : Config) (log : List EventMessage)
    (shown : EventMessage → Bool) (fromSeq : UInt64) (limit : UInt32) (page : FetchResponse) :
    Prop where
  lastSeq : page.lastSeq.toNat + 1 = log.length
  advances : fromSeq < page.nextSeq
  nextSeq_le : page.nextSeq ≤ page.lastSeq + 1
  scanned : page.nextSeq.toNat - fromSeq.toNat ≤ config.maxScanRecords.toNat
  messages : page.messages = (slice log fromSeq.toNat page.nextSeq.toNat).filter shown
  length_le : page.messages.length ≤ limit.toNat
  bytes : (page.messages.map ext.byteSizeLong).sum ≤ config.responseSoftLimitBytes ∨
    page.messages.length = 1
  early : page.nextSeq < page.lastSeq + 1 →
    page.messages.length = limit.toNat ∨
    page.nextSeq.toNat - fromSeq.toNat = config.maxScanRecords.toNat ∨
    ∃ message, log[page.nextSeq.toNat]? = some message ∧ shown message = true ∧
      config.responseSoftLimitBytes <
        (page.messages.map ext.byteSizeLong).sum + ext.byteSizeLong message

/-! ### The entries of a valid log -/

/-- The entries of the records from a position of the log to its end. -/
inductive Stretch (ext : Externals) (log : List EventMessage) :
    Nat → List (Bytes × Bytes) → Prop
  | nil : Stretch ext log log.length []
  | cons {position : Nat} {value : Bytes} {message : EventMessage}
      {rest : List (Bytes × Bytes)} : log[position]? = some message →
      UnifiedStorage.checkMessage ext (UInt64.ofNat position) value = .ok message →
      Stretch ext log (position + 1) rest →
      Stretch ext log position ((numericKey kMessagePrefix (UInt64.ofNat position), value) :: rest)

section Entries

variable {ext : Externals} {db : Db} {log : List EventMessage}

private theorem toNat_position {position : Nat} (h : position < 2 ^ 64) :
    (UInt64.ofNat position).toNat = position := by
  rw [UInt64.toNat_ofNat', Nat.mod_eq_of_lt h]

theorem ValidLog.seek (h : ValidLog ext db log) {position : Nat} (hle : position ≤ log.length) :
    Stretch ext log position
      (db.messages.seek (numericKey kMessagePrefix (UInt64.ofNat position))) := by
  have hfits := h.fits
  have hlt_iff {left right : Nat} (hleft : left ≤ log.length) (hright : right ≤ log.length) :
      numericKey kMessagePrefix (UInt64.ofNat left) <
        numericKey kMessagePrefix (UInt64.ofNat right) ↔ left < right := by
    rw [numericKey_lt_iff, UInt64.lt_iff_toNat_lt, toNat_position (by omega),
      toNat_position (by omega)]
  induction hremaining : log.length - position generalizing position with
  | zero =>
      obtain rfl : position = log.length := by omega
      have hnil : db.messages.seek (numericKey kMessagePrefix (UInt64.ofNat log.length)) = [] := by
        apply SortedMap.seek_eq_nil
        intro key hkey
        obtain ⟨other, hother, rfl⟩ := h.only key hkey
        exact (hlt_iff (by omega) le_rfl).mpr hother
      rw [hnil]
      exact .nil
  | succ remaining ih =>
      have hlt : position < log.length := by omega
      have hat := List.getElem?_eq_getElem hlt
      obtain ⟨value, hvalue, hchecked⟩ := Db.scannedMessage_checked (h.stored position _ hat)
      have hcons := db.messages.seek_cons hvalue ((hlt_iff hle hlt).mpr (Nat.lt_succ_self _)) (by
        intro key hkey hgreater
        obtain ⟨other, hother, rfl⟩ := h.only key hkey
        have hbeyond := (hlt_iff hle (by omega)).mp hgreater
        rw [← not_lt, hlt_iff (by omega) hlt]
        omega)
      rw [hcons]
      exact .cons hat hchecked (ih hlt (by omega))

/-- A scan over a valid log ends well unless its visitor fails. -/
def LoopSucceeds {σ : Type} (lastSeq maxRecords : UInt64) : UnifiedStorage.ScanExit σ → Prop
  | .returned _ result => ∃ next, result = .ok next
  | .left _ _ scanned nextSeq => maxRecords ≤ scanned ∨ lastSeq < nextSeq

variable {σ : Type} {I : σ → Prop}
variable {visitor : σ → EventMessage → σ × Result UnifiedStorage.MessageScanAction}

theorem Stretch.scanLoop_succeeds {position : Nat} {entries : List (Bytes × Bytes)}
    (h : Stretch ext log position entries) (hvalid : ValidLog ext db log)
    (hvisitor : ∀ state message, message ∈ log → I state →
      I (visitor state message).1 ∧ ∃ action, (visitor state message).2 = .ok action)
    {state : σ} (hstate : I state) (maxRecords scanned : UInt64) :
    LoopSucceeds (UInt64.ofNat (log.length - 1)) maxRecords
      (UnifiedStorage.scanLoop ext (UInt64.ofNat (log.length - 1)) maxRecords visitor entries state
        scanned (UInt64.ofNat position)) := by
  have hfits := hvalid.fits
  have hpositive := List.length_pos_iff.mpr hvalid.nonempty
  induction h generalizing state scanned with
  | nil =>
      refine Or.inr ?_
      rw [UInt64.lt_iff_toNat_lt, toNat_position (by omega), toNat_position (by omega)]
      omega
  | @cons position value message rest hat hchecked _ ih =>
      have hlt := (List.getElem?_eq_some_iff.mp hat).1
      have hinside : ¬ UInt64.ofNat position > UInt64.ofNat (log.length - 1) := by
        rw [gt_iff_lt, UInt64.lt_iff_toNat_lt, toNat_position (by omega),
          toNat_position (by omega)]
        omega
      rw [UnifiedStorage.scanLoop, if_neg (by simp [startsWith_numericKey]),
        decodeNumericKey_numericKey]
      dsimp only
      rw [if_neg hinside, if_neg (by simp)]
      by_cases hspent : scanned ≥ maxRecords
      · rw [if_pos hspent]
        exact Or.inl hspent
      · rw [if_neg hspent, hchecked]
        obtain ⟨hnext, action, haction⟩ :=
          hvisitor state message (List.mem_of_getElem? hat) hstate
        dsimp only
        generalize visitor state message = outcome at hnext haction ⊢
        obtain ⟨next, answer⟩ := outcome
        obtain rfl : answer = .ok action := haction
        cases action with
        | kStopBefore => exact ⟨_, rfl⟩
        | kStopAfter => exact ⟨_, rfl⟩
        | kContinue =>
            have hsucc : UInt64.ofNat position + 1 = UInt64.ofNat (position + 1) := by simp
            dsimp only
            rw [hsucc]
            exact ih hnext (scanned + 1)

theorem ValidLog.scan_succeeds (h : ValidLog ext db log)
    (hvisitor : ∀ state message, message ∈ log → I state →
      I (visitor state message).1 ∧ ∃ action, (visitor state message).2 = .ok action)
    {state : σ} (hstate : I state) (maxRecords : UInt64) {fromSeq : UInt64}
    (hfrom : fromSeq.toNat < log.length) :
    ∃ last next, UnifiedStorage.scanMessages ext db {} fromSeq (UInt64.ofNat (log.length - 1))
      maxRecords visitor state = (last, .ok next) := by
  have hstretch := h.seek (Nat.le_of_lt hfrom)
  rw [UInt64.ofNat_toNat] at hstretch
  have hloop := hstretch.scanLoop_succeeds h hvisitor hstate maxRecords 0
  rw [UInt64.ofNat_toNat] at hloop
  have hiterate : db.iterate {} .messages (numericKey kMessagePrefix fromSeq) =
      (db.messages.seek (numericKey kMessagePrefix fromSeq), none) := rfl
  unfold UnifiedStorage.scanMessages
  rw [hiterate]
  dsimp only
  generalize UnifiedStorage.scanLoop ext (UInt64.ofNat (log.length - 1)) maxRecords visitor
    (db.messages.seek (numericKey kMessagePrefix fromSeq)) state 0 fromSeq = exit at hloop ⊢
  cases exit with
  | returned last result =>
      obtain ⟨next, rfl⟩ := hloop
      exact ⟨last, next, rfl⟩
  | left last rest scanned nextSeq =>
      have hdone : ¬ (scanned < maxRecords ∧ nextSeq ≤ UInt64.ofNat (log.length - 1) ∧
          UnifiedStorage.missingAfterLoop rest (UInt64.ofNat (log.length - 1)) = true) := by
        rintro ⟨hleft, hinside, _⟩
        rcases hloop with hspent | hpast
        · exact UInt64.not_lt.mpr hspent hleft
        · exact UInt64.not_lt.mpr hinside hpast
      dsimp only
      rw [if_neg hdone]
      cases rest <;> exact ⟨last, nextSeq, rfl⟩

end Entries

/-! ### One page -/

section Page

variable {ext : Externals} {config : Config} {db : Db} {log : List EventMessage}
variable {limit : UInt32} {shown : EventMessage → Bool} {known : (UInt64 → Option Bool) → Prop}
variable {visitor : ScanState → EventMessage → ScanState × Result UnifiedStorage.MessageScanAction}

/-- A visitor that passes over the messages it does not show and adds the others.
`known` is what it relies on about the channels met so far. -/
def Shows (ext : Externals) (config : Config) (log : List EventMessage) (limit : UInt32)
    (shown : EventMessage → Bool) (known : (UInt64 → Option Bool) → Prop)
    (visitor : ScanState → EventMessage →
      ScanState × Result UnifiedStorage.MessageScanAction) : Prop :=
  ∀ state message, message ∈ log → known state.readable →
    ∃ readable, known readable ∧ visitor state message =
      if shown message then addMessage ext config limit { state with readable } message
      else ({ state with readable }, .ok .kContinue)

/-- What a scan has gathered from the messages it has seen. -/
structure Gathered (ext : Externals) (config : Config) (shown : EventMessage → Bool)
    (known : (UInt64 → Option Bool) → Prop) (seen : List EventMessage) (state : ScanState) :
    Prop where
  known : known state.readable
  messages : state.messages = seen.filter shown
  bytes : state.responseBytes = (state.messages.map ext.byteSizeLong).sum
  within : state.responseBytes ≤ config.responseSoftLimitBytes ∨ state.messages.length = 1

/-- The state with one more message in the response. -/
def OpenEventCore.ScanState.added (ext : Externals) (state : ScanState) (message : EventMessage) : ScanState :=
  { state with
    messages := state.messages ++ [message]
    responseBytes := state.responseBytes + ext.byteSizeLong message }

/-- The three ends of a visit of a shown message. -/
inductive Adds (ext : Externals) (config : Config) (limit : UInt32) (state : ScanState)
    (message : EventMessage) : ScanState × Result UnifiedStorage.MessageScanAction → Prop
  | stopBefore : state.messages ≠ [] → config.responseSoftLimitBytes <
      state.responseBytes + ext.byteSizeLong message →
      Adds ext config limit state message (state, .ok .kStopBefore)
  | stopAfter : (state.messages = [] ∨ ext.byteSizeLong message ≤
      config.responseSoftLimitBytes - min state.responseBytes config.responseSoftLimitBytes) →
      limit.toNat ≤ state.messages.length + 1 →
      Adds ext config limit state message (state.added ext message, .ok .kStopAfter)
  | goesOn : (state.messages = [] ∨ ext.byteSizeLong message ≤
      config.responseSoftLimitBytes - min state.responseBytes config.responseSoftLimitBytes) →
      state.messages.length + 1 < limit.toNat →
      Adds ext config limit state message (state.added ext message, .ok .kContinue)

theorem addMessage_adds (state : ScanState) (message : EventMessage) :
    Adds ext config limit state message (addMessage ext config limit state message) := by
  unfold addMessage
  dsimp only
  split
  · rename_i hfull
    refine .stopBefore hfull.1 ?_
    omega
  · rename_i hroom
    have hfits : state.messages = [] ∨ ext.byteSizeLong message ≤
        config.responseSoftLimitBytes - min state.responseBytes config.responseSoftLimitBytes := by
      rw [not_and_or, not_not] at hroom
      exact hroom.imp_right Nat.not_lt.mp
    split
    · rename_i hlength
      rw [List.length_append] at hlength
      exact .stopAfter hfits hlength
    · rename_i hlength
      rw [List.length_append] at hlength
      exact .goesOn hfits (Nat.not_le.mp hlength)

variable {state : ScanState} {seen : List EventMessage} {message : EventMessage}

theorem Gathered.skip (h : Gathered ext config shown known seen state)
    {readable : UInt64 → Option Bool} (hknown : known readable) (hshown : shown message = false) :
    Gathered ext config shown known (seen ++ [message]) { state with readable } where
  known := hknown
  messages := by simp [h.messages, hshown]
  bytes := h.bytes
  within := h.within

/-- Adding a message that has a size. A first message is taken whatever its size
is, and nothing is added to one that is over the budget. -/
theorem Gathered.add (h : Gathered ext config shown known seen state)
    {readable : UInt64 → Option Bool} (hknown : known readable) (hshown : shown message = true)
    (hsize : state.messages ≠ [] → 0 < ext.byteSizeLong message)
    (hfits : state.messages = [] ∨ ext.byteSizeLong message ≤
      config.responseSoftLimitBytes - min state.responseBytes config.responseSoftLimitBytes) :
    Gathered ext config shown known (seen ++ [message])
      (({ state with readable } : ScanState).added ext message) where
  known := hknown
  messages := by simp [ScanState.added, h.messages, hshown]
  bytes := by simp [ScanState.added, h.bytes]
  within := by
    by_cases hempty : state.messages = []
    · exact Or.inr (by simp [ScanState.added, hempty])
    · have hpositive := hsize hempty
      have hroom := hfits.resolve_left hempty
      exact Or.inl (by simp only [ScanState.added]; omega)

/-- How the visit of a message ends. -/
inductive VisitEnds (ext : Externals) (config : Config) (limit : UInt32)
    (shown : EventMessage → Bool) (known : (UInt64 → Option Bool) → Prop)
    (seen : List EventMessage) (state : ScanState) (message : EventMessage) (next : ScanState) :
    Result UnifiedStorage.MessageScanAction → Prop
  | goesOn : Gathered ext config shown known (seen ++ [message]) next →
      (next.messages.length = state.messages.length ∨ next.messages.length < limit.toNat) →
      VisitEnds ext config limit shown known seen state message next (.ok .kContinue)
  | stopAfter : Gathered ext config shown known (seen ++ [message]) next →
      limit.toNat ≤ next.messages.length →
      next.messages.length = state.messages.length + 1 →
      VisitEnds ext config limit shown known seen state message next (.ok .kStopAfter)
  | stopBefore : Gathered ext config shown known seen next → next.messages ≠ [] →
      next.messages = state.messages → shown message = true →
      config.responseSoftLimitBytes < next.responseBytes + ext.byteSizeLong message →
      VisitEnds ext config limit shown known seen state message next (.ok .kStopBefore)

theorem Shows.visit (hshows : Shows ext config log limit shown known visitor)
    (hmessage : message ∈ log) (h : Gathered ext config shown known seen state)
    (hsize : state.messages ≠ [] → 0 < ext.byteSizeLong message) :
    VisitEnds ext config limit shown known seen state message (visitor state message).1
      (visitor state message).2 := by
  obtain ⟨readable, hknown, hvisit⟩ := hshows state message hmessage h.known
  rw [hvisit]
  cases hshown : shown message with
  | false => exact .goesOn (h.skip hknown hshown) (Or.inl rfl)
  | true =>
      rw [if_pos rfl]
      have hadds : Adds ext config limit { state with readable } message
          (addMessage ext config limit { state with readable } message) :=
        addMessage_adds { state with readable } message
      generalize addMessage ext config limit { state with readable } message = outcome at hadds ⊢
      cases hadds with
      | stopBefore hnonempty hover =>
          exact .stopBefore ⟨hknown, h.messages, h.bytes, h.within⟩ hnonempty rfl hshown hover
      | stopAfter hfits hlength =>
          refine .stopAfter (h.add hknown hshown hsize hfits) ?_ ?_
          · rw [ScanState.added, List.length_append]
            exact hlength
          · rw [ScanState.added, List.length_append]
            rfl
      | goesOn hfits hlength =>
          refine .goesOn (h.add hknown hshown hsize hfits) (Or.inr ?_)
          rw [ScanState.added, List.length_append]
          exact hlength

/-- The messages that a scan has passed are those of the log. -/
theorem ValidLog.passed {σ : Type} {last : σ} {first : σ} {start budget : Nat}
    {passing : σ → EventMessage → σ × Result UnifiedStorage.MessageScanAction}
    (h : ValidLog ext db log)
    (hpasses : Passes ext db (UInt64.ofNat (log.length - 1)) passing start budget first seen last) :
    start + seen.length ≤ log.length ∧ seen = slice log start (start + seen.length) := by
  have hfits := h.fits
  have hpositive := List.length_pos_iff.mpr h.nonempty
  have hrange := hpasses.range
  rw [UInt64.toNat_ofNat', Nat.mod_eq_of_lt (by omega)] at hrange
  have hend : start + seen.length ≤ log.length := by omega
  refine ⟨hend, ?_⟩
  apply List.ext_getElem
  · rw [slice.length_eq hend]
    omega
  · intro index hseen hslice
    have hposition : start + index < log.length := by omega
    have hpassed := hpasses.consecutive index _ (List.getElem?_eq_getElem hseen)
    rw [h.stored _ _ (List.getElem?_eq_getElem hposition)] at hpassed
    have hat := List.getElem?_eq_getElem hslice
    rw [slice.getElem?_of_lt (by omega), List.getElem?_eq_getElem hposition, hpassed] at hat
    exact Option.some.inj hat

theorem ValidLog.at (h : ValidLog ext db log) {seq : UInt64}
    (hstored : db.scannedMessage ext seq = some message) : log[seq.toNat]? = some message := by
  obtain ⟨value, hvalue, _⟩ := Db.scannedMessage_checked hstored
  obtain ⟨position, hlt, hkey⟩ := h.only (numericKey kMessagePrefix seq) (by simp [hvalue])
  obtain rfl : seq = UInt64.ofNat position := numericKey_injective _ hkey
  have hat := List.getElem?_eq_getElem hlt
  have hfits := h.fits
  rw [h.stored position _ hat] at hstored
  rw [UInt64.toNat_ofNat', Nat.mod_eq_of_lt (by omega), hat, hstored]

/-- Visitors of this kind never fail. -/
theorem Shows.succeeds (hshows : Shows ext config log limit shown known visitor)
    (state : ScanState) (message : EventMessage) (hmessage : message ∈ log)
    (hstate : known state.readable) :
    known (visitor state message).1.readable ∧ ∃ action, (visitor state message).2 = .ok action := by
  obtain ⟨readable, hreadable, hvisit⟩ := hshows state message hmessage hstate
  rw [hvisit]
  split
  · have hadds : Adds ext config limit { state with readable } message
        (addMessage ext config limit { state with readable } message) :=
      addMessage_adds { state with readable } message
    generalize addMessage ext config limit { state with readable } message = outcome at hadds ⊢
    cases hadds <;> exact ⟨hreadable, _, rfl⟩
  · exact ⟨hreadable, _, rfl⟩

section Ends

variable {fromSeq : UInt64} {start last : ScanState} {budget : Nat}

/-- Only a message without fields could have no size, and the first one of a
page may have any. -/
private theorem ValidLog.sized (h : ValidLog ext db log)
    (hsize : ∀ message : EventMessage, message.seq ≠ 0 → 0 < ext.byteSizeLong message)
    (hgathered : Gathered ext config shown known seen state)
    (hfit : fromSeq.toNat + seen.length < log.length)
    (hstored : db.scannedMessage ext (UInt64.ofNat (fromSeq.toNat + seen.length)) = some message) :
    state.messages ≠ [] → 0 < ext.byteSizeLong message := by
  intro hnonempty
  have hseen : seen ≠ [] := by
    rintro rfl
    exact hnonempty hgathered.messages
  have hpositive := List.length_pos_iff.mpr hseen
  have hfits := h.fits
  apply hsize
  rw [(Db.scannedMessage_some hstored).1]
  intro hzero
  have hvalue := congrArg UInt64.toNat hzero
  rw [UInt64.toNat_ofNat', Nat.mod_eq_of_lt (by omega), UInt64.toNat_zero] at hvalue
  omega

/-- What has been gathered when a scan has passed some messages. -/
theorem ValidLog.gathered (h : ValidLog ext db log)
    (hshows : Shows ext config log limit shown known visitor)
    (hsize : ∀ message : EventMessage, message.seq ≠ 0 → 0 < ext.byteSizeLong message)
    (hstart : Gathered ext config shown known [] start) (hlimit : start.messages.length < limit.toNat)
    (hpasses : Passes ext db (UInt64.ofNat (log.length - 1)) visitor fromSeq.toNat budget start seen
      last) :
    Gathered ext config shown known seen last ∧ last.messages.length < limit.toNat := by
  have hend := (h.passed hpasses).1
  refine hpasses.invariant (P := fun passed state => Gathered ext config shown known passed state ∧
    state.messages.length < limit.toNat) ⟨hstart, hlimit⟩ ?_
  rintro passed state message next hlt hstored ⟨hgathered, hlength⟩ hvisit
  have hmessage := List.mem_of_getElem? (h.at hstored)
  have hvisited := hshows.visit hmessage hgathered (h.sized hsize hgathered (by omega) hstored)
  rw [hvisit] at hvisited
  dsimp only at hvisited
  cases hvisited with
  | goesOn hnext hbound =>
      refine ⟨hnext, ?_⟩
      rcases hbound with hsame | hless
      · omega
      · exact hless

/-- A page ends where the messages gathered for it end. -/
theorem ValidLog.pageLaw (h : ValidLog ext db log)
    (hgathered : Gathered ext config shown known seen last) (hseen : seen ≠ [])
    (hend : fromSeq.toNat + seen.length ≤ log.length)
    (hslice : seen = slice log fromSeq.toNat (fromSeq.toNat + seen.length))
    (hbudget : seen.length ≤ config.maxScanRecords.toNat)
    (hlength : last.messages.length ≤ limit.toNat)
    (hearly : fromSeq.toNat + seen.length < log.length →
      last.messages.length = limit.toNat ∨ seen.length = config.maxScanRecords.toNat ∨
      ∃ message, log[fromSeq.toNat + seen.length]? = some message ∧ shown message = true ∧
        config.responseSoftLimitBytes < last.responseBytes + ext.byteSizeLong message) :
    PageLaw ext config log shown fromSeq limit
      { messages := last.messages
        nextSeq := UInt64.ofNat (fromSeq.toNat + seen.length)
        lastSeq := UInt64.ofNat (log.length - 1) } := by
  have hfits := h.fits
  have hpositive := List.length_pos_iff.mpr hseen
  have hlast : (UInt64.ofNat (log.length - 1)).toNat = log.length - 1 := by
    rw [UInt64.toNat_ofNat', Nat.mod_eq_of_lt (by omega)]
  have hafter : (UInt64.ofNat (log.length - 1) + 1).toNat = log.length := by
    rw [UInt64.toNat_add, hlast, UInt64.toNat_one, Nat.mod_eq_of_lt (by omega)]
    omega
  have hnext : (UInt64.ofNat (fromSeq.toNat + seen.length)).toNat = fromSeq.toNat + seen.length := by
    rw [UInt64.toNat_ofNat', Nat.mod_eq_of_lt (by omega)]
  refine ⟨?_, ?_, ?_, ?_, ?_, hlength, ?_, ?_⟩
  · dsimp only
    omega
  · dsimp only
    rw [UInt64.lt_iff_toNat_lt, hnext]
    omega
  · dsimp only
    rw [UInt64.le_iff_toNat_le, hnext, hafter]
    exact hend
  · dsimp only
    omega
  · dsimp only
    rw [hnext, ← hslice]
    exact hgathered.messages
  · rw [← hgathered.bytes]
    exact hgathered.within
  · dsimp only
    rw [UInt64.lt_iff_toNat_lt, hnext, hafter, ← hgathered.bytes]
    intro hless
    rcases hearly hless with hfull | hspent | hover
    · exact Or.inl hfull
    · exact Or.inr (Or.inl (by omega))
    · exact Or.inr (Or.inr hover)

end Ends

/-- A page is read, and it obeys the law. -/
theorem ValidLog.page (h : ValidLog ext db log)
    (hshows : Shows ext config log limit shown known visitor)
    (hsize : ∀ message : EventMessage, message.seq ≠ 0 → 0 < ext.byteSizeLong message)
    {start : ScanState} (hstart : Gathered ext config shown known [] start) (hlimit : 0 < limit)
    (hrecords : 0 < config.maxScanRecords) {fromSeq : UInt64}
    (hfrom : fromSeq.toNat < log.length) :
    ∃ state nextSeq,
      UnifiedStorage.scanMessages ext db {} fromSeq (UInt64.ofNat (log.length - 1))
        config.maxScanRecords visitor start = (state, .ok nextSeq) ∧
      PageLaw ext config log shown fromSeq limit
        { messages := state.messages, nextSeq, lastSeq := UInt64.ofNat (log.length - 1) } := by
  have hfits := h.fits
  have hlast : (UInt64.ofNat (log.length - 1)).toNat = log.length - 1 := by
    rw [UInt64.toNat_ofNat', Nat.mod_eq_of_lt (by omega)]
  have hlimit : start.messages.length < limit.toNat := by
    rw [hstart.messages]
    exact UInt32.lt_iff_toNat_lt.mp hlimit
  have hrecords := UInt64.lt_iff_toNat_lt.mp hrecords
  obtain ⟨state, nextSeq, hscan⟩ := h.scan_succeeds hshows.succeeds hstart.known
    config.maxScanRecords hfrom
  refine ⟨state, nextSeq, hscan, ?_⟩
  have hends : ScanEnds ext db (UInt64.ofNat (log.length - 1)) visitor fromSeq.toNat
      config.maxScanRecords.toNat start (state, .ok nextSeq) := by
    rw [← hscan]
    refine scanMessages_ends ?_ (by omega) start
    rw [UInt64.le_iff_toNat_le, hlast]
    omega
  cases hends with
  | @finished seen _ hpasses hend =>
      obtain ⟨hgathered, hlength⟩ := h.gathered hshows hsize hstart hlimit hpasses
      obtain ⟨hle, hslice⟩ := h.passed hpasses
      refine h.pageLaw hgathered ?_ hle hslice hpasses.within hlength.le ?_
      · rintro rfl
        rw [List.length_nil] at hend
        omega
      · intro hless
        omega
  | @exhausted seen _ hpasses hspent =>
      obtain ⟨hgathered, hlength⟩ := h.gathered hshows hsize hstart hlimit hpasses
      obtain ⟨hle, hslice⟩ := h.passed hpasses
      refine h.pageLaw hgathered ?_ hle hslice hpasses.within hlength.le ?_
      · rintro rfl
        rw [List.length_nil] at hspent
        rw [← hspent] at hrecords
        exact Nat.lt_irrefl _ hrecords
      · intro _
        exact Or.inr (Or.inl hspent)
  | @stoppedBefore seen middle _ message hmeets =>
      obtain ⟨hgathered, hlength⟩ := h.gathered hshows hsize hstart hlimit hmeets.toPasses
      obtain ⟨hle, hslice⟩ := h.passed hmeets.toPasses
      have hinside := hmeets.inside
      have hat := h.at hmeets.stored
      rw [UInt64.toNat_ofNat', Nat.mod_eq_of_lt (by omega)] at hat
      have hvisited := hshows.visit (List.mem_of_getElem? hat) hgathered
        (h.sized hsize hgathered (by omega) hmeets.stored)
      rw [hmeets.visit] at hvisited
      dsimp only at hvisited
      cases hvisited with
      | stopBefore hnext hnonempty hsame hshown hover =>
          refine h.pageLaw hnext ?_ hle hslice hmeets.within ?_ ?_
          · rintro rfl
            exact hnonempty hnext.messages
          · rw [hsame]
            exact hlength.le
          · intro _
            exact Or.inr (Or.inr ⟨message, hat, hshown, hover⟩)
  | @stoppedAfter seen middle _ message hmeets =>
      obtain ⟨hgathered, hlength⟩ := h.gathered hshows hsize hstart hlimit hmeets.toPasses
      obtain ⟨hle, hslice⟩ := h.passed hmeets.toPasses
      have hinside := hmeets.inside
      have haffordable := hmeets.affordable
      have hat := h.at hmeets.stored
      rw [UInt64.toNat_ofNat', Nat.mod_eq_of_lt (by omega)] at hat
      have hvisited := hshows.visit (List.mem_of_getElem? hat) hgathered
        (h.sized hsize hgathered (by omega) hmeets.stored)
      rw [hmeets.visit] at hvisited
      dsimp only at hvisited
      cases hvisited with
      | stopAfter hnext hfull hadded =>
          have hcount : fromSeq.toNat + seen.length + 1 =
              fromSeq.toNat + (seen ++ [message]).length := by
            rw [List.length_append, List.length_singleton]
            omega
          rw [hcount]
          refine h.pageLaw hnext (by simp) ?_ ?_ ?_ ?_ ?_
          · omega
          · rw [← hcount, slice.succ (by omega) hat, ← hslice]
          · rw [List.length_append, List.length_singleton]
            omega
          · omega
          · intro _
            exact Or.inl (by omega)

end Page

/-! ### The two visitors -/

section Visitors

variable {ext : Externals} {config : Config} {db : Db} {log : List EventMessage}
variable {limit : UInt32} {faults : ReadFaults} {channelId principal : UInt64}

/-- The channels met so far can be loaded and have the verdict noted for them. -/
def KnownChannels (ext : Externals) (db : Db) (verdict : ChannelInfo → Bool)
    (readable : UInt64 → Option Bool) : Prop :=
  ∀ channelId answer, readable channelId = some answer →
    ∃ channel, loadChannel ext db {} channelId = .ok (some channel) ∧ answer = verdict channel

theorem KnownChannels.entry {verdict : ChannelInfo → Bool} {state : ScanState}
    {channel : ChannelInfo} (h : KnownChannels ext db verdict state.readable)
    (hchannel : loadChannel ext db {} channelId = .ok (some channel)) (operation : String) :
    ∃ readable, KnownChannels ext db verdict readable ∧
      channelEntry ext db {} operation verdict state channelId =
        .ok ({ state with readable }, verdict channel) := by
  unfold channelEntry
  split
  · rename_i answer hanswer
    obtain ⟨found, hfound, rfl⟩ := h channelId answer hanswer
    rw [hchannel] at hfound
    cases hfound
    exact ⟨state.readable, h, rfl⟩
  · rw [hchannel]
    refine ⟨Function.update state.readable channelId (some (verdict channel)), ?_, rfl⟩
    intro other answer hother
    by_cases heq : other = channelId
    · subst heq
      exact ⟨channel, hchannel, by simpa using hother.symm⟩
    · exact h other answer (by simpa [heq] using hother)

theorem ValidLog.visitVisible_shows (h : ValidLog ext db log) (config : Config)
    (principal : UInt64) (limit : UInt32) (onlyMyRecipient : Bool) (channels : List UInt64) :
    Shows ext config log limit (visible ext db principal onlyMyRecipient channels)
      (KnownChannels ext db (canRead · principal))
      (visitVisible ext config db {} principal limit onlyMyRecipient channels) := by
  intro state message hmessage hknown
  obtain ⟨channel, hchannel⟩ := h.channels message hmessage
  have hreadable : readable ext db principal message.channelId = canRead channel principal := by
    rw [readable, loadChannel_findChannel hchannel]
  unfold visitVisible visible
  by_cases hfiltered : channels ≠ [] ∧ channels.contains message.channelId = false
  · refine ⟨state.readable, hknown, ?_⟩
    have hempty : channels.isEmpty = false := by
      rw [List.isEmpty_eq_false_iff]
      exact hfiltered.1
    rw [if_pos hfiltered, hempty, hfiltered.2]
    rfl
  · obtain ⟨readable, hnext, hentry⟩ := hknown.entry hchannel "scan visible messages"
    refine ⟨readable, hnext, ?_⟩
    have hlisted : (channels.isEmpty || channels.contains message.channelId) = true := by
      rw [not_and_or, not_not, Bool.not_eq_false] at hfiltered
      rcases hfiltered with rfl | hcontains
      · rfl
      · rw [hcontains, Bool.or_true]
    rw [if_neg hfiltered, hentry, hlisted, hreadable]
    cases canRead channel principal <;> cases onlyMyRecipient <;>
      cases hasRecipient message principal <;> simp

theorem ValidLog.visitAll_shows (h : ValidLog ext db log) (config : Config) (limit : UInt32) :
    Shows ext config log limit (fun _ => true) (KnownChannels ext db (fun _ => true))
      (visitAll ext config db {} limit) := by
  intro state message hmessage hknown
  obtain ⟨channel, hchannel⟩ := h.channels message hmessage
  obtain ⟨readable, hnext, hentry⟩ := hknown.entry hchannel "scan subscription messages"
  refine ⟨readable, hnext, ?_⟩
  rw [visitAll, hentry]
  rfl

theorem ValidLog.getMaxSeq (h : ValidLog ext db log) :
    UnifiedStorage.getMaxSeq db {} = .ok (UInt64.ofNat (log.length - 1)) := by
  have hget : db.get {} .metadata (Bytes.ofString kMaxSeqKey) =
      .ok (some (encodeUint64 (UInt64.ofNat (log.length - 1)))) := congrArg Except.ok h.maxSeq
  rw [UnifiedStorage.getMaxSeq, UnifiedStorage.getRequiredUint64, hget]
  simp [decodeRequiredUint64]

variable {fromSeq : UInt64} {onlyMyRecipient : Bool} {channels : List UInt64}

private theorem ValidLog.inside (h : ValidLog ext db log) (hfrom : fromSeq.toNat < log.length) :
    ¬ fromSeq > UInt64.ofNat (log.length - 1) := by
  have hfits := h.fits
  rw [gt_iff_lt, UInt64.lt_iff_toNat_lt, UInt64.toNat_ofNat', Nat.mod_eq_of_lt (by omega)]
  omega

theorem ValidLog.fetchVisible_page (h : ValidLog ext db log)
    (hsize : ∀ message : EventMessage, message.seq ≠ 0 → 0 < ext.byteSizeLong message)
    (hchannels : ∀ channelId ∈ channels, ∃ channel,
      loadChannel ext db {} channelId = .ok (some channel) ∧ canRead channel principal = true)
    (hlimit : 0 < limit) (hrecords : 0 < config.maxScanRecords)
    (hfrom : fromSeq.toNat < log.length) :
    ∃ page, fetchVisible ext config db {} principal fromSeq limit onlyMyRecipient channels =
        .ok page ∧
      PageLaw ext config log (visible ext db principal onlyMyRecipient channels) fromSeq limit
        page := by
  have hstart : Gathered ext config (visible ext db principal onlyMyRecipient channels)
      (KnownChannels ext db (canRead · principal)) []
      { readable := fun channelId => if channels.contains channelId then some true else none } := by
    refine ⟨?_, rfl, rfl, Or.inl (Nat.zero_le _)⟩
    intro channelId answer hanswer
    dsimp only at hanswer
    split at hanswer
    · rename_i hlisted
      obtain ⟨channel, hchannel, hreads⟩ := hchannels channelId (List.contains_iff_mem.mp hlisted)
      exact ⟨channel, hchannel, (Option.some.inj hanswer).symm.trans hreads.symm⟩
    · cases hanswer
  obtain ⟨state, nextSeq, hscan, hlaw⟩ := h.page
    (h.visitVisible_shows config principal limit onlyMyRecipient channels) hsize hstart hlimit
    hrecords hfrom
  refine ⟨_, ?_, hlaw⟩
  unfold fetchVisible
  rw [h.getMaxSeq, Fallible.ok_bind, if_neg (h.inside hfrom)]
  dsimp only
  rw [hscan]
  rfl

theorem ValidLog.listAllMessages_page (h : ValidLog ext db log)
    (hsize : ∀ message : EventMessage, message.seq ≠ 0 → 0 < ext.byteSizeLong message)
    (hlimit : 0 < limit) (hrecords : 0 < config.maxScanRecords)
    (hfrom : fromSeq.toNat < log.length) :
    ∃ page, listAllMessages ext config db {} fromSeq limit = .ok page ∧
      PageLaw ext config log (fun _ => true) fromSeq limit page := by
  have hstart : Gathered ext config (fun _ => true) (KnownChannels ext db (fun _ => true)) []
      {} := by
    refine ⟨?_, rfl, rfl, Or.inl (Nat.zero_le _)⟩
    intro channelId answer hanswer
    cases hanswer
  obtain ⟨state, nextSeq, hscan, hlaw⟩ := h.page (h.visitAll_shows config limit) hsize hstart hlimit
    hrecords hfrom
  refine ⟨_, ?_, hlaw⟩
  unfold listAllMessages
  rw [h.getMaxSeq, Fallible.ok_bind, if_neg (h.inside hfrom)]
  dsimp only
  rw [hscan]
  rfl

end Visitors

/-- The log of a coherent store is valid while its next seq does not wrap. -/
theorem Coherent.validLog {ext : Externals} {db : Db} {store : Store} {log : List EventMessage}
    (h : Coherent ext store log) (hdb : Represents ext db store) (hnext : store.maxSeq + 1 ≠ 0) :
    ValidLog ext db log := by
  have hlength := h.logIndex.maxSeq
  have hfits := UInt64.toNat_add_one hnext
  have hlt := (store.maxSeq + 1).toNat_lt
  have hmax : UInt64.ofNat (log.length - 1) = store.maxSeq := by
    rw [← hlength, Nat.add_sub_cancel, UInt64.ofNat_toNat]
  refine ⟨?_, by omega, ?_, ?_, ?_, ?_⟩
  · rintro rfl
    cases hlength
  · rw [hmax]
    exact hdb.metadata .maxSeq
  · intro position message hat
    have hmessage := h.logIndex.message_of_lt hat
    obtain ⟨hseq, hreserved, hreferences⟩ := h.valid.message _ message hmessage
    rcases (hdb.messages (UInt64.ofNat position)).cases with ⟨_, hnone⟩ | ⟨bytes, found, hget, hfound, hparse⟩
    · rw [hmessage] at hnone
      cases hnone
    · obtain rfl : message = found := Option.some.inj (hmessage.symm.trans hfound)
      simp [Db.scannedMessage, hget, UnifiedStorage.checkMessage, hparse, hseq, hreserved,
        hreferences, Except.toOption]
  · intro key hkey
    obtain ⟨seq, rfl⟩ := hdb.messages_only key hkey
    refine ⟨seq.toNat, ?_, by rw [UInt64.ofNat_toNat]⟩
    rcases (hdb.messages seq).cases with ⟨hnone, _⟩ | ⟨_, message, _, hmessage, _⟩
    · exact absurd hnone hkey
    · rw [h.logIndex.messages] at hmessage
      exact (List.getElem?_eq_some_iff.mp hmessage).1
  · intro message hmessage
    obtain ⟨channel, hchannel⟩ := h.findChannel hdb hmessage
    refine ⟨channel, ?_⟩
    rw [← hchannel]
    exact (hdb.reads_loadChannel h.valid message.channelId).eq_ok

/-! ### Following the cursor -/

/-- A reader who repeats a call from the cursor it returns, until the cursor is
past the last seq; `none` when `calls` calls are not enough or one fails. -/
def followCursor (call : UInt64 → Result FetchResponse) : Nat → UInt64 → Option (List EventMessage)
  | 0, _ => none
  | calls + 1, fromSeq =>
      match call fromSeq with
      | .error _ => none
      | .ok page =>
          if page.nextSeq > page.lastSeq then some page.messages
          else (followCursor call calls page.nextSeq).map (page.messages ++ ·)

/-- Pages that obey the law add up to everything that is shown, once. -/
theorem followCursor_complete {ext : Externals} {config : Config} {log : List EventMessage}
    {shown : EventMessage → Bool} {limit : UInt32} {call : UInt64 → Result FetchResponse}
    (hfits : log.length < 2 ^ 64)
    (hcall : ∀ fromSeq : UInt64, fromSeq.toNat < log.length → ∃ page, call fromSeq = .ok page ∧
      PageLaw ext config log shown fromSeq limit page)
    {fromSeq : UInt64} (hfrom : fromSeq.toNat < log.length) {calls : Nat}
    (hcalls : log.length - fromSeq.toNat ≤ calls) :
    followCursor call calls fromSeq = some ((log.drop fromSeq.toNat).filter shown) := by
  induction calls generalizing fromSeq with
  | zero => omega
  | succ calls ih =>
      obtain ⟨page, hpage, hlaw⟩ := hcall fromSeq hfrom
      have hlast := hlaw.lastSeq
      have hadvances := UInt64.lt_iff_toNat_lt.mp hlaw.advances
      have hle := UInt64.le_iff_toNat_le.mp hlaw.nextSeq_le
      rw [UInt64.toNat_add, UInt64.toNat_one, Nat.mod_eq_of_lt (by omega), hlast] at hle
      have hsplit : slice log fromSeq.toNat page.nextSeq.toNat ++ log.drop page.nextSeq.toNat =
          log.drop fromSeq.toNat := by
        have hrest : slice log page.nextSeq.toNat log.length = log.drop page.nextSeq.toNat := by
          rw [slice, List.take_length]
        rw [← hrest, slice.append (by omega) hle le_rfl, slice, List.take_length]
      rw [followCursor, hpage]
      dsimp only
      split
      · rename_i hpast
        have hpast := UInt64.lt_iff_toNat_lt.mp hpast
        have hend : page.nextSeq.toNat = log.length := by omega
        rw [hlaw.messages, ← hsplit, hend, List.drop_length, List.append_nil]
      · rename_i hmore
        have hmore := UInt64.le_iff_toNat_le.mp (UInt64.not_lt.mp hmore)
        rw [ih (by omega) (by omega), hlaw.messages, ← hsplit, List.filter_append]
        rfl

end OpenEvent
