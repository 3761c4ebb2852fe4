import OpenEvent.Reference
import OpenEvent.Refinement.ScanTrace

/-!
`ScanMessages` skips nothing, whatever the messages family holds: a scan that
returns OK has shown its visitor every seq up to the one that it returns.
-/

namespace OpenEvent

open OpenEventCore

section Recording

variable {σ τ : Type} {ext : Externals} {db : Db} {faults : ReadFaults}
variable {visitor : σ → EventMessage → σ × Result UnifiedStorage.MessageScanAction}
variable {fromSeq lastSeq maxRecords : UInt64}

/-- The state of a visitor after its calls on the messages. -/
def visitedState (visitor : σ → EventMessage → σ × Result UnifiedStorage.MessageScanAction)
    (start : σ) (messages : List EventMessage) : σ :=
  messages.foldl (fun state message => (visitor state message).1) start

/-- What a visitor answered at the last of the messages it was called on. -/
def lastAnswer (visitor : σ → EventMessage → σ × Result UnifiedStorage.MessageScanAction)
    (start : σ) (messages : List EventMessage) :
    Option (Result UnifiedStorage.MessageScanAction) :=
  messages.getLast?.map
    (fun message => (visitor (visitedState visitor start messages.dropLast) message).2)

/-- The visitor that also keeps the messages it was called on. -/
def recording (visitor : σ → EventMessage → σ × Result UnifiedStorage.MessageScanAction)
    (state : σ × List EventMessage) (message : EventMessage) :
    (σ × List EventMessage) × Result UnifiedStorage.MessageScanAction :=
  (((visitor state.1 message).1, state.2 ++ [message]), (visitor state.1 message).2)

/-! ### A view of the visitor's state -/

/-- What is left of an exit when only a part of the state is looked at. -/
def UnifiedStorage.ScanExit.map (view : τ → σ) :
    UnifiedStorage.ScanExit τ → UnifiedStorage.ScanExit σ
  | .returned state result => .returned (view state) result
  | .left state rest scanned nextSeq => .left (view state) rest scanned nextSeq

variable (view : τ → σ)
variable {richer : τ → EventMessage → τ × Result UnifiedStorage.MessageScanAction}

private theorem scanLoop_map
    (hvisitor : ∀ state message, visitor (view state) message =
      (view (richer state message).1, (richer state message).2))
    (entries : List (Bytes × Bytes)) (state : τ) (scanned nextSeq : UInt64) :
    UnifiedStorage.scanLoop ext lastSeq maxRecords visitor entries (view state) scanned nextSeq =
      (UnifiedStorage.scanLoop ext lastSeq maxRecords richer entries state scanned nextSeq).map
        view := by
  induction entries generalizing state scanned nextSeq with
  | nil => rfl
  | cons entry rest ih =>
      unfold UnifiedStorage.scanLoop
      split
      · rfl
      · split
        · rfl
        · split
          · rfl
          · split
            · rfl
            · split
              · rfl
              · split
                · rfl
                · rename_i message _
                  rw [hvisitor state message]
                  generalize richer state message = outcome
                  obtain ⟨next, answer⟩ := outcome
                  cases answer with
                  | error status => rfl
                  | ok action =>
                      cases action with
                      | kContinue => exact ih next _ _
                      | kStopBefore => rfl
                      | kStopAfter => rfl

/-- A visitor that keeps more in its state scans in the same way. -/
theorem scanMessages_map
    (hvisitor : ∀ state message, visitor (view state) message =
      (view (richer state message).1, (richer state message).2)) (state : τ) :
    UnifiedStorage.scanMessages ext db faults fromSeq lastSeq maxRecords visitor (view state) =
      (view (UnifiedStorage.scanMessages ext db faults fromSeq lastSeq maxRecords richer state).1,
        (UnifiedStorage.scanMessages ext db faults fromSeq lastSeq maxRecords richer state).2) := by
  unfold UnifiedStorage.scanMessages
  dsimp only
  rw [scanLoop_map view hvisitor]
  generalize UnifiedStorage.scanLoop ext lastSeq maxRecords richer
    (db.iterate faults .messages (numericKey kMessagePrefix fromSeq)).1 state 0 fromSeq = exit
  cases exit with
  | returned last result => rfl
  | left last rest scanned nextSeq =>
      simp only [UnifiedStorage.ScanExit.map]
      split
      · rfl
      · split <;> rfl

/-! ### The recorded calls -/

theorem Continues.state_eq {start last : σ} {seen : List EventMessage}
    (h : Continues visitor start seen last) : last = visitedState visitor start seen := by
  induction h with
  | nil state => rfl
  | cons hvisit _ ih =>
      rw [ih, visitedState, visitedState, List.foldl_cons, hvisit]

theorem Continues.lastAnswer {start last : σ} {seen : List EventMessage}
    (h : Continues visitor start seen last) {answer : Result UnifiedStorage.MessageScanAction}
    (hanswer : lastAnswer visitor start seen = some answer) : answer = .ok .kContinue := by
  induction h with
  | nil state => cases hanswer
  | @cons state next last message rest hvisit hrest ih =>
      cases rest with
      | nil =>
          have hlast : some (visitor state message).2 = some answer := hanswer
          rw [hvisit] at hlast
          exact (Option.some.inj hlast).symm
      | cons second rest =>
          apply ih
          rw [← hanswer]
          simp [OpenEvent.lastAnswer, visitedState, hvisit]

theorem lastAnswer_concat (start : σ) (seen : List EventMessage) (message : EventMessage) :
    lastAnswer visitor start (seen ++ [message]) =
      some (visitor (visitedState visitor start seen) message).2 := by
  simp [lastAnswer]

theorem Continues.recorded {start last : σ × List EventMessage} {seen : List EventMessage}
    (h : Continues (recording visitor) start seen last) :
    last.2 = start.2 ++ seen ∧ Continues visitor start.1 seen last.1 := by
  induction h with
  | nil state => exact ⟨(List.append_nil _).symm, .nil _⟩
  | @cons state next last message rest hvisit _ ih =>
      obtain ⟨hseen, hcontinues⟩ := ih
      obtain ⟨hnext, hanswer⟩ := Prod.mk.inj hvisit
      have hkept : next.2 = state.2 ++ [message] := by rw [← hnext]
      have hstate : next.1 = (visitor state.1 message).1 := by rw [← hnext]
      refine ⟨by rw [hseen, hkept, List.append_assoc]; rfl, .cons ?_ hcontinues⟩
      rw [hstate, ← hanswer]

end Recording

/-! ### The guarantee -/

section Guarantee

variable {σ : Type}

/-- What a scan that returned OK with `next` did, where `seen` are the messages
its visitor was called on. -/
structure ScannedTo (ext : Externals) (db : Db) (fromSeq lastSeq maxRecords : UInt64)
    (visitor : σ → EventMessage → σ × Result UnifiedStorage.MessageScanAction) (start : σ)
    (seen : List EventMessage) (next : UInt64) : Prop where
  from_le : fromSeq ≤ next
  le_last : next ≤ lastSeq + 1
  budget : next.toNat - fromSeq.toNat ≤ maxRecords.toNat
  /-- One call for each seq before `next`, and one at `next` when it stops there. -/
  visits : seen.map (·.seq) =
    (List.range (next.toNat - fromSeq.toNat +
      if lastAnswer visitor start seen = some (.ok .kStopBefore) then 1 else 0)).map
      (fun offset => fromSeq + UInt64.ofNat offset)
  stored : ∀ message ∈ seen, ∃ value,
    db.messages.get (numericKey kMessagePrefix message.seq) = some value ∧
      ext.eventMessage.parseFromString value = some message ∧
      validReservedFields ext message.seq message = true ∧ validObjectReferences message = true
  early : next < lastSeq + 1 → next.toNat - fromSeq.toNat = maxRecords.toNat ∨
    lastAnswer visitor start seen = some (.ok .kStopBefore) ∨
    lastAnswer visitor start seen = some (.ok .kStopAfter)

variable {ext : Externals} {db : Db} {faults : ReadFaults}
variable {visitor : σ → EventMessage → σ × Result UnifiedStorage.MessageScanAction}
variable {fromSeq lastSeq maxRecords : UInt64}

/-- The seqs of consecutive messages. -/
theorem Consecutive.seqs {seen : List EventMessage} (h : Consecutive ext db fromSeq.toNat seen) :
    seen.map (·.seq) =
      (List.range seen.length).map (fun offset => fromSeq + UInt64.ofNat offset) := by
  apply List.ext_getElem?
  intro index
  rw [List.getElem?_map, List.getElem?_map]
  cases hat : seen[index]? with
  | none =>
      have hlength := List.getElem?_eq_none_iff.mp hat
      simp [hlength]
  | some message =>
      have hlt := (List.getElem?_eq_some_iff.mp hat).1
      have hseq := (Db.scannedMessage_some (h index message hat)).1
      rw [UInt64.ofNat_add, UInt64.ofNat_toNat] at hseq
      simp [hlt, hseq]

theorem Consecutive.concat {start : Nat} {seen : List EventMessage} {message : EventMessage}
    (h : Consecutive ext db start seen)
    (hstored : db.scannedMessage ext (UInt64.ofNat (start + seen.length)) = some message) :
    Consecutive ext db start (seen ++ [message]) := by
  intro index other hother
  rcases Nat.lt_trichotomy index seen.length with hlt | rfl | hgt
  · rw [List.getElem?_append_left hlt] at hother
    exact h index other hother
  · obtain rfl : message = other := by simpa using hother
    exact hstored
  · rw [List.getElem?_append_right (Nat.le_of_lt hgt), List.getElem?_singleton,
      if_neg (by omega)] at hother
    cases hother

theorem Consecutive.stored {start : Nat} {seen : List EventMessage}
    (h : Consecutive ext db start seen) : ∀ message ∈ seen, ∃ value,
      db.messages.get (numericKey kMessagePrefix message.seq) = some value ∧
        ext.eventMessage.parseFromString value = some message ∧
        validReservedFields ext message.seq message = true ∧
        validObjectReferences message = true := by
  intro message hmessage
  obtain ⟨index, hat⟩ := List.mem_iff_getElem?.mp hmessage
  obtain ⟨hseq, hvalue⟩ := Db.scannedMessage_some (h index message hat)
  rw [hseq]
  exact hvalue

/-- No run of consecutive messages goes past a record that is missing or invalid. -/
theorem Consecutive.before_gap {start : Nat} {seen : List EventMessage}
    (h : Consecutive ext db start seen) {gap : UInt64} (hgap : db.scannedMessage ext gap = none)
    (hstart : start ≤ gap.toNat) : start + seen.length ≤ gap.toNat := by
  by_contra hpast
  have hindex : gap.toNat - start < seen.length := by omega
  have hfound := h _ _ (List.getElem?_eq_getElem hindex)
  rw [show start + (gap.toNat - start) = gap.toNat by omega, UInt64.ofNat_toNat, hgap] at hfound
  cases hfound

theorem Consecutive.seq_lt_gap {start : Nat} {seen : List EventMessage}
    (h : Consecutive ext db start seen) {gap : UInt64} (hgap : db.scannedMessage ext gap = none)
    (hstart : start ≤ gap.toNat) : ∀ message ∈ seen, message.seq < gap := by
  intro message hmessage
  obtain ⟨index, hat⟩ := List.mem_iff_getElem?.mp hmessage
  have hlt := (List.getElem?_eq_some_iff.mp hat).1
  have hle := h.before_gap hgap hstart
  have hbound := gap.toNat_lt
  rw [(Db.scannedMessage_some (h index message hat)).1, UInt64.lt_iff_toNat_lt,
    UInt64.toNat_ofNat', Nat.mod_eq_of_lt (by omega)]
  omega

variable {start : σ} {seen : List EventMessage} {message : EventMessage}
variable {last middle : σ × List EventMessage}

theorem Passes.recorded
    (h : Passes ext db lastSeq (recording visitor) fromSeq.toNat maxRecords.toNat (start, []) seen
      last) : last.2 = seen ∧ Continues visitor start seen last.1 :=
  h.continues.recorded

theorem Passes.consecutive_recorded
    (h : Passes ext db lastSeq (recording visitor) fromSeq.toNat maxRecords.toNat (start, []) seen
      last) : Consecutive ext db fromSeq.toNat last.2 := by
  rw [h.recorded.1]
  exact h.consecutive

theorem Meets.recorded {answer : Result UnifiedStorage.MessageScanAction}
    (h : Meets ext db lastSeq (recording visitor) fromSeq.toNat maxRecords.toNat (start, []) seen
      middle message (last, answer)) :
    last.2 = seen ++ [message] ∧ lastAnswer visitor start last.2 = some answer := by
  obtain ⟨hseen, hcontinues⟩ := h.toPasses.recorded
  obtain ⟨hlast, hanswer⟩ := Prod.mk.inj h.visit
  have hkept : last.2 = seen ++ [message] := by rw [← hlast, hseen]
  refine ⟨hkept, ?_⟩
  rw [hkept, lastAnswer_concat, ← hcontinues.state_eq, hanswer]

theorem Meets.consecutive_recorded {answer : Result UnifiedStorage.MessageScanAction}
    (h : Meets ext db lastSeq (recording visitor) fromSeq.toNat maxRecords.toNat (start, []) seen
      middle message (last, answer)) : Consecutive ext db fromSeq.toNat last.2 := by
  rw [h.recorded.1]
  exact h.consecutive.concat h.stored

/-- The end of a scan that no visitor stopped. -/
theorem Passes.scannedTo
    (h : Passes ext db lastSeq (recording visitor) fromSeq.toNat maxRecords.toNat (start, []) seen
      last) (hlast : lastSeq.toNat + 1 < 2 ^ 64)
    (hend : fromSeq.toNat + seen.length = lastSeq.toNat + 1 ∨ seen.length = maxRecords.toNat) :
    ScannedTo ext db fromSeq lastSeq maxRecords visitor start last.2
      (UInt64.ofNat (fromSeq.toNat + seen.length)) := by
  obtain ⟨hseen, hcontinues⟩ := h.recorded
  have hrange := h.range
  have hwithin := h.within
  have hnext : (UInt64.ofNat (fromSeq.toNat + seen.length)).toNat = fromSeq.toNat + seen.length := by
    rw [UInt64.toNat_ofNat', Nat.mod_eq_of_lt (by omega)]
  have hafter : (lastSeq + 1).toNat = lastSeq.toNat + 1 := by
    rw [UInt64.toNat_add, UInt64.toNat_one, Nat.mod_eq_of_lt (by omega)]
  have hanswer : lastAnswer visitor start seen ≠ some (.ok .kStopBefore) := by
    intro hstopped
    cases hcontinues.lastAnswer hstopped
  rw [hseen]
  refine ⟨?_, ?_, ?_, ?_, h.consecutive.stored, ?_⟩
  · rw [UInt64.le_iff_toNat_le, hnext]
    omega
  · rw [UInt64.le_iff_toNat_le, hnext, hafter]
    exact hrange
  · rw [hnext]
    omega
  · rw [hnext, if_neg hanswer, h.consecutive.seqs]
    congr 2
    omega
  · intro hearly
    rw [UInt64.lt_iff_toNat_lt, hnext, hafter] at hearly
    rw [hnext]
    exact Or.inl (by omega)

/-- The end of a scan at a message where the visitor stopped it. -/
theorem Meets.scannedTo {action : UnifiedStorage.MessageScanAction}
    (h : Meets ext db lastSeq (recording visitor) fromSeq.toNat maxRecords.toNat (start, []) seen
      middle message (last, .ok action)) (hlast : lastSeq.toNat + 1 < 2 ^ 64) {next : Nat}
    (hnext : action = .kStopBefore ∧ next = fromSeq.toNat + seen.length ∨
      action = .kStopAfter ∧ next = fromSeq.toNat + seen.length + 1) :
    ScannedTo ext db fromSeq lastSeq maxRecords visitor start last.2 (UInt64.ofNat next) := by
  obtain ⟨hseen, hanswer⟩ := h.recorded
  have hinside := h.inside
  have haffordable := h.affordable
  have hbound : next ≤ lastSeq.toNat + 1 := by omega
  have hvalue : (UInt64.ofNat next).toNat = next := by
    rw [UInt64.toNat_ofNat', Nat.mod_eq_of_lt (by omega)]
  have hafter : (lastSeq + 1).toNat = lastSeq.toNat + 1 := by
    rw [UInt64.toNat_add, UInt64.toNat_one, Nat.mod_eq_of_lt (by omega)]
  have hconsecutive := h.consecutive_recorded
  refine ⟨?_, ?_, ?_, ?_, hconsecutive.stored, ?_⟩
  · rw [UInt64.le_iff_toNat_le, hvalue]
    omega
  · rw [UInt64.le_iff_toNat_le, hvalue, hafter]
    exact hbound
  · rw [hvalue]
    omega
  · have hlength : last.2.length = seen.length + 1 := by rw [hseen, List.length_append]; rfl
    rw [hvalue, hconsecutive.seqs, hanswer, hlength]
    congr 2
    rcases hnext with ⟨rfl, rfl⟩ | ⟨rfl, rfl⟩
    · simp
    · simp
      omega
  · intro _
    rcases hnext with ⟨rfl, _⟩ | ⟨rfl, _⟩
    · exact Or.inr (Or.inl hanswer)
    · exact Or.inr (Or.inr hanswer)

/-- What every end of a recorded scan says. -/
theorem ScanEnds.skips_nothing {outcome : (σ × List EventMessage) × Result UInt64}
    (h : ScanEnds ext db lastSeq (recording visitor) fromSeq.toNat maxRecords.toNat (start, [])
      outcome) (hlast : lastSeq.toNat + 1 < 2 ^ 64) :
    (∀ next, outcome.2 = .ok next →
        ScannedTo ext db fromSeq lastSeq maxRecords visitor start outcome.1.2 next) ∧
      Consecutive ext db fromSeq.toNat outcome.1.2 := by
  cases h with
  | finished hpasses hend =>
      refine ⟨?_, hpasses.consecutive_recorded⟩
      rintro _ ⟨⟩
      exact hpasses.scannedTo hlast (Or.inl hend)
  | exhausted hpasses hspent =>
      refine ⟨?_, hpasses.consecutive_recorded⟩
      rintro _ ⟨⟩
      exact hpasses.scannedTo hlast (Or.inr hspent)
  | stoppedBefore hmeets =>
      refine ⟨?_, hmeets.consecutive_recorded⟩
      rintro _ ⟨⟩
      exact hmeets.scannedTo hlast (Or.inl ⟨rfl, rfl⟩)
  | stoppedAfter hmeets =>
      refine ⟨?_, hmeets.consecutive_recorded⟩
      rintro _ ⟨⟩
      exact hmeets.scannedTo hlast (Or.inr ⟨rfl, rfl⟩)
  | refused hmeets => exact ⟨nofun, hmeets.consecutive_recorded⟩
  | failed hpasses => exact ⟨nofun, hpasses.consecutive_recorded⟩

/-- An OK result has no more seqs behind it than the visitor saw messages. -/
theorem ScannedTo.next_le {next : UInt64}
    (h : ScannedTo ext db fromSeq lastSeq maxRecords visitor start seen next) :
    next.toNat ≤ fromSeq.toNat + seen.length := by
  have hlength := congrArg List.length h.visits
  have hle := UInt64.le_iff_toNat_le.mp h.from_le
  rw [List.length_map, List.length_map, List.length_range] at hlength
  omega

/-- Scanning any content of the messages family, with any visitor: an OK result
accounts for every seq before it, and no message at or past a missing or
invalid record is passed or shown. Recording the visitor's calls does not
change the scan. -/
theorem scan_skips_nothing (ext : Externals) (db : Db) (faults : ReadFaults)
    (fromSeq lastSeq maxRecords : UInt64)
    (visitor : σ → EventMessage → σ × Result UnifiedStorage.MessageScanAction) (start : σ)
    (hfrom : fromSeq ≤ lastSeq) (hlast : lastSeq.toNat < 2 ^ 64 - 1) :
    let scan := UnifiedStorage.scanMessages ext db faults fromSeq lastSeq maxRecords
      (recording visitor) (start, [])
    UnifiedStorage.scanMessages ext db faults fromSeq lastSeq maxRecords visitor start =
        (scan.1.1, scan.2) ∧
      (∀ next, scan.2 = .ok next →
        ScannedTo ext db fromSeq lastSeq maxRecords visitor start scan.1.2 next) ∧
      ∀ gap, fromSeq ≤ gap → db.scannedMessage ext gap = none →
        (∀ next, scan.2 = .ok next → next ≤ gap) ∧ ∀ message ∈ scan.1.2, message.seq < gap := by
  intro scan
  have hfit : lastSeq.toNat + 1 < 2 ^ 64 := by omega
  have hends : ScanEnds ext db lastSeq (recording visitor) fromSeq.toNat maxRecords.toNat
      (start, []) scan := scanMessages_ends hfrom hfit (start, [])
  obtain ⟨hscanned, hconsecutive⟩ := hends.skips_nothing hfit
  refine ⟨scanMessages_map Prod.fst (fun _ _ => rfl) (start, []), hscanned, ?_⟩
  intro gap hgap hmissing
  have hstart := UInt64.le_iff_toNat_le.mp hgap
  refine ⟨?_, hconsecutive.seq_lt_gap hmissing hstart⟩
  intro next hnext
  have hbefore := hconsecutive.before_gap hmissing hstart
  have hle := (hscanned next hnext).next_le
  rw [UInt64.le_iff_toNat_le]
  omega

/-- A visitor that lets every scan go on. -/
def visitOn (state : Unit) (_ : EventMessage) : Unit × Result UnifiedStorage.MessageScanAction :=
  (state, .ok .kContinue)

/-- The session's store without its record at seq 2. -/
def gapDb : Db :=
  Reference.sessionServer.db.write [.delete .messages (numericKey kMessagePrefix 2)]

/-- The first three of the session's four messages, on a budget of three. -/
def budgetedScan : (Unit × List EventMessage) × Result UInt64 :=
  UnifiedStorage.scanMessages Reference.externals Reference.sessionServer.db {} 0 3 3
    (recording visitOn) ((), [])

/-- A scan of all four that comes to the gap. -/
def gapScan : (Unit × List EventMessage) × Result UInt64 :=
  UnifiedStorage.scanMessages Reference.externals gapDb {} 0 3 10 (recording visitOn) ((), [])

theorem session_scan_skips_nothing :
    budgetedScan.2 = .ok 3 ∧
      ScannedTo Reference.externals Reference.sessionServer.db 0 3 3 visitOn () budgetedScan.1.2
        3 ∧
      gapDb.scannedMessage Reference.externals 3 ≠ none ∧ gapScan.1.2.length = 2 ∧
      (∀ next, gapScan.2 = .ok next → next ≤ 2) ∧ ∀ message ∈ gapScan.1.2, message.seq < 2 := by
  obtain ⟨hok, hmissing, hpresent, hshown⟩ : budgetedScan.2.toOption = some 3 ∧
      gapDb.scannedMessage Reference.externals 2 = none ∧
      gapDb.scannedMessage Reference.externals 3 ≠ none ∧ gapScan.1.2.length = 2 := by
    decide +kernel
  have hscan : budgetedScan.2 = .ok 3 := by
    generalize budgetedScan.2 = result at hok ⊢
    cases result with
    | error status => cases hok
    | ok next => exact congrArg Except.ok (Option.some.inj hok)
  have hscanned := (scan_skips_nothing Reference.externals Reference.sessionServer.db {} 0 3 3
    visitOn () (by decide) (by decide)).2.1
  have hgap := (scan_skips_nothing Reference.externals gapDb {} 0 3 10 visitOn () (by decide)
    (by decide)).2.2
  rw [← budgetedScan] at hscanned
  rw [← gapScan] at hgap
  exact ⟨hscan, hscanned 3 hscan, hpresent, hshown, hgap 2 (by decide) hmissing⟩

end Guarantee

end OpenEvent
