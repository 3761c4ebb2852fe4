import OpenEvent.Core.Reads
import OpenEvent.Refinement.Getters

/-!
What `ScanMessages` does on a messages family with arbitrary content: the
messages that its visitor sees, one seq after the other, and why it ends.
-/

namespace OpenEvent

open OpenEventCore

/-- The message stored under a seq, if it passes the checks of the scan. -/
def Db.scannedMessage (ext : Externals) (db : Db) (seq : UInt64) : Option EventMessage :=
  match db.messages.get (numericKey kMessagePrefix seq) with
  | none => none
  | some value => (UnifiedStorage.checkMessage ext seq value).toOption

/-- The visitor's state when the loop of a scan ends. -/
def UnifiedStorage.ScanExit.state {σ : Type} : UnifiedStorage.ScanExit σ → σ
  | .returned state _ => state
  | .left state _ _ _ => state

section Trace

variable {σ : Type} {ext : Externals} {db : Db} {faults : ReadFaults}
variable {visitor : σ → EventMessage → σ × Result UnifiedStorage.MessageScanAction}
variable {fromSeq lastSeq maxRecords : UInt64}

/-- The visitor lets the scan go on at each of the messages. -/
inductive Continues (visitor : σ → EventMessage → σ × Result UnifiedStorage.MessageScanAction) :
    σ → List EventMessage → σ → Prop
  | nil (state : σ) : Continues visitor state [] state
  | cons {state next last : σ} {message : EventMessage} {rest : List EventMessage} :
      visitor state message = (next, .ok .kContinue) → Continues visitor next rest last →
      Continues visitor state (message :: rest) last

/-- Messages under consecutive seqs, each of which passes the checks. -/
def Consecutive (ext : Externals) (db : Db) (start : Nat) (messages : List EventMessage) : Prop :=
  ∀ index message, messages[index]? = some message →
    db.scannedMessage ext (UInt64.ofNat (start + index)) = some message

/-- The messages that a scan passes, and how far they reach. -/
structure Passes (ext : Externals) (db : Db) (lastSeq : UInt64)
    (visitor : σ → EventMessage → σ × Result UnifiedStorage.MessageScanAction) (start budget : Nat)
    (state : σ) (seen : List EventMessage) (last : σ) : Prop where
  continues : Continues visitor state seen last
  consecutive : Consecutive ext db start seen
  range : start + seen.length ≤ lastSeq.toNat + 1
  within : seen.length ≤ budget

/-- The last message that a scan visits, at which it ends. -/
structure Meets (ext : Externals) (db : Db) (lastSeq : UInt64)
    (visitor : σ → EventMessage → σ × Result UnifiedStorage.MessageScanAction) (start budget : Nat)
    (state : σ) (seen : List EventMessage) (middle : σ) (message : EventMessage)
    (outcome : σ × Result UnifiedStorage.MessageScanAction) : Prop
    extends Passes ext db lastSeq visitor start budget state seen middle where
  stored : db.scannedMessage ext (UInt64.ofNat (start + seen.length)) = some message
  inside : start + seen.length ≤ lastSeq.toNat
  affordable : seen.length < budget
  visit : visitor middle message = outcome

/-- How a scan ends. -/
inductive ScanEnds (ext : Externals) (db : Db) (lastSeq : UInt64)
    (visitor : σ → EventMessage → σ × Result UnifiedStorage.MessageScanAction) (start budget : Nat)
    (state : σ) : σ × Result UInt64 → Prop
  | finished {seen : List EventMessage} {last : σ} :
      Passes ext db lastSeq visitor start budget state seen last →
      start + seen.length = lastSeq.toNat + 1 →
      ScanEnds ext db lastSeq visitor start budget state
        (last, .ok (UInt64.ofNat (start + seen.length)))
  | exhausted {seen : List EventMessage} {last : σ} :
      Passes ext db lastSeq visitor start budget state seen last → seen.length = budget →
      ScanEnds ext db lastSeq visitor start budget state
        (last, .ok (UInt64.ofNat (start + seen.length)))
  | stoppedBefore {seen : List EventMessage} {middle last : σ} {message : EventMessage} :
      Meets ext db lastSeq visitor start budget state seen middle message
        (last, .ok .kStopBefore) →
      ScanEnds ext db lastSeq visitor start budget state
        (last, .ok (UInt64.ofNat (start + seen.length)))
  | stoppedAfter {seen : List EventMessage} {middle last : σ} {message : EventMessage} :
      Meets ext db lastSeq visitor start budget state seen middle message
        (last, .ok .kStopAfter) →
      ScanEnds ext db lastSeq visitor start budget state
        (last, .ok (UInt64.ofNat (start + seen.length + 1)))
  | refused {seen : List EventMessage} {middle last : σ} {message : EventMessage}
      {status : Status} :
      Meets ext db lastSeq visitor start budget state seen middle message (last, .error status) →
      ScanEnds ext db lastSeq visitor start budget state (last, .error status)
  | failed {seen : List EventMessage} {last : σ} {status : Status} :
      Passes ext db lastSeq visitor start budget state seen last →
      ScanEnds ext db lastSeq visitor start budget state (last, .error status)

/-- How its loop ends: with the scan, or with the iterator at the entries that
remain. -/
inductive ScanLoopEnds (ext : Externals) (db : Db) (lastSeq : UInt64)
    (visitor : σ → EventMessage → σ × Result UnifiedStorage.MessageScanAction) (start budget : Nat)
    (state : σ) (scanned : Nat) : UnifiedStorage.ScanExit σ → Prop
  | returned {last : σ} {result : Result UInt64} :
      ScanEnds ext db lastSeq visitor start budget state (last, result) →
      ScanLoopEnds ext db lastSeq visitor start budget state scanned (.returned last result)
  | left {seen : List EventMessage} {last : σ} {rest : List (Bytes × Bytes)} :
      Passes ext db lastSeq visitor start budget state seen last →
      (seen.length = budget ∨ UnifiedStorage.missingAfterLoop rest lastSeq = true) →
      ScanLoopEnds ext db lastSeq visitor start budget state scanned
        (.left last rest (UInt64.ofNat (scanned + seen.length))
          (UInt64.ofNat (start + seen.length)))

/-! ### Stored messages -/

theorem Db.scannedMessage_some {seq : UInt64} {message : EventMessage}
    (h : db.scannedMessage ext seq = some message) : message.seq = seq ∧
      ∃ value, db.messages.get (numericKey kMessagePrefix seq) = some value ∧
        ext.eventMessage.parseFromString value = some message ∧
        validReservedFields ext seq message = true ∧ validObjectReferences message = true := by
  unfold Db.scannedMessage at h
  split at h
  · cases h
  · rename_i value hvalue
    unfold UnifiedStorage.checkMessage at h
    split at h
    · cases h
    · rename_i parsed hparsed
      split at h
      · cases h
      · split at h
        · cases h
        · split at h
          · cases h
          · obtain rfl : parsed = message := Option.some.inj h
            exact ⟨by simp_all, value, hvalue, hparsed, by simp_all, by simp_all⟩

theorem Db.scannedMessage_checked {seq : UInt64} {message : EventMessage}
    (h : db.scannedMessage ext seq = some message) :
    ∃ value, db.messages.get (numericKey kMessagePrefix seq) = some value ∧
      UnifiedStorage.checkMessage ext seq value = .ok message := by
  unfold Db.scannedMessage at h
  split at h
  · cases h
  · rename_i value hvalue
    refine ⟨value, hvalue, ?_⟩
    cases hchecked : UnifiedStorage.checkMessage ext seq value with
    | error status => simp [hchecked, Except.toOption] at h
    | ok found => simpa [hchecked, Except.toOption] using h

/-! ### One message further -/

theorem Consecutive.cons {start : Nat} {message : EventMessage} {rest : List EventMessage}
    (hstored : db.scannedMessage ext (UInt64.ofNat start) = some message)
    (h : Consecutive ext db (start + 1) rest) : Consecutive ext db start (message :: rest) := by
  intro index other hother
  cases index with
  | zero =>
      obtain rfl : message = other := by simpa using hother
      exact hstored
  | succ index =>
      have hindex : start + (index + 1) = start + 1 + index := by omega
      rw [hindex]
      exact h index other (by simpa using hother)

variable {start budget : Nat} {state next : σ} {message : EventMessage}

private theorem length_cons_shift (start : Nat) (message : EventMessage)
    (seen : List EventMessage) : start + 1 + seen.length = start + (message :: seen).length := by
  rw [List.length_cons]
  omega

theorem Passes.nil (state : σ) (hrange : start ≤ lastSeq.toNat + 1) :
    Passes ext db lastSeq visitor start budget state [] state where
  continues := .nil state
  consecutive := by
    intro index message hmessage
    cases hmessage
  range := hrange
  within := Nat.zero_le budget

theorem Passes.cons {seen : List EventMessage} {last : σ}
    (hstored : db.scannedMessage ext (UInt64.ofNat start) = some message)
    (hvisit : visitor state message = (next, .ok .kContinue))
    (h : Passes ext db lastSeq visitor (start + 1) budget next seen last) :
    Passes ext db lastSeq visitor start (budget + 1) state (message :: seen) last where
  continues := .cons hvisit h.continues
  consecutive := .cons hstored h.consecutive
  range := by
    rw [← length_cons_shift]
    exact h.range
  within := Nat.succ_le_succ h.within

theorem Meets.cons {seen : List EventMessage} {middle : σ} {met : EventMessage}
    {outcome : σ × Result UnifiedStorage.MessageScanAction}
    (hstored : db.scannedMessage ext (UInt64.ofNat start) = some message)
    (hvisit : visitor state message = (next, .ok .kContinue))
    (h : Meets ext db lastSeq visitor (start + 1) budget next seen middle met outcome) :
    Meets ext db lastSeq visitor start (budget + 1) state (message :: seen) middle met outcome where
  toPasses := h.toPasses.cons hstored hvisit
  stored := by
    rw [← length_cons_shift]
    exact h.stored
  inside := by
    rw [← length_cons_shift]
    exact h.inside
  affordable := Nat.succ_lt_succ h.affordable
  visit := h.visit

theorem ScanEnds.cons {result : σ × Result UInt64}
    (hstored : db.scannedMessage ext (UInt64.ofNat start) = some message)
    (hvisit : visitor state message = (next, .ok .kContinue))
    (h : ScanEnds ext db lastSeq visitor (start + 1) budget next result) :
    ScanEnds ext db lastSeq visitor start (budget + 1) state result := by
  cases h with
  | @finished seen last hpasses hend =>
      rw [length_cons_shift start message] at hend ⊢
      exact .finished (hpasses.cons hstored hvisit) hend
  | @exhausted seen last hpasses hbudget =>
      rw [length_cons_shift start message]
      exact .exhausted (hpasses.cons hstored hvisit) (congrArg Nat.succ hbudget)
  | stoppedBefore hmeets =>
      rw [length_cons_shift start message]
      exact .stoppedBefore (hmeets.cons hstored hvisit)
  | stoppedAfter hmeets =>
      rw [length_cons_shift start message]
      exact .stoppedAfter (hmeets.cons hstored hvisit)
  | refused hmeets => exact .refused (hmeets.cons hstored hvisit)
  | failed hpasses => exact .failed (hpasses.cons hstored hvisit)

theorem ScanLoopEnds.cons {scanned : Nat} {exit : UnifiedStorage.ScanExit σ}
    (hstored : db.scannedMessage ext (UInt64.ofNat start) = some message)
    (hvisit : visitor state message = (next, .ok .kContinue))
    (h : ScanLoopEnds ext db lastSeq visitor (start + 1) budget next (scanned + 1) exit) :
    ScanLoopEnds ext db lastSeq visitor start (budget + 1) state scanned exit := by
  cases h with
  | returned hends => exact .returned (hends.cons hstored hvisit)
  | left hpasses hreason =>
      rw [length_cons_shift start message, length_cons_shift scanned message]
      refine .left (hpasses.cons hstored hvisit) (hreason.imp_left ?_)
      intro hbudget
      exact congrArg Nat.succ hbudget

private theorem Continues.invariant {P : List EventMessage → σ → Prop} {first last : σ}
    {seen : List EventMessage} (h : Continues visitor first seen last)
    {total : Nat} (hstep : ∀ passed state message next, passed.length < total →
      db.scannedMessage ext (UInt64.ofNat (start + passed.length)) = some message →
      P passed state → visitor state message = (next, .ok .kContinue) → P (passed ++ [message]) next)
    (passed : List EventMessage) (hseen : Consecutive ext db (start + passed.length) seen)
    (htotal : passed.length + seen.length = total) (hfirst : P passed first) :
    P (passed ++ seen) last := by
  induction h generalizing passed with
  | nil state =>
      rw [List.append_nil]
      exact hfirst
  | @cons state next last message rest hvisit _ ih =>
      have hrest : Consecutive ext db (start + (passed ++ [message]).length) rest := by
        intro index other hother
        have hnext := hseen (index + 1) other (by simpa using hother)
        rw [List.length_append, List.length_singleton]
        rwa [show start + passed.length + (index + 1) = start + (passed.length + 1) + index by
          omega] at hnext
      rw [List.length_cons] at htotal
      have hafter := ih (passed ++ [message]) hrest (by simp; omega)
        (hstep passed state message next (by omega) (hseen 0 message rfl) hfirst hvisit)
      rwa [List.append_assoc] at hafter

/-- What every visit that goes on keeps, from the first message to the last. -/
theorem Passes.invariant {P : List EventMessage → σ → Prop} {last : σ} {seen : List EventMessage}
    (h : Passes ext db lastSeq visitor start budget state seen last) (hstart : P [] state)
    (hstep : ∀ passed state message next, passed.length < seen.length →
      db.scannedMessage ext (UInt64.ofNat (start + passed.length)) = some message →
      P passed state → visitor state message = (next, .ok .kContinue) →
      P (passed ++ [message]) next) : P seen last :=
  h.continues.invariant hstep [] h.consecutive (Nat.zero_add _) hstart

/-! ### The loop -/

theorem scanLoop_ends (hlast : lastSeq.toNat + 1 < 2 ^ 64) {entries : List (Bytes × Bytes)}
    (hentries : ∀ entry ∈ entries, db.messages.get entry.1 = some entry.2) {scanned : Nat}
    (hrange : start ≤ lastSeq.toNat + 1) (hbudget : scanned + budget = maxRecords.toNat) :
    ScanLoopEnds ext db lastSeq visitor start budget state scanned
      (UnifiedStorage.scanLoop ext lastSeq maxRecords visitor entries state
        (UInt64.ofNat scanned) (UInt64.ofNat start)) := by
  induction entries generalizing start budget state scanned with
  | nil => exact .left (.nil state hrange) (Or.inr rfl)
  | cons entry rest ih =>
      have hmax := maxRecords.toNat_lt
      have hstart : (UInt64.ofNat start).toNat = start := by
        rw [UInt64.toNat_ofNat', Nat.mod_eq_of_lt (by omega)]
      have hscanned : (UInt64.ofNat scanned).toNat = scanned := by
        rw [UInt64.toNat_ofNat', Nat.mod_eq_of_lt (by omega)]
      unfold UnifiedStorage.scanLoop
      split
      · rename_i hforeign
        exact .left (.nil state hrange) (Or.inr (by simp [UnifiedStorage.missingAfterLoop, hforeign]))
      · split
        · exact .returned (.failed (.nil state hrange))
        · rename_i seq hdecoded
          obtain ⟨hkey, hseq⟩ := decodeNumericKey_ok hdecoded
          split
          · rename_i hpast
            rw [hseq] at hpast
            exact .left (.nil state hrange)
              (Or.inr (by simp [UnifiedStorage.missingAfterLoop, hpast]))
          · rename_i hinside
            split
            · exact .returned (.failed (.nil state hrange))
            · rename_i hnext
              obtain rfl : seq = UInt64.ofNat start := not_not.mp hnext
              have hle : start ≤ lastSeq.toNat := by
                have hle := UInt64.le_iff_toNat_le.mp (UInt64.not_lt.mp hinside)
                rwa [hstart] at hle
              split
              · rename_i hspent
                have hspent := UInt64.le_iff_toNat_le.mp hspent
                rw [hscanned] at hspent
                exact .left (.nil state hrange) (Or.inl (by simp; omega))
              · rename_i hleft
                have hleft := UInt64.lt_iff_toNat_lt.mp (UInt64.not_le.mp hleft)
                rw [hscanned] at hleft
                obtain ⟨budget, rfl⟩ : ∃ less, budget = less + 1 := ⟨budget - 1, by omega⟩
                split
                · exact .returned (.failed (.nil state hrange))
                · rename_i message hchecked
                  have hstored : db.scannedMessage ext (UInt64.ofNat start) = some message := by
                    have hget := hentries entry (List.mem_cons_self)
                    rw [hkey] at hget
                    simp [Db.scannedMessage, hget, hchecked, Except.toOption]
                  have hmeets {outcome : σ × Result UnifiedStorage.MessageScanAction}
                      (hvisit : visitor state message = outcome) :
                      Meets ext db lastSeq visitor start (budget + 1) state [] state message
                        outcome :=
                    ⟨.nil state hrange, hstored, hle, Nat.succ_pos budget, hvisit⟩
                  split
                  · rename_i hvisit
                    exact .returned (.refused (hmeets hvisit))
                  · rename_i hvisit
                    exact .returned (.stoppedBefore (hmeets hvisit))
                  · rename_i hvisit
                    have hend : UInt64.ofNat start + 1 = UInt64.ofNat (start + 0 + 1) := by simp
                    rw [hend]
                    exact .returned (.stoppedAfter (hmeets hvisit))
                  · rename_i hvisit
                    have hnext : UInt64.ofNat start + 1 = UInt64.ofNat (start + 1) := by simp
                    have hcount : UInt64.ofNat scanned + 1 = UInt64.ofNat (scanned + 1) := by simp
                    rw [hnext, hcount]
                    refine .cons hstored hvisit (ih ?_ (by omega) (by omega))
                    intro other hother
                    exact hentries other (List.mem_cons_of_mem _ hother)

/-- `ScanMessages` on any content of the messages family. -/
theorem scanMessages_ends (hfrom : fromSeq ≤ lastSeq) (hlast : lastSeq.toNat + 1 < 2 ^ 64)
    (state : σ) :
    ScanEnds ext db lastSeq visitor fromSeq.toNat maxRecords.toNat state
      (UnifiedStorage.scanMessages ext db faults fromSeq lastSeq maxRecords visitor state) := by
  have hentries : ∀ entry ∈ (db.iterate faults .messages (numericKey kMessagePrefix fromSeq)).1,
      db.messages.get entry.1 = some entry.2 := by
    intro entry hentry
    exact ((SortedMap.mem_seek _ _ entry.1 entry.2).mp (Db.iterate_mem hentry)).2
  have hle := UInt64.le_iff_toNat_le.mp hfrom
  have hloop : ScanLoopEnds ext db lastSeq visitor fromSeq.toNat maxRecords.toNat state 0
      (UnifiedStorage.scanLoop ext lastSeq maxRecords visitor
        (db.iterate faults .messages (numericKey kMessagePrefix fromSeq)).1 state 0
        (UInt64.ofNat fromSeq.toNat)) :=
    scanLoop_ends hlast hentries (by omega) (Nat.zero_add _)
  rw [UInt64.ofNat_toNat] at hloop
  unfold UnifiedStorage.scanMessages
  generalize db.iterate faults .messages (numericKey kMessagePrefix fromSeq) = iterated at hloop ⊢
  obtain ⟨entries, status⟩ := iterated
  dsimp only at hloop ⊢
  generalize UnifiedStorage.scanLoop ext lastSeq maxRecords visitor entries state 0 fromSeq =
    exit at hloop ⊢
  cases hloop with
  | returned hends => exact hends
  | @left seen last rest hpasses hreason =>
      dsimp only
      split
      · exact .failed hpasses
      · split
        · exact .failed hpasses
        · rename_i hdone
          have hmax := maxRecords.toNat_lt
          have hwithin := hpasses.within
          have hrange := hpasses.range
          rcases hreason with hspent | hmissing
          · exact .exhausted hpasses hspent
          · rw [not_and_or, not_and_or] at hdone
            rcases hdone with hspent | hpast | hpresent
            · have hspent := UInt64.le_iff_toNat_le.mp (UInt64.not_lt.mp hspent)
              rw [UInt64.toNat_ofNat', Nat.mod_eq_of_lt (by omega)] at hspent
              exact .exhausted hpasses (by omega)
            · have hpast := UInt64.lt_iff_toNat_lt.mp (UInt64.not_le.mp hpast)
              rw [UInt64.toNat_ofNat', Nat.mod_eq_of_lt (by omega)] at hpast
              exact .finished hpasses (by omega)
            · exact absurd hmissing hpresent

/-- What every visit keeps, whatever it answers, holds at the end of the scan. -/
theorem scanMessages_keeps {P : σ → Prop}
    (hvisit : ∀ state message, P state → P (visitor state message).1) (hstate : P state) :
    P (UnifiedStorage.scanMessages ext db faults fromSeq lastSeq maxRecords visitor state).1 := by
  have hloop (entries : List (Bytes × Bytes)) (scanned nextSeq : UInt64) :
      P (UnifiedStorage.scanLoop ext lastSeq maxRecords visitor entries state scanned
        nextSeq).state := by
    induction entries generalizing state scanned nextSeq with
    | nil => exact hstate
    | cons entry rest ih =>
        unfold UnifiedStorage.scanLoop
        split
        · exact hstate
        · split
          · exact hstate
          · split
            · exact hstate
            · split
              · exact hstate
              · split
                · exact hstate
                · split
                  · exact hstate
                  · rename_i message _
                    have hnext := hvisit state message hstate
                    split
                    all_goals
                      rename_i hvisited
                      rw [hvisited] at hnext
                    · exact hnext
                    · exact hnext
                    · exact hnext
                    · exact ih hnext _ _
  unfold UnifiedStorage.scanMessages
  generalize db.iterate faults .messages (numericKey kMessagePrefix fromSeq) = iterated
  obtain ⟨entries, status⟩ := iterated
  have hexit := hloop entries 0 fromSeq
  dsimp only
  split
  · rename_i heq
    rw [heq] at hexit
    exact hexit
  · rename_i heq
    rw [heq] at hexit
    split
    · exact hexit
    · split <;> exact hexit

end Trace

end OpenEvent
