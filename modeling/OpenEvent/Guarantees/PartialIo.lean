import OpenEvent.Lib.Fallible
import OpenEvent.ObjectFiles
import OpenEvent.Storage.RangeReads

/-!
The bytes of an object under partial writes and reads. Whatever counts the
system calls return and however often they are interrupted, a `Write` that
succeeds leaves a file with its data and a read of that file returns exactly the
range asked for; a file that is not as expected is reported and never read.
-/

namespace OpenEvent

open ObjectFileStore DurableDirectory

/-! ### Write -/

/-- The name is a regular file with these bytes. -/
def HoldsFile (dir : ObjectDirectory) (name : String) (bytes : Bytes) : Prop :=
  ∃ inode, dir.entries name = some inode ∧ (dir.inodes inode).kind = .regular ∧
    (dir.inodes inode).bytes = bytes

/-- How far the file has been written when `Write` is in a phase. -/
def WrittenSoFar (dir : ObjectDirectory) (objectId : UInt64) (data : Bytes) : WritePhase → Prop
  | .openTemporary => True
  | .writeData inode written => written ≤ data.length ∧
      dir.entries (temporaryName objectId) = some inode ∧ (dir.inodes inode).kind = .regular ∧
      (dir.inodes inode).bytes = data.take written
  | .syncFile inode => dir.entries (temporaryName objectId) = some inode ∧
      (dir.inodes inode).kind = .regular ∧ (dir.inodes inode).bytes = data
  | .closeFile | .renameFile => HoldsFile dir (temporaryName objectId) data
  | .syncDirectory => HoldsFile dir (finalName objectId) data

section Write

variable {dir dir' : ObjectDirectory} {objectId : UInt64} {data : Bytes} {outcome : SyscallOutcome}

theorem writeStep_writtenSoFar {phase : WritePhase} {progress : Progress WritePhase}
    (hsofar : WrittenSoFar dir objectId data phase)
    (h : writeStep objectId data dir phase outcome = some (dir', progress)) :
    (∀ phase', progress = .next phase' → WrittenSoFar dir' objectId data phase') ∧
      ∀ status, progress = .done status → status.isOk = true →
        HoldsFile dir' (finalName objectId) data := by
  have hgoesOn {phase : WritePhase} (hnext : WrittenSoFar dir' objectId data phase) :
      (∀ phase', (Progress.next phase) = .next phase' → WrittenSoFar dir' objectId data phase') ∧
        ∀ status, Progress.next phase = .done status → status.isOk = true →
          HoldsFile dir' (finalName objectId) data := by
    constructor
    · rintro _ ⟨⟩
      exact hnext
    · rintro _ ⟨⟩
  cases writeStep_cases h with
  | created _ => exact hgoesOn ⟨Nat.zero_le _, by simp [create, setInode, setEntry],
      by simp [create, setInode], by simp [create, setInode]⟩
  | @wrote inode written count hlt _ hcount =>
      obtain ⟨hle, hentry, hkind, hbytes⟩ := hsofar
      refine hgoesOn ⟨by omega, hentry, ?_, ?_⟩
      · simpa [append, setInode] using hkind
      · simp [append, setInode, hbytes, List.take_add]
  | interrupted => exact hgoesOn hsofar
  | filled hfull =>
      obtain ⟨_, hentry, hkind, hbytes⟩ := hsofar
      rw [List.take_of_length_le hfull] at hbytes
      exact hgoesOn ⟨hentry, hkind, hbytes⟩
  | @synced inode =>
      obtain ⟨hentry, hkind, hbytes⟩ := hsofar
      exact hgoesOn ⟨inode, hentry, by simpa [syncFile, setInode] using hkind,
        by simpa [syncFile, setInode] using hbytes⟩
  | closed => exact hgoesOn hsofar
  | renamed _ _ =>
      obtain ⟨inode, hentry, hkind, hbytes⟩ := hsofar
      have hname := finalName_ne_temporaryName objectId objectId
      exact hgoesOn ⟨inode, by simp [rename, setEntry, hname, hentry], hkind, hbytes⟩
  | finished =>
      refine ⟨?_, ?_⟩
      · rintro _ ⟨⟩
      · intro _ _ _
        exact hsofar
  | failed hfailed =>
      refine ⟨?_, ?_⟩
      · rintro _ ⟨⟩
      · rintro _ ⟨⟩ hok
        rw [hfailed] at hok
        cases hok

theorem writeFrom_holdsFile {phase : WritePhase} {outcomes : List SyscallOutcome} {status : Status}
    (hsofar : WrittenSoFar dir objectId data phase)
    (h : writeFrom objectId data dir phase outcomes = some (dir', status))
    (hok : status.isOk = true) : HoldsFile dir' (finalName objectId) data := by
  induction outcomes generalizing dir phase with
  | nil => cases h
  | cons outcome rest ih =>
      rw [writeFrom] at h
      split at h
      · cases h
      · rename_i hstep
        exact ih ((writeStep_writtenSoFar hsofar hstep).1 _ rfl) h
      · rename_i hstep
        obtain ⟨rfl, rfl⟩ := Prod.mk.inj (Option.some.inj h)
        exact (writeStep_writtenSoFar hsofar hstep).2 _ rfl hok

end Write

/-! ### The read loop -/

/-- The results of `pread` calls that deliver `remaining` bytes of the file from a position on:
interrupted calls, and any positive counts up to what is asked for. -/
inductive DeliversRange (file : Bytes) : Nat → Nat → List PreadResult → Prop
  | complete {position : Nat} {results : List PreadResult} : DeliversRange file position 0 results
  | interrupted {position remaining : Nat} {rest : List PreadResult} :
      DeliversRange file position remaining rest →
      DeliversRange file position remaining (.failed .eintr :: rest)
  | partly {position remaining : Nat} {chunk : Bytes} {rest : List PreadResult} : chunk ≠ [] →
      chunk.length ≤ remaining → chunk = (file.drop position).take chunk.length →
      DeliversRange file (position + chunk.length) (remaining - chunk.length) rest →
      DeliversRange file position remaining (.bytes chunk :: rest)

/-- The results of `pread` calls of which one returns 0 while bytes are still asked for. -/
inductive EndsEarly : Nat → List PreadResult → Prop
  | zero {remaining : Nat} {rest : List PreadResult} : 0 < remaining →
      EndsEarly remaining (.bytes [] :: rest)
  | interrupted {remaining : Nat} {rest : List PreadResult} : 0 < remaining →
      EndsEarly remaining rest → EndsEarly remaining (.failed .eintr :: rest)
  | partly {remaining : Nat} {chunk : Bytes} {rest : List PreadResult} : chunk ≠ [] →
      chunk.length ≤ remaining → EndsEarly (remaining - chunk.length) rest →
      EndsEarly remaining (.bytes chunk :: rest)

section Loop

variable {name : String} {offset count : Nat} {data : Bytes} {results rest : List PreadResult}

/-- One round of the loop: its arithmetic is in range. -/
theorem rangeLoop_cons {result : PreadResult} (hfits : offset + count < 2 ^ 63)
    (hlt : data.length < count) :
    rangeLoop name offset count (result :: rest) data =
      match result with
      | .failed error =>
          if error = .eintr then rangeLoop name offset count rest data
          else .ok (some (.error
            (objectIoStatus ("read committed object file range " ++ name) error)))
      | .bytes chunk =>
          if count - data.length < chunk.length then .ok none
          else if chunk = [] then
            .ok (some (.error (.storageCorruption "read committed object file"
              ("committed object file is truncated: " ++ name))))
          else rangeLoop name offset count rest (data ++ chunk) := by
  have hunread : data.length ≤ count := Nat.le_of_lt hlt
  have hposition : offset + data.length < 2 ^ 64 := by omega
  have hoffset : offset + data.length < 2 ^ 63 := by omega
  rw [rangeLoop, if_neg (Nat.not_le.mpr hlt)]
  simp only [inRange, hunread, hposition, hoffset, decide_true, if_true, Fallible.ok_bind]
  cases result with
  | failed error => rfl
  | bytes chunk =>
      by_cases hlong : count - data.length < chunk.length
      · simp only [hlong, if_true]
        rfl
      · have hread : data.length + chunk.length < 2 ^ 64 := by omega
        simp only [hlong, if_false, hread, decide_true, if_true, Fallible.ok_bind]
        rfl

theorem rangeLoop_complete (h : count ≤ data.length) :
    rangeLoop name offset count results data = .ok (some (.ok data)) := by
  cases results with
  | nil => rw [rangeLoop, if_pos h]
  | cons result rest => rw [rangeLoop, if_pos h]

/-- No step of the loop leaves its range, whatever the calls return. -/
theorem rangeLoop_in_range (hfits : offset + count < 2 ^ 63) :
    ∃ returned, rangeLoop name offset count results data = .ok returned := by
  induction results generalizing data with
  | nil =>
      rw [rangeLoop]
      split <;> exact ⟨_, rfl⟩
  | cons result rest ih =>
      by_cases hlt : data.length < count
      · rw [rangeLoop_cons hfits hlt]
        split
        · split
          · exact ih
          · exact ⟨_, rfl⟩
        · split
          · exact ⟨_, rfl⟩
          · split
            · exact ⟨_, rfl⟩
            · exact ih
      · exact ⟨_, rangeLoop_complete (Nat.not_lt.mp hlt)⟩

theorem DeliversRange.rangeLoop {file : Bytes} (hfits : offset + count < 2 ^ 63)
    (hle : data.length ≤ count)
    (h : DeliversRange file (offset + data.length) (count - data.length) results) :
    ObjectFileStore.rangeLoop name offset count results data =
      .ok (some (.ok (data ++ (file.drop (offset + data.length)).take (count - data.length)))) := by
  induction results generalizing data with
  | nil =>
      generalize hremaining : count - data.length = remaining at h
      cases h
      rw [rangeLoop_complete (by omega)]
      simp
  | cons result rest ih =>
      by_cases hlt : data.length < count
      · rw [rangeLoop_cons hfits hlt]
        generalize hremaining : count - data.length = remaining at h
        cases h with
        | complete => omega
        | interrupted h =>
            simp only [if_true]
            rw [← hremaining] at h ⊢
            exact ih hle h
        | @partly _ _ chunk _ hne hchunk heq h =>
            subst hremaining
            simp only [Nat.not_lt.mpr hchunk, if_false, hne]
            have hlength : (data ++ chunk).length = data.length + chunk.length := by simp
            have hrest : DeliversRange file (offset + (data ++ chunk).length)
                (count - (data ++ chunk).length) rest := by
              rw [hlength, ← Nat.add_assoc, ← Nat.sub_sub]
              exact h
            have hnext := ih (by rw [hlength]; omega) hrest
            rw [hnext, hlength, List.append_assoc]
            congr 4
            have hsplit : count - data.length =
                chunk.length + (count - (data.length + chunk.length)) := by omega
            rw [hsplit, List.take_add, ← heq, List.drop_drop, Nat.add_assoc]
      · have hzero : count - data.length = 0 := by omega
        rw [rangeLoop_complete (Nat.not_lt.mp hlt), hzero]
        simp

theorem EndsEarly.rangeLoop (hfits : offset + count < 2 ^ 63)
    (h : EndsEarly (count - data.length) results) :
    ObjectFileStore.rangeLoop name offset count results data =
      .ok (some (.error (.storageCorruption "read committed object file"
        ("committed object file is truncated: " ++ name)))) := by
  generalize hremaining : count - data.length = remaining at h
  induction h generalizing data with
  | zero hpos =>
      rw [rangeLoop_cons hfits (by omega)]
      simp
  | interrupted hpos h ih =>
      rw [rangeLoop_cons hfits (by omega)]
      exact ih hremaining
  | @partly _ chunk _ hne hchunk h ih =>
      rw [rangeLoop_cons hfits (by
        have hpos : 0 < chunk.length := List.length_pos_iff.mpr hne
        omega)]
      simp only [hremaining, Nat.not_lt.mpr hchunk, if_false, hne]
      exact ih (by rw [List.length_append]; omega)

/-- While the file stays as it is, the loop returns what the loop over byte counts returns. -/
theorem preadLoop_checked {file : Bytes} {outcomes : List SyscallOutcome} {result : Result Bytes}
    (hfits : offset + count < 2 ^ 63)
    (h : preadLoop name file offset count outcomes data = some result) :
    rangeLoop name offset count (kernelReads file offset count outcomes data.length) data =
      .ok (some result) := by
  induction outcomes generalizing data with
  | nil =>
      unfold preadLoop at h
      split at h
      · obtain rfl := Option.some.inj h
        exact rangeLoop_complete ‹_›
      · cases h
  | cons outcome rest ih =>
      by_cases hlt : data.length < count
      · unfold preadLoop at h
        rw [if_neg (Nat.not_le.mpr hlt)] at h
        cases outcome with
        | success => cases h
        | failed error =>
            rw [kernelReads, rangeLoop_cons hfits hlt]
            dsimp only at h ⊢
            split at h
            · rw [if_pos ‹_›]
              exact ih h
            · rw [if_neg ‹_›]
              obtain rfl := Option.some.inj h
              rfl
        | transferred got =>
            rw [kernelReads, rangeLoop_cons hfits hlt]
            dsimp only at h ⊢
            split at h
            · split at h
              · obtain rfl := Option.some.inj h
                subst got
                simp
              · cases h
            · rename_i hgot
              split at h
              · rename_i hchunk
                have hasked : (((file.drop (offset + data.length)).take
                    (count - data.length)).take got).length ≤ count - data.length := by
                  rw [List.length_take, List.length_take]
                  omega
                generalize ((file.drop (offset + data.length)).take (count - data.length)).take got =
                  chunk at h hchunk hasked ⊢
                have hne : chunk ≠ [] := by
                  rintro rfl
                  exact hgot hchunk.symm
                have hnext := ih h
                rw [List.length_append, hchunk] at hnext
                rw [if_neg (Nat.not_lt.mpr hasked), if_neg hne]
                exact hnext
              · cases h
      · unfold preadLoop at h
        rw [if_pos (Nat.not_lt.mp hlt)] at h
        obtain rfl := Option.some.inj h
        exact rangeLoop_complete (Nat.not_lt.mp hlt)

end Loop

/-! ### ReadRange -/

/-- Every call of the read succeeds, interrupted ones apart, and the `pread` calls deliver the range
of the file in pieces. -/
structure ObjectFileStore.RangeIo.ReadsFrom (io : RangeIo) (data : Bytes) (offset nbytes : UInt64) :
    Prop where
  opens : firstOpen io.opens = some .success
  fstat : io.fstat = .success
  preads : DeliversRange data offset.toNat (min nbytes.toNat (data.length - offset.toNat)) io.preads
  close : io.close = .success

/-- The ways in which a read finds the path not to be the file it expects. -/
inductive FindsDamage (dir : ObjectDirectory) (name : String)
    (expectedSize offset nbytes : UInt64) (io : RangeIo) : Prop
  | missing : dir.entries name = none → firstOpen io.opens = some (.failed .enoent) →
      FindsDamage dir name expectedSize offset nbytes io
  | symbolicLink {inode : Nat} : dir.entries name = some inode →
      (dir.inodes inode).kind = .symbolicLink → firstOpen io.opens = some (.failed .eloop) →
      FindsDamage dir name expectedSize offset nbytes io
  | mismatch {inode : Nat} : dir.entries name = some inode →
      (dir.inodes inode).kind ≠ .symbolicLink → firstOpen io.opens = some .success →
      io.fstat = .success → ((dir.inodes inode).kind ≠ .regular ∨
        (dir.inodes inode).bytes.length ≠ expectedSize.toNat) →
      FindsDamage dir name expectedSize offset nbytes io
  | truncated {inode : Nat} : dir.entries name = some inode →
      (dir.inodes inode).kind = .regular → firstOpen io.opens = some .success →
      io.fstat = .success → (dir.inodes inode).bytes.length = expectedSize.toNat →
      EndsEarly (min nbytes.toNat (expectedSize.toNat - offset.toNat)) io.preads →
      FindsDamage dir name expectedSize offset nbytes io

section ReadRange

variable {dir : ObjectDirectory} {objectId expectedSize offset nbytes : UInt64} {data : Bytes}
variable {io : RangeIo}

/-- The arithmetic before the loop is in range, and so is that of the loop. -/
theorem readOpened_eq {name : String} (hsize : expectedSize.toNat ≤ kMaxObjectBytes)
    (hoffset : offset ≤ expectedSize) :
    offset.toNat + min nbytes.toNat (expectedSize.toNat - offset.toNat) < 2 ^ 63 ∧
    readOpened name expectedSize offset nbytes io =
      (rangeLoop name offset.toNat (min nbytes.toNat (expectedSize.toNat - offset.toNat))
        io.preads []).map (closeAfter io.close) := by
  have hle := UInt64.le_iff_toNat_le.mp hoffset
  have hlimit : kMaxObjectBytes < 2 ^ 62 := by decide
  have hcount : min nbytes.toNat (expectedSize.toNat - offset.toNat) < 2 ^ 64 := by omega
  refine ⟨by omega, ?_⟩
  unfold readOpened
  simp only [inRange, hle, decide_true, if_true, Fallible.ok_bind, hcount]
  cases rangeLoop name offset.toNat (min nbytes.toNat (expectedSize.toNat - offset.toNat))
    io.preads [] <;> rfl

/-- No arithmetic step of `ReadRange` leaves its range. -/
theorem readRangeChecked_in_range :
    ∃ returned, readRangeChecked dir objectId expectedSize offset nbytes io = .ok returned := by
  unfold readRangeChecked
  split
  · exact ⟨_, rfl⟩
  · rename_i hmetadata
    rw [not_or, not_or, not_lt] at hmetadata
    split
    · exact ⟨_, rfl⟩
    · split
      · exact ⟨_, rfl⟩
      · rename_i hoffset
        dsimp only
        split
        · split
          · split <;> exact ⟨_, rfl⟩
          · exact ⟨_, rfl⟩
        · split
          · exact ⟨_, rfl⟩
          · split
            · exact ⟨_, rfl⟩
            · exact ⟨_, rfl⟩
            · split
              · exact ⟨_, rfl⟩
              · obtain ⟨hfits, heq⟩ := @readOpened_eq expectedSize offset nbytes io
                  (finalName objectId) hmetadata.2.2 (UInt64.not_lt.mp hoffset)
                obtain ⟨returned, hreturned⟩ := rangeLoop_in_range hfits
                rw [heq, hreturned]
                exact ⟨_, rfl⟩
        · exact ⟨_, rfl⟩

/-- A read that gets to its loop. -/
theorem readRangeChecked_opened {inode : Nat} (hid : objectId ≠ 0) (hzero : expectedSize ≠ 0)
    (hmax : expectedSize.toNat ≤ kMaxObjectBytes) (hnbytes : nbytes ≠ 0)
    (hoffset : offset ≤ expectedSize) (hentry : dir.entries (finalName objectId) = some inode)
    (hkind : (dir.inodes inode).kind = .regular)
    (hsize : (dir.inodes inode).bytes.length = expectedSize.toNat)
    (hopens : firstOpen io.opens = some .success) (hfstat : io.fstat = .success) :
    readRangeChecked dir objectId expectedSize offset nbytes io =
      (rangeLoop (finalName objectId) offset.toNat
        (min nbytes.toNat (expectedSize.toNat - offset.toNat)) io.preads []).map
          (closeAfter io.close) := by
  have hmetadata : ¬ (objectId = 0 ∨ expectedSize = 0 ∨
      expectedSize.toNat > kMaxObjectBytes) := by
    rintro (hbad | hbad | hbad)
    · exact hid hbad
    · exact hzero hbad
    · omega
  unfold readRangeChecked
  rw [if_neg hmetadata, if_neg hnbytes, if_neg (UInt64.not_lt.mpr hoffset)]
  simp only [hopens, hentry, hkind, hfstat, hsize]
  rw [if_neg (by decide), if_neg (by simp)]
  exact (readOpened_eq hmax hoffset).2

theorem ObjectFileStore.RangeIo.ReadsFrom.returns (h : io.ReadsFrom data offset nbytes)
    (hid : objectId ≠ 0) (hne : data ≠ []) (hmax : data.length ≤ kMaxObjectBytes)
    (hsize : expectedSize.toNat = data.length) (hnbytes : nbytes ≠ 0)
    (hoffset : offset.toNat ≤ data.length) (hfile : HoldsFile dir (finalName objectId) data) :
    readRangeChecked dir objectId expectedSize offset nbytes io =
      .ok (some (.ok ((data.drop offset.toNat).take
        (min nbytes.toNat (data.length - offset.toNat))))) := by
  obtain ⟨inode, hentry, hkind, hbytes⟩ := hfile
  have hlimit : kMaxObjectBytes < 2 ^ 62 := by decide
  have hzero : expectedSize ≠ 0 := by
    rintro rfl
    exact hne (List.length_eq_zero_iff.mp hsize.symm)
  have hloop : rangeLoop (finalName objectId) offset.toNat
      (min nbytes.toNat (data.length - offset.toNat)) io.preads [] = .ok (some (.ok _)) :=
    DeliversRange.rangeLoop (by omega) (Nat.zero_le _) h.preads
  rw [readRangeChecked_opened hid hzero (by omega) hnbytes
    (UInt64.le_iff_toNat_le.mpr (by omega)) hentry hkind (by rw [hbytes, hsize]) h.opens h.fstat,
    hsize, hloop, h.close]
  rfl

theorem readRangeChecked_outOfRange (hid : objectId ≠ 0) (hzero : expectedSize ≠ 0)
    (hmax : expectedSize.toNat ≤ kMaxObjectBytes) (hnbytes : nbytes ≠ 0)
    (hoffset : expectedSize < offset) :
    readRangeChecked dir objectId expectedSize offset nbytes io =
      .ok (some (.error { code := .outOfRange, message := "offset exceeds object size" })) := by
  unfold readRangeChecked
  rw [if_neg, if_neg hnbytes, if_pos hoffset]
  rintro (hbad | hbad | hbad)
  · exact hid hbad
  · exact hzero hbad
  · omega

/-- A damaged path is reported as lost data. -/
theorem FindsDamage.dataLoss (h : FindsDamage dir (finalName objectId) expectedSize offset nbytes io)
    (hoffset : offset ≤ expectedSize) (hnbytes : nbytes ≠ 0) :
    ∃ status, readRangeChecked dir objectId expectedSize offset nbytes io =
      .ok (some (.error status)) ∧ status.code = .dataLoss := by
  by_cases hmetadata : objectId = 0 ∨ expectedSize = 0 ∨ expectedSize.toNat > kMaxObjectBytes
  · rw [readRangeChecked, if_pos hmetadata]
    exact ⟨_, rfl, rfl⟩
  · unfold readRangeChecked
    rw [if_neg hmetadata, if_neg hnbytes, if_neg (UInt64.not_lt.mpr hoffset)]
    cases h with
    | missing hentry hopens =>
        simp only [hopens, hentry]
        exact ⟨_, rfl, rfl⟩
    | symbolicLink hentry hkind hopens =>
        simp only [hopens, hentry]
        rw [if_pos (Or.inr True.intro), if_pos (Or.inr ⟨True.intro, _, rfl, hkind⟩)]
        exact ⟨_, rfl, rfl⟩
    | mismatch hentry hkind hopens hfstat hmismatch =>
        simp only [hopens, hentry, hkind, hfstat]
        rw [if_neg (by simp), if_pos hmismatch]
        exact ⟨_, rfl, rfl⟩
    | truncated hentry hkind hopens hfstat hsize hearly =>
        rw [not_or, not_or, not_lt] at hmetadata
        obtain ⟨hfits, heq⟩ := @readOpened_eq expectedSize offset nbytes io (finalName objectId)
          hmetadata.2.2 hoffset
        simp only [hopens, hentry, hkind, hfstat, hsize]
        rw [if_neg (by decide), if_neg (by simp), heq]
        have hloop : rangeLoop (finalName objectId) offset.toNat
            (min nbytes.toNat (expectedSize.toNat - offset.toNat)) io.preads [] = .ok _ :=
          EndsEarly.rangeLoop hfits hearly
        rw [hloop]
        exact ⟨_, rfl, rfl⟩

/-- Data is only returned from a regular file of the expected size. -/
theorem readRangeChecked_ok {bytes : Bytes}
    (h : readRangeChecked dir objectId expectedSize offset nbytes io = .ok (some (.ok bytes))) :
    ∃ inode, dir.entries (finalName objectId) = some inode ∧
      (dir.inodes inode).kind = .regular ∧
      (dir.inodes inode).bytes.length = expectedSize.toNat := by
  unfold readRangeChecked at h
  split at h
  · cases h
  · split at h
    · cases h
    · split at h
      · cases h
      · dsimp only at h
        split at h
        · split at h
          · split at h <;> cases h
          · cases h
        · rename_i inode _ hentry
          split at h
          · cases h
          · split at h
            · cases h
            · cases h
            · split at h
              · cases h
              · rename_i hmatch
                rw [not_or, not_not, not_not] at hmatch
                exact ⟨inode, hentry, hmatch.1, hmatch.2⟩
        · cases h

/-- The system calls of a read while the file stays as it is. -/
def ObjectFileStore.ReadIo.machine (counts : ReadIo) (dir : ObjectDirectory)
    (objectId expectedSize offset nbytes : UInt64) : RangeIo :=
  { opens := counts.opens, fstat := counts.fstat, close := counts.close
    preads := kernelReads
      (((dir.entries (finalName objectId)).map (fun inode => (dir.inodes inode).bytes)).getD [])
      offset.toNat (min nbytes.toNat (expectedSize.toNat - offset.toNat)) counts.preads 0 }

private theorem readOpened_checked {counts : ReadIo} {result : Result Bytes} {inode : Nat}
    (hmax : expectedSize.toNat ≤ kMaxObjectBytes) (hoffset : offset ≤ expectedSize)
    (hentry : dir.entries (finalName objectId) = some inode)
    (h : (match preadLoop (finalName objectId) (dir.inodes inode).bytes offset.toNat
        (min nbytes.toNat (expectedSize - offset).toNat) counts.preads [] with
      | none => none
      | some (.error status) => some (.error status)
      | some (.ok data) =>
          match counts.close with
          | .success => some (.ok data)
          | .failed error => some (.error (objectIoStatus "close committed object file" error))
          | .transferred _ => none) = some result) :
    readOpened (finalName objectId) expectedSize offset nbytes
      (counts.machine dir objectId expectedSize offset nbytes) = .ok (some result) := by
  obtain ⟨hfits, heq⟩ := @readOpened_eq expectedSize offset nbytes
    (counts.machine dir objectId expectedSize offset nbytes) (finalName objectId) hmax hoffset
  rw [UInt64.toNat_sub_of_le _ _ hoffset] at h
  rw [heq]
  have hpreads : (counts.machine dir objectId expectedSize offset nbytes).preads =
      kernelReads (dir.inodes inode).bytes offset.toNat
        (min nbytes.toNat (expectedSize.toNat - offset.toNat)) counts.preads 0 := by
    simp [ReadIo.machine, hentry]
  have hclose : (counts.machine dir objectId expectedSize offset nbytes).close = counts.close := rfl
  rw [hpreads, hclose]
  cases hloop : preadLoop (finalName objectId) (dir.inodes inode).bytes offset.toNat
      (min nbytes.toNat (expectedSize.toNat - offset.toNat)) counts.preads [] with
  | none =>
      rw [hloop] at h
      cases h
  | some read =>
      rw [hloop] at h
      have hchecked : rangeLoop (finalName objectId) offset.toNat _
          (kernelReads _ _ _ _ 0) [] = .ok (some read) := preadLoop_checked hfits hloop
      rw [hchecked]
      cases read with
      | error status =>
          obtain rfl := Option.some.inj h
          rfl
      | ok data =>
          dsimp only at h
          show Except.ok (closeAfter counts.close (some (.ok data))) = _
          exact congrArg Except.ok h

/-- What `ReadRange` returns over byte counts, it returns on machine integers. -/
theorem readRange_checked {counts : ReadIo} {result : Result Bytes}
    (h : readRange dir objectId expectedSize offset nbytes counts = some result) :
    readRangeChecked dir objectId expectedSize offset nbytes
      (counts.machine dir objectId expectedSize offset nbytes) = .ok (some result) := by
  unfold readRange at h
  unfold readRangeChecked
  split_ifs at h ⊢ with hmetadata hnbytes hoffset
  · obtain rfl := Option.some.inj h
    rfl
  · obtain rfl := Option.some.inj h
    rfl
  · obtain rfl := Option.some.inj h
    rfl
  · rw [not_or, not_or, not_lt] at hmetadata
    have hle : offset ≤ expectedSize := UInt64.not_lt.mp hoffset
    have hopens : (counts.machine dir objectId expectedSize offset nbytes).opens = counts.opens := rfl
    have hfstat : (counts.machine dir objectId expectedSize offset nbytes).fstat = counts.fstat := rfl
    dsimp only at h ⊢
    rw [hopens, hfstat]
    cases hopen : firstOpen counts.opens with
    | none => simp [hopen] at h
    | some outcome =>
        rw [hopen] at h
        cases outcome with
        | failed error =>
            dsimp only at h ⊢
            split_ifs at h ⊢
            · obtain rfl := Option.some.inj h
              rfl
            · obtain rfl := Option.some.inj h
              rfl
        | transferred count => simp at h
        | success =>
            cases hentry : dir.entries (finalName objectId) with
            | none => simp [hentry] at h
            | some inode =>
                rw [hentry] at h
                dsimp only at h ⊢
                by_cases hlink : (dir.inodes inode).kind = .symbolicLink
                · rw [if_pos hlink] at h
                  cases h
                · rw [if_neg hlink] at h ⊢
                  cases hstat : counts.fstat with
                  | transferred count => simp [hstat] at h
                  | failed error =>
                      rw [hstat] at h
                      obtain rfl := Option.some.inj h
                      rfl
                  | success =>
                      rw [hstat] at h
                      dsimp only at h ⊢
                      split_ifs at h ⊢
                      · obtain rfl := Option.some.inj h
                        rfl
                      · exact readOpened_checked hmetadata.2.2 hle hentry h

end ReadRange

/-! ### Reading in chunks -/

/-- Reads of an object one after the other, each from where the last one ended, until one is
empty. -/
inductive ReadsInChunks (dir : ObjectDirectory) (objectId expectedSize : UInt64) (data : Bytes) :
    UInt64 → List Bytes → Prop
  | stop {offset nbytes : UInt64} {io : RangeIo} : nbytes ≠ 0 → io.ReadsFrom data offset nbytes →
      readRangeChecked dir objectId expectedSize offset nbytes io = .ok (some (.ok [])) →
      ReadsInChunks dir objectId expectedSize data offset []
  | more {offset nbytes : UInt64} {io : RangeIo} {chunk : Bytes} {rest : List Bytes} :
      nbytes ≠ 0 → io.ReadsFrom data offset nbytes →
      readRangeChecked dir objectId expectedSize offset nbytes io = .ok (some (.ok chunk)) →
      chunk ≠ [] →
      ReadsInChunks dir objectId expectedSize data (offset + UInt64.ofNat chunk.length) rest →
      ReadsInChunks dir objectId expectedSize data offset (chunk :: rest)

theorem ReadsInChunks.flatten {dir : ObjectDirectory} {objectId expectedSize offset : UInt64}
    {data : Bytes} {chunks : List Bytes} (hid : objectId ≠ 0) (hne : data ≠ [])
    (hmax : data.length ≤ kMaxObjectBytes) (hsize : expectedSize.toNat = data.length)
    (hfile : HoldsFile dir (finalName objectId) data) (hoffset : offset.toNat ≤ data.length)
    (h : ReadsInChunks dir objectId expectedSize data offset chunks) :
    chunks.flatten = data.drop offset.toNat := by
  have hlimit : kMaxObjectBytes < 2 ^ 62 := by decide
  induction h with
  | @stop offset nbytes io hnbytes hreads hempty =>
      rw [hreads.returns hid hne hmax hsize hnbytes hoffset hfile] at hempty
      have hnone := Except.ok.inj (Option.some.inj (Except.ok.inj hempty))
      have hpos : 0 < nbytes.toNat :=
        Nat.pos_of_ne_zero (fun hzero => hnbytes (UInt64.toNat_inj.mp hzero))
      have hlength := congrArg List.length hnone
      rw [List.length_take, List.length_drop, List.length_nil] at hlength
      rw [List.flatten_nil, List.drop_eq_nil_of_le (by omega)]
  | @more offset nbytes io chunk rest hnbytes hreads hchunk hnonempty _ ih =>
      rw [hreads.returns hid hne hmax hsize hnbytes hoffset hfile] at hchunk
      have htaken := Except.ok.inj (Option.some.inj (Except.ok.inj hchunk))
      have hlength := congrArg List.length htaken
      rw [List.length_take, List.length_drop] at hlength
      have hnext : (offset + UInt64.ofNat chunk.length).toNat = offset.toNat + chunk.length := by
        rw [UInt64.toNat_add, UInt64.toNat_ofNat', Nat.mod_eq_of_lt (a := chunk.length) (by omega),
          Nat.mod_eq_of_lt (by omega)]
      have htaken' : chunk = (data.drop offset.toNat).take chunk.length := by
        rw [← htaken, List.length_take, List.length_drop]
        congr 1
        omega
      rw [List.flatten_cons, ih (by omega), hnext, ← List.drop_drop]
      nth_rewrite 1 [htaken']
      exact List.take_append_drop _ _

/-- Object bytes survive partial I/O. A `Write` that returns OK leaves the data, whatever counts its
calls returned; a read of that file returns the range asked for in the same way, so that chunks of
any sizes add up to the data; its arithmetic stays in range; and what is not a regular file of the
expected size, or ends early, is reported as lost data and never read. -/
theorem object_bytes_survive_partial_io {objectId expectedSize : UInt64} {data : Bytes}
    (hid : objectId ≠ 0) (hne : data ≠ []) (hmax : data.length ≤ kMaxObjectBytes)
    (hsize : expectedSize.toNat = data.length) :
    (∀ dir outcomes dir' status, write objectId data dir outcomes = some (dir', status) →
      status.isOk = true → HoldsFile dir' (finalName objectId) data) ∧
    (∀ dir, HoldsFile dir (finalName objectId) data →
      (∀ offset nbytes io, nbytes ≠ 0 →
        (data.length < offset.toNat →
          readRangeChecked dir objectId expectedSize offset nbytes io =
            .ok (some (.error
              { code := .outOfRange, message := "offset exceeds object size" }))) ∧
        (offset.toNat ≤ data.length → io.ReadsFrom data offset nbytes →
          readRangeChecked dir objectId expectedSize offset nbytes io =
            .ok (some (.ok ((data.drop offset.toNat).take
              (min nbytes.toNat (data.length - offset.toNat))))))) ∧
      ∀ chunks, ReadsInChunks dir objectId expectedSize data 0 chunks → chunks.flatten = data) ∧
    (∀ dir objectId expectedSize offset nbytes io,
      (∃ returned, readRangeChecked dir objectId expectedSize offset nbytes io = .ok returned) ∧
      (offset ≤ expectedSize → nbytes ≠ 0 →
        FindsDamage dir (finalName objectId) expectedSize offset nbytes io →
          ∃ status, readRangeChecked dir objectId expectedSize offset nbytes io =
            .ok (some (.error status)) ∧ status.code = .dataLoss) ∧
      ∀ bytes, readRangeChecked dir objectId expectedSize offset nbytes io =
          .ok (some (.ok bytes)) → ∃ inode, dir.entries (finalName objectId) = some inode ∧
        (dir.inodes inode).kind = .regular ∧
          (dir.inodes inode).bytes.length = expectedSize.toNat) := by
  refine ⟨?_, ?_, ?_⟩
  · intro dir outcomes dir' status hwrite hok
    have hstart : WrittenSoFar dir objectId data .openTemporary := True.intro
    exact writeFrom_holdsFile hstart hwrite hok
  · intro dir hfile
    refine ⟨?_, ?_⟩
    · intro offset nbytes io hnbytes
      refine ⟨?_, ?_⟩
      · intro hoffset
        have hzero : expectedSize ≠ 0 := by
          rintro rfl
          exact hne (List.length_eq_zero_iff.mp hsize.symm)
        exact readRangeChecked_outOfRange hid hzero (by omega) hnbytes
          (UInt64.lt_iff_toNat_lt.mpr (by omega))
      · intro hoffset hreads
        exact hreads.returns hid hne hmax hsize hnbytes hoffset hfile
    · intro chunks hchunks
      exact hchunks.flatten hid hne hmax hsize hfile (Nat.zero_le _)
  · intro dir objectId expectedSize offset nbytes io
    exact ⟨readRangeChecked_in_range, fun hoffset hnbytes hdamage => hdamage.dataLoss hoffset hnbytes,
      fun _ hbytes => readRangeChecked_ok hbytes⟩

namespace Reference

/-- The calls of a `Write` of three bytes, interrupted and in two pieces. -/
def writeCalls : List SyscallOutcome :=
  [.success, .failed .eintr, .transferred 2, .transferred 1, .success, .success, .success, .success,
    .success]

/-- The calls of a read of the last two bytes, interrupted and in two pieces. -/
def readCalls : RangeIo :=
  { opens := [.failed .eintr, .success], fstat := .success
    preads := [.failed .eintr, .bytes [2], .bytes [3]], close := .success }

theorem readCalls_readsFrom : readCalls.ReadsFrom [1, 2, 3] 1 18446744073709551615 where
  opens := rfl
  fstat := rfl
  preads := .interrupted (.partly (by simp) (by decide) rfl
    (.partly (by simp) (by decide) rfl .complete))
  close := rfl

theorem interrupted_calls_keep_bytes :
    ∃ dir, write 1 [1, 2, 3] DurableDirectory.empty writeCalls = some (dir, .ok) ∧
      HoldsFile dir (finalName 1) [1, 2, 3] ∧
      readRangeChecked dir 1 3 1 18446744073709551615 readCalls = .ok (some (.ok [2, 3])) := by
  have hwritten : (write 1 [1, 2, 3] DurableDirectory.empty writeCalls).map (·.2) = some .ok := by
    decide +kernel
  obtain ⟨⟨dir, status⟩, hwrite, rfl⟩ := Option.map_eq_some_iff.mp hwritten
  obtain ⟨hholds, hreads, _⟩ := @object_bytes_survive_partial_io 1 3 [1, 2, 3] (by decide)
    (by decide) (by decide) rfl
  have hfile := hholds _ _ _ _ hwrite rfl
  exact ⟨dir, hwrite, hfile,
    ((hreads dir hfile).1 1 18446744073709551615 readCalls (by decide)).2 (by decide)
      readCalls_readsFrom⟩

end Reference

end OpenEvent
