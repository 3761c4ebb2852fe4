import OpenEvent.Storage.ObjectFileStore

/-!
What the files of one object are while `Write` and `Cleanup` work on them.
`owner` names the object that each inode was created for; a call changes
nothing under the names and in the inodes of other objects.
-/

namespace OpenEvent

open DurableDirectory ObjectFileStore

/-! ### Names -/

theorem finalName_injective : Function.Injective finalName := by
  intro left right h
  have hdigits : Nat.toDigits 10 left.toNat = Nat.toDigits 10 right.toNat := by
    rw [← Nat.toList_repr, ← Nat.toList_repr]
    exact congrArg String.toList h
  have hvalue := congrArg (fun digits => Nat.ofDigitChars 10 digits 0) hdigits
  simp only [Nat.ofDigitChars_ten_toDigits] at hvalue
  exact UInt64.toNat_inj.mp hvalue

theorem temporaryName_injective : Function.Injective temporaryName := by
  intro left right h
  have hlist : ".tmp.".toList ++ (finalName left).toList =
      ".tmp.".toList ++ (finalName right).toList := by
    rw [← String.toList_append, ← String.toList_append]
    exact congrArg String.toList h
  exact finalName_injective (String.toList_injective (List.append_cancel_left hlist))

theorem finalName_ne_temporaryName (left right : UInt64) : finalName left ≠ temporaryName right := by
  intro h
  have hdot : '.' ∈ (finalName left).toList := by
    rw [h, temporaryName, String.toList_append]
    exact List.mem_append_left _ (by decide)
  have hdigits : (finalName left).toList = Nat.toDigits 10 left.toNat := Nat.toList_repr
  rw [hdigits] at hdot
  exact absurd (Nat.isDigit_of_mem_toDigits (by decide) (by decide) hdot) (by decide)

/-- The two names of an object. -/
def ObjectName (objectId : UInt64) (name : String) : Prop :=
  name = temporaryName objectId ∨ name = finalName objectId

theorem ObjectName.unique {left right : UInt64} {name : String} (hleft : ObjectName left name)
    (hright : ObjectName right name) : left = right := by
  rcases hleft with rfl | rfl
  · rcases hright with h | h
    · exact temporaryName_injective h
    · exact absurd h.symm (finalName_ne_temporaryName right left)
  · rcases hright with h | h
    · exact absurd h (finalName_ne_temporaryName left right)
    · exact finalName_injective h

/-! ### The state of an object's files -/

/-- No power loss can leave a file of the object. -/
structure Absent (dir : ObjectDirectory) (objectId : UInt64) : Prop where
  temporary : dir.Certain (temporaryName objectId) none
  final : dir.Certain (finalName objectId) none

/-- An inode that was created for the object and has the given contents. -/
structure FileAt (dir : ObjectDirectory) (owner : Nat → UInt64) (objectId : UInt64)
    (inode : Nat) (bytes : Bytes) : Prop where
  lt_next : inode < dir.nextInode
  owned : owner inode = objectId
  bytes_eq : (dir.inodes inode).bytes = bytes

/-- The object has its final file with the given contents, and a power loss
changes neither. -/
structure Durable (dir : ObjectDirectory) (owner : Nat → UInt64) (objectId : UInt64)
    (inode : Nat) (data : Bytes) : Prop where
  file : FileAt dir owner objectId inode data
  synced : (dir.inodes inode).synced = true
  final : dir.Certain (finalName objectId) (some inode)
  temporary : dir.Certain (temporaryName objectId) none

/-- The files of the object that `Write` is at work on. -/
def WriteFiles (dir : ObjectDirectory) (owner : Nat → UInt64) (objectId : UInt64) (data : Bytes) :
    WritePhase → Prop
  | .openTemporary => Absent dir objectId
  | .writeData inode written => written ≤ data.length ∧
      FileAt dir owner objectId inode (data.take written) ∧
      dir.entries (temporaryName objectId) = some inode ∧ dir.Certain (finalName objectId) none
  | .syncFile inode => FileAt dir owner objectId inode data ∧
      dir.entries (temporaryName objectId) = some inode ∧ dir.Certain (finalName objectId) none
  | .closeFile | .renameFile => ∃ inode, FileAt dir owner objectId inode data ∧
      (dir.inodes inode).synced = true ∧
      dir.entries (temporaryName objectId) = some inode ∧ dir.Certain (finalName objectId) none
  | .syncDirectory => ∃ inode, FileAt dir owner objectId inode data ∧
      (dir.inodes inode).synced = true ∧
      dir.entries (temporaryName objectId) = none ∧ dir.entries (finalName objectId) = some inode

/-- The object has no file, as long as the power stays on. -/
structure Gone (dir : ObjectDirectory) (objectId : UInt64) : Prop where
  temporary : dir.entries (temporaryName objectId) = none
  final : dir.entries (finalName objectId) = none

/-- The files of the objects that `Cleanup` is at work on. -/
def CleanupFiles (dir : ObjectDirectory) (objectIds : List UInt64) : CleanupPhase → Prop
  | .unlinkTemporary objectId rest => ∃ done, objectIds = done ++ objectId :: rest ∧
      ∀ other ∈ done, Gone dir other
  | .unlinkFinal objectId rest => ∃ done, objectIds = done ++ objectId :: rest ∧
      (∀ other ∈ done, Gone dir other) ∧ dir.entries (temporaryName objectId) = none
  | .syncDirectory => ∀ other ∈ objectIds, Gone dir other

/-- Nothing has changed for objects outside the list. -/
structure Elsewhere (objectIds : List UInt64) (owner owner' : Nat → UInt64)
    (dir dir' : ObjectDirectory) : Prop where
  changes : Changes (fun name => ∃ objectId ∈ objectIds, ObjectName objectId name)
    (fun inode => owner inode ∈ objectIds) dir dir'
  owners : ∀ inode < dir.nextInode, owner' inode = owner inode

namespace Elsewhere

variable {objectIds : List UInt64} {owner owner' : Nat → UInt64} {dir dir' : ObjectDirectory}
variable {objectId : UInt64} {inode : Nat} {bytes : Bytes}

theorem of_changes (h : Changes (fun name => ∃ objectId ∈ objectIds, ObjectName objectId name)
    (fun inode => owner inode ∈ objectIds) dir dir') : Elsewhere objectIds owner owner dir dir' :=
  ⟨h, fun _ _ => rfl⟩

theorem not_name (h : objectId ∉ objectIds) {name : String} (hname : ObjectName objectId name) :
    ¬ ∃ other ∈ objectIds, ObjectName other name := by
  rintro ⟨other, hmember, hother⟩
  exact h (hname.unique hother ▸ hmember)

theorem certain (h : Elsewhere objectIds owner owner' dir dir') (hother : objectId ∉ objectIds)
    {name : String} (hname : ObjectName objectId name) {entry : Option Nat}
    (hcertain : dir.Certain name entry) : dir'.Certain name entry :=
  h.changes.certain name entry (not_name hother hname) hcertain

theorem entry (h : Elsewhere objectIds owner owner' dir dir') (hother : objectId ∉ objectIds)
    {name : String} (hname : ObjectName objectId name) : dir'.entries name = dir.entries name :=
  h.changes.entry name (not_name hother hname)

theorem absent (h : Elsewhere objectIds owner owner' dir dir') (hother : objectId ∉ objectIds)
    (habsent : Absent dir objectId) : Absent dir' objectId :=
  ⟨h.certain hother (Or.inl rfl) habsent.temporary, h.certain hother (Or.inr rfl) habsent.final⟩

theorem inode_eq (h : Elsewhere objectIds owner owner' dir dir') (hother : objectId ∉ objectIds)
    (hfile : FileAt dir owner objectId inode bytes) : dir'.inodes inode = dir.inodes inode := by
  apply h.changes.inode inode hfile.lt_next
  rw [hfile.owned]
  exact hother

theorem file (h : Elsewhere objectIds owner owner' dir dir') (hother : objectId ∉ objectIds)
    (hfile : FileAt dir owner objectId inode bytes) : FileAt dir' owner' objectId inode bytes where
  lt_next := lt_of_lt_of_le hfile.lt_next h.changes.nextInode
  owned := by rw [h.owners inode hfile.lt_next, hfile.owned]
  bytes_eq := by rw [h.inode_eq hother hfile, hfile.bytes_eq]

theorem durable (h : Elsewhere objectIds owner owner' dir dir') (hother : objectId ∉ objectIds)
    (hdurable : Durable dir owner objectId inode bytes) :
    Durable dir' owner' objectId inode bytes where
  file := h.file hother hdurable.file
  synced := by rw [h.inode_eq hother hdurable.file, hdurable.synced]
  final := h.certain hother (Or.inr rfl) hdurable.final
  temporary := h.certain hother (Or.inl rfl) hdurable.temporary

theorem gone (h : Elsewhere objectIds owner owner' dir dir') (hother : objectId ∉ objectIds)
    (hgone : Gone dir objectId) : Gone dir' objectId :=
  ⟨by rw [h.entry hother (Or.inl rfl), hgone.temporary],
    by rw [h.entry hother (Or.inr rfl), hgone.final]⟩

theorem writeFiles (h : Elsewhere objectIds owner owner' dir dir') (hother : objectId ∉ objectIds)
    {phase : WritePhase} (hfiles : WriteFiles dir owner objectId bytes phase) :
    WriteFiles dir' owner' objectId bytes phase := by
  have htemporary := h.entry hother (Or.inl rfl)
  have hfinal := h.entry hother (Or.inr rfl)
  cases phase with
  | openTemporary => exact h.absent hother hfiles
  | writeData inode written =>
      obtain ⟨hle, hfile, hentry, hcertain⟩ := hfiles
      exact ⟨hle, h.file hother hfile, htemporary.trans hentry,
        h.certain hother (Or.inr rfl) hcertain⟩
  | syncFile inode =>
      obtain ⟨hfile, hentry, hcertain⟩ := hfiles
      exact ⟨h.file hother hfile, htemporary.trans hentry, h.certain hother (Or.inr rfl) hcertain⟩
  | closeFile =>
      obtain ⟨inode, hfile, hsynced, hentry, hcertain⟩ := hfiles
      exact ⟨inode, h.file hother hfile, by rw [h.inode_eq hother hfile, hsynced],
        htemporary.trans hentry, h.certain hother (Or.inr rfl) hcertain⟩
  | renameFile =>
      obtain ⟨inode, hfile, hsynced, hentry, hcertain⟩ := hfiles
      exact ⟨inode, h.file hother hfile, by rw [h.inode_eq hother hfile, hsynced],
        htemporary.trans hentry, h.certain hother (Or.inr rfl) hcertain⟩
  | syncDirectory =>
      obtain ⟨inode, hfile, hsynced, hentry, hrenamed⟩ := hfiles
      exact ⟨inode, h.file hother hfile, by rw [h.inode_eq hother hfile, hsynced],
        htemporary.trans hentry, hfinal.trans hrenamed⟩

theorem cleanupFiles (h : Elsewhere objectIds owner owner' dir dir') {others : List UInt64}
    (hothers : ∀ other ∈ others, other ∉ objectIds) {phase : CleanupPhase}
    (hfiles : CleanupFiles dir others phase) : CleanupFiles dir' others phase := by
  cases phase with
  | unlinkTemporary objectId rest =>
      obtain ⟨done, rfl, hdone⟩ := hfiles
      exact ⟨done, rfl, fun other hmember => h.gone (hothers other (by simp [hmember]))
        (hdone other hmember)⟩
  | unlinkFinal objectId rest =>
      obtain ⟨done, rfl, hdone, hentry⟩ := hfiles
      refine ⟨done, rfl, fun other hmember => h.gone (hothers other (by simp [hmember]))
        (hdone other hmember), ?_⟩
      rw [h.entry (hothers objectId (by simp)) (Or.inl rfl), hentry]
  | syncDirectory =>
      exact fun other hmember => h.gone (hothers other hmember) (hfiles other hmember)

end Elsewhere

/-! ### One system call -/

section Steps

variable {owner : Nat → UInt64} {dir dir' : ObjectDirectory} {objectId : UInt64} {data : Bytes}
variable {outcome : SyscallOutcome}

/-- Everything that one system call of `Write` can do. -/
inductive WriteMove (objectId : UInt64) (data : Bytes) (dir : ObjectDirectory) :
    WritePhase → ObjectDirectory → Progress WritePhase → Prop
  | created : dir.entries (temporaryName objectId) = none →
      WriteMove objectId data dir .openTemporary (dir.create (temporaryName objectId))
        (.next (.writeData dir.nextInode 0))
  | wrote {inode written count : Nat} : written < data.length → 0 < count →
      count ≤ data.length - written →
      WriteMove objectId data dir (.writeData inode written)
        (dir.append inode ((data.drop written).take count))
        (.next (.writeData inode (written + count)))
  | interrupted {inode written : Nat} :
      WriteMove objectId data dir (.writeData inode written) dir (.next (.writeData inode written))
  | filled {inode written : Nat} : data.length ≤ written →
      WriteMove objectId data dir (.writeData inode written) dir (.next (.syncFile inode))
  | synced {inode : Nat} :
      WriteMove objectId data dir (.syncFile inode) (dir.syncFile inode) (.next .closeFile)
  | closed : WriteMove objectId data dir .closeFile dir (.next .renameFile)
  | renamed : dir.entries (finalName objectId) = none →
      dir.entries (temporaryName objectId) ≠ none →
      WriteMove objectId data dir .renameFile
        (dir.rename (temporaryName objectId) (finalName objectId)) (.next .syncDirectory)
  | finished : WriteMove objectId data dir .syncDirectory dir.sync (.done .ok)
  | failed {phase : WritePhase} {status : Status} : status.isOk = false →
      WriteMove objectId data dir phase dir (.done status)

theorem writeStep_cases {phase : WritePhase} {progress : Progress WritePhase}
    (h : writeStep objectId data dir phase outcome = some (dir', progress)) :
    WriteMove objectId data dir phase dir' progress := by
  unfold writeStep at h
  split at h
  · split at h
    · cases h
      exact .created ‹_›
    · cases h
  · split at h
    · split at h
      · cases h
      · cases h
        exact .failed rfl
    · cases h
      exact .failed (objectIoStatus_not_ok _ _)
  · split at h
    · rename_i hlt
      split at h
      · cases h
        exact .failed rfl
      · rename_i hcount
        split at h
        · cases h
          exact .wrote hlt (Nat.pos_of_ne_zero hcount) ‹_›
        · cases h
    · cases h
  · split at h
    · split at h
      · cases h
        exact .interrupted
      · cases h
        exact .failed (objectIoStatus_not_ok _ _)
    · cases h
  · split at h
    · cases h
    · cases h
      exact .filled (Nat.not_lt.mp ‹_›)
  · cases h
    exact .synced
  · cases h
    exact .failed (objectIoStatus_not_ok _ _)
  · cases h
    exact .closed
  · cases h
    exact .failed (objectIoStatus_not_ok _ _)
  · split at h
    · rename_i hfree
      cases h
      exact .renamed hfree.1 hfree.2
    · cases h
  · split at h
    · split at h
      · cases h
      · cases h
        exact .failed rfl
    · cases h
      exact .failed (objectIoStatus_not_ok _ _)
  · cases h
    exact .finished
  · cases h
    exact .failed (objectIoStatus_not_ok _ _)
  · cases h

/-- What `Write` has done when one of its system calls returns: only its own
object is touched, the files are as the next phase expects them, and a
successful return leaves the object durable. -/
structure WriteAdvance (dir dir' : ObjectDirectory) (owner : Nat → UInt64) (objectId : UInt64)
    (data : Bytes) (progress : Progress WritePhase) (owner' : Nat → UInt64) : Prop where
  elsewhere : Elsewhere [objectId] owner owner' dir dir'
  next : ∀ phase, progress = .next phase → WriteFiles dir' owner' objectId data phase
  done : ∀ status, progress = .done status → status.isOk = true →
    ∃ inode, Durable dir' owner' objectId inode data

private theorem WriteAdvance.failed {status : Status} (h : status.isOk = false) :
    WriteAdvance dir dir owner objectId data (.done status) owner := by
  refine ⟨.of_changes (.refl dir), ?_, ?_⟩
  · rintro _ ⟨⟩
  · rintro _ ⟨⟩ hok
    rw [h] at hok
    cases hok

private theorem WriteAdvance.continues {phase : WritePhase}
    (helsewhere : Elsewhere [objectId] owner owner dir dir')
    (hfiles : WriteFiles dir' owner objectId data phase) :
    WriteAdvance dir dir' owner objectId data (.next phase) owner := by
  refine ⟨helsewhere, ?_, ?_⟩
  · rintro _ ⟨⟩
    exact hfiles
  · rintro _ ⟨⟩

private theorem ownName {name : String} (h : ObjectName objectId name) :
    ∃ other ∈ [objectId], ObjectName other name :=
  ⟨objectId, by simp, h⟩

/-- The new temporary file. -/
private theorem create_advance (h : Absent dir objectId) :
    WriteAdvance dir (dir.create (temporaryName objectId)) owner objectId data
      (.next (.writeData dir.nextInode 0)) (Function.update owner dir.nextInode objectId) := by
  have hchanges : Changes (fun name => ∃ other ∈ [objectId], ObjectName other name)
      (fun inode => owner inode ∈ [objectId]) dir (dir.create (temporaryName objectId)) :=
    .create dir (ownName (Or.inl rfl))
  refine ⟨⟨hchanges, ?_⟩, ?_, ?_⟩
  · intro inode hlt
    simp [hlt.ne]
  · rintro _ ⟨⟩
    refine ⟨Nat.zero_le _, ⟨Nat.lt_succ_self _, by simp, ?_⟩, ?_, ?_⟩
    · simp [create, setInode, setEntry]
    · simp [create, setInode, setEntry]
    · exact h.final.create_ne (finalName_ne_temporaryName objectId objectId)
  · rintro _ ⟨⟩

theorem writeStep_advance {phase : WritePhase} {progress : Progress WritePhase}
    (hfiles : WriteFiles dir owner objectId data phase)
    (h : writeStep objectId data dir phase outcome = some (dir', progress)) :
    ∃ owner', WriteAdvance dir dir' owner objectId data progress owner' := by
  have hname := finalName_ne_temporaryName objectId objectId
  cases writeStep_cases h with
  | failed hfailed => exact ⟨owner, .failed hfailed⟩
  | created _ => exact ⟨_, create_advance hfiles⟩
  | @wrote inode written count hlt _ hcount =>
      obtain ⟨hle, hfile, hentry, hfinal⟩ := hfiles
      have howned : owner inode ∈ [objectId] := by simp [hfile.owned]
      refine ⟨owner, .continues (.of_changes (.setInode dir howned _)) ⟨by omega, ?_, hentry,
        hfinal.setInode _ _⟩⟩
      refine ⟨hfile.lt_next, hfile.owned, ?_⟩
      simp [append, setInode, hfile.bytes_eq, List.take_add]
  | interrupted => exact ⟨owner, .continues (.of_changes (.refl _)) hfiles⟩
  | filled hfull =>
      obtain ⟨_, hfile, hentry, hfinal⟩ := hfiles
      rw [List.take_of_length_le hfull] at hfile
      exact ⟨owner, .continues (.of_changes (.refl _)) ⟨hfile, hentry, hfinal⟩⟩
  | @synced inode =>
      obtain ⟨hfile, hentry, hfinal⟩ := hfiles
      have howned : owner inode ∈ [objectId] := by simp [hfile.owned]
      refine ⟨owner, .continues (.of_changes (.setInode dir howned _)) ⟨inode, ?_, ?_, hentry,
        hfinal.setInode _ _⟩⟩
      · exact ⟨hfile.lt_next, hfile.owned, by simp [syncFile, setInode, hfile.bytes_eq]⟩
      · simp [syncFile, setInode]
  | closed => exact ⟨owner, .continues (.of_changes (.refl _)) hfiles⟩
  | renamed _ _ =>
      obtain ⟨inode, hfile, hsynced, hentry, hfinal⟩ := hfiles
      refine ⟨owner, .continues (.of_changes (.rename dir (ownName (Or.inl rfl))
        (ownName (Or.inr rfl)))) ⟨inode, ⟨hfile.lt_next, hfile.owned, hfile.bytes_eq⟩, hsynced,
        ?_, ?_⟩⟩
      · simp [rename, setEntry]
      · simp [rename, setEntry, hname, hentry]
  | finished =>
      obtain ⟨inode, hfile, hsynced, hentry, hrenamed⟩ := hfiles
      refine ⟨owner, .of_changes (.sync dir), ?_, ?_⟩
      · rintro _ ⟨⟩
      · intro _ _ _
        exact ⟨inode, ⟨hfile.lt_next, hfile.owned, hfile.bytes_eq⟩, hsynced,
          hrenamed ▸ certain_sync dir _, hentry ▸ certain_sync dir _⟩

theorem Gone.sync (h : Gone dir objectId) : Absent dir.sync objectId :=
  ⟨h.temporary ▸ certain_sync dir _, h.final ▸ certain_sync dir _⟩

theorem Gone.unlink (h : Gone dir objectId) (name : String) : Gone (dir.unlink name) objectId := by
  constructor
  · by_cases hname : temporaryName objectId = name
    · simp [DurableDirectory.unlink, setEntry, hname]
    · simpa [DurableDirectory.unlink, setEntry, hname] using h.temporary
  · by_cases hname : finalName objectId = name
    · simp [DurableDirectory.unlink, setEntry, hname]
    · simpa [DurableDirectory.unlink, setEntry, hname] using h.final

/-- `UnlinkKnownPath` removes the entry or leaves the directory as it is. -/
theorem unlinkKnownPath_cases {name : String} {status : Status}
    (h : unlinkKnownPath dir name outcome = some (dir', status)) :
    (dir' = dir.unlink name ∧ status = .ok) ∨
      (dir' = dir ∧ (status.isOk = true → dir.entries name = none)) := by
  unfold unlinkKnownPath at h
  split at h
  · split at h
    · cases h
      exact Or.inl ⟨rfl, rfl⟩
    · cases h
  · split at h
    · split at h
      · cases h
        exact Or.inr ⟨rfl, fun _ => ‹_›⟩
      · cases h
    · split at h
      · cases h
      · split at h
        · cases h
          exact Or.inr ⟨rfl, fun hok => by cases hok⟩
        · cases h
          refine Or.inr ⟨rfl, fun hok => ?_⟩
          rw [objectIoStatus_not_ok] at hok
          cases hok
  · cases h

/-- What `Cleanup` has done when one of its system calls returns. -/
structure CleanupAdvance (dir dir' : ObjectDirectory) (owner : Nat → UInt64)
    (objectIds : List UInt64) (progress : Progress CleanupPhase) : Prop where
  elsewhere : Elsewhere objectIds owner owner dir dir'
  next : ∀ phase, progress = .next phase → CleanupFiles dir' objectIds phase
  done : ∀ status, progress = .done status → status.isOk = true →
    ∀ objectId ∈ objectIds, Absent dir' objectId

/-- A name that `unlinkat` has removed or has not found. -/
def Removed (dir : ObjectDirectory) (name : String) (dir' : ObjectDirectory) : Prop :=
  dir' = dir.unlink name ∨ dir' = dir ∧ dir.entries name = none

/-- Everything that one system call of `Cleanup` can do. -/
inductive CleanupMove (dir : ObjectDirectory) :
    CleanupPhase → ObjectDirectory → Progress CleanupPhase → Prop
  | temporary {objectId : UInt64} {rest : List UInt64} {dir' : ObjectDirectory} :
      Removed dir (temporaryName objectId) dir' →
      CleanupMove dir (.unlinkTemporary objectId rest) dir' (.next (.unlinkFinal objectId rest))
  | final {objectId : UInt64} {rest : List UInt64} {dir' : ObjectDirectory} :
      Removed dir (finalName objectId) dir' →
      CleanupMove dir (.unlinkFinal objectId rest) dir' (.next (cleanupLoop rest))
  | synced : CleanupMove dir .syncDirectory dir.sync (.done .ok)
  | failed {phase : CleanupPhase} {status : Status} : status.isOk = false →
      CleanupMove dir phase dir (.done status)

theorem cleanupStep_cases {phase : CleanupPhase} {progress : Progress CleanupPhase}
    (h : cleanupStep dir phase outcome = some (dir', progress)) :
    CleanupMove dir phase dir' progress := by
  have hremoved {name : String} {after : ObjectDirectory} {status : Status}
      (hunlink : unlinkKnownPath dir name outcome = some (after, status))
      (hok : status.isOk = true) : Removed dir name after := by
    rcases unlinkKnownPath_cases hunlink with ⟨rfl, _⟩ | ⟨rfl, hnone⟩
    · exact Or.inl rfl
    · exact Or.inr ⟨rfl, hnone hok⟩
  have hfailed {name : String} {after : ObjectDirectory} {status : Status}
      (hunlink : unlinkKnownPath dir name outcome = some (after, status))
      (hok : ¬ status.isOk = true) : after = dir ∧ status.isOk = false := by
    rcases unlinkKnownPath_cases hunlink with ⟨_, rfl⟩ | ⟨rfl, _⟩
    · exact absurd rfl hok
    · exact ⟨rfl, Bool.eq_false_iff.mpr hok⟩
  cases phase with
  | unlinkTemporary objectId rest =>
      obtain ⟨⟨after, status⟩, hunlink, hrest⟩ := Option.bind_eq_some_iff.mp h
      dsimp only at hrest
      split at hrest
      · cases hrest
        exact .temporary (hremoved hunlink ‹_›)
      · cases hrest
        obtain ⟨rfl, hstatus⟩ := hfailed hunlink ‹_›
        exact .failed hstatus
  | unlinkFinal objectId rest =>
      obtain ⟨⟨after, status⟩, hunlink, hrest⟩ := Option.bind_eq_some_iff.mp h
      dsimp only at hrest
      split at hrest
      · cases hrest
        exact .final (hremoved hunlink ‹_›)
      · cases hrest
        obtain ⟨rfl, hstatus⟩ := hfailed hunlink ‹_›
        exact .failed hstatus
  | syncDirectory =>
      cases outcome with
      | success =>
          cases h
          exact .synced
      | failed error =>
          cases h
          exact .failed (objectIoStatus_not_ok _ _)
      | transferred count => cases h

namespace Removed

variable {name : String}

theorem elsewhere (h : Removed dir name dir') {objectIds : List UInt64}
    (hmember : objectId ∈ objectIds) (hname : ObjectName objectId name) :
    Elsewhere objectIds owner owner dir dir' := by
  rcases h with rfl | ⟨rfl, _⟩
  · exact .of_changes (.unlink dir ⟨objectId, hmember, hname⟩)
  · exact .of_changes (.refl _)

theorem entry (h : Removed dir name dir') : dir'.entries name = none := by
  rcases h with rfl | ⟨rfl, hnone⟩
  · simp [DurableDirectory.unlink, setEntry]
  · exact hnone

theorem gone (h : Removed dir name dir') {other : UInt64} (hgone : Gone dir other) :
    Gone dir' other := by
  rcases h with rfl | ⟨rfl, _⟩
  · exact hgone.unlink name
  · exact hgone

theorem entry_none (h : Removed dir name dir') {other : String}
    (hnone : dir.entries other = none) : dir'.entries other = none := by
  rcases h with rfl | ⟨rfl, _⟩
  · by_cases heq : other = name
    · simp [DurableDirectory.unlink, setEntry, heq]
    · simpa [DurableDirectory.unlink, setEntry, heq] using hnone
  · exact hnone

end Removed

theorem cleanupLoop_files {objectIds done rest : List UInt64} (hids : objectIds = done ++ rest)
    (hdone : ∀ other ∈ done, Gone dir other) : CleanupFiles dir objectIds (cleanupLoop rest) := by
  cases rest with
  | nil =>
      intro other hmember
      exact hdone other (by simpa [hids] using hmember)
  | cons first rest => exact ⟨done, hids, hdone⟩

theorem cleanupStep_advance (owner : Nat → UInt64) {objectIds : List UInt64} {phase : CleanupPhase}
    {progress : Progress CleanupPhase} (hfiles : CleanupFiles dir objectIds phase)
    (h : cleanupStep dir phase outcome = some (dir', progress)) :
    CleanupAdvance dir dir' owner objectIds progress := by
  cases cleanupStep_cases h with
  | @temporary objectId rest _ hremoved =>
      obtain ⟨done, hids, hdone⟩ := hfiles
      have hmember : objectId ∈ objectIds := by simp [hids]
      refine ⟨hremoved.elsewhere hmember (Or.inl rfl), ?_, ?_⟩
      · rintro _ ⟨⟩
        exact ⟨done, hids, fun other hmember => hremoved.gone (hdone other hmember),
          hremoved.entry⟩
      · rintro _ ⟨⟩
  | @final objectId rest _ hremoved =>
      obtain ⟨done, hids, hdone, hentry⟩ := hfiles
      have hmember : objectId ∈ objectIds := by simp [hids]
      refine ⟨hremoved.elsewhere hmember (Or.inr rfl), ?_, ?_⟩
      · rintro _ ⟨⟩
        refine @cleanupLoop_files dir' objectIds (done ++ [objectId]) rest (by simp [hids]) ?_
        intro other hmember
        rcases List.mem_append.mp hmember with hold | hnew
        · exact hremoved.gone (hdone other hold)
        · obtain rfl := List.mem_singleton.mp hnew
          exact ⟨hremoved.entry_none hentry, hremoved.entry⟩
      · rintro _ ⟨⟩
  | synced =>
      refine ⟨.of_changes (.sync dir), ?_, ?_⟩
      · rintro _ ⟨⟩
      · intro _ _ _ objectId hmember
        exact (hfiles objectId hmember).sync
  | failed hfailed =>
      refine ⟨.of_changes (.refl _), ?_, ?_⟩
      · rintro _ ⟨⟩
      · rintro _ ⟨⟩ hok
        rw [hfailed] at hok
        cases hok

/-! ### Kinds of files -/

/-- The object code creates regular files only. -/
def OnlyRegular (dir : ObjectDirectory) : Prop := ∀ inode, (dir.inodes inode).kind = .regular

theorem OnlyRegular.setInode (h : OnlyRegular dir) (inode : Nat) {value : Inode}
    (hvalue : value.kind = .regular) : OnlyRegular (dir.setInode inode value) := by
  intro other
  by_cases heq : other = inode
  · simpa [DurableDirectory.setInode, heq] using hvalue
  · simpa [DurableDirectory.setInode, heq] using h other

theorem OnlyRegular.writeStep {phase : WritePhase} {progress : Progress WritePhase}
    (h : OnlyRegular dir) (hstep : writeStep objectId data dir phase outcome = some (dir', progress)) :
    OnlyRegular dir' := by
  cases writeStep_cases hstep with
  | created _ =>
      exact (h.setInode _ rfl : OnlyRegular (dir.setInode dir.nextInode ⟨.regular, [], false⟩))
  | wrote _ _ _ => exact h.setInode _ (h _)
  | synced => exact h.setInode _ (h _)
  | _ => exact h

theorem OnlyRegular.cleanupStep {phase : CleanupPhase} {progress : Progress CleanupPhase}
    (h : OnlyRegular dir) (hstep : cleanupStep dir phase outcome = some (dir', progress)) :
    OnlyRegular dir' := by
  cases cleanupStep_cases hstep with
  | temporary hremoved => rcases hremoved with rfl | ⟨rfl, _⟩ <;> exact h
  | final hremoved => rcases hremoved with rfl | ⟨rfl, _⟩ <;> exact h
  | synced => exact h
  | failed _ => exact h

/-! ### Power loss -/

theorem OnlyRegular.crash (h : OnlyRegular dir) (choice : String → Nat) (contents : Nat → Bytes) :
    OnlyRegular (dir.crash choice contents) := by
  intro inode
  simp only [DurableDirectory.crash]
  split
  · exact h inode
  · exact h inode

theorem Absent.crash (h : Absent dir objectId) (choice : String → Nat) (contents : Nat → Bytes) :
    Absent (dir.crash choice contents) objectId :=
  ⟨h.temporary.crash choice contents, h.final.crash choice contents⟩

theorem Durable.crash {inode : Nat} (h : Durable dir owner objectId inode data)
    (choice : String → Nat) (contents : Nat → Bytes) :
    Durable (dir.crash choice contents) owner objectId inode data where
  file := ⟨h.file.lt_next, h.file.owned, by rw [crash_inode h.synced, h.file.bytes_eq]⟩
  synced := by rw [crash_inode h.synced, h.synced]
  final := h.final.crash choice contents
  temporary := h.temporary.crash choice contents

end Steps

end OpenEvent
