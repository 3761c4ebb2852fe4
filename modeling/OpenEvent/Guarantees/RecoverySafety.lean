import OpenEvent.ObjectFiles
import OpenEvent.Reference
import OpenEvent.Refinement.ChannelList
import OpenEvent.Refinement.Reported
import OpenEvent.Storage.Recovery

/-!
What `RecoverPreparingObjects` may do to a store whose contents are arbitrary
bytes. It touches nothing before it has read every PREPARING record and has found
none of the ids committed, so that a failure of any later step leaves a state from
which a repetition reaches the same result.
-/

namespace OpenEvent

open DurableDirectory Fallible ObjectFileStore UnifiedStorage

/-! ### Records of the objects family -/

/-- The id has a record under the committed prefix, valid or not. -/
def Db.HasCommitted (db : Db) (objectId : UInt64) : Prop :=
  (db.objects.get (numericKey kCommittedObjectPrefix objectId)).isSome

/-- The id has a record under the preparing prefix, valid or not. -/
def Db.HasPreparing (db : Db) (objectId : UInt64) : Prop :=
  (db.objects.get (numericKey kPreparingObjectPrefix objectId)).isSome

/-- Key and value are not those of a PREPARING object. -/
def MalformedPreparing (ext : Externals) (key value : Bytes) : Prop :=
  ∀ objectId object,
    decodeNumericKey key kPreparingObjectPrefix "preparing object" = .ok objectId →
    parseObject ext value objectId ≠ .ok object

/-! ### The plan -/

section Plan

variable {ext : Externals} {db : Db} {faults : ReadFaults} {objects : List StoredObject}

/-- What a plan says of the database: its objects are all the records under the
preparing prefix, and none of them is committed. -/
structure Plans (ext : Externals) (db : Db) (objects : List StoredObject) : Prop where
  listed : ∀ key value, db.objects.get key = some value →
    startsWith key kPreparingObjectPrefix = true →
    ∃ object ∈ objects, key = numericKey kPreparingObjectPrefix object.objectId ∧
      parseObject ext value object.objectId = .ok object
  stored : ∀ object ∈ objects, db.HasPreparing object.objectId
  free : ∀ object ∈ objects, ¬ db.HasCommitted object.objectId

/-- A listing that an iterator fault does not stop is the whole listing. -/
theorem listPreparingLoop_faultless {status : RocksStatus} {entries : List (Bytes × Bytes)}
    {count : Nat} (h : listPreparingLoop ext (some status) (entries.take count) = .ok objects) :
    listPreparingLoop ext none entries = .ok objects := by
  induction entries generalizing count objects with
  | nil =>
      rw [List.take_nil] at h
      cases h
  | cons entry rest ih =>
      cases count with
      | zero => cases h
      | succ count =>
          rw [List.take_succ_cons, listPreparingLoop] at h
          rw [listPreparingLoop]
          split at h
          · rename_i hstarts
            rw [if_pos hstarts, h]
          · rename_i hstarts
            rw [if_neg hstarts]
            obtain ⟨objectId, hid, h⟩ := bind_ok h
            obtain ⟨object, hobject, h⟩ := bind_ok h
            obtain ⟨others, hothers, h⟩ := bind_ok h
            rw [hid, ok_bind, hobject, ok_bind, ih hothers, ok_bind]
            exact h

theorem listPreparingObjects_faultless
    (h : listPreparingObjects ext db faults = .ok objects) :
    listPreparingLoop ext none (db.objects.seek (Bytes.ofString kPreparingObjectPrefix)) =
      .ok objects := by
  unfold listPreparingObjects Db.iterate at h
  cases hfault : faults.iterator .objects with
  | none =>
      rw [hfault] at h
      exact h
  | some fault =>
      rw [hfault] at h
      exact listPreparingLoop_faultless h

/-- The loop reads every entry with the prefix: past the first entry without it
there are none. -/
theorem listPreparingLoop_ok {entries : List (Bytes × Bytes)}
    (hfrom : ∀ entry ∈ entries, Bytes.ofString kPreparingObjectPrefix ≤ entry.1)
    (hascending : entries.Pairwise (fun a b => a.1 < b.1))
    (h : listPreparingLoop ext none entries = .ok objects) :
    (∀ entry ∈ entries, startsWith entry.1 kPreparingObjectPrefix = true →
      ∃ object ∈ objects, entry.1 = numericKey kPreparingObjectPrefix object.objectId ∧
        parseObject ext entry.2 object.objectId = .ok object) ∧
    ∀ object ∈ objects, ∃ entry ∈ entries,
      entry.1 = numericKey kPreparingObjectPrefix object.objectId := by
  induction entries generalizing objects with
  | nil =>
      obtain rfl := Except.ok.inj h
      simp
  | cons entry rest ih =>
      obtain ⟨hafter, hrest⟩ := List.pairwise_cons.mp hascending
      rw [listPreparingLoop] at h
      split at h
      · rename_i hstarts
        obtain rfl := Except.ok.inj h
        refine ⟨?_, by simp⟩
        intro other hother hprefixed
        rcases List.mem_cons.mp hother with rfl | hlater
        · rw [hstarts] at hprefixed
          cases hprefixed
        · rw [startsWith_after (hfrom entry (by simp)) (hafter other hlater) hstarts] at hprefixed
          cases hprefixed
      · obtain ⟨objectId, hid, h⟩ := bind_ok h
        obtain ⟨object, hobject, h⟩ := bind_ok h
        obtain ⟨others, hothers, h⟩ := bind_ok h
        obtain rfl := Except.ok.inj h
        obtain rfl := parseObject_objectId hobject
        have hkey := (decodeNumericKey_ok hid).1
        obtain ⟨hlisted, hstored⟩ :=
          ih (fun other hother => hfrom other (List.mem_cons_of_mem _ hother)) hrest hothers
        refine ⟨?_, ?_⟩
        · intro other hother hprefixed
          rcases List.mem_cons.mp hother with rfl | hlater
          · exact ⟨object, by simp, hkey, hobject⟩
          · obtain ⟨found, hmember, hfound⟩ := hlisted other hlater hprefixed
            exact ⟨found, List.mem_cons_of_mem _ hmember, hfound⟩
        · intro found hfound
          rcases List.mem_cons.mp hfound with rfl | hlater
          · exact ⟨entry, by simp, hkey⟩
          · obtain ⟨other, hother, hkey⟩ := hstored found hlater
            exact ⟨other, List.mem_cons_of_mem _ hother, hkey⟩

theorem checkNotCommitted_ok (h : checkNotCommitted ext db faults objects = .ok ()) :
    ∀ object ∈ objects, getCommittedObject ext db {} object.objectId = .ok none := by
  induction objects with
  | nil => simp
  | cons first rest ih =>
      obtain ⟨committed, hcommitted, h⟩ := bind_ok h
      cases committed with
      | some object => cases h
      | none =>
          intro object hmember
          rcases List.mem_cons.mp hmember with rfl | hlater
          · rw [getCommittedObject_faults] at hcommitted
            split at hcommitted
            · cases hcommitted
            · exact hcommitted
          · exact ih h object hlater

theorem checkNotCommitted_free
    (h : ∀ object ∈ objects, getCommittedObject ext db {} object.objectId = .ok none) :
    checkNotCommitted ext db {} objects = .ok () := by
  induction objects with
  | nil => rfl
  | cons first rest ih =>
      rw [checkNotCommitted, h first (by simp), ok_bind]
      exact ih (fun object hmember => h object (List.mem_cons_of_mem _ hmember))

theorem getCommittedObject_none {objectId : UInt64}
    (h : getCommittedObject ext db {} objectId = .ok none) : ¬ db.HasCommitted objectId := by
  intro hcommitted
  obtain ⟨value, hvalue⟩ := Option.isSome_iff_exists.mp hcommitted
  unfold getCommittedObject getObject Db.get at h
  dsimp only [Db.family] at h
  rw [hvalue] at h
  obtain ⟨object, _, h⟩ := bind_ok h
  cases h

theorem planRecovery_ok (h : planRecovery ext db faults = .ok objects) :
    listPreparingObjects ext db faults = .ok objects ∧
      checkNotCommitted ext db faults objects = .ok () := by
  obtain ⟨listed, hlisted, hrest⟩ := bind_ok h
  split at hrest
  · rename_i hempty
    obtain rfl := List.isEmpty_iff.mp hempty
    obtain rfl := Except.ok.inj hrest
    exact ⟨hlisted, rfl⟩
  · obtain ⟨snapshot, hsnapshot, hrest⟩ := bind_ok hrest
    obtain ⟨_, hchecked, hrest⟩ := bind_ok hrest
    obtain rfl := Except.ok.inj hrest
    obtain rfl := (reads_createSnapshot db faults).of_ok hsnapshot
    exact ⟨hlisted, hchecked⟩

/-- Reads that fail stop the plan; they never change it. -/
theorem planRecovery_faultless (h : planRecovery ext db faults = .ok objects) :
    planRecovery ext db {} = .ok objects := by
  obtain ⟨hlisted, hchecked⟩ := planRecovery_ok h
  have hclean : listPreparingObjects ext db {} = .ok objects := listPreparingObjects_faultless hlisted
  have hfree : checkNotCommitted ext db {} objects = .ok () :=
    checkNotCommitted_free (checkNotCommitted_ok hchecked)
  rw [planRecovery, hclean, ok_bind]
  split
  · rename_i hempty
    rw [List.isEmpty_iff.mp hempty]
    rfl
  · show (checkNotCommitted ext db {} objects >>= fun _ => pure objects) = _
    rw [hfree]
    rfl

theorem planRecovery_plans (h : planRecovery ext db {} = .ok objects) : Plans ext db objects := by
  obtain ⟨hlisted, hchecked⟩ := planRecovery_ok h
  obtain ⟨hall, hstored⟩ := listPreparingLoop_ok
    (fun entry hentry => ((SortedMap.mem_seek _ _ entry.1 entry.2).mp hentry).1)
    (db.objects.seek_ascending _) (listPreparingObjects_faultless hlisted)
  refine ⟨?_, ?_, ?_⟩
  · intro key value hvalue hprefixed
    have hle : Bytes.ofString kPreparingObjectPrefix ≤ key := by
      obtain ⟨rest, rfl⟩ := List.isPrefixOf_iff_prefix.mp hprefixed
      exact Bytes.le_append _ _
    exact hall (key, value) ((SortedMap.mem_seek _ _ _ _).mpr ⟨hle, hvalue⟩) hprefixed
  · intro object hmember
    obtain ⟨entry, hentry, hkey⟩ := hstored object hmember
    have hvalue := ((SortedMap.mem_seek _ _ entry.1 entry.2).mp hentry).2
    rw [hkey] at hvalue
    exact Option.isSome_iff_exists.mpr ⟨_, hvalue⟩
  · intro object hmember
    exact getCommittedObject_none (checkNotCommitted_ok hchecked object hmember)

end Plan

/-! ### The files -/

/-- The name has its entry, and a power loss finds no entry there that it would
not have found before. -/
def Untouched (dir dir' : ObjectDirectory) (name : String) : Prop :=
  dir'.entries name = dir.entries name ∧ dir'.earlier name ⊆ dir.earlier name

/-- Some of the objects' names have been removed; nothing else has changed. -/
structure PartlyCleaned (objectIds : List UInt64) (dir dir' : ObjectDirectory) : Prop where
  entry : ∀ name, dir'.entries name = dir.entries name ∨
    (∃ objectId ∈ objectIds, ObjectName objectId name) ∧ dir'.entries name = none
  earlier : ∀ name, (¬ ∃ objectId ∈ objectIds, ObjectName objectId name) →
    dir'.earlier name ⊆ dir.earlier name
  inodes : dir'.inodes = dir.inodes
  nextInode : dir'.nextInode = dir.nextInode

/-- All of the objects' names have been removed, and that is certain. -/
structure Cleaned (objectIds : List UInt64) (dir dir' : ObjectDirectory) : Prop where
  partly : PartlyCleaned objectIds dir dir'
  gone : ∀ objectId ∈ objectIds, Gone dir' objectId
  certain : dir'.earlier = fun _ => []

section Files

variable {dir dir' dir'' : ObjectDirectory} {objectIds : List UInt64}

namespace PartlyCleaned

theorem refl (objectIds : List UInt64) (dir : ObjectDirectory) : PartlyCleaned objectIds dir dir :=
  ⟨fun _ => Or.inl rfl, fun _ _ => List.Subset.refl _, rfl, rfl⟩

theorem trans (h : PartlyCleaned objectIds dir dir') (hnext : PartlyCleaned objectIds dir' dir'') :
    PartlyCleaned objectIds dir dir'' := by
  refine ⟨?_, fun name hname => List.Subset.trans (hnext.earlier name hname) (h.earlier name hname),
    hnext.inodes.trans h.inodes, hnext.nextInode.trans h.nextInode⟩
  intro name
  rcases hnext.entry name with hsame | hremoved
  · rcases h.entry name with hbefore | ⟨hname, hnone⟩
    · exact Or.inl (hsame.trans hbefore)
    · exact Or.inr ⟨hname, hsame.trans hnone⟩
  · exact Or.inr hremoved

theorem sync (objectIds : List UInt64) (dir : ObjectDirectory) :
    PartlyCleaned objectIds dir dir.sync :=
  ⟨fun _ => Or.inl rfl, fun _ _ => List.nil_subset _, rfl, rfl⟩

theorem removed {objectId : UInt64} {name : String} (hmember : objectId ∈ objectIds)
    (hname : ObjectName objectId name) (h : Removed dir name dir') :
    PartlyCleaned objectIds dir dir' := by
  rcases h with rfl | ⟨rfl, _⟩
  · refine ⟨?_, ?_, rfl, rfl⟩
    · intro other
      by_cases heq : other = name
      · subst heq
        exact Or.inr ⟨⟨objectId, hmember, hname⟩, Function.update_self ..⟩
      · exact Or.inl (Function.update_of_ne heq ..)
    · intro other hother
      have hne : other ≠ name := fun heq => hother ⟨objectId, hmember, heq ▸ hname⟩
      simp [DurableDirectory.unlink, setEntry, hne]
  · exact refl objectIds dir'

theorem untouched (h : PartlyCleaned objectIds dir dir') {name : String}
    (hname : ¬ ∃ objectId ∈ objectIds, ObjectName objectId name) : Untouched dir dir' name :=
  ⟨(h.entry name).resolve_right (fun hremoved => hname hremoved.1), h.earlier name hname⟩

end PartlyCleaned

theorem Cleaned.after (h : PartlyCleaned objectIds dir dir') (hnext : Cleaned objectIds dir' dir'') :
    Cleaned objectIds dir dir'' :=
  ⟨h.trans hnext.partly, hnext.gone, hnext.certain⟩

/-- What is left after a complete cleanup depends on nothing else. -/
theorem Cleaned.unique (h : Cleaned objectIds dir dir') (hother : Cleaned objectIds dir dir'') :
    dir' = dir'' := by
  have hgone {cleaned : ObjectDirectory} (hcleaned : Cleaned objectIds dir cleaned) {name : String}
      (hname : ∃ objectId ∈ objectIds, ObjectName objectId name) : cleaned.entries name = none := by
    obtain ⟨objectId, hmember, rfl | rfl⟩ := hname
    · exact (hcleaned.gone objectId hmember).temporary
    · exact (hcleaned.gone objectId hmember).final
  have hentries : dir'.entries = dir''.entries := by
    funext name
    by_cases hname : ∃ objectId ∈ objectIds, ObjectName objectId name
    · rw [hgone h hname, hgone hother hname]
    · rw [(h.partly.untouched hname).1, (hother.partly.untouched hname).1]
  have hearlier := h.certain.trans hother.certain.symm
  have hinodes := h.partly.inodes.trans hother.partly.inodes.symm
  have hnext := h.partly.nextInode.trans hother.partly.nextInode.symm
  cases dir'
  cases dir''
  cases hentries
  cases hearlier
  cases hinodes
  cases hnext
  rfl

/-- One system call of `Cleanup` removes at most a name of a listed object, and
the call that ends it with OK leaves nothing to remove. -/
theorem cleanupStep_cleans {phase : CleanupPhase} {outcome : SyscallOutcome}
    {progress : Progress CleanupPhase} (hfiles : CleanupFiles dir objectIds phase)
    (h : cleanupStep dir phase outcome = some (dir', progress)) :
    PartlyCleaned objectIds dir dir' ∧
      ∀ status, progress = .done status → status.isOk = true → Cleaned objectIds dir dir' := by
  cases cleanupStep_cases h with
  | temporary hremoved =>
      obtain ⟨done, hids, _⟩ := hfiles
      refine ⟨.removed (by rw [hids]; simp) (Or.inl rfl) hremoved, ?_⟩
      rintro _ ⟨⟩
  | final hremoved =>
      obtain ⟨done, hids, _⟩ := hfiles
      refine ⟨.removed (by rw [hids]; simp) (Or.inr rfl) hremoved, ?_⟩
      rintro _ ⟨⟩
  | synced =>
      refine ⟨.sync objectIds dir, fun _ _ _ => ⟨.sync objectIds dir, ?_, rfl⟩⟩
      intro objectId hmember
      exact ⟨(hfiles objectId hmember).temporary, (hfiles objectId hmember).final⟩
  | failed hfailed =>
      refine ⟨.refl objectIds dir, ?_⟩
      rintro _ ⟨⟩ hok
      rw [hfailed] at hok
      cases hok

theorem cleanupFrom_cleans {phase : CleanupPhase} {calls : List SyscallOutcome}
    {returned : Option Status} (hfiles : CleanupFiles dir objectIds phase)
    (h : cleanupFrom dir phase calls = some (dir', returned)) :
    PartlyCleaned objectIds dir dir' ∧
      ∀ status, returned = some status → status.isOk = true → Cleaned objectIds dir dir' := by
  induction calls generalizing dir phase with
  | nil =>
      cases h
      refine ⟨.refl objectIds _, ?_⟩
      rintro _ ⟨⟩
  | cons outcome rest ih =>
      rw [cleanupFrom] at h
      split at h
      · cases h
      · rename_i hstep
        obtain ⟨hpartly, _⟩ := cleanupStep_cleans hfiles hstep
        obtain ⟨hrest, hdone⟩ := ih ((cleanupStep_advance (fun _ => 0) hfiles hstep).next _ rfl) h
        exact ⟨hpartly.trans hrest, fun status hstatus hok =>
          .after hpartly (hdone status hstatus hok)⟩
      · rename_i hstep
        cases h
        obtain ⟨hpartly, hdone⟩ := cleanupStep_cleans hfiles hstep
        refine ⟨hpartly, ?_⟩
        rintro status ⟨⟩ hok
        exact hdone _ rfl hok

theorem cleanup_cleans {calls : List SyscallOutcome} {returned : Option Status}
    (hne : objectIds ≠ []) (h : cleanup dir objectIds calls = some (dir', returned)) :
    PartlyCleaned objectIds dir dir' ∧
      ∀ status, returned = some status → status.isOk = true → Cleaned objectIds dir dir' := by
  rw [cleanup, cleanupStart, if_neg hne] at h
  exact cleanupFrom_cleans (cleanupLoop_files (List.nil_append objectIds).symm (by simp)) h

/-- The calls of a cleanup that meets no failure: a name is removed or not there. -/
def Uneventful (calls : List SyscallOutcome) : Prop :=
  ∀ call ∈ calls, call = .success ∨ call = .failed .enoent

theorem unlinkKnownPath_completes (dir : ObjectDirectory) (name : String) :
    ∃ outcome dir', (outcome = .success ∨ outcome = .failed .enoent) ∧
      unlinkKnownPath dir name outcome = some (dir', .ok) := by
  by_cases hentry : dir.entries name = none
  · refine ⟨.failed .enoent, dir, Or.inr rfl, ?_⟩
    rw [unlinkKnownPath, if_pos rfl, if_pos hentry]
  · refine ⟨.success, dir.unlink name, Or.inl rfl, ?_⟩
    rw [unlinkKnownPath, if_pos hentry]

theorem cleanupFrom_completes (dir : ObjectDirectory) (objectIds : List UInt64) :
    ∃ calls dir', Uneventful calls ∧
      cleanupFrom dir (cleanupLoop objectIds) calls = some (dir', some .ok) := by
  induction objectIds generalizing dir with
  | nil => exact ⟨[.success], dir.sync, by simp [Uneventful], rfl⟩
  | cons objectId rest ih =>
      obtain ⟨first, between, hfirst, htemporary⟩ :=
        unlinkKnownPath_completes dir (temporaryName objectId)
      obtain ⟨second, after, hsecond, hfinal⟩ :=
        unlinkKnownPath_completes between (finalName objectId)
      obtain ⟨calls, dir', hcalls, hrest⟩ := ih after
      refine ⟨first :: second :: calls, dir', ?_, ?_⟩
      · intro call hcall
        rcases List.mem_cons.mp hcall with rfl | hcall
        · exact hfirst
        · rcases List.mem_cons.mp hcall with rfl | hcall
          · exact hsecond
          · exact hcalls call hcall
      · have hone : cleanupStep dir (cleanupLoop (objectId :: rest)) first =
            some (between, .next (.unlinkFinal objectId rest)) := by
          rw [cleanupLoop, cleanupStep, htemporary]
          rfl
        have htwo : cleanupStep between (.unlinkFinal objectId rest) second =
            some (after, .next (cleanupLoop rest)) := by
          rw [cleanupStep, hfinal]
          rfl
        rw [cleanupFrom, hone]
        show cleanupFrom between (.unlinkFinal objectId rest) (second :: calls) = _
        rw [cleanupFrom, htwo]
        exact hrest

theorem cleanup_completes (dir : ObjectDirectory) (hne : objectIds ≠ []) :
    ∃ calls dir', Uneventful calls ∧ cleanup dir objectIds calls = some (dir', some .ok) := by
  obtain ⟨calls, dir', hcalls, hdone⟩ := cleanupFrom_completes dir objectIds
  refine ⟨calls, dir', hcalls, ?_⟩
  rw [cleanup, cleanupStart, if_neg hne]
  exact hdone

end Files

/-! ### The database -/

section Batch

variable {ext : Externals} {db : Db} {objects : List StoredObject}

/-- The keys that the recovery of the objects deletes. -/
def preparingKeys (objects : List StoredObject) : List Bytes :=
  objects.map (fun object => numericKey kPreparingObjectPrefix object.objectId)

theorem write_recoveryBatch (db : Db) (objects : List StoredObject) :
    db.write (recoveryBatch objects) =
      { db with objects := (preparingKeys objects).foldl SortedMap.erase db.objects } := by
  have happend (batch : WriteBatch) :
      db.write (objects.foldl
          (fun batch object => deletePreparingObject batch object.objectId) batch) =
        { db.write batch with
          objects := (preparingKeys objects).foldl SortedMap.erase (db.write batch).objects } := by
    induction objects generalizing batch with
    | nil => rfl
    | cons first rest ih =>
        rw [List.foldl_cons, ih, deletePreparingObject, Db.write_append]
        rfl
  exact happend []

/-- The recovery deletes the records under the preparing prefix, all of them, and
no others. -/
theorem Plans.get_objects (h : Plans ext db objects) (key : Bytes) :
    (db.write (recoveryBatch objects)).objects.get key =
      if startsWith key kPreparingObjectPrefix = true then none else db.objects.get key := by
  rw [write_recoveryBatch]
  show ((preparingKeys objects).foldl SortedMap.erase db.objects).get key = _
  rw [SortedMap.get_foldl_erase]
  by_cases hprefixed : startsWith key kPreparingObjectPrefix = true
  · rw [if_pos hprefixed]
    split_ifs with hmember
    · rfl
    · by_contra hpresent
      obtain ⟨value, hvalue⟩ := Option.ne_none_iff_exists'.mp hpresent
      obtain ⟨object, hlisted, rfl, _⟩ := h.listed key value hvalue hprefixed
      exact hmember (List.mem_map_of_mem hlisted)
  · rw [if_neg hprefixed, if_neg]
    intro hmember
    obtain ⟨object, _, rfl⟩ := List.mem_map.mp hmember
    exact hprefixed (startsWith_numericKey _ _)

/-- After the recovery there is nothing to recover. -/
theorem Plans.plan_after (h : Plans ext db objects) {faults : ReadFaults}
    {others : List StoredObject}
    (hplan : planRecovery ext (db.write (recoveryBatch objects)) faults = .ok others) :
    others = [] := by
  have hothers := planRecovery_plans (planRecovery_faultless hplan)
  cases others with
  | nil => rfl
  | cons first rest =>
      have hstored := hothers.stored first (by simp)
      rw [Db.HasPreparing, h.get_objects, if_pos (startsWith_numericKey _ _)] at hstored
      cases hstored

end Batch

/-! ### One attempt -/

section Attempt

variable {ext : Externals} {db db' : Db} {dir dir' : ObjectDirectory} {returned : Option Status}

/-- Everything that one attempt can do. -/
inductive RecoveryMove (ext : Externals) (db : Db) (dir : ObjectDirectory) :
    Db → ObjectDirectory → Option Status → Prop
  | refused {status : Status} : status.isOk = false → RecoveryMove ext db dir db dir (some status)
  | nothing : planRecovery ext db {} = .ok [] → RecoveryMove ext db dir db dir (some .ok)
  | cleaning {objects : List StoredObject} {dir' : ObjectDirectory} {returned : Option Status} :
      planRecovery ext db {} = .ok objects → objects ≠ [] →
      PartlyCleaned (objects.map (·.objectId)) dir dir' →
      (∀ status, returned = some status → status.isOk = false) →
      RecoveryMove ext db dir db dir' returned
  | failed {objects : List StoredObject} {db' : Db} {dir' : ObjectDirectory} {status : Status} :
      planRecovery ext db {} = .ok objects → objects ≠ [] →
      Cleaned (objects.map (·.objectId)) dir dir' →
      db' = db ∨ db' = db.write (recoveryBatch objects) → status.isOk = false →
      RecoveryMove ext db dir db' dir' (some status)
  | recovered {objects : List StoredObject} {dir' : ObjectDirectory} :
      planRecovery ext db {} = .ok objects → objects ≠ [] →
      Cleaned (objects.map (·.objectId)) dir dir' →
      RecoveryMove ext db dir (db.write (recoveryBatch objects)) dir' (some .ok)

theorem recoverPreparingObjects_cases {env : RecoveryEnv}
    (h : recoverPreparingObjects ext db dir env = some (db', dir', returned)) :
    RecoveryMove ext db dir db' dir' returned := by
  unfold recoverPreparingObjects at h
  split at h
  · rename_i status hplan
    cases h
    exact .refused (refuses_storageErrors.planRecovery db env.faults status hplan)
  · rename_i objects hplan
    have hplan := planRecovery_faultless hplan
    split at h
    · rename_i hempty
      cases h
      rw [List.isEmpty_iff.mp hempty] at hplan
      exact .nothing hplan
    · rename_i hsome
      have hne : objects ≠ [] := fun hempty => hsome (List.isEmpty_iff.mpr hempty)
      have hids : objects.map (·.objectId) ≠ [] := by simpa using hne
      split at h
      · cases h
      · rename_i hcleanup
        cases h
        exact .cleaning hplan hne (cleanup_cleans hids hcleanup).1 (fun _ hstatus => by cases hstatus)
      · rename_i after status hcleanup
        obtain ⟨hpartly, hdone⟩ := cleanup_cleans hids hcleanup
        split at h
        · rename_i hfailed
          cases h
          refine .cleaning hplan hne hpartly ?_
          rintro _ ⟨⟩
          exact hfailed
        · rename_i hok
          have hcleaned := hdone status rfl (by simpa using hok)
          split at h
          · cases h
            exact .cleaning hplan hne hpartly (fun _ hstatus => by cases hstatus)
          · rename_i outcome _
            cases outcome with
            | written =>
                cases h
                exact .recovered hplan hne hcleaned
            | failed applied reported =>
                cases h
                refine .failed hplan hne hcleaned ?_ (rocksToStatus_not_ok _ _)
                cases applied with
                | false => exact Or.inl rfl
                | true => exact Or.inr rfl

/-- What no attempt does to a store, whatever it holds and whatever fails. -/
structure RecoverySpares (ext : Externals) (db db' : Db) (dir dir' : ObjectDirectory)
    (returned : Option Status) : Prop where
  committed : ∀ objectId, db.HasCommitted objectId → ∀ name, ObjectName objectId name →
    Untouched dir dir' name
  unlisted : ∀ name, (∀ objectId, db.HasPreparing objectId → ¬ ObjectName objectId name) →
    Untouched dir dir' name
  contents : dir'.inodes = dir.inodes
  metadata : db'.metadata = db.metadata
  messages : db'.messages = db.messages
  objects : ∀ key, startsWith key kPreparingObjectPrefix = false →
    db'.objects.get key = db.objects.get key
  refuses : (∃ key value, db.objects.get key = some value ∧
        startsWith key kPreparingObjectPrefix = true ∧ MalformedPreparing ext key value) ∨
      (∃ objectId, db.HasPreparing objectId ∧ db.HasCommitted objectId) →
    db' = db ∧ dir' = dir ∧ ∃ status, returned = some status ∧ status.isOk = false

/-- The conditions under which the recovery refuses. -/
theorem Plans.accepts {objects : List StoredObject} (h : Plans ext db objects) :
    ¬ ((∃ key value, db.objects.get key = some value ∧
        startsWith key kPreparingObjectPrefix = true ∧ MalformedPreparing ext key value) ∨
      ∃ objectId, db.HasPreparing objectId ∧ db.HasCommitted objectId) := by
  rintro (⟨key, value, hvalue, hprefixed, hmalformed⟩ | ⟨objectId, hpreparing, hcommitted⟩)
  · obtain ⟨object, _, rfl, hparsed⟩ := h.listed key value hvalue hprefixed
    exact hmalformed object.objectId object (decodeNumericKey_numericKey _ _ _) hparsed
  · obtain ⟨value, hvalue⟩ := Option.isSome_iff_exists.mp hpreparing
    obtain ⟨object, hmember, hkey, _⟩ := h.listed _ value hvalue (startsWith_numericKey _ _)
    obtain rfl := numericKey_injective _ hkey
    exact h.free object hmember hcommitted

theorem Plans.spares {objects : List StoredObject} (h : Plans ext db objects)
    (hfiles : PartlyCleaned (objects.map (·.objectId)) dir dir')
    (hdb : db' = db ∨ db' = db.write (recoveryBatch objects)) :
    RecoverySpares ext db db' dir dir' returned where
  committed objectId hcommitted name hname := by
    refine hfiles.untouched ?_
    rintro ⟨other, hmember, hother⟩
    obtain ⟨object, hobject, rfl⟩ := List.mem_map.mp hmember
    obtain rfl := hname.unique hother
    exact h.free object hobject hcommitted
  unlisted name hname := by
    refine hfiles.untouched ?_
    rintro ⟨other, hmember, hother⟩
    obtain ⟨object, hobject, rfl⟩ := List.mem_map.mp hmember
    exact hname object.objectId (h.stored object hobject) hother
  contents := hfiles.inodes
  metadata := by
    rcases hdb with rfl | rfl
    · rfl
    · rw [write_recoveryBatch]
  messages := by
    rcases hdb with rfl | rfl
    · rfl
    · rw [write_recoveryBatch]
  objects key hkey := by
    rcases hdb with rfl | rfl
    · rfl
    · rw [h.get_objects, if_neg (by simp [hkey])]
  refuses hrefused := absurd hrefused h.accepts

theorem RecoveryMove.spares (h : RecoveryMove ext db dir db' dir' returned) :
    RecoverySpares ext db db' dir dir' returned := by
  cases h with
  | refused hstatus =>
      have huntouched (name : String) : Untouched dir dir name := ⟨rfl, List.Subset.refl _⟩
      exact ⟨fun _ _ name _ => huntouched name, fun name _ => huntouched name, rfl, rfl, rfl,
        fun _ _ => rfl, fun _ => ⟨rfl, rfl, _, rfl, hstatus⟩⟩
  | nothing hplan => exact (planRecovery_plans hplan).spares (.refl _ dir) (Or.inl rfl)
  | cleaning hplan _ hpartly _ => exact (planRecovery_plans hplan).spares hpartly (Or.inl rfl)
  | failed hplan _ hcleaned hdb _ => exact (planRecovery_plans hplan).spares hcleaned.partly hdb
  | recovered hplan _ hcleaned =>
      exact (planRecovery_plans hplan).spares hcleaned.partly (Or.inr rfl)

end Attempt

/-! ### Repetitions -/

section Repetitions

variable {ext : Externals} {db db' db'' : Db} {dir dir' dir'' : ObjectDirectory}
variable {returned : Option Status}

/-- One attempt, whatever it meets and however it ends. -/
def RecoveryAttempt (ext : Externals) (before after : Db × ObjectDirectory) : Prop :=
  ∃ env returned,
    recoverPreparingObjects ext before.1 before.2 env = some (after.1, after.2, returned)

/-- A recovery that has returned OK. -/
inductive Recovered (ext : Externals) (db : Db) (dir : ObjectDirectory) :
    Db → ObjectDirectory → Prop
  | nothing : planRecovery ext db {} = .ok [] → Recovered ext db dir db dir
  | objects {objects : List StoredObject} {dir' : ObjectDirectory} :
      planRecovery ext db {} = .ok objects → objects ≠ [] →
      Cleaned (objects.map (·.objectId)) dir dir' →
      Recovered ext db dir (db.write (recoveryBatch objects)) dir'

/-- Where any number of attempts can have left a store: with the records as they
were and some of the files removed, or recovered. -/
inductive Recovering (ext : Externals) (db : Db) (dir : ObjectDirectory) :
    Db → ObjectDirectory → Prop
  | cleaning {dir' : ObjectDirectory} :
      (∀ objects, planRecovery ext db {} = .ok objects →
        PartlyCleaned (objects.map (·.objectId)) dir dir' ∧ (objects = [] → dir' = dir)) →
      Recovering ext db dir db dir'
  | recovered {db' : Db} {dir' : ObjectDirectory} :
      Recovered ext db dir db' dir' → Recovering ext db dir db' dir'

theorem Recovered.unique (h : Recovered ext db dir db' dir')
    (hother : Recovered ext db dir db'' dir'') : db' = db'' ∧ dir' = dir'' := by
  cases h with
  | nothing hplan =>
      cases hother with
      | nothing _ => exact ⟨rfl, rfl⟩
      | objects hobjects hne _ => exact absurd (Except.ok.inj (hobjects.symm.trans hplan)) hne
  | objects hobjects hne hcleaned =>
      cases hother with
      | nothing hplan => exact absurd (Except.ok.inj (hobjects.symm.trans hplan)) hne
      | objects hagain _ hother =>
          obtain rfl := Except.ok.inj (hobjects.symm.trans hagain)
          exact ⟨rfl, hcleaned.unique hother⟩

/-- A recovered store has nothing left to recover. -/
theorem Recovered.stays (h : Recovered ext db dir db' dir')
    (hmove : RecoveryMove ext db' dir' db'' dir'' returned) : db'' = db' ∧ dir'' = dir' := by
  have hempty {others : List StoredObject} (hplan : planRecovery ext db' {} = .ok others) :
      others = [] := by
    cases h with
    | nothing hnothing => exact Except.ok.inj (hplan.symm.trans hnothing)
    | objects hobjects _ _ => exact (planRecovery_plans hobjects).plan_after hplan
  cases hmove with
  | refused _ => exact ⟨rfl, rfl⟩
  | nothing _ => exact ⟨rfl, rfl⟩
  | cleaning hplan hne _ _ => exact absurd (hempty hplan) hne
  | failed hplan hne _ _ _ => exact absurd (hempty hplan) hne
  | recovered hplan hne _ => exact absurd (hempty hplan) hne

/-- One more attempt on a store that is being recovered. -/
theorem Recovering.step (h : Recovering ext db dir db' dir')
    (hmove : RecoveryMove ext db' dir' db'' dir'' returned) :
    Recovering ext db dir db'' dir'' ∧
      ∀ status, returned = some status → status.isOk = true → Recovered ext db dir db'' dir'' := by
  have hnever {status : Status} (hfailed : status.isOk = false) {P : Prop} :
      ∀ other, some status = some other → other.isOk = true → P := by
    intro other heq hok
    rw [← Option.some.inj heq, hfailed] at hok
    cases hok
  cases h with
  | recovered hrecovered =>
      obtain ⟨rfl, rfl⟩ := hrecovered.stays hmove
      exact ⟨.recovered hrecovered, fun _ _ _ => hrecovered⟩
  | cleaning hso =>
      -- The plan is that of the first attempt as long as no batch has been applied.
      cases hmove with
      | refused hfailed => exact ⟨.cleaning hso, hnever hfailed⟩
      | nothing hplan =>
          obtain rfl := (hso [] hplan).2 rfl
          exact ⟨.cleaning hso, fun _ _ _ => .nothing hplan⟩
      | cleaning hplan hne hpartly hfailed =>
          refine ⟨.cleaning ?_, ?_⟩
          · intro objects hobjects
            obtain rfl := Except.ok.inj (hplan.symm.trans hobjects)
            exact ⟨(hso _ hplan).1.trans hpartly, fun hempty => absurd hempty hne⟩
          · intro status hstatus hok
            rw [hfailed status hstatus] at hok
            cases hok
      | failed hplan hne hcleaned hdb hfailed =>
          have hall := Cleaned.after (hso _ hplan).1 hcleaned
          rcases hdb with rfl | rfl
          · refine ⟨.cleaning ?_, hnever hfailed⟩
            intro objects hobjects
            obtain rfl := Except.ok.inj (hplan.symm.trans hobjects)
            exact ⟨hall.partly, fun hempty => absurd hempty hne⟩
          · exact ⟨.recovered (.objects hplan hne hall), hnever hfailed⟩
      | recovered hplan hne hcleaned =>
          have hrecovered := Recovered.objects hplan hne (.after (hso _ hplan).1 hcleaned)
          exact ⟨.recovered hrecovered, fun _ _ _ => hrecovered⟩

theorem Recovering.refl (ext : Externals) (db : Db) (dir : ObjectDirectory) :
    Recovering ext db dir db dir :=
  .cleaning (fun _ _ => ⟨.refl _ dir, fun _ => rfl⟩)

theorem Recovering.of_attempts {after : Db × ObjectDirectory}
    (h : Relation.ReflTransGen (RecoveryAttempt ext) (db, dir) after) :
    Recovering ext db dir after.1 after.2 := by
  induction h with
  | refl => exact .refl ext db dir
  | tail _ hattempt ih =>
      obtain ⟨env, returned, hattempt⟩ := hattempt
      exact (ih.step (recoverPreparingObjects_cases hattempt)).1

/-- No step of the attempt fails. -/
structure RecoveryEnv.Uneventful (env : RecoveryEnv) : Prop where
  faults : env.faults = {}
  calls : OpenEvent.Uneventful env.calls
  commit : env.commit = some .written

/-- What a recovery leaves is what one attempt leaves that nothing disturbs. -/
theorem Recovered.uneventful (h : Recovered ext db dir db' dir') :
    ∃ env : RecoveryEnv, env.Uneventful ∧
      recoverPreparingObjects ext db dir env = some (db', dir', some .ok) := by
  cases h with
  | nothing hplan =>
      refine ⟨⟨{}, [], some .written⟩, ⟨rfl, by simp [OpenEvent.Uneventful], rfl⟩, ?_⟩
      rw [recoverPreparingObjects, hplan]
      rfl
  | @objects objects _ hplan hne hcleaned =>
      have hids : objects.map (·.objectId) ≠ [] := by simpa using hne
      obtain ⟨calls, after, hcalls, hcleanup⟩ := cleanup_completes dir hids
      obtain rfl := ((cleanup_cleans hids hcleanup).2 _ rfl rfl).unique hcleaned
      refine ⟨⟨{}, calls, some .written⟩, ⟨rfl, hcalls, rfl⟩, ?_⟩
      have hsome : ¬ objects.isEmpty = true := fun hempty => hne (List.isEmpty_iff.mp hempty)
      rw [recoverPreparingObjects, hplan]
      dsimp only
      rw [if_neg hsome, hcleanup]
      rfl

/-- Recovery never destroys committed data, on any database and any directory. Whatever fails, an
attempt leaves the files of committed ids and every name that is not a listed id's as they are, and
with them every record outside the preparing prefix; it refuses malformed records and ids that are
also committed before it changes anything; and once a repetition returns OK, the store is what one
undisturbed attempt would have left. -/
theorem recovery_spares_committed (ext : Externals) (db : Db) (dir : ObjectDirectory) :
    (∀ env db' dir' returned,
      recoverPreparingObjects ext db dir env = some (db', dir', returned) →
        RecoverySpares ext db db' dir dir' returned) ∧
    ∀ between env db' dir' status,
      Relation.ReflTransGen (RecoveryAttempt ext) (db, dir) between →
      recoverPreparingObjects ext between.1 between.2 env = some (db', dir', some status) →
      status.isOk = true →
      (∃ once : RecoveryEnv, once.Uneventful ∧
        recoverPreparingObjects ext db dir once = some (db', dir', some .ok)) ∧
      ∀ once db'' dir'' other,
        recoverPreparingObjects ext db dir once = some (db'', dir'', some other) →
        other.isOk = true → db'' = db' ∧ dir'' = dir' := by
  refine ⟨?_, ?_⟩
  · intro env db' dir' returned hattempt
    exact (recoverPreparingObjects_cases hattempt).spares
  · intro between env db' dir' status hattempts hattempt hok
    have hrecovered : Recovered ext db dir db' dir' :=
      ((Recovering.of_attempts hattempts).step (recoverPreparingObjects_cases hattempt)).2
        status rfl hok
    refine ⟨hrecovered.uneventful, ?_⟩
    intro once db'' dir'' other honce hother
    have hsame : Recovered ext db dir db'' dir'' :=
      ((Recovering.refl ext db dir).step (recoverPreparingObjects_cases honce)).2 other rfl hother
    exact hsame.unique hrecovered

end Repetitions

namespace Reference

/-- A write that was cut off: object 1 is PREPARING and has a temporary file. -/
def preparingObject : StoredObject :=
  ⟨1, objectKey.objectToken, 1, "name", "type", "", 3⟩

def preparingDb : Db :=
  Db.empty.write [.put .objects (numericKey kPreparingObjectPrefix 1)
    ((externals.objectRecord.serializeToString preparingObject).getD [])]

def preparingDir : ObjectDirectory := DurableDirectory.empty.create (temporaryName 1)

/-- The temporary file is removed, and then the disk fails. -/
def disturbed : RecoveryEnv := ⟨{}, [.success, .failed (.other "Input/output error")], some .written⟩

/-- The second attempt finds the file removed. -/
def repeated : RecoveryEnv :=
  ⟨{}, [.failed .enoent, .failed .enoent, .success], some .written⟩

theorem repeated_recovery_is_one :
    ∃ between db' dir', between.1.HasPreparing 1 ∧
      Relation.ReflTransGen (RecoveryAttempt externals) (preparingDb, preparingDir) between ∧
      recoverPreparingObjects externals between.1 between.2 repeated =
        some (db', dir', some .ok) ∧
      ¬ db'.HasPreparing 1 ∧
      ∃ once : RecoveryEnv, once.Uneventful ∧
        recoverPreparingObjects externals preparingDb preparingDir once =
          some (db', dir', some .ok) := by
  have hfirst : (recoverPreparingObjects externals preparingDb preparingDir disturbed).map
      (fun result => (result.1.objects.get (numericKey kPreparingObjectPrefix 1)).isSome) =
        some true := by
    decide +kernel
  have hsecond : ((recoverPreparingObjects externals preparingDb preparingDir disturbed).bind
      (fun result => recoverPreparingObjects externals result.1 result.2.1 repeated)).map
        (fun result => (result.2.2,
          (result.1.objects.get (numericKey kPreparingObjectPrefix 1)).isSome)) =
      some (some .ok, false) := by
    decide +kernel
  obtain ⟨⟨db, dir, returned⟩, hattempt, hkept⟩ := Option.map_eq_some_iff.mp hfirst
  rw [hattempt, Option.bind_some] at hsecond
  obtain ⟨⟨db', dir', status⟩, hrepeated, hdone⟩ := Option.map_eq_some_iff.mp hsecond
  obtain ⟨rfl, herased⟩ := Prod.mk.inj hdone
  have hattempts : Relation.ReflTransGen (RecoveryAttempt externals)
      (preparingDb, preparingDir) (db, dir) := .single ⟨disturbed, returned, hattempt⟩
  have honce := (recovery_spares_committed externals preparingDb preparingDir).2 (db, dir) repeated
    db' dir' .ok hattempts hrepeated rfl
  refine ⟨(db, dir), db', dir', hkept, hattempts, hrepeated, ?_, honce.1⟩
  rw [Db.HasPreparing, herased]
  decide

end Reference

end OpenEvent
