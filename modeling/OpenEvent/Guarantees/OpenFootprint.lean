import Mathlib.Data.Set.Basic
import OpenEvent.Guarantees.DurableLinks

/-!
What `Open` leaves of a file system that others use too. However many attempts are made
on whatever paths, and wherever each of them fails or is killed: nothing that was there
is removed, replaced or led elsewhere, what is new are directories on the way to an
attempted root and its `db` and `objects`, and no database loses a column family.
-/

namespace OpenEvent

open DirectoryTree Interruptible UnifiedStorage

/-- The paths at which an attempt on a root may make a directory. -/
def openPaths (root : List String) : Set (List String) :=
  { path | path <:+ root ∨ path = databasePath root ∨ path = objectsPath root }

/-- A later disk has no more than the disk before and directories that were made at the
given paths. A database is left as it is, unless it is none or has only the default column
family; column families are added to it then. -/
structure MadeOnly (paths : Set (List String)) (disk later : StorageDisk) : Prop where
  kept : Extends disk.tree later.tree
  parent : ∀ inode < disk.tree.nextInode, later.tree.parent inode = disk.tree.parent inode
  entries : ∀ inode, ∃ added, later.tree.entries inode = added ++ disk.tree.entries inode ∧
    ∀ entry ∈ added, ∃ made parent, entry.2 = .directory made ∧ disk.tree.nextInode ≤ made ∧
      entry.1 :: parent ∈ paths ∧ later.tree.directoryAt parent = some inode
  families : ∀ inode, ∃ added, later.families inode = disk.families inode ++ added ∧
    (added = [] ∨ disk.families inode = [] ∨ disk.families inode = [kDefaultColumnFamily])

namespace MadeOnly

variable {paths : Set (List String)} {disk later last : StorageDisk}

theorem refl (disk : StorageDisk) : MadeOnly paths disk disk where
  kept := .refl _
  parent _ _ := rfl
  entries _ := ⟨[], rfl, by simp⟩
  families _ := ⟨[], (List.append_nil _).symm, Or.inl rfl⟩

theorem trans (h : MadeOnly paths disk later) (hnext : MadeOnly paths later last) :
    MadeOnly paths disk last where
  kept := h.kept.trans hnext.kept
  parent inode hinode := by
    rw [hnext.parent inode (Nat.lt_of_lt_of_le hinode h.kept.nextInode), h.parent inode hinode]
  entries inode := by
    obtain ⟨first, hfirst, hmade⟩ := h.entries inode
    obtain ⟨second, hsecond, hmore⟩ := hnext.entries inode
    refine ⟨second ++ first, by rw [hsecond, hfirst, List.append_assoc], ?_⟩
    intro entry hentry
    rcases List.mem_append.mp hentry with hnew | hold
    · obtain ⟨made, parent, hdirectory, hfresh, hpath, hparent⟩ := hmore entry hnew
      exact ⟨made, parent, hdirectory, Nat.le_trans h.kept.nextInode hfresh, hpath, hparent⟩
    · obtain ⟨made, parent, hdirectory, hfresh, hpath, hparent⟩ := hmade entry hold
      exact ⟨made, parent, hdirectory, hfresh, hpath, hnext.kept.directoryAt hparent⟩
  families inode := by
    obtain ⟨first, hfirst, hwas⟩ := h.families inode
    obtain ⟨second, hsecond, hbefore⟩ := hnext.families inode
    refine ⟨first ++ second, by rw [hsecond, hfirst, List.append_assoc], ?_⟩
    rcases hwas with rfl | hwas
    · rw [List.append_nil] at hfirst
      rw [hfirst] at hbefore
      exact hbefore
    · exact Or.inr hwas

theorem mono {more : Set (List String)} (hpaths : paths ⊆ more) (h : MadeOnly paths disk later) :
    MadeOnly more disk later where
  kept := h.kept
  parent := h.parent
  entries inode := by
    obtain ⟨added, hadded, hmade⟩ := h.entries inode
    refine ⟨added, hadded, ?_⟩
    intro entry hentry
    obtain ⟨made, parent, hdirectory, hfresh, hpath, hparent⟩ := hmade entry hentry
    exact ⟨made, parent, hdirectory, hfresh, hpaths hpath, hparent⟩
  families := h.families

theorem sync (disk : StorageDisk) (inode : Nat) :
    MadeOnly paths disk { disk with tree := disk.tree.sync inode } where
  kept := .sync _ _
  parent _ _ := rfl
  entries _ := ⟨[], rfl, by simp⟩
  families _ := ⟨[], (List.append_nil _).symm, Or.inl rfl⟩

theorem makeDirectory {holder : Nat} {name : String} {parent : List String}
    (hparent : disk.tree.directoryAt parent = some holder)
    (hfree : disk.tree.lookup holder name = none) (hpath : name :: parent ∈ paths) :
    MadeOnly paths disk (disk.makeDirectory holder name) where
  kept := .makeDirectory (directoryAt_lt hparent) hfree
  parent inode hinode := by
    show (disk.tree.makeDirectory holder name).parent inode = _
    rw [makeDirectory_parent (directoryAt_lt hparent), Function.update_of_ne (by omega)]
  entries inode := by
    have hlt := directoryAt_lt hparent
    show ∃ added, (disk.tree.makeDirectory holder name).entries inode = _ ∧ _
    rw [makeDirectory_entries hlt]
    by_cases hholder : inode = holder
    · subst hholder
      rw [Function.update_self]
      refine ⟨[(name, .directory disk.tree.nextInode)], rfl, ?_⟩
      intro entry hentry
      rw [List.mem_singleton.mp hentry]
      exact ⟨_, parent, rfl, le_refl _, hpath,
        (Extends.makeDirectory hlt hfree).directoryAt hparent⟩
    · rw [Function.update_of_ne hholder]
      exact ⟨[], rfl, by simp⟩
  families _ := ⟨[], (List.append_nil _).symm, Or.inl rfl⟩

/-- What is new is not a link. -/
theorem linksLead (h : MadeOnly paths disk later) (hlinks : disk.tree.LinksLead) :
    later.tree.LinksLead := by
  intro inode entry hentry
  obtain ⟨added, hadded, hmade⟩ := h.entries inode
  rw [hadded] at hentry
  rcases List.mem_append.mp hentry with hnew | hold
  · obtain ⟨made, _, hdirectory, _⟩ := hmade entry hnew
    rw [hdirectory]
    simp
  · exact hlinks inode entry hold

end MadeOnly

/-! ### Programs that make no more -/

/-- The program makes directories at these paths only, whether it returns or stops. -/
def MakesOnly {α : Type} (paths : Set (List String)) (program : OpenIo α) : Prop :=
  ∀ disk, Leads disk program (fun _ after => MadeOnly paths disk after)
    (fun _ after => MadeOnly paths disk after)

namespace MakesOnly

variable {α β : Type} {paths : Set (List String)} {env : OpenEnv} {root path : List String}

theorem pure (value : α) : MakesOnly paths (Pure.pure value : OpenIo α) :=
  fun disk => .pure (.refl disk)

theorem halt (reason : OpenStop) : MakesOnly paths (Interruptible.halt reason : OpenIo α) :=
  fun disk => .halt (.refl disk)

theorem bind {program : OpenIo α} {next : α → OpenIo β} (h : MakesOnly paths program)
    (hnext : ∀ value, MakesOnly paths (next value)) : MakesOnly paths (program >>= next) := by
  intro disk
  refine .bind (h disk) ?_
  intro value after hafter
  exact (hnext value after).imp (fun _ _ => hafter.trans) (fun _ _ => hafter.trans)

/-- A program that leaves the disk as it is. -/
theorem of_same {program : OpenIo α} {post : α → StorageDisk → Prop}
    (h : ∀ disk, Leads disk program (fun value after => after = disk ∧ post value disk)
      (fun _ after => after = disk)) : MakesOnly paths program := by
  intro disk
  refine (h disk).imp ?_ ?_
  · rintro _ _ ⟨rfl, _⟩
    exact .refl _
  · rintro _ _ rfl
    exact .refl _

theorem syncDirectory (env : OpenEnv) (path : List String) :
    MakesOnly paths (UnifiedStorage.syncDirectory env path) := by
  intro disk
  refine (leads_syncDirectory env disk path).imp ?_ ?_
  · rintro _ _ ⟨inode, _, rfl⟩
    exact .sync disk inode
  · rintro _ _ (rfl | ⟨inode, rfl⟩)
    · exact .refl _
    · exact .sync disk inode

theorem createDirectoryAndSyncParent (env : OpenEnv) (hpath : path ∈ paths) :
    MakesOnly paths (UnifiedStorage.createDirectoryAndSyncParent env path) := by
  intro disk
  refine leads_createDirectoryAndSyncParent (fun _ => .refl disk) (fun _ _ => .refl disk) ?_
  rintro holder name parent rfl hparent hfree _ _
  have hmade := MadeOnly.makeDirectory hparent hfree hpath
  exact (syncDirectory env _ _).imp (fun _ _ => hmade.trans) (fun _ _ => hmade.trans)

theorem createMissing (env : OpenEnv) {missing : List (List String)}
    (hmissing : ∀ path ∈ missing, path ∈ paths) :
    MakesOnly paths (UnifiedStorage.createMissing env missing) := by
  induction missing with
  | nil => exact pure ()
  | cons path rest ih =>
      rw [UnifiedStorage.createMissing]
      refine bind (createDirectoryAndSyncParent env (hmissing path (by simp))) ?_
      intro _
      exact ih (fun other hother => hmissing other (List.mem_cons_of_mem _ hother))

theorem createDirectoryTreeDurably (env : OpenEnv) (root : List String) :
    MakesOnly (openPaths root) (UnifiedStorage.createDirectoryTreeDurably env root) := by
  intro disk
  refine .bind ((leads_findMissing .nil (by simp)).imp (fun _ _ h => h) ?_) ?_
  · rintro _ _ rfl
    exact .refl _
  · rintro missing same ⟨hsame, _, _, hdescends, _, _⟩
    subst hsame
    exact createMissing env (fun path hpath => Or.inl (hdescends.within hpath)) same

theorem createStorageDirectories (env : OpenEnv) (root : List String) :
    MakesOnly (openPaths root) (UnifiedStorage.createStorageDirectories env root) := by
  unfold UnifiedStorage.createStorageDirectories
  refine bind (of_same (fun disk => leads_fileSystemCall env disk .resolveRoot)) ?_
  intro error
  cases error with
  | some _ => exact halt _
  | none =>
      refine bind (createDirectoryTreeDurably env root) ?_
      intro _
      refine bind (createDirectoryAndSyncParent env (Or.inr (Or.inl rfl))) ?_
      intro _
      exact createDirectoryAndSyncParent env (Or.inr (Or.inr rfl))

end MakesOnly

/-! ### The database -/

/-- The column families that `InitializeNew` leaves, one after the other. -/
def initialFamilies : List (List String) :=
  [[kDefaultColumnFamily], [kDefaultColumnFamily, kMessagesColumnFamily],
   [kDefaultColumnFamily, kMessagesColumnFamily, kObjectsColumnFamily]]

/-- `InitializeNew` is at work on the database at a path. -/
structure Initializing (path : List String) (disk later : StorageDisk) : Prop where
  tree : later.tree = disk.tree
  families : ∀ inode, later.families inode = disk.families inode ∨
    disk.tree.directoryAt path = some inode ∧ later.families inode ∈ initialFamilies

section Initializing

variable {path : List String} {disk later : StorageDisk}

theorem Initializing.setFamilies (h : Initializing path disk later) {names : List String}
    (hnames : names ∈ initialFamilies) : Initializing path disk (later.setFamilies path names) where
  tree := (setFamilies_tree later path names).trans h.tree
  families inode := by
    unfold StorageDisk.setFamilies
    split
    · exact h.families inode
    · rename_i found hfound
      rw [h.tree] at hfound
      dsimp only
      by_cases hinode : inode = found
      · subst hinode
        rw [Function.update_self]
        exact Or.inr ⟨hfound, hnames⟩
      · rw [Function.update_of_ne hinode]
        exact h.families inode

/-- What `InitializeNew` does to a directory without a database, or with one that has only
the default column family, adds column families. -/
theorem Initializing.madeOnly {paths : Set (List String)} (h : Initializing path disk later)
    (hbefore : disk.familiesAt path = [] ∨ disk.familiesAt path = [kDefaultColumnFamily]) :
    MadeOnly paths disk later where
  kept := by
    rw [h.tree]
    exact .refl _
  parent _ _ := by rw [h.tree]
  entries _ := ⟨[], by rw [h.tree]; rfl, by simp⟩
  families inode := by
    rcases h.families inode with hsame | ⟨hpath, hnew⟩
    · exact ⟨[], by rw [hsame, List.append_nil], Or.inl rfl⟩
    · rw [StorageDisk.familiesAt, hpath] at hbefore
      dsimp only at hbefore
      have hprior : ∃ added, later.families inode = disk.families inode ++ added := by
        simp only [initialFamilies, List.mem_cons, List.not_mem_nil, or_false] at hnew
        rcases hbefore with hnone | hdefault
        · exact ⟨later.families inode, by rw [hnone, List.nil_append]⟩
        · rw [hdefault]
          rcases hnew with hnew | hnew | hnew
          · exact ⟨[], hnew⟩
          · exact ⟨[kMessagesColumnFamily], hnew⟩
          · exact ⟨[kMessagesColumnFamily, kObjectsColumnFamily], hnew⟩
      obtain ⟨added, hadded⟩ := hprior
      exact ⟨added, hadded, Or.inr hbefore⟩

/-- A RocksDB call of `InitializeNew` and what it goes on with. -/
theorem leads_initializing {β : Type} {env : OpenEnv} {call : DatabaseCall} {operation : String}
    {effect : StorageDisk → StorageDisk} {next : Option Status → OpenIo β}
    (h : Initializing path disk later) (heffect : Initializing path disk (effect later))
    (hnext : ∀ status after, Initializing path disk after →
      Leads after (next status) (fun _ last => Initializing path disk last)
        (fun _ last => Initializing path disk last)) :
    Leads later (databaseCall env call operation effect >>= next)
      (fun _ last => Initializing path disk last) (fun _ last => Initializing path disk last) := by
  have hcall : Leads later (databaseCall env call operation effect)
      (fun _ after => Initializing path disk after)
      (fun _ after => Initializing path disk after) := by
    unfold databaseCall
    cases env.database call with
    | done => exact .update_bind (.pure heffect)
    | failed applied status =>
        cases applied with
        | false => exact .pure h
        | true => exact .update_bind (.pure heffect)
    | killed applied =>
        cases applied with
        | false => exact .halt h
        | true => exact .update_bind (.halt heffect)
  exact .bind hcall hnext

end Initializing

/-! ### Attempts -/

theorem MakesOnly.initializeNewRoot (env : OpenEnv) (root : List String) :
    MakesOnly (openPaths root) (UnifiedStorage.initializeNewRoot env root) := by
  unfold UnifiedStorage.initializeNewRoot
  refine MakesOnly.bind (.createStorageDirectories env root) ?_
  intro _ disk
  refine .observe_bind ?_
  dsimp only
  split
  · exact .halt_bind (.refl disk)
  · rename_i hguard
    have hbefore : disk.familiesAt (databasePath root) = [] ∨
        disk.familiesAt (databasePath root) = [kDefaultColumnFamily] := by
      by_contra hother
      exact hguard (not_or.mp hother)
    have hstart : Initializing (databasePath root) disk disk := ⟨rfl, fun _ => Or.inl rfl⟩
    have hdone (after : StorageDisk) (h : Initializing (databasePath root) disk after) :
        MadeOnly (openPaths root) disk after := h.madeOnly hbefore
    refine Leads.imp ?_ (fun _ => hdone) (fun _ => hdone)
    refine leads_initializing hstart (hstart.setFamilies (by simp [initialFamilies])) ?_
    intro status created hcreated
    cases status with
    | some _ => exact .halt_bind hcreated
    | none =>
        refine leads_initializing hcreated (hcreated.setFamilies (by simp [initialFamilies])) ?_
        intro status messages hmessages
        cases status with
        | some _ => exact .halt_bind hmessages
        | none =>
            refine leads_initializing hmessages
              (hmessages.setFamilies (by simp [initialFamilies])) ?_
            intro status objects hobjects
            cases status with
            | some _ => exact .halt_bind hobjects
            | none =>
                refine leads_initializing hobjects hobjects ?_
                intro initialized written hwritten
                refine leads_initializing hwritten hwritten ?_
                intro objectsStatus first hfirst
                refine leads_initializing hfirst hfirst ?_
                intro messagesStatus second hsecond
                cases initialized with
                | some _ => exact .halt_bind hsecond
                | none =>
                    cases objectsStatus with
                    | some _ => exact .halt_bind hsecond
                    | none =>
                        cases messagesStatus with
                        | some _ => exact .halt hsecond
                        | none => exact .pure hsecond

theorem MakesOnly.openRoot (env : OpenEnv) (workingDirectory : List String) (path : String) :
    MakesOnly (openPaths (absolutePath workingDirectory path))
      (UnifiedStorage.openRoot env workingDirectory path) := by
  have hopen : MakesOnly (openPaths (absolutePath workingDirectory path))
      (openInitialized env (absolutePath workingDirectory path)) :=
    .of_same (fun disk => leads_openInitialized env disk _)
  unfold UnifiedStorage.openRoot
  dsimp only
  split
  · intro disk
    exact .halt_bind (.refl disk)
  · refine .bind (.of_same (fun disk => leads_isEmptyDirectory env disk _)) ?_
    intro isNew
    cases isNew with
    | false => exact hopen
    | true => exact .bind (.initializeNewRoot env _) (fun _ => hopen)

/-- A root that is there and is not an empty directory. -/
def StorageDisk.Occupied (disk : StorageDisk) (root : List String) : Prop :=
  disk.tree.pathExists root = true ∧
    ∀ inode, disk.tree.directoryAt root = some inode → disk.tree.entries inode ≠ []

/-- An attempt on such a root changes nothing. -/
theorem StorageDisk.Occupied.openRoot {disk : StorageDisk} {workingDirectory : List String}
    {path : String} (h : disk.Occupied (absolutePath workingDirectory path)) (env : OpenEnv) :
    ((UnifiedStorage.openRoot env workingDirectory path).exec disk).2 = disk := by
  have hleads : Leads disk (UnifiedStorage.openRoot env workingDirectory path)
      (fun _ after => after = disk) (fun _ after => after = disk) := by
    unfold UnifiedStorage.openRoot
    dsimp only
    split
    · exact .halt_bind rfl
    · refine .bind (leads_isEmptyDirectory env disk _) ?_
      rintro isNew same ⟨hsame, hnew⟩
      subst hsame
      cases isNew with
      | true =>
          rcases hnew rfl with hgone | ⟨inode, hroot, hempty⟩
          · rw [h.1] at hgone
            cases hgone
          · exact absurd hempty (h.2 inode hroot)
      | false =>
          refine (leads_openInitialized env same _).imp ?_ (fun _ _ h => h)
          rintro _ _ ⟨hafter, _⟩
          exact hafter
  rcases hresult : (UnifiedStorage.openRoot env workingDirectory path).exec disk with
    ⟨outcome, last⟩
  cases outcome with
  | ok _ => exact hleads.returns hresult
  | error _ => exact hleads.stops hresult

/-- One `Open`: what it meets, the working directory and the path. -/
structure OpenAttempt where
  env : OpenEnv
  workingDirectory : List String
  path : String

def OpenAttempt.root (attempt : OpenAttempt) : List String :=
  absolutePath attempt.workingDirectory attempt.path

/-- The disk that the attempt leaves. -/
def OpenAttempt.leaves (attempt : OpenAttempt) (disk : StorageDisk) : StorageDisk :=
  ((UnifiedStorage.openRoot attempt.env attempt.workingDirectory attempt.path).exec disk).2

theorem OpenAttempt.madeOnly (attempt : OpenAttempt) (disk : StorageDisk) :
    MadeOnly (openPaths attempt.root) disk (attempt.leaves disk) := by
  have hleads := MakesOnly.openRoot attempt.env attempt.workingDirectory attempt.path disk
  unfold OpenAttempt.leaves
  rcases hresult : (UnifiedStorage.openRoot attempt.env attempt.workingDirectory
    attempt.path).exec disk with ⟨outcome, last⟩
  cases outcome with
  | ok _ => exact hleads.returns hresult
  | error _ => exact hleads.stops hresult

/-- The disk after attempts of any number of processes, one after the other. -/
def attemptsLeave (attempts : List OpenAttempt) (disk : StorageDisk) : StorageDisk :=
  attempts.foldl (fun disk attempt => attempt.leaves disk) disk

theorem attemptsLeave_madeOnly (attempts : List OpenAttempt) (disk : StorageDisk) :
    MadeOnly { path | ∃ attempt ∈ attempts, path ∈ openPaths attempt.root } disk
      (attemptsLeave attempts disk) := by
  induction attempts generalizing disk with
  | nil => exact .refl disk
  | cons attempt rest ih =>
      have hfirst : MadeOnly { path | ∃ other ∈ attempt :: rest, path ∈ openPaths other.root }
          disk (attempt.leaves disk) :=
        (attempt.madeOnly disk).mono (fun path hpath => ⟨attempt, by simp, hpath⟩)
      refine hfirst.trans ((ih (attempt.leaves disk)).mono ?_)
      rintro path ⟨other, hother, hpath⟩
      exact ⟨other, List.mem_cons_of_mem _ hother, hpath⟩

/-- On a disk without dangling links, attempts keep everything that is there and make
nothing but the directories of their own paths, and none of them changes anything once its
root is in other use. No link comes to dangle. -/
theorem attempts_keep_what_is_there (attempts : List OpenAttempt) (disk : StorageDisk)
    (hlinks : disk.tree.LinksLead) :
    MadeOnly { path | ∃ attempt ∈ attempts, path ∈ openPaths attempt.root } disk
        (attemptsLeave attempts disk) ∧
      (attemptsLeave attempts disk).tree.LinksLead ∧
      ∀ attempt : OpenAttempt, (attemptsLeave attempts disk).Occupied attempt.root →
        attempt.leaves (attemptsLeave attempts disk) = attemptsLeave attempts disk := by
  have hmade := attemptsLeave_madeOnly attempts disk
  exact ⟨hmade, hmade.linksLead hlinks, fun attempt hoccupied => hoccupied.openRoot attempt.env⟩

namespace Reference

/-- A disk on which `/data` holds a directory of somebody else. -/
def sharedDisk : StorageDisk :=
  ⟨((DirectoryTree.bare.makeDirectory 0 "data").makeDirectory 1 "notes").sync 0, fun _ => [],
    fun _ _ => rfl⟩

/-- An attempt that is killed and one that makes the store. -/
def sharedAttempts : List OpenAttempt :=
  [⟨killedAfterSync, [], "/data/a/b"⟩, ⟨undisturbed, [], "/data/a/b"⟩]

theorem sharedDisk_linksLead : sharedDisk.tree.LinksLead :=
  ((bare_linksLead.makeDirectory 0 "data").makeDirectory 1 "notes").sync 0

theorem shared_directory_kept :
    (attemptsLeave sharedAttempts sharedDisk).tree.directoryAt ["notes", "data"] = some 2 ∧
      (attemptsLeave sharedAttempts sharedDisk).familiesAt ["db", "b", "a", "data"] ≠ [] ∧
      (OpenAttempt.mk undisturbed [] "/data").leaves (attemptsLeave sharedAttempts sharedDisk) =
        attemptsLeave sharedAttempts sharedDisk := by
  obtain ⟨hmade, _, hkeeps⟩ :=
    attempts_keep_what_is_there sharedAttempts sharedDisk sharedDisk_linksLead
  have hnotes : sharedDisk.tree.directoryAt ["notes", "data"] = some 2 := by decide +kernel
  have hdata : (attemptsLeave sharedAttempts sharedDisk).tree.directoryAt ["data"] = some 1 :=
    hmade.kept.directoryAt (by decide +kernel)
  refine ⟨hmade.kept.directoryAt hnotes, by decide +kernel, hkeeps _ ⟨?_, ?_⟩⟩
  · exact pathExists_of_directoryAt hdata
  · intro inode hroot
    obtain rfl := Option.some.inj (hdata.symm.trans hroot)
    decide +kernel

end Reference

end OpenEvent
