import OpenEvent.Lib.Bytes
import Mathlib.Logic.Function.Basic

/-!
One directory on a file system that promises only what `fsync` promises: file
contents survive a power loss once the file has been synced, and a directory
entry is certain once the directory has been synced after its last change.
Until then a power loss may bring back any entry the name had since.
-/

inductive FileKind where
  | regular
  | symbolicLink
  | directory
  | other
deriving DecidableEq

structure Inode where
  kind : FileKind
  bytes : Bytes
  synced : Bool
deriving DecidableEq

/-- `earlier name` lists the entries that `name` had since the directory was
last synced, the present one excluded. -/
structure DurableDirectory (Name : Type*) where
  entries : Name → Option Nat
  earlier : Name → List (Option Nat)
  inodes : Nat → Inode
  nextInode : Nat

namespace DurableDirectory

variable {Name : Type*}

def empty : DurableDirectory Name :=
  { entries := fun _ => none, earlier := fun _ => [],
    inodes := fun _ => ⟨.regular, [], false⟩, nextInode := 0 }

/-- Changes the entry of a name in the cached directory. -/
def setEntry [DecidableEq Name] (dir : DurableDirectory Name) (name : Name) (entry : Option Nat) :
    DurableDirectory Name :=
  { dir with
    entries := Function.update dir.entries name entry
    earlier := Function.update dir.earlier name (dir.entries name :: dir.earlier name) }

def setInode (dir : DurableDirectory Name) (inode : Nat) (value : Inode) :
    DurableDirectory Name :=
  { dir with inodes := Function.update dir.inodes inode value }

/-- A new empty regular file under `name`. -/
def create [DecidableEq Name] (dir : DurableDirectory Name) (name : Name) : DurableDirectory Name :=
  { (dir.setEntry name (some dir.nextInode)).setInode dir.nextInode ⟨.regular, [], false⟩ with
    nextInode := dir.nextInode + 1 }

def append (dir : DurableDirectory Name) (inode : Nat) (chunk : Bytes) : DurableDirectory Name :=
  dir.setInode inode
    { dir.inodes inode with bytes := (dir.inodes inode).bytes ++ chunk, synced := false }

def syncFile (dir : DurableDirectory Name) (inode : Nat) : DurableDirectory Name :=
  dir.setInode inode { dir.inodes inode with synced := true }

def rename [DecidableEq Name] (dir : DurableDirectory Name) (source target : Name) :
    DurableDirectory Name :=
  (dir.setEntry target (dir.entries source)).setEntry source none

def unlink [DecidableEq Name] (dir : DurableDirectory Name) (name : Name) : DurableDirectory Name :=
  dir.setEntry name none

/-- `fsync` of the directory: the present entries are certain. -/
def sync (dir : DurableDirectory Name) : DurableDirectory Name :=
  { dir with earlier := fun _ => [] }

/-- A power loss: every name comes back with one of its possible entries, and
every file that was not synced with some contents. -/
def crash (dir : DurableDirectory Name) (choice : Name → Nat) (contents : Nat → Bytes) :
    DurableDirectory Name :=
  { dir with
    entries := fun name => (dir.entries name :: dir.earlier name).getD (choice name)
      (dir.entries name)
    earlier := fun _ => []
    inodes := fun inode =>
      if (dir.inodes inode).synced then dir.inodes inode
      else { dir.inodes inode with bytes := contents inode, synced := true } }

/-- Every entry that a power loss may leave under `name` is `entry`. -/
structure Certain (dir : DurableDirectory Name) (name : Name) (entry : Option Nat) : Prop where
  present : dir.entries name = entry
  past : ∀ other ∈ dir.earlier name, other = entry

theorem certain_empty (name : Name) : (empty : DurableDirectory Name).Certain name none :=
  ⟨rfl, by simp [empty]⟩

theorem Certain.setEntry_ne [DecidableEq Name] {dir : DurableDirectory Name} {name other : Name}
    {entry value : Option Nat} (h : dir.Certain name entry) (hne : name ≠ other) :
    (dir.setEntry other value).Certain name entry := by
  constructor
  · simpa [setEntry, Function.update_of_ne hne] using h.present
  · simpa [setEntry, Function.update_of_ne hne] using h.past

theorem Certain.setInode {dir : DurableDirectory Name} {name : Name} {entry : Option Nat}
    (h : dir.Certain name entry) (inode : Nat) (value : Inode) :
    (dir.setInode inode value).Certain name entry :=
  ⟨h.present, h.past⟩

theorem Certain.create_ne [DecidableEq Name] {dir : DurableDirectory Name} {name other : Name}
    {entry : Option Nat} (h : dir.Certain name entry) (hne : name ≠ other) :
    (dir.create other).Certain name entry := by
  have hset : (dir.setEntry other (some dir.nextInode)).Certain name entry := h.setEntry_ne hne
  exact ⟨hset.present, hset.past⟩

theorem certain_sync (dir : DurableDirectory Name) (name : Name) :
    dir.sync.Certain name (dir.entries name) :=
  ⟨rfl, by simp [sync]⟩

theorem Certain.sync {dir : DurableDirectory Name} {name : Name} {entry : Option Nat}
    (h : dir.Certain name entry) : dir.sync.Certain name entry :=
  ⟨h.present, by simp [DurableDirectory.sync]⟩

theorem Certain.crash {dir : DurableDirectory Name} {name : Name} {entry : Option Nat}
    (h : dir.Certain name entry) (choice : Name → Nat) (contents : Nat → Bytes) :
    (dir.crash choice contents).Certain name entry := by
  constructor
  · simp only [DurableDirectory.crash, List.getD_eq_getElem?_getD]
    cases hchosen : (dir.entries name :: dir.earlier name)[choice name]? with
    | none => simpa using h.present
    | some chosen =>
        have hmember := List.mem_of_getElem? hchosen
        rcases List.mem_cons.mp hmember with rfl | hpast
        · simpa using h.present
        · simpa using h.past chosen hpast
  · simp [DurableDirectory.crash]

theorem crash_inode {dir : DurableDirectory Name} {inode : Nat}
    (h : (dir.inodes inode).synced = true) (choice : Name → Nat) (contents : Nat → Bytes) :
    (dir.crash choice contents).inodes inode = dir.inodes inode := by
  simp [DurableDirectory.crash, h]

/-! ### Changes to a part of the directory -/

/-- Only the entries of `names` and the contents of `inodes` may differ; what
was certain about another name still is. -/
structure Changes (names : Name → Prop) (inodes : Nat → Prop)
    (before after : DurableDirectory Name) : Prop where
  entry : ∀ name, ¬ names name → after.entries name = before.entries name
  certain : ∀ name entry, ¬ names name → before.Certain name entry → after.Certain name entry
  inode : ∀ inode < before.nextInode, ¬ inodes inode → after.inodes inode = before.inodes inode
  nextInode : before.nextInode ≤ after.nextInode

namespace Changes

variable {names : Name → Prop} {inodes : Nat → Prop} {dir : DurableDirectory Name}

theorem refl (dir : DurableDirectory Name) : Changes names inodes dir dir :=
  ⟨fun _ _ => rfl, fun _ _ _ h => h, fun _ _ _ => rfl, Nat.le_refl _⟩

theorem sync (dir : DurableDirectory Name) : Changes names inodes dir dir.sync :=
  ⟨fun _ _ => rfl, fun _ _ _ h => h.sync, fun _ _ _ => rfl, Nat.le_refl _⟩

theorem setInode (dir : DurableDirectory Name) {inode : Nat} (h : inodes inode) (value : Inode) :
    Changes names inodes dir (dir.setInode inode value) := by
  refine ⟨fun _ _ => rfl, fun _ _ _ hcertain => hcertain.setInode inode value, ?_, Nat.le_refl _⟩
  intro other _ hother
  have hne : other ≠ inode := fun heq => hother (heq ▸ h)
  simp [DurableDirectory.setInode, hne]

variable [DecidableEq Name]

theorem setEntry (dir : DurableDirectory Name) {name : Name} (h : names name)
    (entry : Option Nat) : Changes names inodes dir (dir.setEntry name entry) := by
  have hne (other : Name) (hother : ¬ names other) : other ≠ name := fun heq => hother (heq ▸ h)
  refine ⟨?_, ?_, fun _ _ _ => rfl, Nat.le_refl _⟩
  · intro other hother
    simp [DurableDirectory.setEntry, hne other hother]
  · intro other _ hother hcertain
    exact hcertain.setEntry_ne (hne other hother)

theorem create (dir : DurableDirectory Name) {name : Name} (h : names name) :
    Changes names inodes dir (dir.create name) := by
  have hne (other : Name) (hother : ¬ names other) : other ≠ name := fun heq => hother (heq ▸ h)
  refine ⟨?_, ?_, ?_, Nat.le_succ _⟩
  · intro other hother
    simp [DurableDirectory.create, DurableDirectory.setEntry, DurableDirectory.setInode,
      hne other hother]
  · intro other _ hother hcertain
    exact hcertain.create_ne (hne other hother)
  · intro inode hlt _
    simp [DurableDirectory.create, DurableDirectory.setEntry, DurableDirectory.setInode, hlt.ne]

theorem rename (dir : DurableDirectory Name) {source target : Name} (hsource : names source)
    (htarget : names target) : Changes names inodes dir (dir.rename source target) := by
  have hfirst : Changes names inodes dir (dir.setEntry target (dir.entries source)) :=
    setEntry dir htarget _
  have hsecond : Changes names inodes (dir.setEntry target (dir.entries source))
      (dir.rename source target) := setEntry _ hsource none
  refine ⟨?_, ?_, fun _ _ _ => rfl, Nat.le_refl _⟩
  · intro name hname
    rw [hsecond.entry name hname, hfirst.entry name hname]
  · intro name entry hname hcertain
    exact hsecond.certain name entry hname (hfirst.certain name entry hname hcertain)

theorem unlink (dir : DurableDirectory Name) {name : Name} (h : names name) :
    Changes names inodes dir (dir.unlink name) :=
  setEntry dir h none

end Changes

end DurableDirectory
