import Mathlib.Logic.Function.Basic
import Mathlib.Tactic.ByContra

/-!
The directories of a file system as path lookup sees them. A directory is known by
its inode number; an entry is made in the directory that the path's parent leads
to, and is certain once that directory has been synced.
-/

/-- What a directory holds under a name. A link is given by the directory it leads
to, if it leads to anything; links to files count as files. What a dangling link
names is not kept: it does not lead to a directory that is made there later. -/
inductive DirectoryEntry where
  | directory (inode : Nat)
  | link (target : Option Nat)
  | file
deriving DecidableEq

/-- The directory that an entry leads to. -/
def DirectoryEntry.target : DirectoryEntry → Option Nat
  | .directory inode => some inode
  | .link target => target
  | .file => none

/-- Inode 0 is the root. `pending` lists the entries that have been made since
their directory was last synced. -/
structure DirectoryTree where
  entries : Nat → List (String × DirectoryEntry)
  parent : Nat → Nat
  nextInode : Nat
  pending : List (Nat × String)
  root_lt : 0 < nextInode
  parent_lt : ∀ inode < nextInode, parent inode < nextInode
  target_lt : ∀ inode, ∀ entry ∈ entries inode, ∀ target ∈ entry.2.target, target < nextInode
  unused : ∀ inode, nextInode ≤ inode → entries inode = []

namespace DirectoryTree

/-- A file system with nothing in it. -/
def bare : DirectoryTree where
  entries _ := []
  parent _ := 0
  nextInode := 1
  pending := []
  root_lt := Nat.one_pos
  parent_lt _ _ := Nat.one_pos
  target_lt _ _ hentry := nomatch hentry
  unused _ _ := rfl

/-- One component of a path; a trailing slash is an empty component. -/
def lookup (tree : DirectoryTree) (inode : Nat) (name : String) : Option DirectoryEntry :=
  if name = "" ∨ name = "." then some (.directory inode)
  else if name = ".." then some (.directory (tree.parent inode))
  else (tree.entries inode).lookup name

/-- The directory that a path leads to. Paths are absolute and given from their
last component back to the root. -/
def directoryAt (tree : DirectoryTree) : List String → Option Nat
  | [] => some 0
  | name :: parent =>
      match tree.directoryAt parent with
      | none => none
      | some inode => (tree.lookup inode name).bind DirectoryEntry.target

/-- What stands at a path, a last link not followed. -/
def entryAt (tree : DirectoryTree) : List String → Option DirectoryEntry
  | [] => some (.directory 0)
  | name :: parent => (tree.directoryAt parent).bind (tree.lookup · name)

/-- `stat` finds something: dangling links and missing components are not found. -/
def pathExists (tree : DirectoryTree) (path : List String) : Bool :=
  (tree.entryAt path).any (· ≠ .link none)

/-- A new empty directory under a name of a directory in use. -/
def makeDirectory (tree : DirectoryTree) (inode : Nat) (name : String) : DirectoryTree :=
  if h : inode < tree.nextInode then
    { entries := Function.update tree.entries inode
        ((name, .directory tree.nextInode) :: tree.entries inode)
      parent := Function.update tree.parent tree.nextInode inode
      nextInode := tree.nextInode + 1
      pending := (inode, name) :: tree.pending
      root_lt := Nat.succ_pos _
      parent_lt := by
        intro other hother
        by_cases hnew : other = tree.nextInode
        · rw [hnew, Function.update_self]
          omega
        · rw [Function.update_of_ne hnew]
          have hold := tree.parent_lt other (by omega)
          omega
      target_lt := by
        intro other entry hentry target htarget
        have hbefore (inode : Nat) (hentry : entry ∈ tree.entries inode) :
            target < tree.nextInode + 1 :=
          Nat.lt_succ_of_lt (tree.target_lt inode entry hentry target htarget)
        by_cases hsame : other = inode
        · rw [hsame, Function.update_self] at hentry
          rcases List.mem_cons.mp hentry with rfl | hold
          · obtain rfl : tree.nextInode = target := by simpa [DirectoryEntry.target] using htarget
            omega
          · exact hbefore inode hold
        · rw [Function.update_of_ne hsame] at hentry
          exact hbefore other hentry
      unused := by
        intro other hother
        rw [Function.update_of_ne (by omega)]
        exact tree.unused other (by omega) }
  else tree

/-- `fsync` of a directory: its entries are certain. -/
def sync (tree : DirectoryTree) (inode : Nat) : DirectoryTree :=
  { tree with pending := tree.pending.filter (fun entry => entry.1 ≠ inode) }

section

variable {tree : DirectoryTree} {inode : Nat} {name : String} {path : List String}

theorem lookup_target_lt {entry : DirectoryEntry} {target : Nat} (hinode : inode < tree.nextInode)
    (h : tree.lookup inode name = some entry) (htarget : entry.target = some target) :
    target < tree.nextInode := by
  unfold lookup at h
  split at h
  · obtain rfl := Option.some.inj h
    obtain rfl := Option.some.inj htarget
    exact hinode
  · split at h
    · obtain rfl := Option.some.inj h
      obtain rfl := Option.some.inj htarget
      exact tree.parent_lt inode hinode
    · obtain ⟨before, after, hentries, _⟩ := List.lookup_eq_some_iff.mp h
      exact tree.target_lt inode (name, entry) (by simp [hentries]) target htarget

theorem directoryAt_lt (h : tree.directoryAt path = some inode) : inode < tree.nextInode := by
  induction path generalizing inode with
  | nil =>
      obtain rfl := Option.some.inj h
      exact tree.root_lt
  | cons name parent ih =>
      rw [directoryAt] at h
      cases hparent : tree.directoryAt parent with
      | none => simp [hparent] at h
      | some holder =>
          rw [hparent] at h
          obtain ⟨entry, hentry, htarget⟩ := Option.bind_eq_some_iff.mp h
          exact lookup_target_lt (ih hparent) hentry htarget

theorem directoryAt_cons {holder : Nat} (h : tree.directoryAt path = some holder) :
    tree.directoryAt (name :: path) = (tree.lookup holder name).bind DirectoryEntry.target := by
  rw [directoryAt, h]

theorem entryAt_cons {holder : Nat} (h : tree.directoryAt path = some holder) :
    tree.entryAt (name :: path) = tree.lookup holder name := by
  rw [entryAt, h]
  rfl

theorem entryAt_target (tree : DirectoryTree) (path : List String) :
    (tree.entryAt path).bind DirectoryEntry.target = tree.directoryAt path := by
  cases path with
  | nil => rfl
  | cons name parent =>
      rw [entryAt, directoryAt]
      cases tree.directoryAt parent with
      | none => rfl
      | some inode => rfl

/-- A directory that is not reached by a last link is the entry itself. -/
theorem entryAt_directory (h : tree.directoryAt path = some inode)
    (hunlinked : ∀ target, tree.entryAt path ≠ some (.link target)) :
    tree.entryAt path = some (.directory inode) := by
  rw [← entryAt_target] at h
  obtain ⟨entry, hentry, htarget⟩ := Option.bind_eq_some_iff.mp h
  cases entry with
  | directory found => rw [hentry, Option.some.inj htarget]
  | link target => exact absurd hentry (hunlinked target)
  | file => cases htarget

theorem pathExists_of_directoryAt (h : tree.directoryAt path = some inode) :
    tree.pathExists path = true := by
  rw [← entryAt_target] at h
  obtain ⟨entry, hentry, htarget⟩ := Option.bind_eq_some_iff.mp h
  rw [pathExists, hentry]
  cases entry with
  | directory found => rfl
  | link target =>
      obtain rfl : target = some inode := htarget
      rfl
  | file => cases htarget

theorem directoryAt_of_cons (h : tree.directoryAt (name :: path) = some inode) :
    ∃ holder entry, tree.directoryAt path = some holder ∧
      tree.lookup holder name = some entry ∧ entry.target = some inode := by
  rw [directoryAt] at h
  cases hparent : tree.directoryAt path with
  | none => simp [hparent] at h
  | some holder =>
      rw [hparent] at h
      obtain ⟨entry, hentry, htarget⟩ := Option.bind_eq_some_iff.mp h
      exact ⟨holder, entry, rfl, hentry, htarget⟩

/-! ### A new directory -/

section MakeDirectory

variable {holder : Nat} (hholder : holder < tree.nextInode)
include hholder

theorem makeDirectory_pending (name : String) :
    (tree.makeDirectory holder name).pending = (holder, name) :: tree.pending := by
  rw [makeDirectory, dif_pos hholder]

theorem makeDirectory_nextInode (name : String) :
    (tree.makeDirectory holder name).nextInode = tree.nextInode + 1 := by
  rw [makeDirectory, dif_pos hholder]

theorem makeDirectory_entries (name : String) :
    (tree.makeDirectory holder name).entries =
      Function.update tree.entries holder
        ((name, .directory tree.nextInode) :: tree.entries holder) := by
  rw [makeDirectory, dif_pos hholder]

theorem makeDirectory_parent (name : String) :
    (tree.makeDirectory holder name).parent =
      Function.update tree.parent tree.nextInode holder := by
  rw [makeDirectory, dif_pos hholder]

/-- Everything that could be looked up still can. -/
theorem lookup_makeDirectory {entry : DirectoryEntry} (hfree : tree.lookup holder name = none)
    {other : String} (hinode : inode < tree.nextInode) (h : tree.lookup inode other = some entry) :
    (tree.makeDirectory holder name).lookup inode other = some entry := by
  have hparent : (tree.makeDirectory holder name).parent inode = tree.parent inode := by
    rw [makeDirectory_parent hholder, Function.update_of_ne (by omega)]
  unfold lookup at h ⊢
  split at h
  · rw [if_pos ‹_›, h]
  · rw [if_neg ‹_›]
    split at h
    · rw [if_pos ‹_›, hparent, h]
    · rw [if_neg ‹_›, makeDirectory_entries hholder]
      by_cases hsame : inode = holder
      · subst hsame
        rw [Function.update_self, List.lookup_cons]
        by_cases hname : other = name
        · subst hname
          unfold lookup at hfree
          rw [if_neg ‹_›, if_neg ‹_›] at hfree
          rw [hfree] at h
          cases h
        · rw [beq_false_of_ne hname]
          exact h
      · rw [Function.update_of_ne hsame]
        exact h

/-- The new directory, at its own name. -/
theorem lookup_makeDirectory_self (hfree : tree.lookup holder name = none) :
    (tree.makeDirectory holder name).lookup holder name = some (.directory tree.nextInode) := by
  unfold lookup at hfree ⊢
  split at hfree
  · cases hfree
  · split at hfree
    · cases hfree
    · rw [if_neg ‹_›, if_neg ‹_›, makeDirectory_entries hholder, Function.update_self,
        List.lookup_cons, beq_self_eq_true]

/-- No links are made. -/
theorem lookup_makeDirectory_link {other : String} {target : Option Nat}
    (h : (tree.makeDirectory holder name).lookup inode other = some (.link target)) :
    tree.lookup inode other = some (.link target) := by
  unfold lookup at h ⊢
  split at h
  · cases h
  · rw [if_neg ‹_›]
    split at h
    · cases h
    · rw [if_neg ‹_›]
      rw [makeDirectory_entries hholder] at h
      by_cases hsame : inode = holder
      · subst hsame
        rw [Function.update_self, List.lookup_cons] at h
        split at h
        · cases h
        · exact h
      · rw [Function.update_of_ne hsame] at h
        exact h

theorem makeDirectory_entries_new (name : String) :
    (tree.makeDirectory holder name).entries tree.nextInode = [] := by
  rw [makeDirectory_entries hholder, Function.update_of_ne (by omega)]
  exact tree.unused _ (Nat.le_refl _)

end MakeDirectory

/-! ### Links -/

/-- No link dangles: none would lead elsewhere once a directory has been made. -/
def LinksLead (tree : DirectoryTree) : Prop :=
  ∀ inode, ∀ entry ∈ tree.entries inode, entry.2 ≠ .link none

theorem bare_linksLead : bare.LinksLead := fun _ _ hentry => nomatch hentry

theorem LinksLead.makeDirectory (h : tree.LinksLead) (holder : Nat) (name : String) :
    (tree.makeDirectory holder name).LinksLead := by
  by_cases hholder : holder < tree.nextInode
  · intro other entry hentry
    rw [makeDirectory_entries hholder] at hentry
    by_cases hsame : other = holder
    · rw [hsame, Function.update_self] at hentry
      rcases List.mem_cons.mp hentry with rfl | hold
      · simp
      · exact h holder entry hold
    · rw [Function.update_of_ne hsame] at hentry
      exact h other entry hentry
  · rw [DirectoryTree.makeDirectory, dif_neg hholder]
    exact h

theorem LinksLead.sync (h : tree.LinksLead) (inode : Nat) : (tree.sync inode).LinksLead := h

/-! ### Later trees -/

/-- What could be looked up before still can. -/
structure Extends (tree later : DirectoryTree) : Prop where
  nextInode : tree.nextInode ≤ later.nextInode
  lookup : ∀ inode < tree.nextInode, ∀ name entry, tree.lookup inode name = some entry →
    later.lookup inode name = some entry

namespace Extends

variable {later last : DirectoryTree}

theorem refl (tree : DirectoryTree) : Extends tree tree := ⟨Nat.le_refl _, fun _ _ _ _ h => h⟩

theorem trans (h : Extends tree later) (hnext : Extends later last) : Extends tree last where
  nextInode := Nat.le_trans h.nextInode hnext.nextInode
  lookup inode hinode name entry hentry :=
    hnext.lookup inode (Nat.lt_of_lt_of_le hinode h.nextInode) name entry
      (h.lookup inode hinode name entry hentry)

theorem sync (tree : DirectoryTree) (inode : Nat) : Extends tree (tree.sync inode) :=
  ⟨Nat.le_refl _, fun _ _ _ _ h => h⟩

theorem makeDirectory {holder : Nat} (hholder : holder < tree.nextInode)
    (hfree : tree.lookup holder name = none) : Extends tree (tree.makeDirectory holder name) where
  nextInode := by
    rw [makeDirectory_nextInode hholder]
    omega
  lookup _ hinode _ _ hentry := lookup_makeDirectory hholder hfree hinode hentry

theorem directoryAt (h : Extends tree later) (hpath : tree.directoryAt path = some inode) :
    later.directoryAt path = some inode := by
  induction path generalizing inode with
  | nil => exact hpath
  | cons component parent ih =>
      obtain ⟨above, entry, habove, hentry, htarget⟩ := directoryAt_of_cons hpath
      rw [directoryAt_cons (ih habove), h.lookup above (directoryAt_lt habove) component entry hentry]
      exact htarget

theorem entryAt (h : Extends tree later) {entry : DirectoryEntry}
    (hpath : tree.entryAt path = some entry) : later.entryAt path = some entry := by
  cases path with
  | nil => exact hpath
  | cons component parent =>
      obtain ⟨above, habove, hentry⟩ := Option.bind_eq_some_iff.mp hpath
      rw [DirectoryTree.entryAt, h.directoryAt habove]
      exact h.lookup above (directoryAt_lt habove) component entry hentry

end Extends

/-! ### Sync -/

/-- A sync right after an entry was made leaves what was pending before. -/
theorem sync_makeDirectory_pending {holder : Nat} (hholder : holder < tree.nextInode)
    (hnone : tree.pending = []) : ((tree.makeDirectory holder name).sync holder).pending = [] := by
  show ((tree.makeDirectory holder name).pending.filter _) = []
  rw [makeDirectory_pending hholder, hnone]
  simp

end

end DirectoryTree
