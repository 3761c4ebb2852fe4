import Mathlib.Data.List.Infix
import OpenEvent.Storage.Directories

/-!
Whether the directories that `Open` makes are certain when it returns a store. An
attempt syncs the parent of what it makes itself, but takes what it finds for
granted, also what an earlier attempt made and did not get to sync.
-/

namespace OpenEvent

open DirectoryTree Interruptible UnifiedStorage

section Calls

variable {env : OpenEnv} {disk : StorageDisk} {root path : List String}

theorem leads_fileSystemCall (env : OpenEnv) (disk : StorageDisk) (call : OpenCall) :
    Leads disk (fileSystemCall env call)
      (fun error after => after = disk ∧ (error = none → env.calls call = .done))
      (fun _ after => after = disk) := by
  unfold fileSystemCall
  cases hcall : env.calls call with
  | done => exact .pure ⟨rfl, fun _ => rfl⟩
  | failed error => exact .pure ⟨rfl, nofun⟩
  | killed => exact .halt rfl

/-- A call that leaves the disk as it is and what the program goes on with. -/
theorem leads_call {β : Type} {stop : OpenStop → StorageDisk → Prop}
    {post : β → StorageDisk → Prop} {call : OpenCall} {next : Option Errno → OpenIo β}
    (hstop : ∀ reason, stop reason disk)
    (hnext : ∀ error, (error = none → env.calls call = .done) →
      Leads disk (next error) post stop) :
    Leads disk (fileSystemCall env call >>= next) post stop := by
  refine .bind ((leads_fileSystemCall env disk call).imp (fun _ _ h => h) ?_) ?_
  · rintro reason _ rfl
    exact hstop reason
  · rintro error _ ⟨rfl, hdone⟩
    exact hnext error hdone

/-- `IsNewStorageRoot` says yes to a root that is missing or an empty directory. -/
theorem leads_isEmptyDirectory (env : OpenEnv) (disk : StorageDisk) (root : List String) :
    Leads disk (isEmptyDirectory env root)
      (fun isNew after => after = disk ∧ (isNew = true → disk.tree.pathExists root = false ∨
        ∃ inode, disk.tree.directoryAt root = some inode ∧ disk.tree.entries inode = []))
      (fun _ after => after = disk) := by
  unfold isEmptyDirectory
  refine leads_call (fun _ => rfl) ?_
  intro error _
  cases error with
  | some _ => exact .pure ⟨rfl, nofun⟩
  | none =>
      refine .observe_bind ?_
      split
      · rename_i hmissing
        exact .pure ⟨rfl, fun _ => Or.inl hmissing⟩
      · refine leads_call (fun _ => rfl) ?_
        intro error _
        refine .observe_bind ?_
        cases error with
        | some _ => exact .pure ⟨rfl, nofun⟩
        | none =>
            cases hroot : disk.tree.directoryAt root with
            | none => exact .pure ⟨rfl, nofun⟩
            | some inode =>
                refine leads_call (fun _ => rfl) ?_
                intro error _
                cases error with
                | some _ => exact .pure ⟨rfl, nofun⟩
                | none => exact .observe ⟨rfl, fun hempty =>
                    Or.inr ⟨inode, rfl, List.isEmpty_iff.mp hempty⟩⟩

theorem leads_validateStorageRootLayout (env : OpenEnv) (disk : StorageDisk) (root : List String) :
    Leads disk (validateStorageRootLayout env root) (fun _ after => after = disk)
      (fun _ after => after = disk) := by
  unfold validateStorageRootLayout
  refine leads_call (fun _ => rfl) ?_
  intro error _
  refine .observe_bind ?_
  cases error with
  | some _ => exact .halt rfl
  | none =>
      cases disk.tree.directoryAt root with
      | none => exact .observe_bind (.halt rfl)
      | some inode =>
          refine .observe_bind ?_
          dsimp only
          split
          · exact .halt_bind rfl
          · refine leads_call (fun _ => rfl) ?_
            intro error _
            refine .observe_bind ?_
            split
            · refine leads_call (fun _ => rfl) ?_
              intro error _
              refine .observe_bind ?_
              split
              · exact .pure rfl
              · exact .halt rfl
            · exact .halt_bind rfl

end Calls

/-! ### Making one directory -/

section Create

variable {env : OpenEnv} {disk : StorageDisk} {path : List String}

/-- What the disk is when the parent of a path has been opened and synced. -/
theorem leads_syncDirectory (env : OpenEnv) (disk : StorageDisk) (path : List String) :
    Leads disk (syncDirectory env path)
      (fun _ after => ∃ inode, disk.tree.directoryAt path.tail = some inode ∧
        after = { disk with tree := disk.tree.sync inode })
      (fun _ after => after = disk ∨ ∃ inode, after = { disk with tree := disk.tree.sync inode }) := by
  unfold syncDirectory
  refine leads_call (fun _ => Or.inl rfl) ?_
  intro error _
  refine .observe_bind ?_
  cases error with
  | some _ => exact .halt (Or.inl rfl)
  | none =>
      have htarget := entryAt_target disk.tree path.tail
      cases hentry : disk.tree.entryAt path.tail with
      | none => exact .observe_bind (.halt (Or.inl rfl))
      | some entry =>
          cases entry with
          | link target => exact .halt (Or.inl rfl)
          | file => exact .halt (Or.inl rfl)
          | directory inode =>
              refine leads_call (fun _ => Or.inl rfl) ?_
              intro error _
              cases error with
              | some _ => exact .halt (Or.inl rfl)
              | none =>
                  refine .update_bind ?_
                  refine leads_call (fun _ => Or.inr ⟨inode, rfl⟩) ?_
                  intro error _
                  cases error with
                  | some _ => exact .halt (Or.inr ⟨inode, rfl⟩)
                  | none =>
                      rw [hentry] at htarget
                      exact .pure ⟨inode, htarget.symm, rfl⟩

/-- An open and an `fsync` that succeed leave the parent synced, also when the
attempt ends at the `close`. -/
theorem leads_syncDirectory_done {inode : Nat}
    (hopen : env.calls (.openParent path) = .done) (hsync : env.calls (.syncParent path) = .done)
    (hentry : disk.tree.entryAt path.tail = some (.directory inode)) :
    Leads disk (syncDirectory env path)
      (fun _ after => after = { disk with tree := disk.tree.sync inode })
      (fun _ after => after = { disk with tree := disk.tree.sync inode }) := by
  have hopened : fileSystemCall env (.openParent path) = pure none := by
    rw [fileSystemCall, hopen]
  have hsynced : fileSystemCall env (.syncParent path) = pure none := by
    rw [fileSystemCall, hsync]
  unfold syncDirectory
  rw [hopened, pure_bind]
  refine .observe_bind ?_
  rw [hentry]
  dsimp only
  rw [hsynced, pure_bind]
  refine .update_bind (leads_call (fun _ => rfl) ?_)
  intro error _
  cases error with
  | some _ => exact .halt rfl
  | none => exact .pure rfl

/-- Everything that `mkdir` can do. -/
inductive MkdirMove (disk : StorageDisk) (path : List String) : MkdirResult → Prop
  | failed (error : Errno) : MkdirMove disk path (.failed error)
  | present {inode : Nat} : disk.tree.directoryAt path = some inode → MkdirMove disk path .present
  | created {holder : Nat} {name : String} {parent : List String} : path = name :: parent →
      disk.tree.directoryAt parent = some holder → disk.tree.lookup holder name = none →
      MkdirMove disk path (.created (disk.makeDirectory holder name))

theorem mkdir_cases (disk : StorageDisk) (path : List String) :
    MkdirMove disk path (disk.mkdir path) := by
  cases path with
  | nil => exact .present rfl
  | cons name parent =>
      rw [StorageDisk.mkdir]
      cases hparent : disk.tree.directoryAt parent with
      | none => exact .failed _
      | some holder =>
          dsimp only
          cases hentry : disk.tree.lookup holder name with
          | none => exact .created rfl hparent hentry
          | some entry =>
              dsimp only
              split
              · rename_i hsome
                obtain ⟨inode, hinode⟩ := Option.isSome_iff_exists.mp hsome
                have hpath : disk.tree.directoryAt (name :: parent) = some inode := by
                  rw [directoryAt_cons hparent, hentry]
                  exact hinode
                exact .present hpath
              · exact .failed _

/-- `CreateDirectoryAndSyncParent` stops with the disk as it is, finds the directory,
or makes it and goes on to sync its parent. -/
theorem leads_createDirectoryAndSyncParent {post : Unit → StorageDisk → Prop}
    {stop : OpenStop → StorageDisk → Prop} (hstop : ∀ reason, stop reason disk)
    (hpresent : ∀ inode, disk.tree.directoryAt path = some inode → post () disk)
    (hcreated : ∀ holder name parent, path = name :: parent →
      disk.tree.directoryAt parent = some holder → disk.tree.lookup holder name = none →
      env.calls (.createDirectory path) = .done →
      disk.mkdir path = .created (disk.makeDirectory holder name) →
      Leads (disk.makeDirectory holder name) (syncDirectory env path) post stop) :
    Leads disk (createDirectoryAndSyncParent env path) post stop := by
  unfold createDirectoryAndSyncParent
  refine leads_call hstop ?_
  intro error hdone
  refine .observe_bind ?_
  cases error with
  | some _ => exact .halt (hstop _)
  | none =>
      have hmove := mkdir_cases disk path
      generalize hresult : disk.mkdir path = result at hmove ⊢
      cases hmove with
      | failed _ => exact .halt (hstop _)
      | created hpath hparent hfree =>
          exact .update_bind (hcreated _ _ _ hpath hparent hfree (hdone rfl) hresult)
      | present hpath =>
          refine leads_call hstop ?_
          intro error _
          refine .observe_bind ?_
          rw [hpath]
          cases error with
          | some _ => exact .halt (hstop _)
          | none => exact .pure (hpresent _ hpath)

end Create

/-! ### The path to the root -/

/-- The open and the `fsync` of the parent of a path succeed. -/
def OpenEnv.SyncsParent (env : OpenEnv) (path : List String) : Prop :=
  env.calls (.openParent path) = .done ∧ env.calls (.syncParent path) = .done

/-- The making of the directories of a list comes to `path` and makes it. -/
inductive OpenEnv.Makes (env : OpenEnv) : StorageDisk → List (List String) → List String → Prop
  | here {disk made : StorageDisk} {path : List String} {rest : List (List String)} :
      env.calls (.createDirectory path) = .done → disk.mkdir path = .created made →
      Makes env disk (path :: rest) path
  | later {disk after : StorageDisk} {first path : List String} {rest : List (List String)} :
      (createDirectoryAndSyncParent env first).exec disk = (.ok (), after) →
      Makes env after rest path → Makes env disk (first :: rest) path

/-- What is made after the directories of a list is made by the longer list. -/
theorem OpenEnv.Makes.append {env : OpenEnv} {disk after : StorageDisk}
    {before rest : List (List String)} {path : List String}
    (hexec : (createMissing env before).exec disk = (.ok (), after))
    (h : env.Makes after rest path) : env.Makes disk (before ++ rest) path := by
  induction before generalizing disk with
  | nil =>
      obtain rfl : disk = after := (Prod.mk.inj hexec).2
      exact h
  | cons first before ih =>
      rw [createMissing, exec_bind] at hexec
      rcases hfirst : (createDirectoryAndSyncParent env first).exec disk with ⟨outcome, middle⟩
      rw [hfirst] at hexec
      cases outcome with
      | ok _ => exact .later hfirst (ih hexec)
      | error _ => cases (Prod.mk.inj hexec).1

/-- An attempt finds its root new and makes the directory: the missing components of the
path come first, then `db` and `objects`. -/
def OpenEnv.OpenMakes (env : OpenEnv) (disk : StorageDisk) (root path : List String) : Prop :=
  ∃ missing, (isEmptyDirectory env root).exec disk = (.ok true, disk) ∧
    env.calls .resolveRoot = .done ∧
    (findMissing env root root []).exec disk = (.ok missing, disk) ∧
    env.Makes disk (missing ++ [databasePath root, objectsPath root]) path

/-- No attempt leaves a directory above `db` and `objects` that it made and did not
sync: the calls after the making succeed, and the parent is not a link, which would
not be opened. Nothing is asked of calls that the attempt does not make. Where the
path has a `..` it may lead from a directory that was missing to one that was not;
then links must not stand in its way, and `objects` is to be synced too. -/
structure OpenEnv.Settles (env : OpenEnv) (disk : StorageDisk) (root : List String) : Prop where
  synced : ∀ path, path <:+ root → env.OpenMakes disk root path → env.SyncsParent path
  parent : ∀ name parent, name :: parent <:+ root → env.OpenMakes disk root (name :: parent) →
    ∀ target, disk.tree.entryAt parent ≠ some (.link target)
  objects : ".." ∈ root → env.OpenMakes disk root (objectsPath root) →
    env.SyncsParent (objectsPath root)
  linkFree : ".." ∈ root →
    ∀ inode, ∀ name ∈ root, ∀ target, disk.tree.lookup inode name ≠ some (.link target)

/-- The making of the path has come to `base`. A path without `..` has led to a
directory with nothing in it. -/
structure Making (root : List String) (disk : StorageDisk) (base : List String) (inode : Nat) :
    Prop where
  pending : disk.tree.pending = []
  here : disk.tree.directoryAt base = some inode
  unlinked : ∀ target, disk.tree.entryAt base ≠ some (.link target)
  empty : ".." ∈ root ∨ disk.tree.entries inode = []
  linkFree : ".." ∈ root →
    ∀ inode, ∀ name ∈ root, ∀ target, disk.tree.lookup inode name ≠ some (.link target)

section Making

variable {env : OpenEnv} {disk : StorageDisk} {root base : List String} {name : String} {inode : Nat}

/-- One more component of the path. -/
theorem leads_makeComponent {rest : List (List String)} (hname : name ∈ root)
    (hpending : disk.tree.pending = []) (hhere : disk.tree.directoryAt base = some inode)
    (hunlinked : env.Makes disk ((name :: base) :: rest) (name :: base) →
      ∀ target, disk.tree.entryAt base ≠ some (.link target))
    (hsyncs : env.Makes disk ((name :: base) :: rest) (name :: base) →
      env.SyncsParent (name :: base))
    (hnext : ".." ∈ root ∨ ∀ entry, disk.tree.lookup inode name = some entry →
      entry = .directory inode ∧ disk.tree.entries inode = [] ∨ entry.target = none)
    (hlinkFree : ".." ∈ root →
      ∀ inode, ∀ name ∈ root, ∀ target, disk.tree.lookup inode name ≠ some (.link target)) :
    Leads disk (createDirectoryAndSyncParent env (name :: base))
      (fun _ after => ∃ made, Making root after (name :: base) made)
      (fun _ after => after.tree.pending = []) := by
  refine leads_createDirectoryAndSyncParent (fun _ => hpending) ?_ ?_
  · intro found hfound
    obtain ⟨holder, entry, hholder, hentry, htarget⟩ := directoryAt_of_cons hfound
    obtain rfl := Option.some.inj (hhere.symm.trans hholder)
    have hat : disk.tree.entryAt (name :: base) = some entry := (entryAt_cons hhere).trans hentry
    rcases hnext with hdotted | hplain
    · refine ⟨found, hpending, hfound, ?_, Or.inl hdotted, hlinkFree⟩
      intro target hlink
      rw [hat] at hlink
      exact hlinkFree hdotted _ name hname target (hentry.trans hlink)
    · rcases hplain entry hentry with ⟨rfl, hempty⟩ | hnone
      · obtain rfl := Option.some.inj htarget
        refine ⟨inode, hpending, hfound, ?_, Or.inr hempty, hlinkFree⟩
        intro target hlink
        rw [hat] at hlink
        cases hlink
      · rw [hnone] at htarget
        cases htarget
  · rintro holder _ _ ⟨⟩ hholder hfree hdone hcreated
    obtain rfl := Option.some.inj (hhere.symm.trans hholder)
    have hmakes : env.Makes disk ((name :: base) :: rest) (name :: base) := .here hdone hcreated
    obtain ⟨hopen, hsync⟩ := hsyncs hmakes
    have hlt := directoryAt_lt hhere
    have hextends := Extends.makeDirectory hlt hfree
    have hparent := hextends.entryAt (entryAt_directory hhere (hunlinked hmakes))
    have hmade := lookup_makeDirectory_self hlt hfree
    have hpath := hextends.directoryAt hhere
    have hsettled : ((disk.tree.makeDirectory inode name).sync inode).pending = [] :=
      sync_makeDirectory_pending hlt hpending
    refine (leads_syncDirectory_done hopen hsync hparent).imp ?_ ?_
    · rintro _ _ rfl
      have hthere := (Extends.sync (disk.tree.makeDirectory inode name) inode).directoryAt hpath
      refine ⟨disk.tree.nextInode, hsettled, ?_, ?_, Or.inr (makeDirectory_entries_new hlt name), ?_⟩
      · exact (directoryAt_cons hthere).trans (congrArg (Option.bind · _) hmade)
      · intro target hlink
        have hentry : some (DirectoryEntry.directory disk.tree.nextInode) = some (.link target) :=
          hmade.symm.trans ((entryAt_cons hthere).symm.trans hlink)
        cases hentry
      · intro hdotted other component hcomponent target hlink
        exact hlinkFree hdotted other component hcomponent target
          (lookup_makeDirectory_link hlt hlink)
    · rintro _ _ rfl
      exact hsettled

/-- The list goes down from a path to the root of the store, one component at a time. -/
inductive Descends (root : List String) : List String → List (List String) → Prop
  | nil : Descends root root []
  | cons {name : String} {base : List String} {rest : List (List String)} :
      Descends root (name :: base) rest → Descends root base ((name :: base) :: rest)

theorem Descends.suffix {missing : List (List String)} (h : Descends root base missing) :
    base <:+ root := by
  induction h with
  | nil => exact List.suffix_refl _
  | cons _ ih => exact (List.suffix_cons _ _).trans ih

theorem Descends.within {missing : List (List String)} (h : Descends root base missing)
    {path : List String} (hpath : path ∈ missing) : path <:+ root := by
  induction h with
  | nil => cases hpath
  | cons hrest ih =>
      rcases List.mem_cons.mp hpath with rfl | hlater
      · exact hrest.suffix
      · exact ih hlater

theorem lookup_empty {tree : DirectoryTree} (hempty : tree.entries inode = []) (hdots : name ≠ "..")
    {entry : DirectoryEntry} (h : tree.lookup inode name = some entry) :
    entry = .directory inode := by
  rw [DirectoryTree.lookup, if_neg hdots, hempty] at h
  split at h
  · exact (Option.some.inj h).symm
  · cases h

theorem leads_createMissing {missing rest : List (List String)}
    (hdescends : Descends root base missing) (h : Making root disk base inode)
    (hsyncs : ∀ path ∈ missing, env.Makes disk (missing ++ rest) path → env.SyncsParent path) :
    Leads disk (createMissing env missing) (fun _ after => ∃ made, Making root after root made)
      (fun _ after => after.tree.pending = []) := by
  induction hdescends generalizing disk inode with
  | nil => exact .pure ⟨inode, h⟩
  | @cons name base missing hrest ih =>
      have hname : name ∈ root := hrest.suffix.subset (by simp)
      have hnext : ".." ∈ root ∨ ∀ entry, disk.tree.lookup inode name = some entry →
          entry = .directory inode ∧ disk.tree.entries inode = [] ∨ entry.target = none := by
        by_cases hdotted : ".." ∈ root
        · exact Or.inl hdotted
        · have hempty := h.empty.resolve_left hdotted
          have hdots : name ≠ ".." := fun heq => hdotted (heq ▸ hname)
          exact Or.inr (fun entry hentry => Or.inl ⟨lookup_empty hempty hdots hentry, hempty⟩)
      refine .bind (leads_makeComponent hname h.pending h.here (fun _ => h.unlinked)
        (hsyncs _ (by simp)) hnext h.linkFree).traced ?_
      rintro _ after ⟨hexec, made, hmade⟩
      refine ih hmade ?_
      intro path hpath hmakes
      exact hsyncs path (List.mem_cons_of_mem _ hpath) (.later hexec hmakes)

theorem leads_findMissing {current : List String} {missing : List (List String)}
    (hdescends : Descends root current missing)
    (hmissing : ∀ path ∈ missing, disk.tree.pathExists path = false) :
    Leads disk (findMissing env root current missing)
      (fun missing after => after = disk ∧ ∃ base inode, Descends root base missing ∧
        disk.tree.directoryAt base = some inode ∧
        ∀ path ∈ missing, disk.tree.pathExists path = false)
      (fun _ after => after = disk) := by
  induction current generalizing missing with
  | nil =>
      rw [findMissing]
      refine leads_call (fun _ => rfl) ?_
      intro error _
      refine .observe_bind ?_
      cases error with
      | some _ => exact .halt rfl
      | none =>
          refine leads_call (fun _ => rfl) ?_
          intro error _
          refine .observe_bind ?_
          cases error with
          | some _ => exact .halt rfl
          | none => exact .pure ⟨rfl, [], 0, hdescends, rfl, hmissing⟩
  | cons name parent ih =>
      rw [findMissing]
      refine leads_call (fun _ => rfl) ?_
      intro error _
      refine .observe_bind ?_
      cases error with
      | some _ => exact .halt rfl
      | none =>
          cases hexists : disk.tree.pathExists (name :: parent) with
          | true =>
              refine leads_call (fun _ => rfl) ?_
              intro error _
              refine .observe_bind ?_
              cases error with
              | some _ => exact .halt rfl
              | none =>
                  cases hdirectory : disk.tree.directoryAt (name :: parent) with
                  | none => exact .halt rfl
                  | some inode =>
                      exact .pure ⟨rfl, name :: parent, inode, hdescends, hdirectory, hmissing⟩
          | false =>
              refine ih (.cons hdescends) ?_
              intro path hpath
              rcases List.mem_cons.mp hpath with rfl | hrest
              · exact hexists
              · exact hmissing path hrest

/-- The root is there, and everything on the way to it is certain. -/
structure RootReady (root : List String) (disk : StorageDisk) (inode : Nat) : Prop where
  pending : disk.tree.pending = []
  here : disk.tree.directoryAt root = some inode
  empty : ".." ∈ root ∨ disk.tree.entries inode = []
  linkFree : ".." ∈ root →
    ∀ inode, ∀ name ∈ root, ∀ target, disk.tree.lookup inode name ≠ some (.link target)

theorem leads_createDirectoryTreeDurably (hpending : disk.tree.pending = [])
    (hsettles : env.Settles disk root)
    (hempty : (isEmptyDirectory env root).exec disk = (.ok true, disk))
    (hresolved : env.calls .resolveRoot = .done)
    (hnew : disk.tree.pathExists root = false ∨
      ∃ inode, disk.tree.directoryAt root = some inode ∧ disk.tree.entries inode = []) :
    Leads disk (createDirectoryTreeDurably env root)
      (fun _ after => (∃ inode, RootReady root after inode) ∧
        ∀ path, env.Makes after [databasePath root, objectsPath root] path →
          env.OpenMakes disk root path)
      (fun _ after => after.tree.pending = []) := by
  refine .bind ((leads_findMissing .nil (by simp)).traced.imp (fun _ _ h => h) ?_) ?_
  · rintro _ _ rfl
    exact hpending
  · rintro missing same ⟨hfind, hsame, base, inode, hdescends, hbase, hmissing⟩
    subst hsame
    have hopens (path : List String)
        (hmakes : env.Makes same (missing ++ [databasePath root, objectsPath root]) path) :
        env.OpenMakes same root path := ⟨missing, hempty, hresolved, hfind, hmakes⟩
    cases hdescends with
    | nil =>
        refine .pure ⟨⟨inode, hpending, hbase, Or.inr ?_, hsettles.linkFree⟩, hopens⟩
        rcases hnew with hgone | ⟨found, hfound, hnone⟩
        · rw [pathExists_of_directoryAt hbase] at hgone
          cases hgone
        · obtain rfl := Option.some.inj (hbase.symm.trans hfound)
          exact hnone
    | @cons name base rest hrest =>
        have hgone := hmissing (name :: base) (by simp)
        have hsyncs (path : List String) (hpath : path ∈ (name :: base) :: rest)
            (hmakes : env.Makes same
              ((name :: base) :: rest ++ [databasePath root, objectsPath root]) path) :
            env.SyncsParent path :=
          hsettles.synced path ((Descends.cons hrest).within hpath) (hopens path hmakes)
        -- The first missing component has no entry but perhaps a dangling link.
        have hfirst (entry : DirectoryEntry)
            (hentry : same.tree.lookup inode name = some entry) : entry.target = none := by
          rw [pathExists, entryAt_cons hbase, hentry] at hgone
          obtain rfl : entry = .link none := by simpa using hgone
          rfl
        have hcomponent := leads_makeComponent (hrest.suffix.subset (by simp)) hpending hbase
          (fun hmakes => hsettles.parent name base hrest.suffix (hopens _ hmakes))
          (hsyncs _ (by simp)) (Or.inr (fun entry hentry => Or.inr (hfirst entry hentry)))
          hsettles.linkFree
        have hcreates : Leads same (createMissing env ((name :: base) :: rest))
            (fun _ after => ∃ made, Making root after root made)
            (fun _ after => after.tree.pending = []) := by
          refine .bind hcomponent.traced ?_
          rintro _ after ⟨hexec, made, hmade⟩
          have hlater (path : List String) (hpath : path ∈ rest)
              (hmakes : env.Makes after (rest ++ [databasePath root, objectsPath root]) path) :
              env.SyncsParent path :=
            hsyncs path (List.mem_cons_of_mem _ hpath) (.later hexec hmakes)
          exact leads_createMissing hrest hmade hlater
        refine hcreates.traced.imp ?_ (fun _ _ h => h)
        rintro _ last ⟨hexec, found, hfound⟩
        refine ⟨⟨found, hfound.pending, hfound.here, hfound.empty, hfound.linkFree⟩, ?_⟩
        intro path hmakes
        exact hopens path (.append hexec hmakes)

end Making

/-! ### The directories of the store -/

/-- The store has a `db` directory without a database: no attempt gets past that. -/
def Stuck (root : List String) (disk : StorageDisk) : Prop :=
  ∃ inode database, disk.tree.directoryAt root = some inode ∧
    disk.tree.lookup inode "db" = some (.directory database) ∧ disk.families database = []

/-- Between two attempts. -/
def LinkedOrStuck (root : List String) (disk : StorageDisk) : Prop :=
  disk.tree.pending = [] ∨ Stuck root disk

section Children

variable {env : OpenEnv} {disk : StorageDisk} {root : List String} {name : String} {inode : Nat}

theorem joinPath_cons (root : List String) (name : String) :
    ∃ parent, joinPath root name = name :: parent ∧ parent <:+ root ∧
      ∀ tree : DirectoryTree, tree.directoryAt parent = tree.directoryAt root := by
  unfold joinPath
  split
  · rename_i rest
    refine ⟨rest, rfl, List.suffix_cons _ _, ?_⟩
    intro tree
    rw [directoryAt]
    cases tree.directoryAt rest with
    | none => rfl
    | some inode => rfl
  · exact ⟨root, rfl, List.suffix_refl _, fun _ => rfl⟩

theorem Stuck.extends {later : StorageDisk} (h : Stuck root disk)
    (hextends : Extends disk.tree later.tree) (hfamilies : later.families = disk.families) :
    Stuck root later := by
  obtain ⟨inode, database, hroot, hdatabase, hnone⟩ := h
  refine ⟨inode, database, hextends.directoryAt hroot, ?_, ?_⟩
  · exact hextends.lookup inode (directoryAt_lt hroot) "db" _ hdatabase
  · rw [hfamilies]
    exact hnone

/-- `db` and `objects`: the directory is there, or it is made and its parent synced.
An attempt that ends between the two must leave a store that is stuck. -/
theorem leads_createChild (hpending : disk.tree.pending = [])
    (hroot : disk.tree.directoryAt root = some inode)
    (hcut : disk.tree.lookup inode name = none →
      env.Makes disk [joinPath root name] (joinPath root name) →
      Stuck root (disk.makeDirectory inode name) ∨
        env.SyncsParent (joinPath root name) ∧
          ∀ target, disk.tree.entryAt (joinPath root name).tail ≠ some (.link target)) :
    Leads disk (createDirectoryAndSyncParent env (joinPath root name))
      (fun _ after => after.tree.pending = [] ∧
        (after = disk ∧ disk.tree.lookup inode name ≠ none ∨
          disk.tree.lookup inode name = none ∧
          Extends (disk.makeDirectory inode name).tree after.tree ∧
          after.families = disk.families))
      (fun _ after => LinkedOrStuck root after) := by
  obtain ⟨parent, hjoin, _, hparent⟩ := joinPath_cons root name
  have hhere : disk.tree.directoryAt parent = some inode := (hparent disk.tree).trans hroot
  refine leads_createDirectoryAndSyncParent (fun _ => Or.inl hpending) ?_ ?_
  · intro found hfound
    refine ⟨hpending, Or.inl ⟨rfl, ?_⟩⟩
    rw [hjoin, directoryAt_cons hhere] at hfound
    intro hnone
    rw [hnone] at hfound
    cases hfound
  · rintro holder other above hpath hholder hfree hdone hcreated
    obtain ⟨rfl, rfl⟩ : other = name ∧ above = parent := by
      have hsame := hpath.symm.trans hjoin
      simpa using hsame
    obtain rfl := Option.some.inj (hhere.symm.trans hholder)
    have hlt := directoryAt_lt hhere
    have hextends := Extends.makeDirectory hlt hfree
    have hsettled : ((disk.tree.makeDirectory inode other).sync inode).pending = [] :=
      sync_makeDirectory_pending hlt hpending
    have hmade : (disk.makeDirectory inode other).tree.directoryAt (joinPath root other).tail =
        some inode := by
      rw [hjoin]
      exact hextends.directoryAt hhere
    rcases hcut hfree (.here hdone hcreated) with hstuck | ⟨⟨hopen, hsync⟩, hunlinked⟩
    · refine (leads_syncDirectory env _ _).imp ?_ ?_
      · rintro _ _ ⟨found, hfound, rfl⟩
        obtain rfl := Option.some.inj (hmade.symm.trans hfound)
        exact ⟨hsettled, Or.inr ⟨hfree, Extends.sync _ _, rfl⟩⟩
      · rintro _ _ (rfl | ⟨found, rfl⟩)
        · exact Or.inr hstuck
        · exact Or.inr (hstuck.extends (Extends.sync _ _) rfl)
    · have hentry : (disk.makeDirectory inode other).tree.entryAt (joinPath root other).tail =
          some (.directory inode) := by
        refine hextends.entryAt (entryAt_directory ?_ hunlinked)
        rw [hjoin]
        exact hhere
      refine (leads_syncDirectory_done hopen hsync hentry).imp ?_ ?_
      · rintro _ _ rfl
        exact ⟨hsettled, Or.inr ⟨hfree, Extends.sync _ _, rfl⟩⟩
      · rintro _ _ rfl
        exact Or.inl hsettled

theorem stuck_makeDirectory (hroot : disk.tree.directoryAt root = some inode)
    (hfree : disk.tree.lookup inode "db" = none) : Stuck root (disk.makeDirectory inode "db") := by
  have hlt := directoryAt_lt hroot
  refine ⟨inode, disk.tree.nextInode, (Extends.makeDirectory hlt hfree).directoryAt hroot,
    lookup_makeDirectory_self hlt hfree, ?_⟩
  exact disk.unused _ (Nat.le_refl _)

theorem leads_createStorageDirectories (hpending : disk.tree.pending = [])
    (hsettles : env.Settles disk root)
    (hempty : (isEmptyDirectory env root).exec disk = (.ok true, disk))
    (hnew : disk.tree.pathExists root = false ∨
      ∃ inode, disk.tree.directoryAt root = some inode ∧ disk.tree.entries inode = []) :
    Leads disk (createStorageDirectories env root) (fun _ after => after.tree.pending = [])
      (fun _ after => LinkedOrStuck root after) := by
  unfold createStorageDirectories
  refine leads_call (fun _ => Or.inl hpending) ?_
  intro error hresolved
  cases error with
  | some _ => exact .halt (Or.inl hpending)
  | none =>
      refine .bind ((leads_createDirectoryTreeDurably hpending hsettles hempty (hresolved rfl)
        hnew).imp (fun _ _ h => h) (fun _ _ h => Or.inl h)) ?_
      rintro _ ready ⟨⟨inode, hready⟩, hopens⟩
      refine .bind (leads_createChild hready.pending hready.here
        (fun hfree _ => Or.inl (stuck_makeDirectory hready.here hfree))).traced ?_
      rintro _ after ⟨hexec, hafter, hdatabase⟩
      -- Either this attempt made `db`, or the path has a `..` and `db` was there.
      have hcut : Stuck root after ∧ after.tree.directoryAt root = some inode ∨
          ".." ∈ root ∧ after = ready := by
        rcases hdatabase with ⟨hsame, htaken⟩ | ⟨hfree, hextends, hfamilies⟩
        · refine Or.inr ⟨hready.empty.resolve_right ?_, hsame⟩
          intro hempty
          apply htaken
          rw [DirectoryTree.lookup, if_neg (by decide), if_neg (by decide), hempty]
          rfl
        · have hmade := Extends.makeDirectory (directoryAt_lt hready.here) hfree
          exact Or.inl ⟨(stuck_makeDirectory hready.here hfree).extends hextends hfamilies,
            hextends.directoryAt (hmade.directoryAt hready.here)⟩
      rcases hcut with ⟨hstuck, hroot⟩ | ⟨hdotted, rfl⟩
      · refine (leads_createChild hafter hroot ?_).imp (fun _ _ h => h.1) (fun _ _ h => h)
        intro hfree _
        exact Or.inl (hstuck.extends (Extends.makeDirectory (directoryAt_lt hroot) hfree) rfl)
      · refine (leads_createChild hafter hready.here ?_).imp (fun _ _ h => h.1) (fun _ _ h => h)
        intro _ hmakes
        refine Or.inr ⟨hsettles.objects hdotted (hopens _ (.later hexec hmakes)), ?_⟩
        obtain ⟨parent, hjoin, hsuffix, _⟩ := joinPath_cons root "objects"
        rw [hjoin, List.tail_cons]
        intro target hlink
        cases parent with
        | nil => cases hlink
        | cons name above =>
            obtain ⟨holder, _, hentry⟩ := Option.bind_eq_some_iff.mp hlink
            exact hready.linkFree hdotted holder name (hsuffix.subset (by simp)) target hentry

end Children

/-! ### Attempts -/

section Attempts

variable {env : OpenEnv} {disk : StorageDisk} {root : List String}

theorem leads_databaseCall (env : OpenEnv) (disk : StorageDisk) (call : DatabaseCall)
    (operation : String) {effect : StorageDisk → StorageDisk}
    (heffect : (effect disk).tree = disk.tree) :
    Leads disk (databaseCall env call operation effect)
      (fun _ after => after.tree = disk.tree) (fun _ after => after.tree = disk.tree) := by
  unfold databaseCall
  cases env.database call with
  | done => exact .update_bind (.pure heffect)
  | failed applied status =>
      cases applied with
      | false => exact .pure rfl
      | true => exact .update_bind (.pure heffect)
  | killed applied =>
      cases applied with
      | false => exact .halt rfl
      | true => exact .update_bind (.halt heffect)

theorem setFamilies_tree (disk : StorageDisk) (path names : List String) :
    (disk.setFamilies path names).tree = disk.tree := by
  unfold StorageDisk.setFamilies
  split
  · rfl
  · rfl

/-- A RocksDB call in a program that has left nothing pending. -/
theorem leads_database {β : Type} {call : DatabaseCall} {operation : String}
    {effect : StorageDisk → StorageDisk} {next : Option Status → OpenIo β}
    {post : β → StorageDisk → Prop} (hpending : disk.tree.pending = [])
    (heffect : (effect disk).tree = disk.tree)
    (hnext : ∀ status after, after.tree.pending = [] →
      Leads after (next status) post (fun _ after => LinkedOrStuck root after)) :
    Leads disk (databaseCall env call operation effect >>= next) post
      (fun _ after => LinkedOrStuck root after) := by
  refine .bind ((leads_databaseCall env disk call operation heffect).imp (fun _ _ h => h) ?_) ?_
  · intro _ after htree
    exact Or.inl (by rw [htree, hpending])
  · intro status after htree
    exact hnext status after (by rw [htree, hpending])

theorem leads_initializeNewRoot (hpending : disk.tree.pending = [])
    (hsettles : env.Settles disk root)
    (hempty : (isEmptyDirectory env root).exec disk = (.ok true, disk))
    (hnew : disk.tree.pathExists root = false ∨
      ∃ inode, disk.tree.directoryAt root = some inode ∧ disk.tree.entries inode = []) :
    Leads disk (initializeNewRoot env root) (fun _ after => after.tree.pending = [])
      (fun _ after => LinkedOrStuck root after) := by
  unfold initializeNewRoot
  refine .bind (leads_createStorageDirectories hpending hsettles hempty hnew) ?_
  intro _ made hmade
  refine .observe_bind ?_
  dsimp only
  split
  · exact .halt_bind (Or.inl hmade)
  · refine leads_database hmade (setFamilies_tree _ _ _) ?_
    intro status created hcreated
    cases status with
    | some _ => exact .halt_bind (Or.inl hcreated)
    | none =>
        refine leads_database hcreated (setFamilies_tree _ _ _) ?_
        intro status messages hmessages
        cases status with
        | some _ => exact .halt_bind (Or.inl hmessages)
        | none =>
            refine leads_database hmessages (setFamilies_tree _ _ _) ?_
            intro status objects hobjects
            cases status with
            | some _ => exact .halt_bind (Or.inl hobjects)
            | none =>
                refine leads_database hobjects rfl ?_
                intro initialized written hwritten
                refine leads_database hwritten rfl ?_
                intro objectsStatus first hfirst
                refine leads_database hfirst rfl ?_
                intro messagesStatus second hsecond
                cases initialized with
                | some _ => exact .halt_bind (Or.inl hsecond)
                | none =>
                    cases objectsStatus with
                    | some _ => exact .halt_bind (Or.inl hsecond)
                    | none =>
                        cases messagesStatus with
                        | some _ => exact .halt (Or.inl hsecond)
                        | none => exact .pure hsecond

/-- After the initialization nothing is made, and a `db` without a database is not
opened. -/
theorem leads_openInitialized (env : OpenEnv) (disk : StorageDisk) (root : List String) :
    Leads disk (openInitialized env root)
      (fun _ after => after = disk ∧ disk.familiesAt (databasePath root) ≠ [])
      (fun _ after => after = disk) := by
  unfold openInitialized
  refine .bind (leads_validateStorageRootLayout env disk root) ?_
  rintro _ _ rfl
  have hlist (list : StorageDisk) : Leads list
      (databaseCall env .listColumnFamilies "list storage column families" id)
      (fun _ after => after = list) (fun _ after => after = list) := by
    unfold databaseCall
    cases env.database .listColumnFamilies with
    | done => exact .update_bind (.pure rfl)
    | failed applied status => cases applied <;> exact .pure rfl
    | killed applied => cases applied <;> exact .halt rfl
  refine .bind (hlist _) ?_
  rintro status _ rfl
  cases status with
  | some _ => exact .halt_bind rfl
  | none =>
      refine .observe_bind ?_
      dsimp only
      split
      · exact .halt_bind rfl
      · rename_i hfamilies
        split
        · exact .halt_bind rfl
        · cases env.openExisting with
          | done => exact .pure ⟨rfl, hfamilies⟩
          | failed status => exact .halt rfl
          | killed => exact .halt rfl

/-- An attempt on a store with nothing pending. -/
theorem leads_openRoot {workingDirectory : List String} {path : String}
    (hpending : disk.tree.pending = [])
    (hsettles : env.Settles disk (absolutePath workingDirectory path)) :
    Leads disk (openRoot env workingDirectory path) (fun _ after => after.tree.pending = [])
      (fun _ after => LinkedOrStuck (absolutePath workingDirectory path) after) := by
  have hopen (after : StorageDisk) (hafter : after.tree.pending = []) :
      Leads after (openInitialized env (absolutePath workingDirectory path))
        (fun _ last => last.tree.pending = [])
        (fun _ last => LinkedOrStuck (absolutePath workingDirectory path) last) := by
    refine (leads_openInitialized env after _).imp ?_ ?_
    · rintro _ _ ⟨rfl, _⟩
      exact hafter
    · rintro _ _ rfl
      exact Or.inl hafter
  unfold openRoot
  dsimp only
  split
  · exact .halt_bind (Or.inl hpending)
  · refine .bind ((leads_isEmptyDirectory env disk _).traced.imp (fun _ _ h => h) ?_) ?_
    · rintro _ _ rfl
      exact Or.inl hpending
    · rintro isNew same ⟨hexec, hsame, hnew⟩
      subst hsame
      cases isNew with
      | false => exact hopen same hpending
      | true =>
          refine .bind (leads_initializeNewRoot hpending hsettles hexec (hnew rfl)) ?_
          intro _ after hafter
          exact hopen after hafter

/-- An attempt on a store that is stuck changes nothing and never succeeds. -/
theorem Stuck.leads_openRoot {workingDirectory : List String} {path : String}
    (h : Stuck (absolutePath workingDirectory path) disk) :
    Leads disk (openRoot env workingDirectory path) (fun _ _ => False)
      (fun _ after => after = disk) := by
  obtain ⟨inode, database, hroot, hdatabase, hnone⟩ := h
  unfold openRoot
  dsimp only
  split
  · exact .halt_bind rfl
  · refine .bind (leads_isEmptyDirectory env disk _) ?_
    rintro isNew same ⟨hsame, hnew⟩
    subst hsame
    cases isNew with
    | true =>
        rcases hnew rfl with hgone | ⟨found, hfound, hempty⟩
        · rw [pathExists_of_directoryAt hroot] at hgone
          cases hgone
        · obtain rfl := Option.some.inj (hroot.symm.trans hfound)
          rw [DirectoryTree.lookup, if_neg (by decide), if_neg (by decide), hempty] at hdatabase
          cases hdatabase
    | false =>
        refine (leads_openInitialized env same _).imp ?_ (fun _ _ h => h)
        rintro _ _ ⟨_, hfamilies⟩
        apply hfamilies
        obtain ⟨parent, hjoin, _, hparent⟩ := joinPath_cons (absolutePath workingDirectory path) "db"
        have hpath : same.tree.directoryAt (databasePath (absolutePath workingDirectory path)) =
            some database := by
          rw [databasePath, hjoin, directoryAt_cons ((hparent same.tree).trans hroot), hdatabase]
          rfl
        rw [StorageDisk.familiesAt, hpath]
        exact hnone

/-- The disks that attempts on a path lead to, each of which leaves nothing
unsynced above the store's own directories. -/
inductive SettledAttempts (workingDirectory : List String) (path : String) (disk : StorageDisk) :
    StorageDisk → Prop
  | none : SettledAttempts workingDirectory path disk disk
  | attempt {before : StorageDisk} {env : OpenEnv} :
      SettledAttempts workingDirectory path disk before →
      env.Settles before (absolutePath workingDirectory path) →
      SettledAttempts workingDirectory path disk
        ((openRoot env workingDirectory path).exec before).2

theorem SettledAttempts.settled {workingDirectory : List String} {path : String}
    {after : StorageDisk} (h : SettledAttempts workingDirectory path disk after)
    (hstart : disk.tree.pending = []) : LinkedOrStuck (absolutePath workingDirectory path) after := by
  induction h with
  | none => exact Or.inl hstart
  | @attempt before env _ hsettles ih =>
      rcases hresult : (openRoot env workingDirectory path).exec before with ⟨outcome, last⟩
      rcases ih with hpending | hstuck
      · have hleads := OpenEvent.leads_openRoot hpending hsettles
        cases outcome with
        | ok _ => exact Or.inl (hleads.returns hresult)
        | error _ => exact hleads.stops hresult
      · have hleads : Leads before (openRoot env workingDirectory path) (fun _ _ => False)
            (fun _ last => last = before) := hstuck.leads_openRoot
        cases outcome with
        | ok _ => exact (hleads.returns hresult).elim
        | error _ => exact Or.inr ((hleads.stops hresult) ▸ hstuck)

/-- A store is durably linked when an attempt returns it, provided that no attempt on its path has
ended between making a directory above `db` and `objects` and syncing that directory's parent. -/
theorem settled_attempts_link_the_store {workingDirectory : List String} {path : String}
    {before : StorageDisk} (hstart : disk.tree.pending = [])
    (hattempts : SettledAttempts workingDirectory path disk before)
    (hsettles : env.Settles before (absolutePath workingDirectory path)) {after : StorageDisk}
    (hok : (openRoot env workingDirectory path).exec before = (.ok (), after)) :
    after.tree.pending = [] := by
  rcases hattempts.settled hstart with hpending | hstuck
  · exact (OpenEvent.leads_openRoot hpending hsettles).returns hok
  · exact (hstuck.leads_openRoot.returns hok).elim

end Attempts

namespace Reference

/-- A disk with nothing but an empty directory `/data`. -/
def emptyDisk : StorageDisk :=
  ⟨(DirectoryTree.bare.makeDirectory 0 "data").sync 0, fun _ => [], fun _ _ => rfl⟩

/-- Everything succeeds but one call. -/
def openingExcept (call : OpenCall) (outcome : StepOutcome Errno) : OpenEnv where
  calls other := if other = call then outcome else .done
  database _ := .done
  missingDatabase := ⟨false, "IO error: No such file or directory", ""⟩
  unopenedFamilies := ⟨false, "Invalid argument: Column families not opened", ""⟩
  openExisting := .done

/-- `fsync` of `/data` fails after `/data/a` has been made. -/
def unsyncedAncestor : OpenEnv :=
  openingExcept (.syncParent ["a", "data"]) (.failed (.other "Input/output error"))

/-- The process is killed when `/data/a` has been made and `/data` synced. -/
def killedAfterSync : OpenEnv := openingExcept (.closeParent ["a", "data"]) .killed

def undisturbed : OpenEnv := openingExcept .resolveRoot .done

/-- The attempt that failed made `/data/a`, which the next one finds and takes for certain. -/
theorem interrupted_attempt_stays_unsynced :
    emptyDisk.tree.pending = [] ∧
      ∃ after, (openRoot undisturbed [] "/data/a/b").exec
          ((openRoot unsyncedAncestor [] "/data/a/b").exec emptyDisk).2 = (.ok (), after) ∧
        (1, "a") ∈ after.tree.pending := by
  have hok : ((openRoot undisturbed [] "/data/a/b").exec
      ((openRoot unsyncedAncestor [] "/data/a/b").exec emptyDisk).2).1.isOk = true := by
    decide +kernel
  have hpending : (1, "a") ∈ ((openRoot undisturbed [] "/data/a/b").exec
      ((openRoot unsyncedAncestor [] "/data/a/b").exec emptyDisk).2).2.tree.pending := by
    decide +kernel
  refine ⟨by decide +kernel, ?_⟩
  revert hok hpending
  generalize (openRoot undisturbed [] "/data/a/b").exec
    ((openRoot unsyncedAncestor [] "/data/a/b").exec emptyDisk).2 = result
  obtain ⟨outcome, after⟩ := result
  intro hok hpending
  cases outcome with
  | error _ => cases hok
  | ok _ => exact ⟨after, rfl, hpending⟩

theorem settles_without_links {env : OpenEnv} {disk : StorageDisk} {root : List String}
    (hcalls : ∀ path, env.SyncsParent path) (hdots : ".." ∉ root)
    (hlinks : ∀ path ∈ root.tails, ((disk.tree.entryAt path).any (fun entry =>
      match entry with
      | .link _ => true
      | _ => false)) = false) : env.Settles disk root where
  synced path _ _ := hcalls path
  parent name parent hsuffix _ target hlink := by
    have hwithin : parent <:+ root := (List.suffix_cons name parent).trans hsuffix
    have hno := hlinks parent ((List.mem_tails _ _).mpr hwithin)
    rw [hlink] at hno
    cases hno
  objects _ _ := hcalls _
  linkFree hdotted := absurd hdotted hdots

theorem killed_attempt_then_linked_store :
    ∃ before after, SettledAttempts [] "/data/a/b" emptyDisk before ∧
      before.tree.directoryAt ["a", "data"] ≠ none ∧
      (openRoot undisturbed [] "/data/a/b").exec before = (.ok (), after) ∧
      after.tree.pending = [] := by
  have hfirst : killedAfterSync.Settles emptyDisk (absolutePath [] "/data/a/b") :=
    settles_without_links (fun _ => ⟨rfl, rfl⟩) (by decide +kernel) (by decide +kernel)
  have hsecond : undisturbed.Settles ((openRoot killedAfterSync [] "/data/a/b").exec emptyDisk).2
      (absolutePath [] "/data/a/b") :=
    settles_without_links (fun _ => ⟨rfl, rfl⟩) (by decide +kernel) (by decide +kernel)
  have hmade : ((openRoot killedAfterSync [] "/data/a/b").exec emptyDisk).2.tree.directoryAt
      ["a", "data"] ≠ none := by
    decide +kernel
  have hok : ((openRoot undisturbed [] "/data/a/b").exec
      ((openRoot killedAfterSync [] "/data/a/b").exec emptyDisk).2).1.isOk = true := by
    decide +kernel
  have hattempts := SettledAttempts.attempt .none hfirst
  revert hattempts hsecond hmade hok
  generalize ((openRoot killedAfterSync [] "/data/a/b").exec emptyDisk).2 = before
  intro hsecond hmade hok hattempts
  rcases hresult : (openRoot undisturbed [] "/data/a/b").exec before with ⟨outcome, after⟩
  rw [hresult] at hok
  cases outcome with
  | error _ => cases hok
  | ok _ =>
      exact ⟨before, after, hattempts, hmade, hresult,
        settled_attempts_link_the_store (by decide +kernel) hattempts hsecond hresult⟩

end Reference

end OpenEvent
