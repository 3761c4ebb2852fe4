import Mathlib.Data.List.Sort
import Mathlib.Order.Lex
import Mathlib.Data.List.Lex
import Mathlib.Tactic

/-!
A finite map kept as a strictly ascending list of entries: the observable
behaviour of an ordered key-value table with point reads, writes, deletions
and iterators that start at a key. Ascending order is a field of the map, so
two maps with the same reads are the same map.
-/

structure SortedMap (K V : Type*) [LinearOrder K] where
  entries : List (K × V)
  ascending : entries.Pairwise (fun a b => a.1 < b.1)

namespace SortedMap

variable {K V : Type*} [LinearOrder K]

/-- Insertion into an ascending entry list, replacing an equal key. -/
def insertEntry (key : K) (value : V) : List (K × V) → List (K × V)
  | [] => [(key, value)]
  | entry :: rest =>
      if key < entry.1 then (key, value) :: entry :: rest
      else if key = entry.1 then (key, value) :: rest
      else entry :: insertEntry key value rest

theorem mem_insertEntry {key : K} {value : V} {list : List (K × V)}
    {entry : K × V} (member : entry ∈ insertEntry key value list) :
    entry = (key, value) ∨ entry ∈ list := by
  induction list with
  | nil => simpa [insertEntry] using member
  | cons head rest ih =>
      unfold insertEntry at member
      split_ifs at member with hlt heq
      · simpa using member
      · rcases List.mem_cons.mp member with h | h
        · exact Or.inl h
        · exact Or.inr (List.mem_cons_of_mem _ h)
      · rcases List.mem_cons.mp member with h | h
        · exact Or.inr (by simp [h])
        · rcases ih h with h | h
          · exact Or.inl h
          · exact Or.inr (List.mem_cons_of_mem _ h)

theorem insertEntry_ascending (key : K) (value : V) {list : List (K × V)}
    (h : list.Pairwise (fun a b => a.1 < b.1)) :
    (insertEntry key value list).Pairwise (fun a b => a.1 < b.1) := by
  induction list with
  | nil => simp [insertEntry]
  | cons head rest ih =>
      have hrest := List.pairwise_cons.mp h
      unfold insertEntry
      split_ifs with hlt heq
      · refine List.pairwise_cons.mpr ⟨?_, h⟩
        intro entry member
        rcases List.mem_cons.mp member with rfl | member
        · exact hlt
        · exact hlt.trans (hrest.1 entry member)
      · refine List.pairwise_cons.mpr ⟨?_, hrest.2⟩
        intro entry member
        simpa [heq] using hrest.1 entry member
      · refine List.pairwise_cons.mpr ⟨?_, ih hrest.2⟩
        intro entry member
        rcases mem_insertEntry member with rfl | member
        · exact lt_of_le_of_ne (not_lt.mp hlt) (Ne.symm heq)
        · exact hrest.1 entry member

def empty : SortedMap K V := ⟨[], List.Pairwise.nil⟩

def get (map : SortedMap K V) (key : K) : Option V :=
  (map.entries.find? (fun entry => entry.1 = key)).map Prod.snd

def put (map : SortedMap K V) (key : K) (value : V) : SortedMap K V :=
  ⟨insertEntry key value map.entries, insertEntry_ascending key value map.ascending⟩

def erase (map : SortedMap K V) (key : K) : SortedMap K V :=
  ⟨map.entries.filter (fun entry => entry.1 ≠ key), map.ascending.filter _⟩

/-- The entries an iterator visits after seeking to `key`. -/
def seek (map : SortedMap K V) (key : K) : List (K × V) :=
  map.entries.filter (fun entry => key ≤ entry.1)

theorem get_eq_some_iff (map : SortedMap K V) (key : K) (value : V) :
    map.get key = some value ↔ (key, value) ∈ map.entries := by
  obtain ⟨entries, ascending⟩ := map
  simp only [get]
  induction entries with
  | nil => simp
  | cons head rest ih =>
      have hrest := List.pairwise_cons.mp ascending
      rw [List.find?_cons, List.mem_cons]
      by_cases hkey : head.1 = key
      · have habsent : (key, value) ∉ rest := by
          intro member
          have := hrest.1 _ member
          simp [hkey] at this
        simp only [hkey, decide_true, Option.map_some, Option.some.injEq, habsent, or_false]
        constructor
        · intro h
          rw [← hkey, ← h]
        · intro h
          rw [← h]
      · have hne : (key, value) ≠ head := by
          rintro rfl
          exact hkey rfl
        simpa [hkey, hne] using ih hrest.2

/-- Ascending entry lists with the same members are equal. -/
theorem ascending_ext {left right : List (K × V)} (hleft : left.Pairwise (fun a b => a.1 < b.1))
    (hright : right.Pairwise (fun a b => a.1 < b.1))
    (hmem : ∀ entry, entry ∈ left ↔ entry ∈ right) : left = right := by
  have hnodup {list : List (K × V)} (h : list.Pairwise (fun a b => a.1 < b.1)) : list.Nodup :=
    h.imp (fun hlt heq => by simp [heq] at hlt)
  have hperm : left.Perm right :=
    (List.perm_ext_iff_of_nodup (hnodup hleft) (hnodup hright)).mpr hmem
  exact hperm.eq_of_pairwise (fun _ _ _ _ h₁ h₂ => absurd h₁ h₂.asymm) hleft hright

theorem eq_of_entries {left right : SortedMap K V} (h : left.entries = right.entries) :
    left = right := by
  cases left
  cases right
  simpa using h

@[ext]
theorem ext {left right : SortedMap K V} (h : ∀ key, left.get key = right.get key) :
    left = right := by
  apply eq_of_entries
  apply ascending_ext left.ascending right.ascending
  intro entry
  rw [← get_eq_some_iff, ← get_eq_some_iff, h]

@[simp]
theorem get_empty (key : K) : (empty : SortedMap K V).get key = none := rfl

private theorem mem_insertEntry_iff (key : K) (value : V) {list : List (K × V)}
    (h : list.Pairwise (fun a b => a.1 < b.1)) (entry : K × V) :
    entry ∈ insertEntry key value list ↔
      entry = (key, value) ∨ (entry ∈ list ∧ entry.1 ≠ key) := by
  induction list with
  | nil => simp [insertEntry]
  | cons head rest ih =>
      have hrest := List.pairwise_cons.mp h
      unfold insertEntry
      split_ifs with hlt heq
      · have hne : ∀ other ∈ head :: rest, other.1 ≠ key := by
          intro other member
          rcases List.mem_cons.mp member with rfl | member
          · exact hlt.ne'
          · exact (hlt.trans (hrest.1 other member)).ne'
        rw [List.mem_cons]
        exact or_congr_right ⟨fun m => ⟨m, hne entry m⟩, And.left⟩
      · have hne : ∀ other ∈ rest, other.1 ≠ key := by
          intro other member
          rw [heq]
          exact (hrest.1 other member).ne'
        rw [List.mem_cons, List.mem_cons]
        apply or_congr_right
        constructor
        · exact fun m => ⟨Or.inr m, hne entry m⟩
        · rintro ⟨rfl | m, hkey⟩
          · exact absurd heq.symm hkey
          · exact m
      · rw [List.mem_cons, List.mem_cons, ih hrest.2]
        have hhead : head.1 ≠ key := Ne.symm heq
        constructor
        · rintro (rfl | rfl | ⟨m, hkey⟩)
          · exact Or.inr ⟨Or.inl rfl, hhead⟩
          · exact Or.inl rfl
          · exact Or.inr ⟨Or.inr m, hkey⟩
        · rintro (rfl | ⟨rfl | m, hkey⟩)
          · exact Or.inr (Or.inl rfl)
          · exact Or.inl rfl
          · exact Or.inr (Or.inr ⟨m, hkey⟩)

theorem get_put (map : SortedMap K V) (key other : K) (value : V) :
    (map.put key value).get other = if other = key then some value else map.get other := by
  apply Option.ext
  intro found
  rw [get_eq_some_iff, put, mem_insertEntry_iff key value map.ascending]
  split_ifs with heq
  · simp [heq, eq_comm]
  · simp [heq, get_eq_some_iff]

@[simp]
theorem get_put_self (map : SortedMap K V) (key : K) (value : V) :
    (map.put key value).get key = some value := by
  simp [get_put]

theorem get_put_of_ne (map : SortedMap K V) {key other : K} (value : V) (h : other ≠ key) :
    (map.put key value).get other = map.get other := by
  simp [get_put, h]

theorem get_erase (map : SortedMap K V) (key other : K) :
    (map.erase key).get other = if other = key then none else map.get other := by
  apply Option.ext
  intro found
  rw [get_eq_some_iff, erase, List.mem_filter, ← get_eq_some_iff]
  split_ifs with heq
  · simp [heq]
  · simp [heq]

theorem get_foldl_erase (map : SortedMap K V) (keys : List K) (other : K) :
    (keys.foldl erase map).get other = if other ∈ keys then none else map.get other := by
  induction keys generalizing map with
  | nil => simp
  | cons first rest ih =>
      rw [List.foldl_cons, ih, get_erase]
      by_cases hrest : other ∈ rest
      · simp [hrest]
      · by_cases hfirst : other = first
        · simp [hfirst]
        · simp [hrest, hfirst]

theorem mem_seek (map : SortedMap K V) (start key : K) (value : V) :
    (key, value) ∈ map.seek start ↔ start ≤ key ∧ map.get key = some value := by
  rw [seek, List.mem_filter, get_eq_some_iff]
  simp [and_comm]

theorem seek_ascending (map : SortedMap K V) (start : K) :
    (map.seek start).Pairwise (fun a b => a.1 < b.1) :=
  map.ascending.filter _

/-- The first entry that an iterator visits, and the ones after it. -/
theorem seek_cons (map : SortedMap K V) {key next : K} {value : V}
    (hget : map.get key = some value) (hlt : key < next)
    (hnext : ∀ other, map.get other ≠ none → key < other → next ≤ other) :
    map.seek key = (key, value) :: map.seek next := by
  apply ascending_ext (map.seek_ascending key)
  · refine List.pairwise_cons.mpr ⟨?_, map.seek_ascending next⟩
    rintro ⟨other, found⟩ hmember
    exact lt_of_lt_of_le hlt ((map.mem_seek next other found).mp hmember).1
  · rintro ⟨other, found⟩
    rw [List.mem_cons, map.mem_seek, map.mem_seek, Prod.mk.injEq]
    constructor
    · rintro ⟨hle, hfound⟩
      rcases lt_or_eq_of_le hle with hgreater | rfl
      · exact Or.inr ⟨hnext other (by simp [hfound]) hgreater, hfound⟩
      · exact Or.inl ⟨rfl, Option.some.inj (hfound.symm.trans hget)⟩
    · rintro (⟨rfl, rfl⟩ | ⟨hle, hfound⟩)
      · exact ⟨le_rfl, hget⟩
      · exact ⟨(lt_of_lt_of_le hlt hle).le, hfound⟩

theorem seek_eq_nil (map : SortedMap K V) {start : K}
    (h : ∀ key, map.get key ≠ none → key < start) : map.seek start = [] := by
  rw [List.eq_nil_iff_forall_not_mem]
  rintro ⟨key, value⟩ hmember
  obtain ⟨hle, hget⟩ := (map.mem_seek start key value).mp hmember
  exact absurd (h key (by simp [hget])) (not_lt.mpr hle)

/-- Ascending lists with the same keys correspond entry by entry. -/
theorem ascending_forall₂ {left right : List (K × V)} {R : K → V → V → Prop}
    (hleft : left.Pairwise (fun a b => a.1 < b.1)) (hright : right.Pairwise (fun a b => a.1 < b.1))
    (hmatch : ∀ key value, (key, value) ∈ left → ∃ other, (key, other) ∈ right ∧ R key value other)
    (hback : ∀ key other, (key, other) ∈ right → ∃ value, (key, value) ∈ left) :
    List.Forall₂ (fun a b => a.1 = b.1 ∧ R a.1 a.2 b.2) left right := by
  induction left generalizing right with
  | nil =>
      cases right with
      | nil => exact .nil
      | cons head rest =>
          obtain ⟨_, hmember⟩ := hback head.1 head.2 (by simp)
          cases hmember
  | cons first rest ih =>
      obtain ⟨hafter, hrest⟩ := List.pairwise_cons.mp hleft
      obtain ⟨other, hother, hrelated⟩ := hmatch first.1 first.2 (by simp)
      cases right with
      | nil => cases hother
      | cons head tail =>
          obtain ⟨hbehind, htail⟩ := List.pairwise_cons.mp hright
          -- Each list starts with its least key, and the least keys are the same.
          have hkey : first.1 = head.1 := by
            obtain ⟨value, hvalue⟩ := hback head.1 head.2 (by simp)
            rcases List.mem_cons.mp hother with rfl | hlater
            · rfl
            · rcases List.mem_cons.mp hvalue with rfl | hafterwards
              · rfl
              · exact absurd (hafter _ hafterwards) (hbehind _ hlater).asymm
          have hvalue : other = head.2 := by
            rcases List.mem_cons.mp hother with rfl | hlater
            · rfl
            · exact absurd hkey.symm (hbehind _ hlater).ne
          refine .cons ⟨hkey, hvalue ▸ hrelated⟩ (ih hrest htail ?_ ?_)
          · intro key value hmember
            obtain ⟨found, hfound, hagrees⟩ := hmatch key value (List.mem_cons_of_mem _ hmember)
            rcases List.mem_cons.mp hfound with heq | hlater
            · have hsame : key = head.1 := congrArg Prod.fst heq
              exact absurd (hkey.trans hsame.symm) (hafter _ hmember).ne
            · exact ⟨found, hlater, hagrees⟩
          · intro key found hmember
            obtain ⟨value, hvalue⟩ := hback key found (List.mem_cons_of_mem _ hmember)
            rcases List.mem_cons.mp hvalue with heq | hlater
            · have hsame : key = first.1 := congrArg Prod.fst heq
              exact absurd (hkey.symm.trans hsame.symm) (hbehind _ hmember).ne
            · exact ⟨value, hlater⟩

/-- Two maps with the same keys of a kind are iterated over in step, as far as
that kind goes. -/
theorem seek_filter_forall₂ {left right : SortedMap K V} {R : K → V → V → Prop} {kind : K → Bool}
    (h : ∀ key, kind key = true → Option.Rel (R key) (left.get key) (right.get key)) (start : K) :
    List.Forall₂ (fun a b => a.1 = b.1 ∧ R a.1 a.2 b.2)
      ((left.seek start).filter (fun entry => kind entry.1))
      ((right.seek start).filter (fun entry => kind entry.1)) := by
  apply ascending_forall₂ ((left.seek_ascending start).filter _)
    ((right.seek_ascending start).filter _)
  · intro key value hmember
    obtain ⟨hfound, hkind⟩ := List.mem_filter.mp hmember
    obtain ⟨hle, hget⟩ := (left.mem_seek start key value).mp hfound
    have hrelated := h key hkind
    rw [hget] at hrelated
    cases hother : right.get key with
    | none =>
        rw [hother] at hrelated
        cases hrelated
    | some other =>
        rw [hother] at hrelated
        cases hrelated with
        | some hagrees =>
            have hseek := (right.mem_seek start key other).mpr ⟨hle, hother⟩
            exact ⟨other, List.mem_filter.mpr ⟨hseek, hkind⟩, hagrees⟩
  · intro key other hmember
    obtain ⟨hfound, hkind⟩ := List.mem_filter.mp hmember
    obtain ⟨hle, hget⟩ := (right.mem_seek start key other).mp hfound
    have hrelated := h key hkind
    rw [hget] at hrelated
    cases hvalue : left.get key with
    | none =>
        rw [hvalue] at hrelated
        cases hrelated
    | some value =>
        have hseek := (left.mem_seek start key value).mpr ⟨hle, hvalue⟩
        exact ⟨value, List.mem_filter.mpr ⟨hseek, hkind⟩⟩

theorem seek_forall₂ {left right : SortedMap K V} {R : K → V → V → Prop}
    (h : ∀ key, Option.Rel (R key) (left.get key) (right.get key)) (start : K) :
    List.Forall₂ (fun a b => a.1 = b.1 ∧ R a.1 a.2 b.2) (left.seek start) (right.seek start) := by
  have hall : ∀ key, (fun _ : K => true) key = true →
      Option.Rel (R key) (left.get key) (right.get key) := fun key _ => h key
  simpa using seek_filter_forall₂ hall start

end SortedMap
