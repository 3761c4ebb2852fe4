import Mathlib.Tactic

/-!
The part of a list between two positions.
-/

variable {α : Type*}

def slice (list : List α) (start stop : Nat) : List α := (list.take stop).drop start

namespace slice

variable {list : List α} {start middle stop : Nat}

@[simp] theorem self (list : List α) (position : Nat) : slice list position position = [] := by
  simp [slice]

theorem getElem?_of_lt {index : Nat} (hlt : start + index < stop) :
    (slice list start stop)[index]? = list[start + index]? := by
  rw [slice, List.getElem?_drop, List.getElem?_take_of_lt hlt]

theorem length_eq (hstop : stop ≤ list.length) :
    (slice list start stop).length = stop - start := by
  rw [slice, List.length_drop, List.length_take, Nat.min_eq_left hstop]

theorem succ {value : α} (hstart : start ≤ stop) (hat : list[stop]? = some value) :
    slice list start (stop + 1) = slice list start stop ++ [value] := by
  obtain ⟨hlt, rfl⟩ := List.getElem?_eq_some_iff.mp hat
  rw [slice, List.take_add_one, hat, Option.toList_some, List.drop_append_of_le_length, slice]
  rw [List.length_take]
  omega

theorem append (hstart : start ≤ middle) (hmiddle : middle ≤ stop) (hstop : stop ≤ list.length) :
    slice list start middle ++ slice list middle stop = slice list start stop := by
  have htake : list.take stop = list.take middle ++ (list.take stop).drop middle := by
    have hsplit := List.take_append_drop middle (list.take stop)
    rw [List.take_take, min_eq_left hmiddle] at hsplit
    exact hsplit.symm
  rw [slice, slice, slice]
  conv_rhs => rw [htake]
  rw [List.drop_append_of_le_length]
  rw [List.length_take]
  omega

/-- A longer list has the same slices. -/
theorem of_grows {longer : List α} (h : list <+: longer) (hstop : stop ≤ list.length) :
    slice longer start stop = slice list start stop := by
  obtain ⟨rest, rfl⟩ := h
  rw [slice, List.take_append_of_le_length hstop, slice]

end slice
