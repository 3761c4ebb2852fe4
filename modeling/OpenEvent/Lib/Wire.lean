import OpenEvent.Lib.Bytes

/-!
Self-delimiting binary formats: what was written is read back, whatever bytes
follow it. Formats of records are put together from formats of their fields.
-/

structure Wire (α : Type) where
  write : α → Bytes
  read : Bytes → Option (α × Bytes)
  read_write : ∀ value rest, read (write value ++ rest) = some (value, rest)

namespace Wire

variable {α β : Type}

/-- A format for the values that another type has names for. -/
def map (format : Wire α) (name : β → α) (denote : α → β)
    (h : ∀ value, denote (name value) = value) : Wire β where
  write value := format.write (name value)
  read bytes := (format.read bytes).map (fun found => (denote found.1, found.2))
  read_write value rest := by simp [format.read_write, h]

def pair (first : Wire α) (second : Wire β) : Wire (α × β) where
  write value := first.write value.1 ++ second.write value.2
  read bytes := (first.read bytes).bind (fun found =>
    (second.read found.2).map (fun other => ((found.1, other.1), other.2)))
  read_write value rest := by
    rw [List.append_assoc, first.read_write]
    simp [second.read_write]

def byte : Wire UInt8 where
  write value := [value]
  read
    | [] => none
    | value :: rest => some (value, rest)
  read_write _ _ := rfl

/-! ### Lists -/

/-- Each element after the byte 1, and the byte 0 at the end. -/
def writeList (format : Wire α) : List α → Bytes
  | [] => [0]
  | value :: rest => 1 :: (format.write value ++ writeList format rest)

/-- Reads at most `fuel` elements. -/
def readList (format : Wire α) : Nat → Bytes → Option (List α × Bytes)
  | 0, _ => none
  | _ + 1, [] => none
  | fuel + 1, mark :: bytes =>
      if mark = 0 then some ([], bytes)
      else
        (format.read bytes).bind (fun found =>
          (readList format fuel found.2).map (fun others => (found.1 :: others.1, others.2)))

theorem length_le_writeList (format : Wire α) (values : List α) :
    values.length < (writeList format values).length := by
  induction values with
  | nil => simp [writeList]
  | cons value rest ih =>
      simp only [writeList, List.length_cons, List.length_append]
      omega

theorem readList_writeList (format : Wire α) (values : List α) {fuel : Nat} (rest : Bytes)
    (h : values.length < fuel) :
    readList format fuel (writeList format values ++ rest) = some (values, rest) := by
  induction values generalizing fuel with
  | nil =>
      obtain ⟨fuel, rfl⟩ := Nat.exists_eq_succ_of_ne_zero (Nat.ne_zero_of_lt h)
      rfl
  | cons value others ih =>
      obtain ⟨fuel, rfl⟩ := Nat.exists_eq_succ_of_ne_zero (Nat.ne_zero_of_lt h)
      have hothers := ih (Nat.lt_of_succ_lt_succ h)
      simp [writeList, readList, format.read_write, hothers]

def list (format : Wire α) : Wire (List α) where
  write := writeList format
  read bytes := readList format (bytes.length + 1) bytes
  read_write values rest := by
    apply readList_writeList
    have hlength := length_le_writeList format values
    rw [List.length_append]
    omega

/-! ### Derived formats -/

def option (format : Wire α) : Wire (Option α) :=
  format.list.map Option.toList List.head? (by intro value; cases value <;> rfl)

/-- A number in unary. -/
def nat : Wire Nat :=
  byte.list.map (fun value => List.replicate value 1) List.length (fun _ => List.length_replicate)

end Wire
