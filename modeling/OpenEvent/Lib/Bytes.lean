import Mathlib.Data.List.Lex
import Mathlib.Tactic

/-!
Byte strings in lexicographic order, and the fact that strings of one length
are ordered as the numbers they denote in base 256.
-/

abbrev Bytes := List UInt8

instance byteLinearOrder : LinearOrder UInt8 where
  le_refl := UInt8.le_refl
  le_trans _ _ _ := UInt8.le_trans
  le_antisymm _ _ := UInt8.le_antisymm
  le_total := UInt8.le_total
  lt_iff_le_not_ge a b := by
    simp only [UInt8.lt_iff_toNat_lt, UInt8.le_iff_toNat_le]
    omega
  toDecidableLE := inferInstance

namespace Bytes

/-- The UTF-8 bytes of a string. -/
def ofString (text : String) : Bytes := text.toByteArray.data.toList

/-- The number a byte string denotes in base 256, most significant first. -/
def value (bytes : Bytes) : Nat :=
  bytes.foldl (fun acc byte => acc * 256 + byte.toNat) 0

private theorem foldl_value (bytes : Bytes) (start : Nat) :
    bytes.foldl (fun acc byte => acc * 256 + byte.toNat) start =
      start * 256 ^ bytes.length + value bytes := by
  induction bytes generalizing start with
  | nil => simp [value]
  | cons byte rest ih =>
      simp only [value, List.foldl_cons, List.length_cons]
      rw [ih, ih (0 * 256 + byte.toNat)]
      ring

theorem value_cons (byte : UInt8) (rest : Bytes) :
    value (byte :: rest) = byte.toNat * 256 ^ rest.length + value rest := by
  rw [value, List.foldl_cons, foldl_value]
  simp

theorem value_lt (bytes : Bytes) : value bytes < 256 ^ bytes.length := by
  induction bytes with
  | nil => simp [value]
  | cons byte rest ih =>
      rw [value_cons, List.length_cons, pow_succ]
      have hbyte : byte.toNat < 256 := byte.toNat_lt
      nlinarith

theorem lt_iff_value_lt {left right : Bytes} (h : left.length = right.length) :
    left < right ↔ value left < value right := by
  induction left generalizing right with
  | nil =>
      cases right with
      | nil => simp
      | cons _ _ => simp at h
  | cons a as ih =>
      cases right with
      | nil => simp at h
      | cons b bs =>
          have hlen : as.length = bs.length := by simpa using h
          have hleft := value_lt as
          have hright := value_lt bs
          rw [List.cons_lt_cons_iff, ih hlen, value_cons, value_cons, hlen]
          rw [hlen] at hleft
          rw [UInt8.lt_iff_toNat_lt, ← UInt8.toNat_inj]
          generalize 256 ^ bs.length = scale at *
          constructor
          · rintro (hlt | ⟨heq, hlt⟩)
            · nlinarith
            · rw [heq]
              omega
          · intro hlt
            rcases lt_trichotomy a.toNat b.toNat with hab | hab | hab
            · exact Or.inl hab
            · exact Or.inr ⟨hab, by rw [hab] at hlt; omega⟩
            · nlinarith

theorem value_injective {left right : Bytes} (h : left.length = right.length)
    (heq : value left = value right) : left = right := by
  rcases lt_trichotomy left right with hlt | hlt | hlt
  · exact absurd ((lt_iff_value_lt h).mp hlt) (by omega)
  · exact hlt
  · exact absurd ((lt_iff_value_lt h.symm).mp hlt) (by omega)

/-- A common first part does not affect the order. -/
theorem append_lt_append_iff (common left right : Bytes) :
    common ++ left < common ++ right ↔ left < right := by
  induction common with
  | nil => rfl
  | cons byte rest ih => simpa using ih

theorem le_append (first second : Bytes) : first ≤ first ++ second := by
  induction first with
  | nil => exact not_lt.mp (by simp)
  | cons byte rest ih => exact not_lt.mp (by simpa using ih)

/-- What lies between a string and one of its continuations continues it too. -/
theorem continues_of_between {start key later : Bytes} (hle : start ≤ key) (hlt : key < later)
    (hlater : start <+: later) : start <+: key := by
  induction start generalizing key later with
  | nil => exact List.nil_prefix
  | cons first rest ih =>
      obtain ⟨suffix, rfl⟩ := hlater
      cases key with
      | nil => exact absurd (List.nil_lt_cons first rest) (not_lt.mpr hle)
      | cons byte tail =>
          have hbelow := List.cons_lt_cons_iff.mp (by simpa using hlt)
          have habove : ¬ (byte < first ∨ byte = first ∧ tail < rest) :=
            fun hbefore => not_lt.mpr hle (List.cons_lt_cons_iff.mpr hbefore)
          rcases hbelow with hbyte | ⟨rfl, htail⟩
          · exact absurd (Or.inl hbyte) habove
          · have hrest : rest ≤ tail :=
              not_lt.mp (fun hbefore => habove (Or.inr ⟨rfl, hbefore⟩))
            exact (List.prefix_cons_inj byte).mpr (ih hrest htail ⟨suffix, rfl⟩)

end Bytes
