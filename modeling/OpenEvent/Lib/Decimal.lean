import OpenEvent.Lib.Bytes

/-! Unsigned decimal numerals without leading zeros, as byte strings. -/

namespace Bytes

def isDigit (byte : UInt8) : Bool := 0x30 ≤ byte && byte ≤ 0x39

/-- The shortest decimal numeral of a natural number. -/
def decimal (n : Nat) : Bytes :=
  (Nat.toDigits 10 n).map (fun digit => digit.val.toUInt8)

/-- The number a string of decimal digits denotes. -/
def digitsValue (digits : Bytes) : Nat :=
  digits.foldl (fun acc digit => 10 * acc + (digit.toNat - 48)) 0

private theorem toNat_of_isDigit {digit : Char} (h : digit.isDigit) :
    digit.val.toUInt8.toNat = digit.toNat := by
  simp only [Char.isDigit, Bool.and_eq_true, decide_eq_true_eq, UInt32.le_iff_toNat_le] at h
  have hle : digit.val.toNat ≤ 57 := h.2
  simp only [UInt32.toNat_toUInt8, Char.toNat]
  omega

theorem decimal_ne_nil (n : Nat) : decimal n ≠ [] := by
  simp [decimal, Nat.toDigits_ne_nil]

theorem isDigit_of_mem_decimal {n : Nat} {byte : UInt8} (h : byte ∈ decimal n) :
    isDigit byte = true := by
  simp only [decimal, List.mem_map] at h
  obtain ⟨digit, member, rfl⟩ := h
  have hdigit := Nat.isDigit_of_mem_toDigits (by decide) (by decide) member
  have hvalue := toNat_of_isDigit hdigit
  simp only [Char.isDigit, Bool.and_eq_true, decide_eq_true_eq, UInt32.le_iff_toNat_le] at hdigit
  have hlow : 48 ≤ digit.val.toNat := hdigit.1
  have hhigh : digit.val.toNat ≤ 57 := hdigit.2
  simp only [isDigit, Bool.and_eq_true, decide_eq_true_eq, UInt8.le_iff_toNat_le, hvalue]
  exact ⟨hlow, hhigh⟩

theorem digitsValue_decimal (n : Nat) : digitsValue (decimal n) = n := by
  have hfold (digits : List Char) (start : Nat) (h : ∀ digit ∈ digits, digit.isDigit) :
      (digits.map (fun digit => digit.val.toUInt8)).foldl
          (fun acc digit => 10 * acc + (digit.toNat - 48)) start =
        Nat.ofDigitChars 10 digits start := by
    induction digits generalizing start with
    | nil => simp
    | cons digit rest ih =>
        rw [List.map_cons, List.foldl_cons, Nat.ofDigitChars_cons, toNat_of_isDigit (h digit (by simp))]
        exact ih _ (fun other member => h other (List.mem_cons_of_mem _ member))
  rw [digitsValue, decimal, hfold _ 0 (fun digit member =>
    Nat.isDigit_of_mem_toDigits (by decide) (by decide) member)]
  exact Nat.ofDigitChars_ten_toDigits

/-- A numeral of two or more digits does not start with a zero. -/
theorem decimal_head_ne_zero (n : Nat) (h : 1 < (decimal n).length) :
    (decimal n).head? ≠ some 0x30 := by
  have hhead (m : Nat) (hm : 0 < m) : (decimal m).head? ≠ some 0x30 := by
    induction m using Nat.strongRecOn with
    | ind m ih =>
        by_cases hsmall : m < 10
        · rw [decimal, Nat.toDigits_of_lt_base hsmall]
          interval_cases m <;> decide
        · rw [decimal, Nat.toDigits_of_base_le (by decide) (by omega), List.map_append]
          have hrest := ih (m / 10) (by omega) (by omega)
          have hne := decimal_ne_nil (m / 10)
          rw [decimal] at hrest hne
          cases hdigits : (Nat.toDigits 10 (m / 10)).map (fun digit => digit.val.toUInt8) with
          | nil => exact absurd hdigits hne
          | cons first more =>
              rw [hdigits] at hrest
              exact hrest
  rcases Nat.eq_zero_or_pos n with rfl | hpos
  · simp [decimal] at h
  · exact hhead n hpos

end Bytes
