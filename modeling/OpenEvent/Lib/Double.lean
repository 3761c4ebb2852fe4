import Mathlib.Tactic
import Mathlib.Algebra.Order.Floor.Ring
import Mathlib.Data.Rat.Floor

/-!
Conversion of integers to IEEE 754 binary64 numbers. Only the 53-bit
significand matters for integers of 64 bits, so the exponent is unbounded.
-/

namespace Double

/-- The rationals with a significand of at most 53 bits. -/
def IsDouble (q : ℚ) : Prop := ∃ m e : ℤ, |m| < 2 ^ 53 ∧ q = m * (2 : ℚ) ^ e

/-- `d` is a double closest to `x`. -/
structure IsNearest (x d : ℚ) : Prop where
  isDouble : IsDouble d
  nearest : ∀ other, IsDouble other → |d - x| ≤ |other - x|

theorem isDouble_scaled (m k : ℕ) (h : m < 2 ^ 53) : IsDouble (m * 2 ^ k) :=
  ⟨m, k, by rw [abs_of_nonneg (by positivity)]; exact_mod_cast h, by simp⟩

theorem isDouble_two_pow (k : ℕ) : IsDouble (2 ^ k) := by
  simpa using isDouble_scaled 1 k (by norm_num)

/-- A double of magnitude at least `2 ^ (52 + k)` is a multiple of `2 ^ k`. -/
theorem IsDouble.exists_multiple {q : ℚ} (h : IsDouble q) {k : ℕ} (hk : (2 : ℚ) ^ (52 + k) ≤ q) :
    ∃ m : ℤ, q = m * 2 ^ k := by
  obtain ⟨m, e, hm, rfl⟩ := h
  have hexp : (k : ℤ) ≤ e := by
    by_contra hlt
    have hpow : (2 : ℚ) ^ e ≤ 2 ^ ((k : ℤ) - 1) :=
      zpow_le_zpow_right₀ (by norm_num) (by omega)
    have hm' : (m : ℚ) < 2 ^ 53 := by exact_mod_cast lt_of_abs_lt hm
    have hhalf : (2 : ℚ) ^ ((k : ℤ) - 1) = 2 ^ k / 2 := by
      rw [zpow_sub_one₀ (by norm_num), zpow_natCast]
      ring
    have hpos : (0 : ℚ) < 2 ^ e := by positivity
    have hk' : (2 : ℚ) ^ (52 + k) = 2 ^ 53 * (2 ^ k / 2) := by
      rw [pow_add]
      ring
    rw [hhalf] at hpow
    have : (m : ℚ) * 2 ^ e < 2 ^ 53 * (2 ^ k / 2) := by
      calc (m : ℚ) * 2 ^ e < 2 ^ 53 * 2 ^ e := by gcongr
        _ ≤ 2 ^ 53 * (2 ^ k / 2) := by gcongr
    linarith
  refine ⟨m * 2 ^ (e - k).toNat, ?_⟩
  have hsplit : e = ((e - k).toNat : ℤ) + (k : ℤ) := by omega
  rw [hsplit, zpow_add₀ (by norm_num), zpow_natCast, zpow_natCast]
  push_cast
  have : ((e - k).toNat : ℤ) + (k : ℤ) - k = ((e - k).toNat : ℤ) := by ring
  simp [mul_assoc]

theorem IsNearest.pos {n : ℕ} {d : ℚ} (h : IsNearest n d) (hn : 0 < n) : 0 < d := by
  by_contra hneg
  have hone := h.nearest 1 (by simpa using isDouble_two_pow 0)
  have hn' : (1 : ℚ) ≤ n := by exact_mod_cast hn
  rw [abs_of_nonpos (by linarith), abs_of_nonpos (by linarith)] at hone
  linarith

/-- Integers below `2 ^ 53` are doubles themselves. -/
theorem IsNearest.eq_self {n : ℕ} {d : ℚ} (h : IsNearest n d) (hn : n < 2 ^ 53) : d = n := by
  have hself := h.nearest n (by simpa using isDouble_scaled n 0 hn)
  rw [sub_self, abs_zero] at hself
  have hzero : d - n = 0 := abs_eq_zero.mp (le_antisymm hself (abs_nonneg _))
  linarith

theorem IsNearest.floor_eq {n : ℕ} {d : ℚ} (h : IsNearest n d) : (⌊d⌋ : ℚ) = d := by
  by_cases hsmall : n < 2 ^ 53
  · rw [h.eq_self hsmall]
    simp
  · -- A double below `2 ^ 52` is further from `n` than `2 ^ 53` is.
    have hn : (9007199254740992 : ℚ) ≤ n := by exact_mod_cast not_lt.mp hsmall
    have hlarge : (2 : ℚ) ^ (52 + 0) ≤ d := by
      by_contra hlt
      have hnear := h.nearest (2 ^ 53) (isDouble_two_pow 53)
      norm_num at hlt hnear
      rw [abs_of_nonpos (by linarith), abs_of_nonpos (by linarith)] at hnear
      linarith
    obtain ⟨m, hm⟩ := h.isDouble.exists_multiple hlarge
    rw [hm]
    simp

theorem IsNearest.le_two_pow {n k : ℕ} {d : ℚ} (h : IsNearest n d) (hn : n ≤ 2 ^ k) :
    d ≤ 2 ^ k := by
  by_contra hgt
  have hnear := h.nearest (2 ^ k) (isDouble_two_pow k)
  have hn' : (n : ℚ) ≤ 2 ^ k := by exact_mod_cast hn
  rw [abs_of_nonneg (by linarith), abs_of_nonneg (by linarith)] at hnear
  linarith

/-- The largest 64-bit value converts to `2 ^ 64`. -/
theorem IsNearest.max_uint64 {d : ℚ} (h : IsNearest (2 ^ 64 - 1 : ℕ) d) : d = 2 ^ 64 := by
  have hnear := h.nearest (2 ^ 64) (isDouble_two_pow 64)
  have hle := h.le_two_pow (k := 64) (by norm_num)
  have hlow : (2 : ℚ) ^ 64 - 2 ≤ d := by
    have hbelow := abs_le.mp hnear
    norm_num at hbelow ⊢
    linarith [hbelow.1]
  obtain ⟨m, hm⟩ := h.isDouble.exists_multiple (k := 11) (by norm_num at hlow ⊢; linarith)
  have hm53 : m = 2 ^ 53 := by
    have hupper : (m : ℚ) ≤ 2 ^ 53 := by norm_num at hm hle ⊢; linarith
    have hlower : (2 : ℚ) ^ 53 - 1 < m := by norm_num at hm hlow ⊢; linarith
    have h1 : m ≤ 2 ^ 53 := by exact_mod_cast hupper
    have h2 : 2 ^ 53 - 1 < m := by exact_mod_cast hlower
    omega
  rw [hm, hm53]
  norm_num

/-- Rounding of a natural number to a nearest double, ties upwards. -/
def roundNat (n : ℕ) : ℕ :=
  let unit := 2 ^ (Nat.log2 n - 52)
  (n + unit / 2) / unit * unit

private theorem roundNat_close (n : ℕ) :
    2 * |(roundNat n : ℤ) - n| ≤ 2 ^ (Nat.log2 n - 52) := by
  have hunit : 0 < 2 ^ (Nat.log2 n - 52) := by positivity
  have hround : roundNat n =
      (n + 2 ^ (Nat.log2 n - 52) / 2) / 2 ^ (Nat.log2 n - 52) * 2 ^ (Nat.log2 n - 52) := rfl
  have hcast : ((2 ^ (Nat.log2 n - 52) : ℕ) : ℤ) = 2 ^ (Nat.log2 n - 52) := by push_cast; rfl
  rw [hround, ← hcast]
  generalize 2 ^ (Nat.log2 n - 52) = unit at hunit
  have hdiv := Nat.div_add_mod (n + unit / 2) unit
  have hmod := Nat.mod_lt (n + unit / 2) hunit
  rw [mul_comm] at hdiv
  generalize (n + unit / 2) / unit * unit = rounded at *
  have habs : |(rounded : ℤ) - n| ≤ (unit / 2 : ℕ) := abs_le.mpr ⟨by omega, by omega⟩
  omega

/-- No multiple of the rounding unit is closer than the rounded value. -/
private theorem roundNat_le_multiple (n : ℕ) (m : ℤ) :
    |(roundNat n : ℚ) - n| ≤ |(m : ℚ) * 2 ^ (Nat.log2 n - 52) - n| := by
  have hclose := roundNat_close n
  obtain ⟨q, hq⟩ : ∃ q : ℤ, (roundNat n : ℤ) = q * 2 ^ (Nat.log2 n - 52) :=
    ⟨((n + 2 ^ (Nat.log2 n - 52) / 2) / 2 ^ (Nat.log2 n - 52) : ℕ), by simp [roundNat]⟩
  have hint : |(roundNat n : ℤ) - n| ≤ |m * 2 ^ (Nat.log2 n - 52) - n| := by
    rcases eq_or_ne m q with rfl | hne
    · rw [hq]
    · have hpos : (0 : ℤ) < 2 ^ (Nat.log2 n - 52) := by positivity
      have hgap : (2 : ℤ) ^ (Nat.log2 n - 52) ≤ |m * 2 ^ (Nat.log2 n - 52) - roundNat n| := by
        rw [hq, ← sub_mul, abs_mul, abs_of_pos hpos]
        have hone : 1 ≤ |m - q| := Int.one_le_abs (sub_ne_zero.mpr hne)
        nlinarith
      have htriangle := abs_sub_abs_le_abs_sub
        (m * 2 ^ (Nat.log2 n - 52) - (roundNat n : ℤ)) (n - (roundNat n : ℤ))
      rw [sub_sub_sub_cancel_right, abs_sub_comm (n : ℤ)] at htriangle
      omega
  exact_mod_cast hint

theorem roundNat_isNearest (n : ℕ) : IsNearest n (roundNat n) := by
  by_cases hsmall : n < 2 ^ 53
  · have hlog : Nat.log2 n - 52 = 0 := by
      rcases Nat.eq_zero_or_pos n with rfl | hpos
      · rfl
      · have := (Nat.log2_lt (by omega)).mpr hsmall
        omega
    have hself : roundNat n = n := by simp [roundNat, hlog]
    rw [hself]
    exact ⟨by simpa using isDouble_scaled n 0 hsmall, by simp⟩
  · have hn0 : n ≠ 0 := by
      rintro rfl
      norm_num at hsmall
    have hlog : 53 ≤ Nat.log2 n := (Nat.le_log2 hn0).mpr (not_lt.mp hsmall)
    have hlow : 2 ^ (52 + (Nat.log2 n - 52)) ≤ n := by
      rw [show 52 + (Nat.log2 n - 52) = Nat.log2 n by omega]
      exact Nat.log2_self_le hn0
    have hhigh : n < 2 ^ (53 + (Nat.log2 n - 52)) := by
      rw [show 53 + (Nat.log2 n - 52) = Nat.log2 n + 1 by omega]
      exact (Nat.log2_lt hn0).mp (Nat.lt_succ_self _)
    have hmultiple := roundNat_le_multiple n
    have hround : roundNat n =
      (n + 2 ^ (Nat.log2 n - 52) / 2) / 2 ^ (Nat.log2 n - 52) * 2 ^ (Nat.log2 n - 52) := rfl
    generalize Nat.log2 n - 52 = k at *
    refine ⟨?_, ?_⟩
    · have hquotient : (n + 2 ^ k / 2) / 2 ^ k ≤ 2 ^ 53 := by
        apply Nat.le_of_lt_succ
        apply Nat.div_lt_of_lt_mul
        rw [pow_add] at hhigh
        have hpos : 0 < 2 ^ k := by positivity
        have hhalf : 2 ^ k / 2 < 2 ^ k := Nat.div_lt_self hpos (by norm_num)
        nlinarith
      rw [hround]
      rcases hquotient.lt_or_eq with hlt | heq
      · exact_mod_cast isDouble_scaled _ k hlt
      · rw [heq, ← pow_add]
        exact_mod_cast isDouble_two_pow (53 + k)
    · intro other hother
      rcases le_or_gt ((2 : ℚ) ^ (52 + k)) other with hge | hlt
      · obtain ⟨m, rfl⟩ := hother.exists_multiple hge
        exact hmultiple m
      · -- Below the binade of `n`, the binade's least double is closer.
        have hbase : |(roundNat n : ℚ) - n| ≤ |(2 : ℚ) ^ (52 + k) - n| := by
          have hpow : (2 : ℚ) ^ (52 + k) = ((2 ^ 52 : ℤ) : ℚ) * 2 ^ k := by
            rw [pow_add]
            push_cast
            rfl
          rw [hpow]
          exact hmultiple (2 ^ 52)
        have hlow' : (2 : ℚ) ^ (52 + k) ≤ n := by exact_mod_cast hlow
        rw [abs_of_nonpos (by linarith : (2 : ℚ) ^ (52 + k) - n ≤ 0)] at hbase
        rw [abs_of_nonpos (by linarith : other - (n : ℚ) ≤ 0)]
        linarith

end Double
