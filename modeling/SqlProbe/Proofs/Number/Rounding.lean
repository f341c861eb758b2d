import Mathlib.Algebra.Order.Field.Power
import SqlProbe.Proofs.Number.Nearest
import SqlProbe.Reading

/-!
# Rounding a numeral

A numeral denotes a rational number (`Decimal.value`, `Magnitude.value`), and
`Numeral.toBinary64` is the nearest binary64 number to it, with the sign put on
afterwards, so that zero has one too (`Numeral.exists_isNearest_toBinary64`).

For a decimal numeral three shortcuts keep a long exponent from being computed: a
significand of zero, an exponent from 309 on, and an exponent so far below zero
that the number is less than half of the smallest size. In each of them the bound
on the number suffices for the nearest rank.
-/

namespace SqlProbe

open Binary64

/-! ### Decimals -/

namespace Decimal

/-- The number a decimal denotes. -/
def value (d : Decimal) : ℚ := (d.significand : ℚ) * 10 ^ d.exponent

variable {d : Decimal}

theorem value_of_nonneg (h : 0 ≤ d.exponent) :
    d.value = ((d.significand * 10 ^ d.exponent.toNat : ℕ) : ℚ) := by
  obtain ⟨k, hk⟩ := Int.eq_ofNat_of_zero_le h
  rw [value, hk, Int.toNat_natCast, zpow_natCast, Nat.cast_mul, Nat.cast_pow, Nat.cast_ofNat]

theorem value_of_neg (h : d.exponent < 0) :
    d.value = (d.significand : ℚ) / ((10 ^ (-d.exponent).toNat : ℕ) : ℚ) := by
  obtain ⟨k, hk⟩ := Int.eq_ofNat_of_zero_le (neg_nonneg.mpr h.le)
  rw [value, hk, Int.toNat_natCast, ← neg_neg d.exponent, hk, zpow_neg, zpow_natCast,
    Nat.cast_pow, Nat.cast_ofNat, div_eq_mul_inv]

/-- From `10 ^ 309` on a number is past the largest finite size. -/
theorem le_value_of_large (hsig : d.significand ≠ 0) (hexp : 309 ≤ d.exponent) :
    2 ^ 1024 ≤ d.value := by
  have hpow : (2 ^ 1024 : ℕ) ≤ 10 ^ 309 := by decide +kernel
  have hnat : 2 ^ 1024 ≤ d.significand * 10 ^ d.exponent.toNat :=
    calc 2 ^ 1024 ≤ 10 ^ 309 := hpow
      _ ≤ 10 ^ d.exponent.toNat := pow_le_pow_right₀ (by omega) (by omega)
      _ ≤ d.significand * 10 ^ d.exponent.toNat :=
          Nat.le_mul_of_pos_left _ (Nat.pos_of_ne_zero hsig)
  rw [value_of_nonneg (by omega)]
  calc (2 : ℚ) ^ 1024 = ((2 ^ 1024 : ℕ) : ℚ) := by rw [Nat.cast_pow, Nat.cast_ofNat]
    _ ≤ _ := Nat.cast_le.mpr hnat

/-- Half of the smallest size, and less, told in natural numbers. -/
theorem value_lt_of_mul_lt (hexp : d.exponent < 0)
    (h : 2 * d.significand * one < 10 ^ (-d.exponent).toNat) : 2 * d.value < size 1 := by
  have hpos : (0 : ℚ) < ((10 ^ (-d.exponent).toNat : ℕ) : ℚ) :=
    Nat.cast_pos.mpr (Nat.pow_pos (by omega))
  rw [value_of_neg hexp, size, unitsOf_one, Nat.cast_one, ← mul_div_assoc,
    div_lt_div_iff₀ hpos (Nat.cast_pos.mpr Binary64.one_pos), one_mul]
  exact_mod_cast h

/-- A number below half of the smallest size, told from the length of its
significand and its exponent: ten is more than three doublings. -/
theorem value_lt_of_small (hexp : d.exponent < 0)
    (h : d.significand.log2 + 1 + 1075 ≤ 3 * (-d.exponent).toNat) : 2 * d.value < size 1 := by
  -- The exponent is kept as a variable, so that no power of it is computed.
  obtain ⟨b, hb, hone⟩ : ∃ b, 1075 = b ∧ 2 * one = 2 ^ b := ⟨1075, rfl, by decide +kernel⟩
  rw [hb] at h
  refine value_lt_of_mul_lt hexp ?_
  calc 2 * d.significand * one = d.significand * 2 ^ b := by
        rw [← hone, Nat.mul_left_comm, Nat.mul_assoc]
    _ < 2 ^ (d.significand.log2 + 1) * 2 ^ b :=
        Nat.mul_lt_mul_of_pos_right Nat.lt_log2_self (Nat.two_pow_pos _)
    _ = 2 ^ (d.significand.log2 + 1 + b) := (Nat.pow_add ..).symm
    _ ≤ 2 ^ (3 * (-d.exponent).toNat) := Nat.pow_le_pow_right (by omega) h
    _ = 8 ^ (-d.exponent).toNat := Nat.pow_mul ..
    _ ≤ 10 ^ (-d.exponent).toNat := Nat.pow_le_pow_left (by omega) _

/-- The same, told from the number of decimal digits. -/
theorem value_lt_of_digits {digits : Nat} (hsig : d.significand < 10 ^ digits)
    (h : (digits : Int) + 324 ≤ -d.exponent) : 2 * d.value < size 1 := by
  obtain ⟨b, hb, hone⟩ : ∃ b, 324 = b ∧ 2 * one ≤ 10 ^ b := ⟨324, rfl, by decide +kernel⟩
  refine value_lt_of_mul_lt (by omega) ?_
  calc 2 * d.significand * one = d.significand * (2 * one) := by
        rw [Nat.mul_left_comm, Nat.mul_assoc]
    _ ≤ d.significand * 10 ^ b := Nat.mul_le_mul_left _ hone
    _ < 10 ^ digits * 10 ^ b := Nat.mul_lt_mul_of_pos_right hsig (Nat.pow_pos (by omega))
    _ = 10 ^ (digits + b) := (Nat.pow_add ..).symm
    _ ≤ 10 ^ (-d.exponent).toNat := Nat.pow_le_pow_right (by omega) (by omega)

/-- The result has the given sign and the nearest rank. -/
theorem exists_isNearest_toBinary64 (negative : Bool) (d : Decimal) :
    ∃ rank, d.toBinary64 negative = ofRank negative rank ∧ IsNearest d.value rank := by
  rw [toBinary64]
  by_cases hsig : d.significand = 0
  · rw [if_pos hsig]
    refine ⟨0, rfl, IsNearest.zero ?_⟩
    rw [value, hsig, Nat.cast_zero, zero_mul, mul_zero, ← size_zero]
    exact size_strictMono Nat.one_pos
  · rw [if_neg hsig]
    by_cases hexp : 0 ≤ d.exponent
    · rw [if_pos hexp]
      by_cases hlarge : 309 ≤ d.exponent
      · rw [if_pos hlarge]
        exact ⟨infinityRank, rfl, IsNearest.infinity (le_value_of_large hsig hlarge)⟩
      · rw [if_neg hlarge]
        refine ⟨_, rfl, ?_⟩
        have h := isNearest_nearestRank (d.significand * 10 ^ d.exponent.toNat) Nat.one_pos
        rwa [Nat.cast_one, div_one, ← value_of_nonneg hexp] at h
    · rw [if_neg hexp]
      have hneg : d.exponent < 0 := Int.not_le.mp hexp
      simp only
      by_cases hsmall : d.significand.log2 + 1 + 1075 ≤ 3 * (-d.exponent).toNat
      · rw [if_pos hsmall]
        exact ⟨0, rfl, IsNearest.zero (value_lt_of_small hneg hsmall)⟩
      · rw [if_neg hsmall]
        refine ⟨_, rfl, ?_⟩
        rw [value_of_neg hneg]
        exact isNearest_nearestRank _ (Nat.pow_pos (by omega))

end Decimal

/-! ### Numerals -/

/-- The number that stands after the sign of a numeral. -/
def Magnitude.value : Magnitude → ℚ
  | whole n => n
  | scaled d => d.value

/-- **A numeral is rounded to nearest.** The sign is the one that is written, also
if the rank is that of zero. -/
theorem Numeral.exists_isNearest_toBinary64 (n : Numeral) :
    ∃ rank, n.toBinary64 = ofRank n.negative rank ∧ IsNearest n.magnitude.value rank := by
  obtain ⟨negative, whole | d⟩ := n
  · refine ⟨_, rfl, ?_⟩
    have h := isNearest_nearestRank whole Nat.one_pos
    rwa [Nat.cast_one, div_one] at h
  · exact d.exists_isNearest_toBinary64 negative

end SqlProbe
