import Mathlib.Data.Rat.Floor
import SqlProbe.Proofs.Number.Nearest

/-!
# The whole part of a binary64 number

A value is compared with a threshold by its whole part, as a 64-bit integer. Here the
two steps of that conversion are told in exact numbers. A finite pattern stands for a
rational number (`Binary64.exact`), and truncation takes the part of it before the
point (`Binary64.truncate_eq_wholePart`); an integer out of range is then clamped to
the nearer end (`Binary64.toInt_toInt64`).

Clamping merges `2 ^ 63 - 1` with everything above it. No finite number has a whole
part that makes this matter below `2 ^ 63`: the largest number under that power of two
is smaller by `2 ^ 10`, because the significand has 53 bits
(`Binary64.truncate_le_of_lt`).
-/

namespace SqlProbe

namespace Binary64

variable {x : Binary64}

/-! ### Exact numbers -/

/-- The number that a finite pattern stands for. -/
def exact (x : Binary64) : ℚ := if x.isNegative then -size x.rank else size x.rank

/-- The part of a number before the point: rounding toward zero. -/
def wholePart (q : ℚ) : ℤ := if 0 ≤ q then ⌊q⌋ else ⌈q⌉

theorem size_nonneg (rank : Nat) : 0 ≤ size rank := by
  rw [← size_zero]
  exact size_strictMono.monotone (Nat.zero_le rank)

theorem floor_size (x : Binary64) : ⌊size x.rank⌋ = ((x.units / one : ℕ) : ℤ) :=
  Rat.floor_natCast_div_natCast _ _

/-- A whole part is counted off the units, and the sign is put on afterwards. -/
theorem truncate_eq (x : Binary64) :
    x.truncate =
      if x.isNegative then -((x.units / one : ℕ) : ℤ) else ((x.units / one : ℕ) : ℤ) := by
  rw [truncate, value, Int.natCast_ediv, ← Int.tdiv_eq_ediv_of_nonneg (Int.natCast_nonneg _)]
  split
  · exact Int.neg_tdiv ..
  · rfl

/-- **Truncation** takes the whole part of the exact number. -/
theorem truncate_eq_wholePart (x : Binary64) : x.truncate = wholePart x.exact := by
  rw [truncate_eq, ← floor_size, exact, wholePart]
  by_cases hneg : x.isNegative = true
  · rw [if_pos hneg, if_pos hneg, ← Int.ceil_neg]
    -- Zero is its own whole part, whichever way it is rounded.
    obtain hzero | hpos := (size_nonneg x.rank).eq_or_lt
    · rw [← hzero, neg_zero, if_pos le_rfl, Int.ceil_zero, Int.floor_zero]
    · rw [if_neg (not_le.mpr (neg_neg_of_pos hpos))]
  · rw [if_neg hneg, if_neg hneg, if_pos (size_nonneg _)]

/-! ### The gap below the 64-bit limit -/

/-- The rank of `2 ^ 63`, the first number past the 64-bit integers. -/
def limitRank : Nat := (1023 + 63) * exponentWeight

theorem unitsOf_limitRank : unitsOf limitRank = 2 ^ 63 * one := by decide +kernel

theorem unitsOf_below_limitRank : unitsOf (limitRank - 1) = (2 ^ 63 - 2 ^ 10) * one := by
  decide +kernel

/-- **The gap.** Between `2 ^ 63 - 2 ^ 10` and `2 ^ 63` there is no size. -/
theorem units_le_of_lt (h : x.units < 2 ^ 63 * one) : x.units ≤ (2 ^ 63 - 2 ^ 10) * one := by
  rw [← unitsOf_limitRank] at h
  rw [← unitsOf_below_limitRank]
  -- Counted in ranks the gap is a single step.
  have hrank : x.rank < limitRank := unitsOf_strictMono.lt_iff_lt.mp h
  exact unitsOf_strictMono.monotone (Nat.le_sub_one_of_lt hrank)

/-- Hence no whole part is there either. -/
theorem truncate_le_of_lt (h : x.truncate < 2 ^ 63) : x.truncate ≤ 2 ^ 63 - 2 ^ 10 := by
  have hnonneg : (0 : ℤ) ≤ ((x.units / one : ℕ) : ℤ) := Int.natCast_nonneg _
  rw [truncate_eq] at h ⊢
  by_cases hneg : x.isNegative = true
  -- A negative number is below the gap anyhow.
  · rw [if_pos hneg]
    omega
  · rw [if_neg hneg] at h ⊢
    have hlt : x.units / one < 2 ^ 63 := by exact_mod_cast h
    rw [Nat.div_lt_iff_lt_mul one_pos] at hlt
    have hle : x.units / one ≤ 2 ^ 63 - 2 ^ 10 :=
      Nat.div_le_of_le_mul (Nat.mul_comm .. ▸ units_le_of_lt hlt)
    omega

/-! ### Clamping -/

/-- An integer clamped to the 64-bit range. -/
def clamp (i : ℤ) : ℤ := max (-2 ^ 63) (min i (2 ^ 63 - 1))

theorem toInt_ofIntClamp (i : ℤ) : (Int64.ofIntClamp i).toInt = clamp i := by
  rw [Int64.ofIntClamp, clamp]
  split
  · next hl =>
    rw [Int64.toInt_minValue] at hl
    split
    · next hr =>
      rw [Int64.toInt_maxValue] at hr
      rw [Int64.toInt_ofIntLE]
      omega
    · next hr =>
      rw [Int64.toInt_maxValue] at hr ⊢
      omega
  · next hl =>
    rw [Int64.toInt_minValue] at hl ⊢
    omega

/-- A finite number becomes its whole part, clamped. -/
theorem toInt_toInt64 (h : x.isFinite = true) : x.toInt64.toInt = clamp x.truncate := by
  have hlt : x.rank < infinityRank := of_decide_eq_true h
  rw [toInt64, if_neg, if_neg, toInt_ofIntClamp]
  · rw [isInfinite, beq_iff_eq]
    exact hlt.ne
  · rw [isNaN, decide_eq_true_eq]
    exact hlt.not_gt

theorem toInt64_of_isNaN (h : x.isNaN = true) : x.toInt64 = 0 := by rw [toInt64, if_pos h]

theorem toInt64_infinity (negative : Bool) :
    (infinity negative).toInt64 = if negative then Int64.minValue else Int64.maxValue := by
  cases negative <;> decide +kernel

end Binary64

end SqlProbe
