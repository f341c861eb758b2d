import SqlProbe.Proofs.Number.Truncation

/-!
# What rounding leaves as it was

Rounding to nearest loses most of a long number, and two things never: the order of
numbers, and an integer up to `2 ^ 53`. The order is that of signed numbers, and in it
the sign of a zero must not matter; the relation of a rational number to the pattern it
is rounded to is stated accordingly (`Binary64.IsRounded`).

* `Binary64.IsRounded.exact_le_exact`: rounding keeps the order. Two numbers on
  one side of zero are compared by their ranks, and otherwise zero is between them.
* `Binary64.exists_size_eq`: an integer up to `2 ^ 53` is a size, and a size is
  nearest to itself (`Binary64.isNearest_size`).
* `Binary64.wholePart_mono`: truncation keeps the order as well.

It does lose a number that is too large. `Binary64.nearestRank_eq_infinityRank_iff` says
from where on.
-/

namespace SqlProbe

namespace Binary64

/-! ### Numbers that are sizes -/

/-- A size is nearest to itself, and no other size is as near. -/
theorem isNearest_size {rank : Nat} (h : rank ≤ infinityRank) : IsNearest (size rank) rank := by
  have hzero : |size rank - size rank| = 0 := by rw [sub_self, abs_zero]
  refine ⟨h, fun r _ => ?_, fun r _ hne heq => ?_⟩
  · rw [hzero]
    exact abs_nonneg _
  · rw [hzero, abs_eq_zero, sub_eq_zero] at heq
    exact absurd (size_strictMono.injective heq).symm hne

/-- **Integers among the sizes.** Shifted until it fills a significand, the integer is
that of a rank, and the shift is taken back by the exponent. -/
theorem exists_size_eq {m : ℕ} (hm : m ≤ 2 ^ 53) : ∃ rank < infinityRank, size rank = m := by
  obtain rfl | hpos := Nat.eq_zero_or_pos m
  · exact ⟨0, by decide, by rw [size_zero, Nat.cast_zero]⟩
  -- For `2 ^ 53` itself nothing is left to shift, and it is twice the weight.
  obtain ⟨k, hk⟩ : ∃ k, 52 - m.log2 = k := ⟨_, rfl⟩
  have hlower : exponentWeight ≤ m * 2 ^ k := by
    calc exponentWeight = 2 ^ 52 := by decide
      _ ≤ 2 ^ (m.log2 + k) := Nat.pow_le_pow_right (by omega) (by omega)
      _ = 2 ^ m.log2 * 2 ^ k := Nat.pow_add ..
      _ ≤ m * 2 ^ k := Nat.mul_le_mul_right _ (Nat.log2_self_le hpos.ne')
  have hupper : m * 2 ^ k ≤ 2 * exponentWeight := by
    obtain rfl | hlt := Nat.eq_or_lt_of_le hm
    · rw [Nat.log2_two_pow] at hk
      subst hk
      decide
    · have hlog : m.log2 < 53 := (Nat.log2_lt hpos.ne').mpr hlt
      calc m * 2 ^ k ≤ 2 ^ (m.log2 + 1) * 2 ^ k :=
            Nat.mul_le_mul_right _ Nat.lt_log2_self.le
        _ = 2 ^ (m.log2 + 1 + k) := (Nat.pow_add ..).symm
        _ = 2 ^ 53 := by rw [← hk]; congr 1; omega
        _ = 2 * exponentWeight := by decide
  -- The exponent of a unit is kept as a variable, so that its power is not computed.
  obtain ⟨e, he, hone⟩ : ∃ e, e = 1074 ∧ one = 2 ^ e := ⟨1074, rfl, by decide +kernel⟩
  have hunits : unitsOf ((e - k) * exponentWeight + m * 2 ^ k) = m * one := by
    rw [unitsOf_shift (.inr hlower) hupper, hone, Nat.mul_assoc, ← Nat.pow_add,
      Nat.add_sub_of_le (by omega)]
  refine ⟨(e - k) * exponentWeight + m * 2 ^ k, ?_, ?_⟩
  · have hle : (e - k) * exponentWeight ≤ 1074 * exponentWeight :=
      Nat.mul_le_mul_right _ (by omega)
    have hweight := weight_pos
    unfold infinityRank
    omega
  · have hne : (one : ℚ) ≠ 0 := Nat.cast_ne_zero.mpr one_pos.ne'
    rw [size, hunits, Nat.cast_mul, mul_div_assoc, div_self hne, mul_one]

/-! ### Overflow -/

/-- The first natural number that is rounded to infinity, half a step below `2 ^ 1024`. -/
def overflowStart : Nat := Nat.pow 2 1024 - Nat.pow 2 970

/-- The midpoint below infinity, in units. -/
theorem unitsOf_add_unitsOf_infinityRank :
    unitsOf (infinityRank - 1) + unitsOf infinityRank = 2 * (overflowStart * one) := by
  decide +kernel

/-- **Overflow.** A natural number is rounded to infinity from the last midpoint on, the
midpoint included, since the rank of infinity is even. -/
theorem nearestRank_eq_infinityRank_iff {n : ℕ} :
    nearestRank n 1 = infinityRank ↔ overflowStart ≤ n := by
  have hmidpoint : size (infinityRank - 1) + size infinityRank ≤ 2 * ((n : ℚ) / (1 : ℕ)) ↔
      overflowStart ≤ n := by
    rw [size_add_size_le_iff Nat.one_pos, unitsOf_add_unitsOf_infinityRank, Nat.mul_one,
      Nat.mul_le_mul_left_iff Nat.two_pos, Nat.mul_le_mul_right_iff one_pos]
  have hnearest := isNearest_nearestRank n Nat.one_pos
  rw [← hmidpoint]
  constructor
  · intro h
    rw [h, isNearest_iff_covers] at hnearest
    exact hnearest.lower _ (by decide)
  · intro h
    refine hnearest.unique (isNearest_iff_covers.mpr ⟨le_rfl, ?_, fun _ _ _ => by decide,
      fun h => absurd h (lt_irrefl _), fun h => absurd h (lt_irrefl _)⟩)
    intro r hr
    rwa [← hr, Nat.add_sub_cancel, hr] at h

theorem isFinite_ofNat {negative : Bool} {n : ℕ} :
    (ofNat negative n).isFinite = true ↔ n < overflowStart := by
  have hle : nearestRank n 1 ≤ infinityRank := (isNearest_nearestRank n Nat.one_pos).le_infinity
  show Decidable.decide ((ofRank negative (nearestRank n 1)).rank < infinityRank) = true ↔ _
  rw [rank_ofRank hle, decide_eq_true_iff, lt_iff_le_and_ne, and_iff_right hle, Ne,
    nearestRank_eq_infinityRank_iff, not_le]

/-! ### Signed numbers -/

/-- **Rounding with a sign.** The size is nearest to that of `q`, and the sign bit is
that of `q`. Zero goes with both signs. -/
structure IsRounded (q : ℚ) (x : Binary64) : Prop where
  /-- No size is nearer to that of `q`. -/
  nearest : IsNearest |q| x.rank
  /-- With a sign bit `q` is not above zero. -/
  nonpos : x.isNegative = true → q ≤ 0
  /-- Without one it is not below. -/
  nonneg : x.isNegative = false → 0 ≤ q

namespace IsRounded

variable {q q' : ℚ} {x x' : Binary64}

/-- Zero is rounded to zero. -/
theorem size_eq_zero (h : IsRounded q x) (hq : q = 0) : size x.rank = 0 := by
  have hzero : IsNearest |q| 0 := by
    refine .zero ?_
    rw [hq, abs_zero, mul_zero, ← size_zero]
    exact size_strictMono Nat.one_pos
  rw [h.nearest.unique hzero, size_zero]

theorem exact_of_nonneg (h : IsRounded q x) (hq : 0 ≤ q) : x.exact = size x.rank := by
  unfold exact
  split
  · next hneg => rw [h.size_eq_zero (le_antisymm (h.nonpos hneg) hq), neg_zero]
  · rfl

theorem exact_of_nonpos (h : IsRounded q x) (hq : q ≤ 0) : x.exact = -size x.rank := by
  unfold exact
  split
  · rfl
  · next hneg =>
    rw [h.size_eq_zero (le_antisymm hq (h.nonneg (Bool.eq_false_iff.mpr hneg))), neg_zero]

theorem exact_nonneg (h : IsRounded q x) (hq : 0 ≤ q) : 0 ≤ x.exact := by
  rw [h.exact_of_nonneg hq]
  exact size_nonneg _

/-- **Rounding keeps the order.** -/
theorem exact_le_exact (h : IsRounded q x) (h' : IsRounded q' x') (hq : q ≤ q') :
    x.exact ≤ x'.exact := by
  obtain hpos | hneg := le_total 0 q
  · rw [h.exact_of_nonneg hpos, h'.exact_of_nonneg (hpos.trans hq)]
    refine size_strictMono.monotone (h.nearest.le_of_le h'.nearest ?_)
    rwa [abs_of_nonneg hpos, abs_of_nonneg (hpos.trans hq)]
  · rw [h.exact_of_nonpos hneg]
    obtain hpos' | hneg' := le_total 0 q'
    · exact (neg_nonpos.mpr (size_nonneg _)).trans (h'.exact_nonneg hpos')
    -- Below zero the sizes are ordered the other way round.
    · rw [h'.exact_of_nonpos hneg']
      refine neg_le_neg (size_strictMono.monotone (h'.nearest.le_of_le h.nearest ?_))
      rw [abs_of_nonpos hneg, abs_of_nonpos hneg']
      exact neg_le_neg hq

end IsRounded

/-! ### Whole parts -/

theorem wholePart_intCast (n : ℤ) : wholePart n = n := by
  unfold wholePart
  split
  · exact Int.floor_intCast n
  · exact Int.ceil_intCast n

theorem wholePart_nonneg {q : ℚ} (hq : 0 ≤ q) : 0 ≤ wholePart q := by
  rw [wholePart, if_pos hq]
  exact Int.floor_nonneg.mpr hq

/-- **Truncation keeps the order**, across zero too. -/
theorem wholePart_mono {q q' : ℚ} (hq : q ≤ q') : wholePart q ≤ wholePart q' := by
  by_cases hpos : 0 ≤ q
  · rw [wholePart, if_pos hpos, wholePart, if_pos (hpos.trans hq)]
    exact Int.floor_le_floor hq
  · rw [wholePart, if_neg hpos]
    by_cases hpos' : 0 ≤ q'
    · have hceil : ⌈q⌉ ≤ 0 := Int.ceil_le.mpr (by rw [Int.cast_zero]; exact (not_le.mp hpos).le)
      exact hceil.trans (wholePart_nonneg hpos')
    · rw [wholePart, if_neg hpos']
      exact Int.ceil_le_ceil hq

end Binary64

end SqlProbe
