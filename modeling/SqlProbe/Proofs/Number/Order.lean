import SqlProbe.Proofs.Number.Truncation

/-!
# The order of binary64 numbers

Numbers are ordered as their counts of units are, the two zeros being one number. An
infinity is counted as `2 ^ 1024` of its sign, and so it is at one of the ends
(`Binary64.infinity_le_le_infinity`). What is no number is in no relation to anything. This
is an order of numbers and not of patterns: below zero the patterns are ordered the other
way round.

The conversion to a 64-bit integer has three steps that each lose something. Infinities
become the ends of the range, fractions are cut off toward zero, and large numbers are
clamped. Counted in units all of this is one formula (`Binary64.toInt_toInt64_of_number`),
and since none of it turns the order round, the conversion is monotone on all numbers
(`Binary64.toInt64_mono`).
-/

namespace SqlProbe

namespace Binary64

variable {x y : Binary64}

/-- The order of numbers. -/
instance : LE Binary64 := ⟨fun x y => x.isNaN = false ∧ y.isNaN = false ∧ x.value ≤ y.value⟩

instance (x y : Binary64) : Decidable (x ≤ y) :=
  inferInstanceAs (Decidable (x.isNaN = false ∧ y.isNaN = false ∧ x.value ≤ y.value))

theorem le_iff : x ≤ y ↔ x.isNaN = false ∧ y.isNaN = false ∧ x.value ≤ y.value := Iff.rfl

/-! ### Exact numbers and infinities -/

theorem exact_eq_div (x : Binary64) : x.exact = (x.value : ℚ) / (one : ℚ) := by
  rw [exact, value]
  split
  · rw [Int.cast_neg, Int.cast_natCast, neg_div]
    rfl
  · rw [Int.cast_natCast]
    rfl

/-- Numbers are in the order of what they stand for. -/
theorem le_iff_exact_le :
    x ≤ y ↔ x.isNaN = false ∧ y.isNaN = false ∧ x.exact ≤ y.exact := by
  have hone : (0 : ℚ) < one := Nat.cast_pos.mpr one_pos
  rw [le_iff, exact_eq_div, exact_eq_div, div_le_div_iff_of_pos_right hone, Int.cast_le]

theorem value_of_isInfinite (h : x.isInfinite = true) :
    x.value =
      if x.isNegative then -((2 ^ 1024 * one : ℕ) : ℤ) else ((2 ^ 1024 * one : ℕ) : ℤ) := by
  have hunits : x.units = 2 ^ 1024 * one := by
    rw [← unitsOf_infinityRank]
    exact congrArg unitsOf (beq_iff_eq.mp h)
  rw [value, hunits]

/-- **The infinities are the ends**, and they are past everything finite. -/
theorem infinity_le_le_infinity (hx : x.isNaN = false) :
    infinity true ≤ x ∧ x ≤ infinity false ∧
      (x.isFinite = true → ¬ x ≤ infinity true ∧ ¬ infinity false ≤ x) := by
  have htrue : (infinity true).value = -((2 ^ 1024 * one : ℕ) : ℤ) := by decide +kernel
  have hfalse : (infinity false).value = ((2 ^ 1024 * one : ℕ) : ℤ) := by decide +kernel
  have hnumber : ∀ negative, (infinity negative).isNaN = false := by decide +kernel
  have hle : x.units ≤ 2 ^ 1024 * one := by
    rw [← unitsOf_infinityRank]
    exact unitsOf_strictMono.monotone (Nat.le_of_not_lt (of_decide_eq_false hx))
  have hlt : x.isFinite = true → x.units < 2 ^ 1024 * one := by
    intro hfinite
    rw [← unitsOf_infinityRank]
    exact unitsOf_strictMono (of_decide_eq_true hfinite)
  have hvalue : x.value = -(x.units : ℤ) ∨ x.value = x.units := by
    rw [value]
    split
    · exact .inl rfl
    · exact .inr rfl
  simp only [le_iff, hnumber, hx, htrue, hfalse, true_and]
  generalize 2 ^ 1024 * one = limit at hle hlt
  refine ⟨by omega, by omega, fun hfinite => ?_⟩
  have hunits := hlt hfinite
  omega

/-! ### The conversion -/

/-- **The whole conversion** in units. An infinity has a whole part past the range. -/
theorem toInt_toInt64_of_number (hx : x.isNaN = false) :
    x.toInt64.toInt = clamp (x.value.tdiv one) := by
  rw [toInt64, if_neg (Bool.eq_false_iff.mp hx)]
  cases hinf : x.isInfinite with
  | true =>
    rw [if_pos rfl, value_of_isInfinite hinf]
    cases x.isNegative <;> decide +kernel
  | false =>
    rw [if_neg Bool.false_ne_true]
    exact toInt_ofIntClamp x.truncate

theorem clamp_mono {i j : ℤ} (h : i ≤ j) : clamp i ≤ clamp j := by
  unfold clamp
  omega

/-- **The conversion keeps the order.** -/
theorem toInt64_mono (h : x ≤ y) : x.toInt64 ≤ y.toInt64 := by
  obtain ⟨hx, hy, hvalue⟩ := h
  have hone : (0 : ℤ) < one := Int.natCast_pos.mpr one_pos
  rw [Int64.le_iff_toInt_le, toInt_toInt64_of_number hx, toInt_toInt64_of_number hy]
  exact clamp_mono (Int.tdiv_le_tdiv hone hvalue)

-- The two zeros are one number, and the patterns below zero go the other way.
example : (⟨0x8000000000000000⟩ : Binary64) ≤ ⟨0⟩ ∧ (⟨0⟩ : Binary64) ≤ ⟨0x8000000000000000⟩ ∧
    (⟨0xBFF0000000000000⟩ : Binary64) ≤ ⟨0xBFE0000000000000⟩ := by decide +kernel

end Binary64

end SqlProbe
