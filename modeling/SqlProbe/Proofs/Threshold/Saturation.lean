import SqlProbe.Proofs.Number.Truncation
import SqlProbe.Proofs.Threshold.Grammar

/-!
# Thresholds over unbounded integers

A threshold as written has boundaries of any size, and a value can be larger than any
64-bit integer. The program clamps both, each on its own, and compares what is left.
`Threshold.evaluate_unbounded` says what this comes to: the condition of the form is
evaluated over unbounded integers, on the whole part of the exact value and the
numbers that are written, but for one corner. A value and a boundary that are both past
the range count as equal (`Threshold.Saturated`).

Only two things are ever asked of a value: on which side of a boundary it is, and
whether it is negative. A 64-bit integer that gives the same answers as an unbounded
one *stands for* it (`Threshold.StandsFor`), and then every form gives the same answer
for both (`Threshold.StandsFor.alerts_iff`). It remains to find out what the converted
value stands for: the whole part of a finite number, by the gap below `2 ^ 63`; any
integer past the range, or any negative one, for the two infinities; and zero where
there is no number.
-/

namespace SqlProbe

open Binary64

namespace Threshold

/-! ### Conditions over unbounded integers -/

/-- Both are past the 64-bit range, so that clamping makes them one. -/
def Saturated (k : ℤ) (n : ℕ) : Prop := 2 ^ 63 ≤ k ∧ 2 ^ 63 - 1 ≤ (n : ℤ)

/-- An integer below a boundary. -/
def Below (k : ℤ) (n : ℕ) : Prop := k < n ∧ ¬ Saturated k n

/-- An integer above a boundary. -/
def Above (k : ℤ) (n : ℕ) : Prop := n < k ∧ ¬ Saturated k n

namespace Written

/-- **The condition of a form**, for an unbounded integer and the numbers as they are
written. -/
def Alerts (k : ℤ) : Written → Prop
  | atLeast low => Below k low.number
  | atMost high => Above k high.number
  | outside low high => Below k low.number ∨ Above k high.number
  | inside low high => ¬ Below k low.number ∧ ¬ Above k high.number
  | upTo high => k < 0 ∨ Above k high.number

end Written

/-! ### What a 64-bit integer stands for -/

/-- **Standing for.** A 64-bit integer is on the same side of every boundary as an
unbounded one, and negative if that is. -/
structure StandsFor (v : Int64) (k : ℤ) : Prop where
  below : ∀ n : Run, v < n.boundary ↔ Below k n.number
  above : ∀ n : Run, n.boundary < v ↔ Above k n.number
  negative : v < 0 ↔ k < 0

namespace StandsFor

variable {v : Int64} {k : ℤ}

/-- No form tells the two apart. -/
theorem alerts_iff (h : StandsFor v k) (w : Written) :
    w.threshold.alerts v = true ↔ w.Alerts k := by
  cases w with
  | atLeast low => exact decide_eq_true_iff.trans (h.below low)
  | atMost high => exact decide_eq_true_iff.trans (h.above high)
  | outside low high =>
    rw [Written.threshold, alerts, Bool.or_eq_true, decide_eq_true_iff, decide_eq_true_iff]
    exact or_congr (h.below low) (h.above high)
  | inside low high =>
    rw [Written.threshold, alerts, Bool.and_eq_true, decide_eq_true_iff, decide_eq_true_iff,
      ← Int64.not_lt, ← Int64.not_lt]
    exact and_congr (not_congr (h.below low)) (not_congr (h.above high))
  | upTo high =>
    rw [Written.threshold, alerts, Bool.or_eq_true, decide_eq_true_iff, decide_eq_true_iff]
    exact or_congr h.negative (h.above high)

/-- What is clamped stands for what it was, unless that is the last integer of the
range, which cannot be told from those past it. -/
theorem of_clamp (hv : v.toInt = clamp k) (hgap : k < 2 ^ 63 → k < 2 ^ 63 - 1) :
    StandsFor v k := by
  constructor
  -- Value and boundary have the same upper end. There they are both past the range, as
  -- the value is not the end itself; anywhere else clamping has no effect on the order.
  · intro n
    rw [Int64.lt_iff_toInt_lt, hv, n.toInt_boundary, clamp, Below, Saturated]
    omega
  · intro n
    rw [Int64.lt_iff_toInt_lt, hv, n.toInt_boundary, clamp, Above, Saturated]
    omega
  · rw [Int64.lt_iff_toInt_lt, hv, clamp, Int64.toInt_zero]
    omega

/-- The whole part of a finite number is never the last integer of the range. -/
theorem of_isFinite {x : Binary64} (h : x.isFinite = true) :
    StandsFor x.toInt64 (wholePart x.exact) := by
  rw [← truncate_eq_wholePart]
  refine of_clamp (toInt_toInt64 h) fun hlt => ?_
  have hle := truncate_le_of_lt hlt
  omega

/-- The largest 64-bit integer stands for all that are past the range. -/
theorem maxValue (hk : 2 ^ 63 ≤ k) : StandsFor Int64.maxValue k := by
  refine of_clamp ?_ (fun hlt => absurd hlt (not_lt.mpr hk))
  rw [Int64.toInt_maxValue, clamp]
  omega

/-- The least one stands for every negative integer, as all boundaries are at least
zero. -/
theorem minValue (hk : k < 0) : StandsFor Int64.minValue k := by
  constructor
  · intro n
    rw [Int64.lt_iff_toInt_lt, Int64.toInt_minValue, n.toInt_boundary, Below, Saturated]
    omega
  · intro n
    rw [Int64.lt_iff_toInt_lt, Int64.toInt_minValue, n.toInt_boundary, Above, Saturated]
    omega
  · rw [Int64.lt_iff_toInt_lt, Int64.toInt_minValue, Int64.toInt_zero]
    omega

theorem zero : StandsFor 0 0 := by
  refine of_clamp ?_ (fun _ => by omega)
  rw [Int64.toInt_zero, clamp]
  omega

end StandsFor

/-! ### Evaluation -/

theorem evaluate_eq_violated_iff {t : Threshold} {v : Binary64} :
    t.evaluate v = .violated ↔ t.alerts v.toInt64 = true := by
  rw [evaluate, evaluateInt]
  cases t.alerts v.toInt64 <;> simp

/-- **Clamping is harmless.** A threshold of the grammar is read, and it is violated
exactly if its condition holds of unbounded integers: of the whole part of a finite
value; of every integer past the range, for positive infinity; of every integer below
zero and hence below all boundaries, for negative infinity; and of zero, where there
is no number. -/
theorem evaluate_unbounded (w : Written) :
    ∃ t, parse w.text = .ok t ∧
      (∀ v : Binary64, v.isFinite = true →
        (t.evaluate v = .violated ↔ w.Alerts (wholePart v.exact))) ∧
      (∀ k : ℤ, 2 ^ 63 ≤ k → (t.evaluate (infinity false) = .violated ↔ w.Alerts k)) ∧
      (∀ k : ℤ, k < 0 → (t.evaluate (infinity true) = .violated ↔ w.Alerts k)) ∧
      ∀ v : Binary64, v.isNaN = true → (t.evaluate v = .violated ↔ w.Alerts 0) := by
  refine ⟨w.threshold, parse_text w, ?_, ?_, ?_, ?_⟩
  · intro v hv
    rw [evaluate_eq_violated_iff]
    exact (StandsFor.of_isFinite hv).alerts_iff w
  · intro k hk
    rw [evaluate_eq_violated_iff, toInt64_infinity]
    exact (StandsFor.maxValue hk).alerts_iff w
  · intro k hk
    rw [evaluate_eq_violated_iff, toInt64_infinity]
    exact (StandsFor.minValue hk).alerts_iff w
  · intro v hv
    rw [evaluate_eq_violated_iff, toInt64_of_isNaN hv]
    exact StandsFor.zero.alerts_iff w

-- The corner: the value is above the boundary, but both are past the range.
example : (parse "9223372036854775807").map (evaluate · (Binary64.ofNat false (2 ^ 63))) =
    .ok .within := by decide +kernel

end Threshold

end SqlProbe
