import SqlProbe.Proofs.Number.Order
import SqlProbe.Proofs.Threshold.Saturation

/-!
# Five forms and one range

Every threshold names a range of integers, which has a lower end, an upper end or both
(`Threshold.covers`). Four of the forms alert outside their range and one alerts in it, and
this is the only difference that forms make (`Threshold.evaluateInt_eq_answerInside_iff`).
The boundaries are any 64-bit integers here. They may be negative, and the lower one may be
above the upper one, so that nothing is in the range.

A range has no gaps, which is a fact about integers (`Threshold.covers_of_between`). The
values are numbers with fractions and infinities, which are made integers first. That step
keeps the order (`Binary64.toInt64_mono`), and so the numbers that are answered as those in
the range have no gaps either. `Threshold.forms_related` puts it together.
-/

namespace SqlProbe

namespace Threshold

variable {t : Threshold}

/-! ### The range of a threshold -/

/-- Whether an integer is in the range that the threshold names. -/
def covers : Threshold → Int64 → Bool
  | atLeast low, v => low ≤ v
  | atMost high, v => v ≤ high
  | outside low high, v => low ≤ v && v ≤ high
  | inside low high, v => low ≤ v && v ≤ high
  | upTo high, v => 0 ≤ v && v ≤ high

/-- The answer to what is in the range. -/
def answerInside : Threshold → Outcome
  | inside _ _ => .violated
  | _ => .within

/-- **One rule for all forms.** What is in the range has its answer, and nothing else has
the same. -/
theorem evaluateInt_eq_answerInside_iff {v : Int64} :
    t.evaluateInt v = t.answerInside ↔ t.covers v = true := by
  -- Not to be below an end is to be on its other side.
  cases t <;> simp [evaluateInt, alerts, answerInside, covers, Int64.not_lt]

/-- What is between two integers is between the ends that they are between. -/
theorem between_of_between {low high u v w : Int64} (huv : u ≤ v) (hvw : v ≤ w)
    (hu : (low ≤ u && u ≤ high) = true) (hw : (low ≤ w && w ≤ high) = true) :
    (low ≤ v && v ≤ high) = true := by
  rw [Bool.and_eq_true, decide_eq_true_iff, decide_eq_true_iff] at *
  exact ⟨Int64.le_trans hu.1 huv, Int64.le_trans hvw hw.2⟩

/-- **A range has no gaps.** -/
theorem covers_of_between {u v w : Int64} (huv : u ≤ v) (hvw : v ≤ w)
    (hu : t.covers u = true) (hw : t.covers w = true) : t.covers v = true := by
  cases t with
  | atLeast low =>
    have hlow : low ≤ u := of_decide_eq_true hu
    exact decide_eq_true (Int64.le_trans hlow huv)
  | atMost high =>
    have hhigh : w ≤ high := of_decide_eq_true hw
    exact decide_eq_true (Int64.le_trans hvw hhigh)
  | outside low high => exact between_of_between huv hvw hu hw
  | inside low high => exact between_of_between huv hvw hu hw
  | upTo high => exact between_of_between huv hvw hu hw

/-! ### The answers to numbers -/

/-- What is between two numbers with an answer has the same answer. -/
def SameBetween (t : Threshold) (o : Outcome) : Prop :=
  ∀ a b c : Binary64, a ≤ b → b ≤ c → t.evaluate a = o → t.evaluate c = o → t.evaluate b = o

/-- The numbers that are answered as those in the range have no gaps. -/
theorem sameBetween_answerInside (t : Threshold) : t.SameBetween t.answerInside := by
  intro a b c hab hbc ha hc
  unfold evaluate at ha hc ⊢
  rw [evaluateInt_eq_answerInside_iff] at ha hc ⊢
  exact covers_of_between (Binary64.toInt64_mono hab) (Binary64.toInt64_mono hbc) ha hc

theorem evaluate_eq_within_iff {v : Binary64} :
    t.evaluate v = .within ↔ t.alerts v.toInt64 = false := by
  rw [evaluate, evaluateInt]
  cases t.alerts v.toInt64 <;> simp

/-- **One algebra of ranges.** For boundaries and numbers of any kind: to be in a range is
the opposite of being out of it, to be out of it is to be past one of its ends, and the
form with one bare boundary is the range from zero. Between two numbers that raise no
alert there is none that does, but for the form that alerts in its range, which has
alerts between any two alerts. -/
theorem forms_related :
    (∀ low high v, (inside low high).evaluate v = .violated ↔
      (outside low high).evaluate v = .within) ∧
    (∀ low high v, (outside low high).evaluate v = .violated ↔
      (atLeast low).evaluate v = .violated ∨ (atMost high).evaluate v = .violated) ∧
    (∀ high v, (upTo high).evaluate v = (outside 0 high).evaluate v) ∧
    ∀ low high,
      (atLeast low).SameBetween .within ∧ (atMost high).SameBetween .within ∧
      (outside low high).SameBetween .within ∧ (upTo high).SameBetween .within ∧
      (inside low high).SameBetween .violated := by
  refine ⟨?_, ?_, fun _ _ => rfl, ?_⟩
  · intro low high v
    rw [evaluate_eq_violated_iff, evaluate_eq_within_iff]
    unfold alerts
    -- A value is in the range if, seen from either end, it is not on the other side.
    rw [Bool.and_eq_true, Bool.or_eq_false_iff, decide_eq_true_iff, decide_eq_true_iff,
      decide_eq_false_iff_not, decide_eq_false_iff_not, Int64.not_lt, Int64.not_lt]
  · intro low high v
    rw [evaluate_eq_violated_iff, evaluate_eq_violated_iff, evaluate_eq_violated_iff]
    exact Bool.or_eq_true_iff
  · intro low high
    exact ⟨sameBetween_answerInside _, sameBetween_answerInside _, sameBetween_answerInside _,
      sameBetween_answerInside _, sameBetween_answerInside _⟩

/-- From minus one half to one, by way of one half. The first two have the whole part zero. -/
theorem forms_related_across_zero :
    (⟨0xBFE0000000000000⟩ : Binary64) ≤ ⟨0x3FE0000000000000⟩ ∧
      (⟨0x3FE0000000000000⟩ : Binary64) ≤ ⟨0x3FF0000000000000⟩ ∧
      (upTo 1).evaluate ⟨0xBFE0000000000000⟩ = .within ∧
      (upTo 1).evaluate ⟨0x3FF0000000000000⟩ = .within ∧
      (upTo 1).evaluate ⟨0x3FE0000000000000⟩ = .within := by
  have hab : (⟨0xBFE0000000000000⟩ : Binary64) ≤ ⟨0x3FE0000000000000⟩ := by decide +kernel
  have hbc : (⟨0x3FE0000000000000⟩ : Binary64) ≤ ⟨0x3FF0000000000000⟩ := by decide +kernel
  have ha : (upTo 1).evaluate ⟨0xBFE0000000000000⟩ = .within := by decide +kernel
  have hc : (upTo 1).evaluate ⟨0x3FF0000000000000⟩ = .within := by decide +kernel
  obtain ⟨-, -, -, hbetween⟩ := forms_related
  obtain ⟨-, -, -, hupTo, -⟩ := hbetween 0 1
  exact ⟨hab, hbc, ha, hc, hupTo _ _ _ hab hbc ha hc⟩

end Threshold

end SqlProbe
