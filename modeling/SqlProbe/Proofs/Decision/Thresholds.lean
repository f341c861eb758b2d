import SqlProbe.Proofs.Decision.Parts
import SqlProbe.Proofs.Numeral.Exact
import SqlProbe.Proofs.Threshold.Saturation

/-!
# Decisions by thresholds alone

What becomes of a result text if nothing is configured but thresholds, from the text
to the severity. The severity is then a function of the whole part of the number and
of the thresholds as they are written (`Comparison.severity_ofThresholds`), and two
questions about it can be answered without rounding.

* `Comparison.classifies_integers`: for an integer up to `2 ^ 53`, of either sign, it is
  what the conditions say of that integer, over unbounded integers.
* `Comparison.responds_in_order`: for thresholds with one boundary it follows the order
  of the numbers that are spelled, from text to text. Each stage in between keeps the
  order: rounding, truncation, and the condition with its saturated boundary.

The second one is about numbers whose exponents are read up to the ceiling. An exponent
that goes on after it can spell a larger number than is read
(`Comparison.not_responds_in_order_farExponent`).
-/

namespace SqlProbe

open Binary64
open Threshold (Run Written)

/-! ### Conditions on integers -/

namespace Threshold.Written

/-- **The condition of a form**, with nothing past any range. -/
def ViolatedBy (k : ℤ) : Written → Prop
  | atLeast low => k < low.number
  | atMost high => (high.number : ℤ) < k
  | outside low high => k < low.number ∨ (high.number : ℤ) < k
  | inside low high => (low.number : ℤ) ≤ k ∧ k ≤ high.number
  | upTo high => k < 0 ∨ (high.number : ℤ) < k

instance (k : ℤ) : (w : Written) → Decidable (w.ViolatedBy k)
  | atLeast low => inferInstanceAs (Decidable (k < low.number))
  | atMost high => inferInstanceAs (Decidable ((high.number : ℤ) < k))
  | outside low high => inferInstanceAs (Decidable (k < low.number ∨ (high.number : ℤ) < k))
  | inside low high => inferInstanceAs (Decidable ((low.number : ℤ) ≤ k ∧ k ≤ high.number))
  | upTo high => inferInstanceAs (Decidable (k < 0 ∨ (high.number : ℤ) < k))

variable {k k' : ℤ}

/-- Below the end of the range saturation has no say. -/
theorem alerts_iff_violatedBy (hk : k < 2 ^ 63) (w : Written) : w.Alerts k ↔ w.ViolatedBy k := by
  have hsat : ∀ n : ℕ, ¬ Saturated k n := fun n h => absurd h.1 (not_le.mpr hk)
  cases w with
  | atLeast low => exact and_iff_left (hsat _)
  | atMost high => exact and_iff_left (hsat _)
  | outside low high => exact or_congr (and_iff_left (hsat _)) (and_iff_left (hsat _))
  | inside low high =>
    exact and_congr ((not_congr (and_iff_left (hsat _))).trans not_lt)
      ((not_congr (and_iff_left (hsat _))).trans not_lt)
  | upTo high => exact or_congr Iff.rfl (and_iff_left (hsat _))

/-- A larger integer is no less above a boundary. Where it is past the range together
with the boundary, the smaller one is too, or it is not above. -/
theorem alerts_atMost_mono (n : Run) (hk : k ≤ k') (h : (atMost n).Alerts k) :
    (atMost n).Alerts k' := by
  unfold Alerts Above Saturated at h ⊢
  omega

theorem alerts_atLeast_anti (n : Run) (hk : k ≤ k') (h : (atLeast n).Alerts k') :
    (atLeast n).Alerts k := by
  unfold Alerts Below Saturated at h ⊢
  omega

/-- From zero on only the upper boundary counts. -/
theorem alerts_upTo_mono (n : Run) (h0 : 0 ≤ k) (hk : k ≤ k') (h : (upTo n).Alerts k) :
    (upTo n).Alerts k' := by
  unfold Alerts at h ⊢
  exact .inr (alerts_atMost_mono n hk (h.resolve_left (not_lt.mpr h0)))

end Threshold.Written

/-! ### The severity of two thresholds -/

/-- What a level adds to the severity: its own if there is an alert. -/
def Level.answer (level : Level) (alert : Bool) : Severity :=
  if alert then level.severity else .ok

theorem Level.answer_le_answer {level : Level} {a b : Bool} (h : a = true → b = true) :
    level.answer a ≤ level.answer b := by
  cases a with
  | false => exact Severity.ok_le _
  | true =>
    rw [h rfl]
    exact Severity.le_refl _

/-- A threshold as written is read, so that its level has an answer to a number. -/
theorem Reading.againstThreshold_written {r : Reading} {v : Binary64} (hv : r.number = some v)
    (level : Level) (w : Option Written) :
    r.againstThreshold level (w.map Written.text) =
      level.answer (w.any fun w => w.threshold.alerts v.toInt64) := by
  cases w with
  | none => exact Reading.againstThreshold_none level
  | some w =>
    rw [againstThreshold, hv]
    simp only [Option.map_some, Option.any_some, Decision.compareThreshold,
      Threshold.parse_text, Threshold.evaluate, Threshold.evaluateInt]
    cases w.threshold.alerts v.toInt64 <;> cases level <;> rfl

namespace Comparison

/-- The comparison with thresholds as they are written, and with nothing else. -/
def ofThresholds (warn crit : Option Written) : Comparison where
  expected := none
  pattern := none
  warn := warn.map Written.text
  crit := crit.map Written.text

/-- The severity that an integer deserves: that of the critical condition if it
violates that one, else that of the warning condition if it violates that. -/
def deserved (warn crit : Option Written) (n : ℤ) : Severity :=
  if crit.any fun w => w.ViolatedBy n then .critical
  else if warn.any fun w => w.ViolatedBy n then .warning
  else .ok

section Severity

variable {raw raw' : String} {v v' : Binary64} {warn crit : Option Written}

/-- **The severity** is that of two answers. -/
theorem severity_ofThresholds (hv : Reading.numberOf raw = some v) :
    ((ofThresholds warn crit).decide (.ofText raw)).severity =
      (Level.warning.answer (warn.any fun w => w.threshold.alerts v.toInt64)).escalate
        (Level.critical.answer (crit.any fun w => w.threshold.alerts v.toInt64)) := by
  rw [severity_decide]
  simp only [ofThresholds, Reading.againstText_none, Reading.againstPattern_none,
    Severity.ok_escalate, Reading.againstThreshold_written (r := .ofText raw) hv]

/-- Nothing is in the way of an answer, and so the message is the reading. -/
theorem message_ofThresholds (hv : Reading.numberOf raw = some v) :
    ((ofThresholds warn crit).decide (.ofText raw)).message = raw := by
  refine message_of_ne_unknown ?_
  rw [severity_ofThresholds hv]
  cases warn.any fun w => w.threshold.alerts v.toInt64 <;>
    cases crit.any fun w => w.threshold.alerts v.toInt64 <;> decide

/-- What a threshold as written says of a finite number, level by level. -/
theorem any_alerts_iff (hv : Reading.numberOf raw = some v) {w : Option Written} :
    (w.any fun w => w.threshold.alerts v.toInt64) = true ↔
      ∃ t, w = some t ∧ t.Alerts (wholePart v.exact) := by
  cases w with
  | none => simp
  | some t =>
    have h := (Threshold.StandsFor.of_isFinite (Reading.isFinite_of_mem_numberOf hv)).alerts_iff t
    simpa using h

/-- **No alert is lost.** If a condition of the one form that is configured, holding of one
number, holds of another one, the severity does not fall from the one to the other. -/
theorem severity_le_of_alerts (hv : Reading.numberOf raw = some v)
    (hv' : Reading.numberOf raw' = some v') {form : Run → Written}
    (h : ∀ n, (form n).Alerts (wholePart v.exact) → (form n).Alerts (wholePart v'.exact))
    (warn crit : Option Run) :
    ((ofThresholds (warn.map form) (crit.map form)).decide (.ofText raw)).severity ≤
      ((ofThresholds (warn.map form) (crit.map form)).decide (.ofText raw')).severity := by
  have hany : ∀ n : Option Run,
      ((n.map form).any fun w => w.threshold.alerts v.toInt64) = true →
        ((n.map form).any fun w => w.threshold.alerts v'.toInt64) = true := by
    intro n
    rw [any_alerts_iff hv, any_alerts_iff hv']
    rintro ⟨t, ht, halerts⟩
    obtain ⟨n, -, rfl⟩ := Option.map_eq_some_iff.mp ht
    exact ⟨_, ht, h n halerts⟩
  -- Each level keeps its alert, and escalation is monotone in both answers.
  rw [severity_ofThresholds hv, severity_ofThresholds hv']
  exact Severity.escalate_le_escalate (Level.answer_le_answer (hany warn))
    (Level.answer_le_answer (hany crit))

/-- **Integers within the range** get the severity that they deserve. -/
theorem severity_eq_deserved {n : ℤ} (hv : Reading.numberOf raw = some v) (hx : v.exact = n)
    (hn : n < 2 ^ 63) :
    ((ofThresholds warn crit).decide (.ofText raw)).severity = deserved warn crit n := by
  have hany : ∀ w : Option Written, (w.any fun w => w.threshold.alerts v.toInt64) =
      w.any fun w => w.ViolatedBy n := by
    intro w
    rw [Bool.eq_iff_iff, any_alerts_iff hv, hx, wholePart_intCast, Option.any_eq_true]
    simp only [Written.alerts_iff_violatedBy hn, decide_eq_true_iff]
  rw [severity_ofThresholds hv, hany, hany, deserved]
  cases warn.any fun w => Decidable.decide (w.ViolatedBy n) <;>
    cases crit.any fun w => Decidable.decide (w.ViolatedBy n) <;> rfl

end Severity

/-! ### Integers -/

/-- **Integer results are classified exactly.** Blanks, sign, separators and base do not
matter: an integer up to `2 ^ 53`, of either sign, gets the severity that the conditions
give it, for boundaries of any size, and the message is the text as it was returned. -/
theorem classifies_integers {raw : String} {n : ℤ} (hraw : Reading.SpellsInteger raw n)
    (hn : |n| ≤ 2 ^ 53) (warn crit : Option Written) :
    ((ofThresholds warn crit).decide (.ofText raw)).severity = deserved warn crit n ∧
      ((ofThresholds warn crit).decide (.ofText raw)).message = raw := by
  have hnatAbs : n.natAbs ≤ 2 ^ 53 := by
    rw [Int.abs_eq_natAbs] at hn
    exact_mod_cast hn
  obtain ⟨v, hv, hx⟩ :=
    (hraw.spells (hnatAbs.trans_lt (by decide))).exists_numberOf_of_integer hnatAbs
  -- The integer is far within the range, so that no boundary is cut to it.
  have hlt : n < 2 ^ 63 := by omega
  exact ⟨severity_eq_deserved hv hx hlt, message_ofThresholds hv⟩

/-- Sixteen, between blanks and in hexadecimal digits, is above 10 and not above 16. -/
theorem classifies_integers_hexadecimal :
    Reading.SpellsInteger " 0x1_0\n" 16 ∧ |(16 : ℤ)| ≤ 2 ^ 53 ∧
      ((ofThresholds (some (.upTo (.ofString "10" (by decide))))
          (some (.upTo (.ofString "16" (by decide))))).decide
        (.ofText " 0x1_0\n")).severity = .warning := by
  have hrun : Numeral.DigitRun Digit.isHex ['1', '_', '0'] ['1', '0'] :=
    .separated (by decide) (.single (by decide))
  have hraw : Reading.SpellsInteger " 0x1_0\n" 16 :=
    ⟨[' '], [], _, ['\n'], false, _, by decide, List.all_eq_true.mp rfl, List.all_eq_true.mp rfl,
      .absent,
      .hexadecimal (.inl rfl) hrun, by decide⟩
  have hn : |(16 : ℤ)| ≤ 2 ^ 53 := by decide
  exact ⟨hraw, hn, (classifies_integers hraw hn _ _).1.trans (by decide)⟩

/-! ### Order -/

/-- **Larger numbers, higher severity.** For two texts with a number each, the severity
does not fall from the smaller exact number to the larger one if each threshold alerts
above its boundary; it does not rise if each alerts below; and for numbers from zero on
it does not fall if each alerts outside zero and its boundary. The exponent of a text
is read up to the ceiling, or as a whole if the text is not too long. -/
theorem responds_in_order {reads : List Char → Nat → Prop} {raw raw' : String}
    {v v' : Binary64} {q q' : ℚ}
    (hreads : reads = Numeral.ReadsUpTo 65536 ∨
      reads = Numeral.ReadsAll ∧ (Text.trim raw.toList).length ≤ 65200 ∧
        (Text.trim raw'.toList).length ≤ 65200)
    (hv : Reading.numberOf raw = some v) (hv' : Reading.numberOf raw' = some v')
    (hq : Reading.Spells reads raw q) (hq' : Reading.Spells reads raw' q') (hle : q ≤ q')
    (warn crit : Option Run) :
    ((ofThresholds (warn.map .atMost) (crit.map .atMost)).decide (.ofText raw)).severity ≤
        ((ofThresholds (warn.map .atMost) (crit.map .atMost)).decide (.ofText raw')).severity ∧
      ((ofThresholds (warn.map .atLeast) (crit.map .atLeast)).decide (.ofText raw')).severity ≤
        ((ofThresholds (warn.map .atLeast) (crit.map .atLeast)).decide (.ofText raw)).severity ∧
      (0 ≤ q →
        ((ofThresholds (warn.map .upTo) (crit.map .upTo)).decide (.ofText raw)).severity ≤
          ((ofThresholds (warn.map .upTo) (crit.map .upTo)).decide (.ofText raw')).severity) := by
  have hx : IsRounded q v := hq.isRounded_numberOf (hreads.imp_right fun h => ⟨h.1, h.2.1⟩) hv
  have hx' : IsRounded q' v' :=
    hq'.isRounded_numberOf (hreads.imp_right fun h => ⟨h.1, h.2.2⟩) hv'
  -- Rounding and truncation keep the order. What is left is the conditions' part.
  have hwhole : wholePart v.exact ≤ wholePart v'.exact :=
    wholePart_mono (hx.exact_le_exact hx' hle)
  refine ⟨?_, ?_, fun h0 => ?_⟩
  · exact severity_le_of_alerts hv hv' (fun n => Written.alerts_atMost_mono n hwhole) ..
  · exact severity_le_of_alerts hv' hv (fun n => Written.alerts_atLeast_anti n hwhole) ..
  · have hnonneg : 0 ≤ wholePart v.exact := wholePart_nonneg (hx.exact_nonneg h0)
    exact severity_le_of_alerts hv hv' (fun n => Written.alerts_upTo_mono n hnonneg hwhole) ..

/-- One and a half and two, in two notations. -/
theorem responds_in_order_mixed :
    Reading.Spells Numeral.ReadsAll "1.5" (3 / 2) ∧ Reading.Spells Numeral.ReadsAll "0x2" 2 ∧
      ((ofThresholds none (some (.atMost (.ofString "1" (by decide))))).decide
          (.ofText "1.5")).severity ≤
        ((ofThresholds none (some (.atMost (.ofString "1" (by decide))))).decide
          (.ofText "0x2")).severity := by
  have hq : Reading.Spells Numeral.ReadsAll "1.5" (3 / 2) := by
    have hone : Numeral.DigitRun Digit.isDecimal ['1'] ['1'] := .single (by decide)
    have hfive : Numeral.DigitRun Digit.isDecimal ['5'] ['5'] := .single (by decide)
    have hd : Numeral.SpelledDecimal (Numeral.DigitRun Digit.isDecimal) Numeral.ReadsAll
        ['1', '.', '5'] ⟨15, -1⟩ := .intro (.pointAmong hone hfive) .absent
    refine ⟨[], [], _, [], false, _, by decide, List.all_eq_true.mp rfl, List.all_eq_true.mp rfl,
      .absent, .decimal hd, ?_⟩
    norm_num [Reading.signed, Magnitude.value, Decimal.value]
  have hq' : Reading.Spells Numeral.ReadsAll "0x2" 2 := by
    have h : Reading.SpellsInteger "0x2" 2 :=
      ⟨[], [], _, [], false, _, by decide, List.all_eq_true.mp rfl, List.all_eq_true.mp rfl, .absent,
        .hexadecimal (.inl rfl) (.single (c := '2') (by decide)), by decide⟩
    exact_mod_cast h.spells (by decide)
  have hv : Reading.numberOf "1.5" = some ⟨0x3FF8000000000000⟩ := by decide +kernel
  have hv' : Reading.numberOf "0x2" = some ⟨0x4000000000000000⟩ := by decide +kernel
  exact ⟨hq, hq', (responds_in_order (.inr ⟨rfl, by decide, by decide⟩) hv hv' hq hq' (by norm_num)
    none (some (.ofString "1" (by decide)))).1⟩

/-- Past the ceiling the order is lost. Ten is above five, and a far larger number with
a long text is not. -/
theorem not_responds_in_order_farExponent :
    ∃ q q' : ℚ, q ≤ q' ∧
      Reading.Spells Numeral.ReadsAll "10" q ∧
      Reading.Spells Numeral.ReadsAll Reading.farExponent q' ∧
      (Reading.numberOf "10").isSome = true ∧
      (Reading.numberOf Reading.farExponent).isSome = true ∧
      ¬ ((ofThresholds none (some (.atMost (.ofString "5" (by decide))))).decide
            (.ofText "10")).severity ≤
          ((ofThresholds none (some (.atMost (.ofString "5" (by decide))))).decide
            (.ofText Reading.farExponent)).severity := by
  have hten : Reading.SpellsInteger "10" 10 :=
    ⟨[], [], _, [], false, _, by decide, List.all_eq_true.mp rfl, List.all_eq_true.mp rfl, .absent,
      .decimal (.adjacent (c := '1') (by decide) (.single (c := '0') (by decide))), by decide⟩
  -- The number that is spelled, and the one that is read: up to the ceiling the exponent is
  -- `65536`, which the places after the point take back.
  have hlarge : Reading.Spells Numeral.ReadsAll Reading.farExponent _ :=
    Reading.spells_farExponent (n := Digit.natOf 10 "655360".toList) rfl
  have hone : Reading.Spells (Numeral.ReadsUpTo Decimal.exponentCeiling) Reading.farExponent
      ((1 : ℤ) : ℚ) := by
    have h := Reading.spells_farExponent (n := 65536)
      (show Numeral.ReadsUpTo Decimal.exponentCeiling _ _ from Decimal.readsUpTo_iff.mpr (by decide))
    rwa [Nat.cast_ofNat, sub_self, zpow_zero, ← Int.cast_one] at h
  obtain ⟨v, hv, hx⟩ := (hten.spells (by decide)).exists_numberOf_of_integer (by decide)
  obtain ⟨v', hv', hx'⟩ := hone.exists_numberOf_of_integer (by decide)
  refine ⟨_, _, ?_, hten.spells (by decide), hlarge, ?_, ?_, ?_⟩
  · have hexp : (1 : ℤ) ≤ (Digit.natOf 10 "655360".toList : ℤ) - (65535 + 1 : Nat) := by decide
    exact_mod_cast zpow_le_zpow_right₀ (by norm_num : (1 : ℚ) ≤ 10) hexp
  · rw [hv, Option.isSome_some]
  · rw [hv', Option.isSome_some]
  · rw [severity_eq_deserved hv hx (by decide), severity_eq_deserved hv' hx' (by decide)]
    decide

end Comparison

end SqlProbe
