import SqlProbe.Decision
import SqlProbe.Proofs.Numeral.Exponents
import SqlProbe.Proofs.Numeral.Writing
import SqlProbe.Proofs.Threshold.Grammar

/-!
# The canonical text of a threshold

Many texts are one and the same threshold. Zeros may stand in front of a boundary, and all
boundaries past the 64-bit range are the end of that range. Of these texts one is written
back (`Threshold.text`), and it is the canonical one: the digits of each boundary, in the
form that was read.

* `Threshold.written`: the canonical text as a text of the grammar. It has a run of digits
  for each boundary, and that is what a boundary below zero cannot have
  (`Threshold.parse_text_of_neg`).
* `Threshold.parse_text_of_nonneg`: what is written is read back.
* `Threshold.Written.length_written_le`: no text of the threshold is shorter.

A decision reads a threshold and forgets its text, unless it is none. So the canonical text
can take the place of any other one (`Comparison.decision_withThreshold_congr`). Everything
is put together in `Threshold.text_canonical`.
-/

namespace SqlProbe

namespace Threshold

variable {t : Threshold} {b : Int64}

/-! ### Boundaries in digits -/

/-- The boundaries that the form has. -/
def boundaries (t : Threshold) : List Int64 := t.low?.toList ++ t.high?.toList

namespace Run

/-- The digits of a boundary. Those of a negative one are the digits of zero. -/
def ofBoundary (b : Int64) : Run where
  digits := Nat.toDigits 10 b.toInt.toNat
  ne_nil := Nat.toDigits_ne_nil
  all := fun _ hc => Digit.isDecimal_of_mem_toDigits hc

theorem number_ofBoundary (b : Int64) : (ofBoundary b).number = b.toInt.toNat :=
  Digit.natOf_toDigits (by decide) (by decide) _

/-- A boundary is the one that its digits stand for. -/
theorem boundary_ofBoundary (hb : 0 ≤ b) : (ofBoundary b).boundary = b := by
  rw [Int64.le_iff_toInt_le, Int64.toInt_zero] at hb
  have hlt := b.toInt_lt
  rw [← Int64.toInt_inj, toInt_boundary, number_ofBoundary]
  omega

/-- What digits stand for is never below zero. -/
theorem boundary_nonneg (n : Run) : 0 ≤ n.boundary := by
  rw [Int64.le_iff_toInt_le, Int64.toInt_zero, toInt_boundary]
  omega

/-- Read and written again, a run of digits does not get longer: zeros in front are left
out, and the end of the range is the smallest number that stands for it. -/
theorem length_ofBoundary_le (n : Run) :
    (ofBoundary n.boundary).digits.length ≤ n.digits.length := by
  have hpos : 0 < n.digits.length := List.length_pos_of_ne_nil n.ne_nil
  have hlt : n.number < 10 ^ n.digits.length := Numeral.natOf_lt_pow n.all
  have hle : n.boundary.toInt.toNat ≤ n.number := by
    rw [toInt_boundary]
    omega
  exact (Nat.length_toDigits_le_iff (by decide) hpos).mpr (Nat.lt_of_le_of_lt hle hlt)

end Run

/-- A boundary that is not negative is written with its digits and nothing else. -/
theorem toList_boundaryText (hb : 0 ≤ b) : (boundaryText b).toList = (Run.ofBoundary b).digits := by
  rw [Int64.le_iff_toInt_le, Int64.toInt_zero] at hb
  have habs : b.toInt.natAbs = b.toInt.toNat := by omega
  unfold boundaryText
  rw [if_neg (by omega), Nat.repr_eq_ofList_toDigits, String.toList_ofList, habs]
  rfl

/-- A negative one has its sign in front. -/
theorem minus_mem_boundaryText (hb : b < 0) : '-' ∈ (boundaryText b).toList := by
  rw [Int64.lt_iff_toInt_lt, Int64.toInt_zero] at hb
  unfold boundaryText
  rw [if_pos hb, String.toList_append]
  exact List.mem_append_left _ (List.mem_singleton_self '-')

/-! ### Thresholds in digits -/

/-- The threshold in its form, with the digits of its boundaries. -/
def written : Threshold → Written
  | atLeast low => .atLeast (.ofBoundary low)
  | atMost high => .atMost (.ofBoundary high)
  | outside low high => .outside (.ofBoundary low) (.ofBoundary high)
  | inside low high => .inside (.ofBoundary low) (.ofBoundary high)
  | upTo high => .upTo (.ofBoundary high)

/-- It means what it was made of. -/
theorem threshold_written (h : ∀ b ∈ t.boundaries, 0 ≤ b) : t.written.threshold = t := by
  have hboundary : ∀ b ∈ t.boundaries, (Run.ofBoundary b).boundary = b := fun b hb =>
    Run.boundary_ofBoundary (h b hb)
  cases t <;> simp_all [written, Written.threshold, boundaries, low?, high?]

/-- It is what the program writes. -/
theorem text_written (h : ∀ b ∈ t.boundaries, 0 ≤ b) : t.written.text = t.text := by
  have hdigits : ∀ b ∈ t.boundaries, (boundaryText b).toList = (Run.ofBoundary b).digits :=
    fun b hb => toList_boundaryText (h b hb)
  rw [Written.text_eq_iff]
  cases t <;> simp_all [written, Written.chars, boundaries, low?, high?, text, String.toList_append]

/-- **What is written is read back**, if there is no sign in it. -/
theorem parse_text_of_nonneg (h : ∀ b ∈ t.boundaries, 0 ≤ b) : parse t.text = .ok t :=
  parse_eq_ok_iff.mpr ⟨t.written, text_written h, threshold_written h⟩

/-- Whatever stands in the text of a boundary stands in that of the threshold. -/
theorem mem_text_of_mem_boundaryText {c : Char} (hb : b ∈ t.boundaries)
    (hc : c ∈ (boundaryText b).toList) : c ∈ t.text.toList := by
  cases t <;> simp only [boundaries, low?, high?, Option.toList_some, Option.toList_none,
    List.nil_append, List.append_nil, List.cons_append, List.mem_cons, List.not_mem_nil,
    or_false] at hb <;> simp only [text, String.toList_append, List.mem_append]
  case atLeast low =>
    exact .inl (hb ▸ hc)
  case atMost high =>
    exact .inr (hb ▸ hc)
  case outside low high =>
    obtain rfl | rfl := hb
    · exact .inl (.inl hc)
    · exact .inr hc
  case inside low high =>
    obtain rfl | rfl := hb
    · exact .inl (.inl (.inr hc))
    · exact .inr hc
  case upTo high =>
    exact hb ▸ hc

/-- **A sign is in no text of the grammar**, so that it is refused with the whole text. -/
theorem parse_text_of_neg (h : ∃ b ∈ t.boundaries, b < 0) : parse t.text = .error ⟨t.text⟩ := by
  refine parse_eq_error_iff.mpr ⟨rfl, fun w hw => ?_⟩
  obtain ⟨b, hb, hneg⟩ := h
  have hminus := mem_text_of_mem_boundaryText hb (minus_mem_boundaryText hneg)
  rw [← hw, Written.text, String.toList_ofList] at hminus
  exact absurd (Written.mark_of_mem_chars hminus) (by decide)

namespace Written

/-- What is read has no boundary below zero. -/
theorem nonneg_of_mem_boundaries (w : Written) : ∀ b ∈ w.threshold.boundaries, 0 ≤ b := by
  cases w <;> simp [threshold, boundaries, low?, high?, Run.boundary_nonneg]

/-- **The canonical text is the shortest.** -/
theorem length_written_le (w : Written) :
    w.threshold.written.chars.length ≤ w.chars.length := by
  cases w with
  | atLeast low =>
    have hlow := low.length_ofBoundary_le
    simpa [threshold, written, chars]
  | atMost high =>
    have hhigh := high.length_ofBoundary_le
    simpa [threshold, written, chars]
  | outside low high =>
    have hlow := low.length_ofBoundary_le
    have hhigh := high.length_ofBoundary_le
    simp only [threshold, written, chars, List.length_append, List.length_cons]
    omega
  | inside low high =>
    have hlow := low.length_ofBoundary_le
    have hhigh := high.length_ofBoundary_le
    simp only [threshold, written, chars, List.length_append, List.length_cons]
    omega
  | upTo high => exact high.length_ofBoundary_le

end Written

end Threshold

/-! ### Decisions -/

/-- A threshold is judged by what is read of it. -/
theorem Decision.compareThreshold_congr {raw raw' : String} {t : Threshold}
    (h : Threshold.parse raw = .ok t) (h' : Threshold.parse raw' = .ok t) (level : Level)
    (v : Binary64) (d : Decision) :
    d.compareThreshold level v (some raw) = d.compareThreshold level v (some raw') := by
  simp only [compareThreshold, h, h']

namespace Comparison

variable {raw raw' : String} {t : Threshold}

/-- The comparison with another text for one of its thresholds. -/
def withThreshold (c : Comparison) : Level → String → Comparison
  | .warning, raw => { c with warn := some raw }
  | .critical, raw => { c with crit := some raw }

/-- **Two texts of one threshold** lead to the same decision, on whatever reading and with
whatever else is compared. -/
theorem decision_withThreshold_congr (h : Threshold.parse raw = .ok t)
    (h' : Threshold.parse raw' = .ok t) (c : Comparison) (level : Level) (r : Reading) :
    (c.withThreshold level raw).decision r = (c.withThreshold level raw').decision r := by
  -- Up to the thresholds the two decisions are one.
  cases level with
  | warning =>
    refine congrArg (Decision.andThen _) (funext fun d => ?_)
    simp only [withThreshold, Decision.compareNumber, Option.isNone_some, Bool.false_and,
      Bool.false_eq_true, if_false, Decision.compareThreshold_congr h h']
  | critical =>
    refine congrArg (Decision.andThen _) (funext fun d => ?_)
    have hcompare : ∀ v, Decision.compareThreshold .critical v (some raw) =
        Decision.compareThreshold .critical v (some raw') := fun v =>
      funext (Decision.compareThreshold_congr h h' .critical v)
    simp only [withThreshold, Decision.compareNumber, Option.isNone_some, Bool.and_false,
      Bool.false_eq_true, if_false, hcompare]

end Comparison

namespace Threshold

/-- **The canonical text.** What is written of a threshold is read as this threshold if no
boundary is below zero, and refused if one is. Of a text that is read, it is a text no
longer than that one; it is read as the same threshold, and written again it is the same
text; and in the place of that one it leaves every decision as it was, with its severity,
message and notes. -/
theorem text_canonical :
    (∀ t : Threshold,
      ((∀ b ∈ t.boundaries, 0 ≤ b) → parse t.text = .ok t) ∧
      ((∃ b ∈ t.boundaries, b < 0) → parse t.text = .error ⟨t.text⟩)) ∧
    ∀ raw t, parse raw = .ok t →
      t.text.length ≤ raw.length ∧
      parse t.text = .ok t ∧
      (parse t.text).map text = .ok t.text ∧
      ∀ (c : Comparison) (level : Level) (r : Reading),
        (c.withThreshold level t.text).decide r = (c.withThreshold level raw).decide r := by
  constructor
  · intro t
    exact ⟨parse_text_of_nonneg, parse_text_of_neg⟩
  · intro raw t h
    obtain ⟨w, rfl, rfl⟩ := parse_eq_ok_iff.mp h
    have hnonneg := w.nonneg_of_mem_boundaries
    have hread : parse w.threshold.text = .ok w.threshold := parse_text_of_nonneg hnonneg
    refine ⟨?_, hread, ?_, ?_⟩
    · rw [← text_written hnonneg, Written.text, Written.text, String.length_ofList,
        String.length_ofList]
      exact w.length_written_le
    · rw [hread]
      rfl
    · intro c level r
      exact congrArg (Decision.verdict · r.raw)
        (Comparison.decision_withThreshold_congr hread h c level r)

/-- Zeros in front of one boundary, and the other one past the range. -/
theorem text_canonical_saturated :
    parse "007:99999999999999999999" = .ok (outside 7 Int64.maxValue) ∧
      (outside 7 Int64.maxValue).text = "7:9223372036854775807" ∧
      parse "7:9223372036854775807" = .ok (outside 7 Int64.maxValue) ∧
      "7:9223372036854775807".length ≤ "007:99999999999999999999".length ∧
      (Comparison.decide ⟨none, none, none, some "7:9223372036854775807"⟩ (.ofText "6")) =
        (Comparison.decide ⟨none, none, none, some "007:99999999999999999999"⟩ (.ofText "6")) := by
  have hparse : parse "007:99999999999999999999" = .ok (outside 7 Int64.maxValue) := by
    decide +kernel
  have htext : (outside 7 Int64.maxValue).text = "7:9223372036854775807" := by decide +kernel
  obtain ⟨hlength, hread, -, hdecide⟩ := text_canonical.2 _ _ hparse
  rw [htext] at hlength hread hdecide
  exact ⟨hparse, htext, hread, hlength, hdecide ⟨none, none, none, none⟩ .critical (.ofText "6")⟩

-- A negative boundary can be in a threshold, but it cannot be read.
example : (atLeast (-1)).text = "-1:" := by decide +kernel

end Threshold

end SqlProbe
