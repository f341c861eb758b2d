import SqlProbe.Proofs.Number.Exactness
import SqlProbe.Proofs.Numeral.Reader
import SqlProbe.Proofs.Yaml.Digits

/-!
# Digits of any size as plain scalars

What a run of decimal digits stands for depends on its size (`Scalar.ofPlain_digits`).
With a zero in front that counts for nothing it is a text. Otherwise it is an integer up
to 64 bits, an integer of another kind up to 128 bits, a floating-point number up to
where those end, and a text again past all of them.

Integers and floating-point numbers have texts of their own, which need not be the ones
they are read from. That of an integer is (`Scalar.repr_natOf`). That of a floating-point
number never consists of digits alone, since there is a point or an exponent in it
(`exists_mark_mem_render`).
-/

namespace SqlProbe

/-- A natural number is rounded as such. -/
theorem Decimal.toBinary64_natural (negative : Bool) (n : Nat) :
    Decimal.toBinary64 negative ⟨n, 0⟩ = Binary64.ofNat negative n := by
  have hscale : n * Nat.pow 10 (0 : Int).toNat = n := Nat.mul_one n
  unfold toBinary64
  by_cases hn : n = 0
  · rw [if_pos hn, hn]
    cases negative <;> decide +kernel
  · rw [if_neg hn, if_pos (show (0 : Int) ≤ 0 from le_refl _),
      if_neg (show ¬(309 : Int) ≤ 0 by decide), hscale]

namespace Yaml

open Numeral (PlainRun)

namespace Scalar

variable {ds : List Char}

/-- What a zero in front makes of digits. -/
theorem ofPlain_digits_of_leadingZero (hrun : PlainRun Digit.isDecimal ds ds)
    (hzero : hasLeadingZero ds = true) :
    ofPlain (String.ofList ds) = .text (String.ofList ds) := by
  obtain ⟨c, t, hds⟩ := List.exists_cons_of_ne_nil hrun.ne_nil
  have hhead : (String.ofList ds).toList.head? = some c := by
    rw [String.toList_ofList, hds]
    rfl
  have hinteger : integer? ds = none := by
    unfold integer? unsigned? negative?
    rw [if_pos hzero, if_pos hzero]
    rfl
  rw [ofPlain_of_isDecimal hhead (hrun.all c (hds ▸ List.mem_cons_self)), ofOther,
    String.toList_ofList, hinteger]
  exact if_pos hzero

/-- A natural number as an integer of a width that has one. -/
theorem ofInt?_natCast (n : Nat) :
    ofInt? n = if n < wideStart then some (.integer n)
      else if n < wideEnd then some (.wideInteger n) else none := by
  unfold ofInt?
  by_cases hstart : n < wideStart
  · rw [if_pos hstart, if_pos ⟨by omega, by omega⟩]
  rw [if_neg hstart, if_neg (by omega)]
  by_cases hend : n < wideEnd
  · rw [if_pos hend, if_pos ⟨by omega, by omega⟩]
  · rw [if_neg hend, if_neg (by omega)]

/-- There are floating-point numbers past the integers of any width. -/
theorem wideEnd_lt_overflowStart : wideEnd < Binary64.overflowStart := by decide +kernel

/-- Digits as a floating-point number, which has to be finite. -/
theorem float?_digits (hrun : PlainRun Digit.isDecimal ds ds) :
    float? (String.ofList ds) =
      (some (Binary64.ofNat false (Digit.natOf 10 ds))).filter Binary64.isFinite := by
  obtain ⟨c, t, hds⟩ := List.exists_cons_of_ne_nil hrun.ne_nil
  have hc : Digit.isDecimal c = true := hrun.all c (hds ▸ List.mem_cons_self)
  -- None of the words for infinities and for no number starts with a digit.
  have hwords : ∀ words : List String,
      words.all (fun w => !w.toList.head?.any Digit.isDecimal) = true →
        words.contains (String.ofList ds) = false := by
    intro words hall
    rw [Bool.eq_false_iff, Ne, List.contains_iff_mem]
    intro hmem
    have hword := List.all_eq_true.mp hall _ hmem
    rw [String.toList_ofList, hds, List.head?_cons, Option.any_some, hc] at hword
    cases hword
  have hparse : Decimal.parse? ds = some ⟨Digit.natOf 10 ds, 0⟩ :=
    Decimal.parse?_eq_some_iff.mpr (.of_run hrun)
  have hfinite : finite? false ds =
      (some (Binary64.ofNat false (Digit.natOf 10 ds))).filter Binary64.isFinite := by
    rw [finite?, hparse, Option.map_some, Decimal.toBinary64_natural]
  unfold float?
  rw [hwords _ (by decide), hwords _ (by decide), hwords _ (by decide), String.toList_ofList]
  simp only [Bool.false_eq_true, if_false]
  -- There is no sign in front either.
  have hsigns : ∀ c ∈ ['+', '-'], ∀ t, ds ≠ c :: t := by
    rintro c hsign t rfl
    have hdigit := hrun.all c List.mem_cons_self
    obtain rfl | hsign := List.mem_cons.mp hsign
    · exact absurd hdigit (by decide)
    · obtain rfl := List.mem_singleton.mp hsign
      exact absurd hdigit (by decide)
  split
  · exact absurd rfl (hsigns '+' (by decide) _)
  · exact absurd rfl (hsigns '+' (by decide) _)
  · unfold unsignedFloat?
    split
    · exact absurd rfl (hsigns '-' (by decide) _)
    · exact hfinite

/-- **Digits.** -/
theorem ofPlain_digits (hrun : PlainRun Digit.isDecimal ds ds)
    (hzero : hasLeadingZero ds = false) :
    ofPlain (String.ofList ds) =
      if Digit.natOf 10 ds < wideStart then .integer (Digit.natOf 10 ds)
      else if Digit.natOf 10 ds < wideEnd then .wideInteger (Digit.natOf 10 ds)
      else if Digit.natOf 10 ds < Binary64.overflowStart then
        .float (Binary64.ofNat false (Digit.natOf 10 ds))
      else .text (String.ofList ds) := by
  obtain ⟨c, t, hds⟩ := List.exists_cons_of_ne_nil hrun.ne_nil
  have hhead : (String.ofList ds).toList.head? = some c := by
    rw [String.toList_ofList, hds]
    rfl
  rw [ofPlain_of_isDecimal hhead (hrun.all c (hds ▸ List.mem_cons_self)), ofOther,
    String.toList_ofList, integer?_digits hrun hzero, hzero, float?_digits hrun]
  generalize Digit.natOf 10 ds = n
  rw [ofInt?_natCast]
  by_cases hstart : n < wideStart
  · rw [if_pos hstart, if_pos hstart]
  by_cases hend : n < wideEnd
  · rw [if_neg hstart, if_pos hend, if_neg hstart, if_pos hend]
  rw [if_neg hstart, if_neg hend, if_neg hstart, if_neg hend]
  by_cases hfinite : n < Binary64.overflowStart
  · rw [Option.filter_some, if_pos (Binary64.isFinite_ofNat.mpr hfinite), if_pos hfinite]
    rfl
  · rw [Option.filter_some, if_neg (mt Binary64.isFinite_ofNat.mp hfinite), if_neg hfinite]
    rfl

/-- **The text of an integer** is the one it is read from. -/
theorem repr_natOf (hrun : PlainRun Digit.isDecimal ds ds) (hzero : hasLeadingZero ds = false) :
    (Digit.natOf 10 ds : Int).repr = String.ofList ds := by
  have hhead : ds.head? = some '0' → ds = ['0'] := by
    intro h
    obtain ⟨c, t, rfl⟩ := List.exists_cons_of_ne_nil hrun.ne_nil
    obtain rfl := Option.some.inj h
    cases t with
    | nil => rfl
    | cons d t =>
      -- What follows the zero are digits, so that the zero counts for nothing.
      have hall : (d :: t).all Digit.isDecimal = true :=
        List.all_eq_true.mpr fun c hc => hrun.all c (List.mem_cons_of_mem _ hc)
      unfold hasLeadingZero at hzero
      rw [dropSign_digits hrun] at hzero
      exact absurd (hall.symm.trans hzero) (by decide)
  show (Digit.natOf 10 ds).repr = _
  rw [Nat.repr_eq_ofList_toDigits, Digit.toDigits_natOf hrun hhead]

end Scalar

/-- **The text of a floating-point number** has a point or an exponent. -/
theorem exists_mark_mem_render (x : Binary64) :
    ∃ c ∈ (numberLayout.render x).toList, c = '.' ∨ c = 'e' := by
  -- It is enough to look at what follows the sign.
  have hsign : ∀ s : String, (∃ c ∈ s.toList, c = '.' ∨ c = 'e') → ∀ sign : String,
      ∃ c ∈ (sign ++ s).toList, c = '.' ∨ c = 'e' := by
    rintro s ⟨c, hc, hmark⟩ sign
    exact ⟨c, by rw [String.toList_append]; exact List.mem_append_right _ hc, hmark⟩
  unfold DecimalLayout.render
  split
  · exact ⟨'.', by decide, .inl rfl⟩
  refine hsign _ ?_ _
  split
  · exact ⟨'.', by decide, .inl rfl⟩
  unfold DecimalLayout.renderSize
  split
  · exact ⟨'.', by decide, .inl rfl⟩
  simp only
  split
  · refine ⟨'.', ?_, .inl rfl⟩
    unfold DecimalLayout.positional
    simp only
    split
    · simp
    · split
      · simp
      · simp
  · refine ⟨'e', ?_, .inr rfl⟩
    simp [DecimalLayout.scientific]

end Yaml

end SqlProbe
