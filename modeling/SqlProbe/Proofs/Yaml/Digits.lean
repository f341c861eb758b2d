import SqlProbe.Proofs.Numeral.Writing
import SqlProbe.Yaml.Value

/-!
# Digits as plain scalars

A run of decimal digits without a sign is an integer to the language of documents, unless
a zero that counts for nothing is in front of it or it is too large for the widths of
integers (`Scalar.integer?_digits`). In particular a number in its decimal digits is a
plain scalar that stands for this number, if 64 bits hold it (`Scalar.ofPlain_toDigits`).
-/

namespace SqlProbe

namespace Yaml

namespace Scalar

open Numeral (PlainRun)

variable {ds : List Char} {c : Char} {s : String} {n : Nat}

/-- What starts with a digit is none of the words. -/
theorem ofPlain_of_isDecimal (hs : s.toList.head? = some c) (hc : Digit.isDecimal c = true) :
    ofPlain s = ofOther s := by
  have hne : ∀ w : String, w.toList.head?.any Digit.isDecimal = false → s ≠ w := by
    rintro w hw rfl
    rw [hs, Option.any_some, hc] at hw
    cases hw
  have hempty : s.isEmpty = false := by
    simpa [String.isEmpty_iff] using hne "" (by decide)
  have hnull : isNullWord s = false := by
    simp [isNullWord, hne "null" (by decide), hne "Null" (by decide), hne "NULL" (by decide),
      hne "~" (by decide)]
  have hbool : bool? s = none := by
    simp [bool?, hne "true" (by decide), hne "True" (by decide), hne "TRUE" (by decide),
      hne "false" (by decide), hne "False" (by decide), hne "FALSE" (by decide)]
  simp only [ofPlain, hempty, hnull, hbool, Bool.or_self, Bool.false_eq_true, if_false]

/-- Digits are read in base ten, since no mark of another base can be among them. -/
theorem natural?_digits (hrun : PlainRun Digit.isDecimal ds ds) :
    natural? ds = some (Digit.natOf 10 ds) := by
  have hletter : ∀ c ∈ ['x', 'o', 'b'], c ∉ ds := by
    intro c hc hmem
    have hall : ['x', 'o', 'b'].all (fun c => !Digit.isDecimal c) = true := by decide
    have hletter := List.all_eq_true.mp hall c hc
    rw [hrun.all c hmem] at hletter
    cases hletter
  have hdigits : digits? 10 ds = some (Digit.natOf 10 ds) := by
    have hall : ds.all (isDigitIn 10) = true := by
      refine List.all_eq_true.mpr fun c hc => ?_
      have hvalue := Digit.value_lt_ten (hrun.all c hc)
      rw [isDigitIn, Digit.isHex_of_isDecimal (hrun.all c hc), decide_eq_true hvalue]
      rfl
    simp [digits?, hall, hrun.ne_nil]
  unfold natural?
  split
  · exact absurd (by simp) (hletter 'x' (by decide))
  · exact absurd (by simp) (hletter 'o' (by decide))
  · exact absurd (by simp) (hletter 'b' (by decide))
  · exact hdigits

theorem dropSign_digits (hrun : PlainRun Digit.isDecimal ds ds) : dropSign ds = ds := by
  unfold dropSign
  split
  · exact absurd (hrun.all '-' List.mem_cons_self) (by decide)
  · exact absurd (hrun.all '+' List.mem_cons_self) (by decide)
  · rfl

/-- **Digits** are an integer, if no zero in front of them counts for nothing. -/
theorem integer?_digits (hrun : PlainRun Digit.isDecimal ds ds)
    (hzero : hasLeadingZero ds = false) : integer? ds = ofInt? (Digit.natOf 10 ds) := by
  have hunsigned : unsigned? ds = some (Digit.natOf 10 ds) := by
    unfold unsigned?
    rw [hzero]
    simp only [Bool.false_eq_true, if_false]
    split
    · exact absurd (hrun.all '+' List.mem_cons_self) (by decide)
    · exact natural?_digits hrun
  rw [integer?, hunsigned]

/-- **A number in decimal digits** stands for itself. -/
theorem ofPlain_toDigits (hn : n < wideStart) :
    ofPlain (String.ofList (Nat.toDigits 10 n)) = .integer n := by
  have hrun := Digit.plainRun_toDigits n
  obtain ⟨c, ds, hds⟩ := List.exists_cons_of_ne_nil (Nat.toDigits_ne_nil (n := n) (b := 10))
  have hc : Digit.isDecimal c = true := hrun.all c (hds ▸ List.mem_cons_self)
  have hzero : hasLeadingZero (Nat.toDigits 10 n) = false := by
    unfold hasLeadingZero
    rw [dropSign_digits hrun]
    split
    · next d rest h =>
      obtain rfl | hpos := Nat.eq_zero_or_pos n
      · cases h
      · exact absurd (congrArg List.head? h) (Digit.head?_toDigits_ne_zero hpos)
    · rfl
  have hint : ofInt? (n : Int) = some (.integer n) := by
    rw [ofInt?, if_pos ⟨by omega, by omega⟩]
  have hhead : (String.ofList (Nat.toDigits 10 n)).toList.head? = some c := by
    rw [String.toList_ofList, hds]
    rfl
  rw [ofPlain_of_isDecimal hhead hc, ofOther, String.toList_ofList, integer?_digits hrun hzero,
    Digit.natOf_toDigits (by decide) (by decide), hint]

end Scalar

end Yaml

end SqlProbe
