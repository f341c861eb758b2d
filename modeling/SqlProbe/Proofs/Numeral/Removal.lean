import SqlProbe.Proofs.Numeral.Denotation
import SqlProbe.Proofs.Text.Flanked

/-!
# Numbers without their separators

`Numeral.stripSeparators` takes all the separators out of a text, and nothing else, if each
of them is between two digits (`Numeral.stripSeparators_eq_some_iff`). What is read
afterwards is the rest. So a text is a number exactly if its separators are between digits
and it is one without them, and then it is the same number: for digits
(`Numeral.parseHex?_iff`, `Numeral.parseDecimal?_iff`), for what stands after a sign
(`Numeral.parseMagnitude?_iff`), for a numeral (`Numeral.parse?_iff`) and for a text with
blanks around it (`Reading.numberOf_iff`).

On the way a text is cut, and the class of digits is chosen, by the characters that are
there, and a separator could change this: it can hide a sign, a hexadecimal mark or a blank.
But one that does is in front, or at the end, or next to a character that is no digit of
either class. So at each stage there are two cases. If the separators are not even between
hexadecimal digits, the text is refused, and this is all there is to say; otherwise they
hide nothing, and the stage does the same with the text and with what is left of it
(`DigitClass.iff_of_flanked_isHex`).
-/

namespace SqlProbe

open Text (Between Flanked FlankedAfter)

namespace Numeral

/-! ### Removal -/

section Removal

variable {isDigit : Char → Bool} {c : Char} {s t : List Char}

/-- A text without its separators. -/
def unseparated (s : List Char) : List Char := s.filter (· ≠ '_')

@[simp] theorem unseparated_separator (s : List Char) :
    unseparated ('_' :: s) = unseparated s := rfl

theorem unseparated_cons (hc : c ≠ '_') (s : List Char) :
    unseparated (c :: s) = c :: unseparated s :=
  List.filter_cons_of_pos (decide_eq_true hc)

theorem reverse_unseparated (s : List Char) :
    (unseparated s).reverse = unseparated s.reverse := List.filter_reverse.symm

theorem not_mem_unseparated (s : List Char) : '_' ∉ unseparated s :=
  fun h => of_decide_eq_true (List.mem_filter.mp h).2 rfl

@[simp] theorem unseparated_unseparated (s : List Char) :
    unseparated (unseparated s) = unseparated s :=
  List.filter_eq_self.mpr fun _ hc => (List.mem_filter.mp hc).2

/-- The induction is on the text; what has gone by of it counts with its last character
only, as it does for `stripAfter`. -/
theorem stripAfter_eq_some_iff (pre : List Char) :
    stripAfter isDigit pre.getLast? s = some t ↔
      FlankedAfter '_' isDigit pre s ∧ t = unseparated s := by
  induction s generalizing pre t with
  | nil =>
    rw [stripAfter, Option.some.injEq]
    exact ⟨fun h => ⟨Text.flankedAfter_of_not_mem List.not_mem_nil, h.symm⟩, fun h => h.2.symm⟩
  | cons c s ih =>
    have hlast : (pre ++ [c]).getLast? = some c := List.getLast?_concat
    rw [Text.flankedAfter_cons, stripAfter, ← hlast]
    by_cases hc : c = '_'
    · -- A separator is passed over if it is between digits; the rest is checked after it.
      subst hc
      rw [if_pos rfl, imp_iff_right rfl, unseparated_separator, and_assoc, ← ih]
      split
      · rename_i hbetween
        exact (and_iff_right (Bool.and_eq_true_iff.mp hbetween)).symm
      · rename_i hbetween
        exact iff_of_false (Option.some_ne_none t).symm fun h =>
          hbetween (Bool.and_eq_true_iff.mpr h.1)
    · -- Any other character is passed on.
      rw [if_neg hc, unseparated_cons hc, and_iff_right fun heq => absurd heq hc,
        Option.map_eq_some_iff]
      constructor
      · rintro ⟨t, ht, rfl⟩
        obtain ⟨hs, rfl⟩ := (ih _).mp ht
        exact ⟨hs, rfl⟩
      · rintro ⟨hs, rfl⟩
        exact ⟨_, (ih _).mpr ⟨hs, rfl⟩, rfl⟩

/-- **Removal is exact.** A text loses its separators, and nothing else, if each of them is
between two digits; and it is refused if one of them is not. -/
theorem stripSeparators_eq_some_iff :
    stripSeparators isDigit s = some t ↔ Flanked '_' isDigit s ∧ t = unseparated s :=
  stripAfter_eq_some_iff []

/-- What is read of a text after the removal is what is read of the text without them. -/
theorem bind_stripSeparators_eq_some_iff {α : Type} {read : List Char → Option α} {a : α} :
    (stripSeparators isDigit s).bind read = some a ↔
      Flanked '_' isDigit s ∧ (stripSeparators isDigit (unseparated s)).bind read = some a := by
  have hself : stripSeparators isDigit (unseparated s) = some (unseparated s) :=
    stripSeparators_eq_some_iff.mpr
      ⟨Text.flanked_of_not_mem (not_mem_unseparated s), (unseparated_unseparated s).symm⟩
  rw [hself, Option.bind_some, Option.bind_eq_some_iff]
  constructor
  · rintro ⟨t, ht, hread⟩
    obtain ⟨hs, rfl⟩ := stripSeparators_eq_some_iff.mp ht
    exact ⟨hs, hread⟩
  · rintro ⟨hs, hread⟩
    exact ⟨_, stripSeparators_eq_some_iff.mpr ⟨hs, rfl⟩, hread⟩

end Removal

end Numeral

/-! ### Classes of digits -/

/-- The digits that are in force in a text. -/
inductive DigitClass where
  /-- The ten decimal digits. -/
  | decimal
  /-- The sixteen hexadecimal ones, in either case. -/
  | hexadecimal
deriving DecidableEq, Repr

namespace DigitClass

/-- Whether a character is a digit of the class. -/
def isDigit : DigitClass → Char → Bool
  | decimal => Digit.isDecimal
  | hexadecimal => Digit.isHex

/-- The class in force in what stands after a sign: hexadecimal after a mark, and decimal
otherwise. -/
def ofBody (s : List Char) : DigitClass :=
  if (Numeral.hexBody? s).isSome then hexadecimal else decimal

/-- The class in force in a text, with a sign and blanks around it. -/
def ofText (s : List Char) : DigitClass := ofBody (Numeral.splitSign (Text.trim s)).2

/-- A character that is neither a separator nor a digit of any class. -/
def Outside (c : Char) : Prop := c ≠ '_' ∧ Digit.isHex c = false

section Digits

variable {digits : DigitClass} {c : Char} {s t : List Char}

theorem isHex_of_isDigit (hc : digits.isDigit c = true) : Digit.isHex c = true := by
  cases digits with
  | decimal => exact Digit.isHex_of_isDecimal hc
  | hexadecimal => exact hc

theorem isDigit_eq_false (hc : Digit.isHex c = false) : digits.isDigit c = false := by
  rw [← Bool.not_eq_true] at hc ⊢
  exact mt isHex_of_isDigit hc

/-- All digits are ASCII characters. -/
theorem toNat_lt_of_isDigit (hc : digits.isDigit c = true) : c.toNat < 0x80 := by
  have hhex := isHex_of_isDigit hc
  simp only [Digit.isHex, Digit.isDecimal, Bool.or_eq_true, Bool.and_eq_true, decide_eq_true_eq,
    Digit.le_iff_toNat_le, Char.reduceToNat] at hhex
  omega

theorem outside_of_isBlank (hc : Text.isBlank c = true) : Outside c := by
  constructor
  · rintro rfl
    exact nomatch hc
  · rw [← Bool.not_eq_true]
    intro hhex
    exact nomatch hc.symm.trans (Numeral.isBlank_of_isHex hhex)

/-- In front of a text there may be characters from outside. -/
theorem flanked_append_left_iff (digits : DigitClass) (ht : ∀ c ∈ t, Outside c) :
    Flanked '_' digits.isDigit (t ++ s) ↔ Flanked '_' digits.isDigit s := by
  refine Text.flanked_append_left_iff (fun hmem => (ht _ hmem).1 rfl) ?_
  rw [Option.any_eq_false]
  exact fun c hc => isDigit_eq_false (ht c (List.mem_of_getLast? hc)).2

/-- Behind it as well. -/
theorem flanked_append_right_iff (digits : DigitClass) (ht : ∀ c ∈ t, Outside c) :
    Flanked '_' digits.isDigit (s ++ t) ↔ Flanked '_' digits.isDigit s := by
  refine Text.flanked_append_right_iff (fun hmem => (ht _ hmem).1 rfl) ?_
  rw [Option.any_eq_false]
  exact fun c hc => isDigit_eq_false (ht c (List.mem_of_head? hc)).2

/-- Separators between digits of a class are between hexadecimal ones. -/
theorem flanked_isHex (digits : DigitClass) (h : Flanked '_' digits.isDigit s) :
    Flanked '_' Digit.isHex s :=
  h.mono fun _ => isHex_of_isDigit

/-- **The two cases.** If both sides say that the separators are between hexadecimal digits,
this may be used to prove that they say the same. -/
theorem iff_of_flanked_isHex (digits : DigitClass) {P Q : Prop}
    (hP : P → Flanked '_' Digit.isHex s)
    (h : Flanked '_' Digit.isHex s → (P ↔ Flanked '_' digits.isDigit s ∧ Q)) :
    P ↔ Flanked '_' digits.isDigit s ∧ Q :=
  ⟨fun hp => (h (hP hp)).mp hp, fun hq => (h (digits.flanked_isHex hq.1)).mpr hq⟩

end Digits

end DigitClass

/-! ### Numerals with and without separators -/

namespace Numeral

section Stages

variable {s ds : List Char} {magnitude : Magnitude} {n : Numeral}

theorem parseHex?_iff :
    parseHex? s = some magnitude ↔
      Flanked '_' Digit.isHex s ∧ parseHex? (unseparated s) = some magnitude :=
  bind_stripSeparators_eq_some_iff

theorem parseDecimal?_iff :
    parseDecimal? s = some magnitude ↔
      Flanked '_' Digit.isDecimal s ∧ parseDecimal? (unseparated s) = some magnitude :=
  bind_stripSeparators_eq_some_iff

/-- A hexadecimal mark is not next to the separators among the digits after it. -/
theorem flanked_hexBody? (h : hexBody? s = some ds) :
    Flanked '_' Digit.isHex s ↔ Flanked '_' Digit.isHex ds := by
  obtain ⟨mark, hmark, rfl⟩ := hexBody?_eq_some_iff.mp h
  have hfree : '_' ∉ ['0', mark] := by obtain rfl | rfl := hmark <;> decide
  have hend : ['0', mark].getLast?.any Digit.isHex = false := by obtain rfl | rfl := hmark <;> rfl
  exact Text.flanked_append_left_iff hfree hend

/-- Separators between digits do not hide a hexadecimal mark. -/
theorem hexBody?_unseparated (h : Flanked '_' Digit.isHex s) :
    hexBody? (unseparated s) = (hexBody? s).map unseparated := by
  rw [Option.ext_iff]
  intro ds
  rw [Option.map_eq_some_iff]
  constructor
  · intro hds
    obtain ⟨mark, hmark, hs⟩ := hexBody?_eq_some_iff.mp hds
    have hnot : Digit.isHex mark = false := by obtain rfl | rfl := hmark <;> rfl
    have hstrip := stripSeparators_eq_some_iff.mpr ⟨h, rfl⟩
    rw [hs] at hstrip
    obtain ⟨s', rfl, hs'⟩ := exists_cons_of_strip hstrip
    obtain hs' | ⟨s'', rfl, hdigit, hs''⟩ := stripAfter_digit (by decide) (by decide) hs'
    · obtain ⟨ds', rfl, hds'⟩ := exists_cons_of_strip hs'
      rw [stripAfter_of_not_digit hnot] at hds'
      exact ⟨ds', hexBody?_eq_some_iff.mpr ⟨mark, hmark, rfl⟩,
        (stripSeparators_eq_some_iff.mp hds').2.symm⟩
    · -- Behind a separator there would have to be a digit, and there is the mark.
      obtain ⟨ds', rfl, -⟩ := exists_cons_of_strip hs''
      exact nomatch hdigit.symm.trans hnot
  · rintro ⟨ds', hds', rfl⟩
    obtain ⟨mark, hmark, rfl⟩ := hexBody?_eq_some_iff.mp hds'
    have hne : mark ≠ '_' := by obtain rfl | rfl := hmark <;> decide
    rw [unseparated_cons (by decide), unseparated_cons hne]
    exact hexBody?_eq_some_iff.mpr ⟨mark, hmark, rfl⟩

theorem flanked_of_parseMagnitude? (h : parseMagnitude? s = some magnitude) :
    Flanked '_' Digit.isHex s := by
  unfold parseMagnitude? at h
  split at h
  · rename_i ds hds
    exact (flanked_hexBody? hds).mpr (parseHex?_iff.mp h).1
  · exact DigitClass.flanked_isHex .decimal (parseDecimal?_iff.mp h).1

/-- **After the sign.** The class in force is that of the text without separators. -/
theorem parseMagnitude?_iff :
    parseMagnitude? s = some magnitude ↔
      Flanked '_' (DigitClass.ofBody (unseparated s)).isDigit s ∧
        parseMagnitude? (unseparated s) = some magnitude := by
  refine DigitClass.iff_of_flanked_isHex _ flanked_of_parseMagnitude? fun hflanked => ?_
  rw [parseMagnitude?, parseMagnitude?, DigitClass.ofBody, hexBody?_unseparated hflanked]
  cases hs : hexBody? s with
  | none => exact parseDecimal?_iff
  | some ds =>
    have hds := (flanked_hexBody? hs).mp hflanked
    exact parseHex?_iff.trans ((and_iff_right hds).trans (and_iff_right hflanked).symm)

theorem flanked_splitSign (digits : DigitClass) :
    Flanked '_' digits.isDigit (splitSign s).2 ↔ Flanked '_' digits.isDigit s := by
  obtain ⟨sign, hs, hsign⟩ := exists_signText s
  have houtside : ∀ c ∈ sign, DigitClass.Outside c := by
    intro c hc
    obtain rfl | rfl := hsign.mem hc <;> exact ⟨by decide, rfl⟩
  have happend := digits.flanked_append_left_iff (s := (splitSign s).2) houtside
  rwa [← hs, Iff.comm] at happend

/-- A separator that is not in front does not hide a sign. -/
theorem splitSign_unseparated (h : s.head? ≠ some '_') :
    splitSign (unseparated s) = ((splitSign s).1, unseparated (splitSign s).2) := by
  cases s with
  | nil => rfl
  | cons c s =>
    have hc : c ≠ '_' := fun hc => h (congrArg some hc)
    rw [unseparated_cons hc]
    by_cases hminus : c = '-'
    · subst hminus
      rfl
    by_cases hplus : c = '+'
    · subst hplus
      rfl
    · rw [splitSign_of_noSign (noSign_cons hminus hplus),
        splitSign_of_noSign (noSign_cons hminus hplus), unseparated_cons hc]

theorem flanked_of_parse? (h : parse? s = some n) : Flanked '_' Digit.isHex s := by
  obtain ⟨magnitude, hmagnitude, -⟩ := Option.map_eq_some_iff.mp h
  exact (flanked_splitSign .hexadecimal).mp (flanked_of_parseMagnitude? hmagnitude)

/-- **Numerals.** The same with a sign in front. -/
theorem parse?_iff :
    parse? s = some n ↔
      Flanked '_' (DigitClass.ofBody (splitSign (unseparated s)).2).isDigit s ∧
        parse? (unseparated s) = some n := by
  have hparse : ∀ s, parse? s = some n ↔
      ∃ magnitude, parseMagnitude? (splitSign s).2 = some magnitude ∧
        ⟨(splitSign s).1, magnitude⟩ = n := fun s => Option.map_eq_some_iff
  refine DigitClass.iff_of_flanked_isHex _ flanked_of_parse? fun hflanked => ?_
  rw [hparse, hparse, splitSign_unseparated hflanked.head?_ne, ← flanked_splitSign,
    ← exists_and_left]
  refine exists_congr fun magnitude => ?_
  rw [parseMagnitude?_iff, and_assoc]

end Stages

end Numeral

/-! ### Blanks around a text -/

namespace Text

variable {s : List Char}

theorem flanked_trim (digits : DigitClass) :
    Flanked '_' digits.isDigit (trim s) ↔ Flanked '_' digits.isDigit s := by
  obtain ⟨before, after, hs, hbefore, hafter⟩ := exists_trim s
  have hleft := digits.flanked_append_left_iff (s := trim s)
    fun c hc => DigitClass.outside_of_isBlank (hbefore c hc)
  have hright := digits.flanked_append_right_iff (s := before ++ trim s)
    fun c hc => DigitClass.outside_of_isBlank (hafter c hc)
  rw [← hs] at hright
  exact (hright.trans hleft).symm

/-- Blanks in front are found as well after the removal, unless it takes away a separator
that comes right behind them. -/
theorem dropWhile_unseparated (h : (s.dropWhile isBlank).head? ≠ some '_') :
    (Numeral.unseparated s).dropWhile isBlank = Numeral.unseparated (s.dropWhile isBlank) := by
  induction s with
  | nil => rfl
  | cons c s ih =>
    by_cases hblank : isBlank c = true
    · rw [List.dropWhile_cons_of_pos hblank] at h ⊢
      rw [Numeral.unseparated_cons (DigitClass.outside_of_isBlank hblank).1,
        List.dropWhile_cons_of_pos hblank, ih h]
    · rw [List.dropWhile_cons_of_neg hblank] at h ⊢
      have hc : c ≠ '_' := fun hc => h (congrArg some hc)
      rw [Numeral.unseparated_cons hc, List.dropWhile_cons_of_neg hblank]

/-- Separators between digits do not hide a blank. -/
theorem trim_unseparated (h : Flanked '_' Digit.isHex s) :
    trim (Numeral.unseparated s) = Numeral.unseparated (trim s) := by
  have hstart : (s.dropWhile isBlank).head? ≠ some '_' := by
    rw [← List.takeWhile_append_dropWhile (p := isBlank) (l := s)] at h
    have hrest := (DigitClass.hexadecimal.flanked_append_left_iff
      fun c hc => DigitClass.outside_of_isBlank (List.mem_takeWhile_imp hc)).mp h
    exact hrest.head?_ne
  have hend : ((s.dropWhile isBlank).reverse.dropWhile isBlank).head? ≠ some '_' := by
    have htrim := (flanked_trim .hexadecimal).mpr h
    have hlast := htrim.getLast?_ne
    rwa [trim, trimEnd, List.getLast?_reverse] at hlast
  rw [trim, trim, trimEnd, trimEnd, dropWhile_unseparated hstart, Numeral.reverse_unseparated,
    dropWhile_unseparated hend, Numeral.reverse_unseparated]

end Text

/-- **Numbers.** A text stands for a number exactly if its separators are between digits of
the class in force and it does so without them, and then for the same one. -/
theorem Reading.numberOf_iff {raw bare : String} {v : Binary64}
    (hbare : bare.toList = Numeral.unseparated raw.toList) :
    numberOf raw = some v ↔
      Flanked '_' (DigitClass.ofText bare.toList).isDigit raw.toList ∧ numberOf bare = some v := by
  have hnumber : ∀ raw : String, numberOf raw = some v ↔
      (∃ n, Numeral.parse? (Text.trim raw.toList) = some n ∧ n.toBinary64 = v) ∧
        v.isFinite = true := by
    intro raw
    rw [numberOf, Option.filter_eq_some_iff, Option.map_eq_some_iff]
  refine DigitClass.iff_of_flanked_isHex _ (fun h => ?_) fun hflanked => ?_
  · obtain ⟨⟨n, hn, -⟩, -⟩ := (hnumber raw).mp h
    exact (Text.flanked_trim .hexadecimal).mp (Numeral.flanked_of_parse? hn)
  · rw [hnumber, hnumber, hbare, DigitClass.ofText, Text.trim_unseparated hflanked,
      ← Text.flanked_trim, ← and_assoc, ← exists_and_left]
    refine and_congr_left fun _ => exists_congr fun n => ?_
    rw [Numeral.parse?_iff, and_assoc]

end SqlProbe
