import SqlProbe.Proofs.Numeral.Removal

/-!
# Putting separators into a number

Separators are put into a text by saying how many of them come in each place
(`Numeral.insertSeparators`). They are between digits if there is at most one in each place
and there is none in a place that is not between two digits
(`Numeral.flanked_insertSeparators_iff`): two in one place are next to each other, and no
separator is a digit.

The removal gives the text back, so that the number is that of the text, or none
(`Reading.numberOf_withSeparators_iff`). `Reading.separators_exact` says this of texts that
stand for a number, and what the removal does with any text, read as bytes.
-/

namespace SqlProbe

open Text (Between Flanked FlankedAfter)

namespace Numeral

section Insertion

variable {isDigit : Char → Bool} {pre s rest : List Char} {k : Nat}

/-- A text with separators put in: `count p` of them after its first `p` characters. -/
def insertSeparators (count : Nat → Nat) : List Char → List Char
  | [] => List.replicate (count 0) '_'
  | c :: s => List.replicate (count 0) '_' ++ c :: insertSeparators (fun p => count (p + 1)) s

/-! ### Taken out again -/

theorem unseparated_replicate_append (k : Nat) (rest : List Char) :
    unseparated (List.replicate k '_' ++ rest) = unseparated rest := by
  induction k with
  | zero => rfl
  | succ k ih => exact ih

/-- What was put in is all that is taken out again. -/
theorem unseparated_insertSeparators (hs : '_' ∉ s) (count : Nat → Nat) :
    unseparated (insertSeparators count s) = s := by
  induction s generalizing count with
  | nil =>
    rw [insertSeparators, ← List.append_nil (List.replicate _ _), unseparated_replicate_append]
    rfl
  | cons c s ih =>
    rw [List.mem_cons, not_or] at hs
    rw [insertSeparators, unseparated_replicate_append, unseparated_cons (Ne.symm hs.1), ih hs.2]

/-! ### Between digits -/

/-- **One place.** There is at most one separator in it, and then it is between two digits. -/
theorem flankedAfter_replicate_append_iff (hsep : isDigit '_' = false)
    (hrest : rest.head? ≠ some '_') :
    FlankedAfter '_' isDigit pre (List.replicate k '_' ++ rest) ↔
      (k = 0 ∨ k = 1 ∧ Between isDigit pre rest) ∧ Flanked '_' isDigit rest := by
  match k with
  | 0 =>
    rw [List.replicate_zero, List.nil_append, Text.flankedAfter_of_head?_ne hrest]
    exact (and_iff_right (.inl rfl)).symm
  | 1 =>
    rw [List.replicate_one, List.singleton_append, Text.flankedAfter_cons,
      Text.flankedAfter_of_head?_ne hrest, imp_iff_right rfl]
    simp
  | k + 2 =>
    rw [List.replicate_succ, List.cons_append, Text.flankedAfter_cons, imp_iff_right rfl]
    refine iff_of_false (fun h => ?_) (fun h => by omega)
    -- What follows the first one is the second one.
    have hnext := h.1.2
    rw [List.replicate_succ, List.cons_append, List.head?_cons, Option.any_some, hsep] at hnext
    cases hnext

/-- **All places.** Each of them is checked by itself. The induction is on the text; `pre` is
what comes in front of the first place, where in the whole text there is nothing. -/
theorem flankedAfter_insertSeparators_iff (hsep : isDigit '_' = false) (hs : '_' ∉ s)
    (pre : List Char) (count : Nat → Nat) :
    FlankedAfter '_' isDigit pre (insertSeparators count s) ↔
      ∀ p ≤ s.length, count p = 0 ∨
        count p = 1 ∧ Between isDigit (pre ++ s.take p) (s.drop p) := by
  induction s generalizing pre count with
  | nil =>
    have hnil : ([] : List Char).head? ≠ some '_' := (Option.some_ne_none '_').symm
    rw [insertSeparators, ← List.append_nil (List.replicate _ _),
      flankedAfter_replicate_append_iff hsep hnil, and_iff_left (Text.flanked_of_not_mem hs)]
    simp
  | cons c s ih =>
    rw [List.mem_cons, not_or] at hs
    have hc : c ≠ '_' := Ne.symm hs.1
    have hrest := ih hs.2 [c] fun p => count (p + 1)
    rw [insertSeparators, flankedAfter_replicate_append_iff hsep (head?_cons_ne hc),
      ← Text.flankedAfter_nil_left, Text.flankedAfter_cons, List.nil_append, hrest,
      and_iff_right fun heq => absurd heq hc]
    -- From the second place on it is `c`, or a character behind it, that comes before.
    have hlater : ∀ p, Between isDigit (pre ++ (c :: s).take (p + 1)) ((c :: s).drop (p + 1)) ↔
        Between isDigit ([c] ++ s.take p) (s.drop p) :=
      fun p => Text.between_append_left_of_ne_nil (List.cons_ne_nil c _)
    constructor
    · rintro ⟨hfirst, hplaces⟩ p hp
      cases p with
      | zero => rwa [List.take_zero, List.append_nil]
      | succ p =>
        rw [hlater]
        exact hplaces p (Nat.le_of_succ_le_succ hp)
    · intro h
      refine ⟨?_, fun p hp => ?_⟩
      · have hfirst := h 0 (Nat.zero_le _)
        rwa [List.take_zero, List.append_nil] at hfirst
      · rw [← hlater]
        exact h (p + 1) (Nat.succ_le_succ hp)

theorem flanked_insertSeparators_iff (hsep : isDigit '_' = false) (hs : '_' ∉ s)
    (count : Nat → Nat) :
    Flanked '_' isDigit (insertSeparators count s) ↔
      ∀ p ≤ s.length, count p = 0 ∨ count p = 1 ∧ Between isDigit (s.take p) (s.drop p) :=
  flankedAfter_insertSeparators_iff hsep hs [] count

end Insertion

end Numeral

/-! ### Numbers with separators put in -/

namespace Reading

/-- A text with `count p` separators put in after its first `p` characters, for every `p`. -/
def withSeparators (count : Nat → Nat) (raw : String) : String :=
  String.ofList (Numeral.insertSeparators count raw.toList)

/-- Whether the place after the first `p` characters is between two digits of the class in
force in the text. In a hexadecimal numeral such a place is behind the mark, as the mark is
no digit and none comes before its `0`. -/
def InsideDigits (raw : String) (p : Nat) : Prop :=
  Between (DigitClass.ofText raw.toList).isDigit (raw.toList.take p) (raw.toList.drop p)

instance (raw : String) (p : Nat) : Decidable (InsideDigits raw p) :=
  inferInstanceAs (Decidable (Between _ _ _))

/-- The number of a text with separators put in is that of the text, or none. -/
theorem numberOf_withSeparators_iff {raw : String} {v : Binary64} (hraw : '_' ∉ raw.toList)
    (count : Nat → Nat) :
    numberOf (withSeparators count raw) = some v ↔
      (∀ p ≤ raw.length, count p = 0 ∨ count p = 1 ∧ InsideDigits raw p) ∧
        numberOf raw = some v := by
  have hbare : raw.toList = Numeral.unseparated (withSeparators count raw).toList := by
    rw [withSeparators, String.toList_ofList, Numeral.unseparated_insertSeparators hraw]
  rw [numberOf_iff hbare, withSeparators, String.toList_ofList,
    Numeral.flanked_insertSeparators_iff (DigitClass.isDigit_eq_false rfl) hraw,
    String.length_toList]
  rfl

/-- **Separators are exact.** They are removed from a text exactly if each of them has a
digit on either side, seen in the bytes of the text, and then nothing else is removed. In a
text that stands for a number they can be put between any two digits of the class in force,
one in each place, and the number stays the same; anywhere else, or twice in one place, they
make it none. -/
theorem separators_exact :
    (∀ (digits : DigitClass) (raw : String) (stripped : List Char),
      Numeral.stripSeparators digits.isDigit raw.toList = some stripped ↔
        Flanked '_'.toUInt8 (Text.onByte digits.isDigit) raw.toUTF8.data.toList ∧
          stripped = raw.toList.filter (· ≠ '_')) ∧
    ∀ (raw : String) (v : Binary64), '_' ∉ raw.toList → numberOf raw = some v →
      ∀ count : Nat → Nat,
        ((∀ p ≤ raw.length, count p = 0 ∨ count p = 1 ∧ InsideDigits raw p) →
          numberOf (withSeparators count raw) = some v) ∧
        ((∃ p ≤ raw.length, 2 ≤ count p ∨ count p = 1 ∧ ¬ InsideDigits raw p) →
          numberOf (withSeparators count raw) = none) := by
  refine ⟨fun digits raw stripped => ?_, fun raw v hraw hv count => ⟨fun hplaces => ?_, ?_⟩⟩
  · have hascii : ∀ c, digits.isDigit c = true → c.toNat < 0x80 :=
      fun _ => DigitClass.toNat_lt_of_isDigit
    rw [← Text.bytes_toList, Text.flanked_bytes_iff hascii (by decide)]
    exact Numeral.stripSeparators_eq_some_iff
  · exact (numberOf_withSeparators_iff hraw count).mpr ⟨hplaces, hv⟩
  · rintro ⟨p, hp, hbad⟩
    rw [Option.eq_none_iff_forall_ne_some]
    intro w hw
    obtain ⟨hplaces, -⟩ := (numberOf_withSeparators_iff hraw count).mp hw
    obtain hzero | ⟨hone, hinside⟩ := hplaces p hp
    · omega
    · obtain htwo | ⟨-, houtside⟩ := hbad
      · omega
      · exact houtside hinside

/-- The letter `e` is a digit after a hexadecimal mark, and no digit otherwise. -/
theorem separators_exact_letter :
    numberOf "-0x1e5" = some (Binary64.ofNat true 485) ∧
      numberOf "-0x1_e_5" = some (Binary64.ofNat true 485) ∧
      numberOf "1e5" = some (Binary64.ofNat false 100000) ∧ numberOf "1_e5" = none := by
  obtain ⟨-, hinsert⟩ := separators_exact
  have hhex : numberOf "-0x1e5" = some (Binary64.ofNat true 485) := by decide +kernel
  have hdecimal : numberOf "1e5" = some (Binary64.ofNat false 100000) := by decide +kernel
  have hsame := (hinsert "-0x1e5" _ (by decide) hhex fun p => if p = 4 ∨ p = 5 then 1 else 0).1
  have hnone := (hinsert "1e5" _ (by decide) hdecimal fun p => if p = 1 then 1 else 0).2
  have htexts :
      withSeparators (fun p => if p = 4 ∨ p = 5 then 1 else 0) "-0x1e5" = "-0x1_e_5" ∧
        withSeparators (fun p => if p = 1 then 1 else 0) "1e5" = "1_e5" := by
    decide +kernel
  rw [htexts.1] at hsame
  rw [htexts.2] at hnone
  exact ⟨hhex, hsame (by decide +kernel), hdecimal, hnone ⟨1, by decide, .inr (by decide +kernel)⟩⟩

end Reading

end SqlProbe
