import SqlProbe.Proofs.Number.Rounding
import SqlProbe.Proofs.Numeral.Reader

/-!
# The number a text stands for

`Reading.Denotes` says what a text stands for in terms of the grammar: blanks, a
sign, a text that spells a number, blanks; and the nearest binary64 number to that
one, provided it is finite, under the sign. `Reading.numberOf_eq_some_iff` says that
`Reading.numberOf` finds just this number where there is one, and nothing otherwise.

The program looks for a hexadecimal mark first and calls a text decimal if there is
none. That no decimal numeral begins like a hexadecimal one is seen from its
characters (`Numeral.SpelledDecimal.mem`), of which there are few; the same facts
tell a numeral from the blanks around it and from the sign in front of it.
-/

namespace SqlProbe

open Binary64

namespace Numeral

/-! ### The characters of a numeral -/

section Characters

variable {reads : List Char → Nat → Prop} {s m w f x sign : List Char} {c : Char}

/-- The characters of a decimal numeral that are no digits. -/
def decimalMarks : List Char := ['_', '.', 'e', 'E', '+', '-']

/-- The characters of a numeral that are no hexadecimal digits. -/
def marks : List Char := ['_', '.', '+', '-', 'x', 'X']

theorem DigitRun.mem_decimal (h : DigitRun Digit.isDecimal s w) (hc : c ∈ s) :
    Digit.isDecimal c = true ∨ c ∈ decimalMarks := by
  obtain hc | rfl := h.mem hc
  · exact .inl hc
  · exact .inr (by decide)

theorem SignText.mem {negative : Bool} (h : SignText sign negative) (hc : c ∈ sign) :
    c = '+' ∨ c = '-' := by
  cases h with
  | absent => exact nomatch hc
  | plus => exact .inl (List.mem_singleton.mp hc)
  | minus => exact .inr (List.mem_singleton.mp hc)

theorem Mantissa.mem (h : Mantissa (DigitRun Digit.isDecimal) m w f) (hc : c ∈ m) :
    Digit.isDecimal c = true ∨ c ∈ decimalMarks := by
  cases h with
  | whole hw => exact hw.mem_decimal hc
  | pointAfter hw =>
    obtain hc | hc := List.mem_append.mp hc
    · exact hw.mem_decimal hc
    · obtain rfl := List.mem_singleton.mp hc
      exact .inr (by decide)
  | pointAmong hw hf =>
    obtain hc | hc := List.mem_append.mp hc
    · exact hw.mem_decimal hc
    · obtain rfl | hc := List.mem_cons.mp hc
      · exact .inr (by decide)
      · exact hf.mem_decimal hc
  | pointBefore hf =>
    obtain rfl | hc := List.mem_cons.mp hc
    · exact .inr (by decide)
    · exact hf.mem_decimal hc

theorem Scale.mem {k : Int} (h : Scale (DigitRun Digit.isDecimal) reads x k) (hc : c ∈ x) :
    Digit.isDecimal c = true ∨ c ∈ decimalMarks := by
  cases h with
  | absent => exact nomatch hc
  | present hmark hsign hrun _ =>
    obtain rfl | hc := List.mem_cons.mp hc
    · obtain rfl | rfl := hmark <;> exact .inr (by decide)
    · obtain hc | hc := List.mem_append.mp hc
      · obtain rfl | rfl := hsign.mem hc <;> exact .inr (by decide)
      · exact hrun.mem_decimal hc

theorem SpelledDecimal.mem {d : Decimal} (h : SpelledDecimal (DigitRun Digit.isDecimal) reads s d)
    (hc : c ∈ s) : Digit.isDecimal c = true ∨ c ∈ decimalMarks := by
  obtain ⟨hm, hx⟩ := h
  exact (List.mem_append.mp hc).elim hm.mem hx.mem

theorem Spelled.mem {magnitude : Magnitude} (h : Spelled reads s magnitude) (hc : c ∈ s) :
    Digit.isHex c = true ∨ c ∈ marks := by
  cases h with
  | hexadecimal hmark hrun _ =>
    obtain rfl | hc := List.mem_cons.mp hc
    · exact .inl (by decide)
    obtain rfl | hc := List.mem_cons.mp hc
    · obtain rfl | rfl := hmark <;> exact .inr (by decide)
    obtain hc | rfl := hrun.mem hc
    · exact .inl hc
    · exact .inr (by decide)
  | decimal hd =>
    obtain hc | hc := hd.mem hc
    · exact .inl (Digit.isHex_of_isDecimal hc)
    · have hall : decimalMarks.all (fun c => Digit.isHex c || decide (c ∈ marks)) = true := by
        decide
      rw [List.all_eq_true] at hall
      simpa using hall c hc

theorem isBlank_of_isHex (hc : Digit.isHex c = true) : Text.isBlank c = false := by
  simp only [Digit.isHex, Digit.isDecimal, Bool.or_eq_true, Bool.and_eq_true, decide_eq_true_eq,
    Digit.le_iff_toNat_le, Char.reduceToNat] at hc
  simp only [Text.isBlank, Bool.or_eq_false_iff, Bool.and_eq_false_iff, decide_eq_false_iff_not,
    beq_eq_false_iff_ne]
  omega

theorem Spelled.not_blank {magnitude : Magnitude} (h : Spelled reads s magnitude) (hc : c ∈ s) :
    Text.isBlank c = false := by
  obtain hc | hc := h.mem hc
  · exact isBlank_of_isHex hc
  · have hall : marks.all (fun c => !Text.isBlank c) = true := by decide
    rw [List.all_eq_true] at hall
    simpa using hall c hc

theorem SignText.not_blank {negative : Bool} (h : SignText sign negative) (hc : c ∈ sign) :
    Text.isBlank c = false := by
  obtain rfl | rfl := h.mem hc <;> decide

/-- A numeral does not start with a sign, so that the one in front of it is the only
one. -/
theorem Spelled.noSign {magnitude : Magnitude} (h : Spelled reads s magnitude) : NoSign s := by
  cases h with
  | hexadecimal _ _ _ => exact noSign_cons (by decide) (by decide)
  | decimal hd =>
    obtain ⟨hm, -⟩ := hd
    cases hm with
    | whole hw => exact hw.noSign _
    | pointAfter hw => rw [List.append_assoc]; exact hw.noSign _
    | pointAmong hw _ => rw [List.append_assoc]; exact hw.noSign _
    | pointBefore _ => exact noSign_cons (by decide) (by decide)

end Characters

/-! ### Reading a numeral -/

section Reading

variable {s ds : List Char} {magnitude : Magnitude}

theorem hexBody?_eq_some_iff :
    hexBody? s = some ds ↔ ∃ mark, (mark = 'x' ∨ mark = 'X') ∧ s = '0' :: mark :: ds := by
  constructor
  · intro h
    unfold hexBody? at h
    split at h
    · exact ⟨'x', .inl rfl, by rw [Option.some.inj h]⟩
    · exact ⟨'X', .inr rfl, by rw [Option.some.inj h]⟩
    · exact nomatch h
  · rintro ⟨mark, rfl | rfl, rfl⟩ <;> rfl

/-- No decimal numeral has a hexadecimal mark. -/
theorem SpelledDecimal.hexBody?_eq_none {reads : List Char → Nat → Prop} {d : Decimal}
    (h : SpelledDecimal (DigitRun Digit.isDecimal) reads s d) : hexBody? s = none := by
  rw [Option.eq_none_iff_forall_ne_some]
  intro ds hds
  obtain ⟨mark, hmark, rfl⟩ := hexBody?_eq_some_iff.mp hds
  have hmem := h.mem (List.mem_cons_of_mem _ (List.mem_cons_self ..))
  obtain rfl | rfl := hmark <;> exact absurd hmem (by decide)

theorem parseHex?_eq_some_iff :
    parseHex? s = some magnitude ↔
      ∃ ds, DigitRun Digit.isHex s ds ∧ Digit.natOf 16 ds < 2 ^ 128 ∧
        magnitude = .whole (Digit.natOf 16 ds) := by
  have hsep : Digit.isHex '_' = false := by decide
  rw [parseHex?, Option.bind_eq_bind, Option.bind_eq_some_iff]
  constructor
  · rintro ⟨ds, hds, h⟩
    split at h
    · exact nomatch h
    · rename_i hrun
      have hplain := plainRun_iff.mpr hrun
      simp only at h
      split at h
      · rename_i hlt
        rw [← List.append_nil ds] at hds
        obtain ⟨s₁, s₂, rfl, hs₁, hs₂⟩ := exists_run_of_strip hsep hplain noDigit_nil hds
        obtain rfl := eq_nil_of_strip hs₂
        rw [List.append_nil]
        exact ⟨ds, hs₁, hlt, (Option.some.inj h).symm⟩
      · exact nomatch h
  · rintro ⟨ds, hs, hlt, rfl⟩
    have hstrip := stripSeparators_append hsep hs stripSeparators_nil
    rw [List.append_nil, List.append_nil] at hstrip
    refine ⟨ds, hstrip, ?_⟩
    rw [if_neg (plainRun_iff.mp hs.plain)]
    exact if_pos hlt

theorem parseDecimal?_eq_some_iff :
    parseDecimal? s = some magnitude ↔
      ∃ d, SpelledDecimal (DigitRun Digit.isDecimal) (ReadsUpTo Decimal.exponentCeiling) s d ∧
        magnitude = .scaled d := by
  simp only [parseDecimal?, Option.bind_eq_bind, Option.bind_eq_some_iff, Option.some.injEq,
    spelledDecimal_iff_strip, Decimal.parse?_eq_some_iff]
  exact ⟨fun ⟨t, ht, d, hd, h⟩ => ⟨d, ⟨t, ht, hd⟩, h.symm⟩,
    fun ⟨d, ⟨t, ht, hd⟩, h⟩ => ⟨t, ht, d, hd, h.symm⟩⟩

/-- **Numerals.** The reader accepts the texts of the grammar, with the number of the
derivation. -/
theorem parseMagnitude?_eq_some_iff :
    parseMagnitude? s = some magnitude ↔
      Spelled (ReadsUpTo Decimal.exponentCeiling) s magnitude := by
  constructor
  · intro h
    unfold parseMagnitude? at h
    split at h
    · rename_i ds hds
      obtain ⟨mark, hmark, rfl⟩ := hexBody?_eq_some_iff.mp hds
      obtain ⟨ds', hrun, hlt, rfl⟩ := parseHex?_eq_some_iff.mp h
      exact .hexadecimal hmark hrun hlt
    · obtain ⟨d, hd, rfl⟩ := parseDecimal?_eq_some_iff.mp h
      exact .decimal hd
  · intro h
    unfold parseMagnitude?
    cases h with
    | hexadecimal hmark hrun hlt =>
      rw [hexBody?_eq_some_iff.mpr ⟨_, hmark, rfl⟩]
      exact parseHex?_eq_some_iff.mpr ⟨_, hrun, hlt, rfl⟩
    | decimal hd =>
      rw [hd.hexBody?_eq_none]
      exact parseDecimal?_eq_some_iff.mpr ⟨_, hd, rfl⟩

theorem DigitRun.unique {isDigit : Char → Bool} {ds ds' : List Char}
    (hsep : isDigit '_' = false) (h : DigitRun isDigit s ds) (h' : DigitRun isDigit s ds') :
    ds = ds' := by
  have heq := stripSeparators_append hsep h stripSeparators_nil
  rw [stripSeparators_append hsep h' stripSeparators_nil, List.append_nil, List.append_nil] at heq
  exact (Option.some.inj heq).symm

/-- **Unambiguity.** A text spells at most one number, if the digits of an exponent
are read in one way only. -/
theorem Spelled.unique {reads : List Char → Nat → Prop} {magnitude' : Magnitude}
    (hreads : Relator.RightUnique reads)
    (h : Spelled reads s magnitude) (h' : Spelled reads s magnitude') :
    magnitude = magnitude' := by
  cases h with
  | hexadecimal hmark hrun hlt =>
    cases h' with
    | hexadecimal hmark' hrun' hlt' => rw [hrun.unique (by decide) hrun']
    | decimal hd' =>
      exact nomatch (hexBody?_eq_some_iff.mpr ⟨_, hmark, rfl⟩).symm.trans hd'.hexBody?_eq_none
  | decimal hd =>
    cases h' with
    | hexadecimal hmark' hrun' hlt' =>
      exact nomatch (hexBody?_eq_some_iff.mpr ⟨_, hmark', rfl⟩).symm.trans hd.hexBody?_eq_none
    | decimal hd' =>
      obtain ⟨t, ht, hd⟩ := spelledDecimal_iff_strip.mp hd
      obtain ⟨t', ht', hd'⟩ := spelledDecimal_iff_strip.mp hd'
      obtain rfl := Option.some.inj (ht.symm.trans ht')
      rw [hd.unique hreads hd']

theorem parse?_eq_some_iff {n : Numeral} :
    parse? s = some n ↔
      ∃ sign body, s = sign ++ body ∧ SignText sign n.negative ∧
        Spelled (ReadsUpTo Decimal.exponentCeiling) body n.magnitude := by
  have hparse : parse? s =
      (parseMagnitude? (splitSign s).2).map fun magnitude => ⟨(splitSign s).1, magnitude⟩ := rfl
  rw [hparse, Option.map_eq_some_iff]
  constructor
  · rintro ⟨magnitude, h, rfl⟩
    obtain ⟨sign, hs, hsign⟩ := exists_signText s
    exact ⟨sign, _, hs, hsign, parseMagnitude?_eq_some_iff.mp h⟩
  · rintro ⟨sign, body, rfl, hsign, hbody⟩
    rw [hsign.split hbody.noSign]
    exact ⟨_, parseMagnitude?_eq_some_iff.mpr hbody, rfl⟩

end Reading

end Numeral

/-! ### Blanks around a text -/

namespace Text

variable {s before after : List Char}

/-- Trimming takes blanks off either end. -/
theorem exists_trim (s : List Char) :
    ∃ before after, s = before ++ trim s ++ after ∧
      (∀ c ∈ before, isBlank c = true) ∧ ∀ c ∈ after, isBlank c = true := by
  obtain ⟨u, hu⟩ : ∃ u, s.dropWhile isBlank = u := ⟨_, rfl⟩
  have hend : u = trimEnd u ++ (u.reverse.takeWhile isBlank).reverse := by
    rw [trimEnd, ← List.reverse_append, List.takeWhile_append_dropWhile, List.reverse_reverse]
  refine ⟨s.takeWhile isBlank, (u.reverse.takeWhile isBlank).reverse, ?_,
    fun c hc => List.mem_takeWhile_imp hc,
    fun c hc => List.mem_takeWhile_imp (List.mem_reverse.mp hc)⟩
  rw [trim, hu, List.append_assoc, ← hend, ← hu, List.takeWhile_append_dropWhile]

/-- Blanks around a text without any are all that trimming takes off. -/
theorem trim_append (hb : ∀ c ∈ before, isBlank c = true) (hs : ∀ c ∈ s, isBlank c = false)
    (ha : ∀ c ∈ after, isBlank c = true) : trim (before ++ s ++ after) = s := by
  have hnone : ∀ u : List Char, (∀ c ∈ u, isBlank c = false) → u.dropWhile isBlank = u := by
    intro u hu
    cases u with
    | nil => rfl
    | cons c u => exact List.dropWhile_cons_of_neg (by rw [hu c (List.mem_cons_self ..)]; decide)
  have hend : trimEnd (s ++ after) = s := by
    rw [trimEnd, List.reverse_append,
      List.dropWhile_append_of_pos fun c hc => ha c (List.mem_reverse.mp hc),
      hnone _ fun c hc => hs c (List.mem_reverse.mp hc), List.reverse_reverse]
  rw [trim, List.append_assoc, List.dropWhile_append_of_pos hb]
  -- With nothing in between, the blanks behind go with those in front.
  cases s with
  | nil => rw [List.nil_append, List.dropWhile_eq_nil_iff.mpr ha]; rfl
  | cons c s =>
    rw [List.cons_append, List.dropWhile_cons_of_neg, ← List.cons_append, hend]
    rw [hs c (List.mem_cons_self ..)]
    decide

end Text

/-- Trimming finds the numeral between blanks. -/
theorem Numeral.trim_of_spelled {reads : List Char → Nat → Prop}
    {before sign body after : List Char} {negative : Bool} {magnitude : Magnitude}
    (hbefore : ∀ c ∈ before, Text.isBlank c = true) (hsign : SignText sign negative)
    (hbody : Spelled reads body magnitude) (hafter : ∀ c ∈ after, Text.isBlank c = true) :
    Text.trim (before ++ (sign ++ body) ++ after) = sign ++ body :=
  Text.trim_append hbefore
    (fun _ hc => (List.mem_append.mp hc).elim hsign.not_blank hbody.not_blank) hafter

/-! ### Numbers of texts -/

namespace Reading

/-- **What a text stands for.** A finite number, if between blanks there is a sign and
a numeral, and no other size is nearer to the number spelled there. -/
def Denotes (reads : List Char → Nat → Prop) (raw : String) (v : Binary64) : Prop :=
  ∃ before sign body after magnitude,
    raw.toList = before ++ (sign ++ body) ++ after ∧
    (∀ c ∈ before, Text.isBlank c = true) ∧ (∀ c ∈ after, Text.isBlank c = true) ∧
    Numeral.SignText sign v.isNegative ∧ Numeral.Spelled reads body magnitude ∧
    IsNearest magnitude.value v.rank ∧ v.isFinite = true

/-- Where a numeral is, and what it spells, is settled by the text. -/
theorem denotes_iff {reads : List Char → Nat → Prop} {raw : String} {v : Binary64}
    {before sign body after : List Char} {negative : Bool} {magnitude : Magnitude}
    (hreads : Relator.RightUnique reads)
    (hraw : raw.toList = before ++ (sign ++ body) ++ after)
    (hbefore : ∀ c ∈ before, Text.isBlank c = true) (hafter : ∀ c ∈ after, Text.isBlank c = true)
    (hsign : Numeral.SignText sign negative) (hbody : Numeral.Spelled reads body magnitude) :
    Denotes reads raw v ↔
      v.isNegative = negative ∧ IsNearest magnitude.value v.rank ∧ v.isFinite = true := by
  constructor
  · rintro ⟨before', sign', body', after', magnitude', hraw', hbefore', hafter', hsign', hbody',
      hnearest, hfinite⟩
    -- Trimming and splitting find both decompositions of the text.
    have htrim := Numeral.trim_of_spelled hbefore hsign hbody hafter
    rw [← hraw, hraw', Numeral.trim_of_spelled hbefore' hsign' hbody' hafter'] at htrim
    have hsplit := hsign.split hbody.noSign
    rw [← htrim, hsign'.split hbody'.noSign] at hsplit
    obtain ⟨hnegative, rfl⟩ := Prod.mk.inj hsplit
    rw [hbody.unique hreads hbody']
    exact ⟨hnegative, hnearest, hfinite⟩
  · rintro ⟨rfl, hnearest, hfinite⟩
    exact ⟨before, sign, body, after, _, hraw, hbefore, hafter, hsign, hbody, hnearest, hfinite⟩

/-- **The number of a text** is the one it stands for, with the digits of an exponent
read up to the ceiling. -/
theorem numberOf_eq_some_iff {raw : String} {v : Binary64} :
    numberOf raw = some v ↔ Denotes (Numeral.ReadsUpTo Decimal.exponentCeiling) raw v := by
  rw [numberOf, Option.filter_eq_some_iff, Option.map_eq_some_iff]
  constructor
  · rintro ⟨⟨n, hn, rfl⟩, hfinite⟩
    obtain ⟨before, after, hraw, hbefore, hafter⟩ := Text.exists_trim raw.toList
    obtain ⟨sign, body, htrim, hsign, hbody⟩ := Numeral.parse?_eq_some_iff.mp hn
    obtain ⟨rank, hrank, hnearest⟩ := n.exists_isNearest_toBinary64
    rw [htrim] at hraw
    have hnegative : n.toBinary64.isNegative = n.negative := by
      rw [hrank, isNegative_ofRank hnearest.le_infinity]
    have hplace : n.toBinary64.rank = rank := by rw [hrank, rank_ofRank hnearest.le_infinity]
    refine ⟨before, sign, body, after, _, hraw, hbefore, hafter, ?_, hbody, ?_, hfinite⟩
    · rwa [hnegative]
    · rwa [hplace]
  · rintro ⟨before, sign, body, after, magnitude, hraw, hbefore, hafter, hsign, hbody, hnearest,
      hfinite⟩
    refine ⟨⟨⟨v.isNegative, magnitude⟩, ?_, ?_⟩, hfinite⟩
    · rw [hraw, Numeral.trim_of_spelled hbefore hsign hbody hafter]
      exact Numeral.parse?_eq_some_iff.mpr ⟨sign, body, rfl, hsign, hbody⟩
    · -- The rank that is computed is the nearest one, and there is only one.
      obtain ⟨rank, hrank, hnearest'⟩ :=
        Numeral.exists_isNearest_toBinary64 ⟨v.isNegative, magnitude⟩
      rw [hrank, hnearest'.unique hnearest]
      exact ofRank_isNegative_rank v

end Reading

end SqlProbe
