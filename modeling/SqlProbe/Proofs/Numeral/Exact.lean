import SqlProbe.Proofs.Number.Exactness
import SqlProbe.Proofs.Numeral.Exponents

/-!
# The exact number of a text

A text that is a numeral between blanks spells an exact number, sign included
(`Reading.Spells`), and `Reading.numberOf` is that number rounded, if it is any
(`Reading.Spells.isRounded`). What rounding keeps is kept on the way from a text to
its number: the order, by `Binary64.IsRounded.exact_le_exact`, and an integer up to
`2 ^ 53` (`Reading.Spells.exists_numberOf_of_integer`), in whatever notation it is
written.
-/

namespace SqlProbe

open Binary64

/-! ### Integers as they are written -/

/-- **An unsigned integer**, in decimal or hexadecimal digits, and its number. -/
inductive Numeral.SpelledInteger : List Char → Nat → Prop where
  | decimal {s ds : List Char} (hrun : DigitRun Digit.isDecimal s ds) :
      SpelledInteger s (Digit.natOf 10 ds)
  | hexadecimal {mark : Char} {s ds : List Char} (hmark : mark = 'x' ∨ mark = 'X')
      (hrun : DigitRun Digit.isHex s ds) :
      SpelledInteger ('0' :: mark :: s) (Digit.natOf 16 ds)

theorem Magnitude.value_nonneg (m : Magnitude) : 0 ≤ m.value := by
  cases m with
  | whole n => exact Nat.cast_nonneg n
  | scaled d => exact mul_nonneg (Nat.cast_nonneg _) (zpow_nonneg (by norm_num) _)

/-- An integer is a numeral, unless it has too many hexadecimal digits. -/
theorem Numeral.SpelledInteger.spelled {reads : List Char → Nat → Prop} {s : List Char} {m : Nat}
    (h : SpelledInteger s m) (hm : m < 2 ^ 128) :
    ∃ magnitude, Spelled reads s magnitude ∧ magnitude.value = m := by
  cases h with
  | decimal hrun =>
    refine ⟨_, .decimal (.of_run hrun), ?_⟩
    rw [Magnitude.value, Decimal.value_of_nonneg (le_refl _)]
    simp
  | hexadecimal hmark hrun => exact ⟨_, .hexadecimal hmark hrun hm, rfl⟩

namespace Reading

/-! ### Signed numbers as they are written -/

/-- A number with the sign that is in front of it. -/
def signed {α : Type} [Neg α] (negative : Bool) (a : α) : α := if negative then -a else a

/-- **The exact number.** Between blanks there is a sign and a numeral, and `q` is the
number spelled there. -/
def Spells (reads : List Char → Nat → Prop) (raw : String) (q : ℚ) : Prop :=
  ∃ before sign body after negative magnitude,
    raw.toList = before ++ (sign ++ body) ++ after ∧
    (∀ c ∈ before, Text.isBlank c = true) ∧ (∀ c ∈ after, Text.isBlank c = true) ∧
    Numeral.SignText sign negative ∧ Numeral.Spelled reads body magnitude ∧
    q = signed negative magnitude.value

/-- **Integer results.** Between blanks there is a sign and an integer. -/
def SpellsInteger (raw : String) (n : ℤ) : Prop :=
  ∃ before sign body after negative m,
    raw.toList = before ++ (sign ++ body) ++ after ∧
    (∀ c ∈ before, Text.isBlank c = true) ∧ (∀ c ∈ after, Text.isBlank c = true) ∧
    Numeral.SignText sign negative ∧ Numeral.SpelledInteger body m ∧
    n = signed negative (m : ℤ)

section Signed

variable {negative : Bool} {q : ℚ}

theorem abs_signed (hq : 0 ≤ q) : |signed negative q| = q := by
  unfold signed
  split
  · rw [abs_neg, abs_of_nonneg hq]
  · exact abs_of_nonneg hq

/-- The nearest size and the sign that is written make the rounded number. -/
theorem isRounded_signed {x : Binary64} (hq : 0 ≤ q) (hnegative : x.isNegative = negative)
    (hnearest : IsNearest q x.rank) : IsRounded (signed negative q) x := by
  refine ⟨by rwa [abs_signed hq], fun h => ?_, fun h => ?_⟩
  · rw [signed, ← hnegative, if_pos h]
    exact neg_nonpos.mpr hq
  · rw [signed, ← hnegative, h, if_neg Bool.false_ne_true]
    exact hq

end Signed

section Spells

variable {reads : List Char → Nat → Prop} {raw : String} {q : ℚ} {v : Binary64}

/-- The number of a text is its exact number rounded. -/
theorem Spells.isRounded (hreads : Relator.RightUnique reads) (h : Spells reads raw q)
    (hv : Denotes reads raw v) : IsRounded q v := by
  obtain ⟨before, sign, body, after, negative, magnitude, hraw, hbefore, hafter, hsign, hbody,
    rfl⟩ := h
  obtain ⟨hnegative, hnearest, -⟩ :=
    (denotes_iff hreads hraw hbefore hafter hsign hbody).mp hv
  exact isRounded_signed magnitude.value_nonneg hnegative hnearest

/-- The two readings of exponents for which `numberOf` rounds what is spelled: up to the
ceiling, and as a whole if the text is not too long. -/
def ReadsExponents (raw : String) (reads : List Char → Nat → Prop) : Prop :=
  reads = Numeral.ReadsUpTo Decimal.exponentCeiling ∨
    reads = Numeral.ReadsAll ∧ (Text.trim raw.toList).length ≤ Numeral.lengthLimit

theorem Spells.isRounded_numberOf (hreads : ReadsExponents raw reads) (h : Spells reads raw q)
    (hv : numberOf raw = some v) : IsRounded q v := by
  have hdenotes := numberOf_eq_some_iff.mp hv
  obtain rfl | ⟨rfl, hlen⟩ := hreads
  · exact h.isRounded (Numeral.rightUnique_readsUpTo _) hdenotes
  · exact h.isRounded Numeral.rightUnique_readsAll
      (hdenotes.refine Numeral.refines_readsAll hlen)

end Spells

/-- **Numbers without rounding.** A number that is a finite size, apart from its sign, is
read as it is. -/
theorem Spells.exists_numberOf {raw : String} {q : ℚ} {rank : Nat}
    (h : Spells (Numeral.ReadsUpTo Decimal.exponentCeiling) raw q) (hsize : |q| = size rank)
    (hrank : rank < infinityRank) : ∃ v, numberOf raw = some v ∧ v.exact = q := by
  obtain ⟨before, sign, body, after, negative, magnitude, hraw, hbefore, hafter, hsign, hbody,
    rfl⟩ := h
  rw [abs_signed magnitude.value_nonneg] at hsize
  -- The number is made up from the rank, and it satisfies what determines `numberOf`.
  have hrank' : (ofRank negative rank).rank = rank := rank_ofRank hrank.le
  have hnegative : (ofRank negative rank).isNegative = negative := isNegative_ofRank hrank.le
  refine ⟨ofRank negative rank, ?_, ?_⟩
  · rw [numberOf_eq_some_iff,
      denotes_iff (Numeral.rightUnique_readsUpTo _) hraw hbefore hafter hsign hbody]
    refine ⟨hnegative, ?_, ?_⟩
    · rw [hrank', hsize]
      exact isNearest_size hrank.le
    · rw [isFinite, hrank', decide_eq_true_iff]
      exact hrank
  · rw [exact, hnegative, hrank', hsize]
    rfl

theorem SpellsInteger.spells {reads : List Char → Nat → Prop} {raw : String} {n : ℤ}
    (h : SpellsInteger raw n) (hn : n.natAbs < 2 ^ 128) : Spells reads raw n := by
  obtain ⟨before, sign, body, after, negative, m, hraw, hbefore, hafter, hsign, hbody, rfl⟩ := h
  have hm : m < 2 ^ 128 := by
    unfold signed at hn
    split at hn <;> omega
  obtain ⟨magnitude, hspelled, hvalue⟩ := hbody.spelled hm
  refine ⟨before, sign, body, after, negative, magnitude, hraw, hbefore, hafter, hsign, hspelled,
    ?_⟩
  rw [hvalue]
  cases negative with
  | true => exact Int.cast_neg _
  | false => exact Int.cast_natCast m

/-- **Integers** up to `2 ^ 53` are read as they are. -/
theorem Spells.exists_numberOf_of_integer {raw : String} {n : ℤ}
    (h : Spells (Numeral.ReadsUpTo Decimal.exponentCeiling) raw n) (hn : n.natAbs ≤ 2 ^ 53) :
    ∃ v, numberOf raw = some v ∧ v.exact = n := by
  obtain ⟨rank, hrank, hsize⟩ := exists_size_eq hn
  refine h.exists_numberOf ?_ hrank
  rw [hsize, Nat.cast_natAbs, Int.cast_abs]

/-! ### The text that is too long -/

/-- What the long text spells, for a reading of its exponent. -/
theorem spells_farExponent {reads : List Char → Nat → Prop} {n : Nat}
    (hn : reads "655360".toList n) :
    Spells reads farExponent (10 ^ ((n : ℤ) - (65535 + 1 : Nat))) := by
  have hds : Numeral.PlainRun Digit.isDecimal "655360".toList "655360".toList :=
    Numeral.plainRun_iff.mpr (by decide)
  have hspelled : Numeral.Spelled reads (scaledUnit 65535 "655360".toList) _ :=
    spelled_scaledUnit hds hn
  refine ⟨[], [], _, [], false, _, ?_, (fun _ hc => nomatch hc), (fun _ hc => nomatch hc), .absent,
    hspelled, ?_⟩
  · rw [farExponent, String.toList_ofList, List.append_nil]
    rfl
  · show _ = Decimal.value _
    rw [Decimal.value, Nat.cast_one, one_mul]

end Reading

end SqlProbe
