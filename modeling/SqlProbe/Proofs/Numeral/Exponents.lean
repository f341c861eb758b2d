import SqlProbe.Proofs.Numeral.Denotation

/-!
# Long exponents

`Reading.numberOf` reads the digits of an exponent up to a ceiling, and a text
stands for what all of its digits say. The two are different numbers, and yet they
round to the same one, unless the mantissa is about as long as the exponent is
large: an exponent past the ceiling is out of range by more than 65 000 places, and
it takes as many digits of a mantissa to make up for that.

* `Reading.numberOf_iff_denotes`: what the program reads, for every text up to the
  ceiling, and exactly for every text that is not too long.
* `Reading.numberOf_farExponent`: a text that is too long, and is read wrongly.

The two readings of one text have the same derivation but for the exponent, and the
two exponents agree, or are both past the ceiling on the same side
(`Numeral.AgreeUpTo`). In the first case there is nothing to show; in the second one
both numbers are too large for the format, or too small, or both zero
(`Numeral.AgreeUpTo.isNearest`).
-/

namespace SqlProbe

open Binary64

namespace Numeral

/-! ### Digits and their number -/

section Digits

variable {ds : List Char}

theorem natOf_le_append (ds t : List Char) :
    Digit.natOf 10 ds ≤ Digit.natOf 10 (ds ++ t) := by
  induction t using List.reverseRecOn with
  | nil => rw [List.append_nil]
  | append_singleton t c ih =>
    rw [← List.append_assoc, Digit.natOf_append_singleton]
    omega

theorem natOf_lt_pow (hall : ∀ c ∈ ds, Digit.isDecimal c = true) :
    Digit.natOf 10 ds < 10 ^ ds.length := by
  induction ds using List.reverseRecOn with
  | nil => exact Nat.one_pos
  | append_singleton ds c ih =>
    have hds := ih fun d hd => hall d (List.mem_append_left _ hd)
    have hc := Digit.value_lt_ten (hall c (List.mem_append_right _ (List.mem_singleton_self c)))
    rw [Digit.natOf_append_singleton, List.length_append, List.length_singleton, Nat.pow_succ]
    omega

theorem natOf_zeros (n : Nat) : Digit.natOf 10 (List.replicate n '0') = 0 := by
  induction n with
  | zero => rfl
  | succ n ih =>
    rw [List.replicate_succ', Digit.natOf_append_singleton, ih]
    rfl

/-- What is read of an exponent is all of it, or it is past the limit as all of it
is. -/
theorem ReadsUpTo.eq_or_le {limit n : Nat} (h : ReadsUpTo limit ds n) :
    n = Digit.natOf 10 ds ∨ limit ≤ n ∧ limit ≤ Digit.natOf 10 ds := by
  obtain ⟨before, after, rfl, rfl, rfl | hle, -⟩ := h
  · rw [List.append_nil]
    exact .inl rfl
  · exact .inr ⟨hle, hle.trans (natOf_le_append before after)⟩

end Digits

/-! ### Exponents past the ceiling -/

/-- Two exponents are the same, or past the same bound. -/
def AgreeUpTo (limit : Nat) (k k' : Int) : Prop :=
  k = k' ∨ (limit ≤ k ∧ limit ≤ k') ∨ (k ≤ -limit ∧ k' ≤ -limit)

/-- A length of a text up to which its mantissa cannot make up for an exponent past the
ceiling. -/
def lengthLimit : Nat := 65200

section Agree

variable {digits places significand rank : Nat} {k k' : Int}

/-- A mantissa of not too many digits does not tell such exponents apart. -/
theorem AgreeUpTo.isNearest (h : AgreeUpTo Decimal.exponentCeiling k k')
    (hlt : significand < 10 ^ digits) (hplaces : places ≤ digits) (hdigits : digits ≤ lengthLimit)
    (hrank : IsNearest (Decimal.value ⟨significand, k - places⟩) rank) :
    IsNearest (Decimal.value ⟨significand, k' - places⟩) rank := by
  by_cases hzero : significand = 0
  · rw [Decimal.value, hzero, Nat.cast_zero, zero_mul] at hrank ⊢
    exact hrank
  simp only [lengthLimit, AgreeUpTo, Decimal.exponentCeiling] at hdigits h
  obtain rfl | ⟨hk, hk'⟩ | ⟨hk, hk'⟩ := h
  · exact hrank
  · -- The mantissa takes back at most `lengthLimit` of the places.
    have large : ∀ l : Int, 65536 ≤ l →
        IsNearest (Decimal.value ⟨significand, l - places⟩) infinityRank := by
      intro l hl
      refine .infinity (Decimal.le_value_of_large hzero ?_)
      change 309 ≤ l - places
      omega
    rw [hrank.unique (large k hk)]
    exact large k' hk'
  · -- It adds at most as many, and places after the point add none.
    have small : ∀ l : Int, l ≤ -65536 →
        IsNearest (Decimal.value ⟨significand, l - places⟩) 0 := by
      intro l hl
      refine .zero (Decimal.value_lt_of_digits hlt ?_)
      change (digits : Int) + 324 ≤ -(l - places)
      omega
    rw [hrank.unique (small k hk)]
    exact small k' hk'

end Agree

/-! ### From one reading to another -/

/-- Two readings of digits that differ past the ceiling only. -/
def Refines (reads reads' : List Char → Nat → Prop) : Prop :=
  ∀ ds n, reads ds n → ∃ n', reads' ds n' ∧
    (n = n' ∨ Decimal.exponentCeiling ≤ n ∧ Decimal.exponentCeiling ≤ n')

theorem rightUnique_readsAll : Relator.RightUnique ReadsAll := fun _ _ _ h h' => h.trans h'.symm

theorem refines_readsAll : Refines (ReadsUpTo Decimal.exponentCeiling) ReadsAll :=
  fun ds _ h => ⟨Digit.natOf 10 ds, rfl, h.eq_or_le⟩

theorem readsAll_refines : Refines ReadsAll (ReadsUpTo Decimal.exponentCeiling) := by
  rintro ds _ rfl
  have h := Decimal.readsUpTo_exponentSize ds
  exact ⟨_, h, h.eq_or_le.imp Eq.symm And.symm⟩

section Refines

variable {reads reads' : List Char → Nat → Prop} {run : List Char → List Char → Prop}
  {s m w f x : List Char}

theorem Scale.refine {k : Int} (hreads : Refines reads reads') (h : Scale run reads x k) :
    ∃ k', Scale run reads' x k' ∧ AgreeUpTo Decimal.exponentCeiling k k' := by
  cases h with
  | absent => exact ⟨0, .absent, .inl rfl⟩
  | @present mark sign s ds negative n hmark hsign hrun hn =>
    obtain ⟨n', hn', hagree⟩ := hreads ds n hn
    refine ⟨_, .present hmark hsign hrun hn', ?_⟩
    -- The sign decides on which side of the range both are.
    unfold AgreeUpTo
    cases negative <;> simp only [Bool.false_eq_true, if_true, if_false] <;> omega

theorem Mantissa.all (h : Mantissa (DigitRun Digit.isDecimal) m w f) :
    ∀ c ∈ w ++ f, Digit.isDecimal c = true := by
  cases h with
  | whole hw => exact List.forall_mem_append.mpr ⟨hw.all, fun _ hc => nomatch hc⟩
  | pointAfter hw => exact List.forall_mem_append.mpr ⟨hw.all, fun _ hc => nomatch hc⟩
  | pointAmong hw hf => exact List.forall_mem_append.mpr ⟨hw.all, hf.all⟩
  | pointBefore hf => exact hf.all

theorem Mantissa.length_le (h : Mantissa (DigitRun Digit.isDecimal) m w f) :
    (w ++ f).length ≤ m.length := by
  cases h with
  | whole hw => simpa using hw.length_le
  | pointAfter hw => simpa using hw.length_le.trans (Nat.le_succ _)
  | pointAmong hw hf =>
    have := hw.length_le
    have := hf.length_le
    simp only [List.length_append, List.length_cons]
    omega
  | pointBefore hf => simpa using hf.length_le.trans (Nat.le_succ _)

theorem Spelled.refine {magnitude : Magnitude} (hreads : Refines reads reads')
    (h : Spelled reads s magnitude) (hlen : s.length ≤ lengthLimit) :
    ∃ magnitude', Spelled reads' s magnitude' ∧
      ∀ rank, IsNearest magnitude.value rank → IsNearest magnitude'.value rank := by
  cases h with
  | hexadecimal hmark hrun hlt => exact ⟨_, .hexadecimal hmark hrun hlt, fun _ h => h⟩
  | decimal hd =>
    obtain ⟨hm, hx⟩ := hd
    obtain ⟨k', hx', hagree⟩ := hx.refine hreads
    refine ⟨_, .decimal ⟨hm, hx'⟩, fun rank hrank => ?_⟩
    have hlen' := hm.length_le
    rw [List.length_append] at hlen
    refine hagree.isNearest (natOf_lt_pow hm.all) ?_ (by omega) hrank
    rw [List.length_append]
    omega

end Refines

end Numeral

namespace Reading

open Numeral

theorem Denotes.refine {reads reads' : List Char → Nat → Prop} {raw : String} {v : Binary64}
    (hreads : Refines reads reads') (h : Denotes reads raw v)
    (hlen : (Text.trim raw.toList).length ≤ lengthLimit) : Denotes reads' raw v := by
  obtain ⟨before, sign, body, after, magnitude, hraw, hbefore, hafter, hsign, hbody, hnearest,
    hfinite⟩ := h
  rw [hraw, trim_of_spelled hbefore hsign hbody hafter, List.length_append] at hlen
  obtain ⟨magnitude', hbody', htransfer⟩ := hbody.refine hreads (by omega)
  exact ⟨before, sign, body, after, magnitude', hraw, hbefore, hafter, hsign, hbody',
    htransfer _ hnearest, hfinite⟩

/-- **Numbers are read exactly.** What the program reads is what the text stands for,
with the exponent read up to the ceiling; and up to a length of the text, which is
far beyond that of any number, with all of the exponent. -/
theorem numberOf_iff_denotes (raw : String) (v : Binary64) :
    (numberOf raw = some v ↔ Denotes (ReadsUpTo 65536) raw v) ∧
    ((Text.trim raw.toList).length ≤ 65200 →
      (numberOf raw = some v ↔ Denotes ReadsAll raw v)) := by
  refine ⟨numberOf_eq_some_iff, fun hlen => numberOf_eq_some_iff.trans ⟨fun h => ?_, fun h => ?_⟩⟩
  · exact h.refine refines_readsAll hlen
  · exact h.refine readsAll_refines hlen

/-! ### A text that is too long -/

/-- `0.00…01e` and digits: one, as many places after the point as there are zeros and
one more, and scaled up again. -/
def scaledUnit (zeros : Nat) (ds : List Char) : List Char :=
  ['0'] ++ '.' :: (List.replicate zeros '0' ++ ['1']) ++ 'e' :: ds

theorem spelled_scaledUnit {reads : List Char → Nat → Prop} {zeros n : Nat} {ds : List Char}
    (hds : PlainRun Digit.isDecimal ds ds) (hn : reads ds n) :
    Spelled reads (scaledUnit zeros ds) (.scaled ⟨1, n - (zeros + 1 : Nat)⟩) := by
  have hdigits : ∀ c ∈ List.replicate zeros '0' ++ ['1'], Digit.isDecimal c = true := by
    intro c hc
    obtain hc | hc := List.mem_append.mp hc
    · rw [List.eq_of_mem_replicate hc]
      decide
    · rw [List.mem_singleton.mp hc]
      decide
  have hfraction : PlainRun Digit.isDecimal _ (List.replicate zeros '0' ++ ['1']) :=
    ⟨rfl, List.append_ne_nil_of_right_ne_nil _ (List.cons_ne_nil _ _), hdigits⟩
  have hm : Mantissa (DigitRun Digit.isDecimal) _ ['0'] (List.replicate zeros '0' ++ ['1']) :=
    .pointAmong (.single (by decide)) hfraction.digitRun
  have hx : Scale (DigitRun Digit.isDecimal) reads ('e' :: ds) n :=
    .present (.inl rfl) .absent hds.digitRun hn
  have hsig : Digit.natOf 10 (['0'] ++ (List.replicate zeros '0' ++ ['1'])) = 1 := by
    rw [← List.append_assoc, Digit.natOf_append_singleton, List.singleton_append, ← List.replicate_succ,
      natOf_zeros]
    rfl
  have h := Spelled.decimal (SpelledDecimal.intro hm hx)
  rwa [hsig, List.length_append, List.length_replicate, List.length_singleton] at h

/-- One, with 65536 places after the point, and an exponent that has ten times as
many. -/
def farExponent : String := String.ofList (scaledUnit 65535 "655360".toList)

/-- Where a numeral is in `farExponent`, and how its exponent is read. -/
theorem denotes_farExponent {reads : List Char → Nat → Prop} {n : Nat} {v : Binary64}
    (hreads : Relator.RightUnique reads) (hn : reads "655360".toList n) :
    Denotes reads farExponent v ↔
      v.isNegative = false ∧ IsNearest (Decimal.value ⟨1, n - (65535 + 1 : Nat)⟩) v.rank ∧
        v.isFinite = true := by
  have hds : PlainRun Digit.isDecimal "655360".toList "655360".toList :=
    plainRun_iff.mpr (by decide)
  have hraw : farExponent.toList = [] ++ ([] ++ scaledUnit 65535 "655360".toList) ++ [] := by
    rw [farExponent, String.toList_ofList, List.append_nil]
    rfl
  exact denotes_iff hreads hraw (fun _ hc => nomatch hc) (fun _ hc => nomatch hc) .absent
    (spelled_scaledUnit hds hn)

/-- **Past the ceiling.** A text of that length is read as one although it stands for
no finite number. -/
theorem numberOf_farExponent :
    numberOf farExponent = some (ofNat false 1) ∧ ∀ v, ¬ Denotes ReadsAll farExponent v := by
  constructor
  · -- Up to the ceiling the digits are `65536`, which the places take back.
    have hread : ReadsUpTo Decimal.exponentCeiling "655360".toList 65536 :=
      Decimal.readsUpTo_iff.mpr (by decide)
    rw [numberOf_eq_some_iff, denotes_farExponent (rightUnique_readsUpTo _) hread]
    have hnearest := isNearest_nearestRank 1 Nat.one_pos
    rw [← rank_ofRank hnearest.le_infinity] at hnearest
    refine ⟨by decide +kernel, ?_, by decide +kernel⟩
    rwa [Decimal.value, sub_self, zpow_zero, mul_one, ← div_one ((1 : Nat) : ℚ)]
  · intro v hv
    obtain ⟨-, hnearest, hfinite⟩ := (denotes_farExponent rightUnique_readsAll rfl).mp hv
    have hexp : (309 : Int) ≤ Digit.natOf 10 "655360".toList - (65535 + 1 : Nat) := by decide
    have hrank : v.rank = infinityRank :=
      hnearest.unique (.infinity (Decimal.le_value_of_large Nat.one_ne_zero hexp))
    rw [isFinite, hrank, decide_eq_true_iff] at hfinite
    exact absurd hfinite (Nat.lt_irrefl _)

end Reading

end SqlProbe
