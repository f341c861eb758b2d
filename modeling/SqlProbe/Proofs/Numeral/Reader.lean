import Mathlib.Data.List.Induction
import Mathlib.Data.List.TakeDrop
import Mathlib.Data.List.TakeWhile
import Mathlib.Logic.Relator
import SqlProbe.Proofs.Numeral.Separators

/-!
# Reading a decimal numeral

`Decimal.parse?` takes a text apart from the left: digits, a point with digits behind
it, and then what must be an exponent or nothing. `Decimal.parse?_eq_some_iff` says
that it accepts the texts of the grammar without separators and no others, and reads
the number of the derivation.

Both directions rest on the same remark: after the longest run of digits comes
something that is no digit, and after the longest mantissa something that is no
point either, so that the reader and a derivation cut the text at the same places
(`Numeral.Mantissa.cut`, `Numeral.SignText.split`). That they do has nothing to do
with how the digits of the exponent are read, which makes every derivation of a text
the same one as soon as those are read in one way only
(`Numeral.SpelledDecimal.unique`).
-/

namespace SqlProbe

namespace Numeral

/-! ### Signs -/

section Sign

variable {sign s : List Char} {negative : Bool}

/-- What may follow a sign: something that is not another one. -/
def NoSign (s : List Char) : Prop := s.head? ≠ some '-' ∧ s.head? ≠ some '+'

theorem splitSign_of_noSign (h : NoSign s) : splitSign s = (false, s) := by
  unfold splitSign
  split
  · exact absurd rfl h.1
  · exact absurd rfl h.2
  · rfl

theorem SignText.split (h : SignText sign negative) (hs : NoSign s) :
    splitSign (sign ++ s) = (negative, s) := by
  cases h with
  | absent => exact splitSign_of_noSign hs
  | plus => rfl
  | minus => rfl

theorem exists_signText (s : List Char) :
    ∃ sign, s = sign ++ (splitSign s).2 ∧ SignText sign (splitSign s).1 := by
  unfold splitSign
  split
  · exact ⟨['-'], rfl, .minus⟩
  · exact ⟨['+'], rfl, .plus⟩
  · exact ⟨[], rfl, .absent⟩

theorem noSign_cons {c : Char} (hm : c ≠ '-') (hp : c ≠ '+') : NoSign (c :: s) :=
  ⟨fun h => hm (Option.some.inj h), fun h => hp (Option.some.inj h)⟩

/-- A run of digits does not start with a sign. -/
theorem DigitRun.noSign {ds : List Char} (h : DigitRun Digit.isDecimal s ds) (t : List Char) :
    NoSign (s ++ t) := by
  obtain ⟨c, u, rfl, hc⟩ := h.exists_cons
  refine noSign_cons ?_ ?_ <;> rintro rfl <;> exact nomatch hc

theorem PlainRun.noSign {ds : List Char} (h : PlainRun Digit.isDecimal s ds) : NoSign s :=
  List.append_nil s ▸ h.digitRun.noSign []

end Sign

/-! ### The size of an exponent -/

section Exponent

variable {ds : List Char} {limit n : Nat}

/-- One digit more is read if the limit is not reached yet. -/
theorem ReadsUpTo.append (h : ReadsUpTo limit ds n) (c : Char) :
    ReadsUpTo limit (ds ++ [c]) (if n < limit then n * 10 + Digit.value c else n) := by
  obtain ⟨before, after, rfl, rfl, hstop, hshort⟩ := h
  split
  · -- All digits so far are read; a proper prefix of one more is a prefix of those.
    rename_i hlt
    obtain rfl := hstop.resolve_right (Nat.not_le.mpr hlt)
    rw [List.append_nil, ← Digit.natOf_append_singleton]
    refine ⟨before ++ [c], [], (List.append_nil _).symm, rfl, .inl rfl, fun p hp hne => ?_⟩
    obtain heq | hp := List.prefix_concat_iff.mp hp
    · exact absurd heq hne
    · by_cases heq : p = before
      · rwa [heq]
      · exact hshort p hp heq
  · rename_i hle
    exact ⟨before, after ++ [c], List.append_assoc .., rfl, .inr (Nat.not_lt.mp hle), hshort⟩

/-- Where reading has stopped at `p`, it cannot have gone on to a longer prefix. -/
theorem eq_of_stopped {p p' q q' : List Char} (heq : p ++ q = p' ++ q') (hp : p <+: p')
    (hstop : q = [] ∨ limit ≤ Digit.natOf 10 p)
    (hshort : ∀ r, r <+: p' → r ≠ p' → Digit.natOf 10 r < limit) : p = p' := by
  by_contra hne
  obtain rfl := hstop.resolve_right (Nat.not_le.mpr (hshort p hp hne))
  rw [List.append_nil] at heq
  have hp' : p' <+: p := ⟨q', heq.symm⟩
  exact hne (hp.eq_of_length_le hp'.length_le)

theorem rightUnique_readsUpTo (limit : Nat) : Relator.RightUnique (ReadsUpTo limit) := by
  intro ds n n' h h'
  obtain ⟨before, after, rfl, rfl, hstop, hshort⟩ := h
  obtain ⟨before', after', heq, rfl, hstop', hshort'⟩ := h'
  -- Both are prefixes of the digits, so that one is a prefix of the other.
  rcases List.prefix_or_prefix_of_prefix (List.prefix_append before after)
    (heq ▸ List.prefix_append before' after') with hp | hp
  · rw [eq_of_stopped heq hp hstop hshort']
  · rw [eq_of_stopped heq.symm hp hstop' hshort]

end Exponent

/-! ### Mantissas -/

section Mantissa

variable {s ds w f m x rest : List Char}

theorem spanDecimal_of_noDigit (h : NoDigit Digit.isDecimal s) :
    Digit.spanDecimal s = ([], s) := by
  rw [Digit.spanDecimal, List.span_eq_takeWhile_dropWhile]
  cases s with
  | nil => rfl
  | cons c s =>
    have hc : ¬ Digit.isDecimal c = true := Bool.not_eq_true _ ▸ noDigit_cons.mp h
    rw [List.takeWhile_cons_of_neg hc, List.dropWhile_cons_of_neg hc]

theorem spanDecimal_append (hall : ∀ c ∈ ds, Digit.isDecimal c = true)
    (hrest : NoDigit Digit.isDecimal rest) : Digit.spanDecimal (ds ++ rest) = (ds, rest) := by
  have h := spanDecimal_of_noDigit hrest
  rw [Digit.spanDecimal, List.span_eq_takeWhile_dropWhile] at h ⊢
  rw [List.takeWhile_append_of_pos hall, List.dropWhile_append_of_pos hall, (Prod.mk.inj h).1,
    (Prod.mk.inj h).2, List.append_nil]

/-- The two parts of a cut, and what is known of them. -/
theorem spanDecimal_spec (s : List Char) :
    s = (Digit.spanDecimal s).1 ++ (Digit.spanDecimal s).2 ∧
      (∀ c ∈ (Digit.spanDecimal s).1, Digit.isDecimal c = true) ∧
      NoDigit Digit.isDecimal (Digit.spanDecimal s).2 := by
  rw [Digit.spanDecimal, List.span_eq_takeWhile_dropWhile]
  refine ⟨List.takeWhile_append_dropWhile.symm, fun c hc => List.mem_takeWhile_imp hc, ?_⟩
  intro c hc
  have h := List.head?_dropWhile_not Digit.isDecimal s
  rwa [Option.mem_def.mp hc] at h

/-- A point and the digits after it, cut off, or nothing if there is no point. -/
def cutFraction (s : List Char) : List Char × List Char :=
  match s with
  | '.' :: more => Digit.spanDecimal more
  | more => ([], more)

/-- The digits before a point, the digits after it, and the rest of a text. -/
def cutMantissa (s : List Char) : List Char × List Char × List Char :=
  ((Digit.spanDecimal s).1, cutFraction (Digit.spanDecimal s).2)

theorem cutFraction_of_head?_ne (h : s.head? ≠ some '.') : cutFraction s = ([], s) := by
  unfold cutFraction
  split
  · exact absurd rfl h
  · rfl

theorem cutMantissa_of_span (h : Digit.spanDecimal s = (w, rest)) :
    cutMantissa s = (w, cutFraction rest) := by
  rw [cutMantissa, h]

/-- What may follow a mantissa: something that is neither a digit nor a point. -/
def NoMantissa (x : List Char) : Prop := NoDigit Digit.isDecimal x ∧ x.head? ≠ some '.'

theorem noDigit_point : NoDigit Digit.isDecimal ('.' :: s) := noDigit_cons.mpr (by decide)

/-- A mantissa of the grammar is cut where it ends. -/
theorem Mantissa.cut (h : Mantissa (PlainRun Digit.isDecimal) m w f) (hx : NoMantissa x) :
    cutMantissa (m ++ x) = (w, f, x) := by
  obtain ⟨hdigit, hpoint⟩ := hx
  cases h with
  | whole hw =>
    obtain ⟨rfl, -, hall⟩ := hw
    rw [cutMantissa_of_span (spanDecimal_append hall hdigit), cutFraction_of_head?_ne hpoint]
  | pointAfter hw =>
    obtain ⟨rfl, -, hall⟩ := hw
    rw [List.append_assoc, List.singleton_append,
      cutMantissa_of_span (spanDecimal_append hall noDigit_point)]
    exact congrArg _ (spanDecimal_of_noDigit hdigit)
  | pointAmong hw hf =>
    obtain ⟨rfl, -, hall⟩ := hw
    obtain ⟨rfl, -, hall'⟩ := hf
    rw [List.append_assoc, List.cons_append,
      cutMantissa_of_span (spanDecimal_append hall noDigit_point)]
    exact congrArg _ (spanDecimal_append hall' hdigit)
  | pointBefore hf =>
    obtain ⟨rfl, -, hall⟩ := hf
    rw [List.cons_append, cutMantissa_of_span (spanDecimal_of_noDigit noDigit_point)]
    exact congrArg _ (spanDecimal_append hall hdigit)

/-- What was cut off is a mantissa, if there is a digit in it. -/
theorem exists_mantissa (h : cutMantissa s = (w, f, x)) (hne : w ≠ [] ∨ f ≠ []) :
    ∃ m, s = m ++ x ∧ Mantissa (PlainRun Digit.isDecimal) m w f := by
  obtain ⟨hs, hall, -⟩ := spanDecimal_spec s
  obtain ⟨rfl, hfraction⟩ := Prod.mk.inj h
  unfold cutFraction at hfraction
  split at hfraction
  · -- There is a point; which constructor it is depends on where the digits are.
    rename_i more hmore
    obtain ⟨hmore', hall', -⟩ := spanDecimal_spec more
    rw [hmore, hmore', hfraction] at hs
    rw [hfraction] at hall'
    by_cases hw : (Digit.spanDecimal s).1 = []
    · rw [hw, List.nil_append] at hs
      rw [hw]
      exact ⟨_, hs, .pointBefore ⟨rfl, hne.resolve_left (not_not_intro hw), hall'⟩⟩
    · by_cases hf : f = []
      · rw [hf, List.nil_append, List.append_cons] at hs
        rw [hf]
        exact ⟨_, hs, .pointAfter ⟨rfl, hw, hall⟩⟩
      · rw [← List.cons_append, ← List.append_assoc] at hs
        exact ⟨_, hs, .pointAmong ⟨rfl, hw, hall⟩ ⟨rfl, hf, hall'⟩⟩
  · obtain ⟨rfl, rfl⟩ := Prod.mk.inj hfraction
    exact ⟨_, hs, .whole ⟨rfl, hne.resolve_right (not_not_intro rfl), hall⟩⟩

/-- A mantissa has a digit. -/
theorem Mantissa.ne_nil (h : Mantissa (PlainRun Digit.isDecimal) m w f) : w ≠ [] ∨ f ≠ [] := by
  cases h with
  | whole hw => exact .inl hw.ne_nil
  | pointAfter hw => exact .inl hw.ne_nil
  | pointAmong hw _ => exact .inl hw.ne_nil
  | pointBefore hf => exact .inr hf.ne_nil

end Mantissa

/-! ### Exponents -/

section Scale

variable {run : List Char → List Char → Prop} {reads : List Char → Nat → Prop} {x : List Char}
  {k k' : Int}

theorem Scale.noMantissa (h : Scale run reads x k) : NoMantissa x := by
  refine ⟨noDigit_of_scale h, ?_⟩
  cases h with
  | absent => exact fun h => nomatch h
  | present hmark _ _ _ => obtain rfl | rfl := hmark <;> exact fun h => nomatch h

/-- If the digits of an exponent are read in one way only, so is the exponent. -/
theorem Scale.unique (hreads : Relator.RightUnique reads)
    (h : Scale (PlainRun Digit.isDecimal) reads x k)
    (h' : Scale (PlainRun Digit.isDecimal) reads x k') : k = k' := by
  cases h with
  | absent =>
    cases h' with
    | absent => rfl
  | present hmark hsign hrun hn =>
    generalize hx : _ :: (_ ++ _) = y at h'
    cases h' with
    | absent => exact nomatch hx
    | present hmark' hsign' hrun' hn' =>
      have hsplit := hsign.split hrun.noSign
      rw [(List.cons.inj hx).2, hsign'.split hrun'.noSign] at hsplit
      obtain ⟨rfl, rfl⟩ := Prod.mk.inj hsplit
      obtain rfl := hrun.eq
      obtain rfl := hrun'.eq
      rw [hreads hn hn']

/-- A numeral is cut into its mantissa and its exponent. -/
theorem SpelledDecimal.cut {s : List Char} {d : Decimal}
    (h : SpelledDecimal (PlainRun Digit.isDecimal) reads s d) :
    ∃ w f x k, cutMantissa s = (w, f, x) ∧ Scale (PlainRun Digit.isDecimal) reads x k ∧
      d = ⟨Digit.natOf 10 (w ++ f), k - f.length⟩ := by
  obtain ⟨hm, hx⟩ := h
  exact ⟨_, _, _, _, hm.cut hx.noMantissa, hx, rfl⟩

/-- **Unambiguity.** A plain text is a decimal numeral in at most one way. -/
theorem SpelledDecimal.unique (hreads : Relator.RightUnique reads)
    {s : List Char} {d d' : Decimal}
    (h : SpelledDecimal (PlainRun Digit.isDecimal) reads s d)
    (h' : SpelledDecimal (PlainRun Digit.isDecimal) reads s d') : d = d' := by
  obtain ⟨w, f, x, k, hcut, hx, rfl⟩ := h.cut
  obtain ⟨w', f', x', k', hcut', hx', rfl⟩ := h'.cut
  obtain ⟨rfl, rfl, rfl⟩ : _ ∧ _ ∧ _ := by simpa only [Prod.mk.injEq] using hcut.symm.trans hcut'
  rw [hx.unique hreads hx']

end Scale

end Numeral

namespace Decimal

open Numeral

theorem exponentSize_append_singleton (ds : List Char) (c : Char) :
    exponentSize (ds ++ [c]) =
      if exponentSize ds < exponentCeiling then exponentSize ds * 10 + Digit.value c
      else exponentSize ds := by
  rw [exponentSize, exponentSize, List.foldl_append, List.foldl_cons, List.foldl_nil]

theorem readsUpTo_exponentSize (ds : List Char) :
    ReadsUpTo exponentCeiling ds (exponentSize ds) := by
  induction ds using List.reverseRecOn with
  | nil => exact ⟨[], [], rfl, rfl, .inl rfl, fun p hp hne => absurd (List.prefix_nil.mp hp) hne⟩
  | append_singleton ds c ih =>
    rw [exponentSize_append_singleton]
    exact ih.append c

/-- **The size of an exponent** is that of its digits up to the ceiling. -/
theorem readsUpTo_iff {ds : List Char} {n : Nat} :
    ReadsUpTo exponentCeiling ds n ↔ exponentSize ds = n :=
  ⟨rightUnique_readsUpTo _ (readsUpTo_exponentSize ds), fun h => h ▸ readsUpTo_exponentSize ds⟩

/-- The exponent is read after its sign. -/
theorem parseExponent?_eq (s : List Char) :
    parseExponent? s =
      if (splitSign s).2.isEmpty || !(splitSign s).2.all Digit.isDecimal then none
      else some (if (splitSign s).1 then -(exponentSize (splitSign s).2 : Int)
        else exponentSize (splitSign s).2) := rfl

theorem parseScale?_eq_some_iff {x : List Char} {k : Int} :
    parseScale? x = some k ↔
      Scale (PlainRun Digit.isDecimal) (ReadsUpTo exponentCeiling) x k := by
  constructor
  · intro h
    cases x with
    | nil =>
      obtain rfl := Option.some.inj h
      exact .absent
    | cons c rest =>
      rw [parseScale?] at h
      split at h
      · rename_i hmark
        rw [Bool.or_eq_true, decide_eq_true_eq, decide_eq_true_eq] at hmark
        rw [parseExponent?_eq] at h
        split at h
        · exact nomatch h
        · rename_i hrun
          obtain rfl := Option.some.inj h
          obtain ⟨sign, hrest, hsign⟩ := exists_signText rest
          have := Scale.present hmark hsign (plainRun_iff.mpr hrun)
            (readsUpTo_exponentSize (splitSign rest).2)
          rwa [← hrest] at this
      · exact nomatch h
  · intro h
    cases h with
    | absent => rfl
    | present hmark hsign hrun hn =>
      obtain rfl := hrun.eq
      obtain rfl := readsUpTo_iff.mp hn
      rw [parseScale?, if_pos (by simpa using hmark), parseExponent?_eq, hsign.split hrun.noSign,
        if_neg (plainRun_iff.mp hrun)]

/-- The exponent is read after the mantissa. -/
theorem parse?_of_cut {s w f x : List Char} (h : cutMantissa s = (w, f, x)) :
    parse? s =
      if w.isEmpty && f.isEmpty then none
      else (parseScale? x).map fun scale => ⟨Digit.natOf 10 (w ++ f), scale - f.length⟩ := by
  obtain ⟨rfl, hfraction⟩ := Prod.mk.inj h
  obtain ⟨rfl, rfl⟩ : f = (cutFraction (Digit.spanDecimal s).2).1 ∧
      x = (cutFraction (Digit.spanDecimal s).2).2 := by rw [hfraction]; exact ⟨rfl, rfl⟩
  rfl

/-- **Decimal numerals.** The reader accepts the plain texts of the grammar, with the
number of the derivation. -/
theorem parse?_eq_some_iff {s : List Char} {d : Decimal} :
    parse? s = some d ↔
      SpelledDecimal (PlainRun Digit.isDecimal) (ReadsUpTo exponentCeiling) s d := by
  constructor
  · intro h
    obtain ⟨⟨w, f, x⟩, hcut⟩ : ∃ p, cutMantissa s = p := ⟨_, rfl⟩
    rw [parse?_of_cut hcut] at h
    split at h
    · exact nomatch h
    · rename_i hne
      rw [Bool.and_eq_true, List.isEmpty_iff, List.isEmpty_iff, not_and_or] at hne
      obtain ⟨m, rfl, hm⟩ := exists_mantissa hcut hne
      obtain ⟨scale, hscale, rfl⟩ := Option.map_eq_some_iff.mp h
      exact ⟨hm, parseScale?_eq_some_iff.mp hscale⟩
  · rintro ⟨hm, hx⟩
    have hne := hm.ne_nil
    rw [parse?_of_cut (hm.cut hx.noMantissa), if_neg, parseScale?_eq_some_iff.mpr hx,
      Option.map_some]
    rwa [Bool.and_eq_true, List.isEmpty_iff, List.isEmpty_iff, not_and_or]

end Decimal

end SqlProbe
