import SqlProbe.Proofs.Numeral.Grammar

/-!
# Removing the separators

`Numeral.stripSeparators` sees a text one character at a time and knows nothing of
numerals. On a text with a run of digits in it, it does what the grammar asks: what
it makes a run of plain digits was a run of digits with separators, and the other
way round (`Numeral.stripSeparators_eq_append_iff`). A character that is neither a
digit nor `_` is passed on, and cuts the text in two parts that have nothing to do
with each other (`Numeral.stripSeparators_eq_cons_iff`).

From these two facts the whole of a decimal numeral follows, part by part: a text is
a numeral of the grammar with separators exactly if what is left of it is a numeral
of the grammar without (`Numeral.spelledDecimal_iff_strip`).
-/

namespace SqlProbe

namespace Numeral

section Strip

variable {isDigit : Char → Bool} {s t ds rest : List Char} {c : Char}

@[simp] theorem stripSeparators_nil : stripSeparators isDigit [] = some [] := rfl

theorem stripSeparators_cons (hc : c ≠ '_') (s : List Char) :
    stripSeparators isDigit (c :: s) = (stripAfter isDigit (some c) s).map (c :: ·) := by
  rw [stripSeparators, stripAfter, if_neg hc]

theorem head?_cons_ne (hc : c ≠ '_') : (c :: s).head? ≠ some '_' :=
  fun h => hc (Option.some.inj h)

/-- A text that starts with a separator is refused, as nothing stands before it. -/
theorem head?_ne_of_strip (h : stripSeparators isDigit s = some t) : s.head? ≠ some '_' := by
  cases s with
  | nil => exact fun h => nomatch h
  | cons a s =>
    rintro ⟨⟩
    exact nomatch h

/-- Something of a text is always passed on. -/
theorem eq_nil_of_strip (h : stripSeparators isDigit s = some []) : s = [] := by
  cases s with
  | nil => rfl
  | cons a s =>
    rw [stripSeparators_cons fun ha => head?_ne_of_strip h (congrArg some ha)] at h
    obtain ⟨t, -, ht⟩ := Option.map_eq_some_iff.mp h
    exact nomatch ht

/-- What stands before a text matters only if the text starts with a separator. -/
theorem stripAfter_of_head?_ne (h : s.head? ≠ some '_') (before : Option Char) :
    stripAfter isDigit before s = stripSeparators isDigit s := by
  cases s with
  | nil => rfl
  | cons a s =>
    have ha : a ≠ '_' := fun ha => h (congrArg some ha)
    rw [stripSeparators_cons ha, stripAfter, if_neg ha]

/-- A character that is no digit does not let a separator follow. -/
theorem stripAfter_of_not_digit (hc : isDigit c = false) (s : List Char) :
    stripAfter isDigit (some c) s = stripSeparators isDigit s := by
  cases s with
  | nil => rfl
  | cons a s =>
    by_cases ha : a = '_'
    · rw [stripSeparators, stripAfter, stripAfter, if_pos ha, if_pos ha, Option.any_some, hc,
        Option.any_none]
    · exact stripAfter_of_head?_ne (head?_cons_ne ha) _

/-- After a digit there is at most one separator, and then another digit. -/
theorem stripAfter_digit (hsep : isDigit '_' = false) (hc : isDigit c = true)
    (h : stripAfter isDigit (some c) s = some t) :
    stripSeparators isDigit s = some t ∨
      ∃ s', s = '_' :: s' ∧ s'.head?.any isDigit = true ∧ stripSeparators isDigit s' = some t := by
  cases s with
  | nil => exact .inl h
  | cons a s =>
    by_cases ha : a = '_'
    · subst ha
      rw [stripAfter, if_pos rfl, Option.any_some, hc, Bool.true_and] at h
      split at h
      · rename_i hd
        rw [stripAfter_of_not_digit hsep] at h
        exact .inr ⟨s, rfl, hd, h⟩
      · exact nomatch h
    · exact .inl (stripAfter_of_head?_ne (head?_cons_ne ha) (some c) ▸ h)

/-- The first character that is passed on is the first of the text. -/
theorem exists_cons_of_strip (h : stripSeparators isDigit s = some (c :: t)) :
    ∃ s', s = c :: s' ∧ stripAfter isDigit (some c) s' = some t := by
  have hhead := head?_ne_of_strip h
  cases s with
  | nil => exact nomatch h
  | cons a s =>
    rw [stripSeparators_cons fun ha => hhead (congrArg some ha)] at h
    obtain ⟨t', ht', heq⟩ := Option.map_eq_some_iff.mp h
    obtain ⟨rfl, rfl⟩ := List.cons.inj heq
    exact ⟨s, rfl, ht'⟩

/-- **Marks.** A character that is neither a digit nor a separator is passed on, and
what follows is treated as if it stood alone. -/
theorem stripSeparators_eq_cons_iff (hc : isDigit c = false) (hne : c ≠ '_') :
    stripSeparators isDigit s = some (c :: t) ↔
      ∃ s', s = c :: s' ∧ stripSeparators isDigit s' = some t := by
  constructor
  · intro h
    obtain ⟨s', rfl, hs'⟩ := exists_cons_of_strip h
    exact ⟨s', rfl, stripAfter_of_not_digit hc s' ▸ hs'⟩
  · rintro ⟨s', rfl, hs'⟩
    rw [stripSeparators_cons hne, stripAfter_of_not_digit hc, hs', Option.map_some]

/-- A run of digits, and after it what may follow one. -/
theorem stripSeparators_append (hsep : isDigit '_' = false) (h : DigitRun isDigit s ds)
    (hrest : stripSeparators isDigit rest = some t) :
    stripSeparators isDigit (s ++ rest) = some (ds ++ t) := by
  have hne : ∀ {c}, isDigit c = true → c ≠ '_' := by
    rintro c hc rfl
    rw [hsep] at hc
    exact nomatch hc
  induction h with
  | single hc =>
    rw [List.singleton_append, stripSeparators_cons (hne hc),
      stripAfter_of_head?_ne (head?_ne_of_strip hrest), hrest, Option.map_some]
    rfl
  | adjacent hc _ ih =>
    rw [List.cons_append, stripSeparators_cons (hne hc),
      stripAfter_of_head?_ne (head?_ne_of_strip ih), ih, Option.map_some]
    rfl
  | separated hc hs ih =>
    obtain ⟨d, u, rfl, hd⟩ := hs.exists_cons
    rw [List.cons_append, stripSeparators_cons (hne hc), List.cons_append, stripAfter, if_pos rfl,
      Option.any_some, hc, List.cons_append, List.head?_cons, Option.any_some, hd, Bool.true_and,
      if_pos rfl, stripAfter_of_not_digit hsep, ← List.cons_append, ih, Option.map_some]
    rfl

/-- What has become plain digits was a run of digits. The induction is on the digits;
each of them took one character of the text, or two with the separator after it. -/
theorem exists_run_of_strip (hsep : isDigit '_' = false) (hds : PlainRun isDigit ds ds)
    (ht : NoDigit isDigit t) (h : stripSeparators isDigit s = some (ds ++ t)) :
    ∃ s₁ s₂, s = s₁ ++ s₂ ∧ DigitRun isDigit s₁ ds ∧ stripSeparators isDigit s₂ = some t := by
  obtain ⟨-, hne, hall⟩ := hds
  induction ds generalizing s with
  | nil => exact absurd rfl hne
  | cons c ds ih =>
    obtain ⟨hc, hds⟩ := List.forall_mem_cons.mp hall
    obtain ⟨s', rfl, hs'⟩ := exists_cons_of_strip h
    change stripAfter isDigit (some c) s' = some (ds ++ t) at hs'
    by_cases hnil : ds = []
    · subst hnil
      rcases stripAfter_digit hsep hc hs' with hs' | ⟨s'', rfl, hd, hs''⟩
      · exact ⟨[c], s', rfl, .single hc, hs'⟩
      · -- The digit behind a separator would have been passed on as well.
        exfalso
        cases s'' with
        | nil => exact nomatch hd
        | cons d s'' =>
          change isDigit d = true at hd
          have hdne : d ≠ '_' := by
            rintro rfl
            rw [hsep] at hd
            exact nomatch hd
          rw [stripSeparators_cons hdne] at hs''
          obtain ⟨u, -, hu⟩ := Option.map_eq_some_iff.mp hs''
          have hdt : isDigit d = false := ht d (by rw [← List.nil_append t, ← hu]; rfl)
          rw [hd] at hdt
          exact nomatch hdt
    · rcases stripAfter_digit hsep hc hs' with hs' | ⟨s'', rfl, -, hs''⟩
      · obtain ⟨s₁, s₂, rfl, hrun, hs₂⟩ := ih hs' hnil hds
        exact ⟨c :: s₁, s₂, rfl, .adjacent hc hrun, hs₂⟩
      · obtain ⟨s₁, s₂, rfl, hrun, hs₂⟩ := ih hs'' hnil hds
        exact ⟨c :: '_' :: s₁, s₂, rfl, .separated hc hrun, hs₂⟩

/-- **Runs.** A text has lost its separators and begins with plain digits exactly if
it began with a run of them. -/
theorem stripSeparators_eq_append_iff (hsep : isDigit '_' = false) (hds : PlainRun isDigit ds ds)
    (ht : NoDigit isDigit t) :
    stripSeparators isDigit s = some (ds ++ t) ↔
      ∃ s₁ s₂, s = s₁ ++ s₂ ∧ DigitRun isDigit s₁ ds ∧ stripSeparators isDigit s₂ = some t := by
  refine ⟨exists_run_of_strip hsep hds ht, ?_⟩
  rintro ⟨s₁, s₂, rfl, hrun, hs₂⟩
  exact stripSeparators_append hsep hrun hs₂

end Strip

/-! ### Numerals with and without separators -/

section Decimals

variable {reads : List Char → Nat → Prop} {s t ds w f m m' x x' sign : List Char}

theorem DigitRun.plain {isDigit : Char → Bool} (h : DigitRun isDigit s ds) :
    PlainRun isDigit ds ds :=
  ⟨rfl, h.ne_nil, h.all⟩

theorem stripDecimal_append_iff (h : PlainRun Digit.isDecimal ds ds)
    (ht : NoDigit Digit.isDecimal t) :
    stripSeparators Digit.isDecimal s = some (ds ++ t) ↔
      ∃ s₁ s₂, s = s₁ ++ s₂ ∧ DigitRun Digit.isDecimal s₁ ds ∧
        stripSeparators Digit.isDecimal s₂ = some t :=
  stripSeparators_eq_append_iff (by decide) h ht

theorem stripDecimal_point_iff :
    stripSeparators Digit.isDecimal s = some ('.' :: t) ↔
      ∃ s', s = '.' :: s' ∧ stripSeparators Digit.isDecimal s' = some t :=
  stripSeparators_eq_cons_iff (by decide) (by decide)

/-- A sign is two marks, or none at all. -/
theorem stripDecimal_sign_iff {negative : Bool} (h : SignText sign negative) :
    stripSeparators Digit.isDecimal s = some (sign ++ t) ↔
      ∃ s', s = sign ++ s' ∧ stripSeparators Digit.isDecimal s' = some t := by
  cases h with
  | absent => exact ⟨fun h => ⟨s, rfl, h⟩, fun ⟨_, hs, h⟩ => hs ▸ h⟩
  | plus => exact stripSeparators_eq_cons_iff (by decide) (by decide)
  | minus => exact stripSeparators_eq_cons_iff (by decide) (by decide)

theorem Mantissa.strip (h : Mantissa (DigitRun Digit.isDecimal) m w f)
    (hx : stripSeparators Digit.isDecimal x = some x') :
    ∃ m', Mantissa (PlainRun Digit.isDecimal) m' w f ∧
      stripSeparators Digit.isDecimal (m ++ x) = some (m' ++ x') := by
  have point : ∀ {y y' : List Char}, stripSeparators Digit.isDecimal y = some y' →
      stripSeparators Digit.isDecimal ('.' :: y) = some ('.' :: y') :=
    fun hy => stripDecimal_point_iff.mpr ⟨_, rfl, hy⟩
  have run : ∀ {s ds y y' : List Char}, DigitRun Digit.isDecimal s ds →
      stripSeparators Digit.isDecimal y = some y' →
      stripSeparators Digit.isDecimal (s ++ y) = some (ds ++ y') :=
    fun hs hy => stripSeparators_append (by decide) hs hy
  cases h with
  | whole hw => exact ⟨w, .whole hw.plain, run hw hx⟩
  | pointAfter hw =>
    refine ⟨w ++ ['.'], .pointAfter hw.plain, ?_⟩
    rw [List.append_assoc, List.append_assoc]
    exact run hw (point hx)
  | pointAmong hw hf =>
    refine ⟨w ++ '.' :: f, .pointAmong hw.plain hf.plain, ?_⟩
    rw [List.append_assoc, List.append_assoc]
    exact run hw (point (run hf hx))
  | pointBefore hf => exact ⟨'.' :: f, .pointBefore hf.plain, point (run hf hx)⟩

/-- The text of a plain mantissa was one of a mantissa with separators, and nothing
of it stood in what follows. -/
theorem Mantissa.of_strip (h : Mantissa (PlainRun Digit.isDecimal) m' w f)
    (hx' : NoDigit Digit.isDecimal x')
    (hs : stripSeparators Digit.isDecimal s = some (m' ++ x')) :
    ∃ m x, s = m ++ x ∧ Mantissa (DigitRun Digit.isDecimal) m w f ∧
      stripSeparators Digit.isDecimal x = some x' := by
  have point : ∀ y, NoDigit Digit.isDecimal ('.' :: y) := fun _ => noDigit_cons.mpr (by decide)
  cases h with
  | whole hw =>
    obtain rfl := hw.eq
    obtain ⟨s₁, s₂, rfl, hrun, hs₂⟩ := (stripDecimal_append_iff hw hx').mp hs
    exact ⟨s₁, s₂, rfl, .whole hrun, hs₂⟩
  | pointAfter hw =>
    obtain rfl := hw.eq
    rw [List.append_assoc] at hs
    obtain ⟨s₁, s₂, rfl, hrun, hs₂⟩ := (stripDecimal_append_iff hw (point x')).mp hs
    obtain ⟨s₃, rfl, hs₃⟩ := stripDecimal_point_iff.mp hs₂
    exact ⟨s₁ ++ ['.'], s₃, List.append_cons .., .pointAfter hrun, hs₃⟩
  | pointAmong hw hf =>
    obtain rfl := hw.eq
    obtain rfl := hf.eq
    rw [List.append_assoc] at hs
    obtain ⟨s₁, s₂, rfl, hrun, hs₂⟩ := (stripDecimal_append_iff hw (point _)).mp hs
    obtain ⟨s₃, rfl, hs₃⟩ := stripDecimal_point_iff.mp hs₂
    obtain ⟨s₄, s₅, rfl, hrun', hs₅⟩ := (stripDecimal_append_iff hf hx').mp hs₃
    exact ⟨s₁ ++ '.' :: s₄, s₅, by rw [List.append_assoc]; rfl, .pointAmong hrun hrun', hs₅⟩
  | pointBefore hf =>
    obtain rfl := hf.eq
    obtain ⟨s₃, rfl, hs₃⟩ := stripDecimal_point_iff.mp hs
    obtain ⟨s₄, s₅, rfl, hrun, hs₅⟩ := (stripDecimal_append_iff hf hx').mp hs₃
    exact ⟨'.' :: s₄, s₅, rfl, .pointBefore hrun, hs₅⟩

theorem noDigit_of_scale {run : List Char → List Char → Prop} {k : Int}
    (h : Scale run reads x k) : NoDigit Digit.isDecimal x := by
  cases h with
  | absent => exact noDigit_nil
  | present hmark _ _ _ => obtain rfl | rfl := hmark <;> exact noDigit_cons.mpr (by decide)

theorem stripDecimal_mark_iff {mark : Char} (h : mark = 'e' ∨ mark = 'E') :
    stripSeparators Digit.isDecimal s = some (mark :: t) ↔
      ∃ s', s = mark :: s' ∧ stripSeparators Digit.isDecimal s' = some t := by
  obtain rfl | rfl := h <;> exact stripSeparators_eq_cons_iff (by decide) (by decide)

theorem Scale.strip {k : Int} (h : Scale (DigitRun Digit.isDecimal) reads x k) :
    ∃ x', Scale (PlainRun Digit.isDecimal) reads x' k ∧
      stripSeparators Digit.isDecimal x = some x' := by
  cases h with
  | absent => exact ⟨[], .absent, rfl⟩
  | present hmark hsign hrun hn =>
    refine ⟨_, .present hmark hsign hrun.plain hn, ?_⟩
    have hds := stripSeparators_append (by decide) hrun stripSeparators_nil
    rw [List.append_nil, List.append_nil] at hds
    exact (stripDecimal_mark_iff hmark).mpr
      ⟨_, rfl, (stripDecimal_sign_iff hsign).mpr ⟨_, rfl, hds⟩⟩

theorem Scale.of_strip {k : Int} (h : Scale (PlainRun Digit.isDecimal) reads x' k)
    (hx : stripSeparators Digit.isDecimal x = some x') :
    Scale (DigitRun Digit.isDecimal) reads x k := by
  cases h with
  | absent =>
    obtain rfl := eq_nil_of_strip hx
    exact .absent
  | present hmark hsign hrun hn =>
    obtain rfl := hrun.eq
    obtain ⟨s₁, rfl, hs₁⟩ := (stripDecimal_mark_iff hmark).mp hx
    obtain ⟨s₂, rfl, hs₂⟩ := (stripDecimal_sign_iff hsign).mp hs₁
    obtain ⟨s₃, s₄, rfl, hrun', hs₄⟩ :=
      (stripDecimal_append_iff hrun noDigit_nil).mp (by rw [hs₂, List.append_nil])
    obtain rfl := eq_nil_of_strip hs₄
    rw [List.append_nil]
    exact .present hmark hsign hrun' hn

/-- **Numerals.** A text is a decimal numeral with separators exactly if it loses
them and what is left is one without. -/
theorem spelledDecimal_iff_strip {d : Decimal} :
    SpelledDecimal (DigitRun Digit.isDecimal) reads s d ↔
      ∃ t, stripSeparators Digit.isDecimal s = some t ∧
        SpelledDecimal (PlainRun Digit.isDecimal) reads t d := by
  constructor
  · rintro ⟨hm, hx⟩
    obtain ⟨x', hx', hstrip⟩ := hx.strip
    obtain ⟨m', hm', hs⟩ := hm.strip hstrip
    exact ⟨m' ++ x', hs, ⟨hm', hx'⟩⟩
  · rintro ⟨t, hs, ⟨hm', hx'⟩⟩
    obtain ⟨m, x, rfl, hm, hx⟩ := hm'.of_strip (noDigit_of_scale hx') hs
    exact ⟨hm, hx'.of_strip hx⟩

end Decimals

end Numeral

end SqlProbe
