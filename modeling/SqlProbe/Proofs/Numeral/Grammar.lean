import Mathlib.Algebra.Group.Nat.Defs
import SqlProbe.Number.Numeral

/-!
# The grammar of numerals

Which texts are numerals, and what each of them denotes, told without a reader: the
relations below are the grammar, one constructor for each way of writing. The
number that is denoted is read off in the same derivation, as the digits of its
parts.

* `Numeral.DigitRun`: digits, with at most one `_` between two adjacent ones.
* `Numeral.Mantissa`: digits with at most one point before, among or after them.
* `Numeral.Scale`: nothing, or an exponent.
* `Numeral.Spelled`: what stands after the sign of a numeral.

A grammar of plain texts, from which the `_` are gone already, is the same grammar
over another kind of run (`Numeral.PlainRun`); so the parts are stated for any kind
of run, and removing the `_` is a matter of runs alone.

The size of an exponent is the one place where there are two readings of the same
digits. `Numeral.ReadsAll` takes all of them; `Numeral.ReadsUpTo` stops once what
has been read reaches a limit, so that no exponent is too long to be held.
-/

namespace SqlProbe

namespace Digit

variable {a b c : Char}

/-- Characters are ordered as their numbers are. -/
theorem le_iff_toNat_le : a ≤ b ↔ a.toNat ≤ b.toNat :=
  Char.le_def.trans UInt32.le_iff_toNat_le

theorem isHex_of_isDecimal (hc : isDecimal c = true) : isHex c = true := by
  rw [isHex, hc, Bool.true_or, Bool.true_or]

theorem value_lt_ten (hc : isDecimal c = true) : value c < 10 := by
  rw [value, if_pos hc]
  simp only [isDecimal, Bool.and_eq_true, decide_eq_true_eq, le_iff_toNat_le,
    Char.reduceToNat] at hc
  simp only [Char.reduceToNat]
  omega

theorem natOf_append_singleton (base : Nat) (ds : List Char) (c : Char) :
    natOf base (ds ++ [c]) = natOf base ds * base + value c := by
  rw [natOf, natOf, List.foldl_append, List.foldl_cons, List.foldl_nil]

end Digit

namespace Numeral

/-! ### Runs of digits -/

/-- **Digits with separators.** `s` is one or more digits, with at most one `_`
between two adjacent ones, and `ds` are its digits alone. -/
inductive DigitRun (isDigit : Char → Bool) : List Char → List Char → Prop where
  /-- A digit by itself. -/
  | single {c : Char} (hc : isDigit c = true) : DigitRun isDigit [c] [c]
  /-- A digit directly before a run. -/
  | adjacent {c : Char} {s ds : List Char} (hc : isDigit c = true)
      (hs : DigitRun isDigit s ds) : DigitRun isDigit (c :: s) (c :: ds)
  /-- A digit before a run, with a `_` between them. -/
  | separated {c : Char} {s ds : List Char} (hc : isDigit c = true)
      (hs : DigitRun isDigit s ds) : DigitRun isDigit (c :: '_' :: s) (c :: ds)

/-- Digits without separators. -/
structure PlainRun (isDigit : Char → Bool) (s ds : List Char) : Prop where
  /-- The text is its digits. -/
  eq : s = ds
  /-- There is at least one. -/
  ne_nil : ds ≠ []
  /-- There is nothing else. -/
  all : ∀ c ∈ ds, isDigit c = true

/-- What may follow a run of digits: the end, or something that is no digit. -/
def NoDigit (isDigit : Char → Bool) (rest : List Char) : Prop :=
  ∀ c ∈ rest.head?, isDigit c = false

section Run

variable {isDigit : Char → Bool} {s ds : List Char}

@[simp] theorem noDigit_nil : NoDigit isDigit [] := fun _ hc => nomatch hc

@[simp] theorem noDigit_cons {c : Char} : NoDigit isDigit (c :: s) ↔ isDigit c = false :=
  ⟨fun h => h c rfl, fun h _ hc => Option.some.inj hc ▸ h⟩

namespace DigitRun

theorem ne_nil (h : DigitRun isDigit s ds) : ds ≠ [] := by
  cases h <;> exact List.cons_ne_nil _ _

theorem all (h : DigitRun isDigit s ds) : ∀ c ∈ ds, isDigit c = true := by
  induction h with
  | single hc => exact List.forall_mem_singleton.mpr hc
  | adjacent hc _ ih => exact List.forall_mem_cons.mpr ⟨hc, ih⟩
  | separated hc _ ih => exact List.forall_mem_cons.mpr ⟨hc, ih⟩

/-- A run starts with a digit. -/
theorem exists_cons (h : DigitRun isDigit s ds) : ∃ c t, s = c :: t ∧ isDigit c = true := by
  cases h with
  | single hc => exact ⟨_, _, rfl, hc⟩
  | adjacent hc _ => exact ⟨_, _, rfl, hc⟩
  | separated hc _ => exact ⟨_, _, rfl, hc⟩

theorem mem (h : DigitRun isDigit s ds) {c : Char} (hc : c ∈ s) : isDigit c = true ∨ c = '_' := by
  induction h with
  | single hd => exact .inl (List.mem_singleton.mp hc ▸ hd)
  | adjacent hd _ ih =>
    obtain rfl | hc := List.mem_cons.mp hc
    · exact .inl hd
    · exact ih hc
  | separated hd _ ih =>
    obtain rfl | hc := List.mem_cons.mp hc
    · exact .inl hd
    obtain rfl | hc := List.mem_cons.mp hc
    · exact .inr rfl
    · exact ih hc

theorem length_le (h : DigitRun isDigit s ds) : ds.length ≤ s.length := by
  induction h with
  | single _ => exact Nat.le_refl _
  | adjacent _ _ ih => exact Nat.succ_le_succ ih
  | separated _ _ ih => exact Nat.succ_le_succ (Nat.le_succ_of_le ih)

end DigitRun

/-- Plain digits are what a check for them accepts. -/
theorem plainRun_iff : PlainRun isDigit s s ↔ ¬ (s.isEmpty || !s.all isDigit) = true := by
  rw [Bool.or_eq_true, not_or, List.isEmpty_iff, Bool.not_eq_true', Bool.not_eq_false,
    List.all_eq_true]
  exact ⟨fun h => ⟨h.ne_nil, h.all⟩, fun h => ⟨rfl, h.1, h.2⟩⟩

/-- Plain digits are a run of them. -/
theorem PlainRun.digitRun (h : PlainRun isDigit s ds) : DigitRun isDigit s ds := by
  obtain ⟨rfl, hne, hall⟩ := h
  induction s with
  | nil => exact absurd rfl hne
  | cons c s ih =>
    obtain ⟨hc, hs⟩ := List.forall_mem_cons.mp hall
    cases s with
    | nil => exact .single hc
    | cons d s => exact .adjacent hc (ih (List.cons_ne_nil _ _) hs)

end Run

/-! ### Parts of a decimal numeral -/

/-- The text of a sign, and whether it is a minus. -/
inductive SignText : List Char → Bool → Prop where
  | absent : SignText [] false
  | plus : SignText ['+'] false
  | minus : SignText ['-'] true

section Parts

variable (run : List Char → List Char → Prop) (reads : List Char → Nat → Prop)

/-- **The mantissa.** `Mantissa run s w f`: `s` has the digits `w` before its point
and the digits `f` after it, and either of them may be missing, but not both. -/
inductive Mantissa : List Char → List Char → List Char → Prop where
  /-- Digits without a point. -/
  | whole {s w : List Char} (hw : run s w) : Mantissa s w []
  /-- Digits and then a point. -/
  | pointAfter {s w : List Char} (hw : run s w) : Mantissa (s ++ ['.']) w []
  /-- Digits on both sides of a point. -/
  | pointAmong {s w t f : List Char} (hw : run s w) (hf : run t f) :
      Mantissa (s ++ '.' :: t) w f
  /-- A point and then digits. -/
  | pointBefore {t f : List Char} (hf : run t f) : Mantissa ('.' :: t) [] f

/-- **The exponent**, or none, which counts as zero. -/
inductive Scale : List Char → Int → Prop where
  | absent : Scale [] 0
  | present {mark : Char} {sign s ds : List Char} {negative : Bool} {n : Nat}
      (hmark : mark = 'e' ∨ mark = 'E') (hsign : SignText sign negative) (hrun : run s ds)
      (hn : reads ds n) : Scale (mark :: (sign ++ s)) (if negative then -(n : Int) else n)

/-- An unsigned decimal numeral: its digits, read as one natural number, and the
exponent less the number of digits after the point. -/
inductive SpelledDecimal : List Char → Decimal → Prop where
  | intro {m w f x : List Char} {scale : Int} (hm : Mantissa run m w f)
      (hx : Scale run reads x scale) :
      SpelledDecimal (m ++ x) ⟨Digit.natOf 10 (w ++ f), scale - f.length⟩

end Parts

/-- Digits by themselves are a numeral. -/
theorem SpelledDecimal.of_run {run : List Char → List Char → Prop}
    {reads : List Char → Nat → Prop} {s ds : List Char} (h : run s ds) :
    SpelledDecimal run reads s ⟨Digit.natOf 10 ds, 0⟩ := by
  have hspelled : SpelledDecimal run reads (s ++ []) ⟨Digit.natOf 10 (ds ++ []), 0⟩ :=
    .intro (.whole h) .absent
  rwa [List.append_nil, List.append_nil] at hspelled

/-- **What stands after the sign.** A text and the number it denotes. -/
inductive Spelled (reads : List Char → Nat → Prop) : List Char → Magnitude → Prop where
  /-- A mark and hexadecimal digits, below `2 ^ 128`. -/
  | hexadecimal {mark : Char} {s ds : List Char} (hmark : mark = 'x' ∨ mark = 'X')
      (hrun : DigitRun Digit.isHex s ds) (hlt : Digit.natOf 16 ds < 2 ^ 128) :
      Spelled reads ('0' :: mark :: s) (.whole (Digit.natOf 16 ds))
  /-- A decimal numeral. -/
  | decimal {s : List Char} {d : Decimal}
      (hd : SpelledDecimal (DigitRun Digit.isDecimal) reads s d) : Spelled reads s (.scaled d)

/-! ### The size of an exponent -/

/-- The number that all the digits denote. -/
def ReadsAll (ds : List Char) (n : Nat) : Prop := n = Digit.natOf 10 ds

/-- The number that the digits denote up to the first place where it is `limit` or
more, or all of them where there is no such place. -/
def ReadsUpTo (limit : Nat) (ds : List Char) (n : Nat) : Prop :=
  ∃ before after, ds = before ++ after ∧ n = Digit.natOf 10 before ∧
    (after = [] ∨ limit ≤ n) ∧ ∀ p, p <+: before → p ≠ before → Digit.natOf 10 p < limit

end Numeral

end SqlProbe
