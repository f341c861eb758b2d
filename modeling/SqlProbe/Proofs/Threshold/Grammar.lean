import Mathlib.Algebra.Order.Ring.Int
import SqlProbe.Proofs.Numeral.Reader
import SqlProbe.Threshold

/-!
# The grammar of thresholds

Which texts are thresholds, told by writing them down: a threshold *as written* has
one or two runs of digits of any length (`Threshold.Written`), and its characters
are those of its form (`Threshold.Written.chars`). The well-formedness of a run is
part of its type, so that every value of the type is a text of the grammar, and a
text of the grammar is one of these values.

* `Threshold.Written.chars_injective`: a text is written in at most one way. After
  its leading digits a text goes on differently in each form, and where there are
  none it starts differently.
* `Threshold.parse?_eq_some_iff`: the reader accepts these texts and no others, and
  each boundary becomes the 64-bit integer nearest to its number.
* `Threshold.Form.read?_eq_some_iff`: the same for a reader of one form only.

The reader looks at the first characters and at what follows the leading digits in
order to pick the form. Since no text has two forms, it could as well try the forms
one after the other, in whatever order (`Threshold.findSome?_read?`).
-/

namespace SqlProbe

open Numeral (NoDigit PlainRun noDigit_nil noDigit_cons plainRun_iff spanDecimal_append
  spanDecimal_of_noDigit spanDecimal_spec)

namespace Threshold

/-! ### Runs of digits -/

/-- One or more decimal digits. -/
@[ext]
structure Run where
  /-- The digits, from the left. -/
  digits : List Char
  /-- There is at least one. -/
  ne_nil : digits ≠ []
  /-- There is nothing else. -/
  all : ∀ c ∈ digits, Digit.isDecimal c = true

namespace Run

/-- The run that a text of digits is. -/
def ofString (s : String) (h : (s.toList.isEmpty || !s.toList.all Digit.isDecimal) = false) : Run :=
  have hrun : PlainRun Digit.isDecimal s.toList s.toList :=
    plainRun_iff.mpr (Bool.eq_false_iff.mp h)
  ⟨s.toList, hrun.ne_nil, hrun.all⟩

/-- The run as a text. -/
def text (n : Run) : String := String.ofList n.digits

theorem text_ofString (s : String) (h) : (ofString s h).text = s := String.ofList_toList

theorem plainRun (n : Run) : PlainRun Digit.isDecimal n.digits n.digits := ⟨rfl, n.ne_nil, n.all⟩

/-- The number that the digits denote. -/
def number (n : Run) : Nat := Digit.natOf 10 n.digits

/-- The 64-bit integer that the run stands for as a boundary. -/
def boundary (n : Run) : Int64 := Int64.ofInt (min (n.number : Int) (2 ^ 63 - 1))

theorem toInt_boundary (n : Run) : n.boundary.toInt = min (n.number : Int) (2 ^ 63 - 1) := by
  have hnonneg : (0 : Int) ≤ n.number := Int.natCast_nonneg _
  exact Int64.toInt_ofInt_of_le (by omega) (by omega)

/-- Digits are cut off a text up to what is no digit. -/
theorem spanDecimal (n : Run) {s : List Char} (h : NoDigit Digit.isDecimal s) :
    Digit.spanDecimal (n.digits ++ s) = (n.digits, s) :=
  spanDecimal_append n.all h

theorem spanDecimal_self (n : Run) : Digit.spanDecimal n.digits = (n.digits, []) := by
  have h := n.spanDecimal noDigit_nil
  rwa [List.append_nil] at h

/-- A run starts with a digit, so that no mark of a form is in front of it. -/
theorem exists_cons (n : Run) : ∃ c t, n.digits = c :: t ∧ Digit.isDecimal c = true := by
  obtain ⟨c, t, h⟩ := List.exists_cons_of_ne_nil n.ne_nil
  exact ⟨c, t, h, n.all c (h ▸ List.mem_cons_self ..)⟩

end Run

/-! ### Texts of the grammar -/

/-- The five forms. -/
inductive Form where
  /-- `N:`. -/
  | atLeast
  /-- `~:N`. -/
  | atMost
  /-- `N:M`. -/
  | outside
  /-- `@N:M`. -/
  | inside
  /-- `N`. -/
  | upTo
deriving DecidableEq, Repr

/-- **A threshold as written.** A form, with a run of digits for each boundary. -/
inductive Written where
  /-- `N:`. -/
  | atLeast (low : Run)
  /-- `~:N`. -/
  | atMost (high : Run)
  /-- `N:M`. -/
  | outside (low high : Run)
  /-- `@N:M`. -/
  | inside (low high : Run)
  /-- `N`. -/
  | upTo (high : Run)

namespace Written

/-- The characters of the text. -/
def chars : Written → List Char
  | atLeast low => low.digits ++ [':']
  | atMost high => '~' :: ':' :: high.digits
  | outside low high => low.digits ++ ':' :: high.digits
  | inside low high => '@' :: (low.digits ++ ':' :: high.digits)
  | upTo high => high.digits

/-- The text. -/
def text (w : Written) : String := String.ofList w.chars

/-- The form that the text has. -/
def form : Written → Form
  | atLeast _ => .atLeast
  | atMost _ => .atMost
  | outside _ _ => .outside
  | inside _ _ => .inside
  | upTo _ => .upTo

/-- What the text means: the form, with 64-bit boundaries. -/
def threshold : Written → Threshold
  | atLeast low => .atLeast low.boundary
  | atMost high => .atMost high.boundary
  | outside low high => .outside low.boundary high.boundary
  | inside low high => .inside low.boundary high.boundary
  | upTo high => .upTo high.boundary

theorem text_eq_iff {w : Written} {raw : String} : w.text = raw ↔ w.chars = raw.toList := by
  rw [text, ← String.toList_inj, String.toList_ofList]

/-- What a threshold is written with. -/
theorem mark_of_mem_chars {w : Written} {c : Char} (hc : c ∈ w.chars) :
    Digit.isDecimal c = true ∨ c ∈ [':', '~', '@'] := by
  cases w <;> simp only [chars, List.mem_append, List.mem_cons, List.not_mem_nil, or_false] at hc ⊢
  case atLeast low =>
    exact hc.imp (low.all c) .inl
  case atMost high =>
    obtain hc | hc | hc := hc
    · exact .inr (.inr (.inl hc))
    · exact .inr (.inl hc)
    · exact .inl (high.all c hc)
  case outside low high =>
    obtain hc | hc | hc := hc
    · exact .inl (low.all c hc)
    · exact .inr (.inl hc)
    · exact .inl (high.all c hc)
  case inside low high =>
    obtain hc | hc | hc | hc := hc
    · exact .inr (.inr (.inr hc))
    · exact .inl (low.all c hc)
    · exact .inr (.inl hc)
    · exact .inl (high.all c hc)
  case upTo high => exact .inl (high.all c hc)

end Written

/-! ### One way of writing -/

section Marks

variable {s : List Char}

theorem noDigit_colon : NoDigit Digit.isDecimal (':' :: s) := noDigit_cons.mpr (by decide)

theorem noDigit_tilde : NoDigit Digit.isDecimal ('~' :: s) := noDigit_cons.mpr (by decide)

theorem noDigit_at : NoDigit Digit.isDecimal ('@' :: s) := noDigit_cons.mpr (by decide)

end Marks

namespace Written

/-- A text cut after its leading digits. -/
def cut : Written → List Char × List Char
  | atLeast low => (low.digits, [':'])
  | atMost high => ([], '~' :: ':' :: high.digits)
  | outside low high => (low.digits, ':' :: high.digits)
  | inside low high => ([], '@' :: (low.digits ++ ':' :: high.digits))
  | upTo high => (high.digits, [])

theorem spanDecimal_chars (w : Written) : Digit.spanDecimal w.chars = w.cut := by
  cases w with
  | atLeast low => exact low.spanDecimal noDigit_colon
  | atMost high => exact spanDecimal_of_noDigit noDigit_tilde
  | outside low high => exact low.spanDecimal noDigit_colon
  | inside low high => exact spanDecimal_of_noDigit noDigit_at
  | upTo high => exact high.spanDecimal_self

/-- Two runs with a colon between them are told apart by the colon. -/
theorem eq_of_append_colon {n m n' m' : Run}
    (h : n.digits ++ ':' :: m.digits = n'.digits ++ ':' :: m'.digits) : n = n' ∧ m = m' := by
  have hcut := congrArg Digit.spanDecimal h
  rw [n.spanDecimal noDigit_colon, n'.spanDecimal noDigit_colon] at hcut
  obtain ⟨hn, hm⟩ := Prod.mk.inj hcut
  exact ⟨Run.ext hn, Run.ext (List.cons.inj hm).2⟩

/-- **Unambiguity.** A text is written in at most one way. -/
theorem chars_injective : Function.Injective chars := by
  intro w w' h
  have hcut : w.cut = w'.cut := by rw [← spanDecimal_chars, ← spanDecimal_chars, h]
  -- The cuts of two different forms differ; those of one form give the runs.
  cases w <;> cases w' <;> simp [cut, Run.ne_nil] at hcut
  case atLeast.atLeast n n' => rw [Run.ext hcut]
  case atMost.atMost n n' => rw [Run.ext hcut]
  case outside.outside n m n' m' => rw [Run.ext hcut.1, Run.ext hcut.2]
  case inside.inside n m n' m' =>
    obtain ⟨hn, hm⟩ := eq_of_append_colon hcut
    rw [hn, hm]
  case upTo.upTo n n' => rw [Run.ext hcut]

end Written

/-! ### Readers of parts -/

section Parts

variable {s : List Char}

theorem boundary_digits (n : Run) : Threshold.boundary n.digits = n.boundary := by
  have hmin : ((min n.number 0x7FFFFFFFFFFFFFFF : Nat) : Int) =
      min (n.number : Int) (2 ^ 63 - 1) := by omega
  rw [Run.boundary, ← hmin, Int64.ofInt_eq_ofNat]
  rfl

@[simp] theorem boundary?_digits (n : Run) : boundary? n.digits = some n.boundary := by
  rw [boundary?, if_neg (plainRun_iff.mp ⟨rfl, n.ne_nil, n.all⟩), boundary_digits]

theorem boundary?_eq_some_iff {b : Int64} :
    boundary? s = some b ↔ ∃ n : Run, n.digits = s ∧ n.boundary = b := by
  constructor
  · intro h
    rw [boundary?] at h
    split at h
    · exact nomatch h
    · next hrun =>
      obtain ⟨-, hne, hall⟩ := plainRun_iff.mpr hrun
      refine ⟨⟨s, hne, hall⟩, rfl, ?_⟩
      rw [← boundary_digits]
      exact Option.some.inj h
  · rintro ⟨n, rfl, rfl⟩
    exact boundary?_digits n

@[simp] theorem bounds?_digits (n m : Run) :
    bounds? (n.digits ++ ':' :: m.digits) = some (n.boundary, m.boundary) := by
  rw [bounds?, n.spanDecimal noDigit_colon]
  simp only [boundary?_digits, Option.bind_eq_bind, Option.bind_some]

theorem bounds?_eq_some_iff {low high : Int64} :
    bounds? s = some (low, high) ↔
      ∃ n m : Run, n.digits ++ ':' :: m.digits = s ∧ n.boundary = low ∧ m.boundary = high := by
  constructor
  · intro h
    rw [bounds?] at h
    split at h
    · next digits rest hspan =>
      obtain ⟨hs, -, -⟩ := spanDecimal_spec s
      rw [hspan] at hs
      simp only [Option.bind_eq_bind, Option.bind_eq_some_iff, Option.some.injEq,
        Prod.mk.injEq, boundary?_eq_some_iff] at h
      obtain ⟨_, ⟨n, hn, rfl⟩, _, ⟨m, hm, rfl⟩, rfl, rfl⟩ := h
      exact ⟨n, m, by rw [hs, hn, hm], rfl, rfl⟩
    · exact nomatch h
  · rintro ⟨n, m, rfl, rfl, rfl⟩
    exact bounds?_digits n m

end Parts

/-! ### One form at a time -/

namespace Form

/-- Reads a text of one form, and no other text. -/
def read? (s : List Char) : Form → Option Threshold
  | atLeast =>
    -- This form ends in its mark, so that it is the one read from the right.
    if s.getLast? = some ':' then (boundary? s.dropLast).map Threshold.atLeast else none
  | atMost =>
    match s with
    | '~' :: ':' :: rest => (boundary? rest).map Threshold.atMost
    | _ => none
  | outside => (bounds? s).map fun (low, high) => Threshold.outside low high
  | inside =>
    match s with
    | '@' :: rest => (bounds? rest).map fun (low, high) => Threshold.inside low high
    | _ => none
  | upTo => (boundary? s).map Threshold.upTo

variable {s : List Char} {t : Threshold}

/-- **One form.** What is read of a text are the thresholds written in this form. -/
theorem read?_eq_some_iff {f : Form} :
    f.read? s = some t ↔ ∃ w : Written, w.form = f ∧ w.chars = s ∧ w.threshold = t := by
  constructor
  · intro h
    cases f with
    | atLeast =>
      rw [read?] at h
      split at h
      · next hlast =>
        obtain ⟨digits, rfl⟩ := List.getLast?_eq_some_iff.mp hlast
        rw [List.dropLast_concat] at h
        obtain ⟨_, hb, rfl⟩ := Option.map_eq_some_iff.mp h
        obtain ⟨n, rfl, rfl⟩ := boundary?_eq_some_iff.mp hb
        exact ⟨.atLeast n, rfl, rfl, rfl⟩
      · exact nomatch h
    | atMost =>
      rw [read?.eq_def] at h
      simp only at h
      split at h
      · obtain ⟨_, hb, rfl⟩ := Option.map_eq_some_iff.mp h
        obtain ⟨n, rfl, rfl⟩ := boundary?_eq_some_iff.mp hb
        exact ⟨.atMost n, rfl, rfl, rfl⟩
      · exact nomatch h
    | outside =>
      obtain ⟨_, hb, rfl⟩ := Option.map_eq_some_iff.mp h
      obtain ⟨n, m, rfl, hn, hm⟩ := bounds?_eq_some_iff.mp hb
      exact ⟨.outside n m, rfl, rfl, by rw [Written.threshold, hn, hm]⟩
    | inside =>
      rw [read?.eq_def] at h
      simp only at h
      split at h
      · obtain ⟨_, hb, rfl⟩ := Option.map_eq_some_iff.mp h
        obtain ⟨n, m, rfl, hn, hm⟩ := bounds?_eq_some_iff.mp hb
        exact ⟨.inside n m, rfl, rfl, by rw [Written.threshold, hn, hm]⟩
      · exact nomatch h
    | upTo =>
      obtain ⟨_, hb, rfl⟩ := Option.map_eq_some_iff.mp h
      obtain ⟨n, rfl, rfl⟩ := boundary?_eq_some_iff.mp hb
      exact ⟨.upTo n, rfl, rfl, rfl⟩
  · rintro ⟨w, rfl, rfl, rfl⟩
    cases w with
    | atLeast n =>
      rw [Written.form, Written.chars, read?, List.getLast?_concat, if_pos rfl,
        List.dropLast_concat, boundary?_digits]
      rfl
    | atMost n => exact congrArg (Option.map Threshold.atMost) (boundary?_digits n)
    | outside n m => exact congrArg (Option.map _) (bounds?_digits n m)
    | inside n m => exact congrArg (Option.map _) (bounds?_digits n m)
    | upTo n => exact congrArg (Option.map Threshold.upTo) (boundary?_digits n)

end Form

/-! ### All forms at once -/

section Reader

variable {s : List Char} {t : Threshold}

/-- After leading digits it is the rest that tells the form. -/
theorem parse?_run_append (n : Run) (s : List Char) :
    parse? (n.digits ++ s) =
      match Digit.spanDecimal (n.digits ++ s) with
      | (digits, []) => (boundary? digits).map upTo
      | (digits, [':']) => (boundary? digits).map atLeast
      | _ => (bounds? (n.digits ++ s)).map fun (low, high) => outside low high := by
  obtain ⟨c, rest, hn, hc⟩ := n.exists_cons
  rw [hn, List.cons_append]
  unfold parse?
  split
  -- No digit is one of the two marks.
  · next heq =>
    rw [(List.cons.inj heq).1] at hc
    exact absurd hc (by decide)
  · next heq =>
    rw [(List.cons.inj heq).1] at hc
    exact absurd hc (by decide)
  · rfl

theorem parse?_chars (w : Written) : parse? w.chars = some w.threshold := by
  cases w with
  | atLeast low =>
    rw [Written.chars, parse?_run_append, low.spanDecimal noDigit_colon]
    exact congrArg (Option.map atLeast) (boundary?_digits low)
  | atMost high => exact congrArg (Option.map atMost) (boundary?_digits high)
  | outside low high =>
    have hbounds := bounds?_digits low high
    -- The second run has a first digit, and so the colon does not end the text.
    obtain ⟨c, rest, hhigh, -⟩ := high.exists_cons
    rw [Written.chars, parse?_run_append, low.spanDecimal noDigit_colon]
    rw [hhigh] at hbounds ⊢
    exact congrArg (Option.map _) hbounds
  | inside low high => exact congrArg (Option.map _) (bounds?_digits low high)
  | upTo high =>
    have h := parse?_run_append high []
    rw [List.append_nil, high.spanDecimal_self] at h
    rw [Written.chars, h]
    exact congrArg (Option.map upTo) (boundary?_digits high)

/-- What is read at all is read in one of the forms. -/
theorem exists_read?_of_parse? (h : parse? s = some t) : ∃ f : Form, f.read? s = some t := by
  unfold parse? at h
  split at h
  · exact ⟨.atMost, h⟩
  · exact ⟨.inside, h⟩
  -- No mark in front: the form is told by what follows the leading digits, which is
  -- nothing, a colon at the end, or anything else.
  · obtain ⟨hs, -, -⟩ := spanDecimal_spec s
    split at h
    · next hspan =>
      rw [hspan, List.append_nil] at hs
      subst hs
      exact ⟨.upTo, h⟩
    · next hspan =>
      rw [hspan] at hs
      subst hs
      refine ⟨.atLeast, ?_⟩
      rwa [Form.read?, List.getLast?_concat, if_pos rfl, List.dropLast_concat]
    · exact ⟨.outside, h⟩

/-- **The reader accepts the grammar.** What is read of a text is the threshold that
is written there. -/
theorem parse?_eq_some_iff :
    parse? s = some t ↔ ∃ w : Written, w.chars = s ∧ w.threshold = t := by
  constructor
  · intro h
    obtain ⟨f, hf⟩ := exists_read?_of_parse? h
    obtain ⟨w, -, hw⟩ := Form.read?_eq_some_iff.mp hf
    exact ⟨w, hw⟩
  · rintro ⟨w, rfl, rfl⟩
    exact parse?_chars w

/-- **The order of the forms does not matter.** Whichever form is tried first, the
first one that reads the text reads the same threshold. -/
theorem findSome?_read? {order : List Form} (horder : ∀ f, f ∈ order) (s : List Char) :
    order.findSome? (Form.read? s) = parse? s := by
  cases hfind : order.findSome? (Form.read? s) with
  | some t =>
    -- It does not matter which form this is: the text is written there, and that is enough.
    obtain ⟨f, -, hf⟩ := List.exists_of_findSome?_eq_some hfind
    obtain ⟨w, -, hw⟩ := Form.read?_eq_some_iff.mp hf
    exact (parse?_eq_some_iff.mpr ⟨w, hw⟩).symm
  | none =>
    rw [List.findSome?_eq_none_iff] at hfind
    refine (Option.eq_none_iff_forall_ne_some.mpr fun t ht => ?_).symm
    obtain ⟨f, hf⟩ := exists_read?_of_parse? ht
    rw [hfind f (horder f)] at hf
    exact nomatch hf

end Reader

/-! ### Texts -/

section Text

variable {raw : String}

theorem parse_eq_ok_iff {t : Threshold} :
    parse raw = .ok t ↔ ∃ w : Written, w.text = raw ∧ w.threshold = t := by
  simp only [Written.text_eq_iff]
  rw [← parse?_eq_some_iff, parse]
  cases parse? raw.toList with
  | none => exact iff_of_false (fun h => nomatch h) (fun h => nomatch h)
  | some t' => rw [Except.ok.injEq, Option.some.injEq]

theorem parse_text (w : Written) : parse w.text = .ok w.threshold :=
  parse_eq_ok_iff.mpr ⟨w, rfl, rfl⟩

theorem parse_eq_error_iff {e : ThresholdError} :
    parse raw = .error e ↔ e = ⟨raw⟩ ∧ ∀ w : Written, w.text ≠ raw := by
  constructor
  · intro h
    have hnone : ∀ w : Written, w.text ≠ raw := by
      rintro w rfl
      rw [parse_text] at h
      exact nomatch h
    rw [parse] at h
    split at h
    · exact nomatch h
    · exact ⟨(Except.error.inj h).symm, hnone⟩
  · rintro ⟨rfl, hnone⟩
    cases hparse : parse raw with
    | ok t =>
      obtain ⟨w, hw, -⟩ := parse_eq_ok_iff.mp hparse
      exact absurd hw (hnone w)
    | error e =>
      rw [parse] at hparse
      split at hparse
      · exact nomatch hparse
      · rw [Except.error.inj hparse]

/-- **Thresholds.** A text is read as a threshold exactly if it is written in one of
the five forms, each boundary becoming the number of its digits or the largest 64-bit
integer. Any other text is refused and kept in the refusal. No text is written in two
ways, and so the forms may be tried in any order. -/
theorem parse_exact (raw : String) :
    (∀ t, parse raw = .ok t ↔ ∃ w : Written, w.text = raw ∧ w.threshold = t) ∧
    (∀ e, parse raw = .error e ↔ e = ⟨raw⟩ ∧ ∀ w : Written, w.text ≠ raw) ∧
    (∀ w w' : Written, w.text = raw → w'.text = raw → w = w') ∧
    ∀ order : List Form, (∀ f, f ∈ order) →
      order.findSome? (Form.read? raw.toList) = (parse raw).toOption := by
  refine ⟨fun t => parse_eq_ok_iff, fun e => parse_eq_error_iff, ?_, ?_⟩
  · intro w w' h h'
    rw [Written.text_eq_iff] at h h'
    exact Written.chars_injective (h.trans h'.symm)
  · intro order horder
    rw [findSome?_read? horder, parse]
    cases parse? raw.toList <;> rfl

end Text

end Threshold

end SqlProbe
