import SqlProbe.Yaml.Reading

/-!
# What nodes say, and how they are read

A node says what its scalar stands for (`Node.Says`), and an alias says what the node
says that it stands for (`Document.target`). Every way to read a node as something in
particular gives what the node says, if it says something of that kind: a truth value or
a word, and a port number unless it is written with a minus sign, which only zero could
be (`readPort_gives`).

Reading counts steps along aliases, and there is a limit to them. `Reader.Gives` tells
what a reader gives as long as the limit is far enough away, and how far that is. With
the rule for sequences of readers (`Reader.Gives.bind`) the steps of any reader are added
up from those of its parts.
-/

namespace SqlProbe

namespace Yaml

/-! ### What scalars stand for -/

namespace Scalar

variable {s t : String} {n : Int} {b : Bool} {x : Scalar}

/-- An integer is one of either width. -/
theorem exists_of_ofInt? (h : ofInt? n = some x) : x = .integer n ∨ x = .wideInteger n := by
  rw [ofInt?] at h
  split at h
  · exact .inl (Option.some.inj h).symm
  · split at h
    · exact .inr (Option.some.inj h).symm
    · cases h

theorem exists_of_integer? {s : List Char} (h : integer? s = some x) :
    ∃ n, x = .integer n ∨ x = .wideInteger n := by
  rw [integer?] at h
  split at h
  · exact ⟨_, exists_of_ofInt? h⟩
  · obtain ⟨n, -, hn⟩ := Option.bind_eq_some_iff.mp h
    exact ⟨_, exists_of_ofInt? hn⟩

/-- **Other plain scalars** are integers, floating-point numbers or the text itself. -/
theorem ofOther_cases (h : ofOther s = x) :
    (∃ n, x = .integer n ∧ integer? s.toList = some x) ∨ (∃ n, x = .wideInteger n) ∨
      (∃ f, x = .float f) ∨ x = .text s := by
  rw [ofOther] at h
  split at h
  · next y hy =>
    subst h
    obtain ⟨n, hn | hn⟩ := exists_of_integer? hy
    · exact .inl ⟨n, hn, hy⟩
    · exact .inr (.inl ⟨n, hn⟩)
  · split at h
    · exact .inr (.inr (.inr h.symm))
    · split at h
      · exact .inr (.inr (.inl ⟨_, h.symm⟩))
      · exact .inr (.inr (.inr h.symm))

/-- **Plain scalars** are the words for null and truth values, and others. -/
theorem ofPlain_cases (h : ofPlain s = x) :
    ((s.isEmpty || isNullWord s) = true ∧ x = .null) ∨
      (s.isEmpty || isNullWord s) = false ∧
        ((∃ b, bool? s = some b ∧ x = .bool b) ∨ ofOther s = x) := by
  rw [ofPlain] at h
  split at h
  · next hnull => exact .inl ⟨hnull, h.symm⟩
  · next hnull =>
    refine .inr ⟨by simpa using hnull, ?_⟩
    split at h
    · next b hb => exact .inl ⟨b, hb, h.symm⟩
    · exact .inr h

theorem ofPlain_eq_null_iff : ofPlain s = .null ↔ (s.isEmpty || isNullWord s) = true := by
  constructor
  · intro h
    obtain ⟨hnull, -⟩ | ⟨-, ⟨_, -, hx⟩ | hother⟩ := ofPlain_cases h
    · exact hnull
    · cases hx
    · obtain ⟨_, hx, -⟩ | ⟨_, hx⟩ | ⟨_, hx⟩ | hx := ofOther_cases hother <;> cases hx
  · intro hnull
    rw [ofPlain, if_pos hnull]

theorem bool?_of_ofPlain (h : ofPlain s = .bool b) : bool? s = some b := by
  obtain ⟨-, hx⟩ | ⟨-, ⟨_, hword, hx⟩ | hother⟩ := ofPlain_cases h
  · cases hx
  · cases hx
    exact hword
  · obtain ⟨_, hx, -⟩ | ⟨_, hx⟩ | ⟨_, hx⟩ | hx := ofOther_cases hother <;> cases hx

theorem integer?_of_ofPlain (h : ofPlain s = .integer n) :
    integer? s.toList = some (.integer n) := by
  obtain ⟨-, hx⟩ | ⟨-, ⟨_, -, hx⟩ | hother⟩ := ofPlain_cases h
  · cases hx
  · cases hx
  · obtain ⟨_, -, hinteger⟩ | ⟨_, hx⟩ | ⟨_, hx⟩ | hx := ofOther_cases hother
    · exact hinteger
    all_goals cases hx

theorem text_of_ofPlain (h : ofPlain s = .text t) : t = s := by
  obtain ⟨-, hx⟩ | ⟨-, ⟨_, -, hx⟩ | hother⟩ := ofPlain_cases h
  · cases hx
  · cases hx
  · obtain ⟨_, hx, -⟩ | ⟨_, hx⟩ | ⟨_, hx⟩ | hx := ofOther_cases hother <;> cases hx
    rfl

/-- An integer that is written without a minus sign is read where none may be. -/
theorem unsigned?_of_integer? {s : List Char} (h : integer? s = some (.integer n))
    (hs : s.head? ≠ some '-') : ∃ k : Nat, unsigned? s = some k ∧ n = k := by
  rw [integer?] at h
  split at h
  · next k hk =>
    refine ⟨k, hk, ?_⟩
    obtain hn | hn := exists_of_ofInt? h
    · exact Scalar.integer.inj hn
    · cases hn
  · -- A minus sign would come first.
    obtain ⟨k, hk, -⟩ := Option.bind_eq_some_iff.mp h
    unfold negative? at hk
    split at hk
    · cases hk
    · split at hk
      · exact absurd rfl hs
      · cases hk

end Scalar

/-- **Tags.** A scalar stands for what its tag decides, or for what it is by itself. -/
inductive StandsFor (style : ScalarStyle) (text : String) : Option String → Scalar → Prop where
  | bare {s : Scalar} (hs : plainScalar style text = s) : StandsFor style text none s
  | bool {b : Bool} (hb : Scalar.bool? text = some b) :
      StandsFor style text (some (coreTag "bool")) (.bool b)
  | integer {n : Int} (hn : Scalar.integer? text.toList = some (.integer n)) :
      StandsFor style text (some (coreTag "int")) (.integer n)
  | wideInteger {n : Int} : StandsFor style text (some (coreTag "int")) (.wideInteger n)
  | float {x : Binary64} : StandsFor style text (some (coreTag "float")) (.float x)
  | null (hword : Scalar.isNullWord text = true) :
      StandsFor style text (some (coreTag "null")) .null
  | other {t : String} (ht : t ≠ coreTag "null") : StandsFor style text (some t) (.text text)

section

variable {tag : Option String} {style : ScalarStyle} {text t : String} {b : Bool} {n : Int}
  {s : Scalar}

theorem standsFor_of_scalarOf (hown : ownTag? tag = none) (h : scalarOf tag style text = .ok s) :
    StandsFor style text tag s := by
  cases tag with
  | none => exact .bare (Except.ok.inj h)
  | some t =>
    -- The core tags are asked for one after the other, and any other tag makes a text.
    simp only [scalarOf, hown, Option.isSome_none, Bool.false_eq_true, if_false, coreScalar?] at h
    by_cases hbool : t = coreTag "bool"
    · rw [if_pos hbool] at h
      subst hbool
      cases hb : Scalar.bool? text with
      | none => rw [hb] at h; cases h
      | some b => rw [hb] at h; cases h; exact .bool hb
    rw [if_neg hbool] at h
    by_cases hint : t = coreTag "int"
    · rw [if_pos hint] at h
      subst hint
      cases hn : Scalar.integer? text.toList with
      | none => rw [hn] at h; cases h
      | some x =>
        rw [hn] at h
        cases h
        obtain ⟨n, rfl | rfl⟩ := Scalar.exists_of_integer? hn
        · exact .integer hn
        · exact .wideInteger
    rw [if_neg hint] at h
    by_cases hfloat : t = coreTag "float"
    · rw [if_pos hfloat] at h
      subst hfloat
      cases hx : Scalar.float? text with
      | none => rw [hx] at h; cases h
      | some x => rw [hx] at h; cases h; exact .float
    rw [if_neg hfloat] at h
    by_cases hnull : t = coreTag "null"
    · rw [if_pos hnull] at h
      subst hnull
      cases hword : Scalar.isNullWord text with
      | false => rw [hword] at h; cases h
      | true => rw [hword] at h; cases h; exact .null hword
    rw [if_neg hnull] at h
    cases h
    exact .other hnull

theorem text_of_scalarOf (hown : ownTag? tag = none) (h : scalarOf tag style text = .ok (.text t)) :
    t = text := by
  cases standsFor_of_scalarOf hown h with
  | bare hs =>
    rw [plainScalar] at hs
    split at hs
    · exact Scalar.text_of_ofPlain hs
    · exact (Scalar.text.inj hs).symm
  | other ht => rfl

theorem bool?_of_scalarOf (hown : ownTag? tag = none)
    (h : scalarOf tag .plain text = .ok (.bool b)) : Scalar.bool? text = some b := by
  cases standsFor_of_scalarOf hown h with
  | bare hs => exact Scalar.bool?_of_ofPlain hs
  | bool hb => exact hb

theorem integer?_of_scalarOf (hown : ownTag? tag = none)
    (h : scalarOf tag .plain text = .ok (.integer n)) :
    Scalar.integer? text.toList = some (.integer n) := by
  cases standsFor_of_scalarOf hown h with
  | bare hs => exact Scalar.integer?_of_ofPlain hs
  | integer hn => exact hn

theorem null_of_scalarOf (hown : ownTag? tag = none) (h : scalarOf tag .plain text = .ok .null) :
    (tag = none ∧ (text.isEmpty || Scalar.isNullWord text) = true) ∨
      (tag = some (coreTag "null") ∧ Scalar.isNullWord text = true) := by
  cases standsFor_of_scalarOf hown h with
  | bare hs => exact .inl ⟨rfl, Scalar.ofPlain_eq_null_iff.mp hs⟩
  | null hword => exact .inr ⟨rfl, hword⟩

theorem ne_null_of_scalarOf (hown : ownTag? tag = none)
    (h : scalarOf tag .plain text = .ok s) (hs : s ≠ .null) :
    (tag = none ∧ (text.isEmpty || Scalar.isNullWord text) = false) ∨
      ∃ t, tag = some t ∧ t ≠ coreTag "null" := by
  cases standsFor_of_scalarOf hown h with
  | bare htext =>
    refine .inl ⟨rfl, Bool.eq_false_iff.mpr fun hnull => hs ?_⟩
    exact htext.symm.trans (Scalar.ofPlain_eq_null_iff.mpr hnull)
  | bool | integer | wideInteger | float => exact .inr ⟨_, rfl, by decide⟩
  | null => exact absurd rfl hs
  | other ht => exact .inr ⟨_, rfl, ht⟩

end

/-! ### What nodes say -/

/-- **A scalar says** what it stands for, unless its tag is meant for the reader. Only a
text may be written between quotes or as a block. -/
inductive Node.Says : Node → Scalar → Prop where
  | intro {marks : Marks} {style : ScalarStyle} {text : String} {s : Scalar}
      (hown : ownTag? marks.tag = none) (hs : scalarOf marks.tag style text = .ok s)
      (hstyle : style = .plain ∨ ∃ t, s = .text t) : Says (.scalar marks style text) s

/-- What is no text is written plainly. -/
theorem Node.Says.plain {n : Node} {s : Scalar} (h : n.Says s) (hs : ∀ t, s ≠ .text t) :
    ∃ marks text, n = .scalar marks .plain text ∧ ownTag? marks.tag = none ∧
      scalarOf marks.tag .plain text = .ok s := by
  obtain ⟨hown, hscalar, rfl | ⟨t, ht⟩⟩ := h
  · exact ⟨_, _, rfl, hown, hscalar⟩
  · exact absurd ht (hs t)

namespace Document

/-- The node that a node stands for, which is itself unless it is an alias. -/
def target (d : Document) : Node → Node
  | .aliasOf a => (d.target? a).getD (.aliasOf a)
  | n => n

/-- The text of a key, if it is a scalar. -/
def keyText? (d : Document) (n : Node) : Option String := writtenKey? (d.target n)

/-- How many steps along aliases may be taken. -/
def stepLimit (d : Document) : Nat := d.size * aliasFactor

end Document

/-! ### What readers give -/

/-- A reader gives a value from wherever it takes at most so many steps along aliases to
stay within a limit. -/
def Reader.Gives {α : Type} (limit cost : Nat) (r : Reader α) (x : α) : Prop :=
  ∀ steps, steps + cost ≤ limit → ∃ steps', steps' ≤ steps + cost ∧ r steps = .ok (x, steps')

namespace Reader.Gives

variable {α β : Type} {limit cost cost' : Nat} {r : Reader α} {x : α} {y : β}

theorem pure (x : α) : Gives limit 0 (Pure.pure x) x := fun steps _ => ⟨steps, Nat.le_refl _, rfl⟩

/-- **One reader after another.** The steps of both are counted. -/
theorem bind {f : α → Reader β} (hr : Gives limit cost r x) (hf : Gives limit cost' (f x) y) :
    Gives limit (cost + cost') (r >>= f) y := by
  intro steps hsteps
  -- The second one starts where the first one stops, which leaves it steps enough.
  obtain ⟨steps', hle, h⟩ := hr steps (by omega)
  obtain ⟨steps'', hle', h'⟩ := hf steps' (by omega)
  refine ⟨steps'', by omega, ?_⟩
  change (r steps).bind (fun p => f p.1 p.2) = _
  rw [h]
  exact h'

/-- What follows takes no steps. -/
theorem bind_free {f : α → Reader β} (hr : Gives limit cost r x) (hf : Gives limit 0 (f x) y) :
    Gives limit cost (r >>= f) y :=
  hr.bind hf

theorem map {f : α → β} (hr : Gives limit cost r x) : Gives limit cost (f <$> r) (f x) := by
  intro steps hsteps
  obtain ⟨steps', hle, h⟩ := hr steps hsteps
  refine ⟨steps', hle, ?_⟩
  change (r steps).bind (fun p => Except.ok (f p.1, p.2)) = _
  rw [h]
  rfl

theorem mono (hr : Gives limit cost r x) (hcost : cost ≤ cost') : Gives limit cost' r x := by
  intro steps hsteps
  obtain ⟨steps', hle, h⟩ := hr steps (by omega)
  exact ⟨steps', by omega, h⟩

end Reader.Gives

/-! ### The ways to read a node -/

section

variable {d : Document} {n : Node} {path : Path} {s : Scalar} {t : String} {depth : Nat}

open Reader (Gives)

/-- Following an alias takes one step. -/
theorem resolve_gives (d : Document) (n : Node) :
    Gives d.stepLimit 1 (resolve d n) (d.target n) := by
  intro steps hsteps
  cases n with
  | aliasOf a =>
    have hlimit : ¬ d.size * aliasFactor < steps + 1 := Nat.not_lt.mpr hsteps
    exact ⟨steps + 1, Nat.le_refl _, if_neg hlimit⟩
  | scalar _ _ _ | sequence _ _ | mapping _ _ => exact ⟨steps, Nat.le_succ _, rfl⟩

theorem readFieldName_gives {name : String} (h : d.keyText? n = some name) :
    Gives d.stepLimit 1 (readFieldName d path n) name := by
  refine (resolve_gives d n).bind_free ?_
  rw [Document.keyText?] at h
  cases hn : d.target n with
  | scalar marks style text =>
    rw [hn] at h
    cases h
    exact Gives.pure _
  | sequence _ _ | mapping _ _ | aliasOf _ => rw [hn] at h; cases h

/-- A value is read once an alias has been followed; how deeply collections may be nested
does not matter to a scalar. -/
theorem exists_readValue_eq (d : Document) (depth : Nat) (path : Path) (n : Node) :
    ∃ f : Node → Reader Value, readValue d depth path n = (resolve d n >>= f) ∧
      ∀ marks style text, f (.scalar marks style text) =
        (underTag marks.tag <$> match contentOf marks.tag style text with
          | .ok s => valueOfScalar path s
          | .error p => failAt path p) := by
  delta readValue
  -- The depths differ only in what becomes of a collection.
  cases depth with
  | zero => exact ⟨_, rfl, fun _ _ _ => by rfl⟩
  | succ depth => exact ⟨_, rfl, fun _ _ _ => by rfl⟩

/-- A scalar is read as the value of what it says. -/
theorem readValue_gives {v : Value} (h : (d.target n).Says s)
    (hv : valueOfScalar path s = pure v) : Gives d.stepLimit 1 (readValue d depth path n) v := by
  obtain ⟨f, hread, hf⟩ := exists_readValue_eq d depth path n
  rw [hread]
  refine (resolve_gives d n).bind_free ?_
  generalize d.target n = m at h
  obtain ⟨hown, hs, -⟩ := h
  next marks style text =>
  have hunder : underTag marks.tag = id := by
    funext v
    rw [underTag, hown, id]
  rw [hf, contentOf, hown, hs, hunder]
  simp only [Option.isSome_none, Bool.false_eq_true, if_false, hv]
  exact (Gives.pure v).map (f := id)

/-- What says that nothing is there is not present. -/
theorem readPresent_gives_none (h : (d.target n).Says .null) :
    Gives d.stepLimit 1 (readPresent d n) none := by
  refine (resolve_gives d n).bind_free ?_
  obtain ⟨marks, text, hn, hown, hs⟩ := h.plain fun _ h => nomatch h
  rw [hn]
  obtain ⟨htag, htext⟩ | ⟨htag, htext⟩ := null_of_scalarOf hown hs
  all_goals
    simp only [htag, htext, if_true]
    exact Gives.pure _

/-- What says something is present. -/
theorem readPresent_gives_some (h : (d.target n).Says s) (hs : s ≠ .null) :
    Gives d.stepLimit 1 (readPresent d n) (some (d.target n)) := by
  refine (resolve_gives d n).bind_free ?_
  generalize d.target n = m at h
  obtain ⟨hown, hscalar, -⟩ := h
  next marks style text =>
  -- Only a plain scalar could be taken for null.
  cases style with
  | plain =>
    obtain ⟨htag, htext⟩ | ⟨t, htag, hne⟩ := ne_null_of_scalarOf hown hscalar hs
    · simp only [htag, htext]
      exact Gives.pure _
    · simp only [htag, hne, if_false]
      exact Gives.pure _
  | singleQuoted | doubleQuoted | literal | folded => exact Gives.pure _

/-- **A port number** is read if it is written without a minus sign. -/
theorem readPort_gives {limit : Nat} {p : UInt16} (h : n.Says (.integer p.toNat))
    (hsign : ∀ text, writtenKey? n = some text → text.toList.head? ≠ some '-') :
    Gives limit 0 (readPort path n) p := by
  have hp : p.toNat < 0x10000 := p.toNat_lt
  obtain ⟨marks, text, rfl, hown, hs⟩ := h.plain fun _ h => nomatch h
  obtain ⟨k, hk, hpk⟩ :=
    Scalar.unsigned?_of_integer? (integer?_of_scalarOf hown hs) (hsign text rfl)
  obtain rfl : p.toNat = k := Int.ofNat.inj hpk
  have hread : readPort path (.scalar marks .plain text) = pure p := by
    simp only [readPort, bareText?, Option.bind_some, hk, if_pos hp, UInt16.ofNat_toNat]
  exact hread ▸ Gives.pure p

/-- **A truth value** is read. -/
theorem readBool_gives {limit : Nat} {b : Bool} (h : n.Says (.bool b)) :
    Gives limit 0 (readBool path n) b := by
  obtain ⟨marks, text, rfl, hown, hs⟩ := h.plain fun _ h => nomatch h
  have hread : readBool path (.scalar marks .plain text) = pure b := by
    simp only [readBool, bareText?, Option.bind_some, bool?_of_scalarOf hown hs]
  exact hread ▸ Gives.pure b

/-- **A word** is read if it is known. -/
theorem readWord_gives {limit : Nat} {known : List String} {word : String}
    (h : n.Says (.text word)) (hknown : word ∈ known) :
    Gives limit 0 (readWord known path n) word := by
  obtain ⟨hown, hs, -⟩ := h
  next marks style text =>
  obtain rfl := text_of_scalarOf hown hs
  have hread : readWord known path (.scalar marks style word) = pure word := by
    simp only [readWord, tagOf, hown, knownWord, List.contains_iff_mem, hknown, if_true]
  exact hread ▸ Gives.pure word

end

end Yaml

end SqlProbe
