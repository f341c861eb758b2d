import Mathlib.Data.List.Basic

/-!
# Marks between their neighbours

A mark that is only allowed between two characters of a class can be looked for in two
ways: among the characters of a text, or among the bytes of its encoding. The two agree if
the mark and the class are within the seven bits of ASCII, since a byte of a longer
character is never taken for one of them (`Text.flanked_bytes_iff`).

* `Text.Flanked`: every mark has a neighbour of the class on either side.
* `Text.FlankedAfter`: the same for a text of which a part has gone by, which is what one
  more character is checked against (`Text.flankedAfter_cons`).
* `Text.flanked_append_left_iff`, `Text.flanked_append_right_iff`: what is around a text does
  not matter, if it has no marks and is not of the class where it touches the text.
* `Text.exists_of_bytes_eq_append`: a byte of seven bits is a character, and cuts the text.
-/

namespace SqlProbe

namespace Text

/-! ### Neighbours -/

section Neighbours

variable {α : Type} {mark a : α} {p q : α → Bool} {before after pre s t : List α}

/-- Between what stands before a place and what stands after it there is an element of the
class on either side. -/
def Between (p : α → Bool) (before after : List α) : Prop :=
  before.getLast?.any p = true ∧ after.head?.any p = true

instance : Decidable (Between p before after) := inferInstanceAs (Decidable (_ ∧ _))

theorem between_append_left (h : pre.getLast?.any p = false) :
    Between p (pre ++ before) after ↔ Between p before after := by
  rw [Between, Between, List.getLast?_append]
  cases before.getLast? with
  | none => rw [Option.none_or, h, Option.any_none]
  | some b => rw [Option.some_or]

theorem between_append_right (h : t.head?.any p = false) :
    Between p before (after ++ t) ↔ Between p before after := by
  rw [Between, Between, List.head?_append]
  cases after.head? with
  | none => rw [Option.none_or, h, Option.any_none]
  | some b => rw [Option.some_or]

/-- Of what stands before a place only the last element counts. -/
theorem between_append_left_of_ne_nil (h : before ≠ []) :
    Between p (pre ++ before) after ↔ Between p before after := by
  rw [Between, Between, List.getLast?_append_of_ne_nil _ h]

/-- **Flanked marks.** Every mark of the list stands directly between two elements of the
class. -/
def Flanked (mark : α) (p : α → Bool) (s : List α) : Prop :=
  ∀ before after, s = before ++ mark :: after → Between p before after

theorem Flanked.head?_ne (h : Flanked mark p s) : s.head? ≠ some mark := by
  intro hs
  obtain ⟨t, rfl⟩ := List.head?_eq_some_iff.mp hs
  exact nomatch (h [] t rfl).1

theorem Flanked.getLast?_ne (h : Flanked mark p s) : s.getLast? ≠ some mark := by
  intro hs
  obtain ⟨t, rfl⟩ := List.getLast?_eq_some_iff.mp hs
  exact nomatch (h t [] rfl).2

/-- A wider class flanks more. -/
theorem Flanked.mono (hpq : ∀ a, p a = true → q a = true) (h : Flanked mark p s) :
    Flanked mark q s := by
  have hany : ∀ o : Option α, o.any p = true → o.any q = true := by
    intro o ho
    obtain ⟨a, rfl, ha⟩ := (Option.any_eq_true _ _).mp ho
    exact hpq a ha
  exact fun before after hs => (h before after hs).imp (hany _) (hany _)

/-! ### One element after the other -/

/-- The marks of `s` are flanked in the list of which `s` is the rest after `pre`. -/
def FlankedAfter (mark : α) (p : α → Bool) (pre s : List α) : Prop :=
  ∀ before after, s = before ++ mark :: after → Between p (pre ++ before) after

theorem flankedAfter_nil_left : FlankedAfter mark p [] s ↔ Flanked mark p s := Iff.rfl

theorem flankedAfter_of_not_mem (h : mark ∉ s) : FlankedAfter mark p pre s := by
  rintro before after rfl
  exact absurd (List.mem_append_right _ (List.mem_cons_self ..)) h

theorem flanked_of_not_mem (h : mark ∉ s) : Flanked mark p s :=
  flankedAfter_nil_left.mp (flankedAfter_of_not_mem h)

/-- One element: if it is a mark, then it is flanked by what is next to it. -/
theorem flankedAfter_cons :
    FlankedAfter mark p pre (a :: s) ↔
      (a = mark → Between p pre s) ∧ FlankedAfter mark p (pre ++ [a]) s := by
  constructor
  · intro h
    refine ⟨?_, ?_⟩
    · rintro rfl
      have hfirst := h [] s rfl
      rwa [List.append_nil] at hfirst
    · rintro before after rfl
      rw [← List.append_cons]
      exact h (a :: before) after rfl
  · rintro ⟨hmark, h⟩ before after hs
    cases before with
    | nil =>
      obtain ⟨rfl, rfl⟩ := List.cons.inj hs
      rw [List.append_nil]
      exact hmark rfl
    | cons b before =>
      obtain ⟨rfl, rfl⟩ := List.cons.inj hs
      rw [List.append_cons]
      exact h before after rfl

/-- A part without marks goes by. -/
theorem flankedAfter_append (h : mark ∉ t) :
    FlankedAfter mark p pre (t ++ s) ↔ FlankedAfter mark p (pre ++ t) s := by
  induction t generalizing pre with
  | nil => rw [List.nil_append, List.append_nil]
  | cons a t ih =>
    rw [List.mem_cons, not_or] at h
    obtain ⟨ha, ht⟩ := h
    rw [List.cons_append, flankedAfter_cons, ih ht, ← List.append_cons]
    exact and_iff_right fun heq => absurd heq.symm ha

/-- What has gone by does not matter if it does not end in the class. -/
theorem flankedAfter_iff_flanked (h : pre.getLast?.any p = false) :
    FlankedAfter mark p pre s ↔ Flanked mark p s :=
  forall₃_congr fun _ _ _ => between_append_left h

/-- Nor does it matter if no mark comes next. -/
theorem flankedAfter_of_head?_ne (h : s.head? ≠ some mark) :
    FlankedAfter mark p pre s ↔ Flanked mark p s := by
  refine forall₃_congr fun before after hs => ?_
  cases before with
  | nil =>
    rw [hs] at h
    exact absurd rfl h
  | cons b before => exact between_append_left_of_ne_nil (List.cons_ne_nil _ _)

/-- What follows does not matter if it has no marks and does not begin in the class. The
induction is on the text in front of it. -/
theorem flankedAfter_append_right (hmark : mark ∉ t) (h : t.head?.any p = false) :
    FlankedAfter mark p pre (s ++ t) ↔ FlankedAfter mark p pre s := by
  induction s generalizing pre with
  | nil =>
    exact iff_of_true (flankedAfter_of_not_mem hmark)
      (flankedAfter_of_not_mem List.not_mem_nil)
  | cons a s ih =>
    rw [List.cons_append, flankedAfter_cons, flankedAfter_cons, ih, between_append_right h]

/-- **In front** of a text there may be what has no marks and does not end in the class. -/
theorem flanked_append_left_iff (hmark : mark ∉ t) (h : t.getLast?.any p = false) :
    Flanked mark p (t ++ s) ↔ Flanked mark p s := by
  rw [← flankedAfter_nil_left, flankedAfter_append hmark, List.nil_append,
    flankedAfter_iff_flanked h]

/-- **Behind** a text there may be what has no marks and does not begin in the class. -/
theorem flanked_append_right_iff (hmark : mark ∉ t) (h : t.head?.any p = false) :
    Flanked mark p (s ++ t) ↔ Flanked mark p s := by
  rw [← flankedAfter_nil_left, ← flankedAfter_nil_left, flankedAfter_append_right hmark h]

end Neighbours

/-! ### Bytes -/

section Bytes

variable {c mark : Char} {b : UInt8} {s t : List Char} {p : Char → Bool} {before after : List UInt8}

/-- The encoding of a text. -/
def bytes (s : List Char) : List UInt8 := s.flatMap String.utf8EncodeChar

theorem bytes_toList (s : String) : bytes s.toList = s.toUTF8.data.toList := by
  rw [String.toUTF8_eq_toByteArray, ← String.ofList_toList (s := s), String.toByteArray_ofList,
    String.toList_ofList, List.utf8Encode, List.toList_data_toByteArray, bytes]

theorem bytes_cons (c : Char) (s : List Char) :
    bytes (c :: s) = String.utf8EncodeChar c ++ bytes s := rfl

theorem bytes_append (s t : List Char) : bytes (s ++ t) = bytes s ++ bytes t :=
  List.flatMap_append

theorem toNat_toUInt8 (h : c.toNat < 0x80) : c.toUInt8.toNat = c.toNat := by
  have hmod : c.toUInt8.toNat = c.toNat % 2 ^ 8 := UInt32.toNat_toUInt8 _
  omega

/-- A character of seven bits is one byte. -/
theorem utf8EncodeChar_of_ascii (h : c.toNat < 0x80) : String.utf8EncodeChar c = [c.toUInt8] := by
  have hval : c.val.toNat ≤ 127 := Nat.le_of_lt_succ h
  exact String.utf8EncodeChar_eq_singleton (Char.utf8Size_eq_one_iff.mpr hval)

/-- No byte of another character has seven bits. -/
theorem le_toNat_of_mem_utf8EncodeChar (h : 0x80 ≤ c.toNat) :
    ∀ b ∈ String.utf8EncodeChar c, 0x80 ≤ b.toNat := by
  have hval : ¬ c.val.toNat ≤ 127 := Nat.not_le.mpr h
  have hhigh : ∀ n, 0x80 ≤ n → n < 0x100 → 0x80 ≤ (UInt8.ofNat n).toNat := by
    intro n hn hlt
    rwa [UInt8.toNat_ofNat', Nat.mod_eq_of_lt hlt]
  -- Two, three or four bytes, each with the bits of its place above some of the number.
  rw [String.utf8EncodeChar, if_neg hval]
  split
  · simp only [List.forall_mem_cons]
    refine ⟨hhigh _ ?_ ?_, hhigh _ ?_ ?_, nofun⟩ <;> omega
  split
  · simp only [List.forall_mem_cons]
    refine ⟨hhigh _ ?_ ?_, hhigh _ ?_ ?_, hhigh _ ?_ ?_, nofun⟩ <;> omega
  · simp only [List.forall_mem_cons]
    refine ⟨hhigh _ ?_ ?_, hhigh _ ?_ ?_, hhigh _ ?_ ?_, hhigh _ ?_ ?_, nofun⟩ <;> omega

/-- **Cuts.** A byte of seven bits is a character, and the bytes before and after it are
those of the characters before and after it. -/
theorem exists_of_bytes_eq_append (hb : b.toNat < 0x80) (h : bytes s = before ++ b :: after) :
    ∃ s₁ c s₂, s = s₁ ++ c :: s₂ ∧ c.toUInt8 = b ∧ c.toNat < 0x80 ∧ bytes s₁ = before ∧
      bytes s₂ = after := by
  induction s generalizing before with
  | nil => exact absurd h.symm (List.append_ne_nil_of_right_ne_nil _ (List.cons_ne_nil _ _))
  | cons c s ih =>
    rw [bytes_cons] at h
    rcases List.append_eq_append_iff.mp h with ⟨u, rfl, hs⟩ | ⟨u, hc, hs⟩
    · -- The byte is behind those of the first character.
      obtain ⟨s₁, c', s₂, rfl, hc', hlt, rfl, rfl⟩ := ih hs
      exact ⟨c :: s₁, c', s₂, rfl, hc', hlt, rfl, rfl⟩
    cases u with
    | nil =>
      rw [List.append_nil] at hc
      have hstart : bytes s = [] ++ b :: after := hs.symm
      obtain ⟨s₁, c', s₂, rfl, hc', hlt, hs₁, rfl⟩ := ih hstart
      exact ⟨c :: s₁, c', s₂, rfl, hc', hlt, by rw [bytes_cons, hs₁, List.append_nil, hc], rfl⟩
    | cons d u =>
      -- It is one of them, and so it is the only one.
      obtain ⟨rfl, rfl⟩ := List.cons.inj hs
      have hmem : b ∈ String.utf8EncodeChar c :=
        hc ▸ List.mem_append_right _ (List.mem_cons_self ..)
      have hlt : c.toNat < 0x80 :=
        Nat.not_le.mp fun hle => absurd (le_toNat_of_mem_utf8EncodeChar hle b hmem) (by omega)
      rw [utf8EncodeChar_of_ascii hlt] at hc
      obtain ⟨rfl, hc⟩ | ⟨u', -, hc⟩ := List.append_eq_cons_iff.mp hc.symm
      · obtain ⟨rfl, rfl⟩ := List.cons.inj hc
        exact ⟨[], c, s, rfl, rfl, hlt, rfl, rfl⟩
      · exact absurd hc.symm (List.append_ne_nil_of_right_ne_nil u' (List.cons_ne_nil b u))

/-- A class of characters asked of a byte, which is taken for the number of a character. -/
def onByte (p : Char → Bool) (b : UInt8) : Bool := p (Char.ofNat b.toNat)

section Class

variable (hp : ∀ c, p c = true → c.toNat < 0x80)
include hp

/-- A byte is in a class of ASCII characters exactly if its character is. -/
theorem onByte_of_mem (hb : b ∈ String.utf8EncodeChar c) : onByte p b = p c := by
  by_cases hc : c.toNat < 0x80
  · rw [utf8EncodeChar_of_ascii hc, List.mem_singleton] at hb
    rw [onByte, hb, toNat_toUInt8 hc, Char.ofNat_toNat]
  · have hle := le_toNat_of_mem_utf8EncodeChar (Nat.not_lt.mp hc) b hb
    have hvalid : b.toNat.isValidChar := .inl (Nat.lt_trans b.toNat_lt (by decide))
    have hnot : ∀ d : Char, 0x80 ≤ d.toNat → p d = false := by
      intro d hd
      rw [← Bool.not_eq_true]
      exact fun h => absurd (hp d h) (Nat.not_lt.mpr hd)
    have hbyte : 0x80 ≤ (Char.ofNat b.toNat).toNat := by
      rw [Char.ofNat, dif_pos hvalid]
      exact hle
    rw [onByte, hnot c (Nat.not_lt.mp hc), hnot _ hbyte]

/-- The first byte of a text is in the class exactly if the first character is. -/
theorem any_head?_bytes (s : List Char) : (bytes s).head?.any (onByte p) = s.head?.any p := by
  cases s with
  | nil => rfl
  | cons c s =>
    obtain ⟨b, u, hc⟩ := List.exists_cons_of_ne_nil (String.utf8EncodeChar_ne_nil (c := c))
    have hb : b ∈ String.utf8EncodeChar c := hc ▸ List.mem_cons_self ..
    rw [bytes_cons, hc]
    exact onByte_of_mem hp hb

/-- So it is at the end. -/
theorem any_getLast?_bytes (s : List Char) :
    (bytes s).getLast?.any (onByte p) = s.getLast?.any p := by
  obtain rfl | ⟨s, c, rfl⟩ := List.eq_nil_or_concat' s
  · rfl
  · obtain hc | ⟨u, b, hc⟩ := List.eq_nil_or_concat' (String.utf8EncodeChar c)
    · exact absurd hc String.utf8EncodeChar_ne_nil
    have hb : b ∈ String.utf8EncodeChar c :=
      hc ▸ List.mem_append_right _ (List.mem_singleton_self b)
    have hlast : bytes [c] = u ++ [b] := (List.append_nil _).trans hc
    rw [bytes_append, hlast, ← List.append_assoc, List.getLast?_concat, List.getLast?_concat]
    exact onByte_of_mem hp hb

theorem between_bytes : Between (onByte p) (bytes s) (bytes t) ↔ Between p s t := by
  rw [Between, Between, any_getLast?_bytes hp, any_head?_bytes hp]

/-- **Marks in bytes** are flanked exactly if they are so among the characters. -/
theorem flanked_bytes_iff (hmark : mark.toNat < 0x80) (s : List Char) :
    Flanked mark.toUInt8 (onByte p) (bytes s) ↔ Flanked mark p s := by
  constructor
  · rintro h before after rfl
    rw [← between_bytes hp]
    refine h _ _ ?_
    rw [bytes_append, bytes_cons, utf8EncodeChar_of_ascii hmark]
    rfl
  · intro h before after hs
    obtain ⟨s₁, c, s₂, rfl, hc, hlt, rfl, rfl⟩ :=
      exists_of_bytes_eq_append (by rwa [toNat_toUInt8 hmark]) hs
    -- Two characters of seven bits with one byte are the same.
    have heq : c = mark := by
      rw [← Char.toNat_inj, ← toNat_toUInt8 hlt, hc, toNat_toUInt8 hmark]
    rw [between_bytes hp]
    exact h s₁ s₂ (by rw [heq])

end Class

end Bytes

end Text

end SqlProbe
