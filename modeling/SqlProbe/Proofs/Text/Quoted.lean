import SqlProbe.Proofs.Numeral.Writing
import SqlProbe.Text.Quoted

/-!
# Quoted text can be read back

Quoting is made for reading: a text between quotes shows what it contains, whatever it
contains. So it has to be possible to tell where the quotes end, and to tell every text
from every other one. Both follow from a reader of one character (`Text.unescape?`).
Whatever stands after it, the character that is read is the one that was written
(`Text.unescape?_escape`), and a closing quote is never taken for one.

* `Text.quote_append_inj`: if two texts are quoted and something follows each of them,
  nothing but equal texts with equal continuations looks the same. A quote, a backslash or
  an imitation of the words that come next is no way around this.
-/

namespace SqlProbe

namespace Text

variable {c : Char} {rest : List Char}

/-! ### One character -/

/-- The character that a text between quotes goes on with, and what stands after it. There
is none where the quotes end. -/
def unescape? : List Char → Option (Char × List Char)
  | '\\' :: '"' :: rest => some ('"', rest)
  | '\\' :: '\\' :: rest => some ('\\', rest)
  | '\\' :: 'n' :: rest => some ('\n', rest)
  | '\\' :: 'r' :: rest => some ('\r', rest)
  | '\\' :: 't' :: rest => some ('\t', rest)
  | '\\' :: '0' :: rest => some ('\x00', rest)
  | '\\' :: 'u' :: '\x7b' :: rest =>
    match rest.dropWhile Digit.isHex with
    | '\x7d' :: after => some (Char.ofNat (Digit.natOf 16 (rest.takeWhile Digit.isHex)), after)
    | _ => none
  | '\\' :: _ => none
  | '"' :: _ => none
  | c :: rest => some (c, rest)
  | [] => none

/-- A character that means nothing else stands for itself. -/
theorem unescape?_of_ne (hescape : c ≠ '\\') (hquote : c ≠ '"') :
    unescape? (c :: rest) = some (c, rest) := by
  unfold unescape?
  split <;> simp_all

/-- The number of a character is cut off at the brace and belongs to that character alone. -/
theorem unescape?_numericEscape (c : Char) (rest : List Char) :
    unescape? (numericEscape c ++ rest) = some (c, rest) := by
  have hdigits : ∀ d ∈ Nat.toDigits 16 c.toNat, Digit.isHex d = true := fun d hd =>
    Digit.isHex_of_mem_toDigits (by decide) (by decide) hd
  have hbrace : ¬ Digit.isHex '\x7d' = true := by decide
  have htext : numericEscape c ++ rest =
      '\\' :: 'u' :: '\x7b' :: (Nat.toDigits 16 c.toNat ++ '\x7d' :: rest) := by
    simp [numericEscape]
  rw [htext, unescape?, List.dropWhile_append_of_pos hdigits, List.dropWhile_cons_of_neg hbrace,
    List.takeWhile_append_of_pos hdigits, List.takeWhile_cons_of_neg hbrace, List.append_nil,
    Digit.natOf_toDigits (by decide) (by decide), Char.ofNat_toNat]
  rfl

/-- **One character** is read back, whatever stands after it. -/
theorem unescape?_escape (c : Char) (rest : List Char) :
    unescape? (escape c ++ rest) = some (c, rest) := by
  unfold escape
  split
  -- Six characters have a letter of their own. All others are shown, or told by number.
  all_goals try rfl
  next hquote hescape _ _ _ _ =>
    split
    · exact unescape?_of_ne hescape hquote
    · exact unescape?_numericEscape c rest

/-! ### Whole texts -/

/-- Texts between quotes are told apart, and so is what stands after them. -/
theorem flatMap_escape_append_inj {s t x y : List Char}
    (h : s.flatMap escape ++ '"' :: x = t.flatMap escape ++ '"' :: y) : s = t ∧ x = y := by
  -- By induction on the one text, reading a character of both at a time. A closing quote is
  -- no character, so that the two texts end at the same place.
  induction s generalizing t with
  | nil =>
    cases t with
    | nil => exact ⟨rfl, (List.cons.inj h).2⟩
    | cons d t =>
      have hread := congrArg unescape? h
      rw [List.flatMap_cons, List.append_assoc, unescape?_escape] at hread
      exact nomatch hread
  | cons c s ih =>
    have hread := congrArg unescape? h
    rw [List.flatMap_cons, List.append_assoc, unescape?_escape] at hread
    cases t with
    | nil => exact nomatch hread
    | cons d t =>
      rw [List.flatMap_cons, List.append_assoc, unescape?_escape] at hread
      obtain ⟨rfl, hrest⟩ := Prod.mk.inj (Option.some.inj hread)
      obtain ⟨rfl, hxy⟩ := ih hrest
      exact ⟨rfl, hxy⟩

/-- **Quoting hides nothing.** Two quoted texts with something after them are the same only
if the texts are and what stands after them is. -/
theorem quote_append_inj {s t x y : String} :
    quote s ++ x = quote t ++ y ↔ s = t ∧ x = y := by
  refine ⟨fun h => ?_, fun h => by rw [h.1, h.2]⟩
  have hchars : ∀ s x : String, (quote s ++ x).toList =
      '"' :: (s.toList.flatMap escape ++ '"' :: x.toList) := by
    intro s x
    rw [quote, String.toList_append, String.toList_ofList]
    simp
  rw [← String.toList_inj, hchars, hchars] at h
  obtain ⟨hst, hxy⟩ := flatMap_escape_append_inj (List.cons.inj h).2
  exact ⟨String.toList_inj.mp hst, String.toList_inj.mp hxy⟩

-- An imitation of what comes next is still part of the text.
example : quote "a\", port: 1" ++ ", port: 2" ≠ quote "a" ++ ", port: 1\", port: 2" := by
  decide +kernel

end Text

end SqlProbe
