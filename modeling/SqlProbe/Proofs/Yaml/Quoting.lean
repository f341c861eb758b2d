import SqlProbe.Proofs.Attempts
import SqlProbe.Proofs.Numeral.Writing
import SqlProbe.Yaml.Scalar.Quoted

/-!
# Writing texts between double quotes

Any text at all can be written between double quotes, on one line and in printable ASCII
characters: with a numeric escape for every character that is not one of these or means
something else there (`Quoted.write`). It is read back as it was
(`Quoted.scanDouble_write`).
-/

namespace SqlProbe

namespace Yaml

namespace Quoted

variable {c : Char} {s rest : List Char} {r : Scanned}

/-- Whether a character is written as it is. -/
def isDirect (c : Char) : Bool :=
  decide (0x20 < c.toNat) && decide (c.toNat < 0x7F) && c != '"' && c != '\\'

/-- A character between double quotes. -/
def writeChar (c : Char) : List Char :=
  if isDirect c then [c] else '\\' :: 'U' :: Digit.hexOf 8 c.toNat

/-- A text between double quotes, with the closing one. -/
def write (s : List Char) : List Char := s.flatMap writeChar ++ ['"']

/-- What is written is printable. -/
theorem printable_of_mem_write (hc : c ∈ write s) : 0x20 < c.toNat ∧ c.toNat < 0x7F := by
  rw [write, List.mem_append, List.mem_flatMap, List.mem_singleton] at hc
  obtain ⟨d, -, hc⟩ | rfl := hc
  · rw [writeChar] at hc
    split at hc
    · next hd =>
      rw [List.mem_singleton] at hc
      subst hc
      simp only [isDirect, Bool.and_eq_true, decide_eq_true_eq] at hd
      exact hd.1.1
    · simp only [List.mem_cons] at hc
      obtain rfl | rfl | hc := hc
      · decide
      · decide
      · exact (Digit.isHex_of_mem_hexOf hc).2
  · decide

/-- The number of a character is read as the character. -/
theorem numbered_hexOf (c : Char) : numbered (Digit.hexOf 8 c.toNat) = .ok c := by
  -- A number is refused that belongs to no character, and this one does.
  have hvalid : c.toNat < 0xD800 ∨ 0xDFFF < c.toNat ∧ c.toNat ≤ 0x10FFFF := by
    obtain h | ⟨hlow, hhigh⟩ := c.valid
    · exact .inl h
    · exact .inr ⟨hlow, Nat.lt_succ_iff.mp hhigh⟩
  have hlt : c.toNat < 16 ^ 8 := by omega
  have hall : (Digit.hexOf 8 c.toNat).all Digit.isHex = true :=
    List.all_eq_true.mpr fun d hd => (Digit.isHex_of_mem_hexOf hd).1
  simp only [numbered, Digit.natOf_hexOf hlt, hall]
  simp [hvalid]

/-- A character that is no closing quote adds the text of its step. -/
theorem scanDoubleFrom_cons {state next : State} {added : List Char}
    (hquote : ∀ gap lineStart, state = .text gap lineStart → c ≠ '"')
    (hstep : step state (c :: rest) c = .ok (next, added)) (hr : scanDoubleFrom next rest = .ok r) :
    scanDoubleFrom state (c :: rest) = .ok { r with text := added ++ r.text } := by
  rw [scanDoubleFrom]
  · simp only [hstep, ok_bind, hr]
  · exact hquote

/-- The digits of an escape are read up to the last one. -/
theorem scanDoubleFrom_digits {done ds : List Char} (hds : ds ≠ [])
    (hhex : ∀ d ∈ ds, Digit.isHex d = true) (hnumber : numbered (done ++ ds) = .ok c)
    (hr : scanDoubleFrom (.text .none false) rest = .ok r) :
    scanDoubleFrom (.digits done ds.length) (ds ++ rest) = .ok { r with text := c :: r.text } := by
  -- By induction on the digits that are still to come, with those that have been read left
  -- general. Only the last of them adds anything to the text.
  induction ds generalizing done with
  | nil => exact absurd rfl hds
  | cons d ds ih =>
    obtain ⟨hd, hhex⟩ := List.forall_mem_cons.mp hhex
    cases ds with
    | nil =>
      have hstep : step (.digits done 1) (d :: rest) d = .ok (.text .none false, [c]) := by
        simp [step, hnumber, Except.map]
      exact scanDoubleFrom_cons (by rintro _ _ ⟨⟩) hstep hr
    | cons d' ds =>
      have hnumber' : numbered ((done ++ [d]) ++ (d' :: ds)) = .ok c := by
        rwa [List.append_assoc]
      have hstep : step (.digits done (d :: d' :: ds).length) (d :: (d' :: ds ++ rest)) d =
          .ok (.digits (done ++ [d]) (d' :: ds).length, []) := by
        simp [step, hd]
      exact scanDoubleFrom_cons (by rintro _ _ ⟨⟩) hstep
        (ih (List.cons_ne_nil _ _) hhex hnumber')

/-- **One character** is read back. -/
theorem scanDoubleFrom_writeChar (c : Char) (hr : scanDoubleFrom (.text .none false) rest = .ok r) :
    scanDoubleFrom (.text .none false) (writeChar c ++ rest) =
      .ok { r with text := c :: r.text } := by
  rw [writeChar]
  split
  · -- It stands for itself.
    next hc =>
    simp only [isDirect, Bool.and_eq_true, decide_eq_true_eq, bne_iff_ne] at hc
    obtain ⟨⟨⟨hlow, hhigh⟩, hquote⟩, hescape⟩ := hc
    have hne : ∀ d : Char, d.toNat ≤ 0x20 ∨ 0x7F ≤ d.toNat → c ≠ d := by
      rintro d hd rfl
      omega
    have hblank : isBlank c = false := by
      simp [isBlank, hne ' ' (by decide), hne '\t' (by decide)]
    have hbreak : isBreak c = false := by
      simp [isBreak, hne '\n' (by decide), hne '\u2028' (by decide), hne '\u2029' (by decide)]
    have hstep : step (.text .none false) (c :: rest) c = .ok (.text .none false, [c]) := by
      simp [step, hblank, hbreak, isCutOff, hescape, Gap.fold]
    exact scanDoubleFrom_cons (fun _ _ _ => hquote) hstep hr
  · -- It is escaped: a backslash, a letter that tells the count of digits, the digits.
    have hescape : step (.text .none false) ('\\' :: 'U' :: (Digit.hexOf 8 c.toNat ++ rest)) '\\' =
        .ok (.escape, []) := rfl
    have hcount : step .escape ('U' :: (Digit.hexOf 8 c.toNat ++ rest)) 'U' =
        .ok (.digits [] (Digit.hexOf 8 c.toNat).length, []) := by
      rw [Digit.length_hexOf]
      rfl
    have hdigits : scanDoubleFrom (.digits [] (Digit.hexOf 8 c.toNat).length)
        (Digit.hexOf 8 c.toNat ++ rest) = .ok { r with text := c :: r.text } :=
      scanDoubleFrom_digits (by simp [← List.length_eq_zero_iff])
        (fun d hd => (Digit.isHex_of_mem_hexOf hd).1) (numbered_hexOf c) hr
    exact scanDoubleFrom_cons (fun _ _ _ => by decide) hescape
      (scanDoubleFrom_cons (by rintro _ _ ⟨⟩) hcount hdigits)

/-- **A text** is read back, up to its closing quote. -/
theorem scanDouble_write (s rest : List Char) :
    scanDouble (write s ++ rest) = .ok ⟨s, rest⟩ := by
  induction s with
  | nil => rfl
  | cons c s ih =>
    have hwrite : write (c :: s) ++ rest = writeChar c ++ (write s ++ rest) := by
      simp [write]
    rw [hwrite]
    exact scanDoubleFrom_writeChar c ih

end Quoted

end Yaml

end SqlProbe
