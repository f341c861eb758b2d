import SqlProbe.Proofs.Yaml.Quoting
import SqlProbe.Yaml.Reading

/-!
# Mappings written line by line

The plainest way to write a mapping of scalars is to give each entry a line of its own:
the key, a colon, and the value, bare if it is a word and between double quotes otherwise
(`Line`). Such lines make up a document, and this is the mapping of their entries
(`parse_lines`). One line does so without its end, too (`parse_unended`).
-/

namespace SqlProbe

namespace Yaml

/-! ### Words -/

/-- Whether a word may start with a character. -/
def isWordStart (c : Char) : Bool := isName c || c == ':'

/-- Whether a text is a word: letters, digits, hyphens and underscores, with perhaps a
colon in front, and not just a hyphen or a colon. -/
def isWord : List Char → Bool
  | [] => false
  | c :: rest => isWordStart c && rest.all isName && (!rest.isEmpty || c != '-' && c != ':')

variable {c d : Char} {s w names rest : List Char}

theorem ne_of_isWordStart (hc : isWordStart c = true) (hd : isWordStart d = false) : c ≠ d := by
  rintro rfl
  exact absurd hc (by simp [hd])

theorem isWordStart_of_isName (hc : isName c = true) : isWordStart c = true := by
  rw [isWordStart, hc, Bool.true_or]

theorem not_isSeparator (hc : isWordStart c = true) : isBlank c = false ∧ isBreak c = false := by
  have hne := fun d => ne_of_isWordStart (d := d) hc
  constructor
  · simp [isBlank, hne ' ' (by decide), hne '\t' (by decide)]
  · simp [isBreak, hne '\n' (by decide), hne '\u2028' (by decide), hne '\u2029' (by decide)]

theorem printable_of_isWordStart (hc : isWordStart c = true) :
    0x20 < c.toNat ∧ c.toNat < 0x7F := by
  -- Letters and digits are told by their numbers.
  change (((decide (c.val ≥ 'A'.val ∧ c.val ≤ 'Z'.val) || c.val ≥ 'a'.val && c.val ≤ 'z'.val) ||
    c.val ≥ '0'.val && c.val ≤ '9'.val) || c == '-' || c == '_' || c == ':') = true at hc
  simp only [Bool.or_eq_true, Bool.and_eq_true, decide_eq_true_eq, beq_iff_eq,
    UInt32.le_iff_toNat_le, ge_iff_le, Char.toNat_val, Char.reduceToNat] at hc
  obtain ((h | rfl) | rfl) | rfl := hc
  · omega
  · decide
  · decide
  · decide

theorem startsSeparated_eq_false (hc : isWordStart c = true) :
    startsSeparated (c :: rest) = false := by
  obtain ⟨hblank, hbreak⟩ := not_isSeparator hc
  rw [startsSeparated, isSeparator, hblank, hbreak]
  rfl

/-- A word is a character and then names, some of them if the character is a mark by
itself. -/
theorem of_isWord_cons (hw : isWord (c :: names) = true) :
    isWordStart c = true ∧ (∀ d ∈ names, isName d = true) ∧ (c = '-' ∨ c = ':' → names ≠ []) := by
  simp only [isWord, Bool.and_eq_true, Bool.or_eq_true, List.all_eq_true] at hw
  obtain ⟨⟨hc, hnames⟩, hmark⟩ := hw
  refine ⟨hc, hnames, ?_⟩
  rintro (rfl | rfl) rfl <;> simp at hmark

theorem exists_of_isWord (hw : isWord w = true) :
    ∃ c names, w = c :: names ∧ isWordStart c = true ∧ ∀ d ∈ names, isName d = true := by
  cases w with
  | nil => cases hw
  | cons c names =>
    obtain ⟨hc, hnames, -⟩ := of_isWord_cons hw
    exact ⟨c, names, rfl, hc, hnames⟩

/-- What follows a mark in a word goes on with the word. -/
theorem startsSeparated_of_isWord (hw : isWord (c :: names) = true)
    (hmark : c = '-' ∨ c = ':') : startsSeparated (names ++ rest) = false := by
  obtain ⟨-, hnames, hlone⟩ := of_isWord_cons hw
  cases names with
  | nil => exact absurd rfl (hlone hmark)
  | cons d names =>
    exact startsSeparated_eq_false (isWordStart_of_isName (hnames d List.mem_cons_self))

/-! ### Positions -/

namespace Position

/-- A place further on the same line. -/
theorem after_line (p : Position) (hs : ∀ c ∈ s, isBreak c = false) :
    (p.after s).line = p.line ∧ (p.after s).column = p.column + s.length ∧
      (p.after s).index ≤ p.index + 4 * s.length := by
  induction s generalizing p with
  | nil => exact ⟨rfl, rfl, Nat.le_refl _⟩
  | cons c s ih =>
    obtain ⟨hc, hs⟩ := List.forall_mem_cons.mp hs
    have hnext : p.next c = ⟨p.index + c.utf8Size, p.line, p.column + 1⟩ := by
      simp [next, hc]
    obtain ⟨hline, hcolumn, hindex⟩ := ih ⟨p.index + c.utf8Size, p.line, p.column + 1⟩ hs
    have hsize := c.utf8Size_le_four
    have hafter : p.after (c :: s) = (p.next c).after s := rfl
    rw [hafter, hnext, hline, hcolumn, List.length_cons]
    exact ⟨rfl, by simp only; omega, by simp only at hindex; omega⟩

end Position

/-! ### Plain scalars -/

namespace Plain

variable {u : Surroundings} {column : Nat} {r : Scanned}

/-- One more character of a plain scalar. -/
theorem scanFrom_cons (hflow : u.inFlow = false) (hc : isWordStart c = true)
    (hcolon : c = ':' → startsSeparated rest = false)
    (hr : scanFrom u .none (column + 1) rest = .ok r) :
    scanFrom u .none column (c :: rest) = .ok { r with text := c :: r.text } := by
  obtain ⟨hblank, hbreak⟩ := not_isSeparator hc
  have hbad : startsBadColon u (c :: rest) = false := by
    unfold startsBadColon
    split <;> simp [hflow]
  -- A colon ends the scalar only in front of a separator, outside of a flow collection.
  have hends : endsBefore u (c :: rest) = false := by
    simp only [endsBefore, hflow, Bool.false_and, Bool.or_false, Bool.and_eq_false_iff,
      beq_eq_false_iff_ne]
    by_cases h : c = ':'
    · exact .inr (hcolon h)
    · exact .inl h
  rw [scanFrom]
  simp [hblank, hbreak, endsAfterGap, hbad, hends, Gap.fold, hr, Except.map]

theorem scanFrom_names (hflow : u.inFlow = false) (hs : ∀ c ∈ s, isName c = true)
    (hr : scanFrom u .none (column + s.length) rest = .ok r) :
    scanFrom u .none column (s ++ rest) = .ok { r with text := s ++ r.text } := by
  induction s generalizing column with
  | nil => exact hr
  | cons c s ih =>
    obtain ⟨hc, hs⟩ := List.forall_mem_cons.mp hs
    have hcolon : c = ':' → startsSeparated (s ++ rest) = false := by
      rintro rfl
      exact absurd hc (by decide)
    rw [List.length_cons, ← Nat.add_assoc, Nat.add_right_comm] at hr
    exact scanFrom_cons hflow (isWordStart_of_isName hc) hcolon (ih hs hr)

/-- **A word** is read as far as it goes. -/
theorem scan_word (hflow : u.inFlow = false) (hw : isWord w = true)
    (hr : scanFrom u .none (column + w.length) rest = .ok r) :
    scan u column (w ++ rest) = .ok { r with text := w ++ r.text } := by
  obtain ⟨c, names, rfl, hc, hnames⟩ := exists_of_isWord hw
  have hcolon : c = ':' → startsSeparated (names ++ rest) = false :=
    fun h => startsSeparated_of_isWord hw (.inr h)
  rw [List.length_cons, ← Nat.add_assoc, Nat.add_right_comm] at hr
  exact scanFrom_cons hflow hc hcolon (scanFrom_names hflow hnames hr)

/-- The colon after a key ends it. -/
theorem scanFrom_colon (u : Surroundings) (column : Nat) (rest : List Char)
    (hflow : u.inFlow = false) :
    scanFrom u .none column (':' :: ' ' :: rest) = .ok ⟨[], ':' :: ' ' :: rest, false⟩ := by
  have hbad : startsBadColon u (':' :: ' ' :: rest) = false := by
    simp [startsBadColon, hflow]
  have hends : endsBefore u (':' :: ' ' :: rest) = true := rfl
  have hblank : isBlank ':' = false := rfl
  have hbreak : isBreak ':' = false := rfl
  rw [scanFrom]
  simp [hblank, hbreak, endsAfterGap, hbad, hends, Gap.isBroken]

/-- The end of the line ends a value, since the next line is not indented. -/
theorem scanFrom_break (hflow : u.inFlow = false) (hindent : 0 < u.indent)
    (hrest : ∀ c ∈ rest.head?, isWordStart c = true) :
    scanFrom u .none column ('\n' :: rest) = .ok ⟨[], rest, true⟩ := by
  have hblank : isBlank '\n' = false := rfl
  have hbreak : isBreak '\n' = true := rfl
  rw [scanFrom, hblank, hbreak]
  simp only [Bool.false_eq_true, if_false, if_true]
  cases rest with
  | nil => rfl
  | cons c rest =>
    -- The next line starts in the first column, and there the scalar would be indented.
    obtain ⟨hblank, hbreak⟩ := not_isSeparator (hrest c rfl)
    have hends : endsAfterGap u (Gap.none.addBreak '\n') 0 (c :: rest) = true := by
      simp [Gap.addBreak, endsAfterGap, hflow, hindent]
    rw [scanFrom]
    simp only [hblank, hbreak, hends, Bool.false_eq_true, if_false, if_true]
    rfl

end Plain

/-! ### Between two tokens -/

namespace Lexer

variable {l l' : Lexer} {p : Position} {tokens : List Token} {opened : Bool} {fuel : Nat}

/-- Moving on past some text. -/
theorem moveTo_eq (h : l.rest = s ++ rest) :
    l.moveTo rest = { l with rest := rest, position := l.position.after s } := by
  rw [moveTo, h, List.length_append, Nat.add_sub_cancel, List.take_left]

/-- One round of the lexer. -/
theorem run_succ (hsettle : l.settle = .ok l') (hrest : l'.rest = c :: rest)
    {next : Lexer} (hdispatch : l'.dispatch c rest = .ok next) :
    run (fuel + 1) l = run fuel next := by
  have hround : l.round = .ok (.inr next) := by
    rw [round, hsettle]
    simp only [ok_bind, hrest, hdispatch]
    rfl
  rw [run, hround]

/-- The last round, which leaves the collections. -/
theorem run_last (hsettle : l.settle = .ok l') (hrest : l'.rest = []) {last : Lexer}
    (hleave : l'.leaveBlocks = .ok last) : run (fuel + 1) l = .ok last.tokens.reverse := by
  have hround : l.round = .ok (.inl last.tokens.reverse) := by
    rw [round, hsettle]
    simp only [ok_bind, hrest, hleave]
    rfl
  rw [run, hround]

/-- The next token, where no comment is on the way. -/
theorem approach_eq {keyAllowed : Bool}
    (h : toNextToken l.inFlow l.keyAllowed (l.column == 0) l.rest = (rest, keyAllowed))
    (hcomment : rest.head? ≠ some '#') (hrest : l.rest = s ++ rest) :
    l.approach = { l with
      rest := rest, position := l.position.after s, keyAllowed := keyAllowed } := by
  have hpast : toNextTokenPast l.inFlow (l.rest.length + 1) l.keyAllowed (l.column == 0) l.rest =
      (rest, keyAllowed) := by
    rw [toNextTokenPast, h]
    simp only
    split
    · exact absurd rfl hcomment
    · rfl
  simp only [approach, hpast, moveTo_eq hrest]

/-- What is not indented less than the innermost collection ends none. -/
theorem unroll_eq {column : Int} (h : ¬ column < l.indent) : l.unroll column = l := by
  have hfrom : unrollFrom column l.indent l.outerIndents = (0, l.indent, l.outerIndents) := by
    cases l.outerIndents with
    | nil => rfl
    | cons outer rest => rw [unrollFrom, if_neg h]
  rw [unroll]
  split
  · rfl
  · rw [hfrom]
    rfl

/-- A candidate that is not too far back is kept. -/
theorem dropStale_eq (houter : l.outerCandidates = [])
    (hcandidate : ∀ c ∈ l.candidate, isStale l.position c = false) : l.dropStale = .ok l := by
  obtain ⟨rest, position, tokens, indent, outerIndents, keyAllowed, candidate, outer⟩ := l
  obtain rfl : outer = [] := houter
  cases candidate with
  | none => rfl
  | some c =>
    have hc : isStale position c = false := hcandidate c rfl
    simp [dropStale, hc]

theorem settle_eq (happroach : l.approach = l') (houter : l'.outerCandidates = [])
    (hcandidate : ∀ c ∈ l'.candidate, isStale l'.position c = false)
    (hindent : ¬ (l'.column : Int) < l'.indent) : l.settle = .ok l' := by
  rw [settle, happroach, dropStale_eq houter hcandidate, Except.map, unroll_eq hindent]

/-- A line begins: outside of a mapping, or where its next key can stand. -/
def lineStart (rest : List Char) (p : Position) (tokens : List Token) (opened : Bool) : Lexer where
  rest := rest
  position := p
  tokens := tokens
  indent := if opened then 0 else -1
  outerIndents := if opened then [-1] else []
  keyAllowed := true
  candidate := none
  outerCandidates := []

/-- A key has been read. -/
def afterKey (key rest : List Char) (p : Position) (tokens : List Token) (opened : Bool) :
    Lexer :=
  { lineStart rest p tokens opened with
    position := p.after key
    tokens := .scalar .plain key :: tokens
    keyAllowed := false
    candidate := some ⟨opened, tokens.length, p⟩ }

/-- The colon after a key has been read, or more of the line. -/
def inLine (rest : List Char) (p : Position) (tokens : List Token) : Lexer :=
  { lineStart rest p tokens true with keyAllowed := false }

theorem toNextToken_word {inFlow keyAllowed lineStart : Bool}
    (hrest : ∀ c ∈ rest.head?, isWordStart c = true ∨ c = '"') :
    toNextToken inFlow keyAllowed lineStart rest = (rest, keyAllowed) := by
  cases rest with
  | nil => rfl
  | cons c rest =>
    have hne : ∀ d, isWordStart d = false → d ≠ '"' → c ≠ d := by
      intro d hd hquote
      obtain hc | rfl := hrest c rfl
      · exact ne_of_isWordStart hc hd
      · exact hquote.symm
    have hbreak : isBreak c = false := by
      simp [isBreak, hne '\n' (by decide) (by decide), hne '\u2028' (by decide) (by decide),
        hne '\u2029' (by decide) (by decide)]
    simp [toNextToken, hne ' ' (by decide) (by decide), hne '\t' (by decide) (by decide),
      hne byteOrderMark (by decide) (by decide), hbreak]

theorem start_eq (s : List Char) : start s = lineStart s .start [] false := rfl

theorem indent_lineStart_le (rest : List Char) (p : Position) (tokens : List Token)
    (opened : Bool) : (lineStart rest p tokens opened).indent ≤ 0 := by
  cases opened
  · exact (by decide : (-1 : Int) ≤ 0)
  · exact Int.le_refl 0

theorem settle_lineStart (hrest : ∀ c ∈ rest.head?, isWordStart c = true) :
    (lineStart rest p tokens opened).settle = .ok (lineStart rest p tokens opened) := by
  refine settle_eq (approach_eq (s := []) (toNextToken_word fun c hc => .inl (hrest c hc)) ?_ rfl)
    rfl (fun _ h => nomatch h) ?_
  · intro h
    exact absurd (hrest '#' h) (by decide)
  · exact Int.not_lt.mpr (Int.le_trans (indent_lineStart_le ..) (Int.natCast_nonneg _))

theorem settle_afterKey {key : List Char} (hkey : ∀ c ∈ key, isBreak c = false)
    (hlength : 4 * key.length ≤ 1024) :
    (afterKey key (':' :: rest) p tokens opened).settle =
      .ok (afterKey key (':' :: rest) p tokens opened) := by
  obtain ⟨hline, -, hindex⟩ := p.after_line hkey
  -- The candidate is on the same line, and a character takes four bytes at most.
  refine settle_eq (approach_eq (s := []) (toNextToken_word ?_) ?_ rfl) rfl ?_ ?_
  · rintro c hc
    obtain rfl : ':' = c := Option.some.inj hc
    exact .inl rfl
  · intro h
    exact absurd (Option.some.inj h) (by decide)
  · rintro c hc
    obtain rfl : _ = c := Option.some.inj hc
    have hposition : (afterKey key (':' :: rest) p tokens opened).position = p.after key := rfl
    simp only [isStale, hposition, hline, Bool.or_eq_false_iff, decide_eq_false_iff_not]
    omega
  · exact Int.not_lt.mpr
      (Int.le_trans (indent_lineStart_le rest p tokens opened) (Int.natCast_nonneg _))

theorem settle_afterColon (hc : isWordStart c = true ∨ c = '"') :
    (inLine (' ' :: c :: rest) p tokens).settle =
      .ok (inLine (c :: rest) (p.next ' ') tokens) := by
  have hnext : toNextToken false false (p.column == 0) (' ' :: c :: rest) = (c :: rest, false) := by
    rw [toNextToken]
    simp only [beq_self_eq_true, Bool.true_or, if_true]
    exact toNextToken_word fun d hd => Option.some.inj hd ▸ hc
  refine settle_eq (approach_eq (s := [' ']) hnext ?_ rfl) rfl (fun _ h => nomatch h) ?_
  · intro h
    obtain rfl : c = '#' := Option.some.inj h
    exact absurd hc (by decide)
  · exact Int.not_lt.mpr (Int.natCast_nonneg _)

theorem settle_afterValue (hrest : ∀ c ∈ rest.head?, isWordStart c = true) :
    (inLine ('\n' :: rest) p tokens).settle =
      .ok (lineStart rest (p.next '\n') tokens true) := by
  have hnext : toNextToken false false (p.column == 0) ('\n' :: rest) = (rest, true) := by
    rw [toNextToken]
    have hbom : ('\n' == byteOrderMark) = false := by decide
    simp only [hbom, Bool.and_false, Bool.false_eq_true, if_false]
    exact toNextToken_word fun d hd => .inl (hrest d hd)
  refine settle_eq (approach_eq (s := ['\n']) hnext ?_ rfl) rfl (fun _ h => nomatch h) ?_
  · intro h
    exact absurd (hrest '#' h) (by decide)
  · exact Int.not_lt.mpr (Int.natCast_nonneg _)

/-! ### The tokens of a line -/

theorem startsPlain_of_isWordStart (hc : isWordStart c = true)
    (hmark : c = '-' ∨ c = ':' → startsSeparated rest = false) :
    startsPlain false c rest = true := by
  by_cases hhyphen : c = '-'
  · have hrest := hmark (.inl hhyphen)
    subst hhyphen
    cases rest with
    | nil => cases hrest
    | cons d rest =>
      simp only [startsSeparated, isSeparator, Bool.or_eq_false_iff] at hrest
      simp [startsPlain, hrest.1]
  · by_cases hcolon : c = ':'
    · have hrest := hmark (.inr hcolon)
      subst hcolon
      simp [startsPlain, hrest]
    · obtain ⟨hblank, hbreak⟩ := not_isSeparator hc
      have hne := fun d => ne_of_isWordStart (d := d) hc
      have hmarks : c ∉ [',', '[', ']', '\x7b', '\x7d', '#', '&', '*', '!', '|', '>', '\'', '"',
          '%', '@', '\x60'] := by
        intro hmem
        have hall : [',', '[', ']', '\x7b', '\x7d', '#', '&', '*', '!', '|', '>', '\'', '"',
            '%', '@', '\x60'].all (fun d => !isWordStart d) = true := by decide
        have hword := List.all_eq_true.mp hall c hmem
        rw [hc] at hword
        cases hword
      simpa [startsPlain, isSeparator, hblank, hbreak, hcolon, hhyphen, hne '?' (by decide)]
        using hmarks

/-- A word is read as a plain scalar. -/
theorem dispatch_word (hflow : l.inFlow = false)
    (hw : isWord (c :: names) = true)
    (hdocument : l.column = 0 → startsDocumentMark (c :: names ++ rest) = false) :
    l.dispatch c (names ++ rest) = l.fetchPlain := by
  obtain ⟨hc, -, -⟩ := of_isWord_cons hw
  have hmark : c = '-' ∨ c = ':' → startsSeparated (names ++ rest) = false :=
    startsSeparated_of_isWord hw
  have hne := fun d => ne_of_isWordStart (d := d) hc
  have hplain := startsPlain_of_isWordStart hc hmark
  have hhyphen : ¬ (c = '-' ∧ startsSeparated (names ++ rest) = true) :=
    fun h => absurd h.2 (by simp [hmark (.inl h.1)])
  have hcolon : ¬ (c = ':' ∧ startsSeparated (names ++ rest) = true) :=
    fun h => absurd h.2 (by simp [hmark (.inr h.1)])
  have hdocument : ¬ (l.column = 0 ∧ startsDocumentMark (c :: (names ++ rest)) = true) := by
    rintro ⟨hcolumn, hmark⟩
    cases hmark.symm.trans (hdocument hcolumn)
  simp [dispatch, hflow, hdocument, hhyphen, hcolon, hplain, hne '%' (by decide),
    hne '[' (by decide), hne '\x7b' (by decide), hne ']' (by decide), hne '\x7d' (by decide),
    hne ',' (by decide), hne '?' (by decide), hne '*' (by decide), hne '&' (by decide),
    hne '!' (by decide), hne '|' (by decide), hne '>' (by decide), hne '\'' (by decide),
    hne '"' (by decide)]

/-- A plain scalar, given what it is read as. -/
theorem fetchPlain_eq {r : Plain.Scanned} (hsave : l.saveCandidate = .ok l')
    (hscan : Plain.scan ⟨l'.inFlow, l'.indent + 1⟩ l'.column l'.rest = .ok r)
    (hrest : l'.rest = s ++ r.rest) :
    l.fetchPlain = .ok { l' with
      rest := r.rest, position := l'.position.after s
      tokens := .scalar .plain r.text :: l'.tokens, keyAllowed := r.broken } := by
  have hmove := moveTo_eq (l := l'.emit (.scalar .plain r.text)) hrest
  rw [fetchPlain, hsave]
  simp only [ok_bind, hscan, hmove]
  rfl

theorem startsDocumentMark_eq_false (hhyphen : c ≠ '-') (hdot : c ≠ '.') :
    startsDocumentMark (c :: rest) = false := by
  unfold startsDocumentMark
  split
  · next h => exact absurd (List.cons.inj h).1 hhyphen
  · next h => exact absurd (List.cons.inj h).1 hdot
  · rfl

/-- **The key.** The place in front of it is remembered. -/
theorem dispatch_key {key : List Char} (hkey : isWord (c :: key) = true) (hhyphen : c ≠ '-')
    (hp : p.column = 0) :
    (lineStart (c :: key ++ ':' :: ' ' :: rest) p tokens opened).dispatch c
        (key ++ ':' :: ' ' :: rest) =
      .ok (afterKey (c :: key) (':' :: ' ' :: rest) p tokens opened) := by
  obtain ⟨hc, -, -⟩ := of_isWord_cons hkey
  have hdocument : startsDocumentMark (c :: key ++ ':' :: ' ' :: rest) = false :=
    startsDocumentMark_eq_false hhyphen (ne_of_isWordStart hc (by decide))
  have hsave : (lineStart (c :: key ++ ':' :: ' ' :: rest) p tokens opened).saveCandidate =
      .ok { lineStart (c :: key ++ ':' :: ' ' :: rest) p tokens opened with
        candidate := some ⟨opened, tokens.length, p⟩ } := by
    cases opened <;> simp [saveCandidate, lineStart, dropCandidate, inFlow, column, hp, Except.map]
  have hscan : Plain.scan ⟨false, (lineStart rest p tokens opened).indent + 1⟩ p.column
      (c :: key ++ ':' :: ' ' :: rest) = .ok ⟨c :: key, ':' :: ' ' :: rest, false⟩ := by
    rw [Plain.scan_word rfl hkey (Plain.scanFrom_colon _ _ _ rfl), List.append_nil]
  rw [dispatch_word rfl hkey fun _ => hdocument, fetchPlain_eq hsave hscan rfl]
  rfl

/-- Tokens put in behind all but the last one. -/
theorem insertAt_eq {t : Token} (ts : List Token) (h : l.tokens = t :: tokens) :
    l.insertAt tokens.length ts = { l with tokens := t :: (ts ++ tokens) } := by
  have hlast : (t :: tokens).length - tokens.length = 1 := by simp
  rw [insertAt, h, hlast]
  rfl

/-- **The colon.** The mapping begins here if it has not yet. -/
theorem dispatch_colon {key : List Char} (hp : p.column = 0) :
    (afterKey key (':' :: ' ' :: rest) p tokens opened).dispatch ':' (' ' :: rest) =
      .ok (inLine (' ' :: rest) ((p.after key).next ':')
        (.value :: .scalar .plain key :: .key ::
          if opened then tokens else .blockMappingStart :: tokens)) := by
  have hdispatch : (afterKey key (':' :: ' ' :: rest) p tokens opened).dispatch ':' (' ' :: rest) =
      (afterKey key (':' :: ' ' :: rest) p tokens opened).beginValue := by
    simp [dispatch, startsDocumentMark, inFlow, afterKey, lineStart, startsSeparated, isSeparator,
      isBlank]
  -- Where the candidate stands, a key goes in front of the scalar, and the start of the
  -- mapping in front of both.
  have hroll : (afterKey key (':' :: ' ' :: rest) p tokens opened).roll p.column tokens.length
      .blockMappingStart [.key] =
      { inLine (':' :: ' ' :: rest) (p.after key)
          (.scalar .plain key :: .key ::
            if opened then tokens else .blockMappingStart :: tokens) with
        candidate := some ⟨opened, tokens.length, p⟩ } := by
    rw [roll, insertAt_eq _ rfl, insertAt_eq _ rfl, hp]
    cases opened <;> rfl
  have hbegin : (afterKey key (':' :: ' ' :: rest) p tokens opened).candidate =
      some ⟨opened, tokens.length, p⟩ := rfl
  rw [hdispatch, beginValue, hbegin]
  simp only [hroll, skip]
  rw [moveTo_eq (s := [':']) rfl]
  rfl

/-- **A value between double quotes.** -/
theorem dispatch_quoted (text rest : List Char) (p : Position) (tokens : List Token) :
    (inLine ('"' :: Quoted.write text ++ rest) p tokens).dispatch '"' (Quoted.write text ++ rest) =
      .ok (inLine rest (p.after ('"' :: Quoted.write text))
        (.scalar .doubleQuoted text :: tokens)) := by
  have hdispatch : (inLine ('"' :: Quoted.write text ++ rest) p tokens).dispatch '"'
      (Quoted.write text ++ rest) =
      (inLine ('"' :: Quoted.write text ++ rest) p tokens).fetchContent readDouble := by
    simp [dispatch, startsDocumentMark, inFlow, inLine, lineStart]
  have hread : readDouble ('"' :: Quoted.write text ++ rest) =
      .ok (.scalar .doubleQuoted text, rest) := by
    rw [readDouble, List.cons_append, List.drop_one, List.tail_cons, Quoted.scanDouble_write]
    rfl
  have hmove := moveTo_eq (s := '"' :: Quoted.write text)
    (l := (inLine ('"' :: Quoted.write text ++ rest) p tokens).emit
      (.scalar .doubleQuoted text)) rfl
  have hsave : (inLine ('"' :: Quoted.write text ++ rest) p tokens).saveCandidate =
      .ok (inLine ('"' :: Quoted.write text ++ rest) p tokens) := rfl
  rw [hdispatch, fetchContent, hsave]
  simp only [ok_bind]
  have hrest : (inLine ('"' :: Quoted.write text ++ rest) p tokens).rest =
    '"' :: Quoted.write text ++ rest := rfl
  rw [hrest, hread]
  simp only [ok_bind, hmove]
  rfl

/-- **A bare value.** Its line ends with it. -/
theorem dispatch_bare (hw : isWord (c :: names) = true) (hp : p.column ≠ 0)
    (hrest : ∀ c ∈ rest.head?, isWordStart c = true) :
    (inLine (c :: names ++ '\n' :: rest) p tokens).dispatch c (names ++ '\n' :: rest) =
      .ok (lineStart rest (p.after (c :: names ++ ['\n']))
        (.scalar .plain (c :: names) :: tokens) true) := by
  have hsave : (inLine (c :: names ++ '\n' :: rest) p tokens).saveCandidate =
      .ok (inLine (c :: names ++ '\n' :: rest) p tokens) := rfl
  have hscan : Plain.scan ⟨false, 1⟩ p.column (c :: names ++ '\n' :: rest) =
      .ok ⟨c :: names, rest, true⟩ := by
    rw [Plain.scan_word rfl hw (Plain.scanFrom_break rfl (by decide) hrest), List.append_nil]
  have hsplit : c :: names ++ '\n' :: rest = (c :: names ++ ['\n']) ++ rest := by simp
  have hdispatch : (inLine (c :: names ++ '\n' :: rest) p tokens).dispatch c
      (names ++ '\n' :: rest) = (inLine (c :: names ++ '\n' :: rest) p tokens).fetchPlain :=
    dispatch_word rfl hw fun h => absurd h hp
  rw [hdispatch, fetchPlain_eq hsave hscan hsplit]
  rfl

end Lexer

/-! ### Lines -/

/-- An entry of a mapping on a line of its own. -/
structure Line where
  /-- The key. -/
  key : List Char
  /-- Whether the value is between double quotes. -/
  quoted : Bool
  /-- The value. -/
  value : List Char

namespace Line

/-- A key that is a word, not too long to be one, and a value that is a word unless it is
between quotes. -/
structure Valid (line : Line) : Prop where
  /-- The key is a word. -/
  key : isWord line.key = true
  /-- It is not taken for a mark of the document. -/
  noHyphen : line.key.head? ≠ some '-'
  /-- It is short enough to be recognized. -/
  short : 4 * line.key.length ≤ 1024
  /-- A bare value is a word. -/
  value : line.quoted = false → isWord line.value = true

/-- The value as it is written. -/
def body (line : Line) : List Char :=
  if line.quoted then '"' :: Quoted.write line.value else line.value

/-- The line as it is written. -/
def text (line : Line) : List Char := line.key ++ ':' :: ' ' :: (line.body ++ ['\n'])

/-- How the value is written. -/
def style (line : Line) : ScalarStyle := if line.quoted then .doubleQuoted else .plain

/-- The tokens of the line. -/
def tokens (line : Line) : List Token :=
  [.key, .scalar .plain line.key, .value, .scalar line.style line.value]

/-- The entry of the line. -/
def entry (line : Line) : Node × Node :=
  (.scalar .none .plain (String.ofList line.key),
    .scalar .none line.style (String.ofList line.value))

end Line

variable {line : Line} {lines : List Line}

/-- A line starts with its key. -/
theorem isWordStart_of_mem_head? (hlines : ∀ line ∈ lines, line.Valid) :
    ∀ c ∈ (lines.flatMap Line.text).head?, isWordStart c = true := by
  cases lines with
  | nil => exact fun _ h => nomatch h
  | cons line lines =>
    obtain ⟨c, names, hkey, hc, -⟩ := exists_of_isWord (hlines line List.mem_cons_self).key
    intro d hd
    rw [List.flatMap_cons, Line.text, hkey] at hd
    exact Option.some.inj hd ▸ hc

namespace Lexer

variable {l : Lexer} {p : Position} {tokens : List Token} {opened : Bool} {fuel : Nat}

/-- A key and its colon. -/
theorem run_key {key : List Char} (hkey : isWord key = true) (hhyphen : key.head? ≠ some '-')
    (hshort : 4 * key.length ≤ 1024) (hp : p.column = 0)
    (hl : l.settle = .ok (lineStart (key ++ ':' :: ' ' :: rest) p tokens opened)) :
    run (fuel + 2) l = run fuel (inLine (' ' :: rest) ((p.after key).next ':')
      (.value :: .scalar .plain key :: .key ::
        if opened then tokens else .blockMappingStart :: tokens)) := by
  obtain ⟨c, names, rfl, hc, hnames⟩ := exists_of_isWord hkey
  have hbreaks : ∀ d ∈ c :: names, isBreak d = false :=
    List.forall_mem_cons.mpr ⟨(not_isSeparator hc).2, fun d hd =>
      (not_isSeparator (isWordStart_of_isName (hnames d hd))).2⟩
  have hhead : c ≠ '-' := fun h => hhyphen (congrArg some h)
  rw [run_succ hl rfl (dispatch_key hkey hhead hp),
    run_succ (settle_afterKey hbreaks hshort) rfl (dispatch_colon hp)]

/-- A value and the end of its line. -/
theorem run_value (hvalue : line.quoted = false → isWord line.value = true)
    (hrest : ∀ c ∈ rest.head?, isWordStart c = true) (fuel : Nat) (p : Position)
    (tokens : List Token) :
    ∃ l' p', p'.column = 0 ∧
      run (fuel + 1) (inLine (' ' :: (line.body ++ '\n' :: rest)) p tokens) = run fuel l' ∧
      l'.settle = .ok (lineStart rest p' (.scalar line.style line.value :: tokens) true) := by
  obtain ⟨key, quoted, value⟩ := line
  cases quoted with
  | true =>
    -- The line break is passed over on the way to the next token.
    refine ⟨inLine ('\n' :: rest) ((p.next ' ').after ('"' :: Quoted.write value)) _, _, rfl, ?_,
      settle_afterValue hrest⟩
    exact run_succ (settle_afterColon (.inr rfl)) rfl (dispatch_quoted value _ _ _)
  | false =>
    -- The line break is read with the scalar, which could go on behind it.
    obtain ⟨c, names, rfl, hc, -⟩ := exists_of_isWord (hvalue rfl)
    refine ⟨lineStart rest ((p.next ' ').after (c :: names ++ ['\n'])) _ true, _, ?_, ?_,
      settle_lineStart hrest⟩
    · rw [Position.after, List.foldl_append]
      rfl
    · exact run_succ (settle_afterColon (.inl hc)) rfl
        (dispatch_bare (hvalue rfl) (Nat.succ_ne_zero _) hrest)

/-- **One line.** Three rounds of the lexer read its tokens, and the next line can be
read from there. -/
theorem run_line (hline : line.Valid) (hrest : ∀ c ∈ rest.head?, isWordStart c = true)
    (hp : p.column = 0)
    (hl : l.settle = .ok (lineStart (line.text ++ rest) p tokens opened)) (fuel : Nat) :
    ∃ l' p', p'.column = 0 ∧ run (fuel + 3) l = run fuel l' ∧
      l'.settle = .ok (lineStart rest p'
        (line.tokens.reverse ++ if opened then tokens else .blockMappingStart :: tokens) true) := by
  have htext : line.text ++ rest = line.key ++ ':' :: ' ' :: (line.body ++ '\n' :: rest) := by
    simp [Line.text]
  rw [htext] at hl
  obtain ⟨l', p', hp', hrun, hsettle⟩ := run_value hline.value hrest fuel
    ((p.after line.key).next ':') (.value :: .scalar .plain line.key :: .key ::
      if opened then tokens else .blockMappingStart :: tokens)
  refine ⟨l', p', hp', ?_, hsettle⟩
  rw [run_key hline.key hline.noHyphen hline.short hp hl, hrun]

/-- **Lines.** They are read one after the other, and the end of the text ends the
mapping. -/
theorem run_lines (hlines : ∀ line ∈ lines, line.Valid) (hp : p.column = 0)
    (hl : l.settle = .ok (lineStart (lines.flatMap Line.text) p tokens true))
    (hfuel : 3 * lines.length + 1 ≤ fuel) :
    run fuel l = .ok (tokens.reverse ++ lines.flatMap Line.tokens ++ [.blockEnd]) := by
  obtain ⟨fuel, rfl⟩ := Nat.exists_eq_add_of_le' hfuel
  clear hfuel
  -- By induction on the lines. What is kept from one to the next is that the lexer stands
  -- in the first column, with the next line in front of it and nothing remembered.
  induction lines generalizing l p tokens with
  | nil =>
    have hleave : (lineStart [] p tokens true).leaveBlocks =
        .ok { lineStart [] p (.blockEnd :: tokens) false with keyAllowed := false } := rfl
    have hfuel : fuel + (3 * ([] : List Line).length + 1) = fuel + 1 := rfl
    rw [hfuel, run_last hl rfl hleave]
    simp [lineStart]
  | cons line lines ih =>
    obtain ⟨hline, hlines⟩ := List.forall_mem_cons.mp hlines
    rw [List.flatMap_cons] at hl
    have hrest := isWordStart_of_mem_head? hlines
    obtain ⟨l', p', hp', hrun, hsettle⟩ :=
      run_line hline hrest hp hl (fuel + (3 * lines.length + 1))
    have hfuel : fuel + (3 * (line :: lines).length + 1) =
        fuel + (3 * lines.length + 1) + 3 := by
      rw [List.length_cons]
      omega
    rw [hfuel, hrun, ih hlines hp' hsettle]
    simp

end Lexer

/-! ### The document of some lines -/

theorem printable_of_isWord (hw : isWord w = true) (hc : c ∈ w) :
    0x20 < c.toNat ∧ c.toNat < 0x7F := by
  obtain ⟨d, names, rfl, hd, hnames⟩ := exists_of_isWord hw
  obtain rfl | hc := List.mem_cons.mp hc
  · exact printable_of_isWordStart hd
  · exact printable_of_isWordStart (isWordStart_of_isName (hnames c hc))

/-- What a word is made of is written as it is between double quotes. -/
theorem Quoted.writeChar_of_isWordStart (hc : isWordStart c = true) : Quoted.writeChar c = [c] := by
  obtain ⟨hlow, hhigh⟩ := printable_of_isWordStart hc
  have hquote : c ≠ '"' := ne_of_isWordStart hc (by decide)
  have hescape : c ≠ '\\' := ne_of_isWordStart hc (by decide)
  simp [Quoted.writeChar, Quoted.isDirect, hlow, hhigh, hquote, hescape]

theorem Quoted.write_word (hw : isWord w = true) : Quoted.write w = w ++ ['"'] := by
  obtain ⟨c, names, rfl, hc, hnames⟩ := exists_of_isWord hw
  have hwrite : names.flatMap Quoted.writeChar = names := by
    clear hw
    induction names with
    | nil => rfl
    | cons d names ih =>
      obtain ⟨hd, hnames⟩ := List.forall_mem_cons.mp hnames
      rw [List.flatMap_cons, Quoted.writeChar_of_isWordStart (isWordStart_of_isName hd), ih hnames]
      rfl
  rw [Quoted.write, List.flatMap_cons, Quoted.writeChar_of_isWordStart hc, hwrite]
  rfl

/-- What is written is printable, but for the end of the line. -/
theorem printable_of_mem_text (hline : line.Valid) (hc : c ∈ line.text) :
    c = '\n' ∨ 0x20 ≤ c.toNat ∧ c.toNat < 0x7F := by
  simp only [Line.text, List.mem_append, List.mem_cons, List.not_mem_nil, or_false] at hc
  obtain hc | rfl | rfl | hc | rfl := hc
  · have := printable_of_isWord hline.key hc
    omega
  · decide
  · decide
  · have hbody : 0x20 < c.toNat ∧ c.toNat < 0x7F := by
      rw [Line.body] at hc
      split at hc
      · obtain rfl | hc := List.mem_cons.mp hc
        · decide
        · exact Quoted.printable_of_mem_write hc
      · next hquoted => exact printable_of_isWord (hline.value (by simpa using hquoted)) hc
    omega
  · exact .inl rfl

/-- Such a text is allowed. -/
theorem isAllowed_of_printable (hc : c = '\n' ∨ 0x20 ≤ c.toNat ∧ c.toNat < 0x7F) :
    isAllowed c = true := by
  obtain rfl | ⟨hlow, hhigh⟩ := hc
  · rfl
  · have hle : c.toNat ≤ 0x7E := by omega
    simp [isAllowed, hlow, hle]

/-- Its line breaks are unified. -/
theorem unifyBreaks_eq_self (hs : ∀ c ∈ s, c = '\n' ∨ 0x20 ≤ c.toNat ∧ c.toNat < 0x7F) :
    unifyBreaks s = s := by
  induction s with
  | nil => rfl
  | cons c s ih =>
    obtain ⟨hc, hs⟩ := List.forall_mem_cons.mp hs
    have hreturn : c ≠ '\r' := by
      rintro rfl
      exact absurd hc (by decide)
    have hnext : c ≠ '\u0085' := by
      rintro rfl
      exact absurd hc (by decide)
    rw [unifyBreaks, ih hs]
    · rintro _ rfl
      exact absurd rfl hreturn
    · exact hreturn
    · exact hnext

/-- Every token of a line takes a character at least. -/
theorem three_mul_length_le (lines : List Line) :
    3 * lines.length ≤ (lines.flatMap Line.text).length := by
  induction lines with
  | nil => exact Nat.le_refl 0
  | cons line lines ih =>
    simp only [List.flatMap_cons, List.length_append, List.length_cons, Line.text]
    omega

/-- The first line begins the mapping, and the others go on with it. -/
theorem run_start (hlines : ∀ line ∈ lines, line.Valid) (hne : lines ≠ []) {fuel : Nat}
    (hfuel : 3 * lines.length + 1 ≤ fuel) :
    Lexer.run fuel (Lexer.start (lines.flatMap Line.text)) =
      .ok (.blockMappingStart :: lines.flatMap Line.tokens ++ [.blockEnd]) := by
  obtain ⟨line, more, rfl⟩ := List.exists_cons_of_ne_nil hne
  obtain ⟨fuel, rfl⟩ := Nat.exists_eq_add_of_le' hfuel
  have hmore : ∀ line ∈ more, line.Valid := (List.forall_mem_cons.mp hlines).2
  have hhead := isWordStart_of_mem_head? hlines
  rw [List.flatMap_cons] at hhead ⊢
  rw [Lexer.start_eq]
  have hstart : (Lexer.lineStart (line.text ++ more.flatMap Line.text) .start [] false).settle =
      .ok (Lexer.lineStart (line.text ++ more.flatMap Line.text) .start [] false) :=
    Lexer.settle_lineStart hhead
  obtain ⟨l', p', hp', hrun, hsettle⟩ := Lexer.run_line (hlines line List.mem_cons_self)
    (isWordStart_of_mem_head? hmore) rfl hstart (fuel + (3 * more.length + 1))
  have hsplit : fuel + (3 * (line :: more).length + 1) = fuel + (3 * more.length + 1) + 3 := by
    rw [List.length_cons]
    omega
  rw [hsplit, hrun, Lexer.run_lines hmore hp' hsettle (Nat.le_add_left ..)]
  simp

theorem tokenize_lines (hlines : ∀ line ∈ lines, line.Valid) (hne : lines ≠ []) :
    tokenize (lines.flatMap Line.text) =
      .ok (.blockMappingStart :: lines.flatMap Line.tokens ++ [.blockEnd]) := by
  have hprintable : ∀ c ∈ lines.flatMap Line.text,
      c = '\n' ∨ 0x20 ≤ c.toNat ∧ c.toNat < 0x7F := by
    intro c hc
    obtain ⟨line, hline, hc⟩ := List.mem_flatMap.mp hc
    exact printable_of_mem_text (hlines line hline) hc
  have hallowed : (lines.flatMap Line.text).all isAllowed = true :=
    List.all_eq_true.mpr fun c hc => isAllowed_of_printable (hprintable c hc)
  rw [tokenize, if_pos hallowed, unifyBreaks_eq_self hprintable]
  exact run_start hlines hne (Nat.succ_le_succ (three_mul_length_le lines))

/-- **The entry of a line** is added to the mapping. -/
theorem step_line (names : Names) (line : Line) (entries : List (Node × Node)) (rest : Stack) :
    line.tokens.foldlM Draft.step (.body names (.blockMapping .none entries .between :: rest)) =
      .ok (.body names (.blockMapping .none (line.entry :: entries) .between :: rest)) := rfl

theorem step_lines (names : Names) (lines : List Line) (entries : List (Node × Node))
    (rest : Stack) :
    (lines.flatMap Line.tokens).foldlM Draft.step
        (.body names (.blockMapping .none entries .between :: rest)) =
      .ok (.body names
        (.blockMapping .none ((lines.map Line.entry).reverse ++ entries) .between :: rest)) := by
  induction lines generalizing entries with
  | nil => rfl
  | cons line lines ih =>
    rw [List.flatMap_cons, List.foldlM_append, step_line]
    simp only [ok_bind, ih]
    simp

/-- The tokens of lines make up their entries. -/
theorem ofTokens_lines (lines : List Line) :
    Document.ofTokens (.blockMappingStart :: lines.flatMap Line.tokens ++ [.blockEnd]) =
      .ok (.ofRoot (.mapping .none (lines.map Line.entry))) := by
  have hbegin : Draft.start.step .blockMappingStart =
      .ok (.body ⟨Names.defaultHandles, []⟩ [.blockMapping .none [] .between, .root false]) := rfl
  have hend : ∀ names entries, [Token.blockEnd].foldlM Draft.step
      (.body names [.blockMapping .none entries .between, .root false]) =
        .ok (.body names [.finished (.mapping .none entries.reverse)]) := fun _ _ => rfl
  rw [Document.ofTokens, List.cons_append, List.foldlM_cons, hbegin]
  simp only [ok_bind, List.foldlM_append, step_lines, hend, List.append_nil, List.reverse_reverse]
  rfl

/-- **Lines are a mapping** of their entries. -/
theorem parse_lines (hlines : ∀ line ∈ lines, line.Valid) (hne : lines ≠ []) :
    parse (String.ofList (lines.flatMap Line.text)) =
      .ok (.ofRoot (.mapping .none (lines.map Line.entry))) := by
  rw [parse, String.toList_ofList, tokenize_lines hlines hne]
  exact ofTokens_lines lines

/-! ### A text that ends within a line -/

namespace Lexer

variable {p : Position} {tokens : List Token}

/-- The end of the text ends the mapping, also where no key can stand. -/
theorem run_end (fuel : Nat) (p : Position) (tokens : List Token) :
    run (fuel + 1) (inLine [] p tokens) = .ok (tokens.reverse ++ [.blockEnd]) := by
  have hsettle : (inLine [] p tokens).settle = .ok (inLine [] p tokens) :=
    settle_eq (approach_eq (s := []) rfl (fun h => nomatch h) rfl) rfl (fun _ h => nomatch h)
      (Int.not_lt.mpr (Int.natCast_nonneg _))
  have hleave : (inLine [] p tokens).leaveBlocks =
      .ok { lineStart [] p (.blockEnd :: tokens) false with keyAllowed := false } := rfl
  exact (run_last hsettle rfl hleave).trans (congrArg Except.ok List.reverse_cons)

/-- **A bare value at the end** of the text. -/
theorem dispatch_last (hw : isWord (c :: names) = true) (hp : p.column ≠ 0) :
    (inLine (c :: names) p tokens).dispatch c names =
      .ok (inLine [] (p.after (c :: names)) (.scalar .plain (c :: names) :: tokens)) := by
  have hsave : (inLine (c :: names) p tokens).saveCandidate =
      .ok (inLine (c :: names) p tokens) := rfl
  have hscan : Plain.scan ⟨false, 1⟩ p.column (c :: names) = .ok ⟨c :: names, [], false⟩ := by
    have hend : Plain.scanFrom ⟨false, 1⟩ .none (p.column + (c :: names).length) [] =
        .ok ⟨[], [], false⟩ := rfl
    have hword := Plain.scan_word rfl hw hend
    rwa [List.append_nil] at hword
  have hsplit : c :: names = (c :: names) ++ [] := (List.append_nil _).symm
  have hdispatch : (inLine (c :: names) p tokens).dispatch c names =
      (inLine (c :: names) p tokens).fetchPlain := by
    have hword : (inLine (c :: names) p tokens).dispatch c (names ++ []) = _ :=
      dispatch_word rfl hw fun h => absurd h hp
    rwa [List.append_nil] at hword
  rw [hdispatch, fetchPlain_eq hsave hscan hsplit]
  rfl

theorem run_lastValue (hvalue : line.quoted = false → isWord line.value = true) (fuel : Nat)
    (p : Position) (tokens : List Token) :
    run (fuel + 2) (inLine (' ' :: line.body) p tokens) =
      .ok (tokens.reverse ++ [.scalar line.style line.value, .blockEnd]) := by
  obtain ⟨key, quoted, value⟩ := line
  cases quoted with
  | true =>
    have hquoted := dispatch_quoted value [] (p.next ' ') tokens
    rw [List.append_nil, List.append_nil] at hquoted
    show run (fuel + 2) (inLine (' ' :: '"' :: Quoted.write value) p tokens) = _
    rw [run_succ (settle_afterColon (.inr rfl)) rfl hquoted, run_end]
    simp [Line.style]
  | false =>
    obtain ⟨c, names, rfl, hc, -⟩ := exists_of_isWord (hvalue rfl)
    show run (fuel + 2) (inLine (' ' :: c :: names) p tokens) = _
    rw [run_succ (settle_afterColon (.inl hc)) rfl
      (dispatch_last (hvalue rfl) (Nat.succ_ne_zero _)), run_end]
    simp [Line.style]

end Lexer

/-- The line without its end. -/
def Line.unended (line : Line) : List Char := line.key ++ ':' :: ' ' :: line.body

theorem Line.text_eq (line : Line) : line.text = line.unended ++ ['\n'] := by
  simp [Line.text, Line.unended]

theorem tokenize_unended (hline : line.Valid) :
    tokenize line.unended = .ok (.blockMappingStart :: line.tokens ++ [.blockEnd]) := by
  have hprintable : ∀ c ∈ line.unended, c = '\n' ∨ 0x20 ≤ c.toNat ∧ c.toNat < 0x7F := by
    intro c hc
    exact printable_of_mem_text hline (line.text_eq ▸ List.mem_append_left _ hc)
  have hallowed : line.unended.all isAllowed = true :=
    List.all_eq_true.mpr fun c hc => isAllowed_of_printable (hprintable c hc)
  have hhead : ∀ c ∈ line.unended.head?, isWordStart c = true := by
    obtain ⟨c, names, hkey, hc, -⟩ := exists_of_isWord hline.key
    intro d hd
    rw [Line.unended, hkey] at hd
    exact Option.some.inj hd ▸ hc
  -- Two rounds for the key and its colon, one for the value, and one for the end.
  obtain ⟨fuel, hfuel⟩ : ∃ fuel, line.unended.length + 1 = fuel + 2 + 2 := by
    obtain ⟨c, names, hkey, -⟩ := exists_of_isWord hline.key
    refine ⟨names.length + line.body.length, ?_⟩
    simp only [Line.unended, hkey, List.length_append, List.length_cons]
    omega
  rw [tokenize, if_pos hallowed, unifyBreaks_eq_self hprintable]
  show Lexer.run (line.unended.length + 1) (Lexer.start line.unended) = _
  rw [hfuel, Lexer.start_eq]
  have hsettle : (Lexer.lineStart line.unended .start [] false).settle =
      .ok (Lexer.lineStart line.unended .start [] false) := Lexer.settle_lineStart hhead
  refine (Lexer.run_key hline.key hline.noHyphen hline.short rfl hsettle).trans ?_
  rw [Lexer.run_lastValue hline.value]
  rfl

/-- **A line without its end** is the mapping of its entry. -/
theorem parse_unended (hline : line.Valid) :
    parse (String.ofList line.unended) = .ok (.ofRoot (.mapping .none [line.entry])) := by
  have htokens := ofTokens_lines [line]
  rw [List.flatMap_singleton] at htokens
  rw [parse, String.toList_ofList, tokenize_unended hline]
  exact htokens

end Yaml

end SqlProbe
