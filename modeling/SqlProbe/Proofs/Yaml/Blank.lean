import SqlProbe.Proofs.Attempts
import SqlProbe.Text.Blank
import SqlProbe.Yaml.Reading

/-!
# Blank texts

A text of nothing but blanks is empty for most purposes, but not for the language of
documents, which knows only spaces, tabs and line breaks as such: a no-break space is a
plain scalar to it. Such a text is still no mapping. All that the lexer can find in it are
plain scalars (`Lexer.OnlyPlain`, kept from one token to the next by `OnlyPlain.dispatch`),
and plain scalars without a mark between them make up one scalar at most
(`root_ne_mapping_of_allBlank`).
-/

namespace SqlProbe

namespace Yaml

/-! ### What is read is part of the text -/

theorem blank_of_mem_unifyBreaks {s : List Char} (h : ∀ c ∈ s, Text.isBlank c = true) :
    ∀ c ∈ unifyBreaks s, Text.isBlank c = true := by
  -- The cases are a carriage return with and without a line feed after it, the control
  -- character for a new line, and all the rest. What replaces them is a blank again.
  induction s using unifyBreaks.induct with
  | case1 => exact h
  | case2 rest ih =>
    rw [unifyBreaks, List.forall_mem_cons]
    exact ⟨rfl, ih (List.forall_mem_cons.mp (List.forall_mem_cons.mp h).2).2⟩
  | case3 rest hrest ih =>
    rw [unifyBreaks, List.forall_mem_cons]
    · exact ⟨rfl, ih (List.forall_mem_cons.mp h).2⟩
    · exact hrest
  | case4 rest ih =>
    rw [unifyBreaks, List.forall_mem_cons]
    exact ⟨rfl, ih (List.forall_mem_cons.mp h).2⟩
  | case5 c rest h₁ h₂ h₃ ih =>
    rw [unifyBreaks, List.forall_mem_cons]
    · exact ⟨(List.forall_mem_cons.mp h).1, ih (List.forall_mem_cons.mp h).2⟩
    all_goals assumption

theorem Plain.mem_of_mem_scanFrom {s : Plain.Surroundings} {gap : Gap} {column : Nat}
    {text : List Char} {r : Plain.Scanned} (h : Plain.scanFrom s gap column text = .ok r)
    {c : Char} (hc : c ∈ r.rest) : c ∈ text := by
  -- A scan either stops, and leaves what it was given, or goes on with the rest.
  induction text generalizing gap column r with
  | nil => cases h; exact hc
  | cons d rest ih =>
    rw [Plain.scanFrom] at h
    split at h
    · split at h
      · cases h
      · exact List.mem_cons_of_mem _ (ih h hc)
    · split at h
      · exact List.mem_cons_of_mem _ (ih h hc)
      · split at h
        · cases h; exact hc
        · split at h
          · cases h
          · split at h
            · cases h; exact hc
            · obtain ⟨r', hr', rfl⟩ := map_eq_ok_iff.mp h
              exact List.mem_cons_of_mem _ (ih hr' hc)

namespace Lexer

theorem mem_of_mem_toNextToken {inFlow keyAllowed lineStart : Bool} {s : List Char} {c : Char}
    (hc : c ∈ (toNextToken inFlow keyAllowed lineStart s).1) : c ∈ s := by
  induction s generalizing keyAllowed lineStart with
  | nil => exact hc
  | cons d rest ih =>
    rw [toNextToken] at hc
    split at hc
    · exact List.mem_cons_of_mem _ (ih hc)
    · split at hc
      · exact List.mem_cons_of_mem _ (ih hc)
      · split at hc
        · exact List.mem_cons_of_mem _ (ih hc)
        · exact hc

theorem mem_of_mem_toNextTokenPast {inFlow keyAllowed lineStart : Bool} {fuel : Nat}
    {s : List Char} {c : Char}
    (hc : c ∈ (toNextTokenPast inFlow fuel keyAllowed lineStart s).1) : c ∈ s := by
  induction fuel generalizing keyAllowed lineStart s with
  | zero => exact hc
  | succ fuel ih =>
    rw [toNextTokenPast] at hc
    dsimp only at hc
    split at hc
    · next comment hrest =>
      have hcomment : c ∈ comment := (List.dropWhile_sublist _).mem (ih hc)
      exact mem_of_mem_toNextToken (hrest ▸ List.mem_cons_of_mem _ hcomment)
    · exact mem_of_mem_toNextToken hc

/-! ### The lexer on a blank text -/

/-- Nothing but blanks is left, nothing but plain scalars has been read, and no
collection is open. -/
structure OnlyPlain (l : Lexer) : Prop where
  /-- What is left. -/
  blank : ∀ c ∈ l.rest, Text.isBlank c = true
  /-- What has been read. -/
  plain : ∀ t ∈ l.tokens, ∃ text, t = .scalar .plain text
  /-- No block collection is around the innermost one, so that there is none. -/
  outermost : l.outerIndents = []

namespace OnlyPlain

variable {l l' : Lexer} {c : Char} {rest : List Char}

theorem unroll (h : l.OnlyPlain) (column : Int) : (l.unroll column).OnlyPlain := by
  rw [Lexer.unroll]
  split
  · exact h
  · rw [h.outermost]
    exact ⟨h.blank, h.plain, rfl⟩

theorem approach (h : l.OnlyPlain) : l.approach.OnlyPlain := by
  refine ⟨fun c hc => h.blank c ?_, h.plain, h.outermost⟩
  rw [Lexer.approach] at hc
  exact mem_of_mem_toNextTokenPast hc

theorem dropCandidate (h : l.OnlyPlain) (hl : l.dropCandidate = .ok l') : l'.OnlyPlain := by
  rw [Lexer.dropCandidate] at hl
  split at hl
  · cases hl
  · cases hl
    exact ⟨h.blank, h.plain, h.outermost⟩

theorem dropStale (h : l.OnlyPlain) (hl : l.dropStale = .ok l') : l'.OnlyPlain := by
  rw [Lexer.dropStale] at hl
  dsimp only at hl
  split at hl
  · cases hl
  · cases hl
    exact ⟨h.blank, h.plain, h.outermost⟩

theorem saveCandidate (h : l.OnlyPlain) (hl : l.saveCandidate = .ok l') : l'.OnlyPlain := by
  rw [Lexer.saveCandidate] at hl
  split at hl
  · obtain ⟨l₁, hdrop, rfl⟩ := map_eq_ok_iff.mp hl
    have h₁ := h.dropCandidate hdrop
    exact ⟨h₁.blank, h₁.plain, h₁.outermost⟩
  · cases hl
    exact h

theorem leaveBlocks (h : l.OnlyPlain) (hl : l.leaveBlocks = .ok l') : l'.OnlyPlain := by
  obtain ⟨l₁, hdrop, rfl⟩ := map_eq_ok_iff.mp hl
  have h₁ := (h.unroll _).dropCandidate hdrop
  exact ⟨h₁.blank, h₁.plain, h₁.outermost⟩

theorem settle (h : l.OnlyPlain) (hl : l.settle = .ok l') : l'.OnlyPlain := by
  obtain ⟨l₁, hstale, rfl⟩ := map_eq_ok_iff.mp hl
  exact (h.approach.dropStale hstale).unroll _

/-- A blank can only begin a plain scalar. -/
theorem dispatch_eq (hc : Text.isBlank c = true) (rest : List Char) :
    l.dispatch c rest =
      if startsPlain l.inFlow c rest then l.fetchPlain else .error .badStart := by
  -- It is none of the characters that begin anything else.
  have hne : ∀ d, Text.isBlank d = false → c ≠ d := by
    rintro d hd rfl
    exact absurd hc (by simp [hd])
  have hmark : startsDocumentMark (c :: rest) = false := by
    unfold startsDocumentMark
    split
    · next h => exact absurd (List.cons.inj h).1 (hne '-' (by decide))
    · next h => exact absurd (List.cons.inj h).1 (hne '.' (by decide))
    · rfl
  simp [Lexer.dispatch, hmark, hne '%' (by decide), hne '[' (by decide), hne '\x7b' (by decide),
    hne ']' (by decide), hne '\x7d' (by decide), hne ',' (by decide), hne '-' (by decide),
    hne '?' (by decide), hne ':' (by decide), hne '*' (by decide), hne '&' (by decide),
    hne '!' (by decide), hne '|' (by decide), hne '>' (by decide), hne '\'' (by decide),
    hne '"' (by decide)]

theorem dispatch (h : l.OnlyPlain) (hrest : l.rest = c :: rest)
    (hl : l.dispatch c rest = .ok l') : l'.OnlyPlain := by
  rw [dispatch_eq (h.blank c (hrest ▸ List.mem_cons_self))] at hl
  split at hl
  · obtain ⟨l₁, hsave, hl⟩ := bind_eq_ok_iff.mp hl
    obtain ⟨r, hscan, hl⟩ := bind_eq_ok_iff.mp hl
    cases hl
    have h₁ := h.saveCandidate hsave
    refine ⟨fun c hc => h₁.blank c (Plain.mem_of_mem_scanFrom hscan hc), ?_, h₁.outermost⟩
    exact List.forall_mem_cons.mpr ⟨⟨r.text, rfl⟩, h₁.plain⟩
  · cases hl

/-- One round reads a token and keeps all this, or leaves the collections at the end of
the text, and then the tokens are all plain scalars. -/
theorem round {r : List Token ⊕ Lexer} (h : l.OnlyPlain) (hround : l.round = .ok r) :
    r.elim (fun tokens => ∀ t ∈ tokens, ∃ text, t = .scalar .plain text) OnlyPlain := by
  obtain ⟨l₁, hsettle, hround⟩ := bind_eq_ok_iff.mp hround
  have h₁ := h.settle hsettle
  split at hround
  · obtain ⟨l₂, hleave, rfl⟩ := map_eq_ok_iff.mp hround
    exact fun t ht => (h₁.leaveBlocks hleave).plain t (List.mem_reverse.mp ht)
  · next c rest hrest =>
    obtain ⟨l₂, hdispatch, rfl⟩ := map_eq_ok_iff.mp hround
    exact h₁.dispatch hrest hdispatch

/-- All tokens of a blank text are plain scalars. -/
theorem run {fuel : Nat} {tokens : List Token} (h : l.OnlyPlain)
    (hrun : Lexer.run fuel l = .ok tokens) : ∀ t ∈ tokens, ∃ text, t = .scalar .plain text := by
  induction fuel generalizing l with
  | zero => cases hrun
  | succ fuel ih =>
    rw [Lexer.run] at hrun
    split at hrun
    · next hround =>
      cases hrun
      exact h.round hround
    · next hround => exact ih (h.round hround) hrun
    · cases hrun

end OnlyPlain

end Lexer

/-! ### The document of a blank text -/

/-- Plain scalars by themselves are one scalar at most. -/
theorem Document.root_ne_mapping_of_plain {tokens : List Token} {d : Document}
    (htokens : ∀ t ∈ tokens, ∃ text, t = .scalar .plain text) (hd : ofTokens tokens = .ok d)
    (marks : Marks) (entries : List (Node × Node)) : d.root ≠ some (.mapping marks entries) := by
  cases tokens with
  | nil =>
    cases hd
    exact fun h => nomatch h
  | cons t rest =>
    obtain ⟨⟨text, rfl⟩, hrest⟩ := List.forall_mem_cons.mp htokens
    cases rest with
    | nil =>
      cases hd
      exact fun h => nomatch h
    | cons t' rest =>
      -- The root is finished, and a second scalar has no place.
      obtain ⟨text', rfl⟩ := hrest t' List.mem_cons_self
      cases hd

/-- **A blank text** is no mapping. -/
theorem root_ne_mapping_of_allBlank {text : String} {d : Document}
    (hblank : Text.allBlank text = true) (hparse : parse text = .ok d) (marks : Marks)
    (entries : List (Node × Node)) : d.root ≠ some (.mapping marks entries) := by
  rw [parse] at hparse
  split at hparse
  · next tokens htokens =>
    rw [tokenize] at htokens
    split at htokens
    · have hstart : (Lexer.start (unifyBreaks text.toList)).OnlyPlain :=
        ⟨blank_of_mem_unifyBreaks (List.all_eq_true.mp hblank), fun _ h => (nomatch h), rfl⟩
      exact Document.root_ne_mapping_of_plain (hstart.run htokens) hparse marks entries
    · cases htokens
  · cases hparse

end Yaml

end SqlProbe
