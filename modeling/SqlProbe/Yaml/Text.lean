/-!
# The text of a YAML document

Which characters a document may hold, how its lines end, and what separates its
tokens. Line breaks are unified once, before anything else: a carriage return,
a pair of carriage return and line feed, and the next-line character all become
a line feed. The two Unicode separators also break lines and stay as they are.

* `Yaml.unifyBreaks`: the text with unified line breaks.
* `Yaml.Position`: a place in the text.
* `Yaml.Gap`: a run of blanks and breaks inside a scalar, and what it folds to.
-/

namespace SqlProbe

namespace Yaml

/-! ### Characters -/

/-- Whether a document may hold a character. -/
def isAllowed (c : Char) : Bool :=
  let n := c.toNat
  n == 0x9 || n == 0xA || n == 0xD || (0x20 ≤ n && n ≤ 0x7E) || n == 0x85 ||
    (0xA0 ≤ n && n ≤ 0xD7FF) || (0xE000 ≤ n && n ≤ 0xFFFD) || 0x10000 ≤ n

/-- The byte order mark. -/
def byteOrderMark : Char := '\uFEFF'

/-- A text with its line breaks unified. -/
def unifyBreaks : List Char → List Char
  | [] => []
  | '\r' :: '\n' :: rest => '\n' :: unifyBreaks rest
  | '\r' :: rest => '\n' :: unifyBreaks rest
  | '\u0085' :: rest => '\n' :: unifyBreaks rest
  | c :: rest => c :: unifyBreaks rest

/-- Whether a character breaks lines. -/
def isBreak (c : Char) : Bool := c == '\n' || c == '\u2028' || c == '\u2029'

/-- Whether a character is a space or a tab. -/
def isBlank (c : Char) : Bool := c == ' ' || c == '\t'

/-- Whether a character separates tokens. -/
def isSeparator (c : Char) : Bool := isBlank c || isBreak c

/-- Whether a character may occur in the name of an anchor or a tag. -/
def isName (c : Char) : Bool := c.isAlphanum || c == '-' || c == '_'

/-- Whether a text starts with a separator, or ends here. -/
def startsSeparated : List Char → Bool
  | [] => true
  | c :: _ => isSeparator c

/-- Whether a line starts with one of the marks that begin or end a document. -/
def startsDocumentMark : List Char → Bool
  | '-' :: '-' :: '-' :: rest => startsSeparated rest
  | '.' :: '.' :: '.' :: rest => startsSeparated rest
  | _ => false

/-- A text without its leading spaces and tabs. -/
def skipBlanks (s : List Char) : List Char := s.dropWhile isBlank

/-- A text without the comment it starts with, if it starts with one. -/
def skipComment : List Char → List Char
  | '#' :: rest => rest.dropWhile (!isBreak ·)
  | rest => rest

/-- What follows the end of a line, if nothing but blanks and a comment is
before it. -/
def finishLine? (s : List Char) : Option (List Char) :=
  match skipComment (skipBlanks s) with
  | [] => some []
  | c :: rest => if isBreak c then some rest else none

/-! ### Positions -/

/-- A place in the text. -/
structure Position where
  /-- How many bytes are before it. -/
  index : Nat
  /-- How many line breaks are before it. -/
  line : Nat
  /-- How many characters are before it on its line. -/
  column : Nat
deriving DecidableEq, Repr

namespace Position

/-- The beginning of the text. -/
def start : Position := ⟨0, 0, 0⟩

/-- The place after one more character. -/
def next (p : Position) (c : Char) : Position :=
  let index := p.index + c.utf8Size
  if isBreak c then ⟨index, p.line + 1, 0⟩ else ⟨index, p.line, p.column + 1⟩

/-- The place after a run of characters. -/
def after (p : Position) (s : List Char) : Position := s.foldl next p

end Position

/-! ### Folding -/

/-- Blanks and breaks inside a scalar, whose meaning depends on what follows. -/
inductive Gap where
  /-- Nothing. -/
  | none
  /-- Blanks on one line. -/
  | blanks (text : List Char)
  /-- Breaks, with the blanks around them dropped: the first break, unless it is
  escaped, and the further ones. -/
  | breaks (first : Option Char) (more : List Char)
deriving DecidableEq, Repr

namespace Gap

/-- Whether the gap contains a break. -/
def isBroken : Gap → Bool
  | breaks _ _ => true
  | _ => false

/-- The gap with one more space or tab. -/
def addBlank : Gap → Char → Gap
  | none, c => blanks [c]
  | blanks text, c => blanks (text ++ [c])
  | breaks first more, _ => breaks first more

/-- The gap with one more break. -/
def addBreak : Gap → Char → Gap
  | breaks first more, c => breaks first (more ++ [c])
  | _, c => breaks (some c) []

/-- What the gap becomes when text follows: a single line feed becomes a space,
and of several the first is dropped. -/
def fold : Gap → List Char
  | none => []
  | blanks text => text
  | breaks (some '\n') [] => [' ']
  | breaks (some '\n') more => more
  | breaks (some c) more => c :: more
  | breaks .none more => more

end Gap

end Yaml

end SqlProbe
