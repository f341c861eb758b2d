import SqlProbe.Yaml.Property
import SqlProbe.Yaml.Scalar.Block
import SqlProbe.Yaml.Scalar.Plain
import SqlProbe.Yaml.Scalar.Quoted

/-!
# Grouping the characters of a document

The lexer reads tokens from left to right and derives from the indentation
where block collections begin and end. A key is only known to be one when its
colon is reached. Until then the place in front of it is remembered, and the
mark of the key, with the mark of a mapping if one begins here, is put in
afterwards. Such a key has to end on its line, within 1024 characters.

* `Lexer`: what is known between two tokens.
* `Lexer.round`: reads the next token.
* `Yaml.tokenize`: the tokens of a text, or those before the first defect.
-/

namespace SqlProbe

namespace Yaml

/-- A place in front of which a key may begin. -/
structure Candidate where
  /-- Whether a key has to be there. -/
  required : Bool
  /-- How many tokens are before it. -/
  tokenCount : Nat
  /-- The place itself. -/
  position : Position
deriving DecidableEq, Repr

/-- What is known between two tokens. -/
structure Lexer where
  /-- What has not been read yet. -/
  rest : List Char
  /-- The place where that begins. -/
  position : Position
  /-- The tokens, the last one first. -/
  tokens : List Token
  /-- The column of the innermost block collection, or −1. -/
  indent : Int
  /-- The columns of the collections around it. -/
  outerIndents : List Int
  /-- Whether a key may begin at the next token. -/
  keyAllowed : Bool
  /-- The candidate inside the innermost flow collection, if there is one. -/
  candidate : Option Candidate
  /-- The candidates outside of it, one for each open flow collection. -/
  outerCandidates : List (Option Candidate)
deriving DecidableEq, Repr

namespace Lexer

/-- Before the first token. -/
def start (s : List Char) : Lexer where
  rest := s
  position := .start
  tokens := []
  indent := -1
  outerIndents := []
  keyAllowed := true
  candidate := none
  outerCandidates := []

/-- Whether a flow collection is open. -/
def inFlow (l : Lexer) : Bool := !l.outerCandidates.isEmpty

/-- The column of the next character. -/
def column (l : Lexer) : Nat := l.position.column

/-- Moves on to a rest of the text. -/
def moveTo (l : Lexer) (rest : List Char) : Lexer :=
  { l with
    rest := rest
    position := l.position.after (l.rest.take (l.rest.length - rest.length)) }

/-- Moves on by a number of characters. -/
def skip (l : Lexer) (n : Nat) : Lexer := l.moveTo (l.rest.drop n)

/-- Adds a token. -/
def emit (l : Lexer) (t : Token) : Lexer := { l with tokens := t :: l.tokens }

/-- Adds tokens, given with the last one first, behind the first `n` tokens. -/
def insertAt (l : Lexer) (n : Nat) (ts : List Token) : Lexer :=
  let k := l.tokens.length - n
  { l with tokens := l.tokens.take k ++ ts ++ l.tokens.drop k }

/-! ### Keys -/

/-- Gives up the candidate, if no key has to be there. -/
def dropCandidate (l : Lexer) : Except Defect Lexer :=
  if l.candidate.any Candidate.required then .error .missingColon
  else .ok { l with candidate := none }

/-- Remembers the next token as the beginning of a possible key. -/
def saveCandidate (l : Lexer) : Except Defect Lexer :=
  if l.keyAllowed then
    l.dropCandidate.map fun l =>
      { l with
        candidate := some
          { required := !l.inFlow && l.indent == (l.column : Int)
            tokenCount := l.tokens.length
            position := l.position } }
  else .ok l

/-- Whether a candidate is too far back to be a key. -/
def isStale (now : Position) (c : Candidate) : Bool :=
  c.position.line < now.line || c.position.index + 1024 < now.index

/-- Gives up every candidate that is too far back. -/
def dropStale (l : Lexer) : Except Defect Lexer :=
  let stale (c : Option Candidate) : Bool := c.any (isStale l.position)
  let keep (c : Option Candidate) : Option Candidate := c.filter (!isStale l.position ·)
  if (l.candidate :: l.outerCandidates).any fun c => stale c && c.any Candidate.required then
    .error .missingColon
  else
    .ok { l with candidate := keep l.candidate, outerCandidates := l.outerCandidates.map keep }

/-! ### Indentation -/

/-- Begins a block collection at a column, behind the first `n` tokens, if the
column is further right than that of the innermost one. The mark of the
collection comes before the tokens given. -/
def roll (l : Lexer) (column : Nat) (n : Nat) (mark : Token) (ts : List Token) : Lexer :=
  if !l.inFlow && l.indent < (column : Int) then
    { l.insertAt n (ts ++ [mark]) with
      indent := column, outerIndents := l.indent :: l.outerIndents }
  else l.insertAt n ts

/-- Begins a block collection at the next token, unless the token goes on with one or
a flow collection is open. The token has to stand where a key may begin. -/
def rollHere (l : Lexer) (mark : Token) (d : Defect) : Except Defect Lexer :=
  if l.inFlow then .ok l
  else if l.keyAllowed then .ok (l.roll l.column l.tokens.length mark [])
  else .error d

/-- Ends the collections whose column is further right than the given one. -/
def unrollFrom (column : Int) : Int → List Int → Nat × Int × List Int
  | indent, [] => (0, indent, [])
  | indent, outer :: rest =>
    if column < indent then
      let (n, r) := unrollFrom column outer rest
      (n + 1, r)
    else (0, indent, outer :: rest)

/-- Ends the block collections that the indentation of the next token ends. -/
def unroll (l : Lexer) (column : Int) : Lexer :=
  if l.inFlow then l
  else
    let (n, indent, outer) := unrollFrom column l.indent l.outerIndents
    { l with
      tokens := List.replicate n .blockEnd ++ l.tokens, indent := indent, outerIndents := outer }

/-! ### The way to the next token -/

/-- The rest of a text after blanks, comments and breaks, and whether a key may
begin there. A tab may stand where no key can begin, or inside a flow
collection; a new line outside of these can begin with a key. The flag tells
whether a line starts here. -/
def toNextToken (inFlow : Bool) : Bool → Bool → List Char → List Char × Bool
  | keyAllowed, _, [] => ([], keyAllowed)
  | keyAllowed, lineStart, c :: rest =>
    if c == ' ' || (c == '\t' && (inFlow || !keyAllowed)) then
      toNextToken inFlow keyAllowed false rest
    else if lineStart && c == byteOrderMark then toNextToken inFlow keyAllowed false rest
    else if isBreak c then toNextToken inFlow (keyAllowed || !inFlow) true rest
    else (c :: rest, keyAllowed)

/-- `toNextToken` with comments. Every round but the last takes a comment. -/
def toNextTokenPast (inFlow : Bool) : Nat → Bool → Bool → List Char → List Char × Bool
  | 0, keyAllowed, _, s => (s, keyAllowed)
  | fuel + 1, keyAllowed, lineStart, s =>
    let (rest, keyAllowed) := toNextToken inFlow keyAllowed lineStart s
    match rest with
    | '#' :: comment =>
      toNextTokenPast inFlow fuel keyAllowed false (comment.dropWhile (!isBreak ·))
    | _ => (rest, keyAllowed)

/-- Moves on to the next token. -/
def approach (l : Lexer) : Lexer :=
  let (rest, keyAllowed) :=
    toNextTokenPast l.inFlow (l.rest.length + 1) l.keyAllowed (l.column == 0) l.rest
  { l.moveTo rest with keyAllowed := keyAllowed }

/-! ### Tokens -/

/-- A mark of documents, or a directive, ends every block collection. -/
def leaveBlocks (l : Lexer) : Except Defect Lexer :=
  (l.unroll (-1)).dropCandidate.map fun l => { l with keyAllowed := false }

/-- Begins a flow collection. -/
def openFlow (l : Lexer) (t : Token) : Except Defect Lexer :=
  l.saveCandidate.map fun l =>
    { l.emit t |>.skip 1 with
      candidate := none, outerCandidates := l.candidate :: l.outerCandidates, keyAllowed := true }

/-- Ends a flow collection. -/
def closeFlow (l : Lexer) (t : Token) : Except Defect Lexer :=
  l.dropCandidate.map fun l =>
    { l.emit t |>.skip 1 with
      candidate := l.outerCandidates.headD none, outerCandidates := l.outerCandidates.tail
      keyAllowed := false }

/-- Ends an entry of a flow collection. -/
def endFlowEntry (l : Lexer) : Except Defect Lexer :=
  l.dropCandidate.map fun l => { l.emit .flowEntry |>.skip 1 with keyAllowed := true }

/-- Begins an entry of a block sequence. -/
def beginBlockEntry (l : Lexer) : Except Defect Lexer := do
  let l ← l.rollHere .blockSequenceStart .misplacedEntry
  let l ← l.dropCandidate
  .ok { l.emit .blockEntry |>.skip 1 with keyAllowed := true }

/-- Begins a key that is marked as one. -/
def beginKey (l : Lexer) : Except Defect Lexer := do
  let l ← l.rollHere .blockMappingStart .misplacedKey
  let l ← l.dropCandidate
  .ok { l.emit .key |>.skip 1 with keyAllowed := !l.inFlow }

/-- Begins a value. The candidate, if there is one, turns out to be its key. -/
def beginValue (l : Lexer) : Except Defect Lexer :=
  match l.candidate with
  | some c =>
    let l := l.roll c.position.column c.tokenCount .blockMappingStart [.key]
    .ok { l.emit .value |>.skip 1 with candidate := none, keyAllowed := false }
  | none => do
    let l ← l.rollHere .blockMappingStart .misplacedValue
    .ok { l.emit .value |>.skip 1 with keyAllowed := !l.inFlow }

/-- Reads a token that can be a key. -/
def fetchContent (l : Lexer) (read : List Char → Except Defect (Token × List Char)) :
    Except Defect Lexer := do
  let l ← l.saveCandidate
  let (t, rest) ← read l.rest
  .ok { l.emit t |>.moveTo rest with keyAllowed := false }

/-- Reads a plain scalar. After line breaks a key may follow. -/
def fetchPlain (l : Lexer) : Except Defect Lexer := do
  let l ← l.saveCandidate
  let r ← Plain.scan ⟨l.inFlow, l.indent + 1⟩ l.column l.rest
  .ok { l.emit (.scalar .plain r.text) |>.moveTo r.rest with keyAllowed := r.broken }

/-- Reads a block scalar. -/
def fetchBlock (l : Lexer) (style : ScalarStyle) : Except Defect Lexer := do
  let l ← l.dropCandidate
  let r ← Block.scan style l.indent (l.rest.drop 1)
  .ok { l.emit (.scalar style r.text) |>.moveTo r.rest with keyAllowed := true }

/-- Reads a directive. -/
def fetchDirective (l : Lexer) : Except Defect Lexer := do
  let l ← l.leaveBlocks
  let (t, rest) ← scanDirective (l.rest.drop 1)
  .ok (l.emit t |>.moveTo rest)

/-- Reads a mark of documents. -/
def fetchDocumentMark (l : Lexer) (t : Token) : Except Defect Lexer :=
  l.leaveBlocks.map fun l => l.emit t |>.skip 3

/-- Reads an anchor or an alias, after its mark. -/
def readName (token : List Char → Token) (d : Defect) (s : List Char) :
    Except Defect (Token × List Char) :=
  (expect d (scanName? (s.drop 1))).map fun (name, rest) => (token name, rest)

/-- Reads a scalar between apostrophes, with its opening one. -/
def readSingle (s : List Char) : Except Defect (Token × List Char) :=
  (Quoted.scanSingle (s.drop 1)).map fun r => (.scalar .singleQuoted r.text, r.rest)

/-- Reads a scalar between double quotes, with its opening one. -/
def readDouble (s : List Char) : Except Defect (Token × List Char) :=
  (Quoted.scanDouble (s.drop 1)).map fun r => (.scalar .doubleQuoted r.text, r.rest)

/-- Whether a plain scalar may start with a character that is otherwise a mark. -/
def startsPlain (inFlow : Bool) (c : Char) (rest : List Char) : Bool :=
  if c == '-' then !rest.head?.any isBlank
  else if c == '?' || c == ':' then !inFlow && !startsSeparated rest
  else !isSeparator c && !([',', '[', ']', '\x7b', '\x7d', '#', '&', '*', '!', '|', '>', '\'', '"',
    '%', '@', '\x60'].contains c)

/-- Reads the token that starts with a character. -/
def dispatch (l : Lexer) (c : Char) (rest : List Char) : Except Defect Lexer :=
  let marked := l.inFlow || startsSeparated rest
  if l.column == 0 && c == '%' then l.fetchDirective
  else if l.column == 0 && startsDocumentMark (c :: rest) then
    l.fetchDocumentMark (if c == '-' then .documentStart else .documentEnd)
  else if c == '[' then l.openFlow .flowSequenceStart
  else if c == '\x7b' then l.openFlow .flowMappingStart
  else if c == ']' then l.closeFlow .flowSequenceEnd
  else if c == '\x7d' then l.closeFlow .flowMappingEnd
  else if c == ',' then l.endFlowEntry
  else if c == '-' && startsSeparated rest then l.beginBlockEntry
  else if c == '?' && marked then l.beginKey
  else if c == ':' && marked then l.beginValue
  else if c == '*' then l.fetchContent (readName .aliasOf .badAlias)
  else if c == '&' then l.fetchContent (readName .anchor .badAnchor)
  else if c == '!' then l.fetchContent (scanTag l.inFlow)
  else if c == '|' && !l.inFlow then l.fetchBlock .literal
  else if c == '>' && !l.inFlow then l.fetchBlock .folded
  else if c == '\'' then l.fetchContent readSingle
  else if c == '"' then l.fetchContent readDouble
  else if startsPlain l.inFlow c rest then l.fetchPlain
  else .error .badStart

/-- Moves on to the next token and ends what its place ends. -/
def settle (l : Lexer) : Except Defect Lexer :=
  l.approach.dropStale.map fun l => l.unroll l.column

/-- Reads the next token, or ends at the end of the text with all of them. -/
def round (l : Lexer) : Except Defect (List Token ⊕ Lexer) := do
  let l ← l.settle
  match l.rest with
  | [] => l.leaveBlocks.map fun l => .inl l.tokens.reverse
  | c :: rest => (l.dispatch c rest).map .inr

/-- The tokens that stay what they are: those before every candidate. In front of
the others a mapping or a key may still begin. -/
def settledTokens (l : Lexer) : List Token :=
  let candidates := (l.candidate :: l.outerCandidates).filterMap fun c =>
    c.filter (!isStale l.position ·)
  l.tokens.reverse.take ((candidates.map Candidate.tokenCount).foldl min l.tokens.length)

/-- A defect, and the tokens that were settled before it. -/
structure Stop where
  /-- The tokens. -/
  tokens : List Token
  /-- The defect. -/
  defect : Defect
deriving DecidableEq, Repr

/-- Reads all tokens. Every token takes at least one character, so that their
number is at most that of the characters and the fuel does not run out. -/
def run : Nat → Lexer → Except Stop (List Token)
  | 0, l => .error ⟨l.settledTokens, .badStart⟩
  | fuel + 1, l =>
    match l.round with
    | .ok (.inl tokens) => .ok tokens
    | .ok (.inr next) => run fuel next
    | .error d => .error ⟨l.settledTokens, d⟩

end Lexer

/-- The tokens of a text. -/
def tokenize (s : List Char) : Except Lexer.Stop (List Token) :=
  if s.all isAllowed then
    let text := unifyBreaks s
    Lexer.run (text.length + 1) (Lexer.start text)
  else .error ⟨[], .badCharacter⟩

end Yaml

end SqlProbe
