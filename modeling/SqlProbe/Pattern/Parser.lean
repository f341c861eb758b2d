import SqlProbe.Pattern.Syntax
import SqlProbe.Unicode.Latest

/-!
# Reading patterns

A pattern is read from left to right with a stack of the groups that are open.
Each turn of the loop takes at least one character, so the length of the text
bounds the number of turns, and the reader is total.

* `Pattern.parse`: a text as a syntax tree, or the first reason against it.
* `readClass`: the part between brackets, which has a stack of its own for
  brackets within brackets and for the operators between classes.
* `readEscape`: what a backslash and the characters after it stand for.

Inside a group with the flag `x` blanks and comments are left out wherever a
construct may be continued, also between the digits of an escape.
-/

namespace SqlProbe

namespace Pattern

/-! ### Blanks and comments -/

/-- A text after its leading blanks and comments; `inComment` says whether it
starts inside a comment. -/
def dropVerbose (inComment : Bool) : List Char → List Char
  | [] => []
  | c :: rest =>
    if inComment then dropVerbose (c != '\n') rest
    else if Text.isBlank c then dropVerbose false rest
    else if c == '#' then dropVerbose true rest
    else c :: rest

/-- A text after what the flag `x` lets one leave out. -/
def skip (verbose : Bool) (s : List Char) : List Char :=
  if verbose then dropVerbose false s else s

/-- The next character that counts when deciding whether a hyphen makes a
range. A comment is looked into only up to its first character. -/
def peekVerbose (inComment : Bool) : List Char → Option Char
  | [] => none
  | c :: rest =>
    if Text.isBlank c then peekVerbose inComment rest
    else if !inComment && c == '#' then peekVerbose true rest
    else some c

/-- The character after a hyphen. -/
def peek (verbose : Bool) (s : List Char) : Option Char :=
  if verbose then peekVerbose false s else s.head?

/-! ### Characters by number -/

/-- The character of a code point, if there is one. -/
def charOf? (n : Nat) : Option Char :=
  if h : n.isValidChar then some (Char.ofNatAux n h) else none

/-- A literal for a code point that was written in hexadecimal. -/
def literalOf (n : Nat) (isByte : Bool) (rest : List Char) :
    Except PatternError (Literal × List Char) :=
  match charOf? n with
  | some c => .ok (⟨c, isByte⟩, rest)
  | none => .error .badEscape

/-- Reads exactly `count` hexadecimal digits after those already read. -/
def readDigits (verbose : Bool) : (count : Nat) → (value : Nat) → List Char →
    Except PatternError (Nat × List Char)
  | 0, value, rest => .ok (value, rest)
  | _ + 1, _, [] => .error .unexpectedEnd
  | count + 1, value, c :: rest =>
    if Digit.isHex c then
      readDigits verbose count (value * 16 + Digit.value c) (skip verbose rest)
    else .error .badEscape

/-- Splits a text at the first closing brace, blanks left out before each
character; at most `fuel` characters are looked at. -/
def readBraced (verbose : Bool) : (fuel : Nat) → List Char →
    Except PatternError ((List Char) × List Char)
  | 0, _ => .error .unexpectedEnd
  | fuel + 1, s =>
    match skip verbose s with
    | [] => .error .unexpectedEnd
    | c :: rest =>
      if c == '\x7d' then .ok ([], rest)
      else do
        let (inner, after) ← readBraced verbose fuel rest
        .ok (c :: inner, after)

/-- Reads a character given by its number: `count` digits, or any number of
them in braces. -/
def readNumbered (verbose : Bool) (count : Nat) (s : List Char) :
    Except PatternError (Literal × List Char) :=
  match skip verbose s with
  | [] => .error .unexpectedEnd
  | c :: rest =>
    if c == '\x7b' then do
      let (digits, after) ← readBraced verbose (rest.length + 1) rest
      if digits.isEmpty || !digits.all Digit.isHex then .error .badEscape
      else literalOf (Digit.natOf 16 digits) false (skip verbose after)
    else do
      let (n, after) ← readDigits verbose count 0 (c :: rest)
      literalOf n (count == 2) after

/-! ### Properties -/

/-- Splits a text at the first place where `mark` occurs. -/
def splitAt? (mark : List Char) : List Char → Option (List Char × List Char)
  | [] => if mark.isEmpty then some ([], []) else none
  | c :: rest =>
    match mark.isPrefixOf? (c :: rest) with
    | some after => some ([], after)
    | none => (splitAt? mark rest).map fun (before, after) => (c :: before, after)

/-- How a property is asked for between braces, and whether the sign between
kind and value turns the answer round. -/
def propertyNameOf (s : List Char) : PropertyName × Bool :=
  match splitAt? ['!', '='] s with
  | some (kind, value) => (.value (String.ofList kind) (String.ofList value), true)
  | none =>
    match (splitAt? [':'] s).or (splitAt? ['='] s) with
    | some (kind, value) => (.value (String.ofList kind) (String.ofList value), false)
    | none => (.name (String.ofList s), false)

/-- Reads the name of a property: one character, or a text in braces. -/
def readProperty (verbose : Bool) (s : List Char) :
    Except PatternError ((PropertyName × Bool) × List Char) :=
  match skip verbose s with
  | [] => .error .unexpectedEnd
  | c :: rest =>
    if c == '\x7b' then do
      let (inner, after) ← readBraced verbose (rest.length + 1) rest
      .ok (propertyNameOf inner, after)
    else if c == '\\' then .error .unknownProperty
    else .ok ((.name (String.singleton c), false), rest)

/-! ### Escapes -/

/-- A construct that stands for one character or one place. -/
inductive Primitive where
  /-- A character. -/
  | literal (l : Literal)
  /-- A place. -/
  | assertion (a : Assertion)
  /-- A property. -/
  | property (p : PropertyName) (negated : Bool)
  /-- A class with a letter of its own. -/
  | shorthand (s : Shorthand) (negated : Bool)

namespace Primitive

/-- The primitive as a pattern. -/
def toAst : Primitive → Ast
  | literal l => .literal l
  | assertion a => .assertion a
  | property p negated => .property p negated
  | shorthand s negated => .shorthand s negated

/-- The primitive as part of a class. -/
def toClass : Primitive → Except PatternError ClassExpr
  | literal l => .ok (.literal l)
  | assertion _ => .error .badClassItem
  | property p negated => .ok (.property p negated)
  | shorthand s negated => .ok (.shorthand s negated)

/-- The primitive as one end of a range. -/
def toLiteral : Primitive → Except PatternError Literal
  | literal l => .ok l
  | _ => .error .badRange

end Primitive

/-- Whether a character may be escaped to stand for itself: every ASCII
character but letters, digits and the two angles. -/
def isEscapable (c : Char) : Bool :=
  c.toNat < 0x80 && !c.isAlphanum && c != '<' && c != '>'

/-- The characters between the braces after `\b`. -/
def isBoundaryChar (c : Char) : Bool := c.isAlpha || c == '-'

/-- Reads the name of a boundary up to its closing brace. -/
def readBoundaryName (verbose : Bool) : (fuel : Nat) → List Char →
    Except PatternError ((List Char) × List Char)
  | 0, _ => .error .unexpectedEnd
  | _ + 1, [] => .error .unexpectedEnd
  | fuel + 1, c :: rest =>
    if isBoundaryChar c then do
      let (name, after) ← readBoundaryName verbose fuel (skip verbose rest)
      .ok (c :: name, after)
    else if c == '\x7d' then .ok ([], rest)
    else .error .badEscape

/-- What `\b` stands for. A brace after it opens a name if a letter or a hyphen
comes first in it, and is left for a count otherwise. -/
def readBoundary (verbose : Bool) (s : List Char) : Except PatternError (Assertion × List Char) :=
  match s with
  | '\x7b' :: rest =>
    match skip verbose rest with
    | [] => .error .unexpectedEnd
    | c :: inner =>
      if isBoundaryChar c then do
        let (name, after) ← readBoundaryName verbose (inner.length + 2) (c :: inner)
        match String.ofList name with
        | "start" => .ok (.wordStart, after)
        | "end" => .ok (.wordEnd, after)
        | "start-half" => .ok (.wordStartHalf, after)
        | "end-half" => .ok (.wordEndHalf, after)
        | _ => .error .badEscape
      else .ok (.wordBoundary, s)
  | _ => .ok (.wordBoundary, s)

/-- Reads what follows a backslash. -/
def readEscape (verbose : Bool) (s : List Char) : Except PatternError (Primitive × List Char) :=
  match s with
  | [] => .error .unexpectedEnd
  | c :: rest =>
    let char (d : Char) :
        Except PatternError (Primitive × List Char) := .ok (.literal ⟨d, false⟩, rest)
    let place (a : Assertion) :
        Except PatternError (Primitive × List Char) := .ok (.assertion a, rest)
    let number (count : Nat) : Except PatternError (Primitive × List Char) := do
      let (l, after) ← readNumbered verbose count rest
      .ok (.literal l, after)
    let property (negated : Bool) : Except PatternError (Primitive × List Char) := do
      let ((name, turned), after) ← readProperty verbose rest
      .ok (.property name (negated != turned), after)
    match c with
    | 'x' => number 2
    | 'u' => number 4
    | 'U' => number 8
    | 'p' => property false
    | 'P' => property true
    | 'd' => .ok (.shorthand .digit false, rest)
    | 'D' => .ok (.shorthand .digit true, rest)
    | 's' => .ok (.shorthand .space false, rest)
    | 'S' => .ok (.shorthand .space true, rest)
    | 'w' => .ok (.shorthand .word false, rest)
    | 'W' => .ok (.shorthand .word true, rest)
    | 'a' => char '\x07'
    | 'f' => char '\x0c'
    | 't' => char '\t'
    | 'n' => char '\n'
    | 'r' => char '\r'
    | 'v' => char '\x0b'
    | 'A' => place .textStart
    | 'z' => place .textEnd
    | 'B' => place .notWordBoundary
    | '<' => place .wordStart
    | '>' => place .wordEnd
    | 'b' => do
      let (a, after) ← readBoundary verbose rest
      .ok (.assertion a, after)
    | _ => if isEscapable c then char c else .error .badEscape

/-! ### Classes -/

/-- What is pending while a class is read. -/
inductive ClassFrame where
  /-- An open bracket, with what stood before it in the enclosing class. -/
  | opened (before : List ClassExpr) (negated : Bool)
  /-- An operator, with its left side. -/
  | operator (op : SetOp) (left : ClassExpr)

/-- Closes the class read so far: its items in reverse, under the operator that
waits for a right side, if one does. -/
def closeOperand (items : List ClassExpr) : List ClassFrame → ClassExpr × List ClassFrame
  | .operator op left :: stack => (.combine op left (.ofItems items.reverse), stack)
  | stack => (.ofItems items.reverse, stack)

/-- Reads the hyphens that stand for themselves at the start of a class. -/
def readHyphens (verbose : Bool) :
    (fuel : Nat) → List Char → Except PatternError (Nat × List Char)
  | 0, _ => .error .unexpectedEnd
  | _ + 1, [] => .error .unexpectedEnd
  | fuel + 1, c :: rest =>
    if c == '-' then do
      let (n, after) ← readHyphens verbose fuel (skip verbose rest)
      .ok (n + 1, after)
    else .ok (0, c :: rest)

/-- Reads the start of a class, after its bracket: whether it is negated, and
the leading characters that stand for themselves. -/
def readOpening (verbose : Bool) (s : List Char) :
    Except PatternError ((Bool × List ClassExpr) × List Char) := do
  let (negated, s) := match skip verbose s with
    | '^' :: rest => (true, skip verbose rest)
    | s => (false, s)
  let (hyphens, s) ← readHyphens verbose (s.length + 1) s
  let items := List.replicate hyphens (ClassExpr.literal ⟨'-', false⟩)
  match hyphens, s with
  | 0, ']' :: rest =>
    match skip verbose rest with
    | [] => .error .unexpectedEnd
    | rest => .ok ((negated, [.literal ⟨']', false⟩]), rest)
  | _, s => .ok ((negated, items), s)

/-- Reads a named ASCII class after its bracket; the answer is none where there
is no such class, and the bracket is then an ordinary one. -/
def readPosix? (s : List Char) : Option (ClassExpr × List Char) :=
  match s with
  | ':' :: rest =>
    let (negated, rest) := match rest with
      | '^' :: rest => (true, rest)
      | rest => (false, rest)
    match rest.span (· != ':') with
    | (name, ':' :: ']' :: after) =>
      (posix? (String.ofList name)).map fun set => (.posix set negated, after)
    | _ => none
  | _ => none

/-- Reads one character of a class, or what a backslash makes of it. -/
def readClassItem (verbose : Bool) (s : List Char) : Except PatternError (Primitive × List Char) :=
  match s with
  | [] => .error .unexpectedEnd
  | '\\' :: rest => readEscape verbose rest
  | c :: rest => .ok (.literal ⟨c, false⟩, rest)

/-- Reads an item of a class, or a range from one to the next. -/
def readClassRange (verbose : Bool) (s : List Char) :
    Except PatternError (ClassExpr × List Char) := do
  let (first, after) ← readClassItem verbose s
  let after := skip verbose after
  match after with
  | [] => .error .unexpectedEnd
  | c :: rest =>
    if c != '-' || peek verbose rest == some ']' || peek verbose rest == some '-' then
      let item ← first.toClass
      .ok (item, after)
    else
      let (second, after) ← readClassItem verbose (skip verbose rest)
      let low ← first.toLiteral
      let high ← second.toLiteral
      if low.char ≤ high.char then .ok (.range low high, after) else .error .badRange

/-- The operator a class continues with, and the text after it. -/
def readSetOp? : List Char → Option (SetOp × List Char)
  | '&' :: '&' :: rest => some (.inter, rest)
  | '-' :: '-' :: rest => some (.diff, rest)
  | '~' :: '~' :: rest => some (.symmDiff, rest)
  | _ => none

/-- Reads a class to the bracket that closes it. `items` are those read so far
at the innermost bracket, in reverse, and `stack` holds what is pending. -/
def readClassLoop (verbose : Bool) : (fuel : Nat) → (stack : List ClassFrame) →
    (items : List ClassExpr) → List Char →
    Except PatternError ((ClassExpr × Bool) × List Char)
  | 0, _, _, _ => .error .unexpectedEnd
  | fuel + 1, stack, items, s =>
    match skip verbose s with
    | [] => .error .unexpectedEnd
    | '[' :: rest =>
      match readPosix? rest with
      | some (set, after) => readClassLoop verbose fuel stack (set :: items) after
      | none => do
        let ((negated, first), after) ← readOpening verbose rest
        readClassLoop verbose fuel (.opened items negated :: stack) first after
    | ']' :: rest =>
      match closeOperand items stack with
      | (body, [.opened _ negated]) => .ok ((body, negated), rest)
      | (body, .opened before negated :: stack) =>
        readClassLoop verbose fuel stack (.bracket body negated :: before) rest
      | _ => .error .unexpectedEnd
    | s =>
      match readSetOp? s with
      | some (op, after) =>
        let (left, stack) := closeOperand items stack
        readClassLoop verbose fuel (.operator op left :: stack) [] after
      | none => do
        let (item, after) ← readClassRange verbose s
        readClassLoop verbose fuel stack (item :: items) after

/-- Reads a class, after its opening bracket. -/
def readClass (verbose : Bool) (s : List Char) :
    Except PatternError ((ClassExpr × Bool) × List Char) := do
  let ((negated, first), after) ← readOpening verbose s
  readClassLoop verbose (after.length + 1) [.opened [] negated] first after

/-! ### Repetition counts -/

/-- The first number too large for a count. -/
def countLimit : Nat := 0x100000000

/-- Reads the digits of a count, blanks between them left out if the flag `x`
says so. -/
def readCountDigits (verbose : Bool) : (fuel : Nat) → List Char → List Char × List Char
  | fuel + 1, c :: rest =>
    if Digit.isDecimal c then
      let (digits, after) := readCountDigits verbose fuel (skip verbose rest)
      (c :: digits, after)
    else ([], c :: rest)
  | _, s => ([], s)

/-- Reads a count with blanks around it. -/
def readCount (verbose : Bool) (s : List Char) : Except PatternError (Nat × List Char) :=
  let s := s.dropWhile Text.isBlank
  let (digits, after) := readCountDigits verbose s.length s
  let after := skip verbose (after.dropWhile Text.isBlank)
  let n := Digit.natOf 10 digits
  if digits.isEmpty || countLimit ≤ n then .error .badCount
  else .ok (n, after.dropWhile Text.isBlank)

/-- Reads the counts of a repetition, after its brace: the lowest count, and the
highest if there is one. -/
def readCounts (verbose : Bool) (s : List Char) :
    Except PatternError ((Nat × Option Nat) × List Char) := do
  let (low, after) ← readCount verbose (skip verbose s)
  let ((low, high), after) ← match after with
    | ',' :: rest =>
      match skip verbose rest with
      | [] => .error PatternError.unexpectedEnd
      | '\x7d' :: rest => .ok ((low, none), '\x7d' :: rest)
      | rest => do
        let (high, after) ← readCount verbose rest
        .ok ((low, some high), after)
    | after => .ok ((low, some low), after)
  match after with
  | '\x7d' :: rest =>
    if high.any (· < low) then .error .badCount else .ok ((low, high), skip verbose rest)
  | _ => .error .unexpectedEnd

/-- Whether the mark comes next that turns a repetition's preference round, and the
text after it. -/
def readTurn : List Char → Bool × List Char
  | '?' :: rest => (true, rest)
  | s => (false, s)

/-! ### Groups -/

/-- Whether a character may stand in a group name, at its start or later. -/
def isNameChar (first : Bool) (c : Char) : Bool :=
  let letter := c == '_' || Unicode.latestAlphabetic.mem c
  if first then letter
  else letter || c == '.' || c == '[' || c == ']' || Unicode.latestNumbers.mem c

/-- Reads a group name up to its closing angle. -/
def readName (s : List Char) : Except PatternError (String × List Char) :=
  match s.span (· != '>') with
  | (_, []) => .error .unexpectedEnd
  | (name, _ :: after) =>
    match name with
    | [] => .error .badGroupName
    | c :: rest =>
      if isNameChar true c && rest.all (isNameChar false) then
        .ok (String.ofList name, after)
      else .error .badGroupName

/-- Reads flags up to the colon or parenthesis that ends them, and says whether
it was the colon. -/
def readFlags (change : FlagChange) (negated last : Bool) : List Char →
    Except PatternError ((FlagChange × Bool) × List Char)
  | [] => .error .unexpectedEnd
  | c :: rest =>
    if c == ':' || c == ')' then
      if last then .error .badFlag else .ok ((change, c == ':'), rest)
    else if c == '-' then
      if negated then .error .badFlag else readFlags change true true rest
    else
      match Flag.ofChar? c with
      | none => .error .badFlag
      | some f =>
        if (change.get? f).isSome then .error .badFlag
        else readFlags (change ++ [(f, !negated)]) negated false rest

/-- What an opening parenthesis starts. -/
inductive Opening where
  /-- A group that keeps its match, with its name if it has one. -/
  | capture (name : Option String)
  /-- A group that does not, with the flags that hold inside. -/
  | plain (change : FlagChange)
  /-- Flags for the rest of the enclosing group. -/
  | flags (change : FlagChange)

/-- Reads the start of a group, after its parenthesis. -/
def readGroupOpening (verbose : Bool) (s : List Char) :
    Except PatternError (Opening × List Char) :=
  let named (rest : List Char) : Except PatternError (Opening × List Char) := do
    let (name, after) ← readName rest
    .ok (.capture (some name), after)
  match skip verbose s with
  | '?' :: '=' :: _ | '?' :: '!' :: _ | '?' :: '<' :: '=' :: _ | '?' :: '<' :: '!' :: _ =>
    .error .lookAround
  | '?' :: 'P' :: '<' :: rest => named rest
  | '?' :: '<' :: rest => named rest
  | '?' :: rest => do
    let ((change, isGroup), after) ← readFlags [] false false rest
    if isGroup then .ok (.plain change, after)
    else if change.isEmpty then .error .nothingToRepeat
    else .ok (.flags change, after)
  | s => .ok (.capture none, s)

/-! ### The whole -/

/-- A group that is open. -/
structure Frame where
  /-- What stands before the group in its branch, in reverse. -/
  before : List Ast
  /-- The finished branches of the enclosing group, in reverse. -/
  branches : List Ast
  /-- Whether the group keeps its match. -/
  captures : Bool
  /-- The flags that hold in the group. -/
  change : FlagChange
  /-- Whether blanks are left out around the group. -/
  verbose : Bool

/-- Where reading stands. -/
structure ParseState where
  /-- The items of the current branch, in reverse. -/
  items : List Ast
  /-- The finished branches of the current group, in reverse. -/
  branches : List Ast
  /-- The groups that are open, innermost first. -/
  stack : List Frame
  /-- Whether blanks are left out. -/
  verbose : Bool
  /-- The group names taken so far. -/
  names : List String

namespace ParseState

/-- The current group, with its branches in order. -/
def body (st : ParseState) : Ast :=
  .ofBranches ((Ast.ofItems st.items.reverse :: st.branches).reverse)

/-- The state after one more item. -/
def push (st : ParseState) (a : Ast) : ParseState := { st with items := a :: st.items }

/-- The state after a repetition of the last item, and the text after it. -/
def repeatLast (st : ParseState) (low : Nat) (high : Option Nat) (rest : List Char) :
    Except PatternError (ParseState × List Char) :=
  match st.items with
  | a :: before =>
    let (turned, after) := readTurn rest
    if a.isRepeatable then
      .ok ({ st with items := .repetition a low high turned :: before }, after)
    else .error .nothingToRepeat
  | [] => .error .nothingToRepeat

/-- The state after the start of a group. -/
def enterGroup (st : ParseState) (captures : Bool) (change : FlagChange)
    (name : Option String) : ParseState where
  items := []
  branches := []
  stack := ⟨st.items, st.branches, captures, change, st.verbose⟩ :: st.stack
  verbose := (change.get? .verbose).getD st.verbose
  names := name.toList ++ st.names

/-- The state after an opening parenthesis. -/
def openGroup (st : ParseState) : Opening → Except PatternError ParseState
  | .flags change =>
    .ok { st.push (.flags change) with
      verbose := (change.get? .verbose).getD st.verbose }
  | .plain change => .ok (st.enterGroup false change none)
  | .capture name =>
    if name.any st.names.contains then .error .badGroupName
    else .ok (st.enterGroup true [] name)

/-- The state after a closing parenthesis. -/
def closeGroup (st : ParseState) : Except PatternError ParseState :=
  match st.stack with
  | [] => .error .unopenedGroup
  | f :: stack => .ok {
      items := .group f.captures f.change st.body :: f.before
      branches := f.branches
      stack
      verbose := f.verbose
      names := st.names }

/-- One turn: what the next construct does to the state, and the text after
it. -/
def step (st : ParseState) (s : List Char) : Except PatternError (ParseState × List Char) :=
  match s with
  | [] => .ok (st, [])
  | c :: rest =>
    match c with
    | '(' => do
      let (opening, after) ← readGroupOpening st.verbose rest
      .ok (← st.openGroup opening, after)
    | ')' => do .ok (← st.closeGroup, rest)
    | '|' =>
      .ok ({ st with items := [], branches := Ast.ofItems st.items.reverse :: st.branches }, rest)
    | '[' => do
      let ((body, negated), after) ← readClass st.verbose rest
      .ok (st.push (.bracket body negated), after)
    | '?' => st.repeatLast 0 (some 1) rest
    | '*' => st.repeatLast 0 none rest
    | '+' => st.repeatLast 1 none rest
    | '\x7b' => do
      let ((low, high), after) ← readCounts st.verbose rest
      st.repeatLast low high after
    | '\\' => do
      let (p, after) ← readEscape st.verbose rest
      .ok (st.push p.toAst, after)
    | '.' => .ok (st.push .dot, rest)
    | '^' => .ok (st.push (.assertion .lineStart), rest)
    | '$' => .ok (st.push (.assertion .lineEnd), rest)
    | _ => .ok (st.push (.literal ⟨c, false⟩), rest)

/-- All turns, to the end of the text. -/
def run : (fuel : Nat) → ParseState → List Char → Except PatternError ParseState
  | 0, st, _ => .ok st
  | fuel + 1, st, s =>
    match skip st.verbose s with
    | [] => .ok st
    | s => do
      let (st, rest) ← st.step s
      run fuel st rest

end ParseState

/-- The depth of nesting that is still accepted. -/
def depthLimit : Nat := 250

/-- Reads a pattern. -/
def parse (s : List Char) : Except PatternError Ast := do
  let st ← ParseState.run (s.length + 1) ⟨[], [], [], false, []⟩ s
  match st.stack with
  | _ :: _ => .error .unexpectedEnd
  | [] => if depthLimit < st.body.depth then .error .tooDeep else .ok st.body

end Pattern

end SqlProbe
