import SqlProbe.Number.Decimal
import SqlProbe.Yaml.Defect
import SqlProbe.Yaml.Token
import SqlProbe.Yaml.Text

/-!
# Block scalars

Scalars that are written line by line after a bar or a greater-than sign. A
header may tell the indentation and what becomes of the line breaks at the end.
Without it the indentation is that of the first line with text.

* `Yaml.Block.scan`: reads a block scalar after its first mark.
-/

namespace SqlProbe

namespace Yaml

namespace Block

/-! ### Headers -/

/-- What becomes of the line breaks at the end. -/
inductive Chomping where
  /-- None is kept. -/
  | strip
  /-- The first is kept. -/
  | clip
  /-- All are kept. -/
  | keep
deriving DecidableEq, Repr

/-- What the mark is followed by. -/
structure Header where
  /-- What becomes of the line breaks at the end. -/
  chomping : Chomping
  /-- The indentation relative to the surroundings, if it is told. -/
  increment : Option Nat
deriving DecidableEq, Repr

/-- The chomping of a sign. -/
def chompingOf? : List Char → Option Chomping
  | '+' :: _ => some .keep
  | '-' :: _ => some .strip
  | _ => none

/-- The number of a digit that is not zero; nothing, if the digit is zero. The
outer layer tells whether there is a digit at all. -/
def incrementOf? : List Char → Option (Option Nat)
  | c :: _ =>
    if Digit.isDecimal c then some (if c = '0' then none else some (Digit.value c)) else none
  | [] => none

/-- Reads a header: a sign and a digit in either order, each of them optional. -/
def header? (s : List Char) : Option (Header × List Char) :=
  match chompingOf? s, incrementOf? s with
  | some chomping, _ =>
    match incrementOf? (s.drop 1) with
    | none => some (⟨chomping, none⟩, s.drop 1)
    | some none => none
    | some (some n) => some (⟨chomping, some n⟩, s.drop 2)
  | none, some (some n) =>
    match chompingOf? (s.drop 1) with
    | some chomping => some (⟨chomping, some n⟩, s.drop 2)
    | none => some (⟨.clip, some n⟩, s.drop 1)
  | none, some none => none
  | none, none => some (⟨.clip, none⟩, s)

/-! ### Lines -/

/-- Line breaks and indentation that have been read. -/
structure Margin where
  /-- The breaks. -/
  breaks : List Char
  /-- The column reached. -/
  column : Nat
  /-- The greatest column that was reached on any of the lines. -/
  deepest : Nat
  /-- What follows. -/
  rest : List Char
deriving DecidableEq, Repr

/-- Reads breaks and indentation. If the indentation is known, blanks beyond it
are text. A tab is not allowed in place of indentation. -/
def margin? (indent : Option Nat) : List Char → Nat → Nat → List Char → Option Margin
  | breaks, column, deepest, [] => some ⟨breaks, column, max deepest column, []⟩
  | breaks, column, deepest, c :: rest =>
    let inside := indent.all (column < ·)
    if inside && c == ' ' then margin? indent breaks (column + 1) (max deepest (column + 1)) rest
    else if inside && c == '\t' then none
    else if isBreak c then margin? indent (breaks ++ [c]) 0 deepest rest
    else some ⟨breaks, column, max deepest column, c :: rest⟩

/-- The text so far and the breaks that wait for what follows. -/
structure Body where
  /-- The finished text. -/
  text : List Char
  /-- The break after the last line with text, if there is one. -/
  lastBreak : List Char
  /-- The breaks of the empty lines after it. -/
  emptyLines : List Char
  /-- Whether the last line with text started with a blank. -/
  wasBlank : Bool
deriving DecidableEq, Repr

/-- The text when another line follows, given whether it starts with a blank.
Between two lines that start with no blank a single line feed folds to a space. -/
def Body.joined (b : Body) (style : ScalarStyle) (startsBlank : Bool) : List Char :=
  if style == .folded && b.lastBreak == ['\n'] && !b.wasBlank && !startsBlank then
    b.text ++ (if b.emptyLines.isEmpty then [' '] else b.emptyLines)
  else b.text ++ b.lastBreak ++ b.emptyLines

/-- The text when no further line follows. -/
def Body.chomped (b : Body) : Chomping → List Char
  | .strip => b.text
  | .clip => b.text ++ b.lastBreak
  | .keep => b.text ++ b.lastBreak ++ b.emptyLines

/-- A scalar that has been read. -/
structure Scanned where
  /-- Its text. -/
  text : List Char
  /-- What follows it. -/
  rest : List Char
deriving DecidableEq, Repr

/-- Reads the lines from a margin on. Every line takes at least one character,
so that their number is at most that of the characters. -/
def lines? (style : ScalarStyle) (chomping : Chomping) (indent : Nat) :
    Nat → Body → Margin → Option Scanned
  | 0, b, m => some ⟨b.chomped chomping, m.rest⟩
  | fuel + 1, b, m =>
    if m.column = indent && !m.rest.isEmpty then
      let startsBlank := (m.rest.head?.map isBlank).getD false
      let line := m.rest.takeWhile (!isBreak ·)
      let after := m.rest.dropWhile (!isBreak ·)
      let text := b.joined style startsBlank ++ line
      let body : Body := ⟨text, after.take 1, [], startsBlank⟩
      match margin? (some indent) [] (if after.isEmpty then m.column + line.length else 0) 0
          (after.drop 1) with
      | some m' => lines? style chomping indent fuel { body with emptyLines := m'.breaks } m'
      | none => none
    else some ⟨b.chomped chomping, m.rest⟩

/-- Reads a block scalar after its first mark, for the column of the collection
around it, which is negative if there is none. -/
def scan (style : ScalarStyle) (outer : Int) (s : List Char) : Except Defect Scanned := do
  let (header, rest) ← expect .zeroIndentation (header? s)
  let rest ← expect .unendedHeader (finishLine? rest)
  let told := header.increment.map fun n => (if 0 ≤ outer then outer.toNat else 0) + n
  let margin ← expect .tabIndentation (margin? told [] 0 0 rest)
  let indent := told.getD (max margin.deepest (max (outer + 1).toNat 1))
  expect .tabIndentation
    (lines? style header.chomping indent rest.length ⟨[], [], margin.breaks, false⟩ margin)

example : (scan .literal 0 "\n  a\n\n   b\nc".toList).toOption =
    some ⟨"a\n\n b\n".toList, "c".toList⟩ := by decide +kernel
example : (scan .folded 0 ">-\n".toList).toOption = none := by decide +kernel
example : (scan .folded 0 "-\n  a\n  b\n\n  c\n".toList).toOption =
    some ⟨"a b\nc".toList, []⟩ := by decide +kernel

end Block

end Yaml

end SqlProbe
