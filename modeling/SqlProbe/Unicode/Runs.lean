import SqlProbe.Number.Decimal

/-!
# Runs of code points

Character properties are sets of code points, and most of them are short lists
of runs: intervals, or every other member of an interval where two cases of a
letter alternate. A table is written as text, one word a run, with code points
in hexadecimal:

* `5F`, a single code point;
* `41..5A`, an interval;
* `100..136/2`, every second member of an interval.

A word may end in a distance, `+20` or `-79`, for tables that map each member
of a run to another code point.
-/

namespace SqlProbe

namespace Unicode

/-- Code points at equal steps, from a first to a last one. -/
structure Run where
  /-- The first member. -/
  first : Nat
  /-- No member is past this one. -/
  last : Nat
  /-- The distance from one member to the next. -/
  step : Nat
  /-- How far from each member its image lies, in a table that maps. -/
  shift : Int
deriving DecidableEq, Repr

namespace Run

/-! ### Reading a table -/

/-- A text cut after its leading hexadecimal digits: their number, and the
rest. -/
def readHex (s : List Char) : Nat × List Char :=
  let (digits, rest) := s.span Digit.isHex
  (Digit.natOf 16 digits, rest)

/-- Reads the distance at the end of a word. -/
def readShift : List Char → Int
  | '+' :: rest => (readHex rest).1
  | '-' :: rest => -((readHex rest).1 : Int)
  | _ => 0

/-- Reads one word of a table. -/
def ofWord (w : List Char) : Run :=
  let (first, afterFirst) := readHex w
  let (last, afterLast) := match afterFirst with
    | '.' :: '.' :: rest => readHex rest
    | rest => (first, rest)
  let (step, afterStep) := match afterLast with
    | '/' :: rest => readHex rest
    | rest => (1, rest)
  { first, last, step, shift := readShift afterStep }

end Run

/-- A table: its runs in ascending order. -/
abbrev Table := List Run

namespace Table

/-- The words of a text, which spaces and line breaks separate. -/
def words (s : List Char) : List (List Char) :=
  let pieces := s.foldr (fun c ws =>
    match ws with
    | w :: rest => if c.isWhitespace then [] :: ws else (c :: w) :: rest
    | [] => [[c]]) [[]]
  pieces.filter (!·.isEmpty)

/-- Reads a table. -/
def ofText (s : String) : Table :=
  (words s.toList).map Run.ofWord

end Table

example : Table.words "a  b\nc".toList = [['a'], ['b'], ['c']] := by decide
example : Run.ofWord "100..136/2+1".toList = ⟨0x100, 0x136, 2, 1⟩ := by decide

end Unicode

end SqlProbe
