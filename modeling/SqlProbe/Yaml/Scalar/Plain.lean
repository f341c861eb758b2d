import SqlProbe.Yaml.Defect
import SqlProbe.Yaml.Text

/-!
# Plain scalars

Scalars without quotes. Such a scalar ends before a comment, before a colon that
a separator follows, before a mark of a flow collection if it is inside one,
and where a further line is not indented enough. Its inner line breaks are
folded, and blanks at its end do not belong to it.

* `Yaml.Plain.scan`: reads a plain scalar.
-/

namespace SqlProbe

namespace Yaml

namespace Plain

/-- What a scalar has around it. -/
structure Surroundings where
  /-- Whether a flow collection is open. -/
  inFlow : Bool
  /-- The least column of a further line. -/
  indent : Int
deriving DecidableEq, Repr

/-- A scalar that has been read. -/
structure Scanned where
  /-- Its text. -/
  text : List Char
  /-- What follows it and the gap behind it. -/
  rest : List Char
  /-- Whether that gap contains a line break. -/
  broken : Bool
deriving DecidableEq, Repr

/-- Whether a character is a mark of a flow collection. -/
def isFlowMark (c : Char) : Bool :=
  c == ',' || c == '[' || c == ']' || c == '\x7b' || c == '\x7d'

/-- Whether no text can follow a gap, for the column after it. -/
def endsAfterGap (s : Surroundings) (gap : Gap) (column : Nat) (text : List Char) : Bool :=
  match gap with
  | .none => false
  | .blanks _ => text.head? == some '#'
  | .breaks _ _ =>
    (!s.inFlow && decide ((column : Int) < s.indent)) || (column == 0 && startsDocumentMark text) ||
      text.head? == some '#'

/-- Whether a scalar ends before a text that starts with neither a blank nor a
break. -/
def endsBefore (s : Surroundings) : List Char → Bool
  | [] => true
  | c :: rest => (c == ':' && startsSeparated rest) || (s.inFlow && isFlowMark c)

/-- Whether a text starts with a colon that a flow collection does not allow. -/
def startsBadColon (s : Surroundings) : List Char → Bool
  | ':' :: c :: _ => s.inFlow && (isFlowMark c || c == '?')
  | _ => false

/-- Reads on after a gap, at a column. -/
def scanFrom (s : Surroundings) : Gap → Nat → List Char → Except Defect Scanned
  | gap, _, [] => .ok ⟨[], [], gap.isBroken⟩
  | gap, column, c :: rest =>
    if isBlank c then
      if gap.isBroken && c == '\t' && decide ((column : Int) < s.indent) then .error .badTab
      else scanFrom s (gap.addBlank c) (column + 1) rest
    else if isBreak c then scanFrom s (gap.addBreak c) 0 rest
    else if endsAfterGap s gap column (c :: rest) then .ok ⟨[], c :: rest, gap.isBroken⟩
    else if startsBadColon s (c :: rest) then .error .badColon
    else if endsBefore s (c :: rest) then .ok ⟨[], c :: rest, gap.isBroken⟩
    else
      (scanFrom s .none (column + 1) rest).map fun r =>
        { r with text := gap.fold ++ c :: r.text }

/-- Reads a plain scalar that starts at a column. -/
def scan (s : Surroundings) (column : Nat) (text : List Char) : Except Defect Scanned :=
  scanFrom s .none column text

example : (scan ⟨false, 1⟩ 6 "a\n  b # c".toList).toOption =
    some ⟨"a b".toList, "# c".toList, false⟩ := by decide +kernel
example : (scan ⟨false, 1⟩ 6 "a:b\nc: d".toList).toOption =
    some ⟨"a:b".toList, "c: d".toList, true⟩ := by decide +kernel

end Plain

end Yaml

end SqlProbe
