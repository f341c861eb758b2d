import SqlProbe.Number.Decimal
import SqlProbe.Yaml.Defect
import SqlProbe.Yaml.Text

/-!
# Quoted scalars

Scalars between quotes. Line breaks inside are folded as in plain scalars. Between
apostrophes, an apostrophe is written twice and nothing else is special; between
double quotes a backslash begins an escape.

* `Yaml.Quoted.scanSingle`, `Yaml.Quoted.scanDouble`: read a scalar whose opening
  quote has been read, up to and with the closing one.
-/

namespace SqlProbe

namespace Yaml

namespace Quoted

/-- A scalar that has been read, and what follows it. -/
structure Scanned where
  /-- Its text. -/
  text : List Char
  /-- What follows the closing quote. -/
  rest : List Char
deriving DecidableEq, Repr

/-- A scalar with a gap and a text in front. -/
def Scanned.behind (r : Scanned) (gap : Gap) (text : List Char) : Scanned :=
  { r with text := gap.fold ++ text ++ r.text }

/-- Whether a line inside the quotes starts with a mark of documents, which is
not allowed. -/
def isCutOff (lineStart : Bool) (text : List Char) : Bool :=
  lineStart && startsDocumentMark text

/-- Reads on after a gap. The flag tells whether a line starts here. -/
def scanSingleFrom : Gap → Bool → List Char → Except Defect Scanned
  | _, _, [] => .error .unclosedScalar
  | gap, _, ['\''] => .ok ⟨gap.fold, []⟩
  | gap, _, '\'' :: c :: rest =>
    if c = '\'' then (scanSingleFrom .none false rest).map (·.behind gap ['\''])
    else .ok ⟨gap.fold, c :: rest⟩
  | gap, lineStart, c :: rest =>
    if isBlank c then scanSingleFrom (gap.addBlank c) false rest
    else if isBreak c then scanSingleFrom (gap.addBreak c) true rest
    else if isCutOff lineStart (c :: rest) then .error .cutOffScalar
    else (scanSingleFrom .none false rest).map (·.behind gap [c])

/-- Reads a scalar between apostrophes. -/
def scanSingle (text : List Char) : Except Defect Scanned := scanSingleFrom .none false text

/-! ### Escapes -/

/-- The character of a one-letter escape. -/
def escaped? : Char → Option Char
  | '0' => some '\x00'
  | 'a' => some '\x07'
  | 'b' => some '\x08'
  | 't' => some '\t'
  | '\t' => some '\t'
  | 'n' => some '\n'
  | 'v' => some '\x0b'
  | 'f' => some '\x0c'
  | 'r' => some '\r'
  | 'e' => some '\x1b'
  | ' ' => some ' '
  | '"' => some '"'
  | '/' => some '/'
  | '\\' => some '\\'
  | 'N' => some '\u0085'
  | '_' => some '\u00a0'
  | 'L' => some '\u2028'
  | 'P' => some '\u2029'
  | _ => none

/-- How many hexadecimal digits follow the letter of a numeric escape. -/
def digitCount? : Char → Option Nat
  | 'x' => some 2
  | 'u' => some 4
  | 'U' => some 8
  | _ => none

/-- The character of a number given in hexadecimal digits. -/
def numbered (digits : List Char) : Except Defect Char :=
  let n := Digit.natOf 16 digits
  if !digits.all Digit.isHex then .error .badDigits
  else if n < 0xD800 || (0xDFFF < n && n ≤ 0x10FFFF) then .ok (Char.ofNat n)
  else .error .badCode

/-- What is being read between double quotes. -/
inductive State where
  /-- Text, after a gap; the flag tells whether a line starts here. -/
  | text (gap : Gap) (lineStart : Bool)
  /-- The letter of an escape. -/
  | escape
  /-- The digits of a numeric escape, and how many are still to come. -/
  | digits (done : List Char) (left : Nat)
deriving DecidableEq, Repr

/-- What is wrong where a text ends in a state. -/
def State.unended : State → Defect
  | text _ _ => .unclosedScalar
  | escape => .unknownEscape
  | digits _ _ => .badDigits

/-- The state after a character, and the text the character adds. A closing quote
is not handled here. -/
def step (state : State) (text : List Char) (c : Char) : Except Defect (State × List Char) :=
  match state with
  | .text gap lineStart =>
    if isBlank c then .ok (.text (gap.addBlank c) false, [])
    else if isBreak c then .ok (.text (gap.addBreak c) true, [])
    else if isCutOff lineStart text then .error .cutOffScalar
    else if c = '\\' then .ok (.escape, gap.fold)
    else .ok (.text .none false, gap.fold ++ [c])
  | .escape =>
    if isBreak c then .ok (.text (.breaks none []) true, [])
    else
      match escaped? c, digitCount? c with
      | some e, _ => .ok (.text .none false, [e])
      | none, some count => .ok (.digits [] count, [])
      | none, none => .error .unknownEscape
  | .digits done left =>
    if left ≤ 1 then (numbered (done ++ [c])).map fun e => (.text .none false, [e])
    else if Digit.isHex c then .ok (.digits (done ++ [c]) (left - 1), [])
    else .error .badDigits

/-- Reads on in a state. -/
def scanDoubleFrom : State → List Char → Except Defect Scanned
  | state, [] => .error state.unended
  | state, c :: rest =>
    match state, c with
    | .text gap _, '"' => .ok ⟨gap.fold, rest⟩
    | state, c => do
      let (next, added) ← step state (c :: rest) c
      let r ← scanDoubleFrom next rest
      .ok { r with text := added ++ r.text }

/-- Reads a scalar between double quotes. -/
def scanDouble (text : List Char) : Except Defect Scanned :=
  scanDoubleFrom (.text .none false) text

example : (scanSingle "it''s'x".toList).toOption = some ⟨"it's".toList, "x".toList⟩ := by
  decide +kernel
example : (scanDouble "a\\u00e9\\\n  b\n c\" d".toList).toOption =
    some ⟨"aéb c".toList, " d".toList⟩ := by decide +kernel
example : (scanDouble "\\'\"".toList).toOption = none := by decide +kernel

end Quoted

end Yaml

end SqlProbe
