import SqlProbe.Number.Decimal

/-!
# Numerals in a query result

The numerals a result may be written in: decimal or exponent notation, or a
hexadecimal integer after `0x`, with an optional sign in front and with a
single `_` allowed between two digits.

* `Numeral.stripSeparators`: the removal of `_`, refused where one does not
  stand between two digits of the class in force.
* `Numeral.parse?`: reads a text that is one numeral and nothing else.
* `Numeral.toBinary64`: the nearest binary64 number, its sign kept for zero.
-/

namespace SqlProbe

/-- What a numeral denotes apart from its sign. -/
inductive Magnitude where
  /-- A natural number, from a hexadecimal numeral. -/
  | whole (n : Nat)
  /-- A scaled natural number, from a decimal one. -/
  | scaled (d : Decimal)
deriving DecidableEq, Repr

/-- A signed numeral. -/
structure Numeral where
  /-- Whether a minus sign is in front. -/
  negative : Bool
  /-- What stands after the sign. -/
  magnitude : Magnitude
deriving DecidableEq, Repr

namespace Numeral

/-! ### Separators -/

/-- `stripSeparators` for a text that follows the character `before`. -/
def stripAfter (isDigit : Char → Bool) : Option Char → List Char → Option (List Char)
  | _, [] => some []
  | before, c :: rest =>
    if c = '_' then
      if before.any isDigit && rest.head?.any isDigit then stripAfter isDigit (some c) rest
      else none
    else (stripAfter isDigit (some c) rest).map (c :: ·)

/-- A text without its `_` characters, provided that each of them has a digit
of the class directly on either side. -/
def stripSeparators (isDigit : Char → Bool) (s : List Char) : Option (List Char) :=
  stripAfter isDigit none s

/-! ### Reading -/

/-- A text cut after its sign, if it has one: whether that is a minus, and the
rest. -/
def splitSign : List Char → Bool × List Char
  | '-' :: rest => (true, rest)
  | '+' :: rest => (false, rest)
  | rest => (false, rest)

/-- The digits after a hexadecimal mark, if the text starts with one. -/
def hexBody? : List Char → Option (List Char)
  | '0' :: 'x' :: rest => some rest
  | '0' :: 'X' :: rest => some rest
  | _ => none

/-- The first natural number too large for a hexadecimal numeral. -/
def hexLimit : Nat := Nat.pow 2 128

/-- Reads hexadecimal digits with separators, below `hexLimit`. -/
def parseHex? (s : List Char) : Option Magnitude := do
  let digits ← stripSeparators Digit.isHex s
  if digits.isEmpty || !digits.all Digit.isHex then none
  else
    let n := Digit.natOf 16 digits
    if n < hexLimit then some (.whole n) else none

/-- Reads a decimal numeral with separators. -/
def parseDecimal? (s : List Char) : Option Magnitude := do
  let stripped ← stripSeparators Digit.isDecimal s
  let d ← Decimal.parse? stripped
  some (.scaled d)

/-- Reads what stands after the sign. -/
def parseMagnitude? (s : List Char) : Option Magnitude :=
  match hexBody? s with
  | some digits => parseHex? digits
  | none => parseDecimal? s

/-- Reads a text that is one numeral. -/
def parse? (s : List Char) : Option Numeral :=
  let (negative, body) := splitSign s
  (parseMagnitude? body).map fun magnitude => { negative, magnitude }

/-! ### Rounding -/

/-- The binary64 number nearest to the denoted one. -/
def toBinary64 (n : Numeral) : Binary64 :=
  match n.magnitude with
  | .whole k => Binary64.ofNat n.negative k
  | .scaled d => d.toBinary64 n.negative

example : parse? ("-0x1_0".toList) = some ⟨true, .whole 16⟩ := by decide
example : parse? ("0x_1".toList) = none := by decide
example : parse? ("+1_000.5".toList) = some ⟨false, .scaled ⟨10005, -1⟩⟩ := by decide
example : parse? ("--5".toList) = none := by decide

end Numeral

end SqlProbe
