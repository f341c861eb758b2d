import SqlProbe.Number.Binary64

/-!
# Decimal numerals

Unsigned numerals in decimal and exponent notation, the exact number one
denotes, and the binary64 number nearest to it.

A numeral is digits with at most one point among them, at least one digit in
all, and then at most one exponent. It denotes `significand * 10 ^ exponent`
for an integer exponent, and this pair is the whole result of reading.

* `Decimal.parse?`: reads a text that is one numeral and nothing else.
* `Decimal.toBinary64`: rounds the denoted number once. Numbers too large or
  too small for the format are recognised from the exponent alone, so that a
  long exponent costs nothing.
-/

namespace SqlProbe

/-- The number `significand * 10 ^ exponent`, exactly. -/
structure Decimal where
  /-- The digits of the numeral, point ignored. -/
  significand : Nat
  /-- The power of ten they are scaled by. -/
  exponent : Int
deriving DecidableEq, Repr

/-! ### Digits -/

namespace Digit

/-- Whether a character is one of the ten ASCII digits. -/
def isDecimal (c : Char) : Bool := '0' ≤ c && c ≤ '9'

/-- Whether a character is an ASCII hexadecimal digit, in either case. -/
def isHex (c : Char) : Bool :=
  isDecimal c || ('a' ≤ c && c ≤ 'f') || ('A' ≤ c && c ≤ 'F')

/-- What a digit counts, hexadecimal ones included. -/
def value (c : Char) : Nat :=
  if isDecimal c then c.toNat - '0'.toNat
  else if 'a' ≤ c then c.toNat - 'a'.toNat + 10
  else c.toNat - 'A'.toNat + 10

/-- The number a run of digits denotes in a base. -/
def natOf (base : Nat) (digits : List Char) : Nat :=
  digits.foldl (fun n c => n * base + value c) 0

/-- A text cut after its leading run of decimal digits. -/
def spanDecimal (s : List Char) : List Char × List Char :=
  s.span isDecimal

end Digit

namespace Decimal

/-! ### Reading -/

/-- The exponent's size from which on its further digits no longer count: no
numeral of a smaller length can bring so large a scale back into range. -/
def exponentCeiling : Nat := 65536

/-- The number a run of exponent digits stands for. -/
def exponentSize (digits : List Char) : Nat :=
  digits.foldl (fun n c => if n < exponentCeiling then n * 10 + Digit.value c else n) 0

/-- Reads what follows the exponent letter: an optional sign and digits up to
the end. -/
def parseExponent? (s : List Char) : Option Int :=
  let (negative, digits) := match s with
    | '-' :: rest => (true, rest)
    | '+' :: rest => (false, rest)
    | rest => (false, rest)
  if digits.isEmpty || !digits.all Digit.isDecimal then none
  else
    let size : Int := exponentSize digits
    some (if negative then -size else size)

/-- Reads the part after the mantissa: nothing, or an exponent. -/
def parseScale? : List Char → Option Int
  | [] => some 0
  | c :: rest => if c = 'e' || c = 'E' then parseExponent? rest else none

/-- Reads a text that is one unsigned decimal numeral. -/
def parse? (s : List Char) : Option Decimal :=
  let (whole, afterWhole) := Digit.spanDecimal s
  let (fraction, rest) := match afterWhole with
    | '.' :: more => Digit.spanDecimal more
    | more => ([], more)
  if whole.isEmpty && fraction.isEmpty then none
  else (parseScale? rest).map fun scale =>
    { significand := Digit.natOf 10 (whole ++ fraction)
      exponent := scale - fraction.length }

/-! ### Rounding -/

/-- The binary64 number nearest to the denoted one, with the given sign. From
`10 ^ 309` on everything is past the largest finite number; and a significand
below `2 ^ b` scaled by `10 ^ (-k)` with `3 * k ≥ b + 1075` is at most half of
the smallest positive one. -/
def toBinary64 (negative : Bool) (d : Decimal) : Binary64 :=
  if d.significand = 0 then Binary64.zero negative
  else if 0 ≤ d.exponent then
    if 309 ≤ d.exponent then Binary64.infinity negative
    else Binary64.ofNat negative (d.significand * Nat.pow 10 d.exponent.toNat)
  else
    let k := (-d.exponent).toNat
    if d.significand.log2 + 1 + 1075 ≤ 3 * k then Binary64.zero negative
    else Binary64.ofRatio negative d.significand (Nat.pow 10 k)

example : parse? ("12.50e-3".toList) = some ⟨1250, -5⟩ := by decide
example : parse? (".".toList) = none := by decide
example : parse? ("1e".toList) = none := by decide
example : (parse? ("0.1".toList)).map (toBinary64 false) = some ⟨0x3FB999999999999A⟩ := by
  decide +kernel

end Decimal

end SqlProbe
