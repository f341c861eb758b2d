import SqlProbe.Number.Binary64

/-!
# Shortest decimal text

The fewest digits that still read back as a given binary64 number. The numbers
that round to it form an interval, which includes its ends if the rank is even.
The shortest decimal is on the coarsest grid of decimals, that is of multiples
of one power of ten, that has a point in the interval; of two such points the
one nearer to the number is taken, of two equally near ones the even one.

* `Binary64.shortest`: the digits and the power of ten of that point.
* `DecimalLayout.render`: a number in a given layout.

Everything is counted in half units, of which `2 ^ 1075` make one, so that both
ends of the interval are natural numbers.
-/

namespace SqlProbe

namespace Binary64

/-- The size of a rank, in units. -/
def unitsOf (rank : Nat) : Nat := (decode rank).1 * Nat.pow 2 (decode rank).2

/-- The lower end of the sizes that round to a rank, in half units. -/
def lowerEnd (rank : Nat) : Nat := unitsOf (rank - 1) + unitsOf rank

/-- The upper end of the sizes that round to a rank, in half units. -/
def upperEnd (rank : Nat) : Nat := unitsOf rank + unitsOf (rank + 1)

/-- Whether `num / den` half units round to a rank. -/
def roundsTo (rank num den : Nat) : Bool :=
  if rank % 2 = 0 then lowerEnd rank * den ≤ num && num ≤ upperEnd rank * den
  else lowerEnd rank * den < num && num < upperEnd rank * den

/-- The point of the grid of multiples of `10 ^ k` that reads back as the given
rank, if there is one: its place on the grid. -/
def onGrid? (rank : Nat) (k : Int) : Option Nat :=
  let (step, den) : Nat × Nat :=
    if 0 ≤ k then (Nat.pow 10 k.toNat * (2 * one), 1) else (2 * one, Nat.pow 10 (-k).toNat)
  let size := 2 * unitsOf rank * den
  let below := size / step
  let isBelow := roundsTo rank (below * step) den
  let isAbove := roundsTo rank ((below + 1) * step) den
  let toBelow := size - below * step
  let toAbove := (below + 1) * step - size
  if isBelow && isAbove then
    if toBelow < toAbove || (toBelow == toAbove && below % 2 == 0) then some below
    else some (below + 1)
  else if isBelow then some below
  else if isAbove then some (below + 1)
  else none

/-- The coarsest grid that is tried: its step is past the largest number. -/
def coarsest : Int := 309

/-- How many grids are tried. The finest one has a step below the smallest
distance between two numbers. -/
def gridCount : Nat := 640

/-- The shortest decimal that reads back as a finite number other than zero, as
digits and the power of ten they are scaled by. Its sign is left out. -/
def shortest (x : Binary64) : Nat × Int :=
  ((List.range gridCount).findSome? fun (i : Nat) =>
    let k := coarsest - (i : Int)
    (onGrid? x.rank k).map fun digits => (digits, k)).getD (0, 0)

end Binary64

example : (⟨0x3FF199999999999A⟩ : Binary64).shortest = (11, -1) := by decide +kernel
example : (⟨1⟩ : Binary64).shortest = (5, -324) := by decide +kernel
example : (⟨0x7FEFFFFFFFFFFFFF⟩ : Binary64).shortest = (17976931348623157, 292) := by
  decide +kernel
example : (⟨0x408F400000000000⟩ : Binary64).shortest = (1, 3) := by decide +kernel

/-! ### Layouts -/

/-- How a format writes binary64 numbers. -/
structure DecimalLayout where
  /-- Whether a number is written without an exponent, by the place of its point
  counted from its first digit. -/
  isPositional : Int → Bool
  /-- The text of positive infinity. -/
  infinity : String
  /-- The text of what is no number. -/
  nan : String

namespace DecimalLayout

/-- Digits with a point at the given place, zeros filling the gap, and with at
least one digit on either side of the point. -/
def positional (digits : String) (point : Int) : String :=
  let length : Int := digits.length
  if point ≤ 0 then "0." ++ "".pushn '0' (-point).toNat ++ digits
  else if point < length then
    String.ofList (digits.toList.take point.toNat) ++ "." ++
      String.ofList (digits.toList.drop point.toNat)
  else digits ++ "".pushn '0' (point - length).toNat ++ ".0"

/-- Digits with a point after the first of them and an exponent. -/
def scientific (digits : String) (point : Int) : String :=
  let tail := digits.toList.drop 1
  String.ofList (digits.toList.take 1) ++
    (if tail.isEmpty then "" else "." ++ String.ofList tail) ++ "e" ++ (point - 1).repr

/-- A finite number without its sign. -/
def renderSize (layout : DecimalLayout) (x : Binary64) : String :=
  if x.rank = 0 then "0.0"
  else
    let (number, scale) := x.shortest
    let digits := number.repr
    let point : Int := digits.length + scale
    if layout.isPositional point then positional digits point else scientific digits point

/-- A number in the layout. -/
def render (layout : DecimalLayout) (x : Binary64) : String :=
  if x.isNaN then layout.nan
  else
    (if x.isNegative then "-" else "") ++
      if x.isInfinite then layout.infinity else layout.renderSize x

example : positional "1234" 2 = "12.34" := by cbv
example : positional "12" 4 = "1200.0" := by cbv
example : scientific "15" 22 = "1.5e21" := by cbv

end DecimalLayout

end SqlProbe
