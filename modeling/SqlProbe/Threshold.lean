import SqlProbe.Number.Decimal

/-!
# Thresholds

A threshold says for which values to alert. There are five forms, each written
with one or two runs of digits:

* `N:`, alert below `N`;
* `~:N`, alert above `N`;
* `N:M`, alert below `N` or above `M`;
* `@N:M`, alert from `N` to `M`, ends included;
* `N`, alert below zero or above `N`.

Boundaries and values are compared as 64-bit integers. A boundary too large for
one counts as the largest, and a value is cut to its whole part first.

* `Threshold.parse`: reads a threshold; the refusal keeps the text refused.
* `Threshold.text`: writes one back, in the form it is read from.
* `Threshold.alerts`: whether an integer violates it, and `Threshold.evaluate`
  the same for a binary64 value.
-/

namespace SqlProbe

/-- A condition on the value under which a check alerts. -/
inductive Threshold where
  /-- Alert below the boundary. -/
  | atLeast (low : Int64)
  /-- Alert above the boundary. -/
  | atMost (high : Int64)
  /-- Alert outside the closed range. -/
  | outside (low high : Int64)
  /-- Alert inside the closed range. -/
  | inside (low high : Int64)
  /-- Alert below zero or above the boundary. -/
  | upTo (high : Int64)
deriving DecidableEq, Repr

/-- A text that is no threshold. -/
structure ThresholdError where
  /-- The text as it was given. -/
  raw : String
deriving DecidableEq, Repr

namespace ThresholdError

/-- The wording of the refusal. -/
def message (e : ThresholdError) : String :=
  "\"" ++ e.raw ++ "\" is not a recognised threshold range"

end ThresholdError

/-- The answer of a threshold to one value. -/
inductive Outcome where
  /-- The value raises no alert. -/
  | within
  /-- The value raises an alert. -/
  | violated
deriving DecidableEq, Repr

namespace Threshold

/-! ### Boundaries -/

/-- The lower boundary, where the form has one. -/
def low? : Threshold → Option Int64
  | atLeast low | outside low _ | inside low _ => some low
  | atMost _ | upTo _ => none

/-- The upper boundary, where the form has one. -/
def high? : Threshold → Option Int64
  | atMost high | outside _ high | inside _ high | upTo high => some high
  | atLeast _ => none

/-! ### Reading -/

/-- The boundary a run of digits stands for: its number, or the largest 64-bit
integer if that is smaller. -/
def boundary (digits : List Char) : Int64 :=
  Int64.ofNat (min (Digit.natOf 10 digits) 0x7FFFFFFFFFFFFFFF)

/-- The boundary a text stands for that is digits only, at least one. -/
def boundary? (s : List Char) : Option Int64 :=
  if s.isEmpty || !s.all Digit.isDecimal then none else some (boundary s)

/-- Reads two boundaries with a colon between them. -/
def bounds? (s : List Char) : Option (Int64 × Int64) :=
  match Digit.spanDecimal s with
  | (digits, ':' :: rest) => do
    let low ← boundary? digits
    let high ← boundary? rest
    some (low, high)
  | _ => none

/-- Reads a threshold that is given as a list of characters. -/
def parse? (s : List Char) : Option Threshold :=
  match s with
  | '~' :: ':' :: rest => (boundary? rest).map atMost
  | '@' :: rest => (bounds? rest).map fun (low, high) => inside low high
  | _ =>
    match Digit.spanDecimal s with
    | (digits, []) => (boundary? digits).map upTo
    | (digits, [':']) => (boundary? digits).map atLeast
    | _ => (bounds? s).map fun (low, high) => outside low high

/-- Reads a threshold. The whole text has to be one of the five forms, with
nothing around it. -/
def parse (raw : String) : Except ThresholdError Threshold :=
  match parse? raw.toList with
  | some t => .ok t
  | none => .error ⟨raw⟩

/-! ### Writing -/

/-- A boundary in decimal digits, with a minus sign for a negative one. -/
def boundaryText (b : Int64) : String :=
  let n := b.toInt
  if n < 0 then "-" ++ Nat.repr n.natAbs else Nat.repr n.natAbs

/-- The written form. -/
def text : Threshold → String
  | atLeast low => boundaryText low ++ ":"
  | atMost high => "~:" ++ boundaryText high
  | outside low high => boundaryText low ++ ":" ++ boundaryText high
  | inside low high => "@" ++ boundaryText low ++ ":" ++ boundaryText high
  | upTo high => boundaryText high

/-! ### Deciding -/

/-- Whether an integer violates the threshold. -/
def alerts : Threshold → Int64 → Bool
  | atLeast low, v => v < low
  | atMost high, v => high < v
  | outside low high, v => v < low || high < v
  | inside low high, v => low ≤ v && v ≤ high
  | upTo high, v => v < 0 || high < v

/-- The answer to an integer. -/
def evaluateInt (t : Threshold) (v : Int64) : Outcome :=
  if t.alerts v then .violated else .within

/-- The answer to a binary64 value, by its whole part. -/
def evaluate (t : Threshold) (v : Binary64) : Outcome :=
  t.evaluateInt v.toInt64

example : parse? "5:10".toList = some (outside 5 10) := by decide +kernel
example : parse? "~:7".toList = some (atMost 7) := by decide +kernel
example : parse? "99999999999999999999".toList = some (upTo Int64.maxValue) := by decide +kernel
example : parse? "5:10:15".toList = none := by decide +kernel
example : (inside 5 10).text = "@5:10" := by decide +kernel

end Threshold

end SqlProbe
