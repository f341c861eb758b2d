import SqlProbe.Number.Decimal
import SqlProbe.Number.Shortest
import SqlProbe.Text.Quoted

/-!
# Values of a YAML document

What a plain scalar stands for, and values built from scalars.

* `Scalar.ofPlain`: null, a truth value, a number or else the text itself.
* `Value`: scalars, sequences, mappings and values under a tag.
* `Value.describe`: a value for people to read.
-/

namespace SqlProbe

namespace Yaml

/-- What a scalar stands for. -/
inductive Scalar where
  /-- Nothing. -/
  | null
  /-- A truth value. -/
  | bool (b : Bool)
  /-- An integer of 64 bits, with or without a sign. -/
  | integer (n : Int)
  /-- A larger integer of 128 bits, with or without a sign. -/
  | wideInteger (n : Int)
  /-- A binary64 number. -/
  | float (x : Binary64)
  /-- A text. -/
  | text (s : String)
deriving DecidableEq, Repr

namespace Scalar

/-! ### The words for null and truth -/

/-- Whether a text is one of the words for null. The empty text is none of
them. -/
def isNullWord (s : String) : Bool := ["null", "Null", "NULL", "~"].contains s

/-- The truth value of a word. -/
def bool? (s : String) : Option Bool :=
  if ["true", "True", "TRUE"].contains s then some true
  else if ["false", "False", "FALSE"].contains s then some false
  else none

/-! ### Integers -/

/-- Whether a character is a digit in a base. -/
def isDigitIn (base : Nat) (c : Char) : Bool := Digit.isHex c && Digit.value c < base

/-- The number a text denotes that consists of digits in a base. -/
def digits? (base : Nat) (s : List Char) : Option Nat :=
  if s.isEmpty || !s.all (isDigitIn base) then none else some (Digit.natOf base s)

/-- The number after a mark of its base, or that of a text without such a mark. -/
def natural? (s : List Char) : Option Nat :=
  match s with
  | '0' :: 'x' :: rest => digits? 16 rest
  | '0' :: 'o' :: rest => digits? 8 rest
  | '0' :: 'b' :: rest => digits? 2 rest
  | _ => digits? 10 s

/-- A text without the sign in front of it. -/
def dropSign : List Char → List Char
  | '-' :: rest => rest
  | '+' :: rest => rest
  | s => s

/-- Whether a text consists of digits of which the first is a zero that counts
for nothing. Such a text is no number. -/
def hasLeadingZero (s : List Char) : Bool :=
  match dropSign s with
  | '0' :: c :: rest => (c :: rest).all Digit.isDecimal
  | _ => false

/-- The integer a text denotes that has no minus sign. -/
def unsigned? (s : List Char) : Option Nat :=
  if hasLeadingZero s then none
  else
    match s with
    | '+' :: rest => natural? rest
    | _ => natural? s

/-- The size of the integer a text denotes that has a minus sign. -/
def negative? (s : List Char) : Option Nat :=
  if hasLeadingZero s then none
  else
    match s with
    | '-' :: rest => natural? rest
    | _ => none

/-! ### Binary64 numbers -/

/-- The number nearest to the one a decimal numeral denotes, if that is finite. -/
def finite? (negative : Bool) (s : List Char) : Option Binary64 :=
  ((Decimal.parse? s).map (Decimal.toBinary64 negative)).filter Binary64.isFinite

/-- The number a text without a plus sign denotes. -/
def unsignedFloat? (s : List Char) : Option Binary64 :=
  match s with
  | '-' :: rest => finite? true rest
  | _ => finite? false s

/-- The binary64 number a text denotes. -/
def float? (s : String) : Option Binary64 :=
  if [".inf", ".Inf", ".INF", "+.inf", "+.Inf", "+.INF"].contains s then
    some (Binary64.infinity false)
  else if ["-.inf", "-.Inf", "-.INF"].contains s then some (Binary64.infinity true)
  else if [".nan", ".NaN", ".NAN"].contains s then some Binary64.nan
  else
    match s.toList with
    | '+' :: '-' :: _ => none
    | '+' :: rest => unsignedFloat? rest
    | rest => unsignedFloat? rest

/-! ### Plain scalars -/

/-- The number after the largest integer of 64 bits. -/
def wideStart : Nat := Nat.pow 2 64

/-- The number after the largest integer of 128 bits. -/
def wideEnd : Nat := Nat.pow 2 128

/-- An integer of a width that has one. A negative integer spends one bit on
its sign. -/
def ofInt? (n : Int) : Option Scalar :=
  if -(wideStart / 2 : Nat) ≤ n ∧ n < wideStart then some (integer n)
  else if -(wideEnd / 2 : Nat) ≤ n ∧ n < wideEnd then some (wideInteger n)
  else none

/-- The integer a text denotes. -/
def integer? (s : List Char) : Option Scalar :=
  match unsigned? s with
  | some n => ofInt? n
  | none => (negative? s).bind fun n => ofInt? (-n)

/-- What a plain scalar stands for that is neither null nor a truth value. -/
def ofOther (s : String) : Scalar :=
  match integer? s.toList with
  | some n => n
  | none =>
    if hasLeadingZero s.toList then text s
    else
      match float? s with
      | some x => float x
      | none => text s

/-- What a plain scalar stands for. -/
def ofPlain (s : String) : Scalar :=
  if s.isEmpty || isNullWord s then null
  else
    match bool? s with
    | some b => bool b
    | none => ofOther s

example : ofPlain "~" = null := by decide +kernel
example : ofPlain "-0x1F" = integer (-31) := by decide +kernel
example : ofPlain "08" = text "08" := by decide +kernel
example : ofPlain "18446744073709551616" = wideInteger (2 ^ 64) := by decide +kernel
example : ofPlain "1e400" = text "1e400" := by decide +kernel
example : ofPlain "+.5" = float ⟨0x3FE0000000000000⟩ := by decide +kernel

end Scalar

/-! ### Values -/

/-- The layout of binary64 numbers as text: positional from 10⁻⁵ up to 10¹⁶, and
with the words of the language for what is not finite. -/
def numberLayout : DecimalLayout where
  isPositional point := -5 < point && point ≤ 16
  infinity := ".inf"
  nan := ".nan"

/-- A value. -/
inductive Value where
  /-- Nothing. -/
  | null
  /-- A truth value. -/
  | bool (b : Bool)
  /-- An integer. -/
  | integer (n : Int)
  /-- A binary64 number. -/
  | float (x : Binary64)
  /-- A text. -/
  | text (s : String)
  /-- A sequence. -/
  | sequence (items : List Value)
  /-- A mapping. -/
  | mapping (entries : List (Value × Value))
  /-- A value under a tag. -/
  | tagged (tag : String) (value : Value)
deriving Repr

namespace Value

/-- A tag without the exclamation mark in front of it, unless it is nothing else. -/
def tagName (tag : String) : String :=
  match tag.toList with
  | '!' :: c :: rest => String.ofList (c :: rest)
  | _ => tag

/-- Parts with a comma between them. -/
def commaSeparated (parts : List String) : String := ", ".intercalate parts

/-- Whether two binary64 numbers are the same key. All that is no number is one,
and so are both zeros. -/
def sameFloat (x y : Binary64) : Bool :=
  (x.isNaN && y.isNaN) ||
    (!x.isNaN && x.rank == y.rank && (x.isNegative == y.isNegative || x.rank == 0))

mutual

/-- Whether two values are the same key of a mapping. The order of the entries of
a mapping does not count. -/
def same : Value → Value → Bool
  | null, null => true
  | bool a, bool b => a == b
  | integer a, integer b => a == b
  | float a, float b => sameFloat a b
  | text a, text b => a == b
  | sequence a, sequence b => sameItems a b
  | mapping a, mapping b => a.length == b.length && sameEntries a b
  | tagged s a, tagged t b => tagName s == tagName t && same a b
  | _, _ => false

/-- Whether two lists hold the same keys. -/
def sameItems : List Value → List Value → Bool
  | [], [] => true
  | a :: as, b :: bs => same a b && sameItems as bs
  | _, _ => false

/-- Whether every entry has its like. -/
def sameEntries : List (Value × Value) → List (Value × Value) → Bool
  | [], _ => true
  | (k, v) :: rest, other => other.any (fun p => same k p.1 && same v p.2) && sameEntries rest other

end

/-- The text of a truth value. -/
def boolText (b : Bool) : String := if b then "true" else "false"

/-- A scalar key for people to read. Numbers and truth values are bare. -/
def describeKey? : Value → Option String
  | bool b => some (boolText b)
  | integer n => some n.repr
  | float x => some (numberLayout.render x)
  | text s => some (Text.quote s)
  | _ => none

mutual

/-- A value for people to read. -/
def describe : Value → String
  | null => "Null"
  | bool b => "Bool(" ++ boolText b ++ ")"
  | integer n => "Number(" ++ n.repr ++ ")"
  | float x => "Number(" ++ numberLayout.render x ++ ")"
  | text s => "String(" ++ Text.quote s ++ ")"
  | sequence items => "Sequence [" ++ commaSeparated (describeItems items) ++ "]"
  | mapping entries => "Mapping \x7b" ++ commaSeparated (describeEntries entries) ++ "\x7d"
  | tagged tag value =>
    "TaggedValue \x7b tag: !" ++ tagName tag ++ ", value: " ++ describe value ++ " \x7d"

/-- The items of a sequence for people to read. -/
def describeItems : List Value → List String
  | [] => []
  | v :: rest => describe v :: describeItems rest

/-- The entries of a mapping for people to read. -/
def describeEntries : List (Value × Value) → List String
  | [] => []
  | (k, v) :: rest =>
    ((describeKey? k).getD (describe k) ++ ": " ++ describe v) :: describeEntries rest

end

end Value

end Yaml

end SqlProbe
