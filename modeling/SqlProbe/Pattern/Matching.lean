import SqlProbe.Pattern.Extent
import SqlProbe.Pattern.Flags

/-!
# Matching

Whether a pattern matches somewhere in a text. The places of a text, one before
each character and one at the end, are numbered from zero, and a set of places
is a natural number whose bits are its members. An expression then acts on sets
of places: given where matches of what precedes it may end, it answers where
its own matches may end. A pattern matches if, started from all places at once,
it ends anywhere.

* `Expression.ends`: that action, for steps that are already laid out over a
  text.
* `Pattern.layOut`: lays a step out over a text.
* `Pattern.isMatch`: the search.

Every round of an unlimited repetition adds a place or is the last, so the
number of places bounds the rounds.
-/

namespace SqlProbe

namespace Pattern

/-! ### Sets of places -/

/-- The set of the places at which a list of answers holds. -/
def placesOf (answers : List Bool) : Nat :=
  answers.foldr (fun b places => 2 * places + b.toNat) 0

/-- Applies `f` up to `k` times, but stops where it no longer changes its
argument. -/
def iterate (f : Nat → Nat) : (k : Nat) → Nat → Nat
  | 0, places => places
  | k + 1, places =>
    let next := f places
    if next = places then places else iterate f k next

/-- A step laid out over a text. -/
structure Layout where
  /-- The places from which the step can be taken. -/
  places : Nat
  /-- How many places the step moves on. -/
  advance : Nat
deriving DecidableEq, Repr

end Pattern

open Pattern

namespace Expression

mutual

/-- The places where matches of the expression end that start at the given
places, in a text of `size` places. -/
def ends (size : Nat) : Expression Layout → Nat → Nat
  | empty, places => places
  | step l, places => (places &&& l.places) <<< l.advance
  | repeated body low high _, places =>
    let atLeast := iterate (body.ends size) low places
    let rounds := match high with
      | some h => h - low
      | none => size
    iterate (fun p => p ||| body.ends size p) rounds atLeast
  | capture body, places => body.ends size places
  | seq items, places => endsInTurn size items places
  | alt branches, places => endsOfAny size branches places

/-- The places where matches of all of the expressions, one after another, end. -/
def endsInTurn (size : Nat) : List (Expression Layout) → Nat → Nat
  | [], places => places
  | e :: rest, places => endsInTurn size rest (e.ends size places)

/-- The places where matches of any of the expressions end. -/
def endsOfAny (size : Nat) : List (Expression Layout) → Nat → Nat
  | [], _ => 0
  | e :: rest, places => e.ends size places ||| endsOfAny size rest places

end

end Expression

namespace Pattern

/-! ### Laying out -/

/-- The characters before and after each place of a text, given the one before
the first place. -/
def surroundings : (before : Option Char) → List Char → List (Option Char × Option Char)
  | before, [] => [(before, none)]
  | before, c :: rest => (before, some c) :: surroundings (some c) rest

/-- The texts that begin at each place of a text. -/
def suffixes : List Char → List (List Char)
  | [] => [[]]
  | c :: rest => (c :: rest) :: suffixes rest

/-- Lays a step out over a text. -/
def layOut (text : List Char) : Step → Layout
  | .literal cs => ⟨placesOf ((suffixes text).map cs.isPrefixOf), cs.length⟩
  | .set s _ => ⟨placesOf (text.map s.mem), 1⟩
  | .place p =>
    ⟨placesOf ((surroundings none text).map fun (before, after) => p.holds before after), 0⟩

end Pattern

/-! ### Patterns -/

/-- A pattern that can be searched for. -/
structure Pattern where
  /-- The expression over characters and places. -/
  expression : Expression Pattern.Step

namespace Pattern

/-- Reads a pattern and applies its flags. -/
def compile (text : String) : Except PatternError Pattern := do
  let ast ← parse text.toList
  let (expression, _) ← express Flags.initial ast
  if expression.fits then .ok ⟨expression⟩ else .error .tooLarge

/-- Whether the pattern matches somewhere in a text. -/
def isMatch (p : Pattern) (text : String) : Bool :=
  let cs := text.toList
  let size := cs.length + 1
  (p.expression.map (layOut cs)).ends size (Nat.pow 2 size - 1) != 0

/-- Whether a text is a pattern that can be used. -/
def compiles (text : String) : Bool := (compile text).isOk

end Pattern

end SqlProbe
