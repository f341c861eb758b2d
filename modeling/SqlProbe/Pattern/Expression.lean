import SqlProbe.Pattern.CharClass

/-!
# Regular expressions

What is left of a pattern once its flags are applied: a regular expression over
steps, where a step is a run of characters, one character of a set, or a condition
on a place. Expressions are built by functions that keep them in one form, so that
two spellings of one expression often come out the same:

* no sequence stands directly in a sequence, and no choice directly in a choice;
* neighbouring runs of characters are one run;
* a choice between single characters, or between sets, is a set;
* what all branches of a choice begin with stands in front of the choice.

The form decides how large the compiled pattern is, see `Pattern.Extent`.

* `Expression`: regular expressions over any kind of step.
* `Pattern.Step`, `Pattern.Place`: the steps of patterns.
* `Expression.ofSet`, `repeating`, `sequence`, `choice`: the functions that build
  them.
-/

namespace SqlProbe

/-- A regular expression over steps of type `α`. -/
inductive Expression (α : Type) where
  /-- Nothing. -/
  | empty
  /-- One step. -/
  | step (a : α)
  /-- A number of times between two counts; no upper count means no limit. A lazy
  repetition prefers the fewest times. -/
  | repeated (body : Expression α) (low : Nat) (high : Option Nat) (isLazy : Bool)
  /-- A group that keeps its match. -/
  | capture (body : Expression α)
  /-- One after another. -/
  | seq (items : List (Expression α))
  /-- One of several. -/
  | alt (branches : List (Expression α))

namespace Expression

mutual

/-- The expression with each step replaced. -/
def map {α β : Type} (f : α → β) : Expression α → Expression β
  | empty => empty
  | step a => step (f a)
  | repeated body low high isLazy => repeated (body.map f) low high isLazy
  | capture body => capture (body.map f)
  | seq items => seq (mapAll f items)
  | alt branches => alt (mapAll f branches)

/-- The expressions with each step replaced. -/
def mapAll {α β : Type} (f : α → β) : List (Expression α) → List (Expression β)
  | [] => []
  | e :: rest => e.map f :: mapAll f rest

end

mutual

/-- How many nodes the expression has. -/
def size {α : Type} : Expression α → Nat
  | empty => 1
  | step _ => 1
  | repeated body _ _ _ => body.size + 1
  | capture body => body.size + 1
  | seq items => sizeAll items + 1
  | alt branches => sizeAll branches + 1

/-- How many nodes the expressions have together. -/
def sizeAll {α : Type} : List (Expression α) → Nat
  | [] => 0
  | e :: rest => e.size + sizeAll rest

end

mutual

/-- Whether two expressions are the same. Two groups that keep their matches never
are, since they are two groups. -/
def same {α : Type} [BEq α] : Expression α → Expression α → Bool
  | empty, empty => true
  | step a, step b => a == b
  | repeated a low high isLazy, repeated b low' high' isLazy' =>
    low == low' && high == high' && isLazy == isLazy' && a.same b
  | seq as, seq bs => sameAll as bs
  | alt as, alt bs => sameAll as bs
  | _, _ => false

/-- Whether two lists hold the same expressions. -/
def sameAll {α : Type} [BEq α] : List (Expression α) → List (Expression α) → Bool
  | [], [] => true
  | a :: as, b :: bs => a.same b && sameAll as bs
  | _, _ => false

end

end Expression

namespace Pattern

/-! ### Places -/

/-- A condition on whether word characters stand before and after a place. -/
inductive WordPlace where
  /-- On one side only. -/
  | boundary
  /-- On both sides or on none. -/
  | notBoundary
  /-- After it and not before. -/
  | start
  /-- Before it and not after. -/
  | stop
  /-- Not before. -/
  | startHalf
  /-- Not after. -/
  | stopHalf
deriving DecidableEq, Repr

/-- Whether the condition holds, given whether word characters stand before and
after. -/
def WordPlace.holds : WordPlace → (before after : Bool) → Bool
  | boundary, before, after => before != after
  | notBoundary, before, after => before == after
  | start, before, after => !before && after
  | stop, before, after => before && !after
  | startHalf, before, _ => !before
  | stopHalf, _, after => !after

/-- A condition on the place between two characters. -/
inductive Place where
  /-- The start of the text. -/
  | textStart
  /-- The end of the text. -/
  | textEnd
  /-- The start of a line; the flag says whether a carriage return ends one. -/
  | lineStart (crlf : Bool)
  /-- The end of a line. -/
  | lineEnd (crlf : Bool)
  /-- A condition on word characters, in the Unicode sense or the ASCII one. -/
  | word (unicode : Bool) (kind : WordPlace)
deriving DecidableEq, Repr

/-- Whether the condition holds between two characters; none stands for an end of
the text. -/
def Place.holds : Place → (before after : Option Char) → Bool
  | textStart, before, _ => before.isNone
  | textEnd, _, after => after.isNone
  | lineStart false, before, _ => before.isNone || before == some '\n'
  | lineStart true, before, after =>
    before.isNone || before == some '\n' || (before == some '\r' && after != some '\n')
  | lineEnd false, _, after => after.isNone || after == some '\n'
  | lineEnd true, before, after =>
    after.isNone || after == some '\r' || (after == some '\n' && before != some '\r')
  | word unicode kind, before, after =>
    kind.holds (before.any (isWord unicode)) (after.any (isWord unicode))

/-! ### Steps -/

/-- What one step of a pattern asks for. -/
inductive Step where
  /-- A run of characters. -/
  | literal (chars : List Char)
  /-- A character of a set, which was asked for in bytes or in characters. -/
  | set (chars : CharSet) (inBytes : Bool)
  /-- A condition on a place. -/
  | place (p : Place)
deriving DecidableEq, Repr

end Pattern

open Pattern

namespace Expression

/-! ### What an expression can match -/

mutual

/-- Whether the expression matches nothing but the empty text. -/
def isVoid : Expression Step → Bool
  | empty => true
  | step (.literal cs) => cs.isEmpty
  | step (.set _ _) => false
  | step (.place _) => true
  | repeated body _ high _ => high.isSome && body.isVoid
  | capture body => body.isVoid
  | seq items => areVoid items
  | alt branches => areVoid branches

/-- Whether all of the expressions match nothing but the empty text. -/
def areVoid : List (Expression Step) → Bool
  | [] => true
  | e :: rest => e.isVoid && areVoid rest

end

mutual

/-- Whether every match begins at a place of the given kind. In a sequence the
items up to the first that may take a character are asked; `backward` asks for the
ends of matches, from the last item on. -/
def isBoundBy (p : Place) (backward : Bool) : Expression Step → Bool
  | step (.place q) => q == p
  | empty | step _ => false
  | repeated body low _ _ => low != 0 && body.isBoundBy p backward
  | capture body => body.isBoundBy p backward
  | seq items =>
    if backward then (lastBound p backward items).1 else firstBound p backward items
  | alt branches => allBound p backward branches

/-- Whether one of the first items is bound, up to the first that may take a
character. -/
def firstBound (p : Place) (backward : Bool) : List (Expression Step) → Bool
  | [] => false
  | e :: rest => e.isBoundBy p backward || (e.isVoid && firstBound p backward rest)

/-- Whether one of the last items is bound, from the last that may take a character
on, and whether none may take one. -/
def lastBound (p : Place) (backward : Bool) : List (Expression Step) → Bool × Bool
  | [] => (false, true)
  | e :: rest =>
    let (bound, void) := lastBound p backward rest
    (bound || (void && e.isBoundBy p backward), void && e.isVoid)

/-- Whether each of the expressions is bound. -/
def allBound (p : Place) (backward : Bool) : List (Expression Step) → Bool
  | [] => true
  | e :: rest => e.isBoundBy p backward && allBound p backward rest

end

/-! ### Building expressions -/

/-- A character of a set. The set of one character is a run of one. -/
def ofSet (s : CharSet) (inBytes : Bool) : Expression Step :=
  match s.single? with
  | some c => step (.literal [c])
  | none => step (.set s (inBytes || s == .empty))

/-- A repetition. What only matches the empty text is not worth repeating. -/
def repeating (body : Expression Step) (low : Nat) (high : Option Nat) (isLazy : Bool) :
    Expression Step :=
  let (low, high) := if body.isVoid then (min low 1, some (min (high.getD 1) 1)) else (low, high)
  if high = some 0 then empty
  else if low = 1 && high = some 1 then body
  else repeated body low high isLazy

/-- The items of a sequence that an expression stands for. -/
def items : Expression Step → List (Expression Step)
  | empty => []
  | seq es => es
  | e => [e]

/-- Items with neighbouring runs of characters made one. -/
def joinRuns : List (Expression Step) → List (Expression Step)
  | [] => []
  | e :: rest =>
    match e, joinRuns rest with
    | step (.literal cs), step (.literal ds) :: rest' => step (.literal (cs ++ ds)) :: rest'
    | e, rest' => e :: rest'

/-- A sequence of items that are none themselves. -/
def ofItems : List (Expression Step) → Expression Step
  | [] => empty
  | [e] => e
  | es => seq es

/-- One expression after another. -/
def sequence (es : List (Expression Step)) : Expression Step :=
  ofItems (joinRuns (es.flatMap items))

/-- The branches of a choice that an expression stands for. -/
def branches : Expression Step → List (Expression Step)
  | alt es => es
  | e => [e]

/-- The character that an expression stands for, if it is a run of one. -/
def char? : Expression Step → Option Char
  | step (.literal [c]) => some c
  | _ => none

/-- The set that an expression stands for, if it is one. -/
def set? : Expression Step → Option CharSet
  | step (.set s _) => some s
  | _ => none

/-- The items of a sequence, if the expression is one. -/
def sequence? : Expression Step → Option (List (Expression Step))
  | seq es => some es
  | _ => none

/-- How many items two sequences have in common at their beginning. -/
def sharedLength : List (Expression Step) → List (Expression Step) → Nat
  | a :: as, b :: bs => if a.same b then sharedLength as bs + 1 else 0
  | _, _ => 0

/-- How many items all sequences have in common at their beginning. -/
def commonLength : List (List (Expression Step)) → Nat
  | [] => 0
  | first :: others => (others.map (sharedLength first)).foldl min first.length

/-- A choice between branches, no more than `fuel` times with a common beginning
put in front. -/
def choose : (fuel : Nat) → List (Expression Step) → Expression Step
  | fuel, es =>
    match es.flatMap branches with
    | [] => ofSet .empty true
    | [e] => e
    | es =>
      match es.mapM char?, es.mapM set?, es.mapM sequence?, fuel with
      | some cs, _, _, _ => ofSet (.unions (cs.map .single)) false
      | _, some sets, _, _ => ofSet (.unions sets) false
      | _, _, some seqs, fuel + 1 =>
        let n := commonLength seqs
        if n = 0 then alt es
        else
          let rest := choose fuel (seqs.map fun items => sequence (items.drop n))
          sequence ((seqs.headD []).take n ++ [rest])
      | _, _, _, _ => alt es

/-- One of several expressions. Each common beginning put in front makes the branches
smaller, so their size bounds how often that happens. -/
def choice (es : List (Expression Step)) : Expression Step := choose (sizeAll es) es

end Expression

end SqlProbe
