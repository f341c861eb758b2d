import SqlProbe.Pattern.CharClass

/-!
# The syntax of patterns

What a pattern is after reading and before any flag has been applied to it: a
tree whose nodes are the things that are written. Flags set inside the pattern
are nodes as well, since they act on all that follows them in their group.

* `Pattern.Ast`: a pattern as written.
* `Pattern.ClassExpr`: what stands between a pair of brackets.
* `Ast.depth`: how deeply constructs are nested, which reading limits.
-/

namespace SqlProbe

namespace Pattern

/-- Why a text is not a pattern, or a pattern not one that can be used. -/
inductive PatternError where
  /-- The text ends inside an escape, a group, a class or a count. -/
  | unexpectedEnd
  /-- A closing parenthesis without an opening one. -/
  | unopenedGroup
  /-- A repetition with nothing in front to repeat. -/
  | nothingToRepeat
  /-- A count that is no number, too large, or a range that is empty. -/
  | badCount
  /-- An escape that stands for nothing. -/
  | badEscape
  /-- A range in a class whose ends are not characters in order. -/
  | badRange
  /-- Something in a class that stands for no characters. -/
  | badClassItem
  /-- A flag that does not exist, is given twice, or is missing. -/
  | badFlag
  /-- A group name that is empty, ill-formed or taken. -/
  | badGroupName
  /-- A condition on the text around a match, which patterns cannot state. -/
  | lookAround
  /-- A property that is not known. -/
  | unknownProperty
  /-- A set that would match part of a character. -/
  | splitsCharacters
  /-- Constructs nested too deeply. -/
  | tooDeep
  /-- A pattern whose compiled form would be too large. -/
  | tooLarge
deriving DecidableEq, Repr

/-! ### Flags -/

/-- A switch that changes how the rest of a group is read. -/
inductive Flag where
  /-- Letters match in either case. -/
  | ignoreCase
  /-- `^` and `$` match at the ends of lines. -/
  | multiLine
  /-- `.` matches line breaks too. -/
  | dotAll
  /-- Repetitions prefer the shortest match, and `?` after one the longest. -/
  | swapGreed
  /-- Classes have their Unicode reading. -/
  | unicode
  /-- A carriage return is part of a line break. -/
  | crlf
  /-- Blanks and comments in the pattern are left out. -/
  | verbose
deriving DecidableEq, Repr

namespace Flag

/-- The flag of a letter. -/
def ofChar? : Char → Option Flag
  | 'i' => some ignoreCase
  | 'm' => some multiLine
  | 's' => some dotAll
  | 'U' => some swapGreed
  | 'u' => some unicode
  | 'R' => some crlf
  | 'x' => some verbose
  | _ => none

end Flag

/-- Flags with the values they are given, each flag at most once. -/
abbrev FlagChange := List (Flag × Bool)

namespace FlagChange

/-- The value a change gives to a flag, if it names it. -/
def get? (change : FlagChange) (f : Flag) : Option Bool :=
  (change.find? fun (g, _) => g = f).map fun (_, on) => on

end FlagChange

/-! ### The tree -/

/-- A condition on the place between two characters. -/
inductive Assertion where
  /-- `^`. -/
  | lineStart
  /-- `$`. -/
  | lineEnd
  /-- `\A`. -/
  | textStart
  /-- `\z`. -/
  | textEnd
  /-- `\b`. -/
  | wordBoundary
  /-- `\B`. -/
  | notWordBoundary
  /-- `\<`. -/
  | wordStart
  /-- `\>`. -/
  | wordEnd
  /-- `\b` with `start-half`. -/
  | wordStartHalf
  /-- `\b` with `end-half`. -/
  | wordEndHalf
deriving DecidableEq, Repr

/-- How a property is asked for. -/
inductive PropertyName where
  /-- By one name. -/
  | name (text : String)
  /-- By the name of its kind and the name of its value. -/
  | value (kind value : String)
deriving DecidableEq, Repr

/-- A character, and whether it was written as a byte of two digits. -/
structure Literal where
  /-- The character. -/
  char : Char
  /-- Whether it stands for a byte when Unicode is off. -/
  isByte : Bool
deriving DecidableEq, Repr

/-- An operator between two classes. -/
inductive SetOp where
  /-- `&&`. -/
  | inter
  /-- `--`. -/
  | diff
  /-- `~~`. -/
  | symmDiff
deriving DecidableEq, Repr

/-- What stands between brackets. -/
inductive ClassExpr where
  /-- One character. -/
  | literal (l : Literal)
  /-- All characters between two. -/
  | range (low high : Literal)
  /-- A named ASCII class. -/
  | posix (s : CharSet) (negated : Bool)
  /-- A property. -/
  | property (p : PropertyName) (negated : Bool)
  /-- A class with a letter of its own. -/
  | shorthand (s : Shorthand) (negated : Bool)
  /-- Brackets within brackets. -/
  | bracket (body : ClassExpr) (negated : Bool)
  /-- One thing after another. -/
  | union (items : List ClassExpr)
  /-- Two classes with an operator between them. -/
  | combine (op : SetOp) (left right : ClassExpr)

/-- A pattern as written. -/
inductive Ast where
  /-- Nothing. -/
  | empty
  /-- Flags for the rest of the group. -/
  | flags (change : FlagChange)
  /-- One character. -/
  | literal (l : Literal)
  /-- `.`. -/
  | dot
  /-- A condition on a place. -/
  | assertion (a : Assertion)
  /-- A property. -/
  | property (p : PropertyName) (negated : Bool)
  /-- A class with a letter of its own. -/
  | shorthand (s : Shorthand) (negated : Bool)
  /-- Brackets. -/
  | bracket (body : ClassExpr) (negated : Bool)
  /-- A repetition; no upper count means no limit, and `turned` stands for the mark
  that turns the preference round. -/
  | repetition (body : Ast) (low : Nat) (high : Option Nat) (turned : Bool)
  /-- A group, with the flags that hold inside it; `captures` says whether it keeps
  its match. -/
  | group (captures : Bool) (change : FlagChange) (body : Ast)
  /-- One of several. -/
  | alternation (branches : List Ast)
  /-- One thing after another. -/
  | concat (items : List Ast)

/-! ### Depth -/

namespace ClassExpr

mutual

/-- How deeply brackets, unions and operators are nested. -/
def depth : ClassExpr → Nat
  | literal _ | range _ _ | posix _ _ | property _ _ | shorthand _ _ => 0
  | bracket body _ => body.depth + 1
  | union [] => 0
  | union (c :: rest) => max c.depth (depthList rest) + 1
  | combine _ left right => max left.depth right.depth + 1

/-- The greatest depth in a list. -/
def depthList : List ClassExpr → Nat
  | [] => 0
  | c :: rest => max c.depth (depthList rest)

end

/-- Things in sequence; a single one needs no node of its own. -/
def ofItems : List ClassExpr → ClassExpr
  | [c] => c
  | cs => union cs

end ClassExpr

namespace Ast

mutual

/-- How deeply classes, repetitions, groups, alternatives and sequences are
nested. -/
def depth : Ast → Nat
  | empty | flags _ | literal _ | dot | assertion _ | property _ _ | shorthand _ _ => 0
  | bracket body _ => body.depth + 1
  | repetition body _ _ _ => body.depth + 1
  | group _ _ body => body.depth + 1
  | alternation branches => depthList branches + 1
  | concat items => depthList items + 1

/-- The greatest depth in a list. -/
def depthList : List Ast → Nat
  | [] => 0
  | a :: rest => max a.depth (depthList rest)

end

/-- Things in sequence; a single one needs no node of its own. -/
def ofItems : List Ast → Ast
  | [] => empty
  | [a] => a
  | as => concat as

/-- Alternatives; a single one needs no node of its own. -/
def ofBranches : List Ast → Ast
  | [a] => a
  | as => alternation as

/-- Whether a repetition may follow. -/
def isRepeatable : Ast → Bool
  | empty | flags _ => false
  | _ => true

end Ast

end Pattern

end SqlProbe
