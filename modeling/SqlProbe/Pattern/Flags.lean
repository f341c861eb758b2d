import SqlProbe.Pattern.Expression
import SqlProbe.Pattern.Parser
import SqlProbe.Unicode.CaseFolding
import SqlProbe.Unicode.Lookup

/-!
# Applying the flags of a pattern

A pattern is read in two steps: first as it is written, then with the flags
applied, so that every position asks for a definite set of characters or a
definite condition on a place.

* `Flags`: the flags in force.
* `Flags.classSet`: the set that brackets stand for.
* `express`: applies the flags, from left to right, each group giving back the
  flags that held before it.

With Unicode off only sets of ASCII characters can be asked for; any other set
would match part of a character.
-/

namespace SqlProbe

namespace Pattern

/-- The flags in force. -/
structure Flags where
  /-- Letters match in either case. -/
  ignoreCase : Bool
  /-- `^` and `$` match at the ends of lines. -/
  multiLine : Bool
  /-- `.` matches line breaks too. -/
  dotAll : Bool
  /-- Repetitions prefer the shortest match. -/
  swapGreed : Bool
  /-- Classes have their Unicode reading. -/
  unicode : Bool
  /-- A carriage return is part of a line break. -/
  crlf : Bool
deriving DecidableEq, Repr

namespace Flags

/-- The flags a pattern starts with. -/
def initial : Flags := ⟨false, false, false, false, true, false⟩

/-- The flags after a change. -/
def apply (fs : Flags) (change : FlagChange) : Flags where
  ignoreCase := (change.get? .ignoreCase).getD fs.ignoreCase
  multiLine := (change.get? .multiLine).getD fs.multiLine
  dotAll := (change.get? .dotAll).getD fs.dotAll
  swapGreed := (change.get? .swapGreed).getD fs.swapGreed
  unicode := (change.get? .unicode).getD fs.unicode
  crlf := (change.get? .crlf).getD fs.crlf

/-- A set with the ASCII letters that are the same up to case as one of its
members. -/
def closeUnderAsciiCase (s : CharSet) : CharSet :=
  .unions [s, (s.inter (.range 'A' 'Z')).shift 0x20, (s.inter (.range 'a' 'z')).shift (-0x20)]

/-- A set closed under case if case does not matter. -/
def fold (fs : Flags) (s : CharSet) : CharSet :=
  if !fs.ignoreCase then s
  else if fs.unicode then Unicode.closeUnderCase s
  else closeUnderAsciiCase s

/-- A set folded as the flags say and then complemented if `negated`. With
Unicode off the complement would hold bytes that are no characters. -/
def close (fs : Flags) (negated : Bool) (s : CharSet) : Except PatternError CharSet :=
  if negated && !fs.unicode then .error .splitsCharacters
  else .ok ((fs.fold s).negateIf negated)

/-! ### Sets -/

/-- The character of a literal. A byte past ASCII stands for no character when
Unicode is off. -/
def literal (fs : Flags) (l : Literal) : Except PatternError Char :=
  if !fs.unicode && l.isByte && 0x80 ≤ l.char.toNat then .error .splitsCharacters
  else .ok l.char

/-- The character of a literal in a class, which has to be ASCII when Unicode is
off. -/
def classLiteral (fs : Flags) (l : Literal) : Except PatternError Char :=
  if !fs.unicode && 0x80 ≤ l.char.toNat then .error .splitsCharacters else .ok l.char

/-- The set of a property. -/
def property (fs : Flags) (p : PropertyName) (negated : Bool) : Except PatternError CharSet :=
  if !fs.unicode then .error .unknownProperty
  else
    let set := match p with
      | .name text => Unicode.property? text
      | .value kind value => Unicode.propertyValue? kind value
    match set with
    | some s => fs.close negated s
    | none => .error .unknownProperty

/-- The set of a class with a letter of its own. -/
def shorthand (fs : Flags) (s : Shorthand) (negated : Bool) : Except PatternError CharSet :=
  if negated && !fs.unicode then .error .splitsCharacters
  else .ok ((s.chars fs.unicode).negateIf negated)

/-- The set an operator makes of two. -/
def operate : SetOp → CharSet → CharSet → CharSet
  | .inter => CharSet.inter
  | .diff => CharSet.diff
  | .symmDiff => CharSet.symmDiff

mutual

/-- The set of a class. -/
def classSet (fs : Flags) : ClassExpr → Except PatternError CharSet
  | .literal l => do .ok (CharSet.single (← fs.classLiteral l))
  | .range low high => do
    .ok (CharSet.range (← fs.classLiteral low) (← fs.classLiteral high))
  | .posix s negated => fs.close negated s
  | .property p negated => fs.property p negated
  | .shorthand s negated => fs.shorthand s negated
  | .bracket body negated => do fs.close negated (← fs.classSet body)
  | .union items => fs.classUnion items
  | .combine op left right => do
    let l ← fs.classSet left
    let r ← fs.classSet right
    .ok (operate op (fs.fold l) (fs.fold r))

/-- The union of the sets of several classes. -/
def classUnion (fs : Flags) : List ClassExpr → Except PatternError CharSet
  | [] => .ok .empty
  | c :: rest => do
    let s ← fs.classSet c
    let t ← fs.classUnion rest
    .ok (s.union t)

end

/-- The set of the dot. -/
def dot (fs : Flags) : Except PatternError CharSet :=
  if !fs.unicode then .error .splitsCharacters
  else if fs.dotAll then .ok .all
  else if fs.crlf then .ok (CharSet.compl (.ofRanges [('\n', '\n'), ('\r', '\r')]))
  else .ok (CharSet.compl (.single '\n'))

/-- The condition of an assertion. -/
def place (fs : Flags) : Assertion → Place
  | .lineStart => if fs.multiLine then .lineStart fs.crlf else .textStart
  | .lineEnd => if fs.multiLine then .lineEnd fs.crlf else .textEnd
  | .textStart => .textStart
  | .textEnd => .textEnd
  | .wordBoundary => .word fs.unicode .boundary
  | .notWordBoundary => .word fs.unicode .notBoundary
  | .wordStart => .word fs.unicode .start
  | .wordEnd => .word fs.unicode .stop
  | .wordStartHalf => .word fs.unicode .startHalf
  | .wordEndHalf => .word fs.unicode .stopHalf

/-- An expression for one character of a set. -/
def ofSet (fs : Flags) (s : CharSet) : Expression Step := .ofSet s !fs.unicode

end Flags

/-! ### Whole patterns -/

mutual

/-- Applies the flags to a pattern, and says which hold after it. -/
def express (fs : Flags) : Ast → Except PatternError (Expression Step × Flags)
  | .empty => .ok (.empty, fs)
  | .flags change => .ok (.empty, fs.apply change)
  | .literal l => do
    let c ← fs.literal l
    .ok (fs.ofSet (fs.fold (.single c)), fs)
  | .dot => do .ok (fs.ofSet (← fs.dot), fs)
  | .assertion a => .ok (.step (.place (fs.place a)), fs)
  | .property p negated => do .ok (fs.ofSet (← fs.property p negated), fs)
  | .shorthand s negated => do .ok (fs.ofSet (← fs.shorthand s negated), fs)
  | .bracket body negated => do
    .ok (fs.ofSet (← fs.close negated (← fs.classSet body)), fs)
  | .repetition body low high turned => do
    let (e, fs') ← express fs body
    .ok (.repeating e low high (turned != fs'.swapGreed), fs')
  | .group captures change body => do
    let (e, _) ← express (fs.apply change) body
    .ok (if captures then .capture e else e, fs)
  | .alternation branches => do
    let (es, fs') ← expressAll fs branches
    .ok (.choice es, fs')
  | .concat items => do
    let (es, fs') ← expressAll fs items
    .ok (.sequence es, fs')

/-- Applies the flags to several patterns, to each those that hold after the one
before it: to things in sequence, and to alternatives too. -/
def expressAll (fs : Flags) : List Ast → Except PatternError (List (Expression Step) × Flags)
  | [] => .ok ([], fs)
  | a :: rest => do
    let (e, fs') ← express fs a
    let (es, fs'') ← expressAll fs' rest
    .ok (e :: es, fs'')

end

end Pattern

end SqlProbe
