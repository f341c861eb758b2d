import SqlProbe.Text.Blank
import SqlProbe.Unicode.Property

/-!
# Classes of characters

The classes that a pattern names with a letter of its own, in their Unicode and in
their ASCII reading, and the ASCII classes that it names between colons.

* `Shorthand.chars`: the classes with a letter of their own.
* `isWord`: the characters that make up words.
* `posix?`: the named ASCII classes.
-/

namespace SqlProbe

namespace Pattern

/-- A class with a letter of its own. -/
inductive Shorthand where
  /-- `\d`. -/
  | digit
  /-- `\s`. -/
  | space
  /-- `\w`. -/
  | word
deriving DecidableEq, Repr

namespace Shorthand

/-- The members of the class that are ASCII characters. -/
def asciiChars : Shorthand → CharSet
  | digit => .range '0' '9'
  | space => .ofRanges [('\t', '\r'), (' ', ' ')]
  | word => .ofRanges [('0', '9'), ('A', 'Z'), ('_', '_'), ('a', 'z')]

/-- The members of the class. -/
def unicodeChars : Shorthand → CharSet
  | digit => Unicode.Category.decimalNumberChars
  | space => Unicode.whiteSpace
  | word => Unicode.wordChars

/-- The members of the class in one of its readings. -/
def chars (s : Shorthand) (unicode : Bool) : CharSet :=
  if unicode then s.unicodeChars else s.asciiChars

end Shorthand

/-- Whether a character makes up words. -/
def isWord (unicode : Bool) (c : Char) : Bool := (Shorthand.word.chars unicode).mem c

/-- The ASCII classes with a name. -/
def posix? (name : String) : Option CharSet :=
  match name with
  | "alnum" => some (.ofRanges [('0', '9'), ('A', 'Z'), ('a', 'z')])
  | "alpha" => some (.ofRanges [('A', 'Z'), ('a', 'z')])
  | "ascii" => some (.range '\x00' '\x7f')
  | "blank" => some (.ofRanges [('\t', '\t'), (' ', ' ')])
  | "cntrl" => some (.ofRanges [('\x00', '\x1f'), ('\x7f', '\x7f')])
  | "digit" => some (.range '0' '9')
  | "graph" => some (.range '!' '~')
  | "lower" => some (.range 'a' 'z')
  | "print" => some (.range ' ' '~')
  | "punct" => some (.ofRanges [('!', '/'), (':', '@'), ('[', '\x60'), ('\x7b', '~')])
  | "space" => some (.ofRanges [('\t', '\r'), (' ', ' ')])
  | "upper" => some (.range 'A' 'Z')
  | "word" => some (.ofRanges [('0', '9'), ('A', 'Z'), ('_', '_'), ('a', 'z')])
  | "xdigit" => some (.ofRanges [('0', '9'), ('A', 'F'), ('a', 'f')])
  | _ => none

end Pattern

end SqlProbe
