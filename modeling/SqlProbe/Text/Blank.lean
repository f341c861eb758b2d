/-!
# Blank characters

The characters with the Unicode property White_Space, and the removal of a run
of them from either end of a text. A query result is read as a number only
after this, so the class decides which surroundings of a number are harmless.

* `Text.isBlank`: the class itself, twenty-five characters in ten ranges.
* `Text.trim`: a text without its leading and trailing blanks.
-/

namespace SqlProbe

namespace Text

/-- Whether a character has the Unicode property White_Space. -/
def isBlank (c : Char) : Bool :=
  let n := c.toNat
  (0x9 ≤ n && n ≤ 0xD) || n == 0x20 || n == 0x85 || n == 0xA0 || n == 0x1680 ||
    (0x2000 ≤ n && n ≤ 0x200A) || n == 0x2028 || n == 0x2029 || n == 0x202F ||
    n == 0x205F || n == 0x3000

/-- A text without its trailing blanks. -/
def trimEnd (s : List Char) : List Char :=
  (s.reverse.dropWhile isBlank).reverse

/-- A text without its leading and trailing blanks. -/
def trim (s : List Char) : List Char :=
  trimEnd (s.dropWhile isBlank)

/-- Whether a text holds nothing but blanks. -/
def allBlank (s : String) : Bool :=
  s.toList.all isBlank

end Text

end SqlProbe
