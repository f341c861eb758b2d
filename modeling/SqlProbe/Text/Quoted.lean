import SqlProbe.Unicode.Latest

/-!
# Quoted text

A text between double quotes in which every character can be told apart by eye:
what would end the quotes, break the line, stay invisible or merge with its
neighbour is written as an escape.

* `Text.quote`: the quoted form.
-/

namespace SqlProbe

namespace Text

/-- The characters that merge with the one before them. The two voiced sound marks
of half width stand beside it instead. -/
def merging : CharSet := Unicode.latestGraphemeExtend.diff (.interval 0xFF9E 0xFF9F)

/-- The characters that show as marks of their own. -/
def marks : CharSet :=
  Unicode.latestAssigned.diff (.unions [Unicode.separators,
    Unicode.ofCategories [.control, .format, .privateUse], merging, Unicode.defaultIgnorable])

/-- Whether a character shows as a mark of its own. The ordinary space counts as
one, no other space does. -/
def isMark (c : Char) : Bool :=
  if c.toNat < 0x80 then 0x20 ≤ c.toNat && c.toNat < 0x7F else marks.mem c

/-- A character by its number, in hexadecimal digits between braces. -/
def numericEscape (c : Char) : List Char :=
  ['\\', 'u', '\x7b'] ++ Nat.toDigits 16 c.toNat ++ ['\x7d']

/-- A character as it is written between quotes. -/
def escape (c : Char) : List Char :=
  match c with
  | '"' => ['\\', '"']
  | '\\' => ['\\', '\\']
  | '\n' => ['\\', 'n']
  | '\r' => ['\\', 'r']
  | '\t' => ['\\', 't']
  | '\x00' => ['\\', '0']
  | c => if isMark c then [c] else numericEscape c

/-- A text between quotes. -/
def quote (s : String) : String :=
  String.ofList ('"' :: s.toList.flatMap escape ++ ['"'])

example : quote "it's \"x\"\n" = "\"it's \\\"x\\\"\\n\"" := by cbv
example : escape (Char.ofNat 0x1B) = ['\\', 'u', '\x7b', '1', 'b', '\x7d'] := by decide +kernel

end Text

end SqlProbe
