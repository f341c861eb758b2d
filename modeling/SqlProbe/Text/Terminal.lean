/-!
# Text without terminal controls

What is left of a text after a terminal has taken out what it would obey: the
control characters other than blanks, and the sequences that an escape
character opens.

* `Text.plain`: the text a reader would see.
-/

namespace SqlProbe

namespace Text

/-- Where in an escape sequence a terminal is. -/
inductive TerminalState where
  /-- In no sequence. -/
  | ground
  /-- After the escape character. -/
  | escape
  /-- In a short sequence, after its first character. -/
  | intermediate
  /-- In a control sequence, which ends with a letter or one of a few signs. -/
  | control
  /-- In an operating system command, which the bell ends. -/
  | command
  /-- At the head of a string for a device, before its arguments. -/
  | deviceHead
  /-- Among the arguments of a string for a device. -/
  | deviceArguments
  /-- At the head of a string for a device, after its arguments. -/
  | deviceIntermediate
  /-- In a string for a device, or one that nobody reads. -/
  | device
deriving DecidableEq, Repr

namespace TerminalState

/-- The blanks that are kept although they are control characters. -/
def isKeptControl (c : Char) : Bool := c == '\t' || c == '\n' || c == '\x0c' || c == '\r'

/-- Whether a character is a control character of ASCII. -/
def isControl (c : Char) : Bool := c.toNat < 0x20 || c.toNat == 0x7F

/-- Whether a character has a meaning inside a sequence. -/
def isMark (c : Char) : Bool := 0x20 ≤ c.toNat && c.toNat < 0x7F

/-- Whether a character stands in front of the one that ends a short sequence. -/
def isIntermediate (c : Char) : Bool := 0x20 ≤ c.toNat && c.toNat < 0x30

/-- Whether a character is an argument of a control sequence. -/
def isArgument (c : Char) : Bool := 0x20 ≤ c.toNat && c.toNat < 0x40

/-- Whether a character goes on with the arguments of a string for a device: a
digit or a semicolon. -/
def isDeviceArgument (c : Char) : Bool := c.isDigit || c == ';'

/-- Whether a character, in bytes, holds the byte that ends a string for a
device. -/
def endsDevice (c : Char) : Bool := (String.utf8EncodeChar c).contains 0x9C

/-- The state after a character that has a meaning inside a sequence. -/
def afterMark : TerminalState → Char → TerminalState
  | ground, _ => ground
  | escape, c =>
    if c == '[' then control
    else if c == ']' then command
    else if c == 'P' then deviceHead
    else if c == 'X' || c == '^' || c == '_' then device
    else if isIntermediate c then intermediate
    else ground
  | intermediate, c => if isIntermediate c then intermediate else ground
  | control, c => if isArgument c then control else ground
  | command, _ => command
  | deviceHead, c =>
    if isIntermediate c then deviceIntermediate
    else if isDeviceArgument c || ('<' ≤ c && c ≤ '?') then deviceArguments
    else device
  | deviceArguments, c =>
    if isIntermediate c then deviceIntermediate
    else if isDeviceArgument c then deviceArguments
    else device
  | deviceIntermediate, c => if isIntermediate c then deviceIntermediate else device
  | device, _ => device

/-- Whether a sequence lets the control characters take effect that stand in
it. -/
def obeysControls : TerminalState → Bool
  | escape | intermediate | control => true
  | _ => false

/-- The state after a character, and whether the character is kept. A character
past ASCII has no meaning in a sequence and is lost there. -/
def step (s : TerminalState) (c : Char) : TerminalState × Bool :=
  if c == '\x1b' then (escape, false)
  else if c == '\x18' || c == '\x1a' then (ground, false)
  else
    match s with
    | ground => (ground, !isControl c || isKeptControl c)
    | command => (if c == '\x07' then ground else command, false)
    | device => (if endsDevice c then ground else device, false)
    | s =>
      if s.obeysControls && isKeptControl c then (ground, true)
      else (if isMark c then s.afterMark c else s, false)

end TerminalState

/-- The characters kept from a state on. -/
def plainFrom : TerminalState → List Char → List Char
  | _, [] => []
  | s, c :: rest =>
    let (s', kept) := s.step c
    if kept then c :: plainFrom s' rest else plainFrom s' rest

/-- A text without terminal controls. -/
def plain (s : String) : String := String.ofList (plainFrom .ground s.toList)

example : plain "a\x1b[31mred\x1b[0m\x07\n" = "ared\n" := by decide +kernel
example : plain "\x1b]0;title\x07text" = "text" := by decide +kernel
example : plain "\x1bXa\u009cb" = "b" := by decide +kernel

end Text

end SqlProbe
