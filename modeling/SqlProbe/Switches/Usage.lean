import SqlProbe.Switches.Basic
import SqlProbe.Text.Terminal

/-!
# Refused command lines

Why a command line is refused. The wording is one line for the status line of a
report: what follows a line break in an argument is left out, and so is what a
terminal would not show.

* `UsageError.message`: the wording.
-/

namespace SqlProbe

/-- Why a text is no port number. -/
inductive PortError where
  /-- Nothing is there. -/
  | empty
  /-- A character is no digit, or a sign stands alone. -/
  | invalidDigit
  /-- The number is past the largest 64-bit integer. -/
  | tooLarge
  /-- The number is below the least 64-bit integer. -/
  | tooSmall
  /-- The integer is no port number. -/
  | outOfRange (n : Int)
deriving DecidableEq, Repr

namespace PortError

/-- The wording of the cause. -/
def message : PortError → String
  | empty => "cannot parse integer from empty string"
  | invalidDigit => "invalid digit found in string"
  | tooLarge => "number too large to fit in target type"
  | tooSmall => "number too small to fit in target type"
  | outOfRange n => n.repr ++ " is not in 0..=65535"

end PortError

/-- Why a command line is refused. -/
inductive UsageError where
  /-- An argument is neither a switch nor a value. -/
  | unexpectedArgument (shown : String)
  /-- A switch is given a value and takes none. -/
  | unexpectedValue (switch : Switch) (shown : String)
  /-- A switch takes a value and is given none. -/
  | valueRequired (switch : Switch)
  /-- A switch is used twice. -/
  | repeated (switch : Switch)
  /-- A value that should be text is not UTF-8. -/
  | invalidUtf8
  /-- The value of `--port` is no port number. -/
  | invalidPort (given : String) (cause : PortError)
  /-- The value of `--log-format` names no format. -/
  | invalidLogFormat (given : String) (cause : Fault)
deriving DecidableEq, Repr

namespace UsageError

/-- A text up to its first line break. -/
def firstLine (s : String) : String :=
  let line := s.toList.takeWhile (· != '\n')
  let ended := line.length < s.length
  String.ofList (if ended && line.getLast? = some '\r' then line.dropLast else line)

/-- The wording of a refused value. A sequence for the terminal that the cause
leaves open can reach into the line break that ends the wording. -/
def invalidValue (given : String) (switch : Switch) (cause : String) : String :=
  "invalid value '" ++ Text.plain given ++ "' for '" ++ switch.text ++ "': " ++
    Text.plain (cause ++ "\n")

/-- The wording in full. -/
def fullMessage : UsageError → String
  | unexpectedArgument shown => "unexpected argument '" ++ Text.plain shown ++ "' found"
  | unexpectedValue switch shown =>
    "unexpected value '" ++ Text.plain shown ++ "' for '" ++ switch.text ++
      "' found; no more were expected"
  | valueRequired switch =>
    "a value is required for '" ++ switch.text ++ "' but none was supplied"
  | repeated switch => "the argument '" ++ switch.text ++ "' cannot be used multiple times"
  | invalidUtf8 => "invalid UTF-8 was detected in one or more arguments"
  | invalidPort given cause => invalidValue given .port cause.message
  | invalidLogFormat given cause => invalidValue given .logFormat cause.message

/-- The wording, on one line. -/
def message (e : UsageError) : String := firstLine e.fullMessage

end UsageError

end SqlProbe
