import SqlProbe.Fault
import SqlProbe.Text.Blank

/-!
# Log formats

The two forms of log records. A format is named in any case and with blanks
around, and the plain one has two names.

* `LogFormat.parse`: the format of a name.
-/

namespace SqlProbe

/-- The form of log records. -/
inductive LogFormat where
  /-- Lines for people. -/
  | text
  /-- Objects for programs. -/
  | json
deriving DecidableEq, Repr, Inhabited

namespace LogFormat

/-- The name of a format. -/
def name : LogFormat → String
  | text => "text"
  | json => "json"

/-- A name without the blanks around it, in small letters. Only the letters of
ASCII have a small form here. -/
def normalize (raw : String) : String :=
  String.ofList ((Text.trim raw.toList).map Char.toLower)

/-- The format of a normalized name. -/
def ofName? : String → Option LogFormat
  | "text" => some text
  | "plain" => some text
  | "json" => some json
  | _ => none

/-- The format of a name. -/
def parse (raw : String) : Except Fault LogFormat :=
  match ofName? (normalize raw) with
  | some f => .ok f
  | none => .error (.configuration ("unsupported log format '" ++ normalize raw ++ "'"))

example : ofName? (normalize " JSON\n") = some json := by decide +kernel
example : ofName? (normalize "xml") = none := by decide +kernel

end LogFormat

end SqlProbe
