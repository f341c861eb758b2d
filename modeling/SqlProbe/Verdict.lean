import SqlProbe.Severity

/-!
# Verdicts

The outcome of a check: a severity, the message that explains it, and the notes
gathered on the way, which are for an operator and not for the supervisor.

* `Verdict.line`: the status line, without the line break.
-/

namespace SqlProbe

/-- The outcome of a check. -/
structure Verdict where
  /-- The status. -/
  severity : Severity
  /-- What follows the label on the status line. -/
  message : String
  /-- Notes for an operator, in the order they were made. -/
  notes : List String
deriving DecidableEq, Repr

namespace Verdict

/-- A critical verdict without notes. -/
def critical (message : String) : Verdict := ⟨.critical, message, []⟩

/-- An unknown verdict without notes. -/
def unknown (message : String) : Verdict := ⟨.unknown, message, []⟩

/-- The label and the message. -/
def line (v : Verdict) : String := v.severity.label ++ ": " ++ v.message

/-- The exit code of the severity. -/
def exitCode (v : Verdict) : Nat := v.severity.exitCode

end Verdict

end SqlProbe
