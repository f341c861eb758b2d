import SqlProbe.Settings.Plan
import SqlProbe.Verdict

/-!
# Reports

What a check prints and how it exits. A supervisor reads one line and the exit
code. Notes are for an operator: they are printed only if the verdict is to be
explained, and then the exit code is that of an unknown status, so that no
supervisor acts on such a run.

* `Report.text`: what is printed.
* `Report.exitCode`: the exit code.
-/

namespace SqlProbe

/-- What a check prints and how it exits. -/
structure Report where
  /-- The outcome. -/
  verdict : Verdict
  /-- The lines for an operator. -/
  notes : List String
  /-- Whether those lines are printed. -/
  verbose : Bool
deriving DecidableEq, Repr

namespace Report

/-- A report without notes. -/
def ofVerdict (verdict : Verdict) (verbose : Bool) : Report := ⟨verdict, [], verbose⟩

/-- The report that there are no settings or no plan. -/
def ofSettingsError (e : SettingsError) (verbose : Bool) : Report :=
  ofVerdict (.unknown e.message) verbose

/-- The exit code. -/
def exitCode (r : Report) : Nat :=
  if r.verbose then Severity.unknown.exitCode else r.verdict.exitCode

/-- A character on one line. -/
def flattenChar (c : Char) : Char := if c = '\r' ∨ c = '\n' then ' ' else c

/-- A text on one line. -/
def flatten (s : String) : String := s.map flattenChar

/-- The line that the supervisor reads. -/
def statusLine (r : Report) : String := flatten r.verdict.line

/-- What is printed. -/
def text (r : Report) : String :=
  (if r.verbose then String.join (r.notes.map fun note => "+ " ++ note ++ "\n") else "") ++
    r.statusLine ++ "\n"

end Report

end SqlProbe
