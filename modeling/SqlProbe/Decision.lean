import SqlProbe.Pattern.Matching
import SqlProbe.Reading
import SqlProbe.Threshold
import SqlProbe.Verdict

/-!
# Decisions

How a reading is judged. Up to four comparisons are configured, in any
combination, and they are made in a fixed order: the expected text, the
pattern, the warning threshold, the critical threshold. Each can only raise the
severity. A comparison that cannot be made ends the decision: it is then
unknown, and the first such cause is the message, in place of the reading.

* `Comparison`: what is configured.
* `Comparison.decide`: the decision.
* `Cause`: why a decision can be unknown, with the wording of each.
-/

namespace SqlProbe

/-- The comparisons configured for a check. None excludes another. -/
structure Comparison where
  /-- The text the reading must equal. -/
  expected : Option String
  /-- The pattern the reading must match somewhere. -/
  pattern : Option String
  /-- The warning threshold, as written. -/
  warn : Option String
  /-- The critical threshold, as written. -/
  crit : Option String
deriving DecidableEq, Repr

/-- One of the two thresholds. -/
inductive Level where
  /-- The threshold for warnings. -/
  | warning
  /-- The threshold for critical alerts. -/
  | critical
deriving DecidableEq, Repr

namespace Level

/-- The name that notes use. -/
def name : Level → String
  | warning => "Warning"
  | critical => "Critical"

/-- The severity of a violation. -/
def severity : Level → Severity
  | warning => .warning
  | critical => .critical

end Level

/-- Why a decision is unknown. -/
inductive Cause where
  /-- The pattern is none. -/
  | badPattern
  /-- A threshold is configured, and the reading is no number. -/
  | notNumeric
  /-- A threshold is none. -/
  | badThreshold (level : Level)
deriving DecidableEq, Repr

namespace Cause

/-- The message of the cause. -/
def message : Cause → String
  | badPattern => "Regex syntax failure."
  | notNumeric => "Result contains non-numeric characters."
  | badThreshold .warning => "Warn threshold syntax failure."
  | badThreshold .critical => "Critical threshold syntax failure."

end Cause

/-! ### Notes -/

/-- What is noted about a threshold. -/
inductive Note where
  /-- The value violates the threshold. -/
  | exceeded (level : Level)
  /-- The value does not violate it. -/
  | notExceeded (level : Level)
  /-- The text is no threshold. -/
  | strange (level : Level) (raw : String)
deriving DecidableEq, Repr

namespace Note

/-- The wording of a note. -/
def text : Note → String
  | exceeded level => level.name ++ " threshold exceeded."
  | notExceeded level => level.name ++ " threshold not exceeded."
  | strange level raw => "\"" ++ raw ++ "\" is a strange and confusing " ++ level.name ++ " value."

end Note

/-! ### The decision in progress -/

/-- What the comparisons made so far have found. -/
structure Decision where
  /-- The highest severity so far. -/
  severity : Severity
  /-- Why no further comparison is made, if so. -/
  cause : Option Cause
  /-- The notes so far. -/
  notes : List Note
deriving DecidableEq, Repr

namespace Decision

/-- Before any comparison. -/
def start : Decision := ⟨.ok, none, []⟩

/-- A finding of the given severity. -/
def raise (d : Decision) (s : Severity) : Decision :=
  { d with severity := d.severity.escalate s }

/-- A comparison that cannot be made. -/
def fail (d : Decision) (c : Cause) : Decision :=
  { d with severity := d.severity.escalate .unknown, cause := some (d.cause.getD c) }

/-- One more note. -/
def note (d : Decision) (n : Note) : Decision :=
  { d with notes := d.notes ++ [n] }

/-- Makes a comparison, unless an earlier one could not be made. -/
def andThen (d : Decision) (next : Decision → Decision) : Decision :=
  if d.severity = .unknown then d else next d

/-- The comparison with the expected text. -/
def compareText (raw : String) (expected : Option String) (d : Decision) : Decision :=
  match expected with
  | some text => if raw = text then d else d.raise .critical
  | none => d

/-- The comparison with a pattern. -/
def comparePattern (raw : String) (pattern : Option String) (d : Decision) : Decision :=
  match pattern with
  | some text =>
    match Pattern.compile text with
    | .ok p => if p.isMatch raw then d else d.raise .critical
    | .error _ => d.fail .badPattern
  | none => d

/-- The comparison of a number with one threshold. -/
def compareThreshold (level : Level) (value : Binary64) (threshold : Option String)
    (d : Decision) : Decision :=
  match threshold with
  | some raw =>
    match Threshold.parse raw with
    | .ok t =>
      match t.evaluate value with
      | .violated => (d.note (.exceeded level)).raise level.severity
      | .within => d.note (.notExceeded level)
    | .error _ => (d.note (.strange level raw)).fail (.badThreshold level)
  | none => d

/-- The comparison with both thresholds, which needs a number if either is
configured. -/
def compareNumber (number : Option Binary64) (warn crit : Option String) (d : Decision) :
    Decision :=
  if warn.isNone && crit.isNone then d
  else
    match number with
    | some value =>
      (compareThreshold .warning value warn d).andThen (compareThreshold .critical value crit)
    | none => d.fail .notNumeric

/-- The verdict on a reading, once no comparison is left. -/
def verdict (d : Decision) (raw : String) : Verdict where
  severity := d.severity
  message := (d.cause.map Cause.message).getD raw
  notes := d.notes.map Note.text

end Decision

namespace Comparison

/-- The decision on a reading. -/
def decision (c : Comparison) (r : Reading) : Decision :=
  ((Decision.start.compareText r.raw c.expected).comparePattern r.raw c.pattern).andThen
    (Decision.compareNumber r.number c.warn c.crit)

/-- The verdict on a reading. -/
def decide (c : Comparison) (r : Reading) : Verdict :=
  (c.decision r).verdict r.raw

end Comparison

end SqlProbe
