/-!
# Faults of the surroundings

What can be wrong with the surroundings of a check, apart from the check
itself: a setting with a value that is none, and a file or stream that fails.

* `Fault.message`: the wording.
-/

namespace SqlProbe

/-- Something wrong with the surroundings. -/
inductive Fault where
  /-- A file or stream failed. -/
  | io (detail : String)
  /-- A setting is unusable. -/
  | configuration (detail : String)
deriving DecidableEq, Repr

namespace Fault

/-- The wording of a fault. -/
def message : Fault → String
  | io detail => "IO error: " ++ detail
  | configuration detail => "Configuration error: " ++ detail

end Fault

end SqlProbe
