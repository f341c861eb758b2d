import SqlProbe.Connection
import SqlProbe.Decision
import SqlProbe.Settings.File

/-!
# Plans

A plan is what a check needs and no more: where to connect, what to ask and how
to judge the answer. It is made from settings in two steps. What is required has
to be there; then the port must not be zero and the pattern must be one.

* `Settings.violations`: the rules that the settings break.
* `Settings.plan`: the plan, or why there is none.
* `SettingsError.message`: the wording of what is wrong with settings or with
  their sources.
-/

namespace SqlProbe

/-- A rule that settings break. -/
inductive Violation where
  /-- The port is zero. -/
  | portRange
  /-- The pattern is none. -/
  | badPattern (pattern : String)
deriving DecidableEq, Repr

namespace Violation

/-- The setting the rule is about. -/
def field : Violation → String
  | portRange => "mysql_port"
  | badPattern _ => "result_regex"

/-- The name of the rule. -/
def code : Violation → String
  | portRange => "range"
  | badPattern _ => "result_regex_invalid"

/-- What the rule was given, in braces. -/
def parameters : Violation → String
  | portRange => "\x7b\"min\": Number(1), \"value\": Number(0)\x7d"
  | badPattern pattern => "\x7b\"value\": String(" ++ Text.quote pattern ++ ")\x7d"

/-- The wording of a violation. -/
def message (v : Violation) : String :=
  v.field ++ ": Validation error: " ++ v.code ++ " [" ++ v.parameters ++ "]"

end Violation

/-- Why there are no settings, or no plan for them. -/
inductive SettingsError where
  /-- Required settings are absent; their names in the order of reports. -/
  | missing (names : List String)
  /-- The file of settings cannot be read. -/
  | unreadable (detail : String)
  /-- The file of settings makes no sense. -/
  | malformed (e : DocumentError)
  /-- Rules are broken. -/
  | invalid (violations : List Violation)
  /-- The command line is refused. -/
  | usage (detail : String)
deriving Repr

namespace SettingsError

/-- The wording of an error. -/
def message : SettingsError → String
  | missing names => "Need to specify:" ++ String.join (names.map (" " ++ ·)) ++ "."
  | unreadable detail => "Failed to read configuration file: " ++ detail
  | malformed e => "Failed to parse YAML: " ++ e.message
  | invalid violations =>
    "Invalid configuration: " ++ "\n".intercalate (violations.map Violation.message)
  | usage detail => "Invalid arguments: " ++ detail

end SettingsError

/-- What a check needs. -/
structure Plan where
  /-- Where and as whom to connect. -/
  connection : Connection
  /-- What to ask. -/
  query : String
  /-- How to judge the answer. -/
  comparison : Comparison
  /-- Whether to explain the verdict. -/
  verbose : Bool
deriving DecidableEq, Repr

namespace Settings

/-- How the settings judge an answer. -/
def comparison (s : Settings) : Comparison where
  expected := s.expected
  pattern := s.pattern
  warn := s.warn
  crit := s.crit

/-- The rules that the settings break. -/
def violations (s : Settings) : List Violation :=
  (if s.port = 0 then [.portRange] else []) ++
    match s.pattern with
    | some p => if Pattern.compiles p then [] else [.badPattern p]
    | none => []

/-- The settings if they break no rule. -/
def validate (s : Settings) : Except SettingsError Settings :=
  if s.violations.isEmpty then .ok s else .error (.invalid s.violations)

/-- The plan for the settings. -/
def plan (s : Settings) : Except SettingsError Plan :=
  match s.host, s.database, s.user, s.password, s.query with
  | some host, some database, some user, some password, some query =>
    s.validate.map fun s =>
      { connection := { host, port := s.port, user, password, database }
        query, comparison := s.comparison, verbose := s.verbose }
  | _, _, _, _, _ => .error (.missing (s.missing.map Required.name))

end Settings

end SqlProbe
