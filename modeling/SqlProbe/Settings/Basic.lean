import SqlProbe.Switches.Basic

/-!
# Settings

The settings of a check while they are gathered: those of the command line
first, and over them those of a file. A layer is what one source sets, and in
a later layer whatever is set wins.

* `Settings.ofArguments`: the settings of a command line.
* `Settings.overlay`: the settings with a layer over them.
* `Layer.atop`: two layers as one.
* `Settings.missing`: the required settings that are absent.
-/

namespace SqlProbe

/-- The port to connect to if none is set. -/
def defaultPort : UInt16 := 3306

/-- The settings of a check. -/
structure Settings where
  /-- The server. -/
  host : Option String
  /-- The port to connect to. -/
  port : UInt16
  /-- The database. -/
  database : Option String
  /-- The user. -/
  user : Option String
  /-- The password. -/
  password : Option String
  /-- The query. -/
  query : Option String
  /-- The expected text. -/
  expected : Option String
  /-- The expected pattern. -/
  pattern : Option String
  /-- The warning threshold. -/
  warn : Option String
  /-- The critical threshold. -/
  crit : Option String
  /-- Whether to explain the verdict. -/
  verbose : Bool
  /-- Which log records are kept. -/
  logLevel : Option String
  /-- The form of log records. -/
  logFormat : LogFormat
  /-- The file that the command line names. -/
  file : Option RawText
deriving DecidableEq, Repr

/-- What one source sets. -/
structure Layer where
  /-- The server. -/
  host : Option String
  /-- The port to connect to. -/
  port : Option UInt16
  /-- The database. -/
  database : Option String
  /-- The user. -/
  user : Option String
  /-- The password. -/
  password : Option String
  /-- The query. -/
  query : Option String
  /-- The expected text. -/
  expected : Option String
  /-- The expected pattern. -/
  pattern : Option String
  /-- The warning threshold. -/
  warn : Option String
  /-- The critical threshold. -/
  crit : Option String
  /-- Whether to explain the verdict. -/
  verbose : Option Bool
  /-- Which log records are kept. -/
  logLevel : Option String
  /-- The form of log records. -/
  logFormat : Option LogFormat
deriving DecidableEq, Repr

namespace Layer

/-- The layer that sets nothing. -/
def empty : Layer :=
  ⟨none, none, none, none, none, none, none, none, none, none, none, none, none⟩

/-- The layer that sets what either of two sets, the upper one winning. -/
def atop (upper lower : Layer) : Layer where
  host := upper.host.or lower.host
  port := upper.port.or lower.port
  database := upper.database.or lower.database
  user := upper.user.or lower.user
  password := upper.password.or lower.password
  query := upper.query.or lower.query
  expected := upper.expected.or lower.expected
  pattern := upper.pattern.or lower.pattern
  warn := upper.warn.or lower.warn
  crit := upper.crit.or lower.crit
  verbose := upper.verbose.or lower.verbose
  logLevel := upper.logLevel.or lower.logLevel
  logFormat := upper.logFormat.or lower.logFormat

end Layer

/-- A setting without which no check can be made. -/
inductive Required where
  /-- The server. -/
  | host
  /-- The database. -/
  | database
  /-- The user. -/
  | user
  /-- The password. -/
  | password
  /-- The query. -/
  | query
deriving DecidableEq, Repr

namespace Required

/-- Every required setting, in the order of reports. -/
def all : List Required := [host, database, user, password, query]

/-- The name in reports. -/
def name : Required → String
  | host => "mysql_host"
  | database => "mysql_database"
  | user => "mysql_user"
  | password => "mysql_pass"
  | query => "query"

end Required

namespace Settings

/-- The settings before any source. -/
def initial : Settings where
  host := none
  port := defaultPort
  database := none
  user := none
  password := none
  query := none
  expected := none
  pattern := none
  warn := none
  crit := none
  verbose := false
  logLevel := none
  logFormat := .text
  file := none

/-- The settings of a command line. -/
def ofArguments (a : Arguments) : Settings where
  host := a.host
  port := a.port.getD defaultPort
  database := a.database
  user := a.user
  password := a.pass
  query := a.query
  expected := a.result
  pattern := a.regex
  warn := a.warn
  crit := a.crit
  verbose := a.verbose
  logLevel := none
  logFormat := a.logFormat.getD .text
  file := a.file

/-- The settings with a layer over them: what it sets replaces what was there. -/
def overlay (s : Settings) (l : Layer) : Settings where
  host := l.host.or s.host
  port := l.port.getD s.port
  database := l.database.or s.database
  user := l.user.or s.user
  password := l.password.or s.password
  query := l.query.or s.query
  expected := l.expected.or s.expected
  pattern := l.pattern.or s.pattern
  warn := l.warn.or s.warn
  crit := l.crit.or s.crit
  verbose := l.verbose.getD s.verbose
  logLevel := l.logLevel.or s.logLevel
  logFormat := l.logFormat.getD s.logFormat
  file := s.file

/-- The text of a required setting, if it is there. An empty text is. -/
def required? (s : Settings) : Required → Option String
  | .host => s.host
  | .database => s.database
  | .user => s.user
  | .password => s.password
  | .query => s.query

/-- The required settings that are absent. -/
def missing (s : Settings) : List Required :=
  Required.all.filter fun r => (s.required? r).isNone

/-- Which log records are kept: what is set, or else more of them for an
explained verdict. -/
def effectiveLogLevel (s : Settings) : String :=
  s.logLevel.getD (if s.verbose then "debug" else "warn")

@[simp] theorem overlay_empty (s : Settings) : s.overlay Layer.empty = s := rfl

/-- Two layers, one after the other, do what they do as one. -/
theorem overlay_overlay (s : Settings) (lower upper : Layer) :
    (s.overlay lower).overlay upper = s.overlay (upper.atop lower) := by
  have getD_or {α : Type} (a b : Option α) (c : α) : a.getD (b.getD c) = (a.or b).getD c := by
    cases a <;> rfl
  simp only [overlay, Layer.atop, Option.or_assoc, getD_or]

end Settings

end SqlProbe
