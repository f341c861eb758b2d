import SqlProbe.LogFormat
import SqlProbe.Text.Raw

/-!
# Switches

The switches of the command line: how each is spelled, what its value is called
and whether a value may start with a hyphen; and the arguments they amount to.

* `Switch`: the switches.
* `Arguments`: what a command line sets, nothing being set at first.
* `UsageError`: why a command line is refused, with the wording of each cause.
-/

namespace SqlProbe

/-- A switch of the command line. -/
inductive Switch where
  /-- The query to make. -/
  | query
  /-- The text to expect. -/
  | result
  /-- The pattern to expect. -/
  | regex
  /-- The warning threshold. -/
  | warn
  /-- The critical threshold. -/
  | crit
  /-- The file of further settings. -/
  | file
  /-- The server. -/
  | host
  /-- The port to connect to. -/
  | port
  /-- The database. -/
  | database
  /-- The user. -/
  | user
  /-- The password. -/
  | pass
  /-- The form of log records. -/
  | logFormat
  /-- Whether to explain the verdict. -/
  | verbose
  /-- Whether to print the help text instead. -/
  | help
deriving DecidableEq, Repr

namespace Switch

/-- Every switch, in the order of the help text. -/
def all : List Switch :=
  [query, result, regex, warn, crit, file, host, port, database, user, pass, logFormat, verbose,
    help]

/-- The name after two hyphens. -/
def longName : Switch → String
  | query => "query"
  | result => "result"
  | regex => "regex"
  | warn => "warn"
  | crit => "crit"
  | file => "file"
  | host => "host"
  | port => "port"
  | database => "database"
  | user => "user"
  | pass => "pass"
  | logFormat => "log-format"
  | verbose => "verbose"
  | help => "help"

/-- The letter after one hyphen, where there is one. -/
def letter? : Switch → Option Char
  | query => some 'q'
  | result => some 's'
  | regex => some 'r'
  | warn => some 'w'
  | crit => some 'c'
  | file => some 'f'
  | verbose => some 'v'
  | help => some 'h'
  | _ => none

/-- What the value is called, for a switch that takes one. -/
def valueName? : Switch → Option String
  | query => some "QUERY"
  | result => some "STRING"
  | regex => some "REGEX"
  | warn => some "RANGE"
  | crit => some "RANGE"
  | file => some "CONFIG_FILE"
  | host => some "HOST"
  | port => some "PORT"
  | database => some "DATABASE"
  | user => some "USER"
  | pass => some "PASS"
  | logFormat => some "FORMAT"
  | verbose => none
  | help => none

/-- Whether the switch takes a value. -/
def takesValue (s : Switch) : Bool := s.valueName?.isSome

/-- Whether an argument of its own that starts with a hyphen can be the value. -/
def takesHyphen : Switch → Bool
  | query | result | regex | pass => true
  | _ => false

/-- The switch of a long name. -/
def ofLongName? (name : String) : Option Switch := all.find? (·.longName = name)

/-- The switch of a letter. -/
def ofLetter? (c : Char) : Option Switch := all.find? (·.letter? = some c)

/-- The switch as messages name it. -/
def text (s : Switch) : String :=
  match s.valueName? with
  | some v => "--" ++ s.longName ++ " <" ++ v ++ ">"
  | none => "--" ++ s.longName

@[simp] theorem ofLongName?_longName (s : Switch) : ofLongName? s.longName = some s := by
  cases s <;> decide

theorem ofLetter?_eq_some {s : Switch} {c : Char} (h : s.letter? = some c) :
    ofLetter? c = some s := by
  cases s <;> simp only [letter?, Option.some.injEq, reduceCtorEq] at h <;> subst h <;> decide

end Switch

/-! ### Arguments -/

/-- What a command line sets. -/
structure Arguments where
  /-- The query. -/
  query : Option String
  /-- The expected text. -/
  result : Option String
  /-- The expected pattern. -/
  regex : Option String
  /-- The warning threshold. -/
  warn : Option String
  /-- The critical threshold. -/
  crit : Option String
  /-- The name of the file of further settings. -/
  file : Option RawText
  /-- The server. -/
  host : Option String
  /-- The port. -/
  port : Option UInt16
  /-- The database. -/
  database : Option String
  /-- The user. -/
  user : Option String
  /-- The password. -/
  pass : Option String
  /-- The form of log records. -/
  logFormat : Option LogFormat
  /-- Whether to explain the verdict. -/
  verbose : Bool
  /-- Whether the help text is wanted. -/
  help : Bool
deriving DecidableEq, Repr

namespace Arguments

/-- The arguments of an empty command line. -/
def none : Arguments where
  query := .none
  result := .none
  regex := .none
  warn := .none
  crit := .none
  file := .none
  host := .none
  port := .none
  database := .none
  user := .none
  pass := .none
  logFormat := .none
  verbose := false
  help := false

/-- Whether a switch has been used. -/
def uses (a : Arguments) : Switch → Bool
  | .query => a.query.isSome
  | .result => a.result.isSome
  | .regex => a.regex.isSome
  | .warn => a.warn.isSome
  | .crit => a.crit.isSome
  | .file => a.file.isSome
  | .host => a.host.isSome
  | .port => a.port.isSome
  | .database => a.database.isSome
  | .user => a.user.isSome
  | .pass => a.pass.isSome
  | .logFormat => a.logFormat.isSome
  | .verbose => a.verbose
  | .help => a.help

end Arguments

end SqlProbe
