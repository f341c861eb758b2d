import SqlProbe.Session
import SqlProbe.Switches.Parser

/-!
# Invocations

One run of the program from its arguments. The file that the arguments name is
read by a function that the caller gives, so that everything up to the query is
computed without side effects.

* `Settings.resolve`: the settings of the arguments, with the file over them.
* `Invocation.ofArguments`: what a run prints and how it exits, or the check it
  goes on to.
-/

namespace SqlProbe

/-- Why a file cannot be read. -/
inductive ReadFailure where
  /-- There is no such file. -/
  | notFound
  /-- It is a directory. -/
  | isDirectory
  /-- It is no text. -/
  | notText
  /-- Anything else the system reports. -/
  | other (detail : String)
deriving DecidableEq, Repr

namespace ReadFailure

/-- The wording of a failure. -/
def message : ReadFailure → String
  | notFound => "No such file or directory (os error 2)"
  | isDirectory => "Is a directory (os error 21)"
  | notText => "stream did not contain valid UTF-8"
  | other detail => detail

end ReadFailure

/-- What is found under the name of a file. -/
abbrev FileReader := RawText → Except ReadFailure RawText

namespace FileReader

/-- The text of a file. -/
def text (read : FileReader) (name : RawText) : Except ReadFailure String :=
  match read name with
  | .error e => .error e
  | .ok content =>
    match content.toString? with
    | some s => .ok s
    | none => .error .notText

end FileReader

namespace Settings

/-- The settings with a file over them. -/
def overlayFile (s : Settings) (read : FileReader) (name : RawText) :
    Except SettingsError Settings :=
  match read.text name with
  | .error e => .error (.unreadable e.message)
  | .ok text =>
    match Layer.parse text with
    | .error e => .error (.malformed e)
    | .ok l => .ok (s.overlay l)

/-- The settings of the arguments, with the file they name over them. -/
def resolve (a : Arguments) (read : FileReader) : Except SettingsError Settings :=
  match a.file with
  | some name => (ofArguments a).overlayFile read name
  | none => .ok (ofArguments a)

end Settings

/-- The help text. -/
def helpText : String :=
  "Monitoring plugin that performs a MySQL query and checks the result.

Usage: check_mysql_query [OPTIONS]

Options:
  -q, --query <QUERY>        The query to execute
  -s, --result <STRING>      Expected (string) result. No need for -w or -c
  -r, --regex <REGEX>        Expected result expressed as a regular expression. No need for -w or -c
  -w, --warn <RANGE>         Warning threshold
  -c, --crit <RANGE>         Critical threshold
  -f, --file <CONFIG_FILE>   YAML config file; its keys override the switches
      --host <HOST>          MySQL host
      --port <PORT>          MySQL port
      --database <DATABASE>  MySQL database
      --user <USER>          MySQL user
      --pass <PASS>          MySQL password
      --log-format <FORMAT>  Log record format on stderr (text or json)
  -v, --verbose              Human output
  -h, --help                 Help!
"

/-- What a run comes to. -/
inductive Invocation where
  /-- The help text is printed. -/
  | help
  /-- A check is made, which may already be finished. -/
  | check (session : Session)

namespace Invocation

/-- The run with some arguments. -/
def ofArguments (args : List RawText) (read : FileReader) : Invocation :=
  match Arguments.parse args with
  | .error e => .check (.finished (.ofSettingsError (.usage e.message) false))
  | .ok a =>
    if a.help then .help
    else
      match Settings.resolve a read with
      | .error e => .check (.finished (.ofSettingsError e a.verbose))
      | .ok s => .check s.session

/-- What is printed. -/
def text (answer : Connection → String → Reply) : Invocation → String
  | help => helpText ++ "\n"
  | check session => (session.run answer).text

/-- The exit code. -/
def exitCode (answer : Connection → String → Reply) : Invocation → Nat
  | help => Severity.unknown.exitCode
  | check session => (session.run answer).exitCode

end Invocation

end SqlProbe
