import SqlProbe.Settings.Basic
import SqlProbe.Text.Blank
import SqlProbe.Yaml.Reading

/-!
# Files of settings

A file of settings is a YAML mapping from the names of settings to their
values. Every setting has more than one name, and none may be given twice, under
whatever names. A null sets nothing, and keys that name no setting are passed
over with whatever they hold. Where a text is expected any scalar will do; it is
taken in the spelling that belongs to its value.

* `FileKey`: the settings a file may hold, with their names.
* `Layer.parse`: reads the text of a file.
* `DocumentError`: why a text is no file of settings.
-/

namespace SqlProbe

/-- A setting that a file may hold. -/
inductive FileKey where
  /-- The server. -/
  | host
  /-- The port to connect to. -/
  | port
  /-- The database. -/
  | database
  /-- The user. -/
  | user
  /-- The password. -/
  | password
  /-- The query. -/
  | query
  /-- The expected text. -/
  | expected
  /-- The expected pattern. -/
  | pattern
  /-- The warning threshold. -/
  | warn
  /-- The critical threshold. -/
  | crit
  /-- Whether to explain the verdict. -/
  | verbose
  /-- Which log records are kept. -/
  | logLevel
  /-- The form of log records. -/
  | logFormat
deriving DecidableEq, Repr

namespace FileKey

/-- Every setting that a file may hold. -/
def all : List FileKey :=
  [host, port, database, user, password, query, expected, pattern, warn, crit, verbose, logLevel,
    logFormat]

/-- The name that messages use. -/
def name : FileKey → String
  | host => "mysql_host"
  | port => "mysql_port"
  | database => "mysql_database"
  | user => "mysql_user"
  | password => "mysql_pass"
  | query => "query"
  | expected => "result_string"
  | pattern => "result_regex"
  | warn => "warn"
  | crit => "crit"
  | verbose => "verbose"
  | logLevel => "log_level"
  | logFormat => "log_format"

/-- The short name of a setting of the connection. -/
def shortName? : FileKey → Option String
  | host => some "host"
  | port => some "port"
  | database => some "database"
  | user => some "user"
  | password => some "pass"
  | _ => none

/-- Every name of a setting: with and without a colon in front, and short. -/
def names (k : FileKey) : List String := k.name :: (":" ++ k.name) :: k.shortName?.toList

/-- The setting of a name. -/
def ofName? (name : String) : Option FileKey := all.find? fun k => k.names.contains name

end FileKey

/-- Why a text is no file of settings. -/
inductive DocumentError where
  /-- It is not one YAML document. -/
  | malformed (d : Yaml.Defect)
  /-- The document is not what is expected. -/
  | misread (e : Yaml.ReadError)
deriving Repr

namespace DocumentError

/-- The wording of an error. -/
def message : DocumentError → String
  | malformed d => d.message
  | misread e => e.message

end DocumentError

namespace Layer

open Yaml (Node Document Reader Value Path)

/-- How deeply collections may be nested inside the mapping of a file. -/
def nestingLimit : Nat := 127

/-- The text of a value that is a scalar. -/
def textOf : Value → Reader (Option String)
  | .null => pure none
  | .bool b => pure (some (Value.boolText b))
  | .integer n => pure (some n.repr)
  | .float x => pure (some (Yaml.numberLayout.render x))
  | .text s => pure (some s)
  | v => Yaml.failAt none (.noScalar v)

/-- Reads a text. -/
def readText (d : Document) (path : Path) (n : Node) : Reader (Option String) := do
  let v ← Yaml.readValue d nestingLimit path n
  textOf v

/-- Reads something that may be left out. -/
def readOptional {α : Type} (d : Document) (read : Path → Node → Reader α) (path : Path)
    (n : Node) : Reader (Option α) := do
  match ← Yaml.readPresent d n with
  | some n => some <$> read path n
  | none => pure none

/-- Reads the form of log records. -/
def readLogFormat (path : Path) (n : Node) : Reader LogFormat := do
  let word ← Yaml.readWord [LogFormat.text.name, LogFormat.json.name] path n
  pure (if word = LogFormat.json.name then .json else .text)

/-- Reads the value of a setting into a layer. -/
def readField (d : Document) (path : Path) (n : Node) (l : Layer) : FileKey → Reader Layer
  | .host => do let v ← readText d path n; pure { l with host := v }
  | .port => do let v ← readOptional d Yaml.readPort path n; pure { l with port := v }
  | .database => do let v ← readText d path n; pure { l with database := v }
  | .user => do let v ← readText d path n; pure { l with user := v }
  | .password => do let v ← readText d path n; pure { l with password := v }
  | .query => do let v ← readText d path n; pure { l with query := v }
  | .expected => do let v ← readText d path n; pure { l with expected := v }
  | .pattern => do let v ← readText d path n; pure { l with pattern := v }
  | .warn => do let v ← readText d path n; pure { l with warn := v }
  | .crit => do let v ← readText d path n; pure { l with crit := v }
  | .verbose => do let v ← readOptional d Yaml.readBool path n; pure { l with verbose := v }
  | .logLevel => do let v ← readText d path n; pure { l with logLevel := v }
  | .logFormat => do let v ← readOptional d readLogFormat path n; pure { l with logFormat := v }

/-- Reads the entries of a file after some others, whose settings are not to be
given again. -/
def readFields (d : Document) : List FileKey → Layer → List (Node × Node) → Reader Layer
  | _, l, [] => pure l
  | seen, l, (k, v) :: rest => do
    let name ← Yaml.readFieldName d none k
    match FileKey.ofName? name with
    | none => readFields d seen l rest
    | some key =>
      if seen.contains key then Yaml.failAt none (.duplicateField key.name)
      else
        let l ← readField d (Path.entry none (Yaml.writtenKey? k)) v l key
        readFields d (key :: seen) l rest

/-- Reads the root of a file. An empty one sets nothing. -/
def readRoot (d : Document) : Option Node → Reader Layer
  | none => pure empty
  | some (.mapping _ entries) => readFields d [] empty entries
  | some (.scalar marks style text) =>
    if style = .plain && text.isEmpty then pure empty
    else Yaml.failAt none (Yaml.mismatch (.scalar marks style text) "struct FileOptions")
  | some n => Yaml.failAt none (Yaml.mismatch n "struct FileOptions")

/-- Reads a document. -/
def ofDocument (d : Document) : Except Yaml.ReadError Layer :=
  ((readRoot d d.root).run 0).map Prod.fst

/-- Reads the text of a file. A blank text sets nothing. -/
def parse (s : String) : Except DocumentError Layer :=
  if Text.allBlank s then .ok empty
  else
    match Yaml.parse s with
    | .error e => .error (.malformed e)
    | .ok d =>
      match ofDocument d with
      | .ok l => .ok l
      | .error e => .error (.misread e)

end Layer

end SqlProbe
