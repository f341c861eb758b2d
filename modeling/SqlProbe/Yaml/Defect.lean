/-!
# Defects of a YAML text

What keeps a text from being one document. All of its characters have to be allowed.
Then it is read token by token, with every token put in its place before the next one
is read, and the first defect ends the reading. Its wording tells what is wrong and
what was being read there.

* `Yaml.Defect`: the defects.
* `Yaml.Defect.message`: the wording of a defect.
* `Yaml.expect`: something that has to be there.
-/

namespace SqlProbe

namespace Yaml

/-- What is wrong with the text of a tag. -/
inductive UriDefect where
  /-- There is none. -/
  | missing
  /-- A byte is expected, and no two digits follow a percent sign. -/
  | noByte
  /-- A byte begins no character. -/
  | badLead
  /-- A byte does not go on with the character that has begun. -/
  | badTail
deriving DecidableEq, Repr

/-- What is wrong with a text that is not one document. -/
inductive Defect where
  /-- A character that no text may hold. -/
  | badCharacter
  /-- A character that begins no token. -/
  | badStart
  /-- Something has to be a key, and no colon follows. -/
  | missingColon
  /-- An entry of a block sequence, where none can begin. -/
  | misplacedEntry
  /-- A key of a block mapping, where none can begin. -/
  | misplacedKey
  /-- A value of a block mapping, where none can begin. -/
  | misplacedValue
  /-- The name of an anchor is missing, or goes on with a sign that none may hold. -/
  | badAnchor
  /-- The name of an alias is missing, or goes on with a sign that none may hold. -/
  | badAlias
  /-- The handle of a tag, or of a directive about tags, does not begin. -/
  | noHandle (inDirective : Bool)
  /-- The text of a tag, or of a directive about tags, is wrong. -/
  | badUri (inDirective : Bool) (d : UriDefect)
  /-- The long form of a tag does not end. -/
  | openTag
  /-- No separator follows a tag. -/
  | unendedTag
  /-- A directive has no name. -/
  | noDirectiveName
  /-- The name of a directive goes on with a sign that none may hold. -/
  | badDirectiveName
  /-- A directive is of no known name. -/
  | unknownDirective
  /-- Something follows a directive on its line. -/
  | unendedDirective
  /-- A number of a version is missing. -/
  | noVersion
  /-- A number of a version has too many digits. -/
  | longVersion
  /-- A version has no point. -/
  | noVersionPoint
  /-- The handle of a directive about tags does not end. -/
  | openHandle
  /-- No blank follows the handle of a directive about tags. -/
  | unendedHandle
  /-- No separator follows a directive about tags. -/
  | unendedPrefix
  /-- A mark of documents begins a line inside of quotes. -/
  | cutOffScalar
  /-- The text ends inside of quotes. -/
  | unclosedScalar
  /-- A letter after a backslash has no meaning. -/
  | unknownEscape
  /-- A digit of an escape is missing. -/
  | badDigits
  /-- The number of an escape is that of no character. -/
  | badCode
  /-- A colon inside a plain scalar, in a flow collection. -/
  | badColon
  /-- A tab takes the place of the indentation of a plain scalar. -/
  | badTab
  /-- The indentation of a block scalar is told to be zero. -/
  | zeroIndentation
  /-- Something follows the header of a block scalar on its line. -/
  | unendedHeader
  /-- A tab takes the place of the indentation of a block scalar. -/
  | tabIndentation
  /-- The version is told twice. -/
  | twoVersions
  /-- The version is none that is known. -/
  | badVersion
  /-- A handle is given two meanings. -/
  | twoHandles
  /-- No document follows the directives. -/
  | noDocument
  /-- A tag has a handle that nothing is known about. -/
  | unknownHandle
  /-- An alias has the name of no anchor. -/
  | unknownAnchor
  /-- A node is expected, inside block collections or a flow collection. -/
  | noNode (inFlow : Bool)
  /-- A further entry of a block sequence is expected. -/
  | noEntry
  /-- A further key of a block mapping is expected. -/
  | noKey
  /-- A flow sequence does not go on or end after an item. -/
  | openSequence
  /-- A flow mapping does not go on or end after an entry. -/
  | openMapping
  /-- A document follows the first one. -/
  | severalDocuments
deriving DecidableEq, Repr

/-- What the wording of a defect in the text of a tag begins with. -/
def UriDefect.problem : UriDefect → String
  | missing => "did not find expected tag URI"
  | noByte => "did not find URI escaped octet"
  | badLead => "found an incorrect leading UTF-8 octet"
  | badTail => "found an incorrect trailing UTF-8 octet"

namespace Defect

/-- What is wrong. -/
def problem : Defect → String
  | badCharacter => "control characters are not allowed"
  | badStart => "found character that cannot start any token"
  | missingColon => "could not find expected ':'"
  | misplacedEntry => "block sequence entries are not allowed in this context"
  | misplacedKey => "mapping keys are not allowed in this context"
  | misplacedValue => "mapping values are not allowed in this context"
  | badAnchor | badAlias => "did not find expected alphabetic or numeric character"
  | noHandle _ | openHandle => "did not find expected '!'"
  | badUri _ d => d.problem
  | openTag => "did not find the expected '>'"
  | unendedTag | unendedPrefix => "did not find expected whitespace or line break"
  | noDirectiveName => "could not find expected directive name"
  | badDirectiveName => "found unexpected non-alphabetical character"
  | unknownDirective => "found unknown directive name"
  | unendedDirective | unendedHeader => "did not find expected comment or line break"
  | noVersion => "did not find expected version number"
  | longVersion => "found extremely long version number"
  | noVersionPoint => "did not find expected digit or '.' character"
  | unendedHandle => "did not find expected whitespace"
  | cutOffScalar => "found unexpected document indicator"
  | unclosedScalar => "found unexpected end of stream"
  | unknownEscape => "found unknown escape character"
  | badDigits => "did not find expected hexdecimal number"
  | badCode => "found invalid Unicode character escape code"
  | badColon => "found unexpected ':'"
  | badTab => "found a tab character that violates indentation"
  | zeroIndentation => "found an indentation indicator equal to 0"
  | tabIndentation => "found a tab character where an indentation space is expected"
  | twoVersions => "found duplicate %YAML directive"
  | badVersion => "found incompatible YAML document"
  | twoHandles => "found duplicate %TAG directive"
  | noDocument => "did not find expected <document start>"
  | unknownHandle => "found undefined tag handle"
  | unknownAnchor => "unknown anchor"
  | noNode _ => "did not find expected node content"
  | noEntry => "did not find expected '-' indicator"
  | noKey => "did not find expected key"
  | openSequence => "did not find expected ',' or ']'"
  | openMapping => "did not find expected ',' or '\x7d'"
  | severalDocuments =>
    "deserializing from YAML containing more than one document is not supported"

/-- What was being read, where the wording tells it. -/
def context? : Defect → Option String
  | badStart => "while scanning for the next token"
  | missingColon => "while scanning a simple key"
  | badAnchor => "while scanning an anchor"
  | badAlias => "while scanning an alias"
  | noHandle false | openTag | unendedTag => "while scanning a tag"
  | badUri false _ => "while parsing a tag"
  | badUri true _ => "while parsing a %TAG directive"
  | noHandle true | noDirectiveName | badDirectiveName | unknownDirective | unendedDirective =>
    "while scanning a directive"
  | noVersion | longVersion | noVersionPoint => "while scanning a %YAML directive"
  | openHandle => "while parsing a directive"
  | unendedHandle | unendedPrefix => "while scanning a %TAG directive"
  | cutOffScalar | unclosedScalar => "while scanning a quoted scalar"
  | unknownEscape | badDigits | badCode => "while parsing a quoted scalar"
  | badColon | badTab => "while scanning a plain scalar"
  | zeroIndentation | unendedHeader | tabIndentation => "while scanning a block scalar"
  | unknownHandle => "while parsing a node"
  | noNode false => "while parsing a block node"
  | noNode true => "while parsing a flow node"
  | noEntry => "while parsing a block collection"
  | noKey => "while parsing a block mapping"
  | openSequence => "while parsing a flow sequence"
  | openMapping => "while parsing a flow mapping"
  | badCharacter | misplacedEntry | misplacedKey | misplacedValue | twoVersions | badVersion
  | twoHandles | noDocument | unknownAnchor | severalDocuments => none

/-- The wording of a defect. -/
def message (d : Defect) : String :=
  match d.context? with
  | some context => d.problem ++ ", " ++ context
  | none => d.problem

end Defect

/-- What is there, or what is wrong if nothing is. -/
def expect {ε α : Type} (e : ε) : Option α → Except ε α
  | some a => .ok a
  | none => .error e

end Yaml

end SqlProbe
