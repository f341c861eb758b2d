/-!
# Tokens of a YAML document

What a document consists of once its characters are grouped: the marks of
documents and collections, the properties of nodes, and the scalars. Block
collections have no marks of their own in the text; their beginnings and ends
follow from the indentation.
-/

namespace SqlProbe

namespace Yaml

/-- How a scalar is written. -/
inductive ScalarStyle where
  /-- Without any mark. -/
  | plain
  /-- Between apostrophes. -/
  | singleQuoted
  /-- Between double quotes. -/
  | doubleQuoted
  /-- After a bar, line by line. -/
  | literal
  /-- After a greater-than sign, folded. -/
  | folded
deriving DecidableEq, Repr

/-- A token. -/
inductive Token where
  /-- The version of the language. -/
  | version (major minor : Nat)
  /-- An abbreviation for the beginnings of tags. -/
  | tagDirective (handle start : List Char)
  /-- `---` -/
  | documentStart
  /-- `...` -/
  | documentEnd
  /-- The beginning of a block sequence. -/
  | blockSequenceStart
  /-- The beginning of a block mapping. -/
  | blockMappingStart
  /-- The end of a block collection. -/
  | blockEnd
  /-- `[` -/
  | flowSequenceStart
  /-- `]` -/
  | flowSequenceEnd
  /-- `{` -/
  | flowMappingStart
  /-- `}` -/
  | flowMappingEnd
  /-- The dash before an entry of a block sequence. -/
  | blockEntry
  /-- The comma between entries of a flow collection. -/
  | flowEntry
  /-- The beginning of a key. -/
  | key
  /-- The beginning of a value. -/
  | value
  /-- A reference to an anchored node. -/
  | aliasOf (name : List Char)
  /-- The name of the node that follows. -/
  | anchor (name : List Char)
  /-- The tag of the node that follows, as an abbreviation and a rest. -/
  | tag (handle suffix : List Char)
  /-- A scalar. -/
  | scalar (style : ScalarStyle) (text : List Char)
deriving DecidableEq, Repr

end Yaml

end SqlProbe
