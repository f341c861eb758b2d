import SqlProbe.Yaml.Composition
import SqlProbe.Yaml.Lexer
import SqlProbe.Yaml.Value

/-!
# Reading values from nodes

How a node is read as a value, a number of 16 bits, a truth value or one of a
few words, and what is said if it is none. Aliases are followed on the way, and
both the nesting and the number of steps along aliases are limited.

* `Yaml.Reader`: a computation that counts steps along aliases.
* `Yaml.readValue`, `Yaml.readPort`, `Yaml.readBool`, `Yaml.readWord`: the ways
  to read a node.
* `Yaml.ReadError.message`: the wording of what is wrong.
-/

namespace SqlProbe

namespace Yaml

/-! ### What can be wrong -/

/-- What is found where something else is expected. -/
inductive Found where
  /-- A scalar. -/
  | scalar (s : Scalar)
  /-- A sequence. -/
  | sequence
  /-- A mapping. -/
  | mapping
deriving DecidableEq, Repr

namespace Found

/-- The layout of a binary64 number that is found: always without an exponent. -/
def numberLayout : DecimalLayout where
  isPositional _ := true
  infinity := "inf"
  nan := "NaN"

/-- The wording of a scalar. -/
def scalarText : Scalar → String
  | .null => "unit value"
  | .bool b => "boolean \x60" ++ Value.boolText b ++ "\x60"
  | .integer n => "integer \x60" ++ n.repr ++ "\x60"
  | .wideInteger n => "integer \x60" ++ n.repr ++ "\x60 as " ++ if n < 0 then "i128" else "u128"
  | .float x => "floating point \x60" ++ numberLayout.render x ++ "\x60"
  | .text s => "string " ++ Text.quote s

/-- The wording of what is found. -/
def message : Found → String
  | scalar s => scalarText s
  | sequence => "sequence"
  | mapping => "map"

end Found

/-- What is wrong with a node. -/
inductive Problem where
  /-- It is of another kind. -/
  | wrongType (found : Found) (expected : String)
  /-- It is of the right kind, with another value. -/
  | wrongValue (found : Found) (expected : String)
  /-- It is none of the words that are known. -/
  | unknownWord (given : String) (known : List String)
  /-- It is no scalar. -/
  | noScalar (value : Value)
  /-- A field is given twice. -/
  | duplicateField (name : String)
  /-- A key of a mapping is given twice. -/
  | duplicateKey (key : Value)
  /-- It is nested too deeply. -/
  | tooDeep
  /-- Too many steps along aliases have been taken. -/
  | tooManyAliases
deriving Repr

namespace Problem

/-- The words that are known, for people to read. -/
def alternatives (known : List String) : String :=
  " or ".intercalate (known.map fun w => "\x60" ++ w ++ "\x60")

/-- The wording of a key that is given twice. -/
def duplicateKeyText (key : Value) : String :=
  "duplicate entry " ++
    match key with
    | .null => "with null key"
    | .bool b => "with key \x60" ++ Value.boolText b ++ "\x60"
    | .integer n => "with key " ++ n.repr
    | .float x => "with key " ++ numberLayout.render x
    | .text s => "with key " ++ Text.quote s
    | _ => "in YAML map"

/-- The wording of a problem. -/
def message : Problem → String
  | wrongType found expected => "invalid type: " ++ found.message ++ ", expected " ++ expected
  | wrongValue found expected => "invalid value: " ++ found.message ++ ", expected " ++ expected
  | unknownWord given known =>
    "unknown variant \x60" ++ given ++ "\x60, expected " ++ alternatives known
  | noScalar value => "expected a scalar value, found " ++ value.describe
  | duplicateField name => "duplicate field \x60" ++ name ++ "\x60"
  | duplicateKey key => duplicateKeyText key
  | tooDeep => "recursion limit exceeded"
  | tooManyAliases => "repetition limit exceeded"

end Problem

/-- The way from the root to a node, as it is written; nothing for the root. -/
abbrev Path := Option String

namespace Path

/-- The way to the value of a key. A key that is no scalar is not written. -/
def entry (p : Path) (key : Option String) : Path :=
  some ((p.map (· ++ ".")).getD "" ++ key.getD "?")

/-- The way to an item. -/
def item (p : Path) (index : Nat) : Path :=
  some (p.getD "." ++ "[" ++ index.repr ++ "]")

end Path

/-- What is wrong, and with which node. -/
structure ReadError where
  /-- The way to the node. -/
  path : Path
  /-- What is wrong with it. -/
  problem : Problem
deriving Repr

namespace ReadError

/-- The wording of an error. -/
def message (e : ReadError) : String :=
  match e.path with
  | some p => p ++ ": " ++ e.problem.message
  | none => e.problem.message

end ReadError

/-! ### Following aliases -/

/-- A computation that knows how many steps along aliases have been taken. -/
abbrev Reader (α : Type) := StateT Nat (Except ReadError) α

/-- Ends the reading with an error. -/
def failAt {α : Type} (path : Path) (problem : Problem) : Reader α :=
  fun _ => .error ⟨path, problem⟩

/-- How many steps along aliases may be taken for each step through a document. -/
def aliasFactor : Nat := 100

/-- The node an alias stands for, or the node itself. -/
def resolve (d : Document) (n : Node) : Reader Node := fun steps =>
  match n with
  | .aliasOf a =>
    if d.size * aliasFactor < steps + 1 then .error ⟨none, .tooManyAliases⟩
    else .ok ((d.target? a).getD n, steps + 1)
  | n => .ok (n, steps)

/-! ### Scalars -/

/-- The beginning of the tags that the language itself defines. -/
def coreTag (name : String) : String := "tag:yaml.org,2002:" ++ name

/-- A tag that is meant for the reader: one that starts with an exclamation mark,
without it. -/
def ownTag? (tag : Option String) : Option String :=
  match tag.map String.toList with
  | some ['!'] => some "!"
  | some ('!' :: name) => some (String.ofList name)
  | _ => none

/-- What a scalar under a tag of the language stands for, if the tag decides. -/
def coreScalar? (tag text : String) : Option (Except Problem Scalar) :=
  let require (expected : String) (s : Option Scalar) : Except Problem Scalar :=
    match s with
    | some s => .ok s
    | none => .error (.wrongValue (.scalar (.text text)) expected)
  if tag = coreTag "bool" then some (require "a boolean" ((Scalar.bool? text).map .bool))
  else if tag = coreTag "int" then some (require "an integer" (Scalar.integer? text.toList))
  else if tag = coreTag "float" then some (require "a float" ((Scalar.float? text).map .float))
  else if tag = coreTag "null" then
    some (require "null" (if Scalar.isNullWord text then some .null else none))
  else none

/-- What a scalar without a tag stands for. -/
def plainScalar (style : ScalarStyle) (text : String) : Scalar :=
  if style = .plain then .ofPlain text else .text text

/-- What a scalar stands for. A tag that is not one of the language leaves a
plain scalar what it is if the tag starts with an exclamation mark, and makes it
a text otherwise. -/
def scalarOf (tag : Option String) (style : ScalarStyle) (text : String) :
    Except Problem Scalar :=
  match tag with
  | none => .ok (plainScalar style text)
  | some t =>
    match coreScalar? t text with
    | some r => r
    | none => .ok (if (ownTag? tag).isSome then plainScalar style text else .text text)

/-- What is wrong with a node of another kind than the expected one. -/
def mismatch (n : Node) (expected : String) : Problem :=
  match n with
  | .scalar marks style text =>
    match scalarOf marks.tag style text with
    | .ok s => .wrongType (.scalar s) expected
    | .error p => p
  | .sequence _ _ => .wrongType .sequence expected
  | .mapping _ _ => .wrongType .mapping expected
  | .aliasOf _ => .wrongType (.scalar .null) expected

/-! ### Values -/

/-- The value of a scalar. -/
def valueOfScalar (path : Path) : Scalar → Reader Value
  | .null => pure .null
  | .bool b => pure (.bool b)
  | .integer n => pure (.integer n)
  | .wideInteger n => failAt path (.wrongType (.scalar (.wideInteger n)) "any YAML value")
  | .float x => pure (.float x)
  | .text s => pure (.text s)

/-- The text of a key as it is written, if the key is a scalar. -/
def writtenKey? : Node → Option String
  | .scalar _ _ text => some text
  | _ => none

/-- The tag of a node. -/
def tagOf : Node → Option String
  | .scalar marks _ _ | .sequence marks _ | .mapping marks _ => marks.tag
  | .aliasOf _ => none

/-- Reads the items of a sequence, the first of which has the given index. -/
def readItems (read : Path → Node → Reader Value) (path : Path) :
    Nat → List Node → Reader (List Value)
  | _, [] => pure []
  | i, n :: rest => do
    let v ← read (path.item i) n
    let vs ← readItems read path (i + 1) rest
    pure (v :: vs)

/-- Reads the entries of a mapping after some others, whose keys are not to be
given again. -/
def readEntries (read : Path → Node → Reader Value) (path : Path) :
    List (Value × Value) → List (Node × Node) → Reader (List (Value × Value))
  | done, [] => pure done
  | done, (k, v) :: rest => do
    let key ← read path k
    match done.find? fun p => p.1.same key with
    | some p => failAt path (.duplicateKey p.1)
    | none =>
      let value ← read (path.entry (writtenKey? k)) v
      readEntries read path (done ++ [(key, value)]) rest

/-- What the scalar under a node's tag stands for. A tag that is meant for the
reader is kept apart, so that it does not decide. -/
def contentOf (tag : Option String) (style : ScalarStyle) (text : String) :
    Except Problem Scalar :=
  if (ownTag? tag).isSome then .ok (plainScalar style text) else scalarOf tag style text

/-- Puts a value under the tag of its node, if the tag is meant for the reader. -/
def underTag (tag : Option String) (v : Value) : Value :=
  match ownTag? tag with
  | some t => .tagged t v
  | none => v

/-- Reads a node that may hold collections nested as deeply as given. -/
def readValue (d : Document) : Nat → Path → Node → Reader Value
  | depth, path, n => do
    let n ← resolve d n
    let tag := tagOf n
    let content : Reader Value :=
      match n, depth with
      | .scalar _ style text, _ =>
        match contentOf tag style text with
        | .ok s => valueOfScalar path s
        | .error p => failAt path p
      | .sequence _ items, depth + 1 =>
        Value.sequence <$> readItems (readValue d depth) path 0 items
      | .mapping _ entries, depth + 1 =>
        Value.mapping <$> readEntries (readValue d depth) path [] entries
      | _, _ => failAt none .tooDeep
    underTag tag <$> content

/-! ### Particular kinds of nodes -/

/-- The node, unless it says that nothing is there. -/
def readPresent (d : Document) (n : Node) : Reader (Option Node) := do
  let n ← resolve d n
  match n with
  | .scalar marks .plain text =>
    match marks.tag with
    | none => pure (if text.isEmpty || Scalar.isNullWord text then none else some n)
    | some t =>
      if t = coreTag "null" then
        if Scalar.isNullWord text then pure none
        else failAt none (.wrongValue (.scalar (.text text)) "null")
      else pure (some n)
  | n => pure (some n)

/-- The text of a scalar that may stand for something else than a text: a plain
one, or a literal one under the given tag. -/
def bareText? (tag : String) : Node → Option String
  | .scalar _ .plain text => some text
  | .scalar marks .literal text => if marks.tag = some tag then some text else none
  | _ => none

/-- Reads a number of 16 bits. -/
def readPort (path : Path) (n : Node) : Reader UInt16 :=
  match (bareText? (coreTag "int") n).bind fun text => Scalar.unsigned? text.toList with
  | some k =>
    if k < 0x10000 then pure (UInt16.ofNat k)
    else if k < 0x10000000000000000 then failAt path (.wrongValue (.scalar (.integer k)) "u16")
    else failAt path (mismatch n "u16")
  | none => failAt path (mismatch n "u16")

/-- Reads a truth value. -/
def readBool (path : Path) (n : Node) : Reader Bool :=
  match (bareText? (coreTag "bool") n).bind Scalar.bool? with
  | some b => pure b
  | none => failAt path (mismatch n "a boolean")

/-- The word among those that are known. -/
def knownWord (known : List String) (path : Path) (word : String) : Reader String :=
  if known.contains word then pure word else failAt path (.unknownWord word known)

/-- What is wrong with a node under a tag that should be empty otherwise; nothing
if it is. -/
def notEmpty? : Node → Option Problem
  | .scalar _ style text =>
    if style = .plain && (text.isEmpty || Scalar.isNullWord text) then none
    else some (.wrongValue (.scalar (.text text)) "null")
  | .sequence _ _ => some (.wrongType .sequence "unit")
  | .mapping _ _ => some (.wrongType .mapping "unit")
  | .aliasOf _ => none

/-- Reads one of a few words. It may also be given as the tag of an empty node,
and then an unknown word is not blamed on a place. -/
def readWord (known : List String) (path : Path) (n : Node) : Reader String :=
  match ownTag? (tagOf n) with
  | some word => do
    let word ← knownWord known none word
    match notEmpty? n with
    | none => pure word
    | some problem => failAt path problem
  | none =>
    match n with
    | .scalar _ _ text => knownWord known path text
    | n => failAt path (mismatch n "a YAML tag starting with '!'")

/-- Reads the name of a field. -/
def readFieldName (d : Document) (path : Path) (n : Node) : Reader String := do
  let n ← resolve d n
  match n with
  | .scalar _ _ text => pure text
  | n => failAt path (mismatch n "field identifier")

/-! ### Texts -/

/-- The document that a text is. -/
def parse (s : String) : Except Defect Document :=
  match tokenize s.toList with
  | .ok tokens => Document.ofTokens tokens
  | .error stop => .error (Document.defectBehind stop.tokens stop.defect)

example : parse "query: SELECT a: b" = .error .misplacedValue := by rfl
-- The word that stands in place of the mark comes before the colon behind it.
example : parse "%YAML 1.1\nwarn: 1" = .error .noDocument := by rfl

end Yaml

end SqlProbe
