import SqlProbe.Number.Decimal
import SqlProbe.Yaml.Defect
import SqlProbe.Yaml.Token
import SqlProbe.Yaml.Text

/-!
# Properties and directives

The tokens that name things: anchors and aliases, tags, and the directives in
front of a document.

* `Yaml.scanName?`: the name of an anchor or an alias.
* `Yaml.scanTag`: a tag.
* `Yaml.scanDirective`: a directive, with the rest of its line.
-/

namespace SqlProbe

namespace Yaml

/-! ### Anchors -/

/-- Whether a character may follow the name of an anchor directly. -/
def endsName (c : Char) : Bool :=
  isSeparator c || ['?', ':', ',', ']', '\x7d', '%', '@', '\x60'].contains c

/-- Reads a name after the mark of an anchor or an alias. -/
def scanName? (s : List Char) : Option (List Char × List Char) :=
  let (name, rest) := s.span isName
  if name.isEmpty || !rest.head?.all endsName then none else some (name, rest)

/-! ### Tags -/

/-- The signs that may occur in a tag. -/
def uriSigns : List Char :=
  [';', '/', '?', ':', '@', '&', '=', '+', '$', '.', '!', '~', '*', '\'', '(', ')']

/-- Whether a character may occur in a tag. In the long form between angle
brackets the marks of sequences may, too. -/
def isUri (long : Bool) (c : Char) : Bool :=
  isName c || uriSigns.contains c || (long && [',', '[', ']'].contains c)

/-- How many bytes a character takes whose first byte is given. -/
def byteCount? (b : Nat) : Option Nat :=
  if b < 0x80 then some 1
  else if b / 32 = 6 then some 2
  else if b / 16 = 14 then some 3
  else if b / 8 = 30 then some 4
  else none

/-- Reads a byte that is written as a percent sign and two digits. -/
def scanByte : List Char → Except UriDefect (Nat × List Char)
  | '%' :: a :: b :: rest =>
    if Digit.isHex a && Digit.isHex b then .ok (Digit.natOf 16 [a, b], rest) else .error .noByte
  | _ => .error .noByte

/-- Reads the further bytes of a character. -/
def scanBytes : Nat → Nat → List Char → Except UriDefect (Nat × List Char)
  | 0, n, s => .ok (n, s)
  | count + 1, n, s => do
    let (b, rest) ← scanByte s
    if b / 64 = 2 then scanBytes count (n * 64 + b % 64) rest else .error .badTail

/-- Reads a character that is written as percent signs and digits. -/
def scanEscape (s : List Char) : Except UriDefect (Char × List Char) := do
  let (lead, rest) ← scanByte s
  let count ← expect .badLead (byteCount? lead)
  let payload := if count = 1 then lead else lead % Nat.pow 2 (7 - count)
  let (n, rest) ← scanBytes (count - 1) payload rest
  .ok (Char.ofNat n, rest)

/-- Reads the text of a tag, which has at most as many characters as the fuel
tells. It may be empty. -/
def scanUriFrom (long : Bool) : Nat → List Char → Except UriDefect (List Char × List Char)
  | 0, s => .ok ([], s)
  | _, [] => .ok ([], [])
  | fuel + 1, c :: rest =>
    if c = '%' then do
      let (e, rest) ← scanEscape (c :: rest)
      let (text, rest) ← scanUriFrom long fuel rest
      .ok (e :: text, rest)
    else if isUri long c then
      (scanUriFrom long fuel rest).map fun (text, rest) => (c :: text, rest)
    else .ok ([], c :: rest)

/-- Reads the text of a tag, or of a directive about tags. It may be empty. -/
def scanUri (inDirective long : Bool) (s : List Char) : Except Defect (List Char × List Char) :=
  (scanUriFrom long s.length s).mapError (Defect.badUri inDirective)

/-- Reads the text of a tag, or of a directive about tags, if there is one. -/
def scanUriText (inDirective long : Bool) (s : List Char) :
    Except Defect (List Char × List Char) := do
  let (uri, rest) ← scanUri inDirective long s
  if uri.isEmpty then .error (.badUri inDirective .missing) else .ok (uri, rest)

/-- Reads a handle: an exclamation mark, a name and, if there is one, a second
exclamation mark. -/
def scanHandle? : List Char → Option (List Char × List Char)
  | '!' :: rest =>
    let (name, rest) := rest.span isName
    match rest with
    | '!' :: rest => some ('!' :: name ++ ['!'], rest)
    | rest => some ('!' :: name, rest)
  | _ => none

/-- Whether a handle has its second exclamation mark. -/
def isNamedHandle (handle : List Char) : Bool := 1 < handle.length && handle.getLast? == some '!'

/-- Reads a tag as its handle and suffix. The long form has no handle. Without
a second exclamation mark, the handle is a single one and its name belongs to
the suffix; a single exclamation mark alone is a suffix without a handle. -/
def scanTagParts (s : List Char) : Except Defect (List Char × List Char × List Char) :=
  match s with
  | '!' :: '<' :: rest => do
    let (uri, rest) ← scanUriText false true rest
    match rest with
    | '>' :: rest => .ok ([], uri, rest)
    | _ => .error .openTag
  | _ => do
    let (handle, rest) ← expect (.noHandle false) (scanHandle? s)
    if isNamedHandle handle then
      let (uri, rest) ← scanUriText false false rest
      .ok (handle, uri, rest)
    else
      let (uri, rest) ← scanUri false false rest
      match handle.drop 1 ++ uri with
      | [] => .ok ([], ['!'], rest)
      | suffix => .ok (['!'], suffix, rest)

/-- Reads a tag with the mark in front of it. A separator has to follow, or a
comma inside a flow collection. -/
def scanTag (inFlow : Bool) (s : List Char) : Except Defect (Token × List Char) := do
  let (handle, suffix, rest) ← scanTagParts s
  if startsSeparated rest || (inFlow && rest.head? == some ',') then
    .ok (.tag handle suffix, rest)
  else .error .unendedTag

/-! ### Directives -/

/-- Reads a number of at most nine digits. -/
def scanNumber (s : List Char) : Except Defect (Nat × List Char) :=
  let (digits, rest) := Digit.spanDecimal s
  if digits.isEmpty then .error .noVersion
  else if 9 < digits.length then .error .longVersion
  else .ok (Digit.natOf 10 digits, rest)

/-- Reads the version of the language. -/
def scanVersion (s : List Char) : Except Defect (Token × List Char) := do
  let (major, rest) ← scanNumber (skipBlanks s)
  match rest with
  | '.' :: rest =>
    let (minor, rest) ← scanNumber rest
    .ok (.version major minor, rest)
  | _ => .error .noVersionPoint

/-- Reads an abbreviation for the beginnings of tags. -/
def scanTagDirective (s : List Char) : Except Defect (Token × List Char) := do
  let (handle, rest) ← expect (.noHandle true) (scanHandle? (skipBlanks s))
  if !(handle = ['!'] || isNamedHandle handle) then .error .openHandle
  else if !rest.head?.any isBlank then .error .unendedHandle
  else
    let (uri, rest) ← scanUriText true true (skipBlanks rest)
    if startsSeparated rest then .ok (.tagDirective handle uri, rest) else .error .unendedPrefix

/-- Reads a directive after its mark, and the rest of its line. -/
def scanDirective (s : List Char) : Except Defect (Token × List Char) := do
  let (name, rest) := s.span isName
  if name.isEmpty then .error .noDirectiveName
  else if !startsSeparated rest then .error .badDirectiveName
  else
    let (token, rest) ←
      if name = "YAML".toList then scanVersion rest
      else if name = "TAG".toList then scanTagDirective rest
      else .error .unknownDirective
    let rest ← expect .unendedDirective (finishLine? rest)
    .ok (token, rest)

example : (scanTag false "!!str x".toList).toOption =
    some (.tag "!!".toList "str".toList, " x".toList) := by decide +kernel
example : (scanTag false "! x".toList).toOption = some (.tag [] ['!'], " x".toList) := by
  decide +kernel
example : (scanTag false "!<a%21b>".toList).toOption = some (.tag [] "a!b".toList, []) := by
  decide +kernel

end Yaml

end SqlProbe
