import SqlProbe.Unicode.CharSet

/-!
# Names of sets of characters

The sets of the Unicode standard are asked for by name, and names are compared
loosely: case, blanks, hyphens, underscores and a leading `is` do not matter.

* `Unicode.plainName`: the form in which names are compared.
* `Unicode.NamedSet`: a set with the names it has.
* `Unicode.find?`: the set of a name.
-/

namespace SqlProbe

namespace Unicode

/-- The form in which names are compared: ASCII letters in lower case, without
blanks, hyphens and underscores, and without a leading `is`. -/
def plainName (name : String) : String :=
  let (cs, cut) := match name.toList with
    | i :: s :: rest =>
      if i.toLower = 'i' && s.toLower = 's' then (rest, true) else (i :: s :: rest, false)
    | cs => (cs, false)
  let plain := (cs.filter fun c => c.toNat < 0x80 && !(c == ' ' || c == '_' || c == '-')).map
    Char.toLower
  if cut && plain = ['c'] then "isc" else String.ofList plain

/-- A set of characters with its names. -/
structure NamedSet where
  /-- The names, the longest one first. -/
  names : List String
  /-- The characters. -/
  chars : CharSet
deriving DecidableEq, Repr

/-- The set with a name, given in its plain form. -/
def find? (sets : List NamedSet) (plain : String) : Option CharSet :=
  (sets.find? fun s => s.names.any (plainName · == plain)).map NamedSet.chars

example : plainName "Is_Upper-Case Letter" = "uppercaseletter" := by decide +kernel

end Unicode

end SqlProbe
