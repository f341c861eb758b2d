import SqlProbe.Unicode.Age
import SqlProbe.Unicode.Break

/-!
# Properties by name

The sets of the standard that can be asked for: by the name of a property, a
category or a script alone, or by the name of a kind of property and the name of
a value of it.

* `property?`: a set by one name.
* `propertyValue?`: a set by the names of a kind and of a value.
-/

namespace SqlProbe

namespace Unicode

/-- The sets that are made up of categories, with their names. -/
def categoryGroups : List NamedSet :=
  [⟨["Any"], .all⟩,
    ⟨["Assigned"], assigned⟩,
    ⟨["ASCII"], .range '\x00' '\x7f'⟩,
    ⟨["Letter", "L"], letters⟩,
    ⟨["Cased_Letter", "LC"], casedLetters⟩,
    ⟨["Combining_Mark", "Mark", "M"], marks⟩,
    ⟨["Number", "N"], numbers⟩,
    ⟨["Punctuation", "Punct", "P"], punctuation⟩,
    ⟨["Symbol", "S"], symbols⟩,
    ⟨["Separator", "Z"], separators⟩,
    ⟨["Other", "C"], others⟩,
    ⟨["Unassigned", "Cn"], assigned.compl⟩,
    ⟨["Cntrl"], Category.controlChars⟩,
    ⟨["Digit"], Category.decimalNumberChars⟩]

/-- A category with its names. -/
def namedCategory (k : Category) : NamedSet := ⟨[k.name, k.abbreviation], k.chars⟩

/-- The categories and the groups of them, with their names. -/
def categories : List NamedSet := categoryGroups ++ Category.all.map namedCategory

/-- The set of a name: a property, a category or a script, in this order. -/
def property? (name : String) : Option CharSet :=
  let plain := plainName name
  (find? properties plain).or ((find? categories plain).or (find? scripts plain))

/-- The values of a kind of property, if there is such a kind. -/
def valuesOf? (plainKind : String) : Option (List NamedSet) :=
  match plainKind with
  | "gc" | "generalcategory" => some categories
  | "sc" | "script" => some scripts
  | "scx" | "scriptextensions" => some scriptExtensions
  | "age" => some ages
  | "gcb" | "graphemeclusterbreak" => some graphemeBreaks
  | "wb" | "wordbreak" => some wordBreaks
  | "sb" | "sentencebreak" => some sentenceBreaks
  | _ => none

/-- The set of a kind of property and a value of it. -/
def propertyValue? (kind value : String) : Option CharSet :=
  (valuesOf? (plainName kind)).bind (find? · (plainName value))

end Unicode

end SqlProbe
