import SqlProbe.Number.Numeral
import SqlProbe.Text.Blank

/-!
# Readings

A reading is the single value a query returned: its text, and the number the
text stands for if it is a numeral. Blanks around a numeral are ignored, and a
numeral past the largest binary64 number counts as none.

* `Reading.ofText`: a text with its number.
* `Reading.isFinite_of_mem_numberOf`: the number of a text is always finite.
-/

namespace SqlProbe

/-- The value a query returned. -/
structure Reading where
  /-- The text, as it was returned. -/
  raw : String
  /-- The number it stands for, if any. -/
  number : Option Binary64
deriving DecidableEq, Repr

namespace Reading

/-- The finite number a text stands for, if it is a numeral with nothing but
blanks around it. -/
def numberOf (raw : String) : Option Binary64 :=
  ((Numeral.parse? (Text.trim raw.toList)).map Numeral.toBinary64).filter Binary64.isFinite

/-- A text with its number. -/
def ofText (raw : String) : Reading where
  raw := raw
  number := numberOf raw

/-- The number of a text is finite. -/
theorem isFinite_of_mem_numberOf {raw : String} {v : Binary64} (h : numberOf raw = some v) :
    v.isFinite = true := by
  simp only [numberOf, Option.filter_eq_some_iff] at h
  exact h.2

end Reading

end SqlProbe
