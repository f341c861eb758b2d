import SqlProbe.Unicode.CharSet

/-!
# Characters as bytes

A set of characters, each written in UTF-8, is a union of sequences of ranges of
bytes: the characters of one sequence are those whose first byte lies in its first
range, whose second byte lies in its second, and so on. An interval of code points
is cut until each part is one such sequence.

* `cut?`: where an interval has to be cut, if it is no single sequence.
* `CharSet.byteSequences`: the sequences of a set, in ascending order.
-/

namespace SqlProbe

/-- The bytes between two, both included. -/
structure ByteRange where
  /-- The lowest. -/
  first : Nat
  /-- The highest. -/
  last : Nat
deriving DecidableEq, Repr

/-- One range for each byte of a character. -/
abbrev ByteSequence := List ByteRange

namespace ByteSequence

/-- The bytes of a code point. -/
def encode (n : Nat) : List Nat := (String.utf8EncodeChar (Char.ofNat n)).map UInt8.toNat

/-- The sequence from one code point to another of as many bytes. -/
def between (first last : Nat) : ByteSequence :=
  List.zipWith ByteRange.mk (encode first) (encode last)

/-- Where a block of code points has to be cut that agree in all but the last bytes:
where the given number of them first changes, unless the interval is made of whole
blocks. -/
def cutAtBlock? (first last block : Nat) : Option Nat :=
  if first / block = last / block then none
  else if first % block ≠ 0 then some ((first / block + 1) * block)
  else if last % block ≠ block - 1 then some (last / block * block)
  else none

/-- Where an interval of code points has to be cut: the first code point of its
second part. Characters of different lengths come apart first. -/
def cut? (first last : Nat) : Option Nat :=
  match [0x80, 0x800, 0x10000].find? fun bound => first < bound && bound ≤ last with
  | some bound => some bound
  | none =>
    if last < 0x80 then none else [0x40, 0x1000, 0x40000].findSome? (cutAtBlock? first last)

/-- The sequences of an interval of code points. -/
def ofInterval (first last : Nat) : List ByteSequence :=
  match cut? first last with
  | none => [between first last]
  | some place =>
    if _h : first < place ∧ place ≤ last then
      ofInterval first (place - 1) ++ ofInterval place last
    else [between first last]
termination_by last - first

example : ofInterval 0x61 0x7A = [[⟨0x61, 0x7A⟩]] := by decide +kernel
example : ofInterval 0x7F 0x81 = [[⟨0x7F, 0x7F⟩], [⟨0xC2, 0xC2⟩, ⟨0x80, 0x81⟩]] := by
  decide +kernel
example : ofInterval 0x80 0x7FF = [[⟨0xC2, 0xDF⟩, ⟨0x80, 0xBF⟩]] := by decide +kernel

end ByteSequence

/-- The sequences of the characters of a set. -/
def CharSet.byteSequences (s : CharSet) : List ByteSequence :=
  s.intervals.flatMap fun (first, last) => ByteSequence.ofInterval first last

end SqlProbe
