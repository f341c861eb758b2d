/-!
# Raw text

Text from outside that should be UTF-8 and need not be. It is held as a list of
pieces, each of them a character or a run of bytes that belongs to none. A run
is as long as it can be while it is still the beginning of some character, and
one byte long where it is not even that, so that each run stands for one lost
character.

* `RawText.ofBytes`: cuts bytes into pieces.
* `RawText.toString?`: the text, if no piece is broken.
* `RawText.readable`: the text for people to read, with U+FFFD in the place of
  every broken piece.
-/

namespace SqlProbe

/-- A character, or bytes that belong to none. -/
inductive RawPiece where
  /-- A character. -/
  | char (c : Char)
  /-- The bytes of a lost character. -/
  | broken (bytes : List UInt8)
deriving DecidableEq, Repr

/-- Text that need not be UTF-8. -/
structure RawText where
  /-- The characters and the broken runs between them. -/
  pieces : List RawPiece
deriving DecidableEq, Repr

namespace RawText

/-! ### Cutting bytes into pieces -/

/-- What a lead byte announces: how many bytes follow it, and the bounds of the
first of them, which exclude overlong forms, surrogates and numbers past the
last character. -/
def announced? (lead : UInt8) : Option (Nat × UInt8 × UInt8) :=
  if 0xC2 ≤ lead && lead ≤ 0xDF then some (1, 0x80, 0xBF)
  else if lead = 0xE0 then some (2, 0xA0, 0xBF)
  else if lead = 0xED then some (2, 0x80, 0x9F)
  else if 0xE1 ≤ lead && lead ≤ 0xEF then some (2, 0x80, 0xBF)
  else if lead = 0xF0 then some (3, 0x90, 0xBF)
  else if 0xF1 ≤ lead && lead ≤ 0xF3 then some (3, 0x80, 0xBF)
  else if lead = 0xF4 then some (3, 0x80, 0x8F)
  else none

/-- Takes up to `n` continuation bytes, the first of them within the bounds. -/
def takeContinuation : Nat → UInt8 → UInt8 → List UInt8 → List UInt8
  | n + 1, low, high, b :: rest =>
    if low ≤ b && b ≤ high then b :: takeContinuation n 0x80 0xBF rest else []
  | _, _, _, _ => []

/-- The number of a character, from the payload of its lead byte and its
continuation bytes. -/
def scalar (payload : Nat) (continuation : List UInt8) : Nat :=
  continuation.foldl (fun n b => n * 64 + b.toNat % 64) payload

/-- The piece that starts with a byte, and how many further bytes it takes. -/
def firstPiece (lead : UInt8) (rest : List UInt8) : RawPiece × Nat :=
  if lead < 0x80 then (.char (Char.ofNat lead.toNat), 0)
  else
    match announced? lead with
    | none => (.broken [lead], 0)
    | some (count, low, high) =>
      let taken := takeContinuation count low high rest
      if taken.length = count then
        (.char (Char.ofNat (scalar (lead.toNat % Nat.pow 2 (6 - count)) taken)), count)
      else (.broken (lead :: taken), taken.length)

/-- The pieces of a list of bytes. -/
def piecesOf : List UInt8 → List RawPiece
  | [] => []
  | lead :: rest =>
    let (piece, count) := firstPiece lead rest
    piece :: piecesOf (rest.drop count)
termination_by bytes => bytes.length
decreasing_by simp only [List.length_drop, List.length_cons]; omega

/-- Text given as bytes. -/
def ofBytes (bytes : List UInt8) : RawText := ⟨piecesOf bytes⟩

/-- Text given as characters. -/
def ofString (s : String) : RawText := ⟨s.toList.map .char⟩

/-! ### Reading -/

/-- The characters, if no piece is broken. -/
def chars? : List RawPiece → Option (List Char)
  | [] => some []
  | .char c :: rest => (chars? rest).map (c :: ·)
  | .broken _ :: _ => none

/-- The text, if no piece is broken. -/
def toString? (t : RawText) : Option String := (chars? t.pieces).map String.ofList

/-- The character that a piece is shown as. -/
def shown : RawPiece → Char
  | .char c => c
  | .broken _ => '\uFFFD'

/-- The text for people to read. -/
def readable (t : RawText) : String := String.ofList (t.pieces.map shown)

/-- The bytes of a piece. -/
def pieceBytes : RawPiece → List UInt8
  | .char c => (String.singleton c).toUTF8.toList
  | .broken bytes => bytes

/-- The bytes of the text. -/
def toBytes (t : RawText) : List UInt8 := t.pieces.flatMap pieceBytes

/-- Whether nothing is there. -/
def isEmpty (t : RawText) : Bool := t.pieces.isEmpty

@[simp] theorem chars?_map_char (s : List Char) : chars? (s.map .char) = some s := by
  induction s with
  | nil => rfl
  | cons c s ih => simp [chars?, ih]

@[simp] theorem toString?_ofString (s : String) : (ofString s).toString? = some s := by
  simp [toString?, ofString]

example : ofBytes [0x61, 0xC3, 0xA9] = ofString "aé" := by decide +kernel
example : ofBytes [0xFF, 0x61] = ⟨[.broken [0xFF], .char 'a']⟩ := by decide +kernel
example : (ofBytes [0xE2, 0x82, 0x41]).readable = "\uFFFDA" := by decide +kernel
example : ofBytes [0xED, 0xA0, 0x80] = ⟨[.broken [0xED], .broken [0xA0], .broken [0x80]]⟩ := by
  decide +kernel

end RawText

end SqlProbe
