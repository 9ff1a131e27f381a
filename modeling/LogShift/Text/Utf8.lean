import LogShift.Text.Basic

/-! Text as bytes. Bytes are read one at a time with the character in hand; bytes that begin no
character, and beginnings that are not continued, are marked as broken. -/
namespace LogShift

abbrev Bytes := List UInt8

namespace Utf8

/-- The bytes of a text. -/
def encode (t : Text) : Bytes :=
  t.flatMap String.utf8EncodeChar

/-- A character of which some bytes have been read: the bits so far, the bytes to come and the
bounds of the next of them. -/
structure Partial where
  bits : Nat
  left : Nat
  low : UInt8
  high : UInt8
deriving DecidableEq

/-- What the first byte of a character says. -/
inductive Lead where
  | complete (c : Char)
  | more (p : Partial)
  | broken
deriving DecidableEq

/-- The bounds of the second byte rule out overlong forms, surrogates and values past the last
character. -/
def lead (b : UInt8) : Lead :=
  let n := b.toNat
  if n < 0x80 then .complete (Char.ofNat n)
  else if n < 0xC2 then .broken
  else if n < 0xE0 then .more ⟨n - 0xC0, 1, 0x80, 0xBF⟩
  else if n < 0xF0 then
    .more ⟨n - 0xE0, 2, if n = 0xE0 then 0xA0 else 0x80, if n = 0xED then 0x9F else 0xBF⟩
  else if n < 0xF5 then
    .more ⟨n - 0xF0, 3, if n = 0xF0 then 0x90 else 0x80, if n = 0xF4 then 0x8F else 0xBF⟩
  else .broken

/-- The characters of `bs` behind a character in hand; `none` for each longest broken beginning. -/
def piecesFrom : Option Partial → Bytes → List (Option Char)
  | none, [] => []
  | some _, [] => [none]
  | none, b :: bs =>
    match lead b with
    | .complete c => some c :: piecesFrom none bs
    | .more p => piecesFrom (some p) bs
    | .broken => none :: piecesFrom none bs
  | some p, b :: bs =>
    if p.low ≤ b ∧ b ≤ p.high then
      let bits := p.bits * 64 + (b.toNat - 0x80)
      if p.left ≤ 1 then some (Char.ofNat bits) :: piecesFrom none bs
      else piecesFrom (some ⟨bits, p.left - 1, 0x80, 0xBF⟩) bs
    else
      none :: match lead b with
        | .complete c => some c :: piecesFrom none bs
        | .more p => piecesFrom (some p) bs
        | .broken => none :: piecesFrom none bs

def pieces (bs : Bytes) : List (Option Char) :=
  piecesFrom none bs

/-- The text of bytes none of which are broken. -/
def decode? (bs : Bytes) : Option Text :=
  (pieces bs).mapM id

/-- Stands for what is broken. -/
def replacement : Char := Char.ofNat 0xFFFD

def decodeLossy (bs : Bytes) : Text :=
  (pieces bs).map fun c => c.getD replacement

end Utf8

end LogShift
