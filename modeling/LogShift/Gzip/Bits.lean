import LogShift.Files.Fault
import LogShift.Text.Utf8

/-! Bytes read bit by bit, the lowest bit of a byte first. -/
namespace LogShift.Gzip

/-- The bits left of the byte in hand, and the bytes behind it. -/
structure BitStream where
  pending : List Bool
  bytes : Bytes
deriving DecidableEq

namespace BitStream

def ofBytes (bs : Bytes) : BitStream := ⟨[], bs⟩

def bit : BitStream → Except FileFault (Bool × BitStream)
  | ⟨b :: pending, bytes⟩ => .ok (b, ⟨pending, bytes⟩)
  | ⟨[], b :: bytes⟩ =>
    .ok (b.toNat.testBit 0, ⟨(List.range' 1 7).map b.toNat.testBit, bytes⟩)
  | ⟨[], []⟩ => .error .incompleteDeflate

/-- A number of `n` bits, the lowest first. -/
def number : Nat → BitStream → Except FileFault (Nat × BitStream)
  | 0, s => .ok (0, s)
  | n + 1, s => do
    let (b, s) ← s.bit
    let (rest, s) ← number n s
    return (b.toNat + 2 * rest, s)

/-- Gives up the rest of the byte in hand. -/
def align (s : BitStream) : BitStream := ⟨[], s.bytes⟩

/-- The next `n` bytes of an aligned stream. -/
def take (n : Nat) (s : BitStream) : Except FileFault (Bytes × BitStream) :=
  if n ≤ s.bytes.length then .ok (s.bytes.take n, ⟨[], s.bytes.drop n⟩) else .error .incompleteDeflate

end BitStream

/-- The number that bytes write, the lowest byte first. -/
def littleEndian (bs : Bytes) : Nat :=
  bs.foldr (fun b n => b.toNat + 256 * n) 0

/-- The `count` low bytes of a number, the lowest first. -/
def littleEndianBytes : Nat → Nat → Bytes
  | 0, _ => []
  | count + 1, n => UInt8.ofNat (n % 256) :: littleEndianBytes count (n / 256)

end LogShift.Gzip
