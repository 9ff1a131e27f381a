import LogShift.Gzip.Bits

/-! Canonical codes: symbols are numbered through in the order of their code lengths, and among
those of one length in their own order. -/
namespace LogShift.Gzip

structure Code where
  /-- How many symbols have codes of 1, 2, … bits, up to the longest code. -/
  counts : List Nat
  /-- The symbols in the order of their codes. -/
  symbols : Array Nat
deriving DecidableEq

namespace Code

def maxLength : Nat := 15

/-- The code with the given length for each symbol; length 0 leaves a symbol out. -/
def ofLengths (lengths : List Nat) : Code :=
  let longest := max 1 (lengths.foldl max 0)
  let ofLength (n : Nat) : List Nat :=
    (lengths.zipIdx.filter fun (l, _) => l = n).map Prod.snd
  let groups := (List.range' 1 longest).map ofLength
  ⟨groups.map List.length, groups.flatten.toArray⟩

/-- How many of all texts of `maxLength` bits begin with a code. -/
def room (c : Code) : Nat :=
  c.counts.zipIdx.foldl (fun total (count, i) => total + count * Nat.pow 2 (maxLength - (i + 1))) 0

/-- Whether each bit text begins with exactly one code. -/
def isFull (c : Code) : Bool := c.room == Nat.pow 2 maxLength

/-- Whether no symbol has a code, or a single one, of one bit. -/
def isTrivial (c : Code) : Bool := c.counts == [0] || c.counts == [1]

/-- A full code. -/
def full? (lengths : List Nat) : Option Code :=
  let c := ofLengths lengths
  if c.isFull then some c else none

/-- A full or a trivial code. -/
def ofLengths? (lengths : List Nat) : Option Code :=
  let c := ofLengths lengths
  if c.isFull || c.isTrivial then some c else none

/-- Reads on with the code bits so far, the first code of this length and the place of its symbol. -/
def decodeFrom (symbols : Array Nat) :
    List Nat → (code first index : Nat) → BitStream → Except FileFault (Nat × BitStream)
  | [], _, _, _, _ => .error .corruptDeflate
  | count :: counts, code, first, index, s => do
    let (b, s) ← s.bit
    let code := 2 * code + b.toNat
    let first := 2 * first
    if code < first + count then
      match symbols[index + (code - first)]? with
      | some symbol => .ok (symbol, s)
      | none => .error .corruptDeflate
    else decodeFrom symbols counts code (first + count) (index + count) s

/-- The next symbol of a stream. -/
def decode (c : Code) (s : BitStream) : Except FileFault (Nat × BitStream) :=
  decodeFrom c.symbols c.counts 0 0 0 s

end Code

end LogShift.Gzip
