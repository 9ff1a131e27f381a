import LogShift.Gzip.Code

/-! Compressed data: blocks of bytes as they are, or of bytes and copies of earlier bytes written in
canonical codes. -/
namespace LogShift.Gzip

/-- The base and the number of extra bits for each length symbol from 257 on. -/
def lengthTable : List (Nat × Nat) :=
  [(3, 0), (4, 0), (5, 0), (6, 0), (7, 0), (8, 0), (9, 0), (10, 0), (11, 1), (13, 1), (15, 1),
    (17, 1), (19, 2), (23, 2), (27, 2), (31, 2), (35, 3), (43, 3), (51, 3), (59, 3), (67, 4),
    (83, 4), (99, 4), (115, 4), (131, 5), (163, 5), (195, 5), (227, 5), (258, 0)]

/-- The base and the number of extra bits for each distance symbol. -/
def distanceTable : List (Nat × Nat) :=
  [(1, 0), (2, 0), (3, 0), (4, 0), (5, 1), (7, 1), (9, 2), (13, 2), (17, 3), (25, 3), (33, 4),
    (49, 4), (65, 5), (97, 5), (129, 6), (193, 6), (257, 7), (385, 7), (513, 8), (769, 8),
    (1025, 9), (1537, 9), (2049, 10), (3073, 10), (4097, 11), (6145, 11), (8193, 12), (12289, 12),
    (16385, 13), (24577, 13)]

/-- The order in which the lengths of the code for code lengths are written. -/
def lengthOrder : List Nat :=
  [16, 17, 18, 0, 8, 7, 9, 6, 10, 5, 11, 4, 12, 3, 13, 2, 14, 1, 15]

/-- A value from a table with extra bits. -/
def tableValue (table : List (Nat × Nat)) (symbol : Nat) (s : BitStream) :
    Except FileFault (Nat × BitStream) :=
  match table[symbol]? with
  | none => .error .corruptDeflate
  | some (base, extra) => do
    let (n, s) ← s.number extra
    return (base + n, s)

/-- The byte `distance` before the end; in front of the data there are zeros. -/
def lookBack (distance : Nat) (out : Array UInt8) : UInt8 :=
  if distance ≤ out.size then out.getD (out.size - distance) 0 else 0

/-- Appends `count` bytes, each a copy of the one `distance` before it. -/
def copyBack (distance : Nat) : Nat → Array UInt8 → Array UInt8
  | 0, out => out
  | count + 1, out => copyBack distance count (out.push (lookBack distance out))

/-- The symbols of a block up to its end; a symbol takes a bit at least, so `fuel` above the number
of bits is never used up. -/
def inflateSymbols (literals distances : Code) :
    Nat → Array UInt8 → BitStream → Except FileFault (Array UInt8 × BitStream)
  | 0, _, _ => .error .incompleteDeflate
  | fuel + 1, out, s => do
    let (symbol, s) ← literals.decode s
    if symbol < 256 then inflateSymbols literals distances fuel (out.push (UInt8.ofNat symbol)) s
    else if symbol = 256 then return (out, s)
    else
      let (count, s) ← tableValue lengthTable (symbol - 257) s
      let (symbol, s) ← distances.decode s
      let (distance, s) ← tableValue distanceTable symbol s
      inflateSymbols literals distances fuel (copyBack distance count out) s

def orCorrupt {α : Type} : Option α → Except FileFault α
  | some a => .ok a
  | none => .error .corruptDeflate

def fixedLiterals : List Nat :=
  List.replicate 144 8 ++ List.replicate 112 9 ++ List.replicate 24 7 ++ List.replicate 8 8

def fixedDistances : List Nat :=
  List.replicate 32 5

/-- The lengths that a block writes with `code`, the ones read so far in `lengths` from the last. -/
def readLengths (code : Code) (total : Nat) :
    Nat → List Nat → BitStream → Except FileFault (List Nat × BitStream)
  | 0, _, _ => .error .corruptDeflate
  | fuel + 1, lengths, s =>
    if total < lengths.length then .error .corruptDeflate
    else if lengths.length = total then .ok (lengths.reverse, s)
    else do
      let (symbol, s) ← code.decode s
      match symbol with
      | 16 =>
        match lengths with
        | [] => .error .corruptDeflate
        | last :: _ =>
          let (n, s) ← s.number 2
          readLengths code total fuel (List.replicate (n + 3) last ++ lengths) s
      | 17 =>
        let (n, s) ← s.number 3
        readLengths code total fuel (List.replicate (n + 3) 0 ++ lengths) s
      | 18 =>
        let (n, s) ← s.number 7
        readLengths code total fuel (List.replicate (n + 11) 0 ++ lengths) s
      | length => readLengths code total fuel (length :: lengths) s

/-- The lengths of `count` entries, three bits each. -/
def readTriples : Nat → BitStream → Except FileFault (List Nat × BitStream)
  | 0, s => .ok ([], s)
  | count + 1, s => do
    let (n, s) ← s.number 3
    let (rest, s) ← readTriples count s
    return (n :: rest, s)

/-- The two codes in front of a block that brings its own. -/
def readCodes (s : BitStream) : Except FileFault ((Code × Code) × BitStream) := do
  let (n, s) ← s.number 5
  let literalCount := n + 257
  let (n, s) ← s.number 5
  let distanceCount := n + 1
  let (n, s) ← s.number 4
  if 286 < literalCount ∨ 30 < distanceCount then .error .corruptDeflate
  let (triples, s) ← readTriples (n + 4) s
  let written := lengthOrder.zip triples
  let code ← orCorrupt (Code.full? ((List.range 19).map fun i => (written.lookup i).getD 0))
  let total := literalCount + distanceCount
  let (lengths, s) ← readLengths code total (total + 1) [] s
  let literals ← orCorrupt (Code.ofLengths? (lengths.take literalCount))
  let distances ← orCorrupt (Code.ofLengths? (lengths.drop literalCount))
  return ((literals, distances), s)

/-- A block of bytes as they are; their number stands before them, and again with all bits turned. -/
def inflateStored (out : Array UInt8) (s : BitStream) :
    Except FileFault (Array UInt8 × BitStream) := do
  let (size, s) ← s.align.take 2
  let (check, s) ← s.take 2
  if littleEndian size + littleEndian check ≠ 0xFFFF then .error .corruptDeflate
  let (bytes, s) ← s.take (littleEndian size)
  return (out ++ bytes, s)

/-- The blocks up to the last; a block takes three bits at least. -/
def inflateBlocks : Nat → Array UInt8 → BitStream → Except FileFault (Array UInt8 × BitStream)
  | 0, _, _ => .error .incompleteDeflate
  | fuel + 1, out, s => do
    let (last, s) ← s.bit
    let (kind, s) ← s.number 2
    let (out, s) ← match kind with
      | 0 => inflateStored out s
      | 1 => do
        let literals ← orCorrupt (Code.ofLengths? fixedLiterals)
        let distances ← orCorrupt (Code.ofLengths? fixedDistances)
        inflateSymbols literals distances (8 * s.bytes.length + 8) out s
      | 2 => do
        let ((literals, distances), s) ← readCodes s
        inflateSymbols literals distances (8 * s.bytes.length + 8) out s
      | _ => .error .corruptDeflate
    if last then return (out, s) else inflateBlocks fuel out s

/-- The data that compressed bytes write, and the bytes behind them. -/
def inflate (bs : Bytes) : Except FileFault (Bytes × Bytes) := do
  let (out, s) ← inflateBlocks (8 * bs.length + 1) #[] (.ofBytes bs)
  return (out.toList, s.bytes)

/-- Data in blocks of bytes as they are; `fuel` above the number of bytes is never used up. -/
def storeBlocks : Nat → Bytes → Bytes
  | 0, _ => []
  | fuel + 1, bs =>
    let block := bs.take 0xFFFF
    let rest := bs.drop 0xFFFF
    (if rest.isEmpty then 1 else 0) :: littleEndianBytes 2 block.length ++
      littleEndianBytes 2 (0xFFFF - block.length) ++ block ++
      if rest.isEmpty then [] else storeBlocks fuel rest

/-- Bytes from which `inflate` gives the data back. -/
def store (bs : Bytes) : Bytes :=
  storeBlocks (bs.length + 1) bs

end LogShift.Gzip
