import LogShift.Gzip.Inflate

/-! Gzip files: members one after the other, each with a header, compressed data and a check. -/
namespace LogShift.Gzip

/-- Eight divisions by the generator, for the eight bits of a byte. -/
def checksumShift : Nat → UInt32 → UInt32
  | 0, r => r
  | n + 1, r => checksumShift n (if r &&& 1 = 1 then (r >>> 1) ^^^ 0xEDB88320 else r >>> 1)

def checksumStep (r : UInt32) (b : UInt8) : UInt32 :=
  checksumShift 8 (r ^^^ b.toUInt32)

/-- The cyclic redundancy check of 32 bits. -/
def checksum (bs : Bytes) : UInt32 :=
  bs.foldl checksumStep 0xFFFFFFFF ^^^ 0xFFFFFFFF

/-- A member with the given data. -/
def encode (data : Bytes) : Bytes :=
  [0x1F, 0x8B, 8, 0, 0, 0, 0, 0, 0, 0xFF] ++ store data ++
    littleEndianBytes 4 (checksum data).toNat ++ littleEndianBytes 4 (data.length % Nat.pow 2 32)

/-- The first `n` bytes and the others. -/
def cut (n : Nat) (bs : Bytes) : Except FileFault (Bytes × Bytes) :=
  if n ≤ bs.length then .ok (bs.splitAt n) else .error .endOfFile

/-- The most bytes of a name or a comment. -/
def maxFieldLength : Nat := 65535

/-- What stands behind the first zero byte, which ends a name or a comment. -/
def afterZero (bs : Bytes) : Except FileFault Bytes :=
  if maxFieldLength < (bs.takeWhile (· ≠ 0)).length then .error .longGzipField
  else
    match bs.dropWhile (· ≠ 0) with
    | [] => .error .endOfFile
    | _ :: rest => .ok rest

/-- The bytes behind the header of a member: ten fixed bytes, and then the parts that its flags
announce. -/
def skipHeader (bs : Bytes) : Except FileFault Bytes := do
  let (fixed, rest) ← cut 10 bs
  let flags := (fixed.getD 3 0).toNat
  if fixed.take 3 ≠ [0x1F, 0x8B, 8] ∨ 32 ≤ flags then .error .notGzip
  let rest ← if flags.testBit 2 then do
      let (size, rest) ← cut 2 rest
      let (_, rest) ← cut (littleEndian size) rest
      pure rest
    else pure rest
  let rest ← if flags.testBit 3 then afterZero rest else pure rest
  let rest ← if flags.testBit 4 then afterZero rest else pure rest
  if flags.testBit 1 then do
    let (check, after) ← cut 2 rest
    if littleEndian check ≠ (checksum (bs.take (bs.length - rest.length))).toNat % Nat.pow 2 16 then
      .error .wrongChecksum
    return after
  else return rest

/-- The data of the first member and the bytes behind it. -/
def member (bs : Bytes) : Except FileFault (Bytes × Bytes) := do
  let body ← skipHeader bs
  let (data, rest) ← inflate body
  let (check, rest) ← cut 4 rest
  let (size, rest) ← cut 4 rest
  if littleEndian check ≠ (checksum data).toNat ∨ littleEndian size ≠ data.length % Nat.pow 2 32 then
    .error .wrongChecksum
  return (data, rest)

/-- A member takes ten bytes at least, so `fuel` above the number of bytes is never used up. -/
def members : Nat → Bytes → Except FileFault Bytes
  | 0, _ => .error .endOfFile
  | fuel + 1, bs => do
    let (data, rest) ← member bs
    if rest.isEmpty then return data
    return data ++ (← members fuel rest)

/-- The data of all members; there is one at least. -/
def decode (bs : Bytes) : Except FileFault Bytes :=
  members (bs.length + 1) bs

end LogShift.Gzip
