import LogShift.Gzip.Basic
import Mathlib.Algebra.Ring.Nat

/-! Compressed files: a member is read back as the data that it was written from. -/
namespace LogShift.Gzip

theorem length_littleEndianBytes (count n : Nat) : (littleEndianBytes count n).length = count := by
  induction count generalizing n with
  | zero => rfl
  | succ count ih => rw [littleEndianBytes, List.length_cons, ih]

theorem littleEndian_littleEndianBytes (count : Nat) {n : Nat} (h : n < 256 ^ count) :
    littleEndian (littleEndianBytes count n) = n := by
  induction count generalizing n with
  | zero =>
    have hn : n = 0 := by simpa using h
    subst hn
    rfl
  | succ count ih =>
    have hdiv : n / 256 < 256 ^ count := by
      rw [Nat.div_lt_iff_lt_mul (by decide), ← Nat.pow_succ]
      exact h
    have hrest := ih hdiv
    unfold littleEndian at hrest ⊢
    rw [littleEndianBytes, List.foldr_cons, hrest, UInt8.toNat_ofNat']
    omega

/-- An aligned stream gives out the bytes in front of it. -/
theorem BitStream.take_append {n : Nat} {bs : Bytes} (h : bs.length = n) (rest : Bytes) :
    BitStream.take n ⟨[], bs ++ rest⟩ = .ok (bs, ⟨[], rest⟩) := by
  subst h
  simp [take]

/-- The first byte of a block of plain bytes: whether it is the last block, and its kind. -/
theorem BitStream.bit_stored (last : Bool) (bs : Bytes) : ∃ pending,
    BitStream.bit ⟨[], (if last then 1 else 0) :: bs⟩ =
      .ok (last, ⟨false :: false :: pending, bs⟩) := by
  cases last <;> exact ⟨_, rfl⟩

theorem inflateStored_append {block : Bytes} (h : block.length ≤ 0xFFFF) (out : Array UInt8)
    (pending : List Bool) (rest : Bytes) :
    inflateStored out ⟨pending, littleEndianBytes 2 block.length ++
      (littleEndianBytes 2 (0xFFFF - block.length) ++ (block ++ rest))⟩ =
      .ok (out ++ block, ⟨[], rest⟩) := by
  have hsize := littleEndian_littleEndianBytes 2 (n := block.length) (by omega)
  have hcheck := littleEndian_littleEndianBytes 2 (n := 0xFFFF - block.length) (by omega)
  unfold inflateStored BitStream.align
  dsimp only [bind, Except.bind]
  rw [BitStream.take_append (length_littleEndianBytes 2 _)]
  dsimp only
  rw [BitStream.take_append (length_littleEndianBytes 2 _)]
  dsimp only
  rw [hsize, hcheck, if_neg (by omega), BitStream.take_append rfl]
  rfl

/-- A block of plain bytes is read in one step. -/
theorem inflateBlocks_stored {block : Bytes} (h : block.length ≤ 0xFFFF) (last : Bool)
    (steps : Nat) (out : Array UInt8) (rest : Bytes) :
    inflateBlocks (steps + 1) out ⟨[], (if last then 1 else 0) ::
      (littleEndianBytes 2 block.length ++
        (littleEndianBytes 2 (0xFFFF - block.length) ++ (block ++ rest)))⟩ =
      if last then .ok (out ++ block, ⟨[], rest⟩)
      else inflateBlocks steps (out ++ block) ⟨[], rest⟩ := by
  obtain ⟨pending, hbit⟩ := BitStream.bit_stored last (littleEndianBytes 2 block.length ++
    (littleEndianBytes 2 (0xFFFF - block.length) ++ (block ++ rest)))
  have hkind : ∀ bs, BitStream.number 2 ⟨false :: false :: pending, bs⟩ =
      .ok (0, ⟨pending, bs⟩) := fun _ => rfl
  rw [inflateBlocks, hbit]
  dsimp only [bind, Except.bind]
  rw [hkind]
  dsimp only
  rw [inflateStored_append h]
  rfl

theorem length_le_storeBlocks {fuel : Nat} {bs : Bytes} (h : bs.length < fuel) :
    bs.length ≤ (storeBlocks fuel bs).length := by
  induction fuel generalizing bs with
  | zero => omega
  | succ fuel ih =>
    rw [storeBlocks]
    by_cases hrest : (bs.drop 0xFFFF).isEmpty
    · simp only [hrest, if_true]
      simp at hrest ⊢
      omega
    · have hshort : (bs.drop 0xFFFF).length < fuel := by
        simp at hrest ⊢
        omega
      have := ih hshort
      simp [hrest] at *
      omega

/-- Each step reads one block, and a block that is not the last holds bytes. -/
theorem inflateBlocks_storeBlocks {fuel steps : Nat} {bs : Bytes} (hfuel : bs.length < fuel)
    (hsteps : bs.length < steps) (out : Array UInt8) (rest : Bytes) :
    inflateBlocks steps out ⟨[], storeBlocks fuel bs ++ rest⟩ =
      .ok (out ++ bs, ⟨[], rest⟩) := by
  induction fuel generalizing bs steps out with
  | zero => omega
  | succ fuel ih =>
    obtain ⟨steps, rfl⟩ : ∃ n, steps = n + 1 := ⟨steps - 1, by omega⟩
    have hblock : (bs.take 0xFFFF).length ≤ 0xFFFF := List.length_take_le _ _
    have hstep := inflateBlocks_stored hblock (bs.drop 0xFFFF).isEmpty steps out
    rw [storeBlocks]
    cases hlast : (bs.drop 0xFFFF).isEmpty with
    | true =>
      have hall : bs.take 0xFFFF = bs := List.take_of_length_le (by simpa using hlast)
      simpa [hlast, hall] using hstep rest
    | false =>
      have hlong : 0xFFFF < bs.length := by simpa using hlast
      have hdrop : (bs.drop 0xFFFF).length < bs.length := by
        rw [List.length_drop]
        omega
      have hrest := ih (by omega) (show (bs.drop 0xFFFF).length < steps by omega)
        (out ++ bs.take 0xFFFF)
      have hjoined : out ++ bs.take 0xFFFF ++ bs.drop 0xFFFF = out ++ bs := by
        apply Array.toList_inj.mp
        simp
      rw [hjoined] at hrest
      simpa [hlast, hrest] using hstep (storeBlocks fuel (bs.drop 0xFFFF) ++ rest)

theorem inflate_store (data rest : Bytes) : inflate (store data ++ rest) = .ok (data, rest) := by
  have hfuel : data.length < data.length + 1 := Nat.lt_succ_self _
  have hlen := length_le_storeBlocks hfuel
  have hsteps : data.length < 8 * (store data ++ rest).length + 1 := by
    rw [List.length_append, store]
    omega
  have hblocks := inflateBlocks_storeBlocks hfuel hsteps #[] rest
  unfold inflate BitStream.ofBytes
  rw [store] at hblocks ⊢
  rw [hblocks]
  simp [bind, Except.bind, pure, Except.pure]

theorem cut_append {n : Nat} {bs : Bytes} (h : bs.length = n) (rest : Bytes) :
    cut n (bs ++ rest) = .ok (bs, rest) := by
  subst h
  simp [cut]

theorem member_encode (data : Bytes) : member (encode data) = .ok (data, []) := by
  have hchecksum := littleEndian_littleEndianBytes 4 (checksum data).toNat_lt
  have hsize := littleEndian_littleEndianBytes 4 (n := data.length % Nat.pow 2 32)
    (Nat.mod_lt _ (by decide))
  have hheader : ∀ bs, skipHeader ([0x1F, 0x8B, 8, 0, 0, 0, 0, 0, 0, 0xFF] ++ bs) = .ok bs := by
    intro bs
    have hcut : cut 10 ([0x1F, 0x8B, 8, 0, 0, 0, 0, 0, 0, 0xFF] ++ bs) = .ok (_, bs) :=
      cut_append (by rfl) bs
    unfold skipHeader
    rw [hcut]
    rfl
  unfold member encode
  rw [List.append_assoc, List.append_assoc, hheader]
  dsimp only [bind, Except.bind]
  rw [inflate_store]
  dsimp only
  rw [cut_append (length_littleEndianBytes 4 _)]
  have hlast := cut_append (length_littleEndianBytes 4 (data.length % Nat.pow 2 32)) []
  rw [List.append_nil] at hlast
  dsimp only
  rw [hlast]
  dsimp only
  rw [hchecksum, hsize, if_neg (by simp)]
  rfl

/-- What has been compressed is decompressed to the same bytes. -/
theorem decode_encode (data : Bytes) : decode (encode data) = .ok data := by
  unfold decode members
  rw [member_encode]
  rfl

end LogShift.Gzip
