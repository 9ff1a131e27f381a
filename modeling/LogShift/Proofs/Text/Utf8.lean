import LogShift.Text.Utf8

/-! The bytes of a text are read back as that text, and no byte of a longer character is an ASCII
one. -/
namespace LogShift.Utf8

theorem lead_one {n : Nat} (h : n < 128) : lead (UInt8.ofNat n) = .complete (Char.ofNat n) := by
  have key : ∀ n < 128, lead (UInt8.ofNat n) = .complete (Char.ofNat n) := by decide
  exact key n h

theorem lead_two {n : Nat} (hlow : 2 ≤ n) (hhigh : n < 32) :
    lead (UInt8.ofNat (n + 0xC0)) = .more ⟨n, 1, 0x80, 0xBF⟩ := by
  have key : ∀ n < 32, 2 ≤ n → lead (UInt8.ofNat (n + 0xC0)) = .more ⟨n, 1, 0x80, 0xBF⟩ := by decide
  exact key n hhigh hlow

theorem lead_three {n : Nat} (h : n < 16) :
    lead (UInt8.ofNat (n + 0xE0)) =
      .more ⟨n, 2, if n = 0 then 0xA0 else 0x80, if n = 13 then 0x9F else 0xBF⟩ := by
  have key : ∀ n < 16, lead (UInt8.ofNat (n + 0xE0)) =
      .more ⟨n, 2, if n = 0 then 0xA0 else 0x80, if n = 13 then 0x9F else 0xBF⟩ := by decide
  exact key n h

theorem lead_four {n : Nat} (h : n < 5) :
    lead (UInt8.ofNat (n + 0xF0)) =
      .more ⟨n, 3, if n = 0 then 0x90 else 0x80, if n = 4 then 0x8F else 0xBF⟩ := by
  have key : ∀ n < 5, lead (UInt8.ofNat (n + 0xF0)) =
      .more ⟨n, 3, if n = 0 then 0x90 else 0x80, if n = 4 then 0x8F else 0xBF⟩ := by decide
  exact key n h

theorem piecesFrom_more {b : UInt8} {p : Partial} (h : lead b = .more p) (bs : Bytes) :
    piecesFrom none (b :: bs) = piecesFrom (some p) bs := by
  rw [piecesFrom, h]

theorem toNat_ofNat_of_valid {n : Nat} (h : n.isValidChar) : (Char.ofNat n).toNat = n := by
  rw [Char.ofNat, dif_pos h]
  rfl

theorem toNat_ofNat_add {n : Nat} (h : n < 64) : (UInt8.ofNat (n + 0x80)).toNat = n + 0x80 := by
  rw [UInt8.toNat_ofNat']
  omega

/-- A byte within the bounds adds six bits to the character in hand. -/
theorem piecesFrom_next {bits left n : Nat} {low high : UInt8} (h : n < 64)
    (hlow : low.toNat ≤ n + 0x80) (hhigh : n + 0x80 ≤ high.toNat) (bs : Bytes) :
    piecesFrom (some ⟨bits, left + 2, low, high⟩) (UInt8.ofNat (n + 0x80) :: bs) =
      piecesFrom (some ⟨bits * 64 + n, left + 1, 0x80, 0xBF⟩) bs := by
  have hbounds : low ≤ UInt8.ofNat (n + 0x80) ∧ UInt8.ofNat (n + 0x80) ≤ high := by
    rw [UInt8.le_iff_toNat_le, UInt8.le_iff_toNat_le, toNat_ofNat_add h]
    exact ⟨hlow, hhigh⟩
  rw [piecesFrom, if_pos hbounds, toNat_ofNat_add h, Nat.add_sub_cancel]
  exact if_neg (show ¬left + 2 ≤ 1 by omega)

/-- The last byte completes it. -/
theorem piecesFrom_last {bits n : Nat} (h : n < 64) (bs : Bytes) :
    piecesFrom (some ⟨bits, 1, 0x80, 0xBF⟩) (UInt8.ofNat (n + 0x80) :: bs) =
      some (Char.ofNat (bits * 64 + n)) :: piecesFrom none bs := by
  have hbounds : 0x80 ≤ UInt8.ofNat (n + 0x80) ∧ UInt8.ofNat (n + 0x80) ≤ 0xBF := by
    rw [UInt8.le_iff_toNat_le, UInt8.le_iff_toNat_le, toNat_ofNat_add h]
    exact ⟨Nat.le_add_left 128 n, show n + 128 ≤ 191 by omega⟩
  rw [piecesFrom, if_pos hbounds, toNat_ofNat_add h, Nat.add_sub_cancel]
  rfl

section Bytes

variable {v : Nat} (bs : Bytes)

theorem piecesFrom_two (hlow : 0x80 ≤ v) (hhigh : v < 0x800) :
    piecesFrom none (UInt8.ofNat (v / 64 % 32 + 0xC0) :: UInt8.ofNat (v % 64 + 0x80) :: bs) =
      some (Char.ofNat v) :: piecesFrom none bs := by
  have hbits : v / 64 % 32 * 64 + v % 64 = v := by omega
  rw [piecesFrom_more (lead_two (by omega) (by omega)), piecesFrom_last (by omega), hbits]

theorem piecesFrom_three (hlow : 0x800 ≤ v) (hhigh : v < 0x10000)
    (hvalid : v < 0xD800 ∨ 0xDFFF < v) :
    piecesFrom none (UInt8.ofNat (v / 4096 % 16 + 0xE0) :: UInt8.ofNat (v / 64 % 64 + 0x80) ::
      UInt8.ofNat (v % 64 + 0x80) :: bs) = some (Char.ofNat v) :: piecesFrom none bs := by
  have hbits : (v / 4096 % 16 * 64 + v / 64 % 64) * 64 + v % 64 = v := by omega
  -- without the bounds these bytes would be an overlong form or a surrogate
  have hleast : (if v / 4096 % 16 = 0 then 0xA0 else 0x80 : UInt8).toNat ≤ v / 64 % 64 + 0x80 := by
    split
    · show 0xA0 ≤ v / 64 % 64 + 0x80
      omega
    · exact Nat.le_add_left _ _
  have hmost : v / 64 % 64 + 0x80 ≤
      (if v / 4096 % 16 = 13 then 0x9F else 0xBF : UInt8).toNat := by
    split
    · show v / 64 % 64 + 0x80 ≤ 0x9F
      omega
    · show v / 64 % 64 + 0x80 ≤ 0xBF
      omega
  rw [piecesFrom_more (lead_three (by omega)), piecesFrom_next (by omega) hleast hmost,
    piecesFrom_last (by omega), hbits]

theorem piecesFrom_four (hlow : 0x10000 ≤ v) (hhigh : v < 0x110000) :
    piecesFrom none (UInt8.ofNat (v / 262144 % 8 + 0xF0) :: UInt8.ofNat (v / 4096 % 64 + 0x80) ::
      UInt8.ofNat (v / 64 % 64 + 0x80) :: UInt8.ofNat (v % 64 + 0x80) :: bs) =
      some (Char.ofNat v) :: piecesFrom none bs := by
  have hbits : ((v / 262144 % 8 * 64 + v / 4096 % 64) * 64 + v / 64 % 64) * 64 + v % 64 = v := by
    omega
  have hleast : (if v / 262144 % 8 = 0 then 0x90 else 0x80 : UInt8).toNat ≤
      v / 4096 % 64 + 0x80 := by
    split
    · show 0x90 ≤ v / 4096 % 64 + 0x80
      omega
    · exact Nat.le_add_left _ _
  have hmost : v / 4096 % 64 + 0x80 ≤
      (if v / 262144 % 8 = 4 then 0x8F else 0xBF : UInt8).toNat := by
    split
    · show v / 4096 % 64 + 0x80 ≤ 0x8F
      omega
    · show v / 4096 % 64 + 0x80 ≤ 0xBF
      omega
  have hthird : v / 64 % 64 + 0x80 ≤ (0xBF : UInt8).toNat :=
    show v / 64 % 64 + 0x80 ≤ 0xBF by omega
  rw [piecesFrom_more (lead_four (by omega)), piecesFrom_next (by omega) hleast hmost,
    piecesFrom_next (by omega) (Nat.le_add_left _ _) hthird, piecesFrom_last (by omega), hbits]

end Bytes

theorem piecesFrom_encodeChar (c : Char) (bs : Bytes) :
    piecesFrom none (String.utf8EncodeChar c ++ bs) = some c :: piecesFrom none bs := by
  have hvalid : c.val.toNat < 0xD800 ∨ 0xDFFF < c.val.toNat ∧ c.val.toNat < 0x110000 := c.valid
  have hchar : Char.ofNat c.val.toNat = c := Char.ofNat_toNat c
  unfold String.utf8EncodeChar
  generalize c.val.toNat = v at *
  subst hchar
  dsimp only
  split
  · rw [List.singleton_append, piecesFrom, lead_one (by omega)]
  split
  · exact piecesFrom_two bs (by omega) (by omega)
  split
  · exact piecesFrom_three bs (by omega) (by omega) (by omega)
  · exact piecesFrom_four bs (by omega) (by omega)

theorem pieces_encode (t : Text) : pieces (encode t) = t.map some := by
  induction t with
  | nil => rfl
  | cons c t ih =>
    unfold pieces encode at *
    rw [List.flatMap_cons, piecesFrom_encodeChar, ih, List.map_cons]

@[simp] theorem decodeLossy_encode (t : Text) : decodeLossy (encode t) = t := by
  unfold decodeLossy
  rw [pieces_encode, List.map_map]
  exact List.map_id t

@[simp] theorem decode?_encode (t : Text) : decode? (encode t) = some t := by
  unfold decode?
  rw [pieces_encode]
  induction t with
  | nil => rfl
  | cons c t ih => simp [ih]

/-- An ASCII byte stands for itself only. -/
theorem mem_of_mem_encode {t : Text} {b : UInt8} (hb : b.toNat < 0x80) (h : b ∈ encode t) :
    Char.ofNat b.toNat ∈ t := by
  obtain ⟨c, hc, hmem⟩ := List.mem_flatMap.mp h
  have hchar : Char.ofNat c.val.toNat = c := Char.ofNat_toNat c
  have key : b.toNat = c.val.toNat := by
    unfold String.utf8EncodeChar at hmem
    generalize c.val.toNat = v at *
    dsimp only at hmem
    split at hmem
    · simp only [List.mem_singleton, ← UInt8.toNat_inj, UInt8.toNat_ofNat'] at hmem
      omega
    · split at hmem
      · simp only [List.mem_cons, List.not_mem_nil, or_false, ← UInt8.toNat_inj,
          UInt8.toNat_ofNat'] at hmem
        omega
      · split at hmem <;> simp only [List.mem_cons, List.not_mem_nil, or_false,
          ← UInt8.toNat_inj, UInt8.toNat_ofNat'] at hmem <;> omega
  rw [key, hchar]
  exact hc

end LogShift.Utf8
