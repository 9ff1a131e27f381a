import LogShift.Proofs.Text.Utf8

/-! Lossy reading of bytes that need not be those of a text. An ASCII byte ends the character in
hand and stands for itself, and no other byte makes an ASCII character. -/
namespace LogShift.Utf8

/-- A character in hand that no further bytes make an ASCII one. -/
structure Partial.Long (p : Partial) : Prop where
  low : 0x80 ≤ p.low.toNat
  bits : 2 ≤ p.bits ∨ 2 ≤ p.left ∧ 0x82 ≤ p.bits * 64 + p.low.toNat

theorem lead_of_lt {b : UInt8} (h : b.toNat < 0x80) : lead b = .complete (Char.ofNat b.toNat) :=
  if_pos h

theorem long_of_bounds {n base left : Nat} {least : UInt8} (high : UInt8) (hbase : base ≤ n)
    (hleast : 0x82 ≤ least.toNat) :
    Partial.Long ⟨n - base, left + 2, if n = base then least else 0x80, high⟩ := by
  refine ⟨?_, .inr ⟨Nat.le_add_left 2 left, ?_⟩⟩
  · dsimp only
    split
    · exact Nat.le_trans (by decide) hleast
    · exact Nat.le_refl 0x80
  · dsimp only
    split
    · exact Nat.le_add_left_of_le hleast
    · show 0x82 ≤ (n - base) * 64 + 0x80
      omega

/-- A first byte says a character of its own, or that a longer one follows. -/
theorem lead_cases (b : UInt8) :
    lead b = .complete (Char.ofNat b.toNat) ∨ lead b = .broken ∨
      ∃ p, lead b = .more p ∧ p.Long := by
  unfold lead
  dsimp only
  split
  · exact .inl rfl
  split
  · exact .inr (.inl rfl)
  split
  · exact .inr (.inr ⟨_, rfl, Nat.le_refl 0x80, .inl (show 2 ≤ b.toNat - 0xC0 by omega)⟩)
  split
  · exact .inr (.inr ⟨_, rfl, long_of_bounds _ (by omega) (by decide)⟩)
  split
  · exact .inr (.inr ⟨_, rfl, long_of_bounds _ (by omega) (by decide)⟩)
  · exact .inr (.inl rfl)

/-- An ASCII character, but not the null one, which stands for what is no code. -/
def Ascii (c : Char) : Prop :=
  0 < c.toNat ∧ c.toNat < 0x80

instance (c : Char) : Decidable (Ascii c) := inferInstanceAs (Decidable (_ ∧ _))

theorem eq_of_ascii {n : Nat} (h : Ascii (Char.ofNat n)) : (Char.ofNat n).toNat = n := by
  by_cases hvalid : n.isValidChar
  · exact toNat_ofNat_of_valid hvalid
  · obtain ⟨hpos, -⟩ := h
    simp [Char.ofNat, hvalid] at hpos

/-- A byte outside the bounds breaks the character in hand and begins anew. -/
theorem piecesFrom_break {p : Partial} {b : UInt8} (h : ¬(p.low ≤ b ∧ b ≤ p.high)) (bs : Bytes) :
    piecesFrom (some p) (b :: bs) = none :: piecesFrom none (b :: bs) := by
  simp only [piecesFrom, if_neg h]

/-- What a byte adds to the pieces and leaves in hand. -/
structure Step (p : Option Partial) (b : UInt8) (marks : List (Option Char))
    (q : Option Partial) : Prop where
  eq : ∀ bs, piecesFrom p (b :: bs) = marks ++ piecesFrom q bs
  long : ∀ r ∈ q, r.Long
  ascii : ∀ c, some c ∈ marks → Ascii c → c.toNat = b.toNat

theorem step_none (b : UInt8) : ∃ marks q, Step none b marks q := by
  obtain h | h | ⟨p, h, hp⟩ := lead_cases b
  · refine ⟨[some (Char.ofNat b.toNat)], none, ?_, by simp, ?_⟩
    · intro bs
      rw [piecesFrom, h]
      rfl
    · intro c hc hascii
      obtain rfl : c = Char.ofNat b.toNat := by simpa using hc
      exact eq_of_ascii hascii
  · refine ⟨[none], none, ?_, by simp, by simp⟩
    intro bs
    rw [piecesFrom, h]
    rfl
  · refine ⟨[], some p, piecesFrom_more h, ?_, by simp⟩
    rintro r ⟨⟩
    exact hp

theorem step_some {p : Partial} (hp : p.Long) (b : UInt8) : ∃ marks q, Step (some p) b marks q := by
  by_cases hb : p.low ≤ b ∧ b ≤ p.high
  · have hlow := UInt8.le_iff_toNat_le.mp hb.1
    obtain ⟨hleast, hbits⟩ := hp
    by_cases hleft : p.left ≤ 1
    · refine ⟨[some (Char.ofNat (p.bits * 64 + (b.toNat - 0x80)))], none, ?_, by simp, ?_⟩
      · intro bs
        simp only [piecesFrom, if_pos hb, if_pos hleft, List.singleton_append]
      · intro c hc hascii
        rw [List.mem_singleton, Option.some.injEq] at hc
        rw [hc] at hascii ⊢
        have hcode := eq_of_ascii hascii
        have hlt := hascii.2
        omega
    · refine ⟨[], some ⟨p.bits * 64 + (b.toNat - 0x80), p.left - 1, 0x80, 0xBF⟩, ?_, ?_, by simp⟩
      · intro bs
        simp only [piecesFrom, if_pos hb, if_neg hleft, List.nil_append]
      · simp only [Option.mem_def, Option.some.injEq, forall_eq']
        refine ⟨Nat.le_refl 0x80, .inl ?_⟩
        show 2 ≤ p.bits * 64 + (b.toNat - 0x80)
        omega
  · obtain ⟨marks, q, hstep⟩ := step_none b
    refine ⟨none :: marks, q, ?_, hstep.long, ?_⟩
    · intro bs
      rw [piecesFrom_break hb, hstep.eq, List.cons_append]
    · intro c hc
      exact hstep.ascii c (by simpa using hc)

theorem exists_step {p : Option Partial} (hp : ∀ r ∈ p, r.Long) (b : UInt8) :
    ∃ marks q, Step p b marks q := by
  cases p with
  | none => exact step_none b
  | some p => exact step_some (hp p rfl) b

theorem piecesFrom_append_ascii {b : UInt8} (hb : b.toNat < 0x80) {p : Option Partial}
    (hp : ∀ r ∈ p, r.Long) (front rest : Bytes) :
    piecesFrom p (front ++ b :: rest) =
      piecesFrom p front ++ some (Char.ofNat b.toNat) :: piecesFrom none rest := by
  induction front generalizing p with
  | nil =>
    have hstart :
        piecesFrom none (b :: rest) = some (Char.ofNat b.toNat) :: piecesFrom none rest := by
      rw [piecesFrom, lead_of_lt hb]
    cases p with
    | none => exact hstart
    | some p =>
      have hlow := (hp p rfl).low
      have hbounds : ¬(p.low ≤ b ∧ b ≤ p.high) := by
        rw [UInt8.le_iff_toNat_le]
        omega
      rw [List.nil_append, piecesFrom_break hbounds, hstart]
      rfl
  | cons a front ih =>
    obtain ⟨marks, q, hstep⟩ := exists_step hp a
    rw [List.cons_append, hstep.eq, hstep.eq, ih hstep.long, List.append_assoc]

theorem mem_of_mem_piecesFrom {p : Option Partial} (hp : ∀ r ∈ p, r.Long) {bs : Bytes} {c : Char}
    (hc : Ascii c) (h : some c ∈ piecesFrom p bs) : ∃ b ∈ bs, b.toNat = c.toNat := by
  induction bs generalizing p with
  | nil => cases p <;> simp [piecesFrom] at h
  | cons b bs ih =>
    obtain ⟨marks, q, hstep⟩ := exists_step hp b
    rw [hstep.eq, List.mem_append] at h
    obtain h | h := h
    · exact ⟨b, List.mem_cons_self, (hstep.ascii c h hc).symm⟩
    · obtain ⟨a, ha, hcode⟩ := ih hstep.long h
      exact ⟨a, List.mem_cons_of_mem b ha, hcode⟩

/-- No byte is passed over in silence. -/
theorem piecesFrom_ne_nil {p : Option Partial} {bs : Bytes} (h : p ≠ none ∨ bs ≠ []) :
    piecesFrom p bs ≠ [] := by
  fun_induction piecesFrom p bs <;> simp_all

section Lossy

variable {bs : Bytes}

@[simp] theorem decodeLossy_nil : decodeLossy [] = [] := rfl

theorem decodeLossy_ne_nil (h : bs ≠ []) : decodeLossy bs ≠ [] := by
  unfold decodeLossy
  rw [ne_eq, List.map_eq_nil_iff]
  exact piecesFrom_ne_nil (.inr h)

theorem decodeLossy_append_ascii {b : UInt8} (hb : b.toNat < 0x80) (front rest : Bytes) :
    decodeLossy (front ++ b :: rest) =
      decodeLossy front ++ Char.ofNat b.toNat :: decodeLossy rest := by
  unfold decodeLossy pieces
  rw [piecesFrom_append_ascii hb (by simp), List.map_append, List.map_cons, Option.getD_some]

theorem mem_of_mem_decodeLossy {c : Char} (hc : Ascii c) (h : c ∈ decodeLossy bs) :
    ∃ b ∈ bs, b.toNat = c.toNat := by
  obtain ⟨mark, hmark, heq⟩ := List.mem_map.mp h
  cases mark with
  | none =>
    have hlt := hc.2
    rw [← heq] at hlt
    exact absurd hlt (by decide)
  | some d =>
    obtain rfl : d = c := heq
    exact mem_of_mem_piecesFrom (by simp) hc hmark

end Lossy

end LogShift.Utf8
