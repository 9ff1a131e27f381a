import LogShift.Proofs.Decimal
import LogShift.Proofs.Text
import LogShift.Proofs.Text.Utf8

/-! Parts of a text by byte positions. A slice exists only from one boundary to a later one, and an
ASCII byte is found only where its character stands. -/
namespace LogShift

namespace Utf8

theorem encode_cons (c : Char) (t : Text) : encode (c :: t) = String.utf8EncodeChar c ++ encode t :=
  List.flatMap_cons

theorem encode_append (s t : Text) : encode (s ++ t) = encode s ++ encode t :=
  List.flatMap_append

theorem length_encode (t : Text) : (encode t).length = t.width := by
  induction t with
  | nil => rfl
  | cons c t ih =>
    rw [encode_cons, List.length_append, String.length_utf8EncodeChar, ih, Text.width_cons]

theorem encode_cons_of_lt {c : Char} (h : c.toNat < 0x80) (t : Text) :
    encode (c :: t) = UInt8.ofNat c.toNat :: encode t := by
  have hchar : String.utf8EncodeChar c = [UInt8.ofNat c.toNat] := by
    unfold String.utf8EncodeChar
    exact if_pos (show c.val.toNat ≤ 0x7F by unfold Char.toNat at h; omega)
  rw [encode_cons, hchar, List.singleton_append]

theorem utf8Size_of_lt {c : Char} (h : c.toNat < 0x80) : c.utf8Size = 1 := by
  have hlength := length_encode [c]
  rw [encode_cons_of_lt h, Text.width_cons, Text.width_nil] at hlength
  exact hlength.symm

theorem toNat_byte_of_lt {c : Char} (h : c.toNat < 0x80) :
    (UInt8.ofNat c.toNat).toNat = c.toNat :=
  UInt8.toNat_ofNat_of_lt' (Nat.lt_trans h (by decide))

theorem toNat_ofNat_of_lt {n : Nat} (h : n < 0x80) : (Char.ofNat n).toNat = n :=
  toNat_ofNat_of_valid (.inl (Nat.lt_trans h (by decide)))

/-- No byte of a longer character is an ASCII one. -/
theorem le_of_mem_encodeChar {c : Char} (h : 0x80 ≤ c.toNat) {b : UInt8}
    (hb : b ∈ String.utf8EncodeChar c) : 0x80 ≤ b.toNat := by
  refine Nat.le_of_not_lt fun hlt => ?_
  have hmem : b ∈ encode [c] := by simpa [encode] using hb
  obtain rfl := List.mem_singleton.mp (mem_of_mem_encode hlt hmem)
  rw [toNat_ofNat_of_lt hlt] at h
  exact Nat.not_lt.mpr h hlt

/-- The test `q` of bytes and the test `p` of characters pass the same ASCII ones and nothing
else. -/
structure Mirrors (q : UInt8 → Bool) (p : Char → Bool) : Prop where
  ascii : ∀ n < 0x80, q (UInt8.ofNat n) = p (Char.ofNat n)
  byte : ∀ b, 0x80 ≤ b.toNat → q b = false
  char : ∀ c, 0x80 ≤ c.toNat → p c = false

section Mirrors

variable {q : UInt8 → Bool} {p : Char → Bool} {c : Char}

theorem Mirrors.range (first last : Nat) (hlast : last < 0x80)
    (hq : ∀ b, q b = true ↔ first ≤ b.toNat ∧ b.toNat ≤ last)
    (hp : ∀ c, p c = true ↔ first ≤ c.toNat ∧ c.toNat ≤ last) : Mirrors q p where
  ascii n hn := by
    rw [Bool.eq_iff_iff, hq, hp, UInt8.toNat_ofNat_of_lt' (Nat.lt_trans hn (by decide)),
      toNat_ofNat_of_lt hn]
  byte b hb := Bool.eq_false_iff.mpr fun h =>
    Nat.not_lt.mpr hb (Nat.lt_of_le_of_lt ((hq b).mp h).2 hlast)
  char c hc := Bool.eq_false_iff.mpr fun h =>
    Nat.not_lt.mpr hc (Nat.lt_of_le_of_lt ((hp c).mp h).2 hlast)

theorem Mirrors.or {q' : UInt8 → Bool} {p' : Char → Bool} (h : Mirrors q p)
    (h' : Mirrors q' p') : Mirrors (fun b => q b || q' b) (fun c => p c || p' c) where
  ascii n hn := by rw [h.ascii n hn, h'.ascii n hn]
  byte b hb := by rw [h.byte b hb, h'.byte b hb, Bool.or_false]
  char c hc := by rw [h.char c hc, h'.char c hc, Bool.or_false]

theorem Mirrors.beq {a : Char} (ha : a.toNat < 0x80) :
    Mirrors (fun b => b == UInt8.ofNat a.toNat) (fun c => c == a) := by
  refine .range a.toNat a.toNat ha (fun b => ?_) fun c => ?_
  · rw [beq_iff_eq, ← UInt8.toNat_inj, toNat_byte_of_lt ha]
    omega
  · rw [beq_iff_eq, ← Char.toNat_inj]
    omega

theorem Mirrors.ascii_char (h : Mirrors q p) (hc : c.toNat < 0x80) :
    q (UInt8.ofNat c.toNat) = p c := by
  rw [h.ascii c.toNat hc, Char.ofNat_toNat]

theorem Mirrors.lt (h : Mirrors q p) (hc : p c = true) : c.toNat < 0x80 := by
  refine Nat.lt_of_not_le fun hle => ?_
  rw [h.char c hle] at hc
  cases hc

theorem Mirrors.head_encode (h : Mirrors q p) (t : Text) :
    (encode t).head?.any q = t.head?.any p := by
  cases t with
  | nil => rfl
  | cons c t =>
    by_cases hc : c.toNat < 0x80
    · rw [encode_cons_of_lt hc]
      exact h.ascii_char hc
    · obtain ⟨b, bs, hbytes⟩ := List.exists_cons_of_ne_nil (String.utf8EncodeChar_ne_nil (c := c))
      have hb := le_of_mem_encodeChar (Nat.le_of_not_lt hc) (hbytes ▸ List.mem_cons_self)
      rw [encode_cons, hbytes]
      exact (h.byte b hb).trans (h.char c (Nat.le_of_not_lt hc)).symm

theorem Mirrors.encode_of_forall (h : Mirrors q p) {s : Text} (hs : ∀ c ∈ s, p c = true) :
    encode s = s.map (fun c => UInt8.ofNat c.toNat) := by
  induction s with
  | nil => rfl
  | cons c s ih =>
    rw [encode_cons_of_lt (h.lt (hs c List.mem_cons_self)), List.map_cons,
      ih fun a ha => hs a (List.mem_cons_of_mem c ha)]

theorem Mirrors.forall_encode (h : Mirrors q p) {s : Text} (hs : ∀ c ∈ s, p c = true) :
    ∀ b ∈ encode s, q b = true := by
  intro b hb
  rw [h.encode_of_forall hs] at hb
  obtain ⟨c, hc, rfl⟩ := List.mem_map.mp hb
  rw [h.ascii_char (h.lt (hs c hc)), hs c hc]

theorem Mirrors.takeWhile_encode (h : Mirrors q p) (t : Text) :
    (encode t).takeWhile q = encode (t.takeWhile p) := by
  induction t with
  | nil => rfl
  | cons c t ih =>
    cases hc : p c with
    | true =>
      have hlt := h.lt hc
      have hq : q (UInt8.ofNat c.toNat) = true := (h.ascii_char hlt).trans hc
      rw [encode_cons_of_lt hlt, List.takeWhile_cons_of_pos hq, List.takeWhile_cons_of_pos hc,
        encode_cons_of_lt hlt, ih]
    | false =>
      have hhead : (encode (c :: t)).head?.any q = false := (h.head_encode _).trans hc
      rw [List.takeWhile_cons_of_neg (by simp [hc])]
      cases hbytes : encode (c :: t) with
      | nil => rfl
      | cons b bs =>
        rw [hbytes] at hhead
        exact List.takeWhile_cons_of_neg (by simpa using hhead)

end Mirrors

end Utf8

namespace Text

variable {t r s : Text} {n : Nat}

theorem dropBytes?_zero (t : Text) : t.dropBytes? 0 = some t := by
  rw [dropBytes?]

theorem add_width_of_dropBytes? (h : t.dropBytes? n = some r) : n + r.width = t.width := by
  obtain ⟨lead, rfl, rfl⟩ := dropBytes?_eq_some_iff.mp h
  rw [width_append]

theorem dropBytes?_add (h : t.dropBytes? n = some (s ++ r)) :
    t.dropBytes? (n + s.width) = some r := by
  obtain ⟨lead, rfl, rfl⟩ := dropBytes?_eq_some_iff.mp h
  rw [← List.append_assoc, ← width_append, dropBytes?_width_append]

/-- The part of `t` from byte `start` to byte `stop`, if both are boundaries, one not before the
other. -/
def slice? (t : Text) (start stop : Nat) : Option Text := do
  let rest ← t.dropBytes? start
  let part := rest.takeBytes (stop - start)
  if start + part.width = stop then some part else none

theorem slice?_eq_some_iff {start stop : Nat} :
    t.slice? start stop = some s ↔
      ∃ front rest, t = front ++ (s ++ rest) ∧ front.width = start ∧ start + s.width = stop := by
  unfold slice?
  simp only [bind, Option.bind_eq_some_iff, dropBytes?_eq_some_iff, Option.ite_none_right_eq_some,
    Option.some.injEq]
  constructor
  · rintro ⟨tail, ⟨front, rfl, rfl⟩, hstop, rfl⟩
    exact ⟨front, tail.dropBytes (stop - front.width), by rw [takeBytes_append_dropBytes], rfl,
      hstop⟩
  · rintro ⟨front, rest, rfl, rfl, rfl⟩
    rw [Nat.add_sub_cancel_left]
    exact ⟨s ++ rest, ⟨front, rfl, rfl⟩, by rw [takeBytes_width_append],
      takeBytes_width_append s rest⟩

/-- Inside a character nothing can be cut. -/
example : slice? ['é'] 0 1 = none := by decide

theorem slice?_of_dropBytes? (h : t.dropBytes? n = some (s ++ r)) :
    t.slice? n (n + s.width) = some s := by
  obtain ⟨front, rfl, rfl⟩ := dropBytes?_eq_some_iff.mp h
  exact slice?_eq_some_iff.mpr ⟨front, r, rfl, rfl, rfl⟩

theorem slice?_width (h : t.dropBytes? n = some r) : t.slice? n t.width = some r := by
  rw [← add_width_of_dropBytes? h]
  exact slice?_of_dropBytes? (by rwa [List.append_nil])

theorem slice?_zero (s r : Text) : (s ++ r).slice? 0 s.width = some s := by
  have h := slice?_of_dropBytes? (dropBytes?_zero (s ++ r))
  rwa [Nat.zero_add] at h

/-- The byte of `t` with number `n`. -/
def byteAt? (t : Text) (n : Nat) : Option UInt8 :=
  (Utf8.encode t)[n]?

theorem byteAt?_of_dropBytes? (h : t.dropBytes? n = some r) :
    t.byteAt? n = (Utf8.encode r)[0]? := by
  obtain ⟨lead, rfl, rfl⟩ := dropBytes?_eq_some_iff.mp h
  unfold byteAt?
  rw [Utf8.encode_append, List.getElem?_append_right (by rw [Utf8.length_encode]),
    Utf8.length_encode, Nat.sub_self]

theorem dropBytes?_cons {c : Char} (h : c.utf8Size ≤ n) :
    dropBytes? n (c :: t) = dropBytes? (n - c.utf8Size) t := by
  obtain ⟨k, rfl⟩ : ∃ k, n = k + 1 := ⟨n - 1, by have := c.utf8Size_pos; omega⟩
  rw [dropBytes?, if_pos h]

/-- Within a text every byte exists, and an ASCII one is where its character stands. -/
theorem exists_byteAt? (h : n < t.width) :
    ∃ b, t.byteAt? n = some b ∧
      (b.toNat < 0x80 → ∃ r, t.dropBytes? n = some (Char.ofNat b.toNat :: r)) := by
  induction t generalizing n with
  | nil => exact absurd h (Nat.not_lt_zero n)
  | cons c t ih =>
    unfold byteAt? at ih ⊢
    by_cases hn : n < c.utf8Size
    · by_cases hc : c.toNat < 0x80
      · rw [Utf8.utf8Size_of_lt hc] at hn
        obtain rfl : n = 0 := by omega
        refine ⟨UInt8.ofNat c.toNat, by rw [Utf8.encode_cons_of_lt hc]; rfl, fun _ => ⟨t, ?_⟩⟩
        rw [Utf8.toNat_byte_of_lt hc, Char.ofNat_toNat, dropBytes?_zero]
      · have hlen : n < (String.utf8EncodeChar c).length := by
          rwa [String.length_utf8EncodeChar]
        refine ⟨(String.utf8EncodeChar c)[n], ?_, ?_⟩
        · rw [Utf8.encode_cons, List.getElem?_append_left hlen, List.getElem?_eq_getElem hlen]
        · intro hlt
          have hle := Utf8.le_of_mem_encodeChar (Nat.le_of_not_lt hc) (List.getElem_mem hlen)
          omega
    · have hn : c.utf8Size ≤ n := Nat.le_of_not_lt hn
      rw [width_cons] at h
      rw [Utf8.encode_cons, List.getElem?_append_right (by rwa [String.length_utf8EncodeChar]),
        String.length_utf8EncodeChar, dropBytes?_cons hn]
      exact ih (by omega)

end Text

end LogShift
