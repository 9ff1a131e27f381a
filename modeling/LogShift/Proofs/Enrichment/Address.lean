import LogShift.Enrichment
import LogShift.Proofs.Decimal
import LogShift.Proofs.Pattern.Matches
import LogShift.Proofs.Text

/-! The address in a message is the first dotted quad that is no part of a longer word. -/
namespace LogShift.Address

/-- One to three digits for a number below 256; zeros may lead. -/
structure IsOctet (o : Text) : Prop where
  ne_nil : o ≠ []
  length_le : o.length ≤ 3
  digits : ∀ c ∈ o, c.isDigit = true
  value_le : Decimal.value o ≤ 255

def IsQuad (s : Text) : Prop :=
  ∃ o₁ o₂ o₃ o₄, IsOctet o₁ ∧ IsOctet o₂ ∧ IsOctet o₃ ∧ IsOctet o₄ ∧
    s = o₁ ++ '.' :: (o₂ ++ '.' :: (o₃ ++ '.' :: o₄))

/-- `msg` has the quad `s` between `before` and `after`, and no word character touches it. -/
structure Stands (msg before s after : Text) : Prop where
  text_eq : msg = before ++ (s ++ after)
  quad : IsQuad s
  before_free : ∀ c ∈ before.getLast?, isWordChar c = false
  after_free : ∀ c ∈ after.head?, isWordChar c = false

theorem inRanges_cons {n a b : Nat} (ha : a ≤ n) (hb : n ≤ b) (r : List (Nat × Nat)) :
    inRanges n ((a, b) :: r) = true := by
  rw [inRanges, if_neg (Nat.not_lt.2 ha), decide_eq_true hb, Bool.true_or]

theorem isWordChar_of_isDigit {c : Char} (h : c.isDigit = true) : isWordChar c = true := by
  obtain ⟨hlo, hhi⟩ : 48 ≤ c.toNat ∧ c.toNat ≤ 57 := Char.isDigit_iff_toNat.1 h
  exact inRanges_cons hlo hhi _

section Octet

open Pattern

variable {before s after : Text}

theorem matches_literal_iff {c : Char} : (literal c).Matches before s after ↔ s = [c] := by
  simp [literal, CharClass.holds]

theorem matches_optional_iff {p : Pattern} :
    (optional p).Matches before s after ↔ p.Matches before s after ∨ s = [] := by
  simp [optional]

/-- A digit of value `n` at most. -/
@[mk_iff]
structure IsUpTo (n : Nat) (c : Char) : Prop where
  isDigit : c.isDigit = true
  le : Decimal.digit c ≤ n

theorem isUpTo_nine {c : Char} : IsUpTo 9 c ↔ c.isDigit = true :=
  ⟨fun h => h.isDigit, fun h => ⟨h, Nat.le_of_lt_succ (Decimal.digit_lt h)⟩⟩

theorem matches_digitUpTo_iff {last : Char} (hlast : last.isDigit = true) :
    (digitUpTo last).Matches before s after ↔ ∃ c, s = [c] ∧ IsUpTo (Decimal.digit last) c := by
  have hrange : 48 ≤ last.toNat ∧ last.toNat ≤ 57 := Char.isDigit_iff_toNat.1 hlast
  have hholds (c : Char) : (CharClass.range '0' last).holds c = true ↔
      c.isDigit = true ∧ Decimal.digit c ≤ Decimal.digit last := by
    have hdigit : c.isDigit = true ↔ 48 ≤ c.toNat ∧ c.toNat ≤ 57 := Char.isDigit_iff_toNat
    have hbounds : (CharClass.range '0' last).holds c = true ↔
        48 ≤ c.toNat ∧ c.toNat ≤ last.toNat := by
      simp only [CharClass.holds, Bool.and_eq_true, decide_eq_true_eq]
      rfl
    have hzero : '0'.toNat = 48 := rfl
    rw [hbounds, hdigit, Decimal.digit, Decimal.digit, hzero]
    omega
  simp only [digitUpTo, matches_char_iff, hholds, isUpTo_iff]

/-- The texts that the three alternatives of the octet match. -/
theorem matches_octet_forms :
    octet.Matches before s after ↔
      (∃ c, s = ['2', '5', c] ∧ IsUpTo 5 c) ∨
      (∃ b c, s = ['2', b, c] ∧ IsUpTo 4 b ∧ c.isDigit = true) ∨
      (∃ a b c, s = [a, b, c] ∧ IsUpTo 1 a ∧ b.isDigit = true ∧ c.isDigit = true) ∨
      (∃ a b, s = [a, b] ∧ a.isDigit = true ∧ b.isDigit = true) ∨
      ∃ a, s = [a] ∧ a.isDigit = true := by
  have hupTo {n : Nat} {last : Char} (hlast : last.isDigit = true) (hn : Decimal.digit last = n)
      {before s after : Text} :
      (digitUpTo last).Matches before s after ↔ ∃ c, s = [c] ∧ IsUpTo n c := by
    rw [matches_digitUpTo_iff hlast, hn]
  simp only [octet, matches_alt_iff, matches_seq_iff, matches_literal_iff, matches_optional_iff,
    hupTo (show '5'.isDigit = true from rfl) (show Decimal.digit '5' = 5 from rfl),
    hupTo (show '4'.isDigit = true from rfl) (show Decimal.digit '4' = 4 from rfl),
    hupTo (show '9'.isDigit = true from rfl) (show Decimal.digit '9' = 9 from rfl),
    hupTo (show '1'.isDigit = true from rfl) (show Decimal.digit '1' = 1 from rfl), isUpTo_nine]
  constructor
  · intro h
    rcases h with ⟨_, _, rfl, rfl, _, _, rfl, rfl, c, rfl, hc⟩ |
      ⟨_, _, rfl, rfl, _, _, rfl, ⟨b, rfl, hb⟩, c, rfl, hc⟩ |
      ⟨_, _, rfl, ⟨a, rfl, ha⟩ | rfl, _, _, rfl, ⟨b, rfl, hb⟩, ⟨c, rfl, hc⟩ | rfl⟩
    · exact .inl ⟨c, rfl, hc⟩
    · exact .inr (.inl ⟨b, c, rfl, hb, hc⟩)
    · exact .inr (.inr (.inl ⟨a, b, c, rfl, ha, hb, hc⟩))
    · exact .inr (.inr (.inr (.inl ⟨a, b, rfl, ha.isDigit, hb⟩)))
    · exact .inr (.inr (.inr (.inl ⟨b, c, rfl, hb, hc⟩)))
    · exact .inr (.inr (.inr (.inr ⟨b, rfl, hb⟩)))
  · intro h
    rcases h with ⟨c, rfl, hc⟩ | ⟨b, c, rfl, hb, hc⟩ | ⟨a, b, c, rfl, ha, hb, hc⟩ |
      ⟨a, b, rfl, ha, hb⟩ | ⟨a, rfl, ha⟩
    · exact .inl ⟨['2'], ['5', c], rfl, rfl, ['5'], [c], rfl, rfl, c, rfl, hc⟩
    · exact .inr (.inl ⟨['2'], [b, c], rfl, rfl, [b], [c], rfl, ⟨b, rfl, hb⟩, c, rfl, hc⟩)
    · exact .inr (.inr ⟨[a], [b, c], rfl, .inl ⟨a, rfl, ha⟩, [b], [c], rfl, ⟨b, rfl, hb⟩,
        .inl ⟨c, rfl, hc⟩⟩)
    · exact .inr (.inr ⟨[], [a, b], rfl, .inr rfl, [a], [b], rfl, ⟨a, rfl, ha⟩,
        .inl ⟨b, rfl, hb⟩⟩)
    · exact .inr (.inr ⟨[], [a], rfl, .inr rfl, [a], [], rfl, ⟨a, rfl, ha⟩, .inr rfl⟩)

theorem eq_of_digit_eq {c d : Char} (hc : c.isDigit = true) (hd : d.isDigit = true)
    (h : Decimal.digit c = Decimal.digit d) : c = d := by
  rw [← Decimal.digitChar_digit hc, h, Decimal.digitChar_digit hd]

theorem isOctet_one_iff {a : Char} : IsOctet [a] ↔ a.isDigit = true := by
  constructor
  · intro h
    exact h.digits a List.mem_cons_self
  · intro ha
    have hlt := Decimal.digit_lt ha
    refine ⟨by simp, by simp, by simpa using ha, ?_⟩
    simp only [Decimal.value, List.foldl]
    omega

theorem isOctet_two_iff {a b : Char} :
    IsOctet [a, b] ↔ a.isDigit = true ∧ b.isDigit = true := by
  constructor
  · intro h
    exact ⟨h.digits a (by simp), h.digits b (by simp)⟩
  · intro h
    obtain ⟨ha, hb⟩ := h
    have hlta := Decimal.digit_lt ha
    have hltb := Decimal.digit_lt hb
    refine ⟨by simp, by simp, by simp [ha, hb], ?_⟩
    simp only [Decimal.value, List.foldl]
    omega

theorem isOctet_three_iff {a b c : Char} :
    IsOctet [a, b, c] ↔ a.isDigit = true ∧ b.isDigit = true ∧ c.isDigit = true ∧
      100 * Decimal.digit a + 10 * Decimal.digit b + Decimal.digit c ≤ 255 := by
  have hvalue : Decimal.value [a, b, c] =
      100 * Decimal.digit a + 10 * Decimal.digit b + Decimal.digit c := by
    simp only [Decimal.value, List.foldl]
    omega
  constructor
  · intro h
    exact ⟨h.digits a (by simp), h.digits b (by simp), h.digits c (by simp), hvalue ▸ h.value_le⟩
  · intro h
    obtain ⟨ha, hb, hc, hle⟩ := h
    exact ⟨by simp, by simp, by simp [ha, hb, hc], hvalue ▸ hle⟩

/-- The pattern of an octet matches the octets, each as a whole. -/
theorem matches_octet_iff : octet.Matches before s after ↔ IsOctet s := by
  have htwo : Decimal.digit '2' = 2 := rfl
  have hfive : Decimal.digit '5' = 5 := rfl
  rw [matches_octet_forms]
  constructor
  · intro h
    rcases h with ⟨c, rfl, hc⟩ | ⟨b, c, rfl, hb, hc⟩ | ⟨a, b, c, rfl, ha, hb, hc⟩ |
      ⟨a, b, rfl, ha, hb⟩ | ⟨a, rfl, ha⟩
    · have hle := hc.le
      exact isOctet_three_iff.2 ⟨rfl, rfl, hc.isDigit, by omega⟩
    · have hle := hb.le
      have hlt := Decimal.digit_lt hc
      exact isOctet_three_iff.2 ⟨rfl, hb.isDigit, hc, by omega⟩
    · have hle := ha.le
      have hltb := Decimal.digit_lt hb
      have hltc := Decimal.digit_lt hc
      exact isOctet_three_iff.2 ⟨ha.isDigit, hb, hc, by omega⟩
    · exact isOctet_two_iff.2 ⟨ha, hb⟩
    · exact isOctet_one_iff.2 ha
  · intro h
    match s, h with
    | [], h => exact absurd rfl h.ne_nil
    | [a], h => exact .inr (.inr (.inr (.inr ⟨a, rfl, isOctet_one_iff.1 h⟩)))
    | [a, b], h => exact .inr (.inr (.inr (.inl ⟨a, b, rfl, isOctet_two_iff.1 h⟩)))
    | [a, b, c], h =>
      obtain ⟨ha, hb, hc, hle⟩ := isOctet_three_iff.1 h
      -- The leading digit is at most 2, and with a leading 2 the next one decides.
      by_cases hlow : Decimal.digit a ≤ 1
      · exact .inr (.inr (.inl ⟨a, b, c, rfl, ⟨ha, hlow⟩, hb, hc⟩))
      · obtain rfl : a = '2' := eq_of_digit_eq ha rfl (by omega)
        by_cases hmiddle : Decimal.digit b ≤ 4
        · exact .inr (.inl ⟨b, c, rfl, ⟨hb, hmiddle⟩, hc⟩)
        · obtain rfl : b = '5' := eq_of_digit_eq hb rfl (by omega)
          exact .inl ⟨c, rfl, hc, by omega⟩
    | a :: b :: c :: d :: t, h =>
      have hlength := h.length_le
      simp only [List.length_cons] at hlength
      omega

theorem matches_dotted_iff :
    dotted.Matches before s after ↔ ∃ o, IsOctet o ∧ s = o ++ ['.'] := by
  simp only [dotted, matches_seq_iff, matches_octet_iff, matches_literal_iff]
  constructor
  · intro h
    obtain ⟨o, _, rfl, ho, rfl⟩ := h
    exact ⟨o, ho, rfl⟩
  · intro h
    obtain ⟨o, ho, rfl⟩ := h
    exact ⟨o, ['.'], rfl, ho, rfl⟩

end Octet

theorem IsOctet.getLast? {o : Text} (h : IsOctet o) (t : Text) :
    ∃ c ∈ (t ++ o).getLast?, c.isDigit = true := by
  refine ⟨o.getLast h.ne_nil, ?_, h.digits _ (List.getLast_mem h.ne_nil)⟩
  rw [List.getLast?_append_of_ne_nil t h.ne_nil]
  exact List.getLast?_eq_some_getLast h.ne_nil

theorem IsQuad.head? {s : Text} (h : IsQuad s) (t : Text) :
    ∃ c ∈ (s ++ t).head?, c.isDigit = true := by
  obtain ⟨o, _, _, _, ho, _, _, _, rfl⟩ := h
  obtain ⟨c, r, rfl⟩ := List.exists_cons_of_ne_nil ho.ne_nil
  exact ⟨c, rfl, ho.digits c List.mem_cons_self⟩

/-- A quad ends where no digit follows. -/
theorem IsQuad.unique {s s' r r' : Text} (hs : IsQuad s) (hs' : IsQuad s')
    (hr : ∀ c ∈ r.head?, c.isDigit = false) (hr' : ∀ c ∈ r'.head?, c.isDigit = false)
    (h : s ++ r = s' ++ r') : s = s' := by
  obtain ⟨a, b, c, d, ha, hb, hc, hd, rfl⟩ := hs
  obtain ⟨a', b', c', d', ha', hb', hc', hd', rfl⟩ := hs'
  have hdot (t : Text) : ∀ c ∈ ('.' :: t).head?, c.isDigit = false := by simp
  simp only [List.append_assoc, List.cons_append] at h
  obtain ⟨rfl, hb₀⟩ := Text.run_unique ha.digits ha'.digits (hdot _) (hdot _) h
  obtain ⟨rfl, hc₀⟩ := Text.run_unique hb.digits hb'.digits (hdot _) (hdot _) (List.cons.inj hb₀).2
  obtain ⟨rfl, hd₀⟩ := Text.run_unique hc.digits hc'.digits (hdot _) (hdot _) (List.cons.inj hc₀).2
  obtain ⟨rfl, _⟩ := Text.run_unique hd.digits hd'.digits hr hr' (List.cons.inj hd₀).2
  rfl

theorem isBoundary_before_digit {prev next : Option Char} (h : ∃ c ∈ next, c.isDigit = true) :
    isBoundary prev next = true ↔ ∀ c ∈ prev, isWordChar c = false := by
  obtain ⟨d, rfl, hd⟩ := h
  cases prev <;> simp [isBoundary, isWordChar_of_isDigit hd]

theorem isBoundary_behind_digit {prev next : Option Char} (h : ∃ c ∈ prev, c.isDigit = true) :
    isBoundary prev next = true ↔ ∀ c ∈ next, isWordChar c = false := by
  obtain ⟨d, rfl, hd⟩ := h
  cases next <;> simp [isBoundary, isWordChar_of_isDigit hd]

/-- The three octets with points and the fourth are the quads. -/
theorem isQuad_iff {s : Text} :
    IsQuad s ↔ ∃ a b c d, IsOctet a ∧ IsOctet b ∧ IsOctet c ∧ IsOctet d ∧
      s = (a ++ ['.']) ++ ((b ++ ['.']) ++ (c ++ ['.'])) ++ d := by
  simp only [IsQuad, List.append_assoc, List.cons_append, List.nil_append]

theorem matches_pattern_iff {before s after : Text} :
    pattern.Matches before s after ↔ Stands (before ++ (s ++ after)) before s after := by
  simp only [pattern, Pattern.matches_seq_iff, Pattern.matches_boundary_iff, matches_dotted_iff,
    matches_octet_iff]
  constructor
  · intro h
    obtain ⟨_, _, rfl, ⟨rfl, hfront⟩, _, _, rfl, ⟨_, _, rfl, ⟨a, ha, rfl⟩, _, _, rfl,
      ⟨b, hb, rfl⟩, c, hc, rfl⟩, d, _, rfl, hd, rfl, hback⟩ := h
    rw [List.append_nil] at hfront
    rw [List.nil_append, List.append_nil]
    have hquad := isQuad_iff.2 ⟨a, b, c, d, ha, hb, hc, hd, rfl⟩
    rw [isBoundary_before_digit (hquad.head? after)] at hfront
    rw [isBoundary_behind_digit (hd.getLast? _)] at hback
    exact ⟨rfl, hquad, hfront, hback⟩
  · intro h
    obtain ⟨_, hquad, hbefore, hafter⟩ := h
    obtain ⟨a, b, c, d, ha, hb, hc, hd, rfl⟩ := isQuad_iff.1 hquad
    refine ⟨[], _, rfl, ⟨rfl, ?_⟩, _, d, rfl, ⟨_, _, rfl, ⟨a, ha, rfl⟩, _, _, rfl, ⟨b, hb, rfl⟩,
      c, hc, rfl⟩, d, [], (List.append_nil d).symm, hd, rfl, ?_⟩
    · exact (isBoundary_before_digit (hquad.head? after)).2 hbefore
    · exact (isBoundary_behind_digit (hd.getLast? _)).2 hafter

theorem Stands.matches {msg before s after : Text} (h : Stands msg before s after) :
    msg = before ++ (s ++ after) ∧ pattern.Matches before s after := by
  obtain rfl := h.text_eq
  exact ⟨rfl, matches_pattern_iff.2 h⟩

/-- Behind one start there is one quad at most. -/
theorem Stands.unique {msg before before' s s' after after' : Text}
    (h : Stands msg before s after) (h' : Stands msg before' s' after')
    (hlength : before.length = before'.length) : s = s' := by
  have hdigit {t : Text} (ht : ∀ c ∈ t.head?, isWordChar c = false) :
      ∀ c ∈ t.head?, c.isDigit = false := by
    intro c hc
    rw [← Bool.not_eq_true]
    intro hdigit
    exact absurd (isWordChar_of_isDigit hdigit) (by rw [ht c hc]; exact Bool.false_ne_true)
  have hrest := (List.append_inj (h.text_eq.symm.trans h'.text_eq) hlength).2
  exact h.quad.unique h'.quad (hdigit h.after_free) (hdigit h'.after_free) hrest

theorem find?_eq_none_iff {msg : Text} :
    find? msg = none ↔ ¬∃ before s after, Stands msg before s after := by
  rw [find?, Pattern.first?_eq_none_iff]
  constructor
  · intro h hstands
    obtain ⟨before, s, after, hstands⟩ := hstands
    exact h before s after hstands.matches.1 hstands.matches.2
  · intro h before s after hmsg hmatch
    exact h ⟨before, s, after, hmsg ▸ matches_pattern_iff.1 hmatch⟩

theorem find?_eq_some {msg s : Text} (h : find? msg = some s) :
    ∃ before after, Stands msg before s after ∧
      ∀ before' s' after', Stands msg before' s' after' → before.length ≤ before'.length := by
  obtain ⟨before, after, hmsg, hmatch, hleast⟩ := Pattern.first?_eq_some h
  refine ⟨before, after, hmsg ▸ matches_pattern_iff.1 hmatch, ?_⟩
  intro before' s' after' hstands
  exact hleast before' s' after' hstands.matches.1 hstands.matches.2

/-- The address found is the quad that starts first of those that no word character touches, none is
found only if there is no such quad, and a start has one quad at most. -/
theorem find?_first_quad (msg : Text) :
    (∀ s, find? msg = some s ↔ ∃ before after, Stands msg before s after ∧
      ∀ before' s' after', Stands msg before' s' after' → before.length ≤ before'.length) ∧
    (find? msg = none ↔ ¬∃ before s after, Stands msg before s after) ∧
    ∀ before s s' after after', Stands msg before s after → Stands msg before s' after' →
      s = s' := by
  refine ⟨?_, find?_eq_none_iff, fun before s s' after after' h h' => h.unique h' rfl⟩
  intro s
  refine ⟨find?_eq_some, ?_⟩
  intro h
  obtain ⟨before, after, hstands, hleast⟩ := h
  cases hfind : find? msg with
  | none => exact absurd ⟨before, s, after, hstands⟩ (find?_eq_none_iff.1 hfind)
  | some s' =>
    obtain ⟨before', after', hstands', hleast'⟩ := find?_eq_some hfind
    have hlength := Nat.le_antisymm (hleast' _ _ _ hstands) (hleast _ _ _ hstands')
    rw [hstands'.unique hstands hlength]

example : find? "256.1.1.1.1".toList = some "1.1.1.1".toList := by decide +kernel

end LogShift.Address
