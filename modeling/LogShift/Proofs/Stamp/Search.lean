import LogShift.Proofs.Stamp.Shape
import LogShift.Stamp.Search

/-! Where stamps stand in a text. The search finds each of them once, in order, and full dates stand
apart from each other. -/
namespace LogShift

theorem isUpper_of_isDigit {c : Char} (h : c.isDigit = true) : c.isUpper = false := by
  have hupper : c.isUpper = decide (c.val ≥ 'A'.val ∧ c.val ≤ 'Z'.val) := rfl
  rw [hupper]
  simp only [Char.isDigit, Bool.and_eq_true, decide_eq_true_eq,
    decide_eq_false_iff_not, UInt32.le_iff_toNat_le, ge_iff_le] at h ⊢
  have h9 : '9'.val.toNat = 57 := rfl
  have hA : 'A'.val.toNat = 65 := rfl
  omega

theorem isUpper_of_isBlank {c : Char} (h : isBlank c = true) : c.isUpper = false := by
  simp only [isBlank, Bool.or_eq_true, beq_iff_eq] at h
  rcases h with rfl | rfl <;> decide

theorem DayField.isUpper_of_mem_text {d : DayField} {c : Char} (h : c ∈ d.text) :
    c.isUpper = false := by
  rcases List.mem_append.mp h with h | h
  · rw [List.eq_of_mem_replicate h]
    rfl
  · exact isUpper_of_isDigit (Decimal.isDigit_of_mem_padded h)

theorem ClockField.isUpper_of_mem_text {f : ClockField} {c : Char} (h : c ∈ f.text) :
    c.isUpper = false := by
  simp only [ClockField.text, List.append_assoc, List.cons_append, List.mem_append,
    List.mem_cons] at h
  rcases h with h | rfl | h | rfl | h
  · exact isUpper_of_isDigit (Decimal.isDigit_of_mem_padded h)
  · rfl
  · exact isUpper_of_isDigit (Decimal.isDigit_of_mem_padded h)
  · rfl
  · exact isUpper_of_isDigit (Decimal.isDigit_of_mem_padded h)

/-- A capital stands behind a part without capitals. -/
theorem append_eq_append_upper {l r x y : Text} {c : Char} (hl : ∀ a ∈ l, a.isUpper = false)
    (h : l ++ r = x ++ c :: y) (hc : c.isUpper = true) : ∃ z, x = l ++ z ∧ r = z ++ c :: y := by
  rcases List.append_eq_append_iff.mp h with ⟨z, hx, hr⟩ | ⟨z, hlz, hcy⟩
  · exact ⟨z, hx, hr⟩
  · cases z with
    | nil => exact ⟨[], by simpa using hlz.symm, by simpa using hcy.symm⟩
    | cons a z =>
      obtain ⟨rfl, -⟩ := List.cons_eq_cons.mp hcy
      rw [hl c (by simp [hlz])] at hc
      exact absurd hc (by decide)

/-- No abbreviation is both of a weekday and of a month. -/
theorem weekdayName_append_ne (w : Weekday) {m : Nat} (hm : 1 ≤ m ∧ m ≤ 12) (r r' : Text) :
    w.name.toList ++ r ≠ monthName m ++ r' := by
  have key : ∀ w ∈ Weekday.all, ∀ n < 12, w.name.toList ≠ monthName (n + 1) := by decide
  obtain ⟨a, b, c, ha, -⟩ := w.name_eq
  obtain ⟨d, e, f, hd, -⟩ := monthName_eq hm
  intro h
  obtain ⟨n, rfl⟩ : ∃ n, m = n + 1 := ⟨m - 1, by omega⟩
  refine key w (by cases w <;> decide) n (by omega) ?_
  rw [ha, hd] at h ⊢
  simp only [List.cons_append, List.nil_append, List.cons.injEq] at h
  rw [h.1, h.2.1, h.2.2.1]

namespace Stamp

theorem text_ne_nil {s : Stamp} (h : s.Shaped) : s.text ≠ [] := by
  cases s with
  | ctime w =>
    obtain ⟨a, b, c, hw, -⟩ := w.name_eq
    simp [text, hw]
  | syslog m =>
    obtain ⟨a, b, c, hm, -⟩ := monthName_eq h.1
    simp [text, hm]
  | iso => simp [text]

/-- Inside a full date the only capital is that of the month. -/
theorem month_of_upper_ctime {s : Stamp} (hk : s.surface = .ctime) (hs : s.Shaped) {x y : Text}
    {c : Char} (ht : s.text = x ++ c :: y) (hx : x ≠ []) (hc : c.isUpper = true) :
    ∃ m u, (1 ≤ m ∧ m ≤ 12) ∧ c :: y = monthName m ++ u := by
  cases s with
  | ctime w m d f year =>
    obtain ⟨hm, hd, hf, hy0, -⟩ := hs
    obtain ⟨year, rfl⟩ := Int.eq_ofNat_of_zero_le hy0
    obtain ⟨a, b, e, hw, -, hb, he⟩ := w.name_eq
    obtain ⟨a', b', e', hn, -, hb', he'⟩ := monthName_eq hm
    obtain ⟨x0, x, rfl⟩ := List.exists_cons_of_ne_nil hx
    -- Behind its first letter the text is: two letters and a space, the month's capital, the rest.
    have htail : ∀ i ∈ [b', e'] ++ (d.text ++ ' ' :: (f.text ++ ' ' :: Decimal.padded 4 year)),
        i.isUpper = false := by
      intro i hi
      simp only [List.cons_append, List.nil_append, List.mem_cons, List.mem_append] at hi
      rcases hi with rfl | rfl | hi | rfl | hi | rfl | hi
      · exact hb'
      · exact he'
      · exact DayField.isUpper_of_mem_text hi
      · rfl
      · exact ClockField.isUpper_of_mem_text hi
      · rfl
      · exact isUpper_of_isDigit (Decimal.isDigit_of_mem_padded hi)
    have ht' : [b, e, ' '] ++ (a' :: ([b', e'] ++ (d.text ++ ' ' :: (f.text ++
        ' ' :: Decimal.padded 4 year)))) = x ++ c :: y := by
      simp only [text, hw, hn, Decimal.paddedInteger_natCast, List.cons_append, List.nil_append,
        List.append_assoc, List.cons.injEq] at ht
      exact ht.2
    obtain ⟨z, -, hz⟩ := append_eq_append_upper (by simp [hb, he]) ht' hc
    cases z with
    | nil => exact ⟨m, _, hm, by rw [hn]; exact hz.symm⟩
    | cons z0 z =>
      obtain ⟨-, hz⟩ := List.cons_eq_cons.mp hz
      rw [htail c (by rw [hz]; simp)] at hc
      exact absurd hc (by decide)
  | syslog => cases hk
  | iso => cases hk

/-- The only capital of a stamp without a year is its first letter. -/
theorem not_upper_syslog {s : Stamp} (hk : s.surface = .syslog) (hs : s.Shaped) {x y : Text}
    {c : Char} (ht : s.text = x ++ c :: y) (hx : x ≠ []) : c.isUpper = false := by
  cases s with
  | syslog m d blanks f =>
    obtain ⟨hm, hd, ⟨-, hb⟩, hf⟩ := hs
    obtain ⟨a, b, e, hn, -, hb', he'⟩ := monthName_eq hm
    obtain ⟨x0, x, rfl⟩ := List.exists_cons_of_ne_nil hx
    simp only [text, hn, List.cons_append, List.nil_append, List.append_assoc,
      List.cons.injEq] at ht
    have hmem : c ∈ b :: e :: (d.text ++ (blanks ++ f.text)) := by simp [ht.2]
    simp only [List.mem_cons, List.mem_append] at hmem
    rcases hmem with rfl | rfl | h | h | h
    · exact hb'
    · exact he'
    · exact DayField.isUpper_of_mem_text h
    · exact isUpper_of_isBlank (hb c h)
    · exact ClockField.isUpper_of_mem_text h
  | ctime => cases hk
  | iso => cases hk

theorem syslog_text_eq {s : Stamp} (hk : s.surface = .syslog) (hs : s.Shaped) :
    ∃ (m : Nat) (r : Text), (1 ≤ m ∧ m ≤ 12) ∧ s.text = monthName m ++ r := by
  cases s with
  | syslog m d blanks f =>
    exact ⟨m, _, hs.1, by rw [text, List.append_assoc, List.append_assoc]⟩
  | ctime => cases hk
  | iso => cases hk

/-- A full date starts with the capital of a weekday. -/
theorem ctime_text_eq {s : Stamp} (hk : s.surface = .ctime) :
    ∃ (w : Weekday) (r : Text), s.text = w.name.toList ++ r := by
  cases s with
  | ctime w m d f year =>
    exact ⟨w, _, by rw [text, List.append_assoc, List.append_assoc, List.append_assoc]⟩
  | syslog => cases hk
  | iso => cases hk

end Stamp

namespace Located

/-- The stamp of `m` can be read in `t` at its byte. -/
def StandsIn (k : Surface) (t : Text) (m : Located) : Prop :=
  ∃ lead rest, t = lead ++ (m.stamp.text ++ rest) ∧ lead.width = m.start ∧
    Stamp.read? k (m.stamp.text ++ rest) = some (m.stamp, rest)

variable {k : Surface} {t : Text} {a b m : Located}

theorem StandsIn.surface_eq (h : m.StandsIn k t) : m.stamp.surface = k := by
  obtain ⟨lead, rest, -, -, hread⟩ := h
  exact (Stamp.read?_eq_some_iff.mp hread).1

theorem StandsIn.shaped (h : m.StandsIn k t) : m.stamp.Shaped := by
  obtain ⟨lead, rest, -, -, hread⟩ := h
  exact (Stamp.read?_eq_some_iff.mp hread).2.1

theorem start_lt_stop (h : m.stamp.Shaped) : m.start < m.stop := by
  have h0 : m.stamp.text.width ≠ 0 := fun h0 =>
    Stamp.text_ne_nil h (Text.width_eq_zero_iff.mp h0)
  unfold stop
  omega

theorem at?_eq_some_iff {n : Nat} : at? k n t = some m ↔ m.start = n ∧ m.StandsIn k t := by
  simp only [at?, bind, Option.bind_eq_some_iff, Prod.exists, pure, Option.some.injEq,
    Text.dropBytes?_eq_some_iff]
  constructor
  · rintro ⟨rest, ⟨lead, rfl, rfl⟩, s, r, hread, rfl⟩
    obtain ⟨-, -, rfl, -⟩ := Stamp.read?_eq_some_iff.mp hread
    exact ⟨rfl, lead, r, rfl, rfl, hread⟩
  · rintro ⟨rfl, lead, rest, rfl, hw, hread⟩
    exact ⟨_, ⟨lead, rfl, hw⟩, m.stamp, rest, hread, rfl⟩

theorem mem_allFrom_iff {offset : Nat} :
    m ∈ allFrom k offset t ↔ ∃ lead rest, t = lead ++ (m.stamp.text ++ rest) ∧
      offset + lead.width = m.start ∧
      Stamp.read? k (m.stamp.text ++ rest) = some (m.stamp, rest) := by
  induction t generalizing offset with
  | nil =>
    simp only [allFrom, List.not_mem_nil, false_iff]
    rintro ⟨lead, rest, h, -, hread⟩
    obtain ⟨-, hs, -⟩ := Stamp.read?_eq_some_iff.mp hread
    simp only [List.nil_eq, List.append_eq_nil_iff] at h
    exact Stamp.text_ne_nil hs h.2.1
  | cons c t ih =>
    have hmem : m ∈ allFrom k offset (c :: t) ↔
        (m.start = offset ∧ ∃ rest, Stamp.read? k (c :: t) = some (m.stamp, rest)) ∨
          m ∈ allFrom k (offset + c.utf8Size) t := by
      rw [allFrom]
      cases hr : Stamp.read? k (c :: t) with
      | none => simp
      | some p =>
        obtain ⟨s, r⟩ := p
        rw [List.mem_cons]
        apply or_congr_left
        constructor
        · rintro rfl
          exact ⟨rfl, r, rfl⟩
        · rintro ⟨hstart, rest, hrest⟩
          obtain ⟨hs, -⟩ := Prod.mk.inj (Option.some.inj hrest)
          cases m
          cases hstart
          cases hs
          rfl
    rw [hmem, ih]
    constructor
    · rintro (⟨hstart, rest, hread⟩ | ⟨lead, rest, rfl, hw, hread⟩)
      · obtain ⟨-, -, ht, -⟩ := Stamp.read?_eq_some_iff.mp hread
        rw [ht] at hread ⊢
        exact ⟨[], rest, rfl, by simp [hstart], hread⟩
      · exact ⟨c :: lead, rest, rfl, by rw [Text.width_cons]; omega, hread⟩
    · rintro ⟨lead, rest, ht, hw, hread⟩
      cases lead with
      | nil =>
        rw [List.nil_append] at ht
        rw [ht]
        exact Or.inl ⟨by simpa using hw.symm, rest, hread⟩
      | cons a lead =>
        obtain ⟨rfl, rfl⟩ := List.cons_eq_cons.mp ht
        rw [Text.width_cons] at hw
        exact Or.inr ⟨lead, rest, rfl, by omega, hread⟩

theorem mem_candidates_iff : m ∈ candidates k t ↔ m.StandsIn k t := by
  unfold candidates StandsIn
  simp only [mem_allFrom_iff, Nat.zero_add]

theorem mem_candidates_iff_at? : m ∈ candidates k t ↔ at? k m.start t = some m := by
  rw [mem_candidates_iff, at?_eq_some_iff]
  exact ⟨fun h => ⟨rfl, h⟩, And.right⟩

theorem le_start_of_mem_allFrom {offset : Nat} (h : m ∈ allFrom k offset t) :
    offset ≤ m.start := by
  obtain ⟨lead, rest, -, hw, -⟩ := mem_allFrom_iff.mp h
  omega

theorem allFrom_sorted (k : Surface) (offset : Nat) (t : Text) :
    (allFrom k offset t).Pairwise fun a b => a.start < b.start := by
  induction t generalizing offset with
  | nil => exact List.Pairwise.nil
  | cons c t ih =>
    rw [allFrom]
    cases Stamp.read? k (c :: t) with
    | none => exact ih _
    | some p =>
      refine List.pairwise_cons.mpr ⟨?_, ih _⟩
      intro b hb
      have hc := c.utf8Size_pos
      have := le_start_of_mem_allFrom hb
      dsimp only
      omega

theorem candidates_sorted (k : Surface) (t : Text) :
    (candidates k t).Pairwise fun a b => a.start < b.start :=
  allFrom_sorted k 0 t

/-- The text behind the start of a stamp that starts inside another. -/
theorem StandsIn.inside {k' : Surface} (ha : a.StandsIn k' t) (hb : b.StandsIn k t)
    (h : a.start ≤ b.start) (ho : b.start < a.stop) :
    ∃ (x : Text) (c : Char) (y r r' : Text), a.stamp.text = x ++ c :: y ∧
      a.start + x.width = b.start ∧
      c :: y ++ r = b.stamp.text ++ r' := by
  obtain ⟨la, ra, rfl, hla, -⟩ := ha
  obtain ⟨lb, rb, ht, hlb, -⟩ := hb
  obtain ⟨x, rfl, hx⟩ := Text.append_eq_append_of_width_le ht (by omega)
  unfold stop at ho
  rw [Text.width_append] at hlb
  have hxw : x.width ≤ a.stamp.text.width := by omega
  obtain ⟨y, hy, hb⟩ := Text.append_eq_append_of_width_le hx.symm hxw
  cases y with
  | nil =>
    rw [hy, List.append_nil] at ho
    omega
  | cons c y => exact ⟨x, c, y, ra, rb, hy, by omega, hb.symm⟩

/-- A full date never starts inside another one. -/
theorem stop_le_start_of_ctime (ha : a.StandsIn .ctime t) (hb : b.StandsIn .ctime t)
    (h : a.start < b.start) : a.stop ≤ b.start := by
  by_contra ho
  obtain ⟨x, c, y, r, r', hx, hw, hy⟩ := ha.inside hb (by omega) (by omega)
  have hne : x ≠ [] := by
    rintro rfl
    rw [Text.width_nil] at hw
    omega
  obtain ⟨w, u, hu⟩ := Stamp.ctime_text_eq hb.surface_eq
  obtain ⟨p, q, e, hp, hupper, -⟩ := w.name_eq
  have hc : c = p := by
    rw [hu, hp] at hy
    exact (List.cons_eq_cons.mp hy).1
  obtain ⟨m, v, hm, hv⟩ := Stamp.month_of_upper_ctime ha.surface_eq ha.shaped hx hne (hc ▸ hupper)
  rw [hu, hv, List.append_assoc, List.append_assoc] at hy
  exact weekdayName_append_ne w hm _ _ hy.symm

/-- A full date never starts inside a stamp without a year. -/
theorem stop_le_start_of_syslog (ha : a.StandsIn .syslog t) (hb : b.StandsIn .ctime t)
    (h : a.start ≤ b.start) : a.stop ≤ b.start := by
  by_contra ho
  obtain ⟨x, c, y, r, r', hx, hw, hy⟩ := ha.inside hb h (by omega)
  obtain ⟨w, u, hu⟩ := Stamp.ctime_text_eq hb.surface_eq
  obtain ⟨p, q, e, hp, hupper, -⟩ := w.name_eq
  have hc : c = p := by
    rw [hu, hp] at hy
    exact (List.cons_eq_cons.mp hy).1
  by_cases hne : x = []
  · subst hne
    obtain ⟨m, v, hm, hv⟩ := Stamp.syslog_text_eq ha.surface_eq ha.shaped
    rw [← List.nil_append (c :: y), ← hx, hv, hu, List.append_assoc, List.append_assoc] at hy
    exact weekdayName_append_ne w hm _ _ hy.symm
  · have := Stamp.not_upper_syslog ha.surface_eq ha.shaped hx hne
    rw [hc, hupper] at this
    exact absurd this (by decide)

theorem disjointFrom_eq_self {n : Nat} {ms : List Located}
    (hp : ms.Pairwise fun a b => a.stop ≤ b.start) (hn : ∀ m ∈ ms, n ≤ m.start) :
    disjointFrom n ms = ms := by
  induction ms generalizing n with
  | nil => rfl
  | cons m ms ih =>
    obtain ⟨hm, hp⟩ := List.pairwise_cons.mp hp
    rw [disjointFrom, if_pos (hn m (by simp)), ih hp hm]

end Located

end LogShift
