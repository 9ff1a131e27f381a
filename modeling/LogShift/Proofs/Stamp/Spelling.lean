import LogShift.Proofs.Stamp.Search

/-! How stamps are spelled. The grammar of each surface is stated on characters alone, and the stamp
that is located at a byte of a text is the one that is spelled there. -/
namespace LogShift

/-- `t` is made of `n` digits that denote `v`. -/
def Decimal.Spells (n : Nat) (t : Text) (v : Nat) : Prop :=
  t.length = n ∧ (∀ c ∈ t, c.isDigit = true) ∧ value t = v

theorem Decimal.spells_iff {n : Nat} (hn : 0 < n) {t : Text} {v : Nat} :
    Spells n t v ↔ v < 10 ^ n ∧ t = padded n v := by
  constructor
  · intro h
    obtain ⟨hlen, hdigit, hvalue⟩ := h
    have hne : t ≠ [] := List.ne_nil_of_length_pos (hlen ▸ hn)
    have hlt := value_lt hdigit
    have hpad := padded_value hne hdigit
    rw [hlen, hvalue] at hlt hpad
    exact ⟨hlt, hpad.symm⟩
  · intro h
    obtain ⟨hv, ht⟩ := h
    rw [ht]
    exact ⟨length_padded hn hv, fun c hc => isDigit_of_mem_padded hc, value_padded n v⟩

/-- `t` is `dd:dd:dd`, with two digits for each part of `c`. -/
def ClockField.Spells (t : Text) (c : ClockField) : Prop :=
  ∃ hour minute second, t = hour ++ ':' :: (minute ++ ':' :: second) ∧
    Decimal.Spells 2 hour c.hour ∧ Decimal.Spells 2 minute c.minute ∧
    Decimal.Spells 2 second c.second

theorem ClockField.spells_iff {t : Text} {c : ClockField} :
    ClockField.Spells t c ↔ c.Shaped ∧ t = c.text := by
  simp only [ClockField.Spells, Decimal.spells_iff (show 0 < 2 by omega)]
  constructor
  · intro h
    obtain ⟨hour, minute, second, ht, ⟨hh, rfl⟩, ⟨hm, rfl⟩, ⟨hs, rfl⟩⟩ := h
    exact ⟨⟨hh, hm, hs⟩, by rw [ht]; simp [ClockField.text]⟩
  · intro h
    obtain ⟨⟨hh, hm, hs⟩, ht⟩ := h
    exact ⟨_, _, _, by rw [ht]; simp [ClockField.text], ⟨hh, rfl⟩, ⟨hm, rfl⟩, ⟨hs, rfl⟩⟩

namespace DayField

/-- The padding of a day behind `gap` spaces, and the places that it takes. -/
def looks (gap : Nat) (digits : Text) : DayPad × Nat :=
  if digits.length = 2 ∧ digits.head? = some '0' then (.zero, 2)
  else if digits.length = 1 ∧ gap = 1 then (.none, 1)
  else (.space, gap + digits.length)

/-- `t` is one or more spaces and one or two digits for the day `v`. -/
def Spells (t : Text) (v : Nat) (looks : DayPad × Nat) : Prop :=
  ∃ gap digits, t = List.replicate gap ' ' ++ digits ∧ 1 ≤ gap ∧
    (Decimal.Spells 1 digits v ∨ Decimal.Spells 2 digits v) ∧ looks = DayField.looks gap digits

/-- Of two digits the first is a zero exactly if they denote less than ten. -/
theorem head?_padded_two {v : Nat} (h : v < 100) :
    (Decimal.padded 2 v).head? = some '0' ↔ v < 10 := by
  have key : ∀ v < 100, (Decimal.padded 2 v).head? = some '0' ↔ v < 10 := by decide
  exact key v h

theorem looks_padded {d : DayField} (h : d.Shaped) :
    looks d.gap (Decimal.padded d.digits d.value) = (d.pad, d.width) := by
  obtain ⟨gap, digits, value⟩ := d
  obtain ⟨-, hdigits, hv⟩ := h
  dsimp only at hdigits hv
  have hlen := Decimal.length_padded (show 0 < digits by omega) hv
  unfold looks width pad
  dsimp only
  rw [hlen]
  rcases hdigits with rfl | rfl
  · by_cases hgap : gap = 1
    · simp [hgap]
    · simp [hgap]
  · have hhead := head?_padded_two hv
    by_cases hzero : value < 10
    · simp [hhead, hzero]
    · simp [hhead, hzero]

theorem spells_iff {t : Text} {v : Nat} {looks : DayPad × Nat} :
    Spells t v looks ↔
      ∃ d : DayField, d.Shaped ∧ t = d.text ∧ d.value = v ∧ (d.pad, d.width) = looks := by
  simp only [Spells, Decimal.spells_iff (show 0 < 1 by omega),
    Decimal.spells_iff (show 0 < 2 by omega)]
  constructor
  · intro h
    obtain ⟨gap, digits, ht, hgap, hdigits, hlooks⟩ := h
    obtain ⟨n, hn, hv, hpad⟩ : ∃ n, (n = 1 ∨ n = 2) ∧ v < 10 ^ n ∧ digits = Decimal.padded n v := by
      rcases hdigits with hone | htwo
      · exact ⟨1, .inl rfl, hone⟩
      · exact ⟨2, .inr rfl, htwo⟩
    have hshaped : DayField.Shaped ⟨gap, n, v⟩ := ⟨hgap, hn, hv⟩
    rw [hpad] at ht hlooks
    exact ⟨⟨gap, n, v⟩, hshaped, ht, rfl, (looks_padded hshaped).symm.trans hlooks.symm⟩
  · intro h
    obtain ⟨d, hd, ht, hv, hlooks⟩ := h
    refine ⟨d.gap, Decimal.padded d.digits d.value, ht, hd.1, ?_,
      hlooks.symm.trans (looks_padded hd).symm⟩
    obtain ⟨-, hdigits, hlt⟩ := hd
    rw [← hv]
    rcases hdigits with hone | htwo
    · rw [hone] at hlt ⊢
      exact .inl ⟨hlt, rfl⟩
    · rw [htwo] at hlt ⊢
      exact .inr ⟨hlt, rfl⟩

end DayField

namespace Stamp

/-- The grammar of stamps: a text that is one, the parts of the date that it shows, its looks. -/
inductive Spelled : Surface → Text → DateFields → Style → Prop where
  | ctime (weekday : Weekday) {month day yearValue : Nat} {dayText clockText year : Text}
      {looks : DayPad × Nat} {clock : ClockField} :
      1 ≤ month ∧ month ≤ 12 → DayField.Spells dayText day looks →
      ClockField.Spells clockText clock → Decimal.Spells 4 year yearValue →
      Spelled .ctime
        (weekday.name.toList ++ ' ' :: (monthName month ++ (dayText ++
          ' ' :: (clockText ++ ' ' :: year))))
        ⟨some weekday, some yearValue, month, day, clock.hour, clock.minute, clock.second, 0⟩
        ⟨.ctime, looks.1, looks.2, 0⟩
  | syslog {month day : Nat} {dayText blanks clockText : Text} {looks : DayPad × Nat}
      {clock : ClockField} :
      1 ≤ month ∧ month ≤ 12 → DayField.Spells dayText day looks →
      Text.IsBlanks blanks → ClockField.Spells clockText clock →
      Spelled .syslog (monthName month ++ (dayText ++ (blanks ++ clockText)))
        ⟨none, none, month, day, clock.hour, clock.minute, clock.second, 0⟩
        ⟨.syslog, looks.1, looks.2, 0⟩
  | iso {yearValue monthValue dayValue millisValue : Nat} {year month day clockText millis : Text}
      {clock : ClockField} :
      Decimal.Spells 4 year yearValue → Decimal.Spells 2 month monthValue →
      Decimal.Spells 2 day dayValue → ClockField.Spells clockText clock →
      Decimal.Spells 3 millis millisValue →
      Spelled .iso
        (year ++ '-' :: (month ++ '-' :: (day ++ ' ' :: (clockText ++ ',' :: millis))))
        ⟨none, some yearValue, monthValue, dayValue, clock.hour, clock.minute, clock.second,
          millisValue * 1000000⟩
        ⟨.iso, .zero, 2, 3⟩

/-- The texts of the well-shaped stamps are the spelled ones. -/
theorem spelled_iff {k : Surface} {p : Text} {f : DateFields} {style : Style} :
    Spelled k p f style ↔
      ∃ s : Stamp, s.surface = k ∧ s.Shaped ∧ s.text = p ∧ s.fields = f ∧ s.style = style := by
  constructor
  · intro h
    cases h with
    | @ctime weekday month _ yearValue _ _ _ _ clock hmonth hday hclock hyear =>
      obtain ⟨d, hd, rfl, rfl, rfl⟩ := DayField.spells_iff.mp hday
      obtain ⟨hc, rfl⟩ := ClockField.spells_iff.mp hclock
      obtain ⟨hy, rfl⟩ := (Decimal.spells_iff (by omega)).mp hyear
      exact ⟨.ctime weekday month d clock yearValue, rfl, ⟨hmonth, hd, hc, by omega, by omega⟩,
        by simp [text], rfl, rfl⟩
    | @syslog month _ _ blanks _ _ clock hmonth hday hblanks hclock =>
      obtain ⟨d, hd, rfl, rfl, rfl⟩ := DayField.spells_iff.mp hday
      obtain ⟨hc, rfl⟩ := ClockField.spells_iff.mp hclock
      exact ⟨.syslog month d blanks clock, rfl, ⟨hmonth, hd, hblanks, hc⟩, by simp [text], rfl, rfl⟩
    | @iso y m d f _ _ _ _ _ clock hyear hmonth hday hclock hmillis =>
      obtain ⟨hy, rfl⟩ := (Decimal.spells_iff (by omega)).mp hyear
      obtain ⟨hm, rfl⟩ := (Decimal.spells_iff (by omega)).mp hmonth
      obtain ⟨hd, rfl⟩ := (Decimal.spells_iff (by omega)).mp hday
      obtain ⟨hc, rfl⟩ := ClockField.spells_iff.mp hclock
      obtain ⟨hf, rfl⟩ := (Decimal.spells_iff (by omega)).mp hmillis
      exact ⟨.iso y m d clock f, rfl, ⟨⟨by omega, by omega⟩, hm, hd, hc, hf⟩, by simp [text], rfl,
        rfl⟩
  · intro h
    obtain ⟨s, rfl, hs, rfl, rfl, rfl⟩ := h
    cases s with
    | ctime weekday month day clock year =>
      obtain ⟨hmonth, hd, hc, hy0, hy9⟩ := hs
      obtain ⟨year, rfl⟩ := Int.eq_ofNat_of_zero_le hy0
      have hspelled := Spelled.ctime weekday hmonth
        (DayField.spells_iff.mpr ⟨day, hd, rfl, rfl, rfl⟩) (ClockField.spells_iff.mpr ⟨hc, rfl⟩)
        ((Decimal.spells_iff (n := 4) (v := year) (by omega)).mpr ⟨by omega, rfl⟩)
      simpa [surface, text, fields, style] using hspelled
    | syslog month day blanks clock =>
      obtain ⟨hmonth, hd, hb, hc⟩ := hs
      have hspelled := Spelled.syslog hmonth (DayField.spells_iff.mpr ⟨day, hd, rfl, rfl, rfl⟩) hb
        (ClockField.spells_iff.mpr ⟨hc, rfl⟩)
      simpa [surface, text, fields, style] using hspelled
    | iso year month day clock millis =>
      obtain ⟨⟨hy0, hy9⟩, hm, hd, hc, hf⟩ := hs
      obtain ⟨year, rfl⟩ := Int.eq_ofNat_of_zero_le hy0
      have hspelled := Spelled.iso
        ((Decimal.spells_iff (n := 4) (v := year) (by omega)).mpr ⟨by omega, rfl⟩)
        ((Decimal.spells_iff (by omega)).mpr ⟨hm, rfl⟩)
        ((Decimal.spells_iff (by omega)).mpr ⟨hd, rfl⟩) (ClockField.spells_iff.mpr ⟨hc, rfl⟩)
        ((Decimal.spells_iff (by omega)).mpr ⟨hf, rfl⟩)
      simpa [surface, text, fields, style] using hspelled

end Stamp

namespace Located

/-- From byte `n` on, `t` starts with a stamp that is spelled `p`. The three digits that end a date
in ISO form do not go on. -/
structure SpelledAt (k : Surface) (n : Nat) (t p : Text) (f : DateFields) (style : Style) :
    Prop where
  spelled : Stamp.Spelled k p f style
  place : ∃ lead rest, t = lead ++ (p ++ rest) ∧ lead.width = n ∧
    (k = .iso → ∀ c ∈ rest.head?, c.isDigit = false)

/-- What is spelled at a byte is the text of the stamp that is located there. -/
theorem spelledAt_iff {k : Surface} {n : Nat} {t p : Text} {f : DateFields} {style : Style} :
    SpelledAt k n t p f style ↔ ∃ m, at? k n t = some m ∧ m.stamp.text = p ∧
      m.stamp.fields = f ∧ m.stamp.style = style := by
  simp only [at?_eq_some_iff]
  constructor
  · intro h
    obtain ⟨s, hk, hs, htext, hfields, hstyle⟩ := Stamp.spelled_iff.mp h.spelled
    obtain ⟨lead, rest, ht, hw, hstop⟩ := h.place
    have hread : Stamp.read? k (s.text ++ rest) = some (s, rest) :=
      Stamp.read?_eq_some_iff.mpr
        ⟨hk, hs, rfl, fun hiso => (Option.any_eq_false _ _).mpr (hstop hiso)⟩
    exact ⟨⟨n, s⟩, ⟨rfl, lead, rest, htext ▸ ht, hw, hread⟩, htext, hfields, hstyle⟩
  · intro h
    obtain ⟨m, ⟨hstart, lead, rest, ht, hw, hread⟩, htext, hfields, hstyle⟩ := h
    obtain ⟨hk, hs, -, hstop⟩ := Stamp.read?_eq_some_iff.mp hread
    exact ⟨Stamp.spelled_iff.mpr ⟨m.stamp, hk, hs, htext, hfields, hstyle⟩, lead, rest,
      htext ▸ ht, hw.trans hstart, fun hiso => (Option.any_eq_false _ _).mp (hstop hiso)⟩

/-- A stamp is located at a byte exactly if one is spelled there. No second one is spelled at that
byte, and the one that is located ends where its spelling ends and has the parts and the looks that
the spelling shows. -/
theorem at?_spelled (k : Surface) (n : Nat) (t : Text) :
    ((∃ m, at? k n t = some m) ↔ ∃ p f style, SpelledAt k n t p f style) ∧
    (∀ p p' f f' style style', SpelledAt k n t p f style → SpelledAt k n t p' f' style' →
      p = p' ∧ f = f' ∧ style = style') ∧
    ∀ m p f style, at? k n t = some m → SpelledAt k n t p f style →
      m.start = n ∧ m.stop = n + p.width ∧ m.stamp.fields = f ∧ m.stamp.style = style := by
  refine ⟨?_, ?_, ?_⟩
  · constructor
    · intro h
      obtain ⟨m, hm⟩ := h
      exact ⟨_, _, _, spelledAt_iff.mpr ⟨m, hm, rfl, rfl, rfl⟩⟩
    · intro h
      obtain ⟨p, f, style, hp⟩ := h
      obtain ⟨m, hm, -⟩ := spelledAt_iff.mp hp
      exact ⟨m, hm⟩
  · intro p p' f f' style style' h h'
    obtain ⟨m, hm, rfl, rfl, rfl⟩ := spelledAt_iff.mp h
    obtain ⟨m', hm', rfl, rfl, rfl⟩ := spelledAt_iff.mp h'
    rw [hm] at hm'
    cases hm'
    exact ⟨rfl, rfl, rfl⟩
  · intro m p f style hm h
    obtain ⟨m', hm', rfl, rfl, rfl⟩ := spelledAt_iff.mp h
    rw [hm] at hm'
    cases hm'
    have hstart := (at?_eq_some_iff.mp hm).1
    exact ⟨hstart, by rw [stop, hstart], rfl, rfl⟩

/-- A day of one digit behind two spaces, a tab before the clock, and a letter of two bytes before
the stamp. -/
theorem at?_spelled_tab :
    let t := "é Mar  5 \t01:02:03,".toList
    let p := monthName 3 ++ ("  5".toList ++ (" \t".toList ++ "01:02:03".toList))
    let f : DateFields := ⟨none, none, 3, 5, 1, 2, 3, 0⟩
    let style : Style := ⟨.syslog, .space, 3, 0⟩
    SpelledAt .syslog 3 t p f style ∧ ∃ m, at? .syslog 3 t = some m ∧ m.start = 3 ∧
      m.stop = 19 ∧ m.stamp.fields = f ∧ m.stamp.style = style := by
  intro t p f style
  have hday : DayField.Spells "  5".toList 5 (.space, 3) :=
    ⟨2, ['5'], rfl, by decide, .inl ⟨rfl, by simp, rfl⟩, rfl⟩
  have hclock : ClockField.Spells "01:02:03".toList ⟨1, 2, 3⟩ :=
    ⟨"01".toList, "02".toList, "03".toList, rfl, ⟨rfl, by simp, rfl⟩, ⟨rfl, by simp, rfl⟩,
      ⟨rfl, by simp, rfl⟩⟩
  have hblanks : Text.IsBlanks " \t".toList := ⟨by simp, by simp [isBlank]⟩
  have hspelled : SpelledAt .syslog 3 t p f style :=
    ⟨.syslog ⟨by decide, by decide⟩ hday hblanks hclock, "é ".toList, [','], by decide, by decide,
      by simp⟩
  obtain ⟨hfound, -, hlooks⟩ := at?_spelled .syslog 3 t
  obtain ⟨m, hm⟩ := hfound.mpr ⟨p, f, style, hspelled⟩
  obtain ⟨hstart, hstop, hfields, hstyle⟩ := hlooks m p f style hm hspelled
  exact ⟨hspelled, m, hm, hstart, hstop, hfields, hstyle⟩

end Located

end LogShift
