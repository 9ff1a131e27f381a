import LogShift.Proofs.Line.Reread

/-! A moment put in the place of a stamp twice. The moment that a stamp shows changes nothing but a
wrong weekday, and of two moments put in a place of fixed width the second one counts. -/
namespace LogShift

namespace DayField

theorem place_value_self {d : DayField} (h : d.Shaped) : d.place d.value = d := by
  obtain ⟨gap, digits, value⟩ := d
  obtain ⟨hgap, hdigits, hv⟩ := h
  dsimp only at hgap hdigits hv
  rcases hdigits with rfl | rfl
  · have hneeded : (if value < 10 then 1 else 2) = 1 := if_pos hv
    by_cases hbare : gap = 1
    · simp [place, pad, hneeded, hbare]
    · simp [place, pad, hneeded, hbare]
  · by_cases hzero : value < 10
    · simp [place, pad, hzero]
    · simp [place, pad, hzero]

/-- A field padded with spaces stays one. -/
theorem pad_place {d : DayField} (h : d.Shaped) (hp : d.pad = .space) (v : Nat) :
    (d.place v).pad = .space := by
  have hroom := room_of_space h hp
  unfold place
  rw [hp]
  by_cases hv : v < 10
  · have hwide : d.gap + d.digits - 1 ≠ 1 := by omega
    simp [pad, hv, hwide]
  · simp [pad, hv]

theorem place_place {d : DayField} (h : d.Shaped) (hp : d.pad = .space) (v w : Nat) :
    (d.place v).place w = d.place w := by
  have hroom := room_of_space h hp
  have htotal : (d.place v).gap + (d.place v).digits = d.gap + d.digits := by
    unfold place
    rw [hp]
    dsimp only
    split <;> omega
  have hagain := pad_place h hp v
  unfold place at hagain htotal ⊢
  rw [hagain, hp]
  rw [hp] at htotal
  dsimp only at htotal ⊢
  rw [htotal]

end DayField

theorem DateFields.resolve_of_checked {f : DateFields} {context : Option Int} {t : Moment}
    (h : f.resolve context true = .ok t) :
    f.resolve context false = .ok t ∧ ∀ w, f.weekday = some w → w = t.date.weekday := by
  unfold resolve at h ⊢
  split at h
  · cases h
  · split at h
    · cases h
    · split at h
      · cases h
      · rename_i date _ clock _
        cases hw : f.weekday with
        | none =>
          rw [hw] at h
          exact ⟨h, fun w hsome => by cases hsome⟩
        | some found =>
          rw [hw] at h
          dsimp only at h
          split at h
          · cases h
          · rename_i hsame
            cases h
            refine ⟨rfl, ?_⟩
            intro w hsome
            cases hsome
            simpa using hsame

namespace Stamp

variable {s : Stamp} {v : Moment}

theorem surface_style (s : Stamp) : s.style.surface = s.surface := by
  cases s <;> rfl

/-- The stamp with another weekday, if it names one. -/
def withWeekday (w : Weekday) : Stamp → Stamp
  | ctime _ month day clock year => ctime w month day clock year
  | syslog month day blanks clock => syslog month day blanks clock
  | iso year month day clock millis => iso year month day clock millis

theorem withWeekday_of_ne_ctime (h : s.surface ≠ .ctime) (w : Weekday) : s.withWeekday w = s := by
  cases s with
  | ctime => exact absurd rfl h
  | syslog => rfl
  | iso => rfl

/-- Full dates that differ in the weekday differ in their first three letters. -/
theorem text_withWeekday (h : s.surface = .ctime) :
    ∃ (w : Weekday) (r : Text), s.text = w.name.toList ++ r ∧
      ∀ w', (s.withWeekday w').text = w'.name.toList ++ r := by
  cases s with
  | ctime w m d c y =>
    refine ⟨w, ' ' :: (monthName m ++ (d.text ++ ' ' :: (c.text ++
      ' ' :: Decimal.paddedInteger 4 y))), ?_, ?_⟩
    · simp [text]
    · intro w'
      simp [text, withWeekday]
  | syslog => cases h
  | iso => cases h

/-- The moment that a stamp shows, put in its place, changes nothing but its weekday. -/
theorem place_of_resolve (hs : s.Shaped) {context : Option Int}
    (h : s.fields.resolve context false = .ok v) : s.place v = s.withWeekday v.date.weekday := by
  obtain ⟨hyear, hmonth, hday, hclock⟩ := DateFields.resolve_eq_ok h
  obtain ⟨hlt, hhour, hminute, hsecond, hnanos⟩ := Clock.ofHms?_eq_some_iff.mp hclock
  have hfield : ClockField.ofClock v.clock = ⟨s.fields.hour, s.fields.minute, s.fields.second⟩ := by
    rw [ClockField.ofClock, hhour, hminute, hsecond]
  cases s with
  | ctime w m d c y =>
    have hy : y = v.year := Option.some.inj hyear
    have hd : v.date.day = d.value := hday.symm
    rw [place, withWeekday, ← hmonth, hfield, hd, DayField.place_value_self hs.2.1, ← hy]
    rfl
  | syslog m d b c =>
    have hd : v.date.day = d.value := hday.symm
    rw [place, withWeekday, ← hmonth, hfield, hd, DayField.place_value_self hs.2.1]
    rfl
  | iso y m d c f =>
    have hy : y = v.year := Option.some.inj hyear
    have hd : v.date.day = d := hday.symm
    have hf : v.clock.subsecond / 1000000 = f := by
      have hsub : v.clock.subsecond = f * 1000000 := (Nat.mod_eq_of_lt hlt).trans hnanos
      rw [hsub]
      omega
    rw [place, withWeekday, ← hmonth, hfield, hd, hf, ← hy]
    rfl

/-- A stamp that names the right weekday is the text of its moment. -/
theorem place_of_checked (hs : s.Shaped) {context : Option Int}
    (h : s.fields.resolve context true = .ok v) : s.place v = s := by
  obtain ⟨hunchecked, hweekday⟩ := DateFields.resolve_of_checked h
  rw [place_of_resolve hs hunchecked]
  cases s with
  | ctime w m d c y =>
    have hw : w = v.date.weekday := hweekday w rfl
    rw [withWeekday, hw]
  | syslog => rfl
  | iso => rfl

/-- The surfaces and paddings of fixed width. -/
theorem pad_ne_none (hpad : s.surface = .iso ∨ s.style.pad = .space) : s.style.pad ≠ .none := by
  intro hnone
  rcases hpad with hiso | hspace
  · cases s with
    | iso => cases hnone
    | ctime => cases hiso
    | syslog => cases hiso
  · rw [hnone] at hspace
    cases hspace

theorem place_place (hs : s.Shaped) (hpad : s.surface = .iso ∨ s.style.pad = .space)
    (v w : Moment) : (s.place v).place w = s.place w := by
  cases s with
  | ctime wd m d c y =>
    have hp : d.pad = .space := by
      cases hpad with
      | inl hiso => cases hiso
      | inr hspace => exact hspace
    rw [place, place, place, DayField.place_place hs.2.1 hp]
  | syslog m d b c =>
    have hp : d.pad = .space := by
      cases hpad with
      | inl hiso => cases hiso
      | inr hspace => exact hspace
    rw [place, place, place, DayField.place_place hs.2.1 hp]
  | iso => rfl

end Stamp

end LogShift
