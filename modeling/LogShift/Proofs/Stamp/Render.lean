import LogShift.Proofs.Calendar.Moment
import LogShift.Proofs.Stamp.Search

/-! A moment put in the place of a stamp is read back from there, and the places of the text do not
move unless the day needs one more digit. -/
namespace LogShift

namespace Text

theorem width_padded {w v : Nat} (hw : 0 < w) (hv : v < 10 ^ w) :
    width (Decimal.padded w v) = w := by
  rw [width_eq_length, Decimal.length_padded hw hv]
  intro c hc
  have hd := Decimal.isDigit_of_mem_padded hc
  rw [← Decimal.digitChar_digit hd]
  have key : ∀ d < 10, (Nat.digitChar d).utf8Size = 1 := by decide
  exact key _ (Decimal.digit_lt hd)

theorem width_monthName {m : Nat} (h : 1 ≤ m ∧ m ≤ 12) : width (monthName m) = 3 := by
  obtain ⟨h1, h12⟩ := h
  interval_cases m <;> rfl

theorem width_weekdayName (w : Weekday) : width w.name.toList = 3 := by
  cases w <;> rfl

end Text

namespace DayField

theorem width_text {d : DayField} (h : d.Shaped) : d.text.width = d.gap + d.digits := by
  obtain ⟨-, hdigits, hv⟩ := h
  rw [text, Text.width_append, Text.width_replicate_space, Text.width_padded (by omega) hv]

theorem width_le (d : DayField) : d.width ≤ d.gap + d.digits := by
  unfold width
  cases d.pad with
  | space => exact Nat.le_refl _
  | zero => exact Nat.le_add_left _ _
  | none => exact Nat.le_add_left _ _

theorem place_value (d : DayField) (v : Nat) : (d.place v).value = v := by
  unfold place
  cases d.pad <;> rfl

/-- A field padded with spaces has at least three places, so one space is left in it. -/
theorem room_of_space {d : DayField} (h : d.Shaped) (hp : d.pad = .space) :
    3 ≤ d.gap + d.digits := by
  obtain ⟨hgap, hdigits, -⟩ := h
  unfold pad at hp
  split at hp
  · cases hp
  · split at hp
    · cases hp
    · omega

theorem place_shaped {d : DayField} (h : d.Shaped) {v : Nat} (hv : v < 100) :
    (d.place v).Shaped := by
  have hspace := room_of_space h
  obtain ⟨hgap, hdigits, -⟩ := h
  have hneeded : v < 10 ^ (if v < 10 then 1 else 2) := by
    split <;> omega
  have htwo : (if v < 10 then 1 else 2) = 1 ∨ (if v < 10 then 1 else 2) = 2 := by
    split <;> omega
  unfold place
  cases hp : d.pad with
  | zero => exact ⟨hgap, Or.inr rfl, show v < 10 ^ 2 by omega⟩
  | none => exact ⟨hgap, htwo, hneeded⟩
  | space =>
    have hroom := hspace hp
    refine ⟨?_, htwo, hneeded⟩
    show 1 ≤ d.gap + d.digits - (if v < 10 then 1 else 2)
    omega

/-- A padded day keeps its places; one without padding takes as many as it has digits. -/
theorem place_room {d : DayField} (h : d.Shaped) {v : Nat} (hv : v < 100) :
    (d.pad ≠ .none → (d.place v).gap + (d.place v).digits = d.gap + d.digits) ∧
      (d.pad = .none → (d.place v).gap + (d.place v).digits + 1 =
        d.gap + d.digits + (Decimal.natural v).length) := by
  obtain ⟨hgap, hdigits, -⟩ := h
  rw [Decimal.length_natural hv]
  unfold place
  cases hp : d.pad with
  | zero =>
    refine ⟨fun _ => ?_, by simp⟩
    have : d.digits = 2 := by
      unfold pad at hp
      split at hp
      · omega
      · split at hp <;> cases hp
    dsimp only
    omega
  | none =>
    refine ⟨by simp, fun _ => ?_⟩
    have : d.digits = 1 := by
      unfold pad at hp
      split at hp
      · cases hp
      · split at hp
        · omega
        · cases hp
    dsimp only
    omega
  | space =>
    refine ⟨fun _ => ?_, by simp⟩
    dsimp only
    split <;> omega

end DayField

theorem ClockField.width_text {c : ClockField} (h : c.Shaped) : c.text.width = 8 := by
  obtain ⟨hh, hm, hs⟩ := h
  have hcolon : ':'.utf8Size = 1 := rfl
  simp only [text, Text.width_append, Text.width_cons, hcolon,
    Text.width_padded (show 0 < 2 by omega) hh, Text.width_padded (show 0 < 2 by omega) hm,
    Text.width_padded (show 0 < 2 by omega) hs]

theorem ClockField.ofClock_shaped (c : Clock) : (ofClock c).Shaped := by
  have hs := c.seconds_lt
  have hn := c.nanos_lt
  unfold secondsPerDay at hs
  unfold nanosPerSecond at hn
  refine ⟨?_, ?_, ?_⟩
  · show c.seconds / 3600 < 100
    omega
  · show c.seconds / 60 % 60 < 100
    omega
  · show c.seconds % 60 + c.nanos / 1000000000 < 100
    omega

namespace Surface

/-- The least span that a stamp can show, in nanoseconds. -/
def unit : Surface → Nat
  | iso => 1000000
  | ctime | syslog => nanosPerSecond

/-- The moment cut down to what a stamp can show. -/
def cut (k : Surface) (v : Moment) : Moment :=
  ⟨v.date, v.clock.truncate k.unit⟩

end Surface

namespace Stamp

theorem width_text {s : Stamp} (h : s.Shaped) :
    s.text.width = match s with
      | ctime _ _ day _ _ => 21 + (day.gap + day.digits)
      | syslog _ day blanks _ => 11 + (day.gap + day.digits) + blanks.width
      | iso .. => 23 := by
  have hspace : ' '.utf8Size = 1 := rfl
  have hdash : '-'.utf8Size = 1 := rfl
  have hcomma : ','.utf8Size = 1 := rfl
  cases s with
  | ctime w m d c y =>
    obtain ⟨hm, hd, hc, hy0, hy9⟩ := h
    obtain ⟨y, rfl⟩ := Int.eq_ofNat_of_zero_le hy0
    simp only [text, Text.width_append, Text.width_cons, hspace, Text.width_weekdayName,
      Text.width_monthName hm, DayField.width_text hd, ClockField.width_text hc,
      Decimal.paddedInteger_natCast,
      Text.width_padded (show 0 < 4 by omega) (show y < 10 ^ 4 by omega)]
    omega
  | syslog m d b c =>
    obtain ⟨hm, hd, -, hc⟩ := h
    simp only [text, Text.width_append, Text.width_monthName hm, DayField.width_text hd,
      ClockField.width_text hc]
    omega
  | iso y m d c f =>
    obtain ⟨⟨hy0, hy9⟩, hm, hd, hc, hf⟩ := h
    obtain ⟨y, rfl⟩ := Int.eq_ofNat_of_zero_le hy0
    simp only [text, Text.width_append, Text.width_cons, hspace, hdash, hcomma,
      ClockField.width_text hc, Decimal.paddedInteger_natCast,
      Text.width_padded (show 0 < 4 by omega) (show y < 10 ^ 4 by omega),
      Text.width_padded (show 0 < 2 by omega) hm, Text.width_padded (show 0 < 2 by omega) hd,
      Text.width_padded (show 0 < 3 by omega) hf]

variable {s : Stamp} {v : Moment}

/-- Besides its day a stamp has a month, a blank and a clock at least. -/
theorem dayWidth_add_le (h : s.Shaped) : s.style.dayWidth + 12 ≤ s.text.width := by
  rw [width_text h]
  cases s with
  | ctime w m d c y =>
    have hd := d.width_le
    show d.width + 12 ≤ 21 + (d.gap + d.digits)
    omega
  | syslog m d b c =>
    have hd := d.width_le
    have hb : b.width ≠ 0 := fun h0 => h.2.2.1.1 (Text.width_eq_zero_iff.mp h0)
    show d.width + 12 ≤ 11 + (d.gap + d.digits) + b.width
    omega
  | iso y m d c f => exact (by decide : 2 + 12 ≤ 23)

theorem place_surface (s : Stamp) (v : Moment) : (s.place v).surface = s.surface := by
  cases s <;> rfl

theorem place_shaped (h : s.Shaped)
    (hy : s.surface.hasYear = true → 0 ≤ v.year ∧ v.year ≤ 9999) : (s.place v).Shaped := by
  have hday : v.date.day < 100 := by have := v.date.day_le; omega
  have hmonth : v.month < 100 := by have := v.date.month_mem; unfold Moment.month; omega
  have hclock := ClockField.ofClock_shaped v.clock
  cases s with
  | ctime w m d c y => exact ⟨v.date.month_mem, DayField.place_shaped h.2.1 hday, hclock, hy rfl⟩
  | syslog m d b c => exact ⟨v.date.month_mem, DayField.place_shaped h.2.1 hday, h.2.2.1, hclock⟩
  | iso y m d c f =>
    have hsub := v.clock.subsecond_lt
    unfold nanosPerSecond at hsub
    exact ⟨hy rfl, hmonth, hday, hclock, by omega⟩

/-- What stands behind a stamp stays behind the stamp put in its place. -/
theorem read?_render {k : Surface} {t rest : Text} (h : read? k t = some (s, rest))
    (hy : k.hasYear = true → 0 ≤ v.year ∧ v.year ≤ 9999) :
    read? k (s.render v ++ rest) = some (s.place v, rest) := by
  obtain ⟨rfl, hs, -, hiso⟩ := read?_eq_some_iff.mp h
  exact read?_eq_some_iff.mpr ⟨place_surface s v, place_shaped hs hy, rfl, hiso⟩

theorem resolve_place (hl : v.isLeap = false) {context : Option Int}
    (hc : s.surface.hasYear = true ∨ context = some v.year) (checked : Bool) :
    (s.place v).fields.resolve context checked = .ok (s.surface.cut v) := by
  rw [Moment.isLeap_eq_false_iff] at hl
  have hdate : Date.ofYmd? v.year v.month v.date.day = some v.date :=
    Date.ofYmd?_eq_some_iff.mpr ⟨rfl, rfl, rfl⟩
  have hsecond : v.clock.second = (v.clock.truncate s.surface.unit).second := by
    have := Clock.truncate_nanos_lt s.surface.unit v.clock
    unfold Clock.second
    rw [Nat.div_eq_of_lt hl, Nat.div_eq_of_lt this]
    rfl
  have hclock : Clock.ofHms? v.clock.hour v.clock.minute v.clock.second
      (v.clock.truncate s.surface.unit).nanos = some (v.clock.truncate s.surface.unit) :=
    Clock.ofHms?_eq_some_iff.mpr
      ⟨Clock.truncate_nanos_lt _ _, rfl, rfl, hsecond.symm, rfl⟩
  cases s with
  | ctime w m d c y =>
    change Clock.ofHms? _ _ _ (v.clock.truncate nanosPerSecond).nanos = _ at hclock
    rw [Clock.truncate_second_nanos] at hclock
    simp only [DateFields.resolve, place, fields, ClockField.ofClock, DayField.place_value,
      Option.some_or, hdate, hclock, bne_self_eq_false, Bool.and_false, Bool.false_eq_true,
      if_false]
    rfl
  | syslog m d b c =>
    change Clock.ofHms? _ _ _ (v.clock.truncate nanosPerSecond).nanos = _ at hclock
    rw [Clock.truncate_second_nanos] at hclock
    obtain rfl : context = some v.year := hc.resolve_left Bool.false_ne_true
    simp only [DateFields.resolve, place, fields, ClockField.ofClock, DayField.place_value,
      Option.none_or, hdate, hclock]
    rfl
  | iso y m d c f =>
    have hz : (v.clock.truncate 1000000).nanos = v.clock.subsecond / 1000000 * 1000000 := by
      show v.clock.subsecond - v.clock.subsecond % 1000000 = _
      omega
    change Clock.ofHms? _ _ _ (v.clock.truncate 1000000).nanos = _ at hclock
    rw [hz] at hclock
    simp only [DateFields.resolve, place, fields, ClockField.ofClock, Option.some_or, hdate, hclock]
    rfl

theorem width_render (h : s.Shaped)
    (hy : s.surface.hasYear = true → 0 ≤ v.year ∧ v.year ≤ 9999) :
    (s.style.pad ≠ .none → (s.render v).width = s.text.width) ∧
      (s.style.pad = .none → (s.render v).width + 1 =
        s.text.width + (Decimal.natural v.date.day).length) := by
  have hday : v.date.day < 100 := by have := v.date.day_le; omega
  rw [render, width_text (place_shaped h hy), width_text h]
  cases s with
  | ctime w m d c y =>
    obtain ⟨hkeep, hgrow⟩ := DayField.place_room h.2.1 hday
    refine ⟨fun hp => ?_, fun hp => ?_⟩
    · have := hkeep hp
      simp only [place]
      omega
    · have := hgrow hp
      simp only [place]
      omega
  | syslog m d b c =>
    obtain ⟨hkeep, hgrow⟩ := DayField.place_room h.2.1 hday
    refine ⟨fun hp => ?_, fun hp => ?_⟩
    · have := hkeep hp
      simp only [place]
      omega
    · have := hgrow hp
      simp only [place]
      omega
  | iso y m d c f => exact ⟨fun _ => rfl, by simp [style]⟩

end Stamp

namespace Located

/-- A moment put in the place of a stamp is read there again: at the same byte, up to the end of the
new text, and with the moment itself as far as the stamp can show it, on its weekday. Padded days
keep the length of the text. -/
theorem at?_render {k : Surface} {n : Nat} {t : Text} {m : Located} (h : at? k n t = some m)
    (v : Moment) (hl : v.isLeap = false)
    (hy : k.hasYear = true → 0 ≤ v.year ∧ v.year ≤ 9999) :
    (∃ m', at? k m.start (t.takeBytes m.start ++ m.stamp.render v ++ t.dropBytes m.stop) = some m' ∧
      m'.stop = m.start + (m.stamp.render v).width ∧
      m'.stamp.fields.resolve (some v.year) true = .ok (k.cut v)) ∧
    (m.stamp.style.pad ≠ .none → (m.stamp.render v).width = m.stop - m.start) ∧
    (m.stamp.style.pad = .none → (m.stamp.render v).width + 1 =
      m.stop - m.start + (Decimal.natural v.date.day).length) := by
  obtain ⟨-, hm⟩ := at?_eq_some_iff.mp h
  have hk := hm.surface_eq
  have hs := hm.shaped
  obtain ⟨lead, rest, rfl, hw, hread⟩ := hm
  have hstop : m.stop = (lead ++ m.stamp.text).width := by rw [stop, Text.width_append, hw]
  have hlen : m.stop - m.start = m.stamp.text.width := by unfold stop; omega
  have hnew : (lead ++ (m.stamp.text ++ rest)).takeBytes m.start ++ m.stamp.render v ++
      (lead ++ (m.stamp.text ++ rest)).dropBytes m.stop = lead ++ (m.stamp.render v ++ rest) := by
    rw [← hw, Text.takeBytes_width_append, hstop, ← List.append_assoc lead,
      Text.dropBytes_width_append, List.append_assoc]
  rw [hnew, hlen]
  refine ⟨⟨⟨m.start, m.stamp.place v⟩, ?_, rfl, ?_⟩, Stamp.width_render hs (hk ▸ hy)⟩
  · exact at?_eq_some_iff.mpr ⟨rfl, lead, rest, rfl, hw, Stamp.read?_render hread hy⟩
  · exact hk ▸ Stamp.resolve_place hl (Or.inr rfl) true

/-- The day without padding grows from `4` to `29`. -/
theorem at?_render_leapDay :
    let t : Text := "[Mon Nov 4 18:36:18 2005]".toList
    let m : Located := ⟨1, .ctime .mon 11 ⟨1, 1, 4⟩ ⟨18, 36, 18⟩ 2005⟩
    let v : Moment := ⟨⟨2024, 2, 29, by decide, by decide, by decide⟩,
      ⟨86399, 500000000, by decide, by decide, by decide⟩⟩
    at? .ctime 1 t = some m ∧
      t.takeBytes m.start ++ m.stamp.render v ++ t.dropBytes m.stop =
        "[Thu Feb 29 23:59:59 2024]".toList ∧
      ∃ m', at? .ctime m.start (t.takeBytes m.start ++ m.stamp.render v ++ t.dropBytes m.stop) =
          some m' ∧
        m'.stop = m.start + (m.stamp.render v).width ∧
        m'.stamp.fields.resolve (some v.year) true = .ok (Surface.ctime.cut v) := by
  intro t m v
  have h : at? .ctime 1 t = some m := by decide
  exact ⟨h, by decide, (at?_render h v (by decide) (by decide)).1⟩

end Located

end LogShift
