import LogShift.Format
import LogShift.Proofs.Calendar.Date

/-! Moments outside leap seconds are their instants: shifts add to them, differences subtract them,
and the order of moments is theirs. -/
namespace LogShift

namespace Clock

theorem eq_of_parts {a b : Clock} (hs : a.seconds = b.seconds) (hn : a.nanos = b.nanos) :
    a = b := by
  cases a
  cases b
  cases hs
  cases hn
  rfl

theorem ofParts?_eq_some_iff {s n : Nat} {c : Clock} :
    ofParts? s n = some c ↔ c.seconds = s ∧ c.nanos = n := by
  unfold ofParts?
  constructor
  · intro h
    split at h
    · split at h
      · split at h
        · cases h
          exact ⟨rfl, rfl⟩
        · cases h
      · cases h
    · cases h
  · rintro ⟨rfl, rfl⟩
    rw [dif_pos c.seconds_lt, dif_pos c.nanos_lt, dif_pos c.leap]

/-- Exactly the clocks outside leap seconds are read from their parts. -/
theorem ofHms?_eq_some_iff {h m s n : Nat} {c : Clock} :
    ofHms? h m s n = some c ↔ c.nanos < nanosPerSecond ∧ c.hour = h ∧ c.minute = m ∧
      c.second = s ∧ c.nanos = n := by
  have hday := c.seconds_lt
  unfold secondsPerDay at hday
  unfold ofHms? hour minute second
  rw [Option.ite_none_right_eq_some, ofParts?_eq_some_iff]
  constructor
  · rintro ⟨⟨hh, hm, hs, hn⟩, hsec, rfl⟩
    rw [Nat.div_eq_of_lt hn]
    exact ⟨hn, by omega, by omega, by omega, rfl⟩
  · rintro ⟨hn, rfl, rfl, rfl, rfl⟩
    rw [Nat.div_eq_of_lt hn]
    exact ⟨⟨by omega, by omega, by omega, hn⟩, by omega, rfl⟩

theorem subsecond_lt (c : Clock) : c.subsecond < nanosPerSecond :=
  Nat.mod_lt _ (by decide)

theorem truncate_nanos_lt (unit : Nat) (c : Clock) : (c.truncate unit).nanos < nanosPerSecond := by
  have := c.subsecond_lt
  show c.subsecond - c.subsecond % unit < nanosPerSecond
  omega

theorem truncate_nanos_mod (unit : Nat) (c : Clock) : (c.truncate unit).nanos % unit = 0 := by
  show (c.subsecond - c.subsecond % unit) % unit = 0
  exact Nat.sub_mod_eq_zero_of_mod_eq (by rw [Nat.mod_mod])

theorem truncate_second_nanos (c : Clock) : (c.truncate nanosPerSecond).nanos = 0 := by
  show c.subsecond - c.subsecond % nanosPerSecond = 0
  rw [Nat.mod_eq_of_lt c.subsecond_lt, Nat.sub_self]

theorem truncate_eq_self {unit : Nat} {c : Clock} (hl : c.nanos < nanosPerSecond)
    (hu : c.nanos % unit = 0) : c.truncate unit = c := by
  have hsub : c.subsecond = c.nanos := Nat.mod_eq_of_lt hl
  refine eq_of_parts (show (c.truncate unit).seconds = c.seconds from rfl) ?_
  show c.subsecond - c.subsecond % unit = c.nanos
  rw [hsub, hu, Nat.sub_zero]

end Clock

namespace Moment

theorem isLeap_eq_false_iff {t : Moment} : t.isLeap = false ↔ t.clock.nanos < nanosPerSecond := by
  simp [isLeap]

theorem eq_of_parts {s t : Moment} (hd : s.date.dayNumber = t.date.dayNumber)
    (hs : s.clock.seconds = t.clock.seconds) (hn : s.clock.nanos = t.clock.nanos) : s = t := by
  cases s
  cases t
  cases Date.dayNumber_injective hd
  cases Clock.eq_of_parts hs hn
  rfl

theorem instant_eq (t : Moment) :
    t.instant = (t.date.dayNumber * 86400 + t.clock.seconds) * 1000000000 + t.clock.nanos := rfl

theorem instant_injective {s t : Moment} (hs : s.isLeap = false) (ht : t.isLeap = false)
    (h : s.instant = t.instant) : s = t := by
  rw [isLeap_eq_false_iff, nanosPerSecond] at hs ht
  have hss := s.clock.seconds_lt
  have hts := t.clock.seconds_lt
  unfold secondsPerDay at hss hts
  rw [instant_eq, instant_eq] at h
  exact eq_of_parts (by omega) (by omega) (by omega)

theorem le_iff {s t : Moment} :
    s.le t = true ↔ s.date.dayNumber < t.date.dayNumber ∨
      s.date.dayNumber = t.date.dayNumber ∧ (s.clock.seconds < t.clock.seconds ∨
        s.clock.seconds = t.clock.seconds ∧ s.clock.nanos ≤ t.clock.nanos) := by
  simp only [le, Bool.or_eq_true, Bool.and_eq_true, decide_eq_true_eq, beq_iff_eq]

theorem le_iff_instant_le {s t : Moment} (hs : s.isLeap = false) (ht : t.isLeap = false) :
    s.le t = true ↔ s.instant ≤ t.instant := by
  rw [isLeap_eq_false_iff, nanosPerSecond] at hs ht
  have hss := s.clock.seconds_lt
  have hts := t.clock.seconds_lt
  unfold secondsPerDay at hss hts
  rw [instant_eq, instant_eq, le_iff]
  omega

theorem ofInstant?_eq_some {n : Int} {t : Moment} (h : ofInstant? n = some t) :
    t.instant = n ∧ t.isLeap = false := by
  simp only [ofInstant?, bind, Option.bind_eq_some_iff, pure, Option.some.injEq] at h
  obtain ⟨date, hdate, clock, hclock, rfl⟩ := h
  have hd := Date.dayNumber_of_ofDayNumber? hdate
  obtain ⟨hs, hn⟩ := Clock.ofParts?_eq_some_iff.mp hclock
  rw [isLeap_eq_false_iff, instant_eq]
  unfold nanosPerSecond secondsPerDay at *
  dsimp only
  constructor
  · rw [hd, hs, hn]
    omega
  · rw [hn]
    omega

theorem add?_eq_some {t u : Moment} {s : Span} (ht : t.isLeap = false) (h : t.add? s = some u) :
    u.instant = t.instant + s.nanos ∧ u.isLeap = false := by
  unfold add? at h
  rw [ht, if_neg (by decide)] at h
  exact ofInstant?_eq_some h

theorem since_eq {s t : Moment} (hs : s.isLeap = false) (ht : t.isLeap = false) :
    t.since s = ⟨t.instant - s.instant⟩ := by
  simp [since, hs, ht]

theorem le_refl (t : Moment) : t.le t = true := by
  rw [le_iff]
  omega

theorem le_trans {s t u : Moment} (hst : s.le t = true) (htu : t.le u = true) :
    s.le u = true := by
  rw [le_iff] at *
  omega

theorem le_antisymm {s t : Moment} (hst : s.le t = true) (hts : t.le s = true) : s = t := by
  rw [le_iff] at hst hts
  exact eq_of_parts (by omega) (by omega) (by omega)

theorem le_later_left (s t : Moment) : s.le (s.later t) = true := by
  unfold later
  split
  · assumption
  · exact le_refl s

theorem le_later_right (s t : Moment) : t.le (s.later t) = true := by
  unfold later
  split
  · exact le_refl t
  · rename_i h
    rw [le_iff] at *
    omega

theorem later_eq_or (s t : Moment) : s.later t = s ∨ s.later t = t := by
  unfold later
  split
  · exact Or.inr rfl
  · exact Or.inl rfl

end Moment

namespace LogFormat

/-- The least span that a line of the format can show, in nanoseconds. -/
def unit (f : LogFormat) : Nat := Nat.pow 10 (9 - f.subsecondDigits)

theorem unit_dvd (f : LogFormat) : f.unit ∣ nanosPerSecond := by
  cases f <;> decide

theorem truncate_isLeap (f : LogFormat) (t : Moment) : (f.truncate t).isLeap = false :=
  Moment.isLeap_eq_false_iff.mpr (Clock.truncate_nanos_lt _ _)

/-- A moment that a line of the format can show. -/
def Shows (f : LogFormat) (t : Moment) : Prop :=
  t.isLeap = false ∧ t.clock.nanos % f.unit = 0

theorem shows_truncate (f : LogFormat) (t : Moment) : f.Shows (f.truncate t) :=
  ⟨f.truncate_isLeap t, Clock.truncate_nanos_mod _ _⟩

theorem Shows.unit_dvd_instant {f : LogFormat} {t : Moment} (h : f.Shows t) :
    (f.unit : Int) ∣ t.instant := by
  unfold Moment.instant
  apply Int.dvd_add
  · exact Int.dvd_mul_of_dvd_right (Int.natCast_dvd_natCast.mpr f.unit_dvd)
  · exact Int.natCast_dvd_natCast.mpr (Nat.dvd_of_mod_eq_zero h.2)

theorem shows_of_unit_dvd_instant {f : LogFormat} {t : Moment} (hl : t.isLeap = false)
    (h : (f.unit : Int) ∣ t.instant) : f.Shows t := by
  refine ⟨hl, ?_⟩
  unfold Moment.instant at h
  have hsec : (f.unit : Int) ∣
      (t.date.dayNumber * secondsPerDay + t.clock.seconds) * nanosPerSecond :=
    Int.dvd_mul_of_dvd_right (Int.natCast_dvd_natCast.mpr f.unit_dvd)
  exact Nat.mod_eq_zero_of_dvd (Int.natCast_dvd_natCast.mp ((Int.dvd_add_right hsec).mp h))

/-- A moment moved by whole units can still be shown. -/
theorem Shows.add? {f : LogFormat} {t u : Moment} (h : f.Shows t) {s : Span}
    (hs : (f.unit : Int) ∣ s.nanos) (hadd : t.add? s = some u) : f.Shows u := by
  obtain ⟨hinstant, hleap⟩ := Moment.add?_eq_some h.1 hadd
  apply shows_of_unit_dvd_instant hleap
  rw [hinstant]
  exact Int.dvd_add h.unit_dvd_instant hs

end LogFormat

end LogShift
