import LogShift.Proofs.Calendar.Moment

/-! The range of the calendar: exactly the days between its first and its last year have a date, and
exactly the instants between them a moment. Within a range of 31 days a year ends only from December
to January. -/
namespace LogShift

namespace Date

/-- What is left of the days once the cycles are counted off is less than a year. -/
theorem yearAndOffset_lt (n : Int) : (yearAndOffset n).2 < daysInYear (yearAndOffset n).1 := by
  unfold yearAndOffset
  dsimp only
  have hr : ((n - 1) % 146097).toNat < 146097 := by omega
  generalize ((n - 1) % 146097).toNat = r at hr
  generalize (n - 1) / 146097 = cycle
  have hc3 : min (r / 36524) 3 ≤ 3 := by omega
  have hq : r - min (r / 36524) 3 * 36524 < 36524 ∨
      min (r / 36524) 3 = 3 ∧ r - min (r / 36524) 3 * 36524 = 36524 := by omega
  generalize min (r / 36524) 3 = century at hc3 hq
  generalize r - century * 36524 = q at hq
  have hs3 : min (q % 1461 / 365) 3 ≤ 3 := by omega
  have ho : q % 1461 - min (q % 1461 / 365) 3 * 365 < 365 ∨
      min (q % 1461 / 365) 3 = 3 ∧ q % 1461 = 1460 := by omega
  generalize min (q % 1461 / 365) 3 = single at hs3 ho
  unfold daysInYear
  split
  · omega
  · rename_i hleap
    rw [isLeapYear_iff] at hleap
    -- The year of a day 366 is the fourth of its group, and the last group of a century ends in
    -- one only when the century ends the cycle.
    omega

theorem dayNumber_yearAndOffset (n : Int) :
    daysBeforeYear (yearAndOffset n).1 < n ∧ n ≤ daysBeforeYear ((yearAndOffset n).1 + 1) := by
  have hn := daysBeforeYear_yearAndOffset n
  have ho := yearAndOffset_lt n
  rw [daysBeforeYear_add_one]
  omega

theorem monthAndDay_mem (y : Int) {o m : Nat} (ho : 1 ≤ o) (h : o ≤ daysBeforeMonth y (m + 1))
    (hm : 1 ≤ m) :
    (1 ≤ (monthAndDay y o m).1 ∧ (monthAndDay y o m).1 ≤ m) ∧
      1 ≤ (monthAndDay y o m).2 ∧
      (monthAndDay y o m).2 ≤ daysInMonth y (monthAndDay y o m).1 := by
  induction m with
  | zero => omega
  | succ m ih =>
    rw [monthAndDay]
    by_cases hlt : daysBeforeMonth y (m + 1) < o
    · rw [daysBeforeMonth_add_one y hm] at h
      rw [if_pos hlt]
      dsimp only
      omega
    · have hpos : 1 ≤ m := by
        cases m with
        | zero =>
          simp only [daysBeforeMonth] at hlt
          omega
        | succ m => omega
      rw [if_neg hlt]
      obtain ⟨hmonth, hday⟩ := ih (by omega) hpos
      exact ⟨⟨hmonth.1, by omega⟩, hday⟩

theorem daysBeforeYear_lt_dayNumber (d : Date) : daysBeforeYear d.year < d.dayNumber := by
  have := d.yearDay_pos
  rw [dayNumber_eq]
  omega

theorem dayNumber_le_daysBeforeYear (d : Date) : d.dayNumber ≤ daysBeforeYear (d.year + 1) := by
  have := d.yearDay_le_daysInYear
  rw [dayNumber_eq, daysBeforeYear_add_one]
  omega

/-- The days that have a date. -/
theorem exists_ofDayNumber?_iff {n : Int} :
    (∃ d, ofDayNumber? n = some d) ↔
      daysBeforeYear minYear < n ∧ n ≤ daysBeforeYear (maxYear + 1) := by
  constructor
  · intro h
    obtain ⟨d, hd⟩ := h
    have hn := dayNumber_of_ofDayNumber? hd
    have hlo := daysBeforeYear_mono d.year_mem.1
    have hhi := daysBeforeYear_mono (show d.year + 1 ≤ maxYear + 1 by have := d.year_mem; omega)
    have := d.daysBeforeYear_lt_dayNumber
    have := d.dayNumber_le_daysBeforeYear
    omega
  · intro h
    obtain ⟨hlo, hhi⟩ := dayNumber_yearAndOffset n
    have ho := yearAndOffset_lt n
    have hmin : minYear ≤ (yearAndOffset n).1 := by
      by_cases hlt : (yearAndOffset n).1 + 1 ≤ minYear
      · have := daysBeforeYear_mono hlt
        omega
      · omega
    have hmax : (yearAndOffset n).1 ≤ maxYear := by
      by_cases hgt : maxYear + 1 ≤ (yearAndOffset n).1
      · have := daysBeforeYear_mono hgt
        omega
      · omega
    have hwithin : (yearAndOffset n).2 + 1 ≤ daysBeforeMonth (yearAndOffset n).1 (12 + 1) := by
      rw [daysBeforeMonth_thirteen]
      omega
    obtain ⟨hmonth, hday⟩ := monthAndDay_mem (yearAndOffset n).1 (by omega) hwithin (by omega)
    exact ⟨⟨_, _, _, ⟨hmin, hmax⟩, hmonth, hday⟩, ofYmd?_eq_some_iff.mpr ⟨rfl, rfl, rfl⟩⟩

theorem december_of_yearDay {d : Date} (h : daysInYear d.year < d.yearDay + 31) :
    d.month = 12 := by
  by_cases hm : d.month + 1 ≤ 12
  · have hle := d.yearDay_le
    have hmono := daysBeforeMonth_mono d.year hm
    have hlast := daysBeforeMonth_add_one d.year (show 1 ≤ 12 by omega)
    rw [daysBeforeMonth_thirteen] at hlast
    have h31 : daysInMonth d.year 12 = 31 := rfl
    omega
  · have := d.month_mem
    omega

theorem january_of_yearDay {d : Date} (h : d.yearDay ≤ 31) : d.month = 1 := by
  by_cases hm : 2 ≤ d.month
  · have hmono := daysBeforeMonth_mono d.year hm
    have h31 : daysBeforeMonth d.year 2 = 31 := rfl
    have hday := d.day_mem
    unfold yearDay at h
    omega
  · have := d.month_mem
    omega

theorem year_le_of_dayNumber_le {a b : Date} (h : a.dayNumber ≤ b.dayNumber) : a.year ≤ b.year := by
  by_cases hlt : b.year < a.year
  · have := dayNumber_lt_of_year_lt hlt
    omega
  · omega

/-- Two days at most 31 apart lie in one year in the order of their months, or in the December of
one year and the January of the next. -/
theorem year_turn {a b : Date} (hle : a.dayNumber ≤ b.dayNumber)
    (hnear : b.dayNumber ≤ a.dayNumber + 31) :
    b.year = a.year ∧ a.month ≤ b.month ∨ b.year = a.year + 1 ∧ a.month = 12 ∧ b.month = 1 := by
  have hyear := year_le_of_dayNumber_le hle
  by_cases hsame : b.year = a.year
  · refine Or.inl ⟨hsame, ?_⟩
    by_cases hlt : b.month < a.month
    · have := dayNumber_lt_of_month_lt hsame hlt
      omega
    · omega
  · have hnext := daysBeforeYear_add_one a.year
    have hturn := daysBeforeYear_mono (show a.year + 1 ≤ b.year by omega)
    have ha := a.dayNumber_eq
    have hb := b.dayNumber_eq
    have hpos := b.yearDay_pos
    have hend := a.yearDay_le_daysInYear
    have hb1 : b.year = a.year + 1 := by
      by_cases hskip : a.year + 1 + 1 ≤ b.year
      · have hmono := daysBeforeYear_mono hskip
        have hlong := daysBeforeYear_add_one (a.year + 1)
        have h365 : 365 ≤ daysInYear (a.year + 1) := by
          unfold daysInYear
          split <;> omega
        omega
      · omega
    rw [hb1] at hb
    exact Or.inr ⟨hb1, december_of_yearDay (by omega), january_of_yearDay (by omega)⟩

end Date

namespace Moment

/-- The first instant of year `y`. -/
def yearStart (y : Int) : Int :=
  (daysBeforeYear y + 1) * secondsPerDay * nanosPerSecond

theorem yearStart_eq (y : Int) : yearStart y = (daysBeforeYear y + 1) * 86400 * 1000000000 := rfl

theorem yearStart_mono {y z : Int} (h : y ≤ z) : yearStart y ≤ yearStart z := by
  have := daysBeforeYear_mono h
  rw [yearStart_eq, yearStart_eq]
  omega

theorem yearStart_le_instant (t : Moment) : yearStart t.year ≤ t.instant := by
  have := t.date.daysBeforeYear_lt_dayNumber
  rw [yearStart_eq, instant_eq]
  unfold year
  omega

theorem instant_lt_yearStart {t : Moment} (h : t.isLeap = false) :
    t.instant < yearStart (t.year + 1) := by
  have hday := t.date.dayNumber_le_daysBeforeYear
  have hs := t.clock.seconds_lt
  have hn := isLeap_eq_false_iff.mp h
  unfold secondsPerDay at hs
  unfold nanosPerSecond at hn
  rw [yearStart_eq, instant_eq]
  unfold year
  omega

/-- The instants that have a moment. -/
theorem exists_ofInstant?_iff {n : Int} :
    (∃ t, ofInstant? n = some t) ↔ yearStart minYear ≤ n ∧ n < yearStart (maxYear + 1) := by
  have hclock : ∃ c, Clock.ofParts? (n / nanosPerSecond % secondsPerDay).toNat
      (n % nanosPerSecond).toNat = some c := by
    have hs : (n / nanosPerSecond % secondsPerDay).toNat < secondsPerDay := by
      unfold secondsPerDay
      omega
    have hn : (n % nanosPerSecond).toNat < nanosPerSecond := by
      unfold nanosPerSecond
      omega
    have hroom : (n % nanosPerSecond).toNat < 2 * nanosPerSecond := by
      omega
    exact ⟨⟨_, _, hs, hroom, fun hl => absurd hn (Nat.not_lt.mpr hl)⟩,
      Clock.ofParts?_eq_some_iff.mpr ⟨rfl, rfl⟩⟩
  have hday : yearStart minYear ≤ n ∧ n < yearStart (maxYear + 1) ↔
      daysBeforeYear minYear < n / nanosPerSecond / secondsPerDay ∧
        n / nanosPerSecond / secondsPerDay ≤ daysBeforeYear (maxYear + 1) := by
    rw [yearStart_eq, yearStart_eq]
    unfold nanosPerSecond secondsPerDay
    omega
  rw [hday, ← Date.exists_ofDayNumber?_iff]
  simp only [ofInstant?, bind, Option.bind_eq_some_iff, pure, Option.some.injEq]
  constructor
  · intro h
    obtain ⟨t, d, hd, -⟩ := h
    exact ⟨d, hd⟩
  · intro h
    obtain ⟨d, hd⟩ := h
    obtain ⟨c, hc⟩ := hclock
    exact ⟨⟨d, c⟩, d, hd, c, hc, rfl⟩

/-- A moment outside leap seconds can be moved exactly within the years of the calendar. -/
theorem exists_add?_iff {t : Moment} (ht : t.isLeap = false) {s : Span} :
    (∃ u, t.add? s = some u) ↔
      yearStart minYear ≤ t.instant + s.nanos ∧ t.instant + s.nanos < yearStart (maxYear + 1) := by
  have hadd : t.add? s = ofInstant? (t.instant + s.nanos) := by
    unfold add?
    rw [ht, if_neg (by decide)]
  rw [hadd]
  exact exists_ofInstant?_iff

/-- A moved moment is the one at the moved instant. -/
theorem add?_eq_some_iff {t u : Moment} {s : Span} (ht : t.isLeap = false) :
    t.add? s = some u ↔ u.isLeap = false ∧ u.instant = t.instant + s.nanos := by
  constructor
  · intro h
    obtain ⟨hinstant, hleap⟩ := add?_eq_some ht h
    exact ⟨hleap, hinstant⟩
  · intro h
    obtain ⟨hleap, hinstant⟩ := h
    have hyear := u.date.year_mem
    have hlo := yearStart_mono hyear.1
    have hhi := yearStart_mono (show u.year + 1 ≤ maxYear + 1 by unfold year; omega)
    have hfirst := u.yearStart_le_instant
    have hlast := instant_lt_yearStart hleap
    unfold year at hhi hfirst hlast
    obtain ⟨u', hu'⟩ := (exists_add?_iff ht (s := s)).mpr (by omega)
    obtain ⟨hinstant', hleap'⟩ := add?_eq_some ht hu'
    rw [hu', instant_injective hleap' hleap (hinstant'.trans hinstant.symm)]

theorem add?_zero {t : Moment} (ht : t.isLeap = false) : t.add? ⟨0⟩ = some t :=
  (add?_eq_some_iff ht).mpr ⟨ht, (Int.add_zero _).symm⟩

end Moment

end LogShift
