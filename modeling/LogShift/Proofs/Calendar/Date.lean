import LogShift.Calendar.Date

/-! The numbering of days: it tells all dates apart, and a date found from its number has it. -/
namespace LogShift

def daysInYear (y : Int) : Nat :=
  if isLeapYear y then 366 else 365

theorem isLeapYear_iff {y : Int} :
    isLeapYear y = true ↔ y % 4 = 0 ∧ (y % 100 ≠ 0 ∨ y % 400 = 0) := by
  simp [isLeapYear]

theorem daysBeforeYear_add_one (y : Int) :
    daysBeforeYear (y + 1) = daysBeforeYear y + daysInYear y := by
  unfold daysBeforeYear daysInYear
  split
  · rename_i h
    rw [isLeapYear_iff] at h
    omega
  · rename_i h
    rw [isLeapYear_iff] at h
    omega

theorem daysBeforeYear_mono {y z : Int} (h : y ≤ z) : daysBeforeYear y ≤ daysBeforeYear z := by
  unfold daysBeforeYear
  omega

theorem daysBeforeMonth_add_one (y : Int) {m : Nat} (h : 1 ≤ m) :
    daysBeforeMonth y (m + 1) = daysBeforeMonth y m + daysInMonth y m := by
  obtain ⟨n, rfl⟩ : ∃ n, m = n + 1 := ⟨m - 1, by omega⟩
  rfl

theorem daysBeforeMonth_mono (y : Int) {m n : Nat} (h : m ≤ n) :
    daysBeforeMonth y m ≤ daysBeforeMonth y n := by
  induction h with
  | refl => exact Nat.le_refl _
  | @step n h ih =>
    cases n with
    | zero => simpa [daysBeforeMonth] using ih
    | succ n =>
      rw [Nat.succ_eq_add_one, daysBeforeMonth_add_one y (by omega)]
      omega

theorem daysBeforeMonth_thirteen (y : Int) : daysBeforeMonth y 13 = daysInYear y := by
  unfold daysInYear
  by_cases h : isLeapYear y = true <;> simp [daysBeforeMonth, daysInMonth, h]

theorem daysInMonth_le (y : Int) (m : Nat) : daysInMonth y m ≤ 31 := by
  unfold daysInMonth
  split
  · split <;> omega
  · omega
  · omega
  · omega
  · omega
  · omega

namespace Date

theorem day_le (d : Date) : d.day ≤ 31 :=
  Nat.le_trans d.day_mem.2 (daysInMonth_le _ _)

theorem ofYmd?_eq_some_iff {y : Int} {m d : Nat} {date : Date} :
    ofYmd? y m d = some date ↔ date.year = y ∧ date.month = m ∧ date.day = d := by
  unfold ofYmd?
  constructor
  · intro h
    split at h
    · split at h
      · split at h
        · cases h
          exact ⟨rfl, rfl, rfl⟩
        · cases h
      · cases h
    · cases h
  · rintro ⟨rfl, rfl, rfl⟩
    rw [dif_pos date.year_mem, dif_pos date.month_mem, dif_pos date.day_mem]

/-- The day within its year, counted from 1. -/
def yearDay (d : Date) : Nat :=
  daysBeforeMonth d.year d.month + d.day

theorem yearDay_pos (d : Date) : 0 < d.yearDay := by
  have := d.day_mem
  unfold yearDay
  omega

theorem yearDay_le (d : Date) : d.yearDay ≤ daysBeforeMonth d.year (d.month + 1) := by
  have := d.day_mem
  rw [daysBeforeMonth_add_one d.year d.month_mem.1]
  unfold yearDay
  omega

theorem yearDay_le_daysInYear (d : Date) : d.yearDay ≤ daysInYear d.year := by
  have h := d.yearDay_le
  have hm := daysBeforeMonth_mono d.year (show d.month + 1 ≤ 13 by have := d.month_mem; omega)
  rw [daysBeforeMonth_thirteen] at hm
  omega

theorem dayNumber_eq (d : Date) : d.dayNumber = daysBeforeYear d.year + d.yearDay := by
  simp [dayNumber, yearDay, Int.add_assoc]

theorem dayNumber_lt_of_year_lt {a b : Date} (h : a.year < b.year) :
    a.dayNumber < b.dayNumber := by
  have hy := daysBeforeYear_mono (show a.year + 1 ≤ b.year by omega)
  have ha := a.yearDay_le_daysInYear
  have hb := b.yearDay_pos
  rw [daysBeforeYear_add_one] at hy
  rw [dayNumber_eq, dayNumber_eq]
  omega

theorem dayNumber_lt_of_month_lt {a b : Date} (hy : a.year = b.year) (h : a.month < b.month) :
    a.dayNumber < b.dayNumber := by
  have hm := daysBeforeMonth_mono a.year (show a.month + 1 ≤ b.month by omega)
  have ha := a.yearDay_le
  have hb := b.day_mem.1
  rw [dayNumber_eq, dayNumber_eq, ← hy]
  unfold yearDay at *
  rw [← hy]
  omega

theorem dayNumber_injective {a b : Date} (h : a.dayNumber = b.dayNumber) : a = b := by
  have hy : a.year = b.year := by
    rcases Int.lt_trichotomy a.year b.year with hlt | heq | hgt
    · have := dayNumber_lt_of_year_lt hlt
      omega
    · exact heq
    · have := dayNumber_lt_of_year_lt hgt
      omega
  have hm : a.month = b.month := by
    rcases Nat.lt_trichotomy a.month b.month with hlt | heq | hgt
    · have := dayNumber_lt_of_month_lt hy hlt
      omega
    · exact heq
    · have := dayNumber_lt_of_month_lt hy.symm hgt
      omega
  have hd : a.day = b.day := by
    rw [dayNumber, dayNumber, hy, hm] at h
    omega
  exact Option.some.inj ((ofYmd?_eq_some_iff.mpr ⟨hy, hm, hd⟩).symm.trans
    (ofYmd?_eq_some_iff.mpr ⟨rfl, rfl, rfl⟩))

theorem daysBeforeYear_of_cycles (cycle : Int) {century quad single : Nat} (hc : century ≤ 3)
    (hq : quad ≤ 24) (hs : single ≤ 3) :
    daysBeforeYear (400 * cycle + 100 * century + 4 * quad + single + 1) =
      146097 * cycle + 36524 * century + 1461 * quad + 365 * single := by
  unfold daysBeforeYear
  omega

/-- Counting off the cycles loses no day. -/
theorem daysBeforeYear_yearAndOffset (n : Int) :
    daysBeforeYear (yearAndOffset n).1 + (yearAndOffset n).2 + 1 = n := by
  unfold yearAndOffset
  dsimp only
  have hn : n - 1 = 146097 * ((n - 1) / 146097) + ((n - 1) % 146097).toNat := by omega
  have hr : ((n - 1) % 146097).toNat < 146097 := by omega
  generalize ((n - 1) % 146097).toNat = r at hn hr
  generalize (n - 1) / 146097 = cycle at hn
  have hc : r - min (r / 36524) 3 * 36524 ≤ 36524 := by omega
  have hc' : r = min (r / 36524) 3 * 36524 + (r - min (r / 36524) 3 * 36524) := by omega
  have hc3 : min (r / 36524) 3 ≤ 3 := by omega
  generalize min (r / 36524) 3 = century at hc hc' hc3
  generalize r - century * 36524 = q at hc hc'
  have hs3 : min (q % 1461 / 365) 3 ≤ 3 := by omega
  have hs : q % 1461 =
      min (q % 1461 / 365) 3 * 365 + (q % 1461 - min (q % 1461 / 365) 3 * 365) := by
    omega
  rw [daysBeforeYear_of_cycles cycle hc3 (by omega) hs3]
  omega

theorem daysBeforeMonth_monthAndDay (y : Int) (o m : Nat) :
    daysBeforeMonth y (monthAndDay y o m).1 + (monthAndDay y o m).2 = o := by
  induction m with
  | zero => simp [monthAndDay, daysBeforeMonth]
  | succ m ih =>
    rw [monthAndDay]
    split
    · dsimp only
      omega
    · exact ih

theorem dayNumber_of_ofDayNumber? {n : Int} {d : Date} (h : ofDayNumber? n = some d) :
    d.dayNumber = n := by
  have hn := daysBeforeYear_yearAndOffset n
  have ho := daysBeforeMonth_monthAndDay (yearAndOffset n).1 ((yearAndOffset n).2 + 1) 12
  generalize he : (yearAndOffset n).1 = y at hn ho
  generalize hb : (yearAndOffset n).2 = before at hn ho
  have h' : ofYmd? y (monthAndDay y (before + 1) 12).1 (monthAndDay y (before + 1) 12).2 =
      some d := by
    rw [← he, ← hb]
    exact h
  obtain ⟨hy, hm, hd⟩ := ofYmd?_eq_some_iff.mp h'
  rw [dayNumber, hy, hm, hd]
  omega

end Date

end LogShift
