import LogShift.Proofs.Batch.Normalize
import LogShift.Proofs.Calendar.Range

/-! How far a shift of a list of records gets. The newest timestamp moves onto the reference moment,
so that no other one can leave the calendar at its end; at its start one can, and the shift then
stops at the first record that would. -/
namespace LogShift

/-- The start of the calendar. -/
def Moment.first : Moment :=
  ⟨⟨minYear, 1, 1, by decide, by decide, by decide⟩, ⟨0, 0, by decide, by decide, by decide⟩⟩

theorem Moment.first_instant : first.instant = yearStart minYear := by decide +kernel

theorem Moment.first_le (t : Moment) : first.le t = true := by
  have hday := t.date.daysBeforeYear_lt_dayNumber
  have hyear := daysBeforeYear_mono t.date.year_mem.1
  have hfirst : first.date.dayNumber = daysBeforeYear minYear + 1 := by decide +kernel
  have hseconds : first.clock.seconds = 0 := rfl
  have hnanos : first.clock.nanos = 0 := rfl
  rw [le_iff]
  omega

/-- `r'` is `r` with its timestamp moved by exactly `delta`, and with all else as it was. -/
structure Record.MovedBy (delta : Span) (r r' : Record) : Prop where
  isLeap : r'.timestamp.isLeap = false
  instant_eq : r'.timestamp.instant = r.timestamp.instant + delta.nanos
  kept : r'.withTimestamp r.timestamp = r

/-- Moved by `delta`, the timestamp would lie before the start of the calendar. -/
def Record.FallsOut (delta : Span) (r : Record) : Prop :=
  r.timestamp.instant + delta.nanos < Moment.first.instant

instance (delta : Span) (r : Record) : Decidable (r.FallsOut delta) :=
  inferInstanceAs (Decidable (_ < _))

theorem Record.withTimestamp_withTimestamp (r : Record) (t u : Moment) :
    (r.withTimestamp t).withTimestamp u = r.withTimestamp u := by cases r <;> rfl

namespace Shift

open Record (MovedBy FallsOut)

variable {s : Shift} {r : Record}

theorem apply_of_stays (hleap : r.timestamp.isLeap = false)
    (hend : r.timestamp.instant + s.delta.nanos < Moment.yearStart (maxYear + 1))
    (hstays : ¬FallsOut s.delta r) :
    ∃ r', s.apply r = .ok r' ∧ MovedBy s.delta r r' := by
  rw [FallsOut, Moment.first_instant, not_lt] at hstays
  obtain ⟨t, ht⟩ := (Moment.exists_add?_iff hleap).mpr ⟨hstays, hend⟩
  obtain ⟨hinstant, hmoved⟩ := Moment.add?_eq_some hleap ht
  refine ⟨r.withTimestamp t, by rw [apply, ht], ?_, ?_, ?_⟩
  · rw [Record.timestamp_withTimestamp]
    exact hmoved
  · rw [Record.timestamp_withTimestamp]
    exact hinstant
  · rw [Record.withTimestamp_withTimestamp, Record.withTimestamp_timestamp]

theorem apply_of_fallsOut (hleap : r.timestamp.isLeap = false) (hfalls : FallsOut s.delta r) :
    s.apply r = .error (.shiftOverflow r.seq r.timestamp s.delta) := by
  have hnone : r.timestamp.add? s.delta = none := by
    rw [Option.eq_none_iff_forall_not_mem]
    intro t ht
    obtain ⟨hstart, _⟩ := (Moment.exists_add?_iff hleap).mp ⟨t, ht⟩
    rw [FallsOut, Moment.first_instant] at hfalls
    omega
  rw [apply, hnone]

theorem applyAll_cons_ok {r' : Record} (h : s.apply r = .ok r') (rs : List Record) :
    s.applyAll (r :: rs) = (r' :: (s.applyAll rs).1, (s.applyAll rs).2) := by
  rw [applyAll, h]

theorem applyAll_cons_error {e : Failure} (h : s.apply r = .error e) (rs : List Record) :
    s.applyAll (r :: rs) = (r :: rs, some e) := by
  rw [applyAll, h]

/-- Records that stay in the calendar are moved, and the rest is taken up behind them. -/
theorem applyAll_append {before : List Record}
    (hleap : ∀ r ∈ before, r.timestamp.isLeap = false)
    (hend : ∀ r ∈ before,
      r.timestamp.instant + s.delta.nanos < Moment.yearStart (maxYear + 1))
    (hstay : ∀ r ∈ before, ¬FallsOut s.delta r) (rs : List Record) :
    ∃ moved, List.Forall₂ (MovedBy s.delta) before moved ∧
      s.applyAll (before ++ rs) = (moved ++ (s.applyAll rs).1, (s.applyAll rs).2) := by
  induction before with
  | nil => exact ⟨[], .nil, rfl⟩
  | cons r before ih =>
    obtain ⟨hleap₀, hleap⟩ := List.forall_mem_cons.mp hleap
    obtain ⟨hend₀, hend⟩ := List.forall_mem_cons.mp hend
    obtain ⟨hstay₀, hstay⟩ := List.forall_mem_cons.mp hstay
    obtain ⟨r', happly, hmoved⟩ := apply_of_stays hleap₀ hend₀ hstay₀
    obtain ⟨moved, hall, heq⟩ := ih hleap hend hstay
    refine ⟨r' :: moved, .cons hmoved hall, ?_⟩
    rw [List.cons_append, applyAll_cons_ok happly, heq, List.cons_append]

section Plan

variable {format : LogFormat} {now : Moment} {records : List Record}

/-- What shifting the records by `s` comes to when none falls out of the calendar. -/
def Completes (format : LogFormat) (now : Moment) (records : List Record) (s : Shift) : Prop :=
  ∃ moved, shiftAll format now records = (moved, .ok s) ∧
    List.Forall₂ (MovedBy s.delta) records moved

/-- The shift by `s` ends at the first record that falls out: those before it are moved, it and
those behind it stay. -/
def Stops (format : LogFormat) (now : Moment) (records : List Record) (s : Shift) : Prop :=
  ∃ before r after moved, records = before ++ r :: after ∧
    (∀ r' ∈ before, ¬FallsOut s.delta r') ∧ FallsOut s.delta r ∧
    shiftAll format now records =
      (moved ++ r :: after, .error (.shiftOverflow r.seq r.timestamp s.delta)) ∧
    List.Forall₂ (MovedBy s.delta) before moved

theorem shiftAll_eq (hplan : plan format now records = .ok s) :
    shiftAll format now records = ((s.applyAll records).1,
      match (s.applyAll records).2 with
      | none => .ok s
      | some e => .error e) := by
  rw [shiftAll, hplan]
  dsimp only
  cases s.applyAll records with
  | mk moved failure => cases failure <;> rfl

theorem completes_of_stay (hplan : plan format now records = .ok s)
    (hleap : ∀ r ∈ records, r.timestamp.isLeap = false)
    (hend : ∀ r ∈ records,
      r.timestamp.instant + s.delta.nanos < Moment.yearStart (maxYear + 1))
    (hstay : ∀ r ∈ records, ¬FallsOut s.delta r) : Completes format now records s := by
  obtain ⟨moved, hmoved, happly⟩ := applyAll_append hleap hend hstay []
  rw [List.append_nil, applyAll, List.append_nil] at happly
  refine ⟨moved, ?_, hmoved⟩
  rw [shiftAll_eq hplan, happly]

theorem stops_of_fallsOut (hplan : plan format now records = .ok s)
    (hleap : ∀ r ∈ records, r.timestamp.isLeap = false)
    (hend : ∀ r ∈ records,
      r.timestamp.instant + s.delta.nanos < Moment.yearStart (maxYear + 1))
    {r : Record} (hr : r ∈ records) (hfalls : FallsOut s.delta r) :
    Stops format now records s := by
  obtain ⟨first, hfirst⟩ : ∃ first, records.find? (FallsOut s.delta ·) = some first :=
    Option.isSome_iff_exists.mp (List.find?_isSome.mpr ⟨r, hr, decide_eq_true hfalls⟩)
  obtain ⟨hout, before, after, rfl, hbefore⟩ := List.find?_eq_some_iff_append.mp hfirst
  rw [decide_eq_true_eq] at hout
  have hstay : ∀ b ∈ before, ¬FallsOut s.delta b := by
    intro b hb
    simpa using hbefore b hb
  have hsub : ∀ b ∈ before, b ∈ before ++ first :: after := fun b => List.mem_append_left _
  obtain ⟨moved, hmoved, happly⟩ := applyAll_append (fun b hb => hleap b (hsub b hb))
    (fun b hb => hend b (hsub b hb)) hstay (first :: after)
  have herror := apply_of_fallsOut (hleap first List.mem_append_cons_self) hout
  rw [applyAll_cons_error herror after] at happly
  refine ⟨before, first, after, moved, rfl, hstay, hout, ?_, hmoved⟩
  rw [shiftAll_eq hplan, happly]

end Plan

/-- The newest timestamp moves onto the reference moment, and no other one beyond it. All records
are moved by that one span if none falls out of the calendar at its start; otherwise the shift stops
at the first that does. -/
theorem shiftAll_prefix (format : LogFormat) (now : Moment) {records : List Record}
    (hne : records ≠ []) (hleap : ∀ r ∈ records, r.timestamp.isLeap = false) :
    (∀ t, Moment.first.le t = true) ∧
    ∃ newest, ((∃ r ∈ records, r.timestamp = newest) ∧
        ∀ r ∈ records, r.timestamp.le newest = true) ∧
      let s : Shift := ⟨newest, format.truncate now, (format.truncate now).since newest⟩
      s.delta.nanos = s.now.instant - newest.instant ∧
      (∀ r ∈ records, r.timestamp.instant + s.delta.nanos ≤ s.now.instant) ∧
      ((∃ s', (shiftAll format now records).2 = .ok s') ↔ ∀ r ∈ records, ¬FallsOut s.delta r) ∧
      ((∀ r ∈ records, ¬FallsOut s.delta r) → Completes format now records s) ∧
      ((∃ r ∈ records, FallsOut s.delta r) → Stops format now records s) := by
  obtain ⟨newest, hnewest⟩ : ∃ newest, newest? records = some newest := by
    cases records with
    | nil => exact absurd rfl hne
    | cons r rs => exact ⟨_, rfl⟩
  refine ⟨Moment.first_le, newest, newest?_spec hnewest, ?_⟩
  intro s
  have hplan : plan format now records = .ok s := by
    rw [plan, hnewest]
    rfl
  obtain ⟨⟨top, htop, rfl⟩, hmax⟩ := newest?_eq_some hleap hnewest
  have htarget : s.now.isLeap = false := format.truncate_isLeap now
  have hdelta : s.delta.nanos = s.now.instant - top.timestamp.instant :=
    congrArg Span.nanos (Moment.since_eq (hleap top htop) htarget)
  have hle : ∀ r ∈ records, r.timestamp.instant + s.delta.nanos ≤ s.now.instant := by
    intro r hr
    have := hmax r hr
    omega
  have hend : ∀ r ∈ records,
      r.timestamp.instant + s.delta.nanos < Moment.yearStart (maxYear + 1) := by
    intro r hr
    have hlast := Moment.instant_lt_yearStart htarget
    have hyear := Moment.yearStart_mono (Int.add_le_add_right s.now.date.year_mem.2 1)
    exact Int.lt_of_le_of_lt (hle r hr) (Int.lt_of_lt_of_le hlast hyear)
  have hcomplete := completes_of_stay hplan hleap hend
  refine ⟨hdelta, hle, ⟨?_, ?_⟩, hcomplete, ?_⟩
  · intro hok r hr hfalls
    obtain ⟨_, _, _, _, _, _, _, heq, _⟩ := stops_of_fallsOut hplan hleap hend hr hfalls
    rw [heq] at hok
    obtain ⟨_, hok⟩ := hok
    cases hok
  · intro hstay
    obtain ⟨moved, heq, _⟩ := hcomplete hstay
    exact ⟨s, congrArg Prod.snd heq⟩
  · intro hsome
    obtain ⟨r, hr, hfalls⟩ := hsome
    exact stops_of_fallsOut hplan hleap hend hr hfalls

/-- The newest timestamp is the last of the calendar, so that the first of the calendar falls out;
only the record before it is moved. -/
theorem shiftAll_prefix_bothEnds :
    let now : Moment := ⟨⟨2016, 12, 31, by decide, by decide, by decide⟩,
      ⟨86399, 1500000000, by decide, by decide, by decide⟩⟩
    let leapDay : Moment := ⟨⟨2000, 2, 29, by decide, by decide, by decide⟩,
      ⟨0, 1, by decide, by decide, by decide⟩⟩
    let last : Moment := ⟨⟨maxYear, 12, 31, by decide, by decide, by decide⟩,
      ⟨86399, 999999999, by decide, by decide, by decide⟩⟩
    let records : List Record := [.hadoop ⟨4, leapDay, [], [], [], [], []⟩,
      .hadoop ⟨5, .first, [], [], [], [], []⟩, .hadoop ⟨6, last, [], [], [], [], []⟩]
    records ≠ [] ∧ (∀ r ∈ records, r.timestamp.isLeap = false) ∧
      Stops .hadoop now records (between last (LogFormat.hadoop.truncate now)) := by
  intro now leapDay last records
  have hne : records ≠ [] := List.cons_ne_nil _ _
  have hleap : ∀ r ∈ records, r.timestamp.isLeap = false := by decide +kernel
  have hlast : ∀ r ∈ records, r.timestamp.le last = true := by decide +kernel
  refine ⟨hne, hleap, ?_⟩
  obtain ⟨-, newest, ⟨⟨r, hr, hnewest⟩, hmax⟩, -, -, -, -, hstops⟩ :=
    shiftAll_prefix .hadoop now hne hleap
  obtain rfl : last = newest := by
    have hle := hmax (.hadoop ⟨6, last, [], [], [], [], []⟩) (by decide +kernel)
    exact Moment.le_antisymm hle (hnewest ▸ hlast r hr)
  exact hstops ⟨.hadoop ⟨5, .first, [], [], [], [], []⟩, by decide +kernel, by decide +kernel⟩

end Shift

end LogShift
