import LogShift.Proofs.Batch.Account
import LogShift.Proofs.Batch.Normalize
import LogShift.Proofs.Batch.Years
import LogShift.Proofs.Calendar.Range

/-! A batch with a record is always delivered: the years of its lines and of the reference moment
leave room for every shift. -/
namespace LogShift

namespace Moment

/-- No moment from the year 0 on leaves the calendar when a later one moves to a year of four
digits. -/
theorem exists_add?_since {t newest now : Moment} (ht : t.isLeap = false)
    (hnewest : newest.isLeap = false) (hnow : now.isLeap = false) (hyear : 0 ≤ t.year)
    (hle : t.instant ≤ newest.instant) (hmin : 1 ≤ now.year) (hmax : now.year ≤ 9999) :
    ∃ u, t.add? (now.since newest) = some u := by
  rw [exists_add?_iff ht, since_eq hnewest hnow]
  dsimp only
  have hnowEnd := instant_lt_yearStart hnow
  have hceiling : yearStart (now.year + 1) ≤ yearStart (maxYear + 1) :=
    yearStart_mono (by unfold maxYear; omega)
  have hnewestEnd := instant_lt_yearStart hnewest
  have hend : yearStart (newest.year + 1) ≤ yearStart (maxYear + 1) :=
    yearStart_mono (Int.add_le_add_right newest.date.year_mem.2 1)
  have hfrom := t.yearStart_le_instant
  have hzero := yearStart_mono hyear
  have hnowFrom := now.yearStart_le_instant
  have hone := yearStart_mono hmin
  -- The calendar reaches one year further down than up, counted from the year 0.
  have hroom : yearStart minYear ≤ yearStart 0 + yearStart 1 - yearStart (maxYear + 1) := by
    decide +kernel
  omega

end Moment

theorem Stamp.Shaped.year_nonneg {s : Stamp} (h : s.Shaped) {y : Int}
    (hy : s.fields.year = some y) : 0 ≤ y := by
  cases s with
  | ctime weekday month day clock year =>
    cases hy
    exact h.2.2.2.1
  | syslog month day blanks clock => cases hy
  | iso year month day clock millis =>
    cases hy
    exact h.1.1

theorem Shift.newest?_eq_none {rs : List Record} (h : newest? rs = none) : rs = [] := by
  cases rs with
  | nil => rfl
  | cons r rs => cases h

namespace Normalize

theorem moveAll_ok {format : LogFormat} {shift : Shift} {rs : List Record}
    (h : ∀ r ∈ rs, ∃ t, r.timestamp.add? shift.delta = some t) :
    ∃ progress, (moveAll format shift rs).1 = .ok progress := by
  induction rs with
  | nil => exact ⟨_, rfl⟩
  | cons r rs ih =>
    obtain ⟨t, ht⟩ := h r List.mem_cons_self
    obtain ⟨rest, hrest⟩ := ih fun r' hr' => h r' (List.mem_cons_of_mem _ hr')
    simp only [moveAll, Shift.apply, Embedded.moveDates_timestamp, ht]
    cases hmove : moveAll format shift rs with
    | mk result signals =>
      rw [hmove] at hrest
      cases hrest
      exact ⟨_, rfl⟩

end Normalize

namespace Pipeline

variable {config : BatchConfig} {given : List Enricher} {p : Pipeline}

/-- A second pass that can move every timestamp is finished. -/
theorem normalize_ok {b : ParsedBatch} {now newest : Moment}
    (hnewest : Shift.newest? b.records = some newest)
    (h : ∀ r ∈ b.records,
      ∃ t, r.timestamp.add? ((p.format.truncate now).since newest) = some t) :
    ∃ batch, (p.normalize b now).1 = .ok batch := by
  have hne : b.records.isEmpty = false := by
    cases hrs : b.records with
    | nil =>
      rw [hrs] at hnewest
      cases hnewest
    | cons r rs => rfl
  have hmoved : ∃ progress, (Normalize.moveAll p.format
      (Shift.between newest (p.format.truncate now)) b.records).1 = .ok progress :=
    Normalize.moveAll_ok h
  obtain ⟨progress, hprogress⟩ := hmoved
  simp only [normalize, hne, Shift.plan, hnewest]
  cases hmove : Normalize.moveAll p.format (Shift.between newest (p.format.truncate now))
      b.records with
  | mk result signals =>
    rw [hmove] at hprogress
    cases hprogress
    exact ⟨_, rfl⟩

/-- The year of a record is that of its stamp, or not before the start year. -/
theorem year_nonneg_of_build (hbuild : build config none given = .ok p) {lines : List Text}
    {r : Record} (hr : r ∈ (p.parseLines lines).1.records) : 0 ≤ r.timestamp.year := by
  have hp := (build_eq_ok hbuild).2
  obtain ⟨stamp, t, make, hread, -, hts, -⟩ := ((parseLines_sound hp lines).1 r hr).stamped hp
  obtain ⟨hsurface, hshaped, -⟩ := Stamp.read?_eq_some_iff.mp hread
  have hyear := (DateFields.resolve_eq_ok hts).1
  cases hstamp : stamp.fields.year with
  | some y =>
    rw [hstamp] at hyear
    cases hyear
    exact hshaped.year_nonneg hstamp
  | none =>
    have hf : p.format.hasYear = false := by
      cases stamp with
      | syslog month day blanks clock =>
        exact LogFormat.surface_eq_syslog_iff.mp hsurface.symm
      | ctime weekday month day clock year => cases hstamp
      | iso year month day clock millis => cases hstamp
    have hstart := (startYear_of_build hbuild).1
    have hle := (dated_of_build hbuild hf lines).start_le r hr
    omega

/-- The second pass over what the first has read fails only if no line gave a record, and says then
how many lines were left out. No shift goes beyond the calendar. -/
theorem normalize_delivers (hbuild : build config none given = .ok p) (lines : List Text)
    {now : Moment} (hnow : 1 ≤ now.year ∧ now.year ≤ 9999) :
    let batch := (p.parseLines lines).1
    let result := (p.normalize batch now).1
    ((∃ e, result = .error e) ↔ batch.records = []) ∧
      (∀ e, result = .error e → e = .emptyBatch p.format batch.malformed.length) ∧
      (∀ seq t delta, result ≠ .error (.shiftOverflow seq t delta)) ∧
      batch.stats.malformed = batch.malformed.length := by
  intro batch result
  have hp := (build_eq_ok hbuild).2
  have hempty : batch.records = [] →
      result = .error (.emptyBatch p.format batch.malformed.length) := by
    intro hrs
    show (p.normalize batch now).1 = _
    simp [normalize, hrs]
  have hfull : batch.records ≠ [] → ∃ out, result = .ok out := by
    intro hrs
    have hleap : ∀ r ∈ batch.records, r.timestamp.isLeap = false := fun _ =>
      isLeap_of_mem_parseLines hp
    cases hnewest : Shift.newest? batch.records with
    | none => exact absurd (Shift.newest?_eq_none hnewest) hrs
    | some newest =>
      obtain ⟨⟨top, htop, rfl⟩, hmax⟩ := Shift.newest?_eq_some hleap hnewest
      refine normalize_ok hnewest ?_
      intro r hr
      exact Moment.exists_add?_since (hleap r hr) (hleap top htop) (p.format.truncate_isLeap now)
        (year_nonneg_of_build hbuild hr) (hmax r hr) hnow.1 hnow.2
  have herror : ∀ e, result = .error e →
      batch.records = [] ∧ e = .emptyBatch p.format batch.malformed.length := by
    intro e he
    by_cases hrs : batch.records = []
    · rw [hempty hrs] at he
      cases he
      exact ⟨hrs, rfl⟩
    · obtain ⟨out, hout⟩ := hfull hrs
      rw [hout] at he
      cases he
  refine ⟨⟨?_, ?_⟩, ?_, ?_, ?_⟩
  · intro h
    obtain ⟨e, he⟩ := h
    exact (herror e he).1
  · intro hrs
    exact ⟨_, hempty hrs⟩
  · intro e he
    exact (herror e he).2
  · intro seq t delta he
    cases (herror _ he).2
  · exact ((Ingest.accounts_start p).pushAll hp lines).malformed_eq.trans
      Array.length_toList.symm

theorem normalize_delivers_yearZero :
    let lines : List Text := ["[Fri Dec 31 23:59:59 9999] [notice] last".toList,
      "no stamp".toList, "[Sat Jan  1 00:00:00 0000] [notice] first".toList]
    let now : Moment := ⟨⟨1, 1, 1, by decide, by decide, by decide⟩,
      ⟨0, 0, by decide, by decide, by decide⟩⟩
    ∃ p, build (.forFormat .apache) none [] = .ok p ∧ (p.parseLines lines).1.records.length = 2 ∧
      ¬∃ e, (p.normalize (p.parseLines lines).1 now).1 = .error e := by
  intro lines now
  let p : Pipeline := ⟨.forFormat .apache, .builtin .apache, []⟩
  have hbuild : build (.forFormat .apache) none [] = .ok p := rfl
  have hlength : (p.parseLines lines).1.records.length = 2 := by decide +kernel
  refine ⟨p, hbuild, hlength, ?_⟩
  rw [(normalize_delivers hbuild lines (by decide)).1]
  intro hrs
  rw [hrs] at hlength
  cases hlength

end Pipeline

end LogShift
