import LogShift.Proofs.Batch.Years
import LogShift.Proofs.Calendar.Range
import LogShift.Proofs.Line.Trim

/-! A log kept in order is read without loss: although its lines name no year, every moment comes
back with its year, as long as no gap is longer than 31 days. -/
namespace LogShift

namespace Moment

/-- `u` is not before `t`, and at most 31 days behind it. -/
def Near (t u : Moment) : Prop :=
  t.le u = true ∧ (u.since t).nanos ≤ 31 * secondsPerDay * nanosPerSecond

instance (t u : Moment) : Decidable (t.Near u) :=
  inferInstanceAs (Decidable (_ ∧ _))

theorem isLeap_of_nanos {t : Moment} (h : t.clock.nanos = 0) : t.isLeap = false := by
  rw [isLeap_eq_false_iff, h]
  decide

theorem Near.year_turn {t u : Moment} (h : t.Near u) (ht : t.isLeap = false)
    (hu : u.isLeap = false) :
    u.year = t.year ∧ t.month ≤ u.month ∨ u.year = t.year + 1 ∧ t.month = 12 ∧ u.month = 1 := by
  obtain ⟨hle, hspan⟩ := h
  have hts := t.clock.seconds_lt
  have hus := u.clock.seconds_lt
  rw [le_iff_instant_le ht hu] at hle
  rw [since_eq ht hu] at hspan
  rw [isLeap_eq_false_iff] at ht hu
  unfold nanosPerSecond secondsPerDay at *
  rw [instant_eq, instant_eq] at hle hspan
  dsimp only at hspan
  exact Date.year_turn (by omega) (by omega)

end Moment

namespace YearTracker

/-- The next line can be one of `t`: the tracker goes on to its year. -/
def Leads (tracker : YearTracker) (t : Moment) : Prop :=
  (minYear ≤ tracker.year ∧ tracker.year ≤ maxYear) ∧
    t.year = tracker.year + (tracker.advances t.month).toNat

theorem leads_start (t : Moment) : (start t.year).Leads t := by
  refine ⟨t.date.year_mem, ?_⟩
  simp [start, advances]

theorem leads_behind {t u : Moment} (h : t.Near u) (ht : t.isLeap = false)
    (hu : u.isLeap = false) : (behind t).Leads u := by
  refine ⟨t.date.year_mem, ?_⟩
  rcases h.year_turn ht hu with ⟨hyear, hmonth⟩ | ⟨hyear, hdecember, hjanuary⟩
  · have hadv : (behind t).advances u.month = false := by
      simp only [advances, behind, Bool.and_eq_false_imp, beq_iff_eq, Option.some.injEq,
        beq_eq_false_iff_ne]
      omega
    rw [hadv, hyear]
    simp [behind]
  · have hadv : (behind t).advances u.month = true :=
      advances_iff.mpr ⟨congrArg some hdecember, hjanuary⟩
    rw [hadv, hyear]
    rfl

end YearTracker

namespace LogFormat

/-- A line that the format accepts in some year, with a stamp of the month, the day and the clock of
`t`. -/
def Dates (f : LogFormat) (line : Text) (t : Moment) : Prop :=
  (∃ ctx r, (LineParser.builtin f).parse ctx line = .ok r) ∧
    ∃ stamp rest, Stamp.read? f.surface line = some (stamp, rest) ∧
      stamp.fields = t.yearlessFields

theorem Dates.trim {f : LogFormat} (hf : f.hasYear = false) {line : Text} {t : Moment}
    (h : f.Dates line t) : f.Dates line.trim t := by
  obtain ⟨⟨ctx, r, hr⟩, stamp, rest, hstamp, hfields⟩ := h
  obtain ⟨⟨r', hr'⟩, rest', hstamp'⟩ := LineParser.parse_trim hf hr hstamp
  exact ⟨⟨ctx, r', hr'⟩, stamp, rest', hstamp', hfields⟩

theorem dates_of_isOk {f : LogFormat} {line : Text} {t : Moment} (ctx : Context)
    (hok : ((LineParser.builtin f).parse ctx line).isOk = true)
    (hfields : (Stamp.read? f.surface line).map (fun found => found.1.fields) =
      some t.yearlessFields) : f.Dates line t := by
  constructor
  · cases h : (LineParser.builtin f).parse ctx line with
    | ok r => exact ⟨ctx, r, h⟩
    | error e =>
      rw [h] at hok
      cases hok
  · obtain ⟨⟨stamp, rest⟩, hread, heq⟩ := Option.map_eq_some_iff.mp hfields
    exact ⟨stamp, rest, hread, heq⟩

end LogFormat

/-- The lines of a log with the moments that it keeps, in order. A line may be accepted as it stands
or without the white space around it. Blank lines and lines without a stamp stand anywhere between
the others. -/
inductive Chronicle (p : Pipeline) : List Text → List (Text × Moment) → Prop where
  | nil : Chronicle p [] []
  | blank {raw : Text} {lines : List Text} {entries : List (Text × Moment)}
      (h : raw.trim = []) (rest : Chronicle p lines entries) : Chronicle p (raw :: lines) entries
  | unstamped {raw : Text} {lines : List Text} {entries : List (Text × Moment)}
      (h : Stamp.read? p.format.surface raw.trim = none) (rest : Chronicle p lines entries) :
      Chronicle p (raw :: lines) entries
  | dated {raw text line : Text} {t : Moment} {lines : List Text} {entries : List (Text × Moment)}
      (htrim : raw.trim = text) (hline : line = raw ∨ line = text)
      (hlen : line.width ≤ p.config.maxLineLength) (h : p.format.Dates line t)
      (rest : Chronicle p lines entries) : Chronicle p (raw :: lines) ((text, t) :: entries)

namespace Ingest

variable {p : Pipeline} {s : Ingest} {raw : Text}

/-- A line of the moment that the tracker leads to is read as that moment. -/
theorem read_dated (hp : p.parser = .builtin p.format) (hf : p.format.hasYear = false)
    {tracker : YearTracker} {line : Text} {t : Moment}
    (hlen : line.width ≤ p.config.maxLineLength) (hline : p.format.Dates line t)
    (hnanos : t.clock.nanos = 0) (hlead : tracker.Leads t) (seq : Nat) :
    ∃ r, (read p tracker seq line).result = .ok r ∧ r.timestamp = t := by
  obtain ⟨⟨ctx, given, hgiven⟩, stamp, rest, hstamp, hfields⟩ := hline
  obtain ⟨hmem, hyear⟩ := hlead
  obtain ⟨made, hmade, htime⟩ := LineParser.parse_of_fields hf hgiven hstamp hfields hnanos seq
  cases hadv : tracker.advances t.month with
  | false =>
    have hsame : t.year = tracker.year := by
      rw [hyear, hadv]
      simp
    have hparse : p.parser.parse ⟨seq, tracker.year⟩ line = .ok made := by
      rw [hp, ← hsame]
      exact hmade
    rw [read_of_parse hf (by omega) hparse, htime, hadv]
    exact ⟨_, rfl, (Enricher.timestamp_applyAll _ made).trans htime⟩
  | true =>
    -- The line is first read in the old year, which has the day too, since the month is January.
    have hmonth : t.month = 1 := (YearTracker.advances_iff.mp hadv).2
    obtain ⟨first, hfirst, hjanuary⟩ :=
      LineParser.parse_january hf hmade (by rw [htime]; exact hmonth) hmem
    have hparse : p.parser.parse ⟨seq, tracker.year⟩ line = .ok first := by
      rw [hp]
      exact hfirst
    have hnext : (tracker.step t.month).year = t.year := by
      rw [YearTracker.step_eq hmem.2, hyear]
    rw [read_of_parse hf (by omega) hparse, hjanuary, ← hmonth, hadv, hnext, hp, if_pos rfl, hmade]
    exact ⟨_, rfl, (Enricher.timestamp_applyAll _ made).trans htime⟩

theorem push_dated (hp : p.parser = .builtin p.format) (hf : p.format.hasYear = false)
    {t : Moment} (hlen : raw.trim.width ≤ p.config.maxLineLength)
    (hline : p.format.Dates raw.trim t) (hnanos : t.clock.nanos = 0)
    (hlead : s.tracker.Leads t) :
    (s.push p raw).tracker = .behind t ∧
      ∃ r, (s.push p raw).records = s.records.push r ∧ r.logline = raw.trim ∧
        r.timestamp = t := by
  have hne : raw.trim ≠ [] := by
    obtain ⟨-, stamp, rest, hstamp, -⟩ := hline
    obtain ⟨-, hshaped, htext, -⟩ := Stamp.read?_eq_some_iff.mp hstamp
    rw [htext]
    exact List.append_ne_nil_of_left_ne_nil (Stamp.text_ne_nil hshaped) _
  obtain ⟨r, hr, htime⟩ := read_dated hp hf hlen hline hnanos hlead s.stats.lines
  have htracker : (read p s.tracker s.stats.lines raw.trim).tracker = .behind r.timestamp := by
    rcases read_yearless hp hf s.tracker s.stats.lines raw.trim with
      ⟨-, -, e, he⟩ | ⟨-, r', hr', hbehind, -⟩ | ⟨-, -, -, e, he⟩
    · rw [hr] at he
      cases he
    · rw [hr] at hr'
      cases hr'
      exact hbehind
    · rw [hr] at he
      cases he
  rw [push_of_ok hne hr]
  exact ⟨htracker.trans (congrArg YearTracker.behind htime), r, rfl, (read_frame hp hr).2, htime⟩

/-- A line that is blank or without a stamp leaves the year and the records as they are. -/
theorem push_skipped (hp : p.parser = .builtin p.format) (hf : p.format.hasYear = false)
    (s : Ingest) (h : raw.trim = [] ∨ Stamp.read? p.format.surface raw.trim = none) :
    (s.push p raw).tracker = s.tracker ∧ (s.push p raw).records = s.records := by
  by_cases hblank : raw.trim = []
  · rw [push_of_blank hblank]
    exact ⟨rfl, rfl⟩
  · have hnone := h.resolve_left hblank
    cases hparse : p.parser.parse ⟨s.stats.lines, s.tracker.year⟩ raw.trim with
    | ok r =>
      rw [hp] at hparse
      obtain ⟨stamp, rest, -, -, hstamp, -⟩ := (LineParser.parse_yearless_iff hf).mp hparse
      rw [hnone] at hstamp
      cases hstamp
    | error e =>
      obtain ⟨htracker, -, e', he'⟩ := read_of_error hparse
      rw [push_of_error hblank he']
      exact ⟨htracker, rfl⟩

/-- A log read on from a state that leads to its first moment. The induction carries the tracker: it
stands behind the last moment, and the next one is near. -/
theorem pushAll_chronicle (hp : p.parser = .builtin p.format) (hf : p.format.hasYear = false)
    {lines : List Text} {entries : List (Text × Moment)} (h : Chronicle p lines entries)
    (hnanos : ∀ e ∈ entries, e.2.clock.nanos = 0)
    (hnear : (entries.map Prod.snd).IsChain Moment.Near)
    (hlead : ∀ e ∈ entries.head?, s.tracker.Leads e.2) :
    ((s.pushAll p lines).records.toList.map fun r => (r.logline, r.timestamp)) =
        (s.records.toList.map fun r => (r.logline, r.timestamp)) ++ entries ∧
      (s.pushAll p lines).tracker.year =
        (entries.getLast?.map fun e => e.2.year).getD s.tracker.year := by
  induction h generalizing s with
  | nil => exact ⟨(List.append_nil _).symm, rfl⟩
  | @blank raw lines entries hblank rest ih =>
    obtain ⟨htracker, hrecords⟩ := push_skipped hp hf s (Or.inl hblank)
    have hrest := ih hnanos hnear (by rw [htracker]; exact hlead)
    rw [htracker, hrecords] at hrest
    exact hrest
  | @unstamped raw lines entries hread rest ih =>
    obtain ⟨htracker, hrecords⟩ := push_skipped hp hf s (Or.inr hread)
    have hrest := ih hnanos hnear (by rw [htracker]; exact hlead)
    rw [htracker, hrecords] at hrest
    exact hrest
  | @dated raw text line t lines entries htrim hline hlen hdates rest ih =>
    subst htrim
    have htext : raw.trim.width ≤ p.config.maxLineLength ∧ p.format.Dates raw.trim t := by
      rcases hline with rfl | rfl
      · exact ⟨Nat.le_trans line.width_trim_le hlen, hdates.trim hf⟩
      · exact ⟨hlen, hdates⟩
    have ht : t.clock.nanos = 0 := hnanos _ List.mem_cons_self
    have hentries : ∀ e ∈ entries, e.2.clock.nanos = 0 := fun e he =>
      hnanos e (List.mem_cons_of_mem _ he)
    obtain ⟨htracker, r, hrecords, hlogline, htime⟩ :=
      push_dated hp hf htext.1 htext.2 ht (hlead _ rfl)
    rw [List.map_cons, List.isChain_cons] at hnear
    have hlead' : ∀ e ∈ entries.head?, (s.push p raw).tracker.Leads e.2 := by
      intro e he
      have hnext : t.Near e.2 := by
        refine hnear.1 e.2 ?_
        rw [List.head?_map, Option.mem_def.mp he]
        rfl
      rw [htracker]
      exact YearTracker.leads_behind hnext (Moment.isLeap_of_nanos ht)
        (Moment.isLeap_of_nanos (hentries e (List.mem_of_mem_head? he)))
    obtain ⟨hrest, hyear⟩ := ih hentries hnear.2 hlead'
    constructor
    · show ((s.push p raw).pushAll p lines).records.toList.map _ = _
      rw [hrest, hrecords, Array.toList_push, List.map_append, List.append_assoc]
      simp [hlogline, htime]
    · show ((s.push p raw).pushAll p lines).tracker.year = _
      rw [hyear, htracker, List.getLast?_cons]
      cases entries.getLast? <;> rfl

end Ingest

namespace Pipeline

/-- A log kept in order is read without loss. Its first moment is of the start year, and no gap is
longer than 31 days: then exactly its moments come back, in order and with their years, and the
turns counted are the years between the first and the last. -/
theorem parseLines_chronicle {config : BatchConfig} {given : List Enricher} {p : Pipeline}
    (hbuild : build config none given = .ok p) (hformat : p.format = .linux ∨ p.format = .openssh)
    {lines : List Text} {entries : List (Text × Moment)} (hlines : Chronicle p lines entries)
    (hne : entries ≠ []) (hnanos : ∀ e ∈ entries, e.2.clock.nanos = 0)
    (hstart : (entries.head hne).2.year = config.startYear)
    (hnear : (entries.map Prod.snd).IsChain Moment.Near) :
    let batch := (p.parseLines lines).1
    (batch.records.map fun r => (r.logline, r.timestamp)) = entries ∧
      (batch.stats.rollovers : Int) = batch.finalYear - config.startYear ∧
      batch.finalYear = (entries.getLast hne).2.year := by
  intro batch
  have hcounted := counted_of_build hbuild lines
  obtain ⟨rfl, hp⟩ := build_eq_ok hbuild
  have hlead : ∀ e ∈ entries.head?, (Ingest.start p).tracker.Leads e.2 := by
    intro e he
    rw [List.head?_eq_some_head hne] at he
    cases he
    show (YearTracker.start p.config.startYear).Leads _
    rw [← hstart]
    exact YearTracker.leads_start _
  obtain ⟨hrecords, hyear⟩ := Ingest.pushAll_chronicle hp (LogFormat.hasYear_eq_false hformat)
    hlines hnanos hnear hlead
  have hlast : batch.finalYear = (entries.getLast hne).2.year := by
    rw [List.getLast?_eq_some_getLast hne] at hyear
    exact hyear
  refine ⟨hrecords, ?_, hlast⟩
  have hcount : batch.finalYear = p.config.startYear + batch.stats.rollovers := hcounted.year_eq
  omega

theorem parseLines_chronicle_leapDay :
    let config : BatchConfig := { BatchConfig.forFormat .openssh with startYear := 2023 }
    let entries : List (Text × Moment) :=
      [("Dec 31 23:59:59 LabSZ sshd[245]: Connection closed".toList,
        ⟨⟨2023, 12, 31, by decide, by decide, by decide⟩,
          ⟨86399, 0, by decide, by decide, by decide⟩⟩),
      ("Jan  1 00:00:00 LabSZ sshd[245]: Connection closed".toList,
        ⟨⟨2024, 1, 1, by decide, by decide, by decide⟩,
          ⟨0, 0, by decide, by decide, by decide⟩⟩),
      ("Feb 1 00:00:00 LabSZ sshd[246]: Connection closed".toList,
        ⟨⟨2024, 2, 1, by decide, by decide, by decide⟩,
          ⟨0, 0, by decide, by decide, by decide⟩⟩),
      ("Feb 29 00:00:01 LabSZ sshd[246]: Connection closed".toList,
        ⟨⟨2024, 2, 29, by decide, by decide, by decide⟩,
          ⟨1, 0, by decide, by decide, by decide⟩⟩)]
    let lines : List Text := ["Dec 31 23:59:59 LabSZ sshd[245]: Connection closed".toList,
      "  ".toList, "Jan  1 00:00:00 LabSZ sshd[245]: Connection closed".toList,
      "no stamp".toList, "Feb 1 00:00:00 LabSZ sshd[246]: Connection closed  ".toList,
      "Feb 29 00:00:01 LabSZ sshd[246]: Connection closed".toList]
    ∃ p, build config none [] = .ok p ∧ Chronicle p lines entries ∧
      ((p.parseLines lines).1.records.map fun r => (r.logline, r.timestamp)) = entries ∧
      (p.parseLines lines).1.finalYear = 2024 := by
  intro config entries lines
  let p : Pipeline := ⟨config, .builtin .openssh, Enricher.builtin .openssh⟩
  have hbuild : build config none [] = .ok p := rfl
  have hdates : ∀ e ∈ entries, p.format.Dates e.1 e.2 := by
    intro e he
    have hok : ∀ e ∈ entries, ((LineParser.builtin .openssh).parse ⟨0, 2024⟩ e.1).isOk = true := by
      decide +kernel
    have hfields : ∀ e ∈ entries, (Stamp.read? LogFormat.openssh.surface e.1).map
        (fun found => found.1.fields) = some e.2.yearlessFields := by
      decide +kernel
    exact LogFormat.dates_of_isOk ⟨0, 2024⟩ (hok e he) (hfields e he)
  have hlines : Chronicle p lines entries := by
    refine .dated (by decide +kernel) (.inr rfl) (by decide +kernel) (hdates _ (.head _)) ?_
    refine .blank (by decide +kernel) ?_
    refine .dated (by decide +kernel) (.inr rfl) (by decide +kernel)
      (hdates _ (.tail _ (.head _))) ?_
    refine .unstamped (by decide +kernel) ?_
    refine .dated (by decide +kernel) (.inr rfl) (by decide +kernel)
      (hdates _ (.tail _ (.tail _ (.head _)))) ?_
    exact .dated (by decide +kernel) (.inr rfl) (by decide +kernel)
      (hdates _ (.tail _ (.tail _ (.tail _ (.head _))))) .nil
  have h := parseLines_chronicle hbuild (.inr rfl) hlines (List.cons_ne_nil _ _)
    (by decide +kernel) rfl (by decide +kernel)
  exact ⟨p, hbuild, hlines, h.1, h.2.2⟩

end Pipeline

end LogShift
