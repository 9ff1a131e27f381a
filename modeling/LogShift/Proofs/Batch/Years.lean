import LogShift.Proofs.Batch.Ingest
import LogShift.Proofs.Line.Year
import Mathlib.Data.List.Chain

/-! The years of a batch whose lines name none: the first record is of the year that the batch
starts with, and the year grows by one exactly from a December to the January behind it. -/
namespace LogShift

namespace BatchConfig

theorem startYear_of_validate {c : BatchConfig} (h : c.validate = .ok ()) :
    1 ≤ c.startYear ∧ c.startYear ≤ 9999 := by
  by_cases hyear : isFourDigitYear c.startYear = true
  · simpa [isFourDigitYear] using hyear
  · unfold validate at h
    rw [if_pos (by simpa using hyear)] at h
    cases h

end BatchConfig

theorem Pipeline.startYear_of_build {config : BatchConfig} {given : List Enricher} {p : Pipeline}
    (h : build config none given = .ok p) : 1 ≤ config.startYear ∧ config.startYear ≤ 9999 := by
  simp only [build, bind, bind_eq_ok_iff] at h
  obtain ⟨_, hvalid, -⟩ := h
  exact BatchConfig.startYear_of_validate hvalid

namespace YearTracker

/-- The tracker behind a moment. -/
def behind (t : Moment) : YearTracker :=
  ⟨t.year, some t.month⟩

/-- Within the calendar the greatest year of a tracker is out of reach. -/
theorem step_eq {t : YearTracker} (h : t.year ≤ maxYear) (m : Nat) :
    t.step m = ⟨t.year + (t.advances m).toNat, some m⟩ := by
  unfold step
  cases t.advances m with
  | false => simp
  | true =>
    have hmin : min (t.year + 1) lastYear = t.year + 1 := by
      unfold maxYear at h
      unfold lastYear
      omega
    simp [hmin]

theorem advances_iff {t : YearTracker} {m : Nat} :
    t.advances m = true ↔ t.previousMonth = some 12 ∧ m = 1 := by
  simp [advances]

end YearTracker

namespace Ingest

variable {p : Pipeline}

/-- A line with a year of its own leaves the tracker alone. -/
theorem read_of_hasYear (hf : p.format.hasYear = true) (tracker : YearTracker) (seq : Nat)
    (line : Text) :
    (read p tracker seq line).tracker = tracker ∧ (read p tracker seq line).turned = false := by
  unfold read
  by_cases hlen : p.config.maxLineLength < line.width
  · rw [if_pos hlen]
    exact ⟨rfl, rfl⟩
  · rw [if_neg hlen]
    cases p.parser.parse ⟨seq, tracker.year⟩ line with
    | error e => exact ⟨rfl, rfl⟩
    | ok r =>
      dsimp only
      rw [if_pos hf]
      exact ⟨rfl, rfl⟩

section
variable {tracker : YearTracker} {seq : Nat} {line : Text} {r : Record}

/-- A line without a year that is accepted in the year of the tracker. -/
theorem read_of_parse (hf : p.format.hasYear = false)
    (hlen : ¬p.config.maxLineLength < line.width)
    (hr : p.parser.parse ⟨seq, tracker.year⟩ line = .ok r) :
    read p tracker seq line =
      if tracker.advances r.timestamp.month then
        ⟨tracker.step r.timestamp.month, true,
          (p.parser.parse ⟨seq, (tracker.step r.timestamp.month).year⟩ line).map
            (Enricher.applyAll p.enrichers)⟩
      else
        ⟨tracker.step r.timestamp.month, false, .ok (Enricher.applyAll p.enrichers r)⟩ := by
  unfold read
  rw [if_neg hlen, hr, hf]
  rfl

/-- A line that the grammar refuses leaves no trace in the tracker. -/
theorem read_of_error {e : Fault} (he : p.parser.parse ⟨seq, tracker.year⟩ line = .error e) :
    (read p tracker seq line).tracker = tracker ∧ (read p tracker seq line).turned = false ∧
      ∃ e, (read p tracker seq line).result = .error e := by
  unfold read
  by_cases hlen : p.config.maxLineLength < line.width
  · rw [if_pos hlen]
    exact ⟨rfl, rfl, _, rfl⟩
  · rw [if_neg hlen, he]
    exact ⟨rfl, rfl, e, rfl⟩

theorem year_of_parse (hp : p.parser = .builtin p.format) (hf : p.format.hasYear = false)
    {year : Int} (h : p.parser.parse ⟨seq, year⟩ line = .ok r) :
    r.timestamp.year = year ∧ minYear ≤ year ∧ year ≤ maxYear := by
  rw [hp] at h
  have hyear : r.timestamp.year = year := LineParser.year_of_parse hf h
  have hmem := r.timestamp.date.year_mem
  exact ⟨hyear, hyear ▸ hmem⟩

/-- A January of one year is one of the next year too, if the calendar has that year. -/
theorem parse_next_year (hp : p.parser = .builtin p.format) (hf : p.format.hasYear = false)
    {year : Int} (h : p.parser.parse ⟨seq, year⟩ line = .ok r) (hmonth : r.timestamp.month = 1) :
    (∃ again, p.parser.parse ⟨seq, year + 1⟩ line = .ok again ∧ again.timestamp.month = 1) ∨
      (year = maxYear ∧ ∃ e, p.parser.parse ⟨seq, year + 1⟩ line = .error e) := by
  obtain ⟨-, hmin, hmax⟩ := year_of_parse hp hf h
  by_cases hnext : year + 1 ≤ maxYear
  · rw [hp] at h ⊢
    exact Or.inl (LineParser.parse_january hf h hmonth ⟨by omega, hnext⟩)
  · refine Or.inr ⟨by omega, ?_⟩
    cases hagain : p.parser.parse ⟨seq, year + 1⟩ line with
    | error e => exact ⟨e, rfl⟩
    | ok again =>
      have := (year_of_parse hp hf hagain).2
      omega

end

/-- All that the reading of a line without a year can be. It is refused and leaves no trace, or it
is a record of the year that the tracker goes on with. Only at the end of the calendar can a line
turn the year and still be refused. -/
theorem read_yearless (hp : p.parser = .builtin p.format) (hf : p.format.hasYear = false)
    (tracker : YearTracker) (seq : Nat) (line : Text) :
    let reading := read p tracker seq line
    (reading.tracker = tracker ∧ reading.turned = false ∧ ∃ e, reading.result = .error e) ∨
    (tracker.year ≤ maxYear ∧ ∃ r, reading.result = .ok r ∧
      reading.tracker = .behind r.timestamp ∧
      reading.turned = tracker.advances r.timestamp.month ∧
      r.timestamp.year = tracker.year + reading.turned.toNat) ∨
    (tracker.year = maxYear ∧ reading.tracker.year = maxYear + 1 ∧ reading.turned = true ∧
      ∃ e, reading.result = .error e) := by
  intro reading
  by_cases hlen : p.config.maxLineLength < line.width
  · have hread : reading = ⟨tracker, false, .error (.tooLarge line.width p.config.maxLineLength)⟩ :=
      if_pos hlen
    rw [hread]
    exact Or.inl ⟨rfl, rfl, _, rfl⟩
  · cases hfirst : p.parser.parse ⟨seq, tracker.year⟩ line with
    | error e => exact Or.inl (read_of_error hfirst)
    | ok made =>
      obtain ⟨hyear, -, hmax⟩ := year_of_parse hp hf hfirst
      have htime := Enricher.timestamp_applyAll p.enrichers
      have hread : reading = _ := read_of_parse hf hlen hfirst
      rw [YearTracker.step_eq hmax] at hread
      cases hadv : tracker.advances made.timestamp.month with
      | false =>
        rw [hadv] at hread
        rw [hread]
        refine Or.inr (Or.inl ⟨hmax, _, rfl, ?_, ?_, ?_⟩)
        · simp [YearTracker.behind, htime, hyear]
        · rw [htime, hadv]
          rfl
        · rw [htime, hyear]
          simp
      | true =>
        rw [hadv] at hread
        have hjanuary := (YearTracker.advances_iff.mp hadv).2
        have hturn : reading = ⟨⟨tracker.year + 1, some made.timestamp.month⟩, true,
            (p.parser.parse ⟨seq, tracker.year + 1⟩ line).map (Enricher.applyAll p.enrichers)⟩ :=
          hread
        rw [hturn]
        rcases parse_next_year hp hf hfirst hjanuary with ⟨again, hagain, hmonth⟩ | ⟨hlast, e, he⟩
        · have hyear' := (year_of_parse hp hf hagain).1
          rw [hagain]
          refine Or.inr (Or.inl ⟨hmax, _, rfl, ?_, ?_, ?_⟩)
          · simp [YearTracker.behind, htime, hyear', hjanuary, hmonth]
          · rw [htime, hmonth, ← hjanuary, hadv]
          · rw [htime, hyear']
            rfl
        · rw [he, hlast]
          exact Or.inr (Or.inr ⟨rfl, rfl, rfl, e, rfl⟩)

/-- The count of the years between two lines. -/
structure Counted (start : Int) (s : Ingest) : Prop where
  year_eq : s.tracker.year = start + s.stats.rollovers
  year_le : s.tracker.year ≤ maxYear + 1

/-- The year of a record from the record before it. -/
def Follows (r s : Record) : Prop :=
  s.timestamp.year =
    r.timestamp.year + if r.timestamp.month = 12 ∧ s.timestamp.month = 1 then 1 else 0

/-- The tracker behind the records of a batch. -/
def trackerBehind (start : Int) (rs : List Record) : YearTracker :=
  match rs.getLast? with
  | none => .start start
  | some r => .behind r.timestamp

/-- The years of the records between two lines. Once the year has left the calendar the tracker no
longer agrees with the last record, and no record can follow. -/
structure Dated (start : Int) (s : Ingest) : Prop where
  first : ∀ r ∈ s.records.toList.head?, r.timestamp.year = start
  chain : s.records.toList.IsChain Follows
  tracker_eq : s.tracker.year ≤ maxYear → s.tracker = trackerBehind start s.records.toList

section
variable {start : Int} {s : Ingest}

theorem Counted.push (h : s.Counted start) (hp : p.parser = .builtin p.format) (raw : Text) :
    (s.push p raw).Counted start := by
  have heq := h.year_eq
  have hle := h.year_le
  by_cases hblank : raw.trim = []
  · rw [push_of_blank hblank]
    exact ⟨heq, hle⟩
  · have hread : let reading := read p s.tracker s.stats.lines raw.trim
        reading.tracker.year = s.tracker.year + reading.turned.toNat ∧
          reading.tracker.year ≤ maxYear + 1 := by
      intro reading
      cases hf : p.format.hasYear with
      | true =>
        obtain ⟨htracker, hturned⟩ := read_of_hasYear hf s.tracker s.stats.lines raw.trim
        rw [htracker, hturned]
        simpa using hle
      | false =>
        rcases read_yearless hp hf s.tracker s.stats.lines raw.trim with
          ⟨htracker, hturned, -⟩ | ⟨hmax, r, -, htracker, -, hyear⟩ | ⟨hlast, hnext, hturned, -⟩
        · rw [htracker, hturned]
          simpa using hle
        · have hmem := r.timestamp.date.year_mem.2
          rw [htracker]
          exact ⟨hyear, show r.timestamp.date.year ≤ maxYear + 1 by omega⟩
        · rw [hnext, hturned, hlast]
          simp
    obtain ⟨hyear, hbound⟩ := hread
    cases hr : (read p s.tracker s.stats.lines raw.trim).result with
    | ok r =>
      rw [push_of_ok hblank hr]
      refine ⟨?_, hbound⟩
      dsimp only
      omega
    | error e =>
      rw [push_of_error hblank hr]
      refine ⟨?_, hbound⟩
      dsimp only
      omega

theorem counted_start (p : Pipeline) (h : p.config.startYear ≤ 9999) :
    (Ingest.start p).Counted p.config.startYear := by
  constructor
  · simp [Ingest.start, YearTracker.start, IngestStats.zero]
  · show p.config.startYear ≤ maxYear + 1
    unfold maxYear
    omega

theorem Counted.pushAll (h : s.Counted start) (hp : p.parser = .builtin p.format)
    (lines : List Text) : (s.pushAll p lines).Counted start := by
  induction lines generalizing s with
  | nil => exact h
  | cons raw lines ih => exact ih (h.push hp raw)

theorem dated_start (p : Pipeline) : (Ingest.start p).Dated p.config.startYear where
  first := by simp [Ingest.start]
  chain := List.IsChain.nil
  tracker_eq := fun _ => rfl

/-- The next record goes on from the tracker. -/
theorem Dated.concat (h : s.Dated start) (hmax : s.tracker.year ≤ maxYear) {r : Record}
    (hyear : r.timestamp.year =
      s.tracker.year + (s.tracker.advances r.timestamp.month).toNat) :
    (∀ r' ∈ (s.records.toList ++ [r]).head?, r'.timestamp.year = start) ∧
      (s.records.toList ++ [r]).IsChain Follows := by
  have htracker := h.tracker_eq hmax
  unfold trackerBehind at htracker
  constructor
  · intro r' hr'
    cases hrs : s.records.toList with
    | nil =>
      rw [hrs] at hr' htracker
      obtain rfl : r = r' := by simpa using hr'
      rw [hyear, htracker]
      simp [YearTracker.start, YearTracker.advances]
    | cons head tail =>
      rw [hrs] at hr'
      refine h.first r' ?_
      rw [hrs]
      simpa using hr'
  · refine h.chain.append (List.isChain_singleton r) ?_
    intro last hlast next hnext
    obtain rfl : r = next := by simpa using hnext
    have hbehind : s.tracker = .behind last.timestamp := by
      rw [Option.mem_def.mp hlast] at htracker
      exact htracker
    unfold Follows
    rw [hyear, hbehind]
    by_cases hturn : last.timestamp.month = 12 ∧ r.timestamp.month = 1
    · simp [YearTracker.advances, YearTracker.behind, hturn]
    · have hadv : (YearTracker.behind last.timestamp).advances r.timestamp.month = false := by
        simpa [YearTracker.advances, YearTracker.behind] using hturn
      rw [if_neg hturn, hadv]
      rfl

theorem Dated.push (h : s.Dated start) (hp : p.parser = .builtin p.format)
    (hf : p.format.hasYear = false) (raw : Text) : (s.push p raw).Dated start := by
  by_cases hblank : raw.trim = []
  · rw [push_of_blank hblank]
    exact ⟨h.first, h.chain, h.tracker_eq⟩
  · rcases read_yearless hp hf s.tracker s.stats.lines raw.trim with
      ⟨htracker, -, e, he⟩ | ⟨hmax, r, hr, htracker, hturned, hyear⟩ | ⟨-, hnext, -, e, he⟩
    · rw [push_of_error hblank he, htracker]
      exact ⟨h.first, h.chain, h.tracker_eq⟩
    · rw [hturned] at hyear
      obtain ⟨hfirst, hchain⟩ := h.concat hmax hyear
      rw [push_of_ok hblank hr, htracker]
      refine ⟨?_, ?_, ?_⟩
      · simpa using hfirst
      · simpa using hchain
      · intro _
        simp [trackerBehind]
    · rw [push_of_error hblank he]
      refine ⟨h.first, h.chain, ?_⟩
      intro hle
      -- The tracker has left the calendar.
      rw [hnext] at hle
      omega

theorem Dated.pushAll (h : s.Dated start) (hp : p.parser = .builtin p.format)
    (hf : p.format.hasYear = false) (lines : List Text) : (s.pushAll p lines).Dated start := by
  induction lines generalizing s with
  | nil => exact h
  | cons raw lines ih => exact ih (h.push hp hf raw)

theorem Dated.years_sorted (h : s.Dated start) :
    (s.records.toList.map fun r => r.timestamp.year).Pairwise (· ≤ ·) := by
  rw [← List.isChain_iff_pairwise, List.isChain_map]
  refine h.chain.imp ?_
  intro r r' hfollows
  unfold Follows at hfollows
  split at hfollows <;> omega

/-- No record is of a year before the first. -/
theorem Dated.start_le (h : s.Dated start) : ∀ r ∈ s.records.toList, start ≤ r.timestamp.year := by
  intro r hr
  have hsorted := h.years_sorted
  have hfirst := h.first
  cases hrs : s.records.toList with
  | nil =>
    rw [hrs] at hr
    cases hr
  | cons head tail =>
    rw [hrs] at hr hsorted hfirst
    have hhead : head.timestamp.year = start := hfirst head rfl
    rcases List.mem_cons.mp hr with rfl | hr
    · exact Int.le_of_eq hhead.symm
    · rw [List.map_cons, List.pairwise_cons] at hsorted
      rw [← hhead]
      exact hsorted.1 _ (List.mem_map_of_mem hr)

end

end Ingest

theorem LogFormat.hasYear_eq_false {f : LogFormat} (h : f = .linux ∨ f = .openssh) :
    f.hasYear = false := by
  rcases h with rfl | rfl <;> rfl

namespace Pipeline

variable {config : BatchConfig} {given : List Enricher} {p : Pipeline}

theorem counted_of_build (hbuild : build config none given = .ok p) (lines : List Text) :
    ((Ingest.start p).pushAll p lines).Counted config.startYear := by
  obtain ⟨rfl, hp⟩ := build_eq_ok hbuild
  exact (Ingest.counted_start p (startYear_of_build hbuild).2).pushAll hp lines

theorem dated_of_build (hbuild : build config none given = .ok p)
    (hf : p.format.hasYear = false) (lines : List Text) :
    ((Ingest.start p).pushAll p lines).Dated config.startYear := by
  obtain ⟨rfl, hp⟩ := build_eq_ok hbuild
  exact (Ingest.dated_start p).pushAll hp hf lines

/-- The years of a batch without years in its lines, whatever the lines are: the first record is of
the start year, and each next one of the same year as the record before it, or of the year behind it
if a January follows a December. In every format the year behind the last line is the start year and
the turns that were counted, at most one year past the calendar. -/
theorem parseLines_years (hbuild : build config none given = .ok p) (lines : List Text) :
    let batch := (p.parseLines lines).1
    (p.format = .linux ∨ p.format = .openssh →
      (∀ r, batch.records[0]? = some r → r.timestamp.year = config.startYear) ∧
      (∀ (k : Nat) (r s : Record),
        batch.records[k]? = some r → batch.records[k + 1]? = some s →
        s.timestamp.year =
          r.timestamp.year + if r.timestamp.month = 12 ∧ s.timestamp.month = 1 then 1 else 0) ∧
      (batch.records.map fun r => r.timestamp.year).Pairwise (· ≤ ·)) ∧
    batch.finalYear = config.startYear + batch.stats.rollovers ∧
    batch.finalYear ≤ 262143 := by
  intro batch
  have hcounted := counted_of_build hbuild lines
  refine ⟨?_, hcounted.year_eq, hcounted.year_le⟩
  intro hformat
  have hdated := dated_of_build hbuild (LogFormat.hasYear_eq_false hformat) lines
  refine ⟨?_, ?_, hdated.years_sorted⟩
  · intro r hr
    refine hdated.first r ?_
    rw [List.head?_eq_getElem?]
    exact hr
  · intro k r s hr hs
    obtain ⟨hk, rfl⟩ := List.getElem?_eq_some_iff.mp hr
    obtain ⟨hk', rfl⟩ := List.getElem?_eq_some_iff.mp hs
    exact List.isChain_iff_getElem.mp hdated.chain k hk'

theorem parseLines_years_outOfOrder :
    let lines : List Text := ["Dec 31 23:59:59 combo su(pam_unix)[1]: a".toList, "  ".toList,
      "Jan  1 00:00:00 combo su(pam_unix)[2]: b".toList,
      "Feb 29 00:00:00 combo su(pam_unix)[3]: c".toList,
      "Dec  1 00:00:00 combo su(pam_unix)[4]: d".toList,
      "Jul  1 00:00:00 combo su(pam_unix)[5]: e".toList,
      "Dec  1 00:00:00 combo su(pam_unix)[6]: f".toList,
      "Jan  2 00:00:00 combo su(pam_unix)[7]: g".toList]
    ∃ p, build (.forFormat .linux) none [] = .ok p ∧
      ((p.parseLines lines).1.records.map fun r => r.timestamp.year) =
        [2005, 2006, 2006, 2006, 2006, 2007] ∧
      ((p.parseLines lines).1.records.map fun r => r.timestamp.year).Pairwise (· ≤ ·) ∧
      (p.parseLines lines).1.stats.rollovers = 2 ∧
      (p.parseLines lines).1.finalYear = 2005 + (p.parseLines lines).1.stats.rollovers := by
  intro lines
  let p : Pipeline := ⟨.forFormat .linux, .builtin .linux, Enricher.builtin .linux⟩
  have hbuild : build (.forFormat .linux) none [] = .ok p := rfl
  have h := parseLines_years hbuild lines
  exact ⟨p, hbuild, by decide +kernel, (h.1 (.inl rfl)).2.2, by decide +kernel, h.2.1⟩

end Pipeline

end LogShift
