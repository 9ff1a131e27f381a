import LogShift.Proofs.Batch.Normalize
import Mathlib.Algebra.BigOperators.Group.Finset.Piecewise
import Mathlib.Data.Fintype.Basic

/-! The counters of a run and the report that it returns keep the same books. They agree after every
line, also where a line turns the year and then cannot be read, and whether or not the batch is
delivered. -/
namespace LogShift

open Finset (sum_add_distrib)
open scoped BigOperators

instance : Fintype Surface :=
  ⟨{.ctime, .syslog, .iso}, fun k => by cases k <;> decide⟩

/-- The format among the labels of a counter. -/
def Counter.format : Counter → LogFormat
  | linesParsed f | malformedLines f | yearRollovers f | batchesNormalized f => f
  | ambiguousDates f _ | datesMoved f _ => f

namespace Signal

@[simp] theorem total_nil (c : Counter) : total c [] = 0 := rfl

@[simp] theorem total_append (c : Counter) (a b : List Signal) :
    total c (a ++ b) = total c a + total c b :=
  List.countP_append

@[simp] theorem total_count (c d : Counter) (signals : List Signal) :
    total c (.count d :: signals) = total c signals + if d = c then 1 else 0 := by
  simp [total, List.countP_cons, counter?]

@[simp] theorem total_event (c : Counter) (e : Event) (signals : List Signal) :
    total c (.event e :: signals) = total c signals := by
  simp [total, counter?]

theorem total_eq_zero {c : Counter} {signals : List Signal} (h : .count c ∉ signals) :
    total c signals = 0 := by
  induction signals with
  | nil => rfl
  | cons s signals ih =>
    rw [List.mem_cons, not_or] at h
    cases s with
    | event e => rw [total_event, ih h.2]
    | count d =>
      have hne : d ≠ c := by
        rintro rfl
        exact h.1 rfl
      rw [total_count, ih h.2, if_neg hne]

end Signal

open Signal (total)

/-! ### The first pass -/

/-- What each counter shows if only lines with these statistics were counted. -/
def IngestStats.tally (s : IngestStats) (format : LogFormat) (c : Counter) : Nat :=
  if c = .linesParsed format then s.parsed
  else if c = .malformedLines format then s.malformed
  else if c = .yearRollovers format then s.rollovers
  else 0

theorem IngestStats.tally_eq_zero {s : IngestStats} {format : LogFormat} {c : Counter}
    (hparsed : c ≠ .linesParsed format) (hmalformed : c ≠ .malformedLines format)
    (hturns : c ≠ .yearRollovers format) : s.tally format c = 0 := by
  rw [tally, if_neg hparsed, if_neg hmalformed, if_neg hturns]

namespace Ingest

theorem Reading.total_signals_ok {reading : Reading} {r : Record} (h : reading.result = .ok r)
    (format : LogFormat) (seq : Nat) (c : Counter) :
    total c (reading.signals format seq) =
      (⟨1, 0, 1, 0, reading.turned.toNat⟩ : IngestStats).tally format c := by
  unfold Reading.signals IngestStats.tally
  rw [h]
  cases reading.turned <;> cases c <;> simp [eq_comm]

theorem Reading.total_signals_error {reading : Reading} {e : Fault}
    (h : reading.result = .error e) (format : LogFormat) (seq : Nat) (c : Counter) :
    total c (reading.signals format seq) =
      (⟨1, 0, 0, 1, reading.turned.toNat⟩ : IngestStats).tally format c := by
  unfold Reading.signals IngestStats.tally
  rw [h]
  cases reading.turned <;> cases c <;> simp [eq_comm]

/-- The counters show the statistics, and nothing else has been counted. -/
def Tallied (p : Pipeline) (s : Ingest) : Prop :=
  ∀ c, total c s.signals.toList = s.stats.tally p.format c

theorem tallied_start (p : Pipeline) : (start p).Tallied p := by
  intro c
  simp [start, IngestStats.zero, IngestStats.tally]

theorem Tallied.push {p : Pipeline} {s : Ingest} (h : s.Tallied p) (raw : Text) :
    (s.push p raw).Tallied p := by
  intro c
  by_cases hblank : raw.trim = []
  · rw [push_of_blank hblank]
    exact h c
  · cases hr : (read p s.tracker s.stats.lines raw.trim).result with
    | ok r =>
      rw [push_of_ok hblank hr]
      simp only [Array.toList_appendList, Signal.total_append, h c, Reading.total_signals_ok hr,
        IngestStats.tally]
      split_ifs <;> rfl
    | error e =>
      rw [push_of_error hblank hr]
      simp only [Array.toList_appendList, Signal.total_append, h c, Reading.total_signals_error hr,
        IngestStats.tally]
      split_ifs <;> rfl

theorem Tallied.pushAll {p : Pipeline} {s : Ingest} (h : s.Tallied p) (lines : List Text) :
    (s.pushAll p lines).Tallied p := by
  induction lines generalizing s with
  | nil => exact h
  | cons raw lines ih => exact ih (h.push raw)

end Ingest

/-- After the first pass the counters show its statistics, and nothing else has been counted. -/
theorem Pipeline.total_parseLines (p : Pipeline) (lines : List Text) (c : Counter) :
    total c (p.parseLines lines).2 = (p.parseLines lines).1.stats.tally p.format c := by
  have h := (Ingest.tallied_start p).pushAll lines c
  simpa [Pipeline.parseLines, Ingest.finish] using h

/-! ### The second pass -/

namespace Embedded

/-- The signals count `moved` moved dates and `left` dates left in place over all surfaces, and
nothing else. -/
structure Counts (format : LogFormat) (moved left : Nat) (signals : List Signal) : Prop where
  moved_eq : ∑ k, total (.datesMoved format k) signals = moved
  left_eq : ∑ k, total (.ambiguousDates format k) signals = left
  dates : ∀ c, .count c ∈ signals → ∃ k, c = .datesMoved format k ∨ c = .ambiguousDates format k

namespace Counts

variable {format : LogFormat} {moved left moved' left' : Nat} {signals signals' : List Signal}

theorem nil (format : LogFormat) : Counts format 0 0 [] where
  moved_eq := by simp
  left_eq := by simp
  dates := by simp

theorem moved_cons (h : Counts format moved left signals) (k : Surface) :
    Counts format (moved + 1) left (.count (.datesMoved format k) :: signals) where
  moved_eq := by simp [sum_add_distrib, h.moved_eq]
  left_eq := by simp [h.left_eq]
  dates := by
    intro c hc
    rcases List.mem_cons.mp hc with hc | hc
    · cases hc
      exact ⟨k, Or.inl rfl⟩
    · exact h.dates c hc

theorem left_cons (h : Counts format moved left signals) (k : Surface) :
    Counts format moved (left + 1) (.count (.ambiguousDates format k) :: signals) where
  moved_eq := by simp [h.moved_eq]
  left_eq := by simp [sum_add_distrib, h.left_eq]
  dates := by
    intro c hc
    rcases List.mem_cons.mp hc with hc | hc
    · cases hc
      exact ⟨k, Or.inr rfl⟩
    · exact h.dates c hc

theorem append (h : Counts format moved left signals) (h' : Counts format moved' left' signals') :
    Counts format (moved + moved') (left + left') (signals ++ signals') where
  moved_eq := by simp [sum_add_distrib, h.moved_eq, h'.moved_eq]
  left_eq := by simp [sum_add_distrib, h.left_eq, h'.left_eq]
  dates := by
    intro c hc
    rcases List.mem_append.mp hc with hc | hc
    · exact h.dates c hc
    · exact h'.dates c hc

theorem append_events (h : Counts format moved left signals) (events : List Event) :
    Counts format moved left (signals ++ events.map .event) := by
  have hzero : ∀ c, total c (events.map .event) = 0 := fun c => Signal.total_eq_zero (by simp)
  refine ⟨by simp [h.moved_eq, hzero], by simp [h.left_eq, hzero], ?_⟩
  intro c hc
  exact h.dates c (by simpa using hc)

theorem total_eq_zero (h : Counts format moved left signals) {c : Counter}
    (hmoved : ∀ k, c ≠ .datesMoved format k) (hleft : ∀ k, c ≠ .ambiguousDates format k) :
    total c signals = 0 := by
  apply Signal.total_eq_zero
  intro hc
  obtain ⟨k, hk | hk⟩ := h.dates c hc
  · exact hmoved k hk
  · exact hleft k hk

end Counts

variable (format : LogFormat) (anchor : Moment) (delta : Span)

theorem moveText_counts (field : TextField) (t : Text) :
    let w := moveText format field t anchor delta
    Counts format w.outcome.movedDates w.outcome.ambiguous.length w.signals := by
  intro w
  simp only [w, moveText, List.filterMap_map, List.countP_map, List.map_map]
  induction locate format t with
  | nil => exact Counts.nil format
  | cons m ms ih =>
    cases hr : moveLocated field anchor delta m with
    | ok moved => simpa [hr, Except.toOption] using ih.moved_cons m.stamp.surface
    | error a => simpa [hr, Except.toOption] using ih.left_cons m.stamp.surface

theorem moveFields_counts (fields : List TextField) (r : Record) :
    let moved := moveFields format anchor delta fields r
    Counts format moved.2.1.movedDates moved.2.1.ambiguous.length moved.2.2 := by
  induction fields generalizing r with
  | nil => exact Counts.nil format
  | cons field fields ih =>
    have htext := moveText_counts format anchor delta field (field.get r)
    rw [moveFields_cons]
    simpa [Outcome.append] using htext.append (ih _)

theorem moveDates_counts (r : Record) :
    let moved := moveDates format r anchor delta
    Counts format moved.2.1.movedDates moved.2.1.ambiguous.length moved.2.2 := by
  have h := (moveFields_counts format anchor delta (TextField.moved format) r).append_events
    ((moveFields format anchor delta (TextField.moved format) r).2.1.ambiguous.map
      (ambiguityEvent r.seq format))
  rw [List.map_map] at h
  exact h

end Embedded

namespace Normalize

open Embedded (Counts)

/-- The second pass counts the dates of every record that it reaches, and fails only because a
timestamp cannot be moved. -/
theorem moveAll_counts (format : LogFormat) (shift : Shift) (rs : List Record) :
    match moveAll format shift rs with
    | (.ok progress, signals) =>
      Counts format progress.movedDates progress.ambiguous.length signals
    | (.error e, signals) =>
      (∃ seq t, e = .shiftOverflow seq t shift.delta) ∧
        ∃ moved left, Counts format moved left signals := by
  induction rs with
  | nil => exact Counts.nil format
  | cons r rs ih =>
    have hdates := Embedded.moveDates_counts format r.timestamp shift.delta r
    simp only [moveAll, Shift.apply, Embedded.moveDates_timestamp]
    cases hadd : r.timestamp.add? shift.delta with
    | none => exact ⟨⟨_, _, rfl⟩, _, _, hdates⟩
    | some s =>
      dsimp only
      cases hrest : moveAll format shift rs with
      | mk result later =>
        rw [hrest] at ih
        cases result with
        | error e =>
          obtain ⟨hcause, moved, left, hlater⟩ := ih
          exact ⟨hcause, _, _, hdates.append hlater⟩
        | ok rest => simpa using hdates.append ih

end Normalize

namespace Pipeline

open Embedded (Counts)

/-- What the second pass counts: nothing without records, otherwise dates, and behind them the
batch if it is delivered. -/
theorem normalize_counts (p : Pipeline) (b : ParsedBatch) (now : Moment) :
    match p.normalize b now with
    | (.ok batch, signals) => ∃ dates event,
      Counts p.format batch.movedDates batch.ambiguous.length dates ∧
        signals = dates ++ [.count (.batchesNormalized p.format), .event event]
    | (.error (.emptyBatch _ _), signals) => signals = []
    | (.error (.shiftOverflow _ _ _), signals) => ∃ moved left, Counts p.format moved left signals
    | (.error _, _) => False := by
  unfold normalize
  by_cases hempty : b.records.isEmpty
  · rw [if_pos hempty]
  · rw [if_neg hempty, Shift.plan]
    cases hnewest : Shift.newest? b.records with
    | none => rfl
    | some newest =>
      have hmove := Normalize.moveAll_counts p.format
        (Shift.between newest (p.format.truncate now)) b.records
      dsimp only
      cases hall : Normalize.moveAll p.format (Shift.between newest (p.format.truncate now))
          b.records with
      | mk result signals =>
        rw [hall] at hmove
        cases result with
        | error e =>
          obtain ⟨⟨seq, t, rfl⟩, hcounts⟩ := hmove
          exact hcounts
        | ok progress => exact ⟨signals, _, hmove, rfl⟩

/-- The second pass touches no counters but those of dates and of batches. -/
theorem total_normalize {p : Pipeline} (b : ParsedBatch) (now : Moment) {c : Counter}
    (hmoved : ∀ k, c ≠ .datesMoved p.format k) (hleft : ∀ k, c ≠ .ambiguousDates p.format k)
    (hbatch : c ≠ .batchesNormalized p.format) : total c (p.normalize b now).2 = 0 := by
  have h := p.normalize_counts b now
  cases hnormalize : p.normalize b now with
  | mk result signals =>
    rw [hnormalize] at h
    cases result with
    | ok batch =>
      obtain ⟨dates, event, hdates, rfl⟩ := h
      simp [hdates.total_eq_zero hmoved hleft, hbatch.symm]
    | error e =>
      cases e with
      | emptyBatch format malformed =>
        obtain rfl : signals = [] := h
        rfl
      | shiftOverflow seq t delta =>
        obtain ⟨moved, left, hdates⟩ := h
        exact hdates.total_eq_zero hmoved hleft
      | fault cause => exact h.elim
      | unsupportedFormat name => exact h.elim
      | setting field reason => exact h.elim

section
variable (p : Pipeline) (lines : List Text) (now : Moment)

theorem total_run (c : Counter) :
    total c (p.run lines now).2 = (p.parseLines lines).1.stats.tally p.format c +
      total c (p.normalize (p.parseLines lines).1 now).2 := by
  have h := Signal.total_append c (p.parseLines lines).2 (p.normalize (p.parseLines lines).1 now).2
  rwa [total_parseLines] at h

/-- A counter of the lines is not touched by the second pass. -/
theorem total_run_of_lines {c : Counter} (hmoved : ∀ k, c ≠ .datesMoved p.format k)
    (hleft : ∀ k, c ≠ .ambiguousDates p.format k) (hbatch : c ≠ .batchesNormalized p.format) :
    total c (p.run lines now).2 = (p.parseLines lines).1.stats.tally p.format c := by
  rw [total_run, total_normalize _ _ hmoved hleft hbatch, Nat.add_zero]

/-- A counter of the dates is not touched by the first pass. -/
theorem total_run_of_dates {c : Counter} (hparsed : c ≠ .linesParsed p.format)
    (hmalformed : c ≠ .malformedLines p.format) (hturns : c ≠ .yearRollovers p.format) :
    total c (p.run lines now).2 = total c (p.normalize (p.parseLines lines).1 now).2 := by
  rw [total_run, IngestStats.tally_eq_zero hparsed hmalformed hturns, Nat.zero_add]

end

/-- The counters of a run show its statistics: each line once, as parsed or as malformed, and each
turn of the year; no counter of another format is touched. The counters of a delivered batch show
how many dates were moved and how many were left in place, over all surfaces, and the batch once.
Without records no date is counted, and no batch that fails is. -/
theorem run_counts (p : Pipeline) (lines : List Text) (now : Moment) :
    let stats := (p.parseLines lines).1.stats
    let signals := (p.run lines now).2
    total (.linesParsed p.format) signals = stats.parsed ∧
    total (.malformedLines p.format) signals = stats.malformed ∧
    total (.yearRollovers p.format) signals = stats.rollovers ∧
    (∀ c : Counter, c.format ≠ p.format → total c signals = 0) ∧
    match (p.run lines now).1 with
    | .ok batch =>
      ∑ k, total (.datesMoved p.format k) signals = batch.movedDates ∧
      ∑ k, total (.ambiguousDates p.format k) signals = batch.ambiguous.length ∧
      total (.batchesNormalized p.format) signals = 1
    | .error (.emptyBatch _ _) =>
      (∀ k, total (.datesMoved p.format k) signals = 0 ∧
        total (.ambiguousDates p.format k) signals = 0) ∧
      total (.batchesNormalized p.format) signals = 0
    | .error (.shiftOverflow _ _ _) => total (.batchesNormalized p.format) signals = 0
    | .error _ => False := by
  intro stats signals
  refine ⟨?_, ?_, ?_, ?_, ?_⟩
  · rw [p.total_run_of_lines lines now (by simp) (by simp) (by simp)]
    simp [stats, IngestStats.tally]
  · rw [p.total_run_of_lines lines now (by simp) (by simp) (by simp)]
    simp [stats, IngestStats.tally]
  · rw [p.total_run_of_lines lines now (by simp) (by simp) (by simp)]
    simp [stats, IngestStats.tally]
  · intro c hc
    have hne : ∀ d : Counter, d.format = p.format → c ≠ d := by
      rintro d hd rfl
      exact hc hd
    rw [p.total_run_of_lines lines now (fun k => hne _ rfl) (fun k => hne _ rfl) (hne _ rfl)]
    exact IngestStats.tally_eq_zero (hne _ rfl) (hne _ rfl) (hne _ rfl)
  · have hdates : ∀ c, c ≠ .linesParsed p.format → c ≠ .malformedLines p.format →
        c ≠ .yearRollovers p.format →
        total c signals = total c (p.normalize (p.parseLines lines).1 now).2 :=
      fun _ => p.total_run_of_dates lines now
    have hsecond := p.normalize_counts (p.parseLines lines).1 now
    have hresult : (p.run lines now).1 = (p.normalize (p.parseLines lines).1 now).1 := rfl
    rw [hresult]
    cases hnormalize : p.normalize (p.parseLines lines).1 now with
    | mk result second =>
      rw [hnormalize] at hsecond hdates
      cases result with
      | ok batch =>
        obtain ⟨dates, event, hcounts, rfl⟩ := hsecond
        refine ⟨?_, ?_, ?_⟩
        · simpa [hdates] using hcounts.moved_eq
        · simpa [hdates] using hcounts.left_eq
        · simp [hdates, hcounts.total_eq_zero]
      | error e =>
        cases e with
        | emptyBatch format malformed =>
          obtain rfl : second = [] := hsecond
          simp [hdates]
        | shiftOverflow seq t delta =>
          obtain ⟨moved, left, hcounts⟩ := hsecond
          simp [hdates, hcounts.total_eq_zero]
        | fault cause => exact hsecond
        | unsupportedFormat name => exact hsecond
        | setting field reason => exact hsecond

end Pipeline

end LogShift
