import LogShift.Proofs.Batch.Account
import LogShift.Proofs.Batch.Delivery
import LogShift.Proofs.Batch.Renumber
import Mathlib.Data.List.Perm.Basic

/-! The order of a batch does not matter: the second pass moves each record by itself, and where
lines name their year the first pass reads each line by itself. -/
namespace LogShift

theorem Shift.newest?_perm {rs rs' : List Record}
    (h : (rs.map Record.timestamp).Perm (rs'.map Record.timestamp)) :
    newest? rs = newest? rs' := by
  cases hnewest : newest? rs with
  | none =>
    have hnil : rs' = [] := by
      rw [newest?_eq_none hnewest, List.map_nil, List.nil_perm, List.map_eq_nil_iff] at h
      exact h
    rw [hnil]
    rfl
  | some m =>
    cases hnewest' : newest? rs' with
    | none =>
      have hnil : rs = [] := by
        rw [newest?_eq_none hnewest', List.map_nil, List.perm_nil, List.map_eq_nil_iff] at h
        exact h
      rw [hnil] at hnewest
      cases hnewest
    | some m' =>
      obtain ⟨hmem, hle⟩ := newest?_spec hnewest
      obtain ⟨hmem', hle'⟩ := newest?_spec hnewest'
      have hin : ∃ r ∈ rs', r.timestamp = m := by
        have hm : m ∈ rs.map Record.timestamp := List.mem_map.mpr hmem
        exact List.mem_map.mp (h.mem_iff.mp hm)
      have hin' : ∃ r ∈ rs, r.timestamp = m' := by
        have hm : m' ∈ rs'.map Record.timestamp := List.mem_map.mpr hmem'
        exact List.mem_map.mp (h.mem_iff.mpr hm)
      obtain ⟨r, hr, rfl⟩ := hin
      obtain ⟨r', hr', rfl⟩ := hin'
      rw [Moment.le_antisymm (hle' r hr) (hle r' hr')]

/-- Two batches that differ at most in the order and the numbers of their records. -/
structure NormalizedBatch.Reordered (b b' : NormalizedBatch) : Prop where
  shift_eq : b.shift = b'.shift
  records_perm : (b.records.map (Record.withSeq 0)).Perm (b'.records.map (Record.withSeq 0))
  ambiguous_perm :
    (b.ambiguous.map RecordAmbiguity.date).Perm (b'.ambiguous.map RecordAmbiguity.date)
  stats_eq : b.stats = b'.stats
  movedDates_eq : b.movedDates = b'.movedDates

/-- Both batches fail, or both are delivered and differ at most in order. -/
def SameButOrder (x y : Except Failure NormalizedBatch) : Prop :=
  ((∃ b, x = .ok b) ↔ ∃ b, y = .ok b) ∧ ∀ b b', x = .ok b → y = .ok b' → b.Reordered b'

namespace Normalize

variable {format : LogFormat} {shift : Shift} {r : Record}

/-- The dates left in place in a record, without its number. -/
def leftDates (format : LogFormat) (shift : Shift) (r : Record) : List AmbiguousDate :=
  (Embedded.moveDates format r r.timestamp shift.delta).2.1.ambiguous

theorem map_date_reports (rs : List Record) :
    (rs.flatMap (reports format shift)).map RecordAmbiguity.date =
      rs.flatMap (leftDates format shift) := by
  have hone : ∀ r, (reports format shift r).map RecordAmbiguity.date =
      leftDates format shift r := by
    intro r
    simp [reports, leftDates, Function.comp_def]
  simp only [List.map_flatMap, hone]

/-- The number of a record has no part in what becomes of its dates. -/
theorem outcome_withSeq (r : Record) (n : Nat) :
    (Embedded.moveDates format (r.withSeq n) (r.withSeq n).timestamp shift.delta).2.1 =
      (Embedded.moveDates format r r.timestamp shift.delta).2.1 := by
  simp only [Embedded.moveDates_outcome, Record.timestamp_withSeq, Record.logline_withSeq,
    Record.msg_withSeq]

theorem leftDates_withSeq (r : Record) (n : Nat) :
    leftDates format shift (r.withSeq n) = leftDates format shift r := by
  unfold leftDates
  rw [outcome_withSeq]

theorem moves_withSeq (r : Record) (n : Nat) :
    moves format shift (r.withSeq n) = moves format shift r := by
  unfold moves
  rw [outcome_withSeq]

theorem Moved.withSeq {r' : Record} (h : Moved format shift r r') (n : Nat) :
    Moved format shift (r.withSeq n) (r'.withSeq n) := by
  obtain ⟨s, hadd, rfl⟩ := h
  refine ⟨s, ?_, ?_⟩
  · rw [Record.timestamp_withSeq]
    exact hadd
  · simp only [Embedded.moveDates_record, Record.timestamp_withSeq, Record.logline_withSeq,
      Record.msg_withSeq, Record.withSeq_comm]

theorem moved_rightUnique : Relator.RightUnique (Moved format shift) := by
  intro r a b ha hb
  obtain ⟨s, hs, rfl⟩ := ha
  obtain ⟨t, ht, rfl⟩ := hb
  rw [hs, Option.some.injEq] at ht
  rw [ht]

end Normalize

namespace Pipeline

variable {p : Pipeline} {now : Moment}

/-- The second pass delivers one batch exactly as it delivers another with the same records up to
order and numbers. -/
theorem normalize_reordered {b b' : ParsedBatch} {batch : NormalizedBatch}
    (hrecords : (b.records.map (Record.withSeq 0)).Perm (b'.records.map (Record.withSeq 0)))
    (hstats : b.stats = b'.stats) (h : (p.normalize b now).1 = .ok batch) :
    ∃ batch', (p.normalize b' now).1 = .ok batch' ∧ batch.Reordered batch' := by
  obtain ⟨newest, progress, hnewest, hmove, rfl⟩ := normalize_eq_ok h
  obtain ⟨hmoved, hambiguous, hmoves⟩ := Normalize.moveAll_eq_ok hmove
  have htimes : (b.records.map Record.timestamp).Perm (b'.records.map Record.timestamp) := by
    have htimestamps := hrecords.map Record.timestamp
    simp only [List.map_map, Function.comp_def, Record.timestamp_withSeq] at htimestamps
    exact htimestamps
  have hnewest' : Shift.newest? b'.records = some newest := by
    rw [← Shift.newest?_perm htimes]
    exact hnewest
  have hroom : ∀ r ∈ b'.records,
      ∃ t, r.timestamp.add? ((p.format.truncate now).since newest) = some t := by
    intro r' hr'
    have hin := htimes.mem_iff.mpr (List.mem_map_of_mem hr')
    obtain ⟨r, hr, hsame⟩ := List.mem_map.mp hin
    obtain ⟨i, hi⟩ := List.getElem?_of_mem hr
    obtain ⟨-, -, t, hadd, -⟩ := exists_of_forall₂ hmoved hi
    rw [← hsame]
    exact ⟨t, hadd⟩
  obtain ⟨batch', hbatch'⟩ := normalize_ok hnewest' hroom
  obtain ⟨newest₂, progress', hnewest₂, hmove', rfl⟩ := normalize_eq_ok hbatch'
  obtain rfl : newest = newest₂ := Option.some.inj (hnewest'.symm.trans hnewest₂)
  obtain ⟨hmoved', hambiguous', hmoves'⟩ := Normalize.moveAll_eq_ok hmove'
  have hnumbered : ∀ {rs rs' : List Record} {shift : Shift},
      List.Forall₂ (Normalize.Moved p.format shift) rs rs' →
      List.Forall₂ (Normalize.Moved p.format shift) (rs.map (Record.withSeq 0))
        (rs'.map (Record.withSeq 0)) := by
    intro rs rs' shift hall
    rw [List.forall₂_map_left_iff, List.forall₂_map_right_iff]
    exact hall.imp fun _ _ hone => hone.withSeq 0
  refine ⟨_, hbatch', rfl, ?_, ?_, hstats, ?_⟩
  · exact List.rel_perm_imp Normalize.moved_rightUnique (hnumbered hmoved) (hnumbered hmoved')
      hrecords
  · have hleft := hrecords.flatMap_right
      (Normalize.leftDates p.format (Shift.between newest (p.format.truncate now)))
    simp only [List.flatMap_map, Normalize.leftDates_withSeq] at hleft
    rw [hambiguous, hambiguous', Normalize.map_date_reports, Normalize.map_date_reports]
    exact hleft
  · have hsum := (hrecords.map
      (Normalize.moves p.format (Shift.between newest (p.format.truncate now)))).sum_nat
    simp only [List.map_map, Function.comp_def, Normalize.moves_withSeq] at hsum
    rw [hmoves, hmoves']
    exact hsum

theorem normalize_sameButOrder {b b' : ParsedBatch}
    (hrecords : (b.records.map (Record.withSeq 0)).Perm (b'.records.map (Record.withSeq 0)))
    (hstats : b.stats = b'.stats) :
    SameButOrder (p.normalize b now).1 (p.normalize b' now).1 := by
  refine ⟨⟨?_, ?_⟩, ?_⟩
  · intro h
    obtain ⟨batch, hbatch⟩ := h
    obtain ⟨batch', hbatch', -⟩ := normalize_reordered hrecords hstats hbatch
    exact ⟨batch', hbatch'⟩
  · intro h
    obtain ⟨batch', hbatch'⟩ := h
    obtain ⟨batch, hbatch, -⟩ := normalize_reordered hrecords.symm hstats.symm hbatch'
    exact ⟨batch, hbatch⟩
  · intro batch batch' hbatch hbatch'
    obtain ⟨batch₂, hbatch₂, hsame⟩ := normalize_reordered hrecords hstats hbatch
    obtain rfl : batch₂ = batch' := Except.ok.inj (hbatch₂.symm.trans hbatch')
    exact hsame

end Pipeline

namespace Ingest

variable {p : Pipeline}

/-- The record that a line gives in the year of the start, under the number 0. -/
def recordOf? (p : Pipeline) (raw : Text) : Option Record :=
  if raw.trim = [] then none
  else (read p (.start p.config.startYear) 0 raw.trim).result.toOption

/-- A pass that has read each of `lines` by itself. -/
structure Separate (p : Pipeline) (lines : List Text) (s : Ingest) : Prop where
  tracker_eq : s.tracker = .start p.config.startYear
  rollovers_eq : s.stats.rollovers = 0
  records_eq : s.records.toList.map (Record.withSeq 0) = lines.filterMap (recordOf? p)
  blank_eq : s.stats.blank = lines.countP fun raw => raw.trim = []

theorem separate_start (p : Pipeline) : (start p).Separate p [] where
  tracker_eq := rfl
  rollovers_eq := rfl
  records_eq := rfl
  blank_eq := rfl

/-- The tracker never moves, so that a line is read as it would be in front. -/
theorem Separate.push {lines : List Text} {s : Ingest} (h : s.Separate p lines)
    (hp : p.parser = .builtin p.format) (hf : p.format.hasYear = true) (raw : Text) :
    (s.push p raw).Separate p (lines ++ [raw]) := by
  have hrecord : (lines ++ [raw]).filterMap (recordOf? p) =
      s.records.toList.map (Record.withSeq 0) ++ (recordOf? p raw).toList := by
    rw [List.filterMap_append, ← h.records_eq]
    cases hone : recordOf? p raw <;> simp [hone]
  have hblank : ((lines ++ [raw]).countP fun raw => raw.trim = []) =
      s.stats.blank + if raw.trim = [] then 1 else 0 := by
    rw [List.countP_append, ← h.blank_eq]
    simp [List.countP_cons]
  by_cases hraw : raw.trim = []
  · rw [push_of_blank hraw]
    refine ⟨h.tracker_eq, h.rollovers_eq, ?_, ?_⟩
    · rw [hrecord, recordOf?, if_pos hraw]
      simp
    · rw [hblank, if_pos hraw]
  · obtain ⟨htracker, hturned⟩ := read_of_hasYear hf s.tracker s.stats.lines raw.trim
    rw [if_neg hraw, Nat.add_zero] at hblank
    rw [recordOf?, if_neg hraw, ← h.tracker_eq] at hrecord
    cases hr : (read p s.tracker s.stats.lines raw.trim).result with
    | ok r =>
      have hzero := read_withSeq hp hr 0
      rw [push_of_ok hraw hr, htracker, hturned]
      refine ⟨h.tracker_eq, h.rollovers_eq, ?_, hblank.symm⟩
      rw [hrecord, hzero]
      simp [Except.toOption]
    | error e =>
      have hzero : ((read p s.tracker 0 raw.trim).result).toOption = none := by
        cases hz : (read p s.tracker 0 raw.trim).result with
        | error e' => rfl
        | ok r =>
          have hagain := read_withSeq hp hz s.stats.lines
          rw [hagain] at hr
          cases hr
      rw [push_of_error hraw hr, htracker, hturned]
      refine ⟨h.tracker_eq, h.rollovers_eq, ?_, hblank.symm⟩
      rw [hrecord, hzero]
      simp

theorem Separate.pushAll {before : List Text} {s : Ingest} (h : s.Separate p before)
    (hp : p.parser = .builtin p.format) (hf : p.format.hasYear = true) (lines : List Text) :
    (s.pushAll p lines).Separate p (before ++ lines) := by
  induction lines generalizing s before with
  | nil =>
    rw [List.append_nil]
    exact h
  | cons raw lines ih =>
    have hrest := ih (h.push hp hf raw)
    rw [List.append_assoc] at hrest
    exact hrest

end Ingest

namespace Pipeline

variable {p : Pipeline}

/-- Where lines name their year, the first pass over another order of the lines gives the same
records up to order and numbers, and the same counts. -/
theorem parseLines_perm (hp : p.parser = .builtin p.format) (hf : p.format.hasYear = true)
    {lines lines' : List Text} (h : lines.Perm lines') :
    ((p.parseLines lines).1.records.map (Record.withSeq 0)).Perm
        ((p.parseLines lines').1.records.map (Record.withSeq 0)) ∧
      (p.parseLines lines).1.stats = (p.parseLines lines').1.stats := by
  let s := (Ingest.start p).pushAll p lines
  let s' := (Ingest.start p).pushAll p lines'
  have hs : s.Separate p lines := (Ingest.separate_start p).pushAll hp hf lines
  have hs' : s'.Separate p lines' := (Ingest.separate_start p).pushAll hp hf lines'
  have ha : s.Accounts p lines := (Ingest.accounts_start p).pushAll hp lines
  have ha' : s'.Accounts p lines' := (Ingest.accounts_start p).pushAll hp lines'
  have hrecords : (s.records.toList.map (Record.withSeq 0)).Perm
      (s'.records.toList.map (Record.withSeq 0)) := by
    rw [hs.records_eq, hs'.records_eq]
    exact h.filterMap _
  refine ⟨hrecords, ?_⟩
  show s.stats = s'.stats
  have hlines : s.stats.lines = s'.stats.lines := by
    rw [ha.lines_eq, ha'.lines_eq, h.length_eq]
  have hblank : s.stats.blank = s'.stats.blank := by
    rw [hs.blank_eq, hs'.blank_eq]
    exact h.countP_eq _
  have hparsed : s.stats.parsed = s'.stats.parsed := by
    have hlength := hrecords.length_eq
    rw [List.length_map, List.length_map, Array.length_toList, Array.length_toList] at hlength
    rw [ha.parsed_eq, ha'.parsed_eq]
    exact hlength
  have hmalformed : s.stats.malformed = s'.stats.malformed := by
    have htotal := ha.total
    have htotal' := ha'.total
    omega
  have hrollovers : s.stats.rollovers = s'.stats.rollovers := by
    rw [hs.rollovers_eq, hs'.rollovers_eq]
  cases hstats : s.stats
  cases hstats' : s'.stats
  simp_all

/-- No batch depends on the order in which it comes. Where lines name their year this holds of both
passes and every order of the lines; in all formats it holds of the second pass and every order of
the records. -/
theorem run_perm {config : BatchConfig} {given : List Enricher}
    (hbuild : build config none given = .ok p) (now : Moment) :
    (config.format = .apache ∨ config.format = .hadoop → ∀ lines lines' : List Text,
      lines.Perm lines' → SameButOrder (p.run lines now).1 (p.run lines' now).1) ∧
    ∀ (b : ParsedBatch) (rs : List Record), b.records.Perm rs →
      SameButOrder (p.normalize b now).1 (p.normalize { b with records := rs } now).1 := by
  obtain ⟨rfl, hp⟩ := build_eq_ok hbuild
  refine ⟨?_, ?_⟩
  · intro hformat lines lines' hperm
    have hyear : p.format.hasYear = true := by
      unfold format
      rcases hformat with hf | hf <;> simp [hf, LogFormat.hasYear]
    obtain ⟨hrecords, hstats⟩ := parseLines_perm hp hyear hperm
    exact normalize_sameButOrder hrecords hstats
  · intro b rs hperm
    exact normalize_sameButOrder (hperm.map _) rfl

/-- Two lines share the newest timestamp, and the lines that are left out change places with them.
In the other format a batch over the turn of the year is taken from its end. -/
theorem run_perm_reversed :
    let lines : List Text := ["[Sun Nov  6 00:00:00 2005] [error] down".toList, "no stamp".toList,
      "[Mon Nov  7 01:00:00 2005] [notice] up".toList, "  ".toList,
      "[Mon Nov  7 01:00:00 2005] [notice] also up".toList]
    let yearless : List Text := ["Dec 31 23:59:59 combo sshd[7]: out".toList,
      "Jan  1 00:00:03 combo kernel: up since Fri Dec 31 23:59:59 2004".toList]
    let now : Moment := ⟨⟨2016, 12, 31, by decide, by decide, by decide⟩,
      ⟨86399, 1500000000, by decide, by decide, by decide⟩⟩
    ∃ p q batch batch', build (.forFormat .apache) none [] = .ok p ∧
      build (.forFormat .linux) none [] = .ok q ∧
      (p.run lines now).1 = .ok batch ∧ (p.run lines.reverse now).1 = .ok batch' ∧
      batch.records.map Record.seq = [0, 2, 4] ∧ batch.Reordered batch' ∧
      let parsed := (q.parseLines yearless).1
      (∃ moved, (q.normalize parsed now).1 = .ok moved) ∧
      SameButOrder (q.normalize parsed now).1
        (q.normalize { parsed with records := parsed.records.reverse } now).1 := by
  intro lines yearless now
  let p : Pipeline := ⟨.forFormat .apache, .builtin .apache, []⟩
  let q : Pipeline := ⟨.forFormat .linux, .builtin .linux, []⟩
  have hbuild : build (.forFormat .apache) none [] = .ok p := rfl
  have hbuildYearless : build (.forFormat .linux) none [] = .ok q := rfl
  have hnumbers : ((p.run lines now).1.toOption.map fun b => b.records.map Record.seq) =
      some [0, 2, 4] := by
    decide +kernel
  have hmoved : (q.normalize (q.parseLines yearless).1 now).1.toOption.isSome = true := by
    decide +kernel
  have hsame := (run_perm hbuild now).1 (Or.inl rfl) lines lines.reverse
    (List.reverse_perm lines).symm
  have hsecond := (run_perm hbuildYearless now).2 (q.parseLines yearless).1 _
    (List.reverse_perm _).symm
  cases hrun : (p.run lines now).1 with
  | error e =>
    rw [hrun] at hnumbers
    cases hnumbers
  | ok batch =>
    rw [hrun] at hnumbers
    obtain ⟨batch', hrun'⟩ := hsame.1.mp ⟨batch, hrun⟩
    refine ⟨p, q, batch, batch', hbuild, hbuildYearless, hrun, hrun', Option.some.inj hnumbers,
      hsame.2 batch batch' hrun hrun', ?_, hsecond⟩
    cases hnormal : (q.normalize (q.parseLines yearless).1 now).1 with
    | error e =>
      rw [hnormal] at hmoved
      cases hmoved
    | ok moved => exact ⟨moved, rfl⟩

end Pipeline

end LogShift
