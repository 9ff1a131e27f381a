import LogShift.Proofs.Batch.Account
import LogShift.Proofs.Batch.Renumber
import LogShift.Proofs.Batch.Years

/-! Lines that are left out have no say in the others: a pass over the lines that became records gives
those records again. -/
namespace LogShift

/-- The lines whose number is that of a record. -/
def keptOf (lines : List Text) (rs : List Record) : List Text :=
  (lines.zipIdx.filter fun (_, k) => rs.any fun r => r.seq == k).map Prod.fst

/-- A line without a record is not kept. -/
theorem keptOf_concat_refused {lines : List Text} {rs : List Record}
    (hlt : ∀ r ∈ rs, r.seq < lines.length) (raw : Text) :
    keptOf (lines ++ [raw]) rs = keptOf lines rs := by
  have hnone : (rs.any fun r => r.seq == lines.length) = false := by
    rw [List.any_eq_false]
    intro r hr
    have := hlt r hr
    simp only [beq_iff_eq]
    omega
  unfold keptOf
  rw [List.zipIdx_append, List.filter_append, List.map_append]
  simp [hnone]

/-- A line with a record of its number is kept, as all lines before it that were. -/
theorem keptOf_concat_record {lines : List Text} {rs : List Record} {r : Record}
    (hseq : r.seq = lines.length) (raw : Text) :
    keptOf (lines ++ [raw]) (rs ++ [r]) = keptOf lines rs ++ [raw] := by
  have hbefore : (lines.zipIdx.filter fun (_, k) => (rs ++ [r]).any fun r => r.seq == k) =
      lines.zipIdx.filter fun (_, k) => rs.any fun r => r.seq == k := by
    apply List.filter_congr
    intro entry hentry
    have hk : entry.2 < lines.length := by
      have := List.snd_lt_of_mem_zipIdx hentry
      omega
    have hne : (r.seq == entry.2) = false := by
      rw [hseq, beq_eq_false_iff_ne]
      omega
    simp [hne]
  unfold keptOf
  rw [List.zipIdx_append, List.filter_append, List.map_append, hbefore]
  simp [hseq]

namespace Ingest

variable {p : Pipeline}

/-- A refused line leaves the year alone, unless it takes the year out of the calendar; a line is
accepted only in years of the calendar, or because it names its own. -/
theorem read_outcome (hp : p.parser = .builtin p.format) (tracker : YearTracker) (seq : Nat)
    (line : Text) :
    let reading := read p tracker seq line
    (∃ r, reading.result = .ok r ∧ (p.format.hasYear = true ∨ tracker.year ≤ maxYear)) ∨
    ∃ e, reading.result = .error e ∧
      (reading.tracker = tracker ∧ reading.turned = false ∨
        p.format.hasYear = false ∧ maxYear < reading.tracker.year) := by
  intro reading
  cases hf : p.format.hasYear with
  | true =>
    have hstill := read_of_hasYear hf tracker seq line
    cases hr : reading.result with
    | ok r => exact Or.inl ⟨r, rfl, Or.inl rfl⟩
    | error e => exact Or.inr ⟨e, rfl, Or.inl hstill⟩
  | false =>
    rcases read_yearless hp hf tracker seq line with
      ⟨htracker, hturned, e, he⟩ | ⟨hmax, r, hr, -⟩ | ⟨-, hnext, -, e, he⟩
    · exact Or.inr ⟨e, he, Or.inl ⟨htracker, hturned⟩⟩
    · exact Or.inl ⟨r, hr, Or.inr hmax⟩
    · have hout : maxYear < reading.tracker.year := by
        rw [hnext]
        omega
      exact Or.inr ⟨e, he, Or.inr ⟨rfl, hout⟩⟩

/-- Two passes side by side, of which the second takes in only the lines that give the first a
record. As long as the year of the first is in the calendar, both have turned it alike. -/
structure Mirrors (p : Pipeline) (s s' : Ingest) : Prop where
  holds : s'.Holds s.records.toList
  years : p.format.hasYear = true ∨ s.tracker.year ≤ maxYear →
    s'.tracker = s.tracker ∧ s'.stats.rollovers = s.stats.rollovers

theorem mirrors_start (p : Pipeline) : (start p).Mirrors p (start p) where
  holds := holds_start p
  years := fun _ => ⟨rfl, rfl⟩

section
variable {s s' : Ingest} {raw : Text}

theorem Mirrors.push_record (h : s.Mirrors p s') (hp : p.parser = .builtin p.format)
    (hraw : raw.trim ≠ []) {r : Record}
    (hr : (read p s.tracker s.stats.lines raw.trim).result = .ok r)
    (hyear : p.format.hasYear = true ∨ s.tracker.year ≤ maxYear) :
    (s.push p raw).Mirrors p (s'.push p raw) := by
  obtain ⟨htracker, hrollovers⟩ := h.years hyear
  have hr' := hr
  rw [← htracker] at hr'
  obtain ⟨hholds, htracker', hrollovers'⟩ := h.holds.push hp hraw hr'
  rw [push_of_ok hraw hr]
  refine ⟨?_, fun _ => ⟨?_, ?_⟩⟩
  · rw [Array.toList_push]
    exact hholds
  · rw [htracker', htracker]
  · rw [hrollovers', hrollovers, htracker]

theorem Mirrors.push_refused (h : s.Mirrors p s') (hraw : raw.trim ≠ []) {e : Fault}
    (he : (read p s.tracker s.stats.lines raw.trim).result = .error e)
    (hyear : let reading := read p s.tracker s.stats.lines raw.trim
      reading.tracker = s.tracker ∧ reading.turned = false ∨
        p.format.hasYear = false ∧ maxYear < reading.tracker.year) :
    (s.push p raw).Mirrors p s' := by
  rw [push_of_error hraw he]
  refine ⟨h.holds, ?_⟩
  intro hin
  dsimp only at hin ⊢
  rcases hyear with ⟨htracker, hturned⟩ | ⟨hf, hout⟩
  · rw [htracker] at hin ⊢
    rw [hturned]
    exact h.years hin
  · rcases hin with hin | hin
    · rw [hf] at hin
      cases hin
    · omega

theorem Mirrors.push_blank (h : s.Mirrors p s') (hraw : raw.trim = []) :
    (s.push p raw).Mirrors p s' := by
  rw [push_of_blank hraw]
  exact ⟨h.holds, h.years⟩

end

/-- The induction is on the lines from the last one, so that each step adds one line to the first
pass and at most that line to the second. -/
theorem mirrors_pushAll (hp : p.parser = .builtin p.format) (lines : List Text) :
    let s := (start p).pushAll p lines
    s.Mirrors p ((start p).pushAll p (keptOf lines s.records.toList)) := by
  induction lines using List.reverseRecOn with
  | nil => exact mirrors_start p
  | append_singleton lines raw ih =>
    let s := (start p).pushAll p lines
    have hsound : s.Sound p := (sound_start p).pushAll hp lines
    have hlines : s.stats.lines = lines.length := ((accounts_start p).pushAll hp lines).lines_eq
    have hlt : ∀ r ∈ s.records.toList, r.seq < lines.length := by
      intro r hr
      rw [← hlines]
      exact hsound.seq_lt r hr
    have hstep : ∀ texts, (start p).pushAll p (texts ++ [raw]) =
        ((start p).pushAll p texts).push p raw := by
      intro texts
      unfold pushAll
      rw [List.foldl_append]
      rfl
    have hrefused := keptOf_concat_refused hlt raw
    rw [hstep]
    show (s.push p raw).Mirrors p _
    by_cases hraw : raw.trim = []
    · have hsame : (s.push p raw).records = s.records := by rw [push_of_blank hraw]
      rw [hsame, hrefused]
      exact ih.push_blank hraw
    · rcases read_outcome hp s.tracker s.stats.lines raw.trim with ⟨r, hr, hyear⟩ | ⟨e, he, hyear⟩
      · have hmore : (s.push p raw).records.toList = s.records.toList ++ [r] := by
          rw [push_of_ok hraw hr, Array.toList_push]
        have hseq : r.seq = lines.length := (read_frame hp hr).1.trans hlines
        rw [hmore, keptOf_concat_record hseq, hstep]
        exact ih.push_record hp hraw hr hyear
      · have hsame : (s.push p raw).records = s.records := by rw [push_of_error hraw he]
        rw [hsame, hrefused]
        exact ih.push_refused hraw he hyear

end Ingest

namespace Pipeline

/-- Refused lines have no say in the accepted ones. The lines that became records, read on their own,
give the same records with numbers from 0, and none of them is blank or refused. The year turns at the
same places, unless the batch has left the calendar. -/
theorem parseLines_kept {config : BatchConfig} {given : List Enricher} {p : Pipeline}
    (hbuild : build config none given = .ok p) (lines : List Text) :
    let batch := (p.parseLines lines).1
    let kept := keptOf lines batch.records
    let again := (p.parseLines kept).1
    kept.Sublist lines ∧ kept.length = batch.records.length ∧
    again.records = Record.renumber batch.records ∧
    again.stats.blank = 0 ∧ again.stats.malformed = 0 ∧ again.malformed = [] ∧
    (batch.finalYear ≤ 262142 →
      again.stats.rollovers = batch.stats.rollovers ∧ again.finalYear = batch.finalYear) := by
  intro batch kept again
  have hp := (build_eq_ok hbuild).2
  have hmirrors : ((Ingest.start p).pushAll p lines).Mirrors p ((Ingest.start p).pushAll p kept) :=
    Ingest.mirrors_pushAll hp lines
  have hholds := hmirrors.holds
  have hsublist : kept.Sublist lines := by
    have hfilter := (List.filter_sublist (l := lines.zipIdx)
      (p := fun (_, k) => batch.records.any fun r => r.seq == k)).map Prod.fst
    rw [List.zipIdx_map_fst] at hfilter
    exact hfilter
  have hlength : kept.length = batch.records.length := by
    have hcount : ((Ingest.start p).pushAll p kept).stats.lines = kept.length :=
      ((Ingest.accounts_start p).pushAll hp kept).lines_eq
    rw [← hcount]
    exact hholds.lines_eq
  refine ⟨hsublist, hlength, hholds.records_eq, hholds.blank_eq, hholds.malformed_eq,
    hholds.malformed_nil, ?_⟩
  intro hyear
  obtain ⟨htracker, hrollovers⟩ := hmirrors.years (Or.inr hyear)
  exact ⟨hrollovers, congrArg YearTracker.year htracker⟩

/-- A January without a process number stands between the last December and the first January that
count. -/
theorem parseLines_kept_interleaved :
    let lines : List Text := ["no stamp".toList,
      "Dec 31 23:59:58 LabSZ sshd[7]: Invalid user ann".toList,
      "Jan  1 00:00:00 LabSZ sshd: no process number".toList, "  ".toList,
      "Dec 31 23:59:59 LabSZ sshd[8]: closed  ".toList,
      "Feb 30 00:00:00 LabSZ sshd[9]: no such day".toList,
      "Jan  1 00:00:03 LabSZ sshd[9]: closed".toList]
    let kept : List Text := ["Dec 31 23:59:58 LabSZ sshd[7]: Invalid user ann".toList,
      "Dec 31 23:59:59 LabSZ sshd[8]: closed  ".toList,
      "Jan  1 00:00:03 LabSZ sshd[9]: closed".toList]
    ∃ p, build (.forFormat .openssh) none [] = .ok p ∧
      let batch := (p.parseLines lines).1
      keptOf lines batch.records = kept ∧
      (batch.records.map fun r => (r.seq, r.timestamp.year)) =
        [(1, 2023), (4, 2023), (6, 2024)] ∧
      batch.finalYear ≤ 262142 ∧
      (p.parseLines kept).1.records = Record.renumber batch.records ∧
      (p.parseLines kept).1.malformed = [] ∧
      (p.parseLines kept).1.stats.rollovers = batch.stats.rollovers := by
  intro lines kept
  let p : Pipeline := ⟨.forFormat .openssh, .builtin .openssh, Enricher.builtin .openssh⟩
  have hbuild : build (.forFormat .openssh) none [] = .ok p := rfl
  have hkept : keptOf lines (p.parseLines lines).1.records = kept := by decide +kernel
  have hyear : (p.parseLines lines).1.finalYear ≤ 262142 := by decide +kernel
  have h := parseLines_kept hbuild lines
  dsimp only at h
  rw [hkept] at h
  obtain ⟨-, -, hrecords, -, -, hmalformed, hturns⟩ := h
  exact ⟨p, hbuild, hkept, by decide +kernel, hyear, hrecords, hmalformed,
    (hturns hyear).1⟩

end Pipeline

end LogShift
