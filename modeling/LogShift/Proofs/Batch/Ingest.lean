import LogShift.Batch.Ingest
import LogShift.Proofs.Line.Reread
import LogShift.Proofs.Record

/-! Where the records of a batch come from: each is the reading of a line of its own in some year,
and their numbers grow. -/
namespace LogShift

namespace Pipeline

/-- The record is what its own line gives in some year, with the fields of the enrichers. -/
def Reads (p : Pipeline) (r : Record) : Prop :=
  ∃ year made, p.parser.parse ⟨r.seq, year⟩ r.logline = .ok made ∧
    r = Enricher.applyAll p.enrichers made

theorem build_eq_ok {config : BatchConfig} {given : List Enricher} {p : Pipeline}
    (h : build config none given = .ok p) : p.config = config ∧ p.parser = .builtin p.format := by
  simp only [build, bind, bind_eq_ok_iff, Option.getD_none, pure, Except.pure] at h
  obtain ⟨-, -, h⟩ := h
  rw [if_neg (by simp [LineParser.builtin])] at h
  cases h
  exact ⟨rfl, rfl⟩

end Pipeline

namespace Ingest

theorem read_eq_ok {p : Pipeline} {tracker : YearTracker} {seq : Nat} {line : Text} {r : Record}
    (h : (read p tracker seq line).result = .ok r) :
    ∃ year made, p.parser.parse ⟨seq, year⟩ line = .ok made ∧
      r = Enricher.applyAll p.enrichers made := by
  unfold read at h
  split at h
  · cases h
  · split at h
    · cases h
    · rename_i made hmade
      split at h
      · exact ⟨_, made, hmade, (Except.ok.inj h).symm⟩
      · dsimp only at h
        split at h
        · cases hagain : p.parser.parse ⟨seq, (tracker.step made.timestamp.month).year⟩ line with
          | error e =>
            rw [hagain] at h
            cases h
          | ok again =>
            rw [hagain] at h
            exact ⟨_, again, hagain, (Except.ok.inj h).symm⟩
        · exact ⟨_, made, hmade, (Except.ok.inj h).symm⟩

/-- The record of a line has the number and the text of the line. -/
theorem read_frame {p : Pipeline} (hp : p.parser = .builtin p.format) {tracker : YearTracker}
    {seq : Nat} {line : Text} {r : Record} (h : (read p tracker seq line).result = .ok r) :
    r.seq = seq ∧ r.logline = line := by
  obtain ⟨year, made, hmade, rfl⟩ := read_eq_ok h
  obtain ⟨-, hseq, -, hline⟩ := Enricher.applyAll_frame p.enrichers made
  rw [hp] at hmade
  obtain ⟨-, hseq', hline', -⟩ := LineParser.frame_of_parse hmade
  exact ⟨hseq.trans hseq', hline.trans hline'⟩

section
variable {p : Pipeline} {s : Ingest} {raw : Text}

theorem push_of_blank (h : raw.trim = []) :
    s.push p raw =
      { s with stats := { s.stats with
          lines := s.stats.lines + 1, blank := s.stats.blank + 1 } } := by
  unfold push
  rw [h]
  rfl

theorem push_of_ok (hne : raw.trim ≠ []) {r : Record}
    (hr : (read p s.tracker s.stats.lines raw.trim).result = .ok r) :
    let reading := read p s.tracker s.stats.lines raw.trim
    s.push p raw = ⟨reading.tracker,
      ⟨s.stats.lines + 1, s.stats.blank, s.stats.parsed + 1, s.stats.malformed,
        s.stats.rollovers + reading.turned.toNat⟩,
      s.records.push r, s.malformed, s.signals ++ reading.signals p.format s.stats.lines⟩ := by
  unfold push
  dsimp only
  rw [if_neg (by simpa using hne), hr]
  cases (read p s.tracker s.stats.lines raw.trim).turned <;> rfl

theorem push_of_error (hne : raw.trim ≠ []) {e : Fault}
    (he : (read p s.tracker s.stats.lines raw.trim).result = .error e) :
    let reading := read p s.tracker s.stats.lines raw.trim
    s.push p raw = ⟨reading.tracker,
      ⟨s.stats.lines + 1, s.stats.blank, s.stats.parsed, s.stats.malformed + 1,
        s.stats.rollovers + reading.turned.toNat⟩,
      s.records, s.malformed.push ⟨s.stats.lines, e⟩,
      s.signals ++ reading.signals p.format s.stats.lines⟩ := by
  unfold push
  dsimp only
  rw [if_neg (by simpa using hne), he]
  cases (read p s.tracker s.stats.lines raw.trim).turned <;> rfl

end

/-- A line adds at most one record, under the number of the line. -/
theorem push_cases (p : Pipeline) (s : Ingest) (raw : Text) :
    (s.push p raw).stats.lines = s.stats.lines + 1 ∧
      ((s.push p raw).records = s.records ∨
        ∃ r, (read p s.tracker s.stats.lines raw.trim).result = .ok r ∧
          (s.push p raw).records = s.records.push r) := by
  by_cases hblank : raw.trim = []
  · rw [push_of_blank hblank]
    exact ⟨rfl, Or.inl rfl⟩
  · cases hr : (read p s.tracker s.stats.lines raw.trim).result with
    | error e =>
      rw [push_of_error hblank hr]
      exact ⟨rfl, Or.inl rfl⟩
    | ok r =>
      rw [push_of_ok hblank hr]
      exact ⟨rfl, Or.inr ⟨r, rfl, rfl⟩⟩

/-- What holds between two lines. -/
structure Sound (p : Pipeline) (s : Ingest) : Prop where
  reads : ∀ r ∈ s.records.toList, p.Reads r
  seq_lt : ∀ r ∈ s.records.toList, r.seq < s.stats.lines
  sorted : s.records.toList.Pairwise fun a b => a.seq < b.seq

theorem sound_start (p : Pipeline) : (start p).Sound p where
  reads := by simp [start]
  seq_lt := by simp [start]
  sorted := by simp [start]

theorem Sound.push {p : Pipeline} (hp : p.parser = .builtin p.format) {s : Ingest} (h : s.Sound p)
    (raw : Text) : (s.push p raw).Sound p := by
  obtain ⟨hlines, hrecords | ⟨r, hr, hrecords⟩⟩ := push_cases p s raw
  · refine ⟨?_, ?_, ?_⟩
    · rw [hrecords]
      exact h.reads
    · intro r hr
      rw [hrecords] at hr
      have := h.seq_lt r hr
      omega
    · rw [hrecords]
      exact h.sorted
  · obtain ⟨hseq, hline⟩ := read_frame hp hr
    obtain ⟨year, made, hmade, rfl⟩ := read_eq_ok hr
    have hmem : ∀ r ∈ (s.push p raw).records.toList, r ∈ s.records.toList ∨
        r = Enricher.applyAll p.enrichers made := by
      intro r hr
      rw [hrecords, Array.toList_push, List.mem_append, List.mem_singleton] at hr
      exact hr
    refine ⟨?_, ?_, ?_⟩
    · intro r hr
      rcases hmem r hr with hr | rfl
      · exact h.reads r hr
      · exact ⟨year, made, by rw [hseq, hline]; exact hmade, rfl⟩
    · intro r hr
      rw [hlines]
      rcases hmem r hr with hr | rfl
      · exact Nat.lt_succ_of_lt (h.seq_lt r hr)
      · omega
    · rw [hrecords, Array.toList_push, List.pairwise_append]
      refine ⟨h.sorted, List.pairwise_singleton _ _, ?_⟩
      intro a ha b hb
      rw [List.mem_singleton.mp hb, hseq]
      exact h.seq_lt a ha

theorem Sound.pushAll {p : Pipeline} (hp : p.parser = .builtin p.format) {s : Ingest}
    (h : s.Sound p) (lines : List Text) : (s.pushAll p lines).Sound p := by
  induction lines generalizing s with
  | nil => exact h
  | cons raw lines ih => exact ih (h.push hp raw)

end Ingest

namespace Pipeline

variable {p : Pipeline}

theorem parseLines_sound (hp : p.parser = .builtin p.format) (lines : List Text) :
    (∀ r ∈ (p.parseLines lines).1.records, p.Reads r) ∧
      (p.parseLines lines).1.records.Pairwise fun a b => a.seq < b.seq := by
  have h := (Ingest.sound_start p).pushAll hp lines
  exact ⟨h.reads, h.sorted⟩

/-- The line of a record opens with a stamp of its timestamp, and the rest of the record comes from
what stands behind that stamp. -/
theorem Reads.stamped (hp : p.parser = .builtin p.format) {r : Record} (h : p.Reads r) :
    ∃ stamp t make, Stamp.read? p.format.surface (stamp.text ++ t) = some (stamp, t) ∧
      r.logline = p.format.lead ++ (stamp.text ++ t) ∧
      stamp.fields.resolve (some r.timestamp.year) false = .ok r.timestamp ∧
      Line.body? p.format r.seq t = some make ∧
      r = Enricher.applyAll p.enrichers (make r.timestamp r.logline) := by
  obtain ⟨year, made, hmade, hr⟩ := h
  rw [hp] at hmade
  obtain ⟨stamp, t, ts, make, hread, hline, hts, hbody, rfl⟩ :=
    LineParser.parse_builtin_eq_ok_iff.mp hmade
  have htemplate := Line.template_of_body? hbody
  have htime : r.timestamp = ts := by
    rw [hr, Enricher.timestamp_applyAll, htemplate.timestamp_eq]
  subst htime
  exact ⟨stamp, t, make, hread, hline, DateFields.resolve_year hts, hbody, hr⟩

theorem Reads.shows (hp : p.parser = .builtin p.format) {r : Record} (h : p.Reads r) :
    p.format.Shows r.timestamp := by
  obtain ⟨year, made, hmade, rfl⟩ := h
  rw [hp] at hmade
  rw [Enricher.timestamp_applyAll]
  exact (LineParser.frame_of_parse hmade).2.2.2

theorem isLeap_of_mem_parseLines (hp : p.parser = .builtin p.format) {lines : List Text}
    {r : Record} (hr : r ∈ (p.parseLines lines).1.records) : r.timestamp.isLeap = false :=
  (((parseLines_sound hp lines).1 r hr).shows hp).1

end Pipeline

end LogShift
