import LogShift.Proofs.Batch.Ingest
import LogShift.Proofs.Line.Year

/-! A pass over lines that are all accepted: its records are those of the lines, numbered from 0. The
number of a line decides nothing else about its record. -/
namespace LogShift.Ingest

variable {p : Pipeline} {s : Ingest} {raw : Text} {r : Record}

/-- An accepted line is accepted under every number, with the same effect on the year. -/
theorem read_withSeq (hp : p.parser = .builtin p.format) {tracker : YearTracker} {seq : Nat}
    {line : Text} (h : (read p tracker seq line).result = .ok r) (seq' : Nat) :
    read p tracker seq' line =
      ⟨(read p tracker seq line).tracker, (read p tracker seq line).turned,
        .ok (r.withSeq seq')⟩ := by
  have hparse : ∀ {year : Int} {made : Record}, p.parser.parse ⟨seq, year⟩ line = .ok made →
      p.parser.parse ⟨seq', year⟩ line = .ok (made.withSeq seq') := by
    intro year made hmade
    rw [hp] at hmade ⊢
    exact LineParser.parse_withSeq hmade seq'
  have henrich := Enricher.applyAll_withSeq p.enrichers seq'
  unfold read at h ⊢
  by_cases hlen : p.config.maxLineLength < line.width
  · rw [if_pos hlen] at h
    cases h
  · rw [if_neg hlen] at h
    rw [if_neg hlen, if_neg hlen]
    cases hmade : p.parser.parse ⟨seq, tracker.year⟩ line with
    | error e =>
      rw [hmade] at h
      cases h
    | ok made =>
      rw [hmade] at h
      rw [hparse hmade]
      dsimp only at h ⊢
      rw [Record.timestamp_withSeq, henrich]
      by_cases hyear : p.format.hasYear = true
      · rw [if_pos hyear] at h
        rw [if_pos hyear, if_pos hyear, ← Except.ok.inj h]
      · rw [if_neg hyear] at h
        rw [if_neg hyear, if_neg hyear]
        by_cases hturn : tracker.advances made.timestamp.month = true
        · rw [if_pos hturn] at h
          rw [if_pos hturn, if_pos hturn]
          cases hagain : p.parser.parse ⟨seq, (tracker.step made.timestamp.month).year⟩ line with
          | error e =>
            rw [hagain] at h
            cases h
          | ok again =>
            rw [hagain] at h
            rw [hparse hagain, Except.map, henrich, ← Except.ok.inj h]
        · rw [if_neg hturn] at h
          rw [if_neg hturn, if_neg hturn, ← Except.ok.inj h]

/-- The state of a pass that has taken in the lines of `rs` and no other line. -/
structure Holds (rs : List Record) (s : Ingest) : Prop where
  records_eq : s.records.toList = Record.renumber rs
  lines_eq : s.stats.lines = rs.length
  blank_eq : s.stats.blank = 0
  malformed_eq : s.stats.malformed = 0
  malformed_nil : s.malformed.toList = []

theorem holds_start (p : Pipeline) : (start p).Holds [] where
  records_eq := rfl
  lines_eq := rfl
  blank_eq := rfl
  malformed_eq := rfl
  malformed_nil := rfl

/-- One more accepted line: its record takes the next number. -/
theorem Holds.push {rs : List Record} (h : s.Holds rs) (hp : p.parser = .builtin p.format)
    (hraw : raw.trim ≠ []) {seq : Nat} (hr : (read p s.tracker seq raw.trim).result = .ok r) :
    (s.push p raw).Holds (rs ++ [r]) ∧
      (s.push p raw).tracker = (read p s.tracker seq raw.trim).tracker ∧
      (s.push p raw).stats.rollovers =
        s.stats.rollovers + (read p s.tracker seq raw.trim).turned.toNat := by
  have hread := read_withSeq hp hr s.stats.lines
  have hok : (read p s.tracker s.stats.lines raw.trim).result = .ok (r.withSeq s.stats.lines) := by
    rw [hread]
  rw [push_of_ok hraw hok, hread]
  refine ⟨⟨?_, ?_, h.blank_eq, h.malformed_eq, h.malformed_nil⟩, rfl, rfl⟩
  · have hconcat : Record.renumber (rs ++ [r]) = Record.renumber rs ++ [r.withSeq rs.length] :=
      List.mapIdx_concat
    rw [Array.toList_push, h.records_eq, h.lines_eq, hconcat]
  · have hlength : (rs ++ [r]).length = rs.length + 1 := List.length_append
    rw [hlength, ← h.lines_eq]

/-- The lines of records that read back as those records, whatever the year. -/
theorem Holds.pushAll {rs rs' : List Record} (h : s.Holds rs) (hp : p.parser = .builtin p.format)
    (htrim : ∀ r ∈ rs', r.logline.trim = r.logline ∧ r.logline ≠ [])
    (hread : ∀ r ∈ rs', ∀ tracker, (read p tracker r.seq r.logline).result = .ok r) :
    (s.pushAll p (rs'.map Record.logline)).Holds (rs ++ rs') := by
  induction rs' generalizing s rs with
  | nil =>
    rw [List.append_nil]
    exact h
  | cons r rs' ih =>
    obtain ⟨hline, hne⟩ := htrim r List.mem_cons_self
    have hr := hread r List.mem_cons_self s.tracker
    rw [← hline] at hr hne
    have hpush := (h.push hp hne hr).1
    have hrest := ih hpush (fun r' hr' => htrim r' (List.mem_cons_of_mem _ hr'))
      (fun r' hr' => hread r' (List.mem_cons_of_mem _ hr'))
    rw [List.append_assoc] at hrest
    exact hrest

end LogShift.Ingest
