import LogShift.Proofs.Batch.Ingest
import LogShift.Proofs.Line.Fault

/-! The first pass keeps account of every line: a line is blank, or it is one record or one fault
under its own number, and the counters say how many there are of each. -/
namespace LogShift

/-- Numbers below `n` that grow. -/
structure Numbered (n : Nat) (ks : List Nat) : Prop where
  lt : ∀ k ∈ ks, k < n
  sorted : ks.Pairwise (· < ·)

namespace Numbered

variable {n : Nat} {ks : List Nat}

theorem nil (n : Nat) : Numbered n [] :=
  ⟨by simp, List.Pairwise.nil⟩

theorem succ (h : Numbered n ks) : Numbered (n + 1) ks :=
  ⟨fun k hk => Nat.lt_succ_of_lt (h.lt k hk), h.sorted⟩

theorem concat (h : Numbered n ks) : Numbered (n + 1) (ks ++ [n]) := by
  constructor
  · intro k hk
    rcases List.mem_append.mp hk with hk | hk
    · exact Nat.lt_succ_of_lt (h.lt k hk)
    · rw [List.mem_singleton.mp hk]
      exact Nat.lt_succ_self n
  · rw [List.pairwise_append]
    refine ⟨h.sorted, List.pairwise_singleton _ _, ?_⟩
    intro k hk m hm
    rw [List.mem_singleton.mp hm]
    exact h.lt k hk

end Numbered

theorem getElem?_concat_eq_some_iff {α : Type} {l : List α} {a b : α} {k : Nat} :
    (l ++ [a])[k]? = some b ↔ l[k]? = some b ∨ k = l.length ∧ b = a := by
  by_cases hk : k < l.length
  · rw [List.getElem?_append_left hk]
    constructor
    · exact Or.inl
    · intro h
      rcases h with h | h
      · exact h
      · omega
  · rw [List.getElem?_append_right (by omega), List.getElem?_eq_none (show l.length ≤ k by omega)]
    by_cases hend : k = l.length
    · subst hend
      simp [eq_comm]
    · rw [List.getElem?_eq_none (by simp; omega)]
      simp [hend]

/-- Two lists of line numbers that share no number and together have those of all lines that are not
blank. -/
structure Divides (lines : List Text) (left right : List Nat) : Prop where
  left_numbered : Numbered lines.length left
  right_numbered : Numbered lines.length right
  apart : ∀ k ∈ left, k ∉ right
  mem_iff : ∀ k, k ∈ left ∨ k ∈ right ↔ ∃ raw, lines[k]? = some raw ∧ raw.trim ≠ []

namespace Divides

variable {lines : List Text} {left right : List Nat} {raw : Text}

theorem nil : Divides [] [] [] where
  left_numbered := Numbered.nil 0
  right_numbered := Numbered.nil 0
  apart := by simp
  mem_iff := by simp

theorem symm (h : Divides lines left right) : Divides lines right left where
  left_numbered := h.right_numbered
  right_numbered := h.left_numbered
  apart := fun k hr hl => h.apart k hl hr
  mem_iff := fun k => or_comm.trans (h.mem_iff k)

theorem blank (h : Divides lines left right) (hraw : raw.trim = []) :
    Divides (lines ++ [raw]) left right := by
  have hlen : (lines ++ [raw]).length = lines.length + 1 := by simp
  refine ⟨?_, ?_, h.apart, ?_⟩
  · rw [hlen]
    exact h.left_numbered.succ
  · rw [hlen]
    exact h.right_numbered.succ
  · intro k
    rw [h.mem_iff]
    constructor
    · intro hk
      obtain ⟨line, hline, hne⟩ := hk
      exact ⟨line, getElem?_concat_eq_some_iff.mpr (Or.inl hline), hne⟩
    · intro hk
      obtain ⟨line, hline, hne⟩ := hk
      rcases getElem?_concat_eq_some_iff.mp hline with hold | hnew
      · exact ⟨line, hold, hne⟩
      · rw [hnew.2] at hne
        exact absurd hraw hne

theorem concat_left (h : Divides lines left right) (hraw : raw.trim ≠ []) :
    Divides (lines ++ [raw]) (left ++ [lines.length]) right := by
  have hlen : (lines ++ [raw]).length = lines.length + 1 := by simp
  refine ⟨?_, ?_, ?_, ?_⟩
  · rw [hlen]
    exact h.left_numbered.concat
  · rw [hlen]
    exact h.right_numbered.succ
  · intro k hk hr
    rcases List.mem_append.mp hk with hk | hk
    · exact h.apart k hk hr
    · have hlt := h.right_numbered.lt k hr
      rw [List.mem_singleton.mp hk] at hlt
      exact Nat.lt_irrefl _ hlt
  · intro k
    have hold := h.mem_iff k
    rw [List.mem_append, List.mem_singleton]
    constructor
    · intro hk
      by_cases hend : k = lines.length
      · exact ⟨raw, getElem?_concat_eq_some_iff.mpr (Or.inr ⟨hend, rfl⟩), hraw⟩
      · have hin : k ∈ left ∨ k ∈ right := by
          rcases hk with (hk | hk) | hk
          · exact Or.inl hk
          · exact absurd hk hend
          · exact Or.inr hk
        obtain ⟨line, hline, hne⟩ := hold.mp hin
        exact ⟨line, getElem?_concat_eq_some_iff.mpr (Or.inl hline), hne⟩
    · intro hk
      obtain ⟨line, hline, hne⟩ := hk
      rcases getElem?_concat_eq_some_iff.mp hline with hline | hnew
      · rcases hold.mpr ⟨line, hline, hne⟩ with hk | hk
        · exact Or.inl (Or.inl hk)
        · exact Or.inr hk
      · exact Or.inl (Or.inr hnew.1)

theorem concat_right (h : Divides lines left right) (hraw : raw.trim ≠ []) :
    Divides (lines ++ [raw]) left (right ++ [lines.length]) :=
  (h.symm.concat_left hraw).symm

end Divides

/-- Why a line is left out: it is too long, or the grammar refuses it and the fault carries it. -/
def Pipeline.Refuses (p : Pipeline) (line : Text) (e : Fault) : Prop :=
  (e = .tooLarge line.width p.config.maxLineLength ↔ p.config.maxLineLength < line.width) ∧
    (¬p.config.maxLineLength < line.width →
      ∃ offset reason, e = .malformed p.format offset reason line)

namespace Ingest

variable {p : Pipeline}

theorem refuses_of_blames {line : Text} {e : Fault} (hlen : ¬p.config.maxLineLength < line.width)
    {α : Type} {x : Except Fault α} (hx : Line.Blames p.format line x) (he : x = .error e) :
    p.Refuses line e := by
  obtain ⟨offset, reason, rfl⟩ := hx e he
  refine ⟨?_, fun _ => ⟨offset, reason, rfl⟩⟩
  constructor
  · intro h
    cases h
  · intro h
    exact absurd h hlen

theorem read_refuses (hp : p.parser = .builtin p.format) {tracker : YearTracker} {seq : Nat}
    {line : Text} {e : Fault} (h : (read p tracker seq line).result = .error e) :
    p.Refuses line e := by
  have hblames : ∀ year, Line.Blames p.format line (p.parser.parse ⟨seq, year⟩ line) := by
    intro year
    rw [hp]
    exact LineParser.parse_builtin_blames p.format ⟨seq, year⟩ line
  unfold read at h
  split at h
  · rename_i hlen
    obtain rfl := Except.error.inj h
    exact ⟨⟨fun _ => hlen, fun _ => rfl⟩, fun hshort => absurd hlen hshort⟩
  · rename_i hlen
    split at h
    · rename_i e' he'
      obtain rfl := Except.error.inj h
      exact refuses_of_blames hlen (hblames _) he'
    · split at h
      · cases h
      · dsimp only at h
        split at h
        · exact refuses_of_blames hlen ((hblames _).map _) h
        · cases h

/-- The account of `lines` once they are taken in. -/
structure Accounts (p : Pipeline) (lines : List Text) (s : Ingest) : Prop where
  lines_eq : s.stats.lines = lines.length
  total : s.stats.lines = s.stats.blank + s.stats.parsed + s.stats.malformed
  parsed_eq : s.stats.parsed = s.records.size
  malformed_eq : s.stats.malformed = s.malformed.size
  divides : Divides lines (s.records.toList.map Record.seq)
    (s.malformed.toList.map MalformedLine.seq)
  record_of : ∀ r ∈ s.records.toList, ∃ raw, lines[r.seq]? = some raw ∧ r.logline = raw.trim
  fault_of : ∀ e ∈ s.malformed.toList, ∃ raw, lines[e.seq]? = some raw ∧ p.Refuses raw.trim e.fault

theorem accounts_start (p : Pipeline) : (start p).Accounts p [] where
  lines_eq := rfl
  total := rfl
  parsed_eq := rfl
  malformed_eq := rfl
  divides := Divides.nil
  record_of := by simp [start]
  fault_of := by simp [start]

namespace Accounts

variable {lines : List Text} {s : Ingest} {raw : Text}

theorem record_of_concat (h : s.Accounts p lines) (raw : Text) :
    ∀ r ∈ s.records.toList, ∃ line, (lines ++ [raw])[r.seq]? = some line ∧
      r.logline = line.trim := by
  intro r hr
  obtain ⟨line, hline, heq⟩ := h.record_of r hr
  exact ⟨line, getElem?_concat_eq_some_iff.mpr (Or.inl hline), heq⟩

theorem fault_of_concat (h : s.Accounts p lines) (raw : Text) :
    ∀ e ∈ s.malformed.toList, ∃ line, (lines ++ [raw])[e.seq]? = some line ∧
      p.Refuses line.trim e.fault := by
  intro e he
  obtain ⟨line, hline, hfault⟩ := h.fault_of e he
  exact ⟨line, getElem?_concat_eq_some_iff.mpr (Or.inl hline), hfault⟩

theorem push_blank (h : s.Accounts p lines) (hraw : raw.trim = []) :
    (s.push p raw).Accounts p (lines ++ [raw]) := by
  have hlines := h.lines_eq
  have htotal := h.total
  rw [push_of_blank hraw]
  refine ⟨?_, ?_, h.parsed_eq, h.malformed_eq, h.divides.blank hraw, h.record_of_concat raw,
    h.fault_of_concat raw⟩
  · simp [hlines]
  · dsimp only
    omega

theorem push_record (h : s.Accounts p lines) (hp : p.parser = .builtin p.format)
    (hraw : raw.trim ≠ []) {r : Record}
    (hr : (read p s.tracker s.stats.lines raw.trim).result = .ok r) :
    (s.push p raw).Accounts p (lines ++ [raw]) := by
  have hlines := h.lines_eq
  have htotal := h.total
  obtain ⟨hseq, hline⟩ := read_frame hp hr
  rw [push_of_ok hraw hr]
  refine ⟨?_, ?_, ?_, h.malformed_eq, ?_, ?_, h.fault_of_concat raw⟩
  · simp [hlines]
  · dsimp only
    omega
  · simp [h.parsed_eq]
  · have hdivides := h.divides.concat_left hraw
    rw [← hlines, ← hseq] at hdivides
    simpa using hdivides
  · intro r' hr'
    rw [Array.toList_push, List.mem_append, List.mem_singleton] at hr'
    rcases hr' with hold | rfl
    · exact h.record_of_concat raw r' hold
    · exact ⟨raw, getElem?_concat_eq_some_iff.mpr (Or.inr ⟨hseq.trans hlines, rfl⟩), hline⟩

theorem push_fault (h : s.Accounts p lines) (hp : p.parser = .builtin p.format)
    (hraw : raw.trim ≠ []) {e : Fault}
    (he : (read p s.tracker s.stats.lines raw.trim).result = .error e) :
    (s.push p raw).Accounts p (lines ++ [raw]) := by
  have hlines := h.lines_eq
  have htotal := h.total
  rw [push_of_error hraw he]
  refine ⟨?_, ?_, h.parsed_eq, ?_, ?_, h.record_of_concat raw, ?_⟩
  · simp [hlines]
  · dsimp only
    omega
  · simp [h.malformed_eq]
  · have hdivides := h.divides.concat_right hraw
    rw [← hlines] at hdivides
    simpa using hdivides
  · intro e' he'
    rw [Array.toList_push, List.mem_append, List.mem_singleton] at he'
    rcases he' with hold | rfl
    · exact h.fault_of_concat raw e' hold
    · exact ⟨raw, getElem?_concat_eq_some_iff.mpr (Or.inr ⟨hlines, rfl⟩), read_refuses hp he⟩

theorem push (h : s.Accounts p lines) (hp : p.parser = .builtin p.format) (raw : Text) :
    (s.push p raw).Accounts p (lines ++ [raw]) := by
  by_cases hraw : raw.trim = []
  · exact h.push_blank hraw
  · cases hr : (read p s.tracker s.stats.lines raw.trim).result with
    | ok r => exact h.push_record hp hraw hr
    | error e => exact h.push_fault hp hraw hr

theorem pushAll (h : s.Accounts p lines) (hp : p.parser = .builtin p.format)
    (more : List Text) : (s.pushAll p more).Accounts p (lines ++ more) := by
  induction more generalizing s lines with
  | nil =>
    rw [List.append_nil]
    exact h
  | cons raw more ih =>
    rw [List.append_cons]
    exact ih (h.push hp raw)

end Accounts

/-- The first pass loses no line, takes none twice and keeps their order. Records and faults have
growing numbers, which are together those of the lines that are not blank. A record carries its line
without the white space around it; a fault either gives the size of a line that is too long, or
carries the line too. -/
theorem pushAll_accounts {config : BatchConfig} {given : List Enricher}
    (hbuild : Pipeline.build config none given = .ok p) (lines : List Text) :
    let s := (start p).pushAll p lines
    s.stats.lines = lines.length ∧
    s.stats.lines = s.stats.blank + s.stats.parsed + s.stats.malformed ∧
    s.stats.parsed = s.records.toList.length ∧
    s.stats.malformed = s.malformed.toList.length ∧
    (s.records.toList.map Record.seq).Pairwise (· < ·) ∧
    (s.malformed.toList.map MalformedLine.seq).Pairwise (· < ·) ∧
    (∀ r ∈ s.records.toList, ∀ e ∈ s.malformed.toList, r.seq ≠ e.seq) ∧
    (∀ k, (∃ r ∈ s.records.toList, r.seq = k) ∨ (∃ e ∈ s.malformed.toList, e.seq = k) ↔
      ∃ raw, lines[k]? = some raw ∧ raw.trim ≠ []) ∧
    (∀ r ∈ s.records.toList, ∃ raw, lines[r.seq]? = some raw ∧ r.logline = raw.trim) ∧
    ∀ e ∈ s.malformed.toList, ∃ raw, lines[e.seq]? = some raw ∧
      (e.fault = .tooLarge raw.trim.width config.maxLineLength ↔
        config.maxLineLength < raw.trim.width) ∧
      (¬config.maxLineLength < raw.trim.width →
        ∃ offset reason, e.fault = .malformed config.format offset reason raw.trim) := by
  intro s
  obtain ⟨rfl, hp⟩ := Pipeline.build_eq_ok hbuild
  have h : s.Accounts p lines := (accounts_start p).pushAll hp lines
  have hmem := h.divides.mem_iff
  simp only [List.mem_map] at hmem
  refine ⟨h.lines_eq, h.total, ?_, ?_, h.divides.left_numbered.sorted,
    h.divides.right_numbered.sorted, ?_, hmem, h.record_of, h.fault_of⟩
  · rw [h.parsed_eq, Array.length_toList]
  · rw [h.malformed_eq, Array.length_toList]
  · intro r hr e he heq
    refine h.divides.apart r.seq (List.mem_map_of_mem hr) ?_
    rw [heq]
    exact List.mem_map_of_mem he

theorem pushAll_accounts_mixed :
    let config : BatchConfig := { BatchConfig.forFormat .linux with maxLineLength := 48 }
    let lines : List Text := ["  ".toList, "Jun 14 15:16:01 combo su(pam_unix)[1]: opened  ".toList,
      "no stamp".toList, "Jun 14 15:16:02 combo su(pam_unix)[1]: opened for user root".toList]
    ∃ p, Pipeline.build config none [] = .ok p ∧
      let s := (start p).pushAll p lines
      s.stats = ⟨4, 1, 1, 2, 0⟩ ∧ s.records.toList.map Record.seq = [1] ∧
      s.malformed.toList.map MalformedLine.seq = [2, 3] ∧
      s.stats.parsed = s.records.toList.length ∧
      s.stats.malformed = s.malformed.toList.length ∧
      ∀ r ∈ s.records.toList, ∃ raw, lines[r.seq]? = some raw ∧ r.logline = raw.trim := by
  intro config lines
  let p : Pipeline := ⟨config, .builtin .linux, Enricher.builtin .linux⟩
  have hbuild : Pipeline.build config none [] = .ok p := rfl
  obtain ⟨-, -, hparsed, hmalformed, -, -, -, -, hrecords, -⟩ := pushAll_accounts hbuild lines
  exact ⟨p, hbuild, by decide +kernel, by decide +kernel, by decide +kernel, hparsed, hmalformed,
    hrecords⟩

end Ingest

end LogShift
