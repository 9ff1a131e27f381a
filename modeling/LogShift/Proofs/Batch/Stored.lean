import LogShift.Proofs.Batch.Account
import LogShift.Proofs.Batch.Reparse
import LogShift.Proofs.Record.Json

/-! The records of a batch are stored as they are: their numbers fit, and their timestamps have no
more digits than the text keeps. -/
namespace LogShift

namespace Line

theorem lt_of_pid? {digits : Text} {n : Nat} (h : pid? digits = some n) : n < 2 ^ 32 := by
  obtain ⟨hlt, hn⟩ := Option.ite_none_right_eq_some.mp h
  cases hn
  exact hlt

theorem Linux.lt_of_number? {source : Text} {o : Option Nat} (h : number? source = some o) :
    ∀ n ∈ o, n < 2 ^ 32 := by
  intro n hn
  unfold number? at h
  split at h
  · cases h
    cases hn
  · obtain ⟨m, hm, rfl⟩ := Option.map_eq_some_iff.mp h
    cases hn
    exact lt_of_pid? hm

theorem pid_lt_of_body? {f : LogFormat} {seq : Nat} {t : Text} {make : Moment → Text → Record}
    (h : body? f seq t = some make) (ts : Moment) (line : Text) :
    ∀ n ∈ (make ts line).pid?, n < 2 ^ 32 := by
  have htemplate := template_of_body? h
  have hformat := htemplate.format_eq ts line
  cases f with
  | apache =>
    cases hmake : make ts line with
    | apache r => simp [Record.pid?]
    | _ => simp [hmake, Record.format] at hformat
  | hadoop =>
    cases hmake : make ts line with
    | hadoop r => simp [Record.pid?]
    | _ => simp [hmake, Record.format] at hformat
  | linux =>
    simp only [body?, Linux.body?, bind, Option.bind_eq_some_iff, pure, Option.some.injEq] at h
    obtain ⟨_, -, pid, hpid, rfl⟩ := h
    exact Linux.lt_of_number? hpid
  | openssh =>
    simp only [body?, OpenSsh.body?, bind, Option.bind_eq_some_iff, pure, Option.some.injEq] at h
    obtain ⟨_, -, _, -, pid, hpid, rfl⟩ := h
    intro n hn
    cases hn
    exact lt_of_pid? hpid

end Line

/-- Moving a record changes neither its format nor its process number. -/
theorem Record.moved_kind (r : Record) (t : Moment) (line msg : Text) :
    (((r.withTimestamp t).withLogline line).withMsg msg).format = r.format ∧
      (((r.withTimestamp t).withLogline line).withMsg msg).pid? = r.pid? := by
  cases r <;> exact ⟨rfl, rfl⟩

namespace Enricher

theorem pid?_apply (e : Enricher) (r : Record) : (e.apply r).pid? = r.pid? := by
  cases r with
  | openssh r =>
    rw [apply_openssh]
    cases e <;> rfl
  | _ => cases e <;> rfl

theorem pid?_applyAll (es : List Enricher) (r : Record) : (applyAll es r).pid? = r.pid? := by
  induction es generalizing r with
  | nil => rfl
  | cons e es ih => exact (ih (e.apply r)).trans (e.pid?_apply r)

end Enricher

namespace Pipeline

variable {p : Pipeline} {lines : List Text} {now : Moment} {batch : NormalizedBatch} {r : Record}

/-- The format and the process number of a record that a line gives. -/
theorem Reads.kind (hp : p.parser = .builtin p.format) (h : p.Reads r) :
    r.format = p.format ∧ ∀ n ∈ r.pid?, n < 2 ^ 32 := by
  obtain ⟨stamp, t, make, -, -, -, hbody, hr⟩ := h.stamped hp
  have htemplate := Line.template_of_body? hbody
  have hpid := Line.pid_lt_of_body? hbody r.timestamp r.logline
  have hformat := (Enricher.applyAll_frame p.enrichers (make r.timestamp r.logline)).1
  rw [← Enricher.pid?_applyAll p.enrichers, ← hr] at hpid
  rw [← hr, htemplate.format_eq] at hformat
  exact ⟨hformat, hpid⟩

theorem seq_lt_of_mem_parseLines (hp : p.parser = .builtin p.format)
    (hr : r ∈ (p.parseLines lines).1.records) : r.seq < lines.length := by
  have haccounts := (Ingest.accounts_start p).pushAll hp lines
  obtain ⟨raw, hraw, -⟩ := haccounts.record_of r hr
  exact (List.getElem?_eq_some_iff.mp hraw).1

theorem stored_of_mem_parseLines (hp : p.parser = .builtin p.format)
    (hlines : lines.length ≤ 2 ^ 64) (hr : r ∈ (p.parseLines lines).1.records) :
    r.Sized ∧ r.stored = r := by
  have hreads := (parseLines_sound hp lines).1 r hr
  obtain ⟨hformat, hpid⟩ := hreads.kind hp
  have hseq : r.seq < 2 ^ 64 := Nat.lt_of_lt_of_le (seq_lt_of_mem_parseLines hp hr) hlines
  have hshows : r.format.Shows r.timestamp := hformat ▸ hreads.shows hp
  exact ⟨⟨hseq, hpid⟩, Record.stored_eq_self hshows⟩

theorem stored_of_mem_run (hp : p.parser = .builtin p.format) (hlines : lines.length ≤ 2 ^ 64)
    (hrun : (p.run lines now).1 = .ok batch) (hr : r ∈ batch.records) :
    r.Sized ∧ r.stored = r := by
  obtain ⟨-, -, -, hmoved, -⟩ := run_eq_ok hrun
  obtain ⟨i, hi⟩ := List.getElem?_of_mem hr
  obtain ⟨parsed, hparsed, hmove⟩ := exists_of_forall₂ hmoved.flip hi
  have hmem := List.mem_of_getElem? hparsed
  have hsized := (stored_of_mem_parseLines hp hlines hmem).1
  have hkind := (((parseLines_sound hp lines).1 parsed hmem).kind hp).1
  obtain ⟨hadd, -, -, hseq, heq, -⟩ := Normalize.Moved.spec hmove (isLeap_of_mem_parseLines hp hmem)
  obtain ⟨hformat, hpid⟩ := parsed.moved_kind r.timestamp r.logline r.msg
  rw [← heq] at hformat hpid
  have hshows : r.format.Shows r.timestamp := by
    rw [hformat, hkind]
    exact shows_of_run hp hrun hmem hadd
  exact ⟨⟨hseq ▸ hsized.seq_lt, hpid ▸ hsized.pid_lt⟩, Record.stored_eq_self hshows⟩

end Pipeline

namespace Record

/-- The JSON text of a record, on one line or indented, is read back as that record with its
timestamp cut down to what the format stores; a leap second stays one. For the records of a batch,
parsed or moved, nothing is cut. -/
theorem jsonText_readBack :
    (∀ r : Record, r.Sized → r.stored.timestamp.isLeap = r.timestamp.isLeap ∧
      ∀ pretty, ofText? (r.jsonText pretty) = some r.stored) ∧
    ∀ config given p, Pipeline.build config none given = .ok p →
      ∀ lines : List Text, lines.length ≤ 2 ^ 64 →
        (∀ r ∈ (p.parseLines lines).1.records, ∀ pretty, ofText? (r.jsonText pretty) = some r) ∧
        ∀ now batch, (p.run lines now).1 = .ok batch →
          ∀ r ∈ batch.records, ∀ pretty, ofText? (r.jsonText pretty) = some r := by
  refine ⟨fun r hr => ⟨r.isLeap_stored, ofText?_jsonText hr⟩, ?_⟩
  intro config given p hbuild lines hlines
  obtain ⟨-, hp⟩ := Pipeline.build_eq_ok hbuild
  constructor
  · intro r hr pretty
    obtain ⟨hsized, hstored⟩ := Pipeline.stored_of_mem_parseLines hp hlines hr
    rw [ofText?_jsonText hsized, hstored]
  · intro now batch hrun r hr pretty
    obtain ⟨hsized, hstored⟩ := Pipeline.stored_of_mem_run hp hlines hrun hr
    rw [ofText?_jsonText hsized, hstored]

/-- A leap second at the end of the last year, with more digits than are stored and characters
that must be escaped; and the lines of a batch with the largest process number. -/
theorem jsonText_readBack_leapSecond :
    let r : Record := .hadoop ⟨18446744073709551615,
      ⟨⟨262142, 12, 31, by decide, by decide, by decide⟩,
        ⟨86399, 1999999999, by decide, by decide, by decide⟩⟩,
      "INFO".toList, "\"main\"\n".toList, [], "\u2028\u0007é".toList, "\\".toList⟩
    let lines : List Text := ["Dec 31 23:59:58 combo sshd[4294967295]: out".toList,
      "Jan  1 00:00:03 combo kernel: \"up\"".toList]
    let now : Moment := ⟨⟨9999, 12, 31, by decide, by decide, by decide⟩,
      ⟨86399, 1500000000, by decide, by decide, by decide⟩⟩
    r.Sized ∧ r.timestamp.isLeap = true ∧ r.stored.timestamp.isLeap = true ∧
      r.stored.timestamp.clock.nanos = 1999999000 ∧
      ofText? (r.jsonText true) = some r.stored ∧ ofText? (r.jsonText false) = some r.stored ∧
      ∃ p batch parsed moved, Pipeline.build (.forFormat .linux) none [] = .ok p ∧
        (p.run lines now).1 = .ok batch ∧ (p.parseLines lines).1.records[0]? = some parsed ∧
        batch.records[0]? = some moved ∧ parsed.pid? = some 4294967295 ∧
        ofText? (parsed.jsonText false) = some parsed ∧
        ofText? (moved.jsonText true) = some moved := by
  intro r lines now
  let p : Pipeline := ⟨.forFormat .linux, .builtin .linux, []⟩
  have hbuild : Pipeline.build (.forFormat .linux) none [] = .ok p := rfl
  have hsized : r.Sized := ⟨by decide, by simp [r, pid?]⟩
  have hnanos : r.stored.timestamp.clock.nanos = 1999999000 := by decide +kernel
  obtain ⟨hleap, htext⟩ := jsonText_readBack.1 r hsized
  have hbatch := jsonText_readBack.2 _ _ p hbuild lines (by decide)
  have hparsed : ((p.parseLines lines).1.records[0]?.bind pid?) = some 4294967295 := by
    decide +kernel
  have hmoved : ((p.run lines now).1.toOption.bind fun b => b.records[0]?).isSome = true := by
    decide +kernel
  obtain ⟨parsed, hfirst, hpid⟩ := Option.bind_eq_some_iff.mp hparsed
  obtain ⟨moved, hmoved⟩ := Option.isSome_iff_exists.mp hmoved
  obtain ⟨batch, hrun, hlast⟩ := Option.bind_eq_some_iff.mp hmoved
  have hrun : (p.run lines now).1 = .ok batch := by
    cases h : (p.run lines now).1 with
    | error e =>
      rw [h] at hrun
      cases hrun
    | ok b =>
      rw [h] at hrun
      rw [Option.some.inj hrun]
  exact ⟨hsized, rfl, hleap, hnanos, htext true, htext false, p, batch, parsed, moved, hbuild, hrun,
    hfirst, hlast, hpid, hbatch.1 parsed (List.mem_of_getElem? hfirst) false,
    hbatch.2 now batch hrun moved (List.mem_of_getElem? hlast) true⟩

end Record

end LogShift
