import LogShift.Proofs.Batch.Normalize
import Mathlib.Data.List.Nodup

/-! A record and its line never disagree: the stamp of each moved line shows the moved timestamp,
and the moved line reads back as the moved record. -/
namespace LogShift.Pipeline

variable {p : Pipeline} {lines : List Text} {now : Moment} {batch : NormalizedBatch}

/-- A moved timestamp can be shown by the lines of its format. -/
theorem shows_of_run (hp : p.parser = .builtin p.format) (hrun : (p.run lines now).1 = .ok batch)
    {r : Record} (hr : r ∈ (p.parseLines lines).1.records) {s : Moment}
    (hadd : r.timestamp.add? batch.shift.delta = some s) : p.format.Shows s := by
  have hreads := (parseLines_sound hp lines).1
  obtain ⟨hnow, ⟨top, htop, hnew⟩, -, -, hnanos⟩ := shift_of_run hp hrun
  have hdvd : (p.format.unit : Int) ∣ batch.shift.delta.nanos := by
    rw [hnanos, hnow, ← hnew]
    exact Int.dvd_sub (p.format.shows_truncate now).unit_dvd_instant
      ((hreads top htop).shows hp).unit_dvd_instant
  exact ((hreads r hr).shows hp).add? hdvd hadd

/-- Records of one batch with one number are one record. -/
theorem eq_of_seq_eq (hp : p.parser = .builtin p.format) {r r' : Record}
    (hr : r ∈ (p.parseLines lines).1.records) (hr' : r' ∈ (p.parseLines lines).1.records)
    (h : r.seq = r'.seq) : r = r' := by
  have hnodup : ((p.parseLines lines).1.records.map Record.seq).Nodup :=
    List.pairwise_map.mpr ((parseLines_sound hp lines).2.imp fun h => Nat.ne_of_lt h)
  exact List.inj_on_of_nodup_map hnodup hr hr' h

section
variable {r : Record} {delta : Span} {s : Moment}

/-- The line of a moved record reads back as its timestamp, and as the record itself where no other
date is moved. -/
theorem Reads.parse_moved (hp : p.parser = .builtin p.format) (h : p.Reads r)
    (hadd : r.timestamp.add? delta = some s) (hs : p.format.Shows s)
    (hy : 0 ≤ s.year ∧ s.year ≤ 9999) :
    let r' := (Embedded.moveDates p.format r r.timestamp delta).1.withTimestamp s
    ∃ again, (LineParser.builtin p.format).parse ⟨r.seq, s.year⟩ r'.logline = .ok again ∧
      again.timestamp = s ∧ again.format = p.format ∧
      (p.format ≠ .linux → Enricher.applyAll p.enrichers again = r') := by
  intro r'
  obtain ⟨stamp, t, make, hread, hline, hstamp, hbody, hmake⟩ := h.stamped hp
  let u := Embedded.newTail p.format stamp t r.timestamp delta
  let line := p.format.lead ++ (stamp.render s ++ u)
  have hnew : Embedded.newText p.format .logline r.logline r.timestamp delta = line := by
    rw [hline, Embedded.newText_header hread (Line.close_of_body? hbody) hstamp hadd, if_pos hy]
  have hline' : r'.logline = line := by
    simp only [r', Embedded.moveDates_record, Record.logline_withTimestamp,
      Record.logline_withMsg, Record.logline_withLogline, hnew]
  obtain ⟨make', hmake'⟩ : ∃ make', Line.body? p.format r.seq u = some make' :=
    Embedded.body?_newTail hread hbody
  have htemplate := Line.template_of_body? hmake'
  rw [hline']
  have hparse := LineParser.parse_render (Embedded.read?_newTail hread) hmake' hs fun _ => hy
  refine ⟨make' s line, hparse, htemplate.timestamp_eq _ _, htemplate.format_eq _ _, ?_⟩
  intro hf
  have hu : u = t := Embedded.newTail_of_ne_linux hf
  rw [hu, hbody] at hmake'
  obtain rfl := Option.some.inj hmake'
  calc Enricher.applyAll p.enrichers (make s line)
      = Enricher.applyAll p.enrichers
          (((make r.timestamp r.logline).withLogline line).withTimestamp s) := by
        rw [htemplate.withLogline_eq, htemplate.withTimestamp_eq]
    _ = ((Enricher.applyAll p.enrichers (make r.timestamp r.logline)).withLogline
          line).withTimestamp s := by
        rw [Enricher.applyAll_withTimestamp, Enricher.applyAll_withLogline]
    _ = (r.withLogline line).withTimestamp s := by rw [← hmake]
    _ = r' := by
        have hmsg := (r.withLogline line).withMsg_msg
        rw [Record.msg_withLogline] at hmsg
        simp only [r', Embedded.moveDates_record, hnew, if_neg hf, hmsg]

/-- What becomes of the stamp of a line. -/
theorem Reads.header_moved (hp : p.parser = .builtin p.format) (h : p.Reads r)
    (hadd : r.timestamp.add? delta = some s) :
    let moved := Embedded.moveDates p.format r r.timestamp delta
    ∃ header : Located, p.format.header? r.logline = some header ∧
      (0 ≤ s.year ∧ s.year ≤ 9999 →
        ⟨.logline, header.start, header.stop, r.timestamp, header.stamp.style⟩ ∈ moved.2.1.moved ∧
        (∀ a ∈ moved.2.1.ambiguous, a.field = .logline → header.start < a.offset) ∧
        ∃ u, moved.1.logline = r.logline.takeBytes header.start ++ (header.stamp.render s ++ u)) ∧
      (¬(0 ≤ s.year ∧ s.year ≤ 9999) →
        ⟨.logline, header.start, header.stamp.surface, header.stamp.text,
          .yearOutOfRange s.year⟩ ∈ moved.2.1.ambiguous ∧
        moved.1.logline.takeBytes header.stop = r.logline.takeBytes header.stop) := by
  intro moved
  obtain ⟨stamp, t, make, hread, hline, hstamp, hbody, -⟩ := h.stamped hp
  have hclose := Line.close_of_body? hbody
  have hnew := Embedded.newText_header hread hclose hstamp hadd
  rw [← hline] at hnew
  have htext :
      moved.1.logline = Embedded.newText p.format .logline r.logline r.timestamp delta := by
    simp only [moved, Embedded.moveDates_record, Record.logline_withMsg,
      Record.logline_withLogline]
  have hlead : r.logline.takeBytes p.format.lead.width = p.format.lead := by
    rw [hline, Text.takeBytes_width_append]
  have houtcome := Embedded.moveDates_outcome p.format r r.timestamp delta
  have hheader : p.format.header? r.logline = some ⟨p.format.lead.width, stamp⟩ := by
    rw [hline]
    exact LogFormat.header?_eq_some hread
  refine ⟨⟨p.format.lead.width, stamp⟩, hheader, ?_, ?_⟩
  · intro hy
    obtain ⟨hin, hbehind⟩ := Embedded.outcome_header hread hclose hstamp hadd hy
    rw [← hline] at hin hbehind
    rw [if_pos hy] at hnew
    refine ⟨?_, ?_, Embedded.newTail p.format stamp t r.timestamp delta, ?_⟩
    · rw [houtcome]
      exact List.mem_append_left _ hin
    · intro a ha hfield
      have hlt := Located.start_lt_stop (m := ⟨p.format.lead.width, stamp⟩)
        (Stamp.read?_eq_some_iff.mp hread).2.1
      rw [houtcome] at ha
      rcases List.mem_append.mp ha with ha | ha
      · exact Nat.lt_of_lt_of_le hlt (hbehind a ha)
      · split at ha
        · rw [Embedded.field_of_mem_ambiguous ha] at hfield
          cases hfield
        · cases ha
    · rw [htext, hnew, hlead]
  · intro hy
    have hout := Embedded.outcome_header_of_year hread hclose hstamp hadd hy
    rw [← hline] at hout
    rw [if_neg hy] at hnew
    have hstop :
        Located.stop ⟨p.format.lead.width, stamp⟩ = (p.format.lead ++ stamp.text).width := by
      rw [Text.width_append]
      rfl
    refine ⟨?_, ?_⟩
    · rw [houtcome]
      exact List.mem_append_left _ hout
    · rw [htext, hnew, hline, hstop, ← List.append_assoc, ← List.append_assoc,
        Text.takeBytes_width_append, Text.takeBytes_width_append]

end

/-- Every record moves together with the stamp of its line. If the new year has four digits, the
stamp is moved, is reported nowhere, and the new line reads back as the moved timestamp; in the
formats that move nothing but the stamp it reads back as the whole moved record. Otherwise the stamp
is reported for its year and stays. -/
theorem run_reparse {config : BatchConfig} {given : List Enricher}
    (hbuild : build config none given = .ok p) (hrun : (p.run lines now).1 = .ok batch)
    {i : Nat} {r : Record} (hr : (p.parseLines lines).1.records[i]? = some r) :
    ∃ (r' : Record) (s : Moment) (header : Located),
      batch.records[i]? = some r' ∧ r.timestamp.add? batch.shift.delta = some s ∧
      r'.timestamp = s ∧ p.format.header? r.logline = some header ∧
      (0 ≤ s.year ∧ s.year ≤ 9999 →
        ⟨.logline, header.start, header.stop, r.timestamp, header.stamp.style⟩ ∈
          (Embedded.moveDates p.format r r.timestamp batch.shift.delta).2.1.moved ∧
        (∀ a ∈ batch.ambiguous, ¬(a.seq = r.seq ∧ a.date.field = .logline ∧
          a.date.offset = header.start)) ∧
        (∃ u, r'.logline = r.logline.takeBytes header.start ++ (header.stamp.render s ++ u)) ∧
        ∃ again, (LineParser.builtin p.format).parse ⟨r.seq, s.year⟩ r'.logline = .ok again ∧
          again.timestamp = s ∧
          (p.format = .apache ∨ p.format = .hadoop → again = r') ∧
          (p.format = .openssh → Enricher.applyAll p.enrichers again = r')) ∧
      (¬(0 ≤ s.year ∧ s.year ≤ 9999) →
        ⟨r.seq, .logline, header.start, header.stamp.surface, header.stamp.text,
          .yearOutOfRange s.year⟩ ∈ batch.ambiguous ∧
        r'.logline.takeBytes header.stop = r.logline.takeBytes header.stop) := by
  obtain ⟨-, hp⟩ := build_eq_ok hbuild
  have hmem := List.mem_of_getElem? hr
  have hreads := (parseLines_sound hp lines).1 r hmem
  obtain ⟨-, -, -, hmoved, hambiguous⟩ := run_eq_ok hrun
  obtain ⟨r', hr', s, hadd, rfl⟩ := exists_of_forall₂ hmoved hr
  obtain ⟨header, hheader, hin, hout⟩ := hreads.header_moved hp hadd
  refine ⟨_, s, header, hr', hadd, Record.timestamp_withTimestamp _ _, hheader, ?_, ?_⟩
  · intro hy
    obtain ⟨haccount, hbehind, hnew⟩ := hin hy
    obtain ⟨again, hparse, htime, hformat, hsame⟩ :=
      hreads.parse_moved hp hadd (shows_of_run hp hrun hmem hadd) hy
    rw [Record.logline_withTimestamp] at hparse ⊢
    refine ⟨haccount, ?_, hnew, again, hparse, htime, ?_, ?_⟩
    · rintro a ha ⟨hseq, hfield, hoffset⟩
      rw [hambiguous] at ha
      obtain ⟨other, hother, ha⟩ := List.mem_flatMap.mp ha
      obtain ⟨date, hdate, rfl⟩ := List.mem_map.mp ha
      obtain rfl := eq_of_seq_eq hp hother hmem hseq
      have hlt := hbehind date hdate hfield
      rw [show date.offset = header.start from hoffset] at hlt
      exact Nat.lt_irrefl _ hlt
    · intro hf
      have hlinux : p.format ≠ .linux := by rcases hf with hf | hf <;> simp [hf]
      have hssh : again.format ≠ .openssh := by
        rw [hformat]
        rcases hf with hf | hf <;> simp [hf]
      rw [← hsame hlinux, Enricher.applyAll_of_format_ne _ hssh]
    · intro hf
      exact hsame (by simp [hf])
  · intro hy
    obtain ⟨hreport, hbytes⟩ := hout hy
    rw [Record.logline_withTimestamp]
    refine ⟨?_, hbytes⟩
    rw [hambiguous]
    exact List.mem_flatMap.mpr ⟨r, hmem, List.mem_map.mpr ⟨_, hreport, rfl⟩⟩

theorem run_reparse_leapDay :
    let lines : List Text :=
      ["Dec 31 23:59:58 LabSZ sshd[7]: Invalid user ann from 10.0.0.1".toList,
        "Jan  1 00:00:03 LabSZ sshd[8]: pam_unix(sshd:auth)".toList]
    let now : Moment := ⟨⟨2024, 3, 1, by decide, by decide, by decide⟩,
      ⟨2, 500000000, by decide, by decide, by decide⟩⟩
    let line : Text := "Feb 29 23:59:57 LabSZ sshd[7]: Invalid user ann from 10.0.0.1".toList
    ∃ p batch r r', build (.forFormat .openssh) none [] = .ok p ∧
      (p.run lines now).1 = .ok batch ∧ (p.parseLines lines).1.records[0]? = some r ∧
      batch.records[0]? = some r' ∧ r'.logline = line ∧ r'.timestamp.year = 2024 ∧
      ∃ again, (LineParser.builtin .openssh).parse ⟨r.seq, 2024⟩ line = .ok again ∧
        again.timestamp = r'.timestamp ∧ Enricher.applyAll p.enrichers again = r' := by
  intro lines now line
  let p : Pipeline := ⟨.forFormat .openssh, .builtin .openssh, Enricher.builtin .openssh⟩
  have hbuild : build (.forFormat .openssh) none [] = .ok p := rfl
  have hfirst : ((p.run lines now).1.toOption.bind fun b => b.records[0]?.map fun r =>
      (r.logline, r.timestamp.year)) = some (line, 2024) := by
    decide +kernel
  have hparsed : (p.parseLines lines).1.records[0]?.isSome = true := by
    decide +kernel
  obtain ⟨r, hr⟩ := Option.isSome_iff_exists.mp hparsed
  cases hrun : (p.run lines now).1 with
  | error e =>
    rw [hrun] at hfirst
    cases hfirst
  | ok batch =>
    obtain ⟨r', s, header, hr', hadd, rfl, hheader, hin, hout⟩ := run_reparse hbuild hrun hr
    rw [hrun] at hfirst
    simp only [Except.toOption, Option.bind_some, hr', Option.map_some, Option.some.injEq,
      Prod.mk.injEq] at hfirst
    obtain ⟨hline, hyear⟩ := hfirst
    obtain ⟨-, -, -, again, hparse, htime, -, hsame⟩ := hin (by rw [hyear]; decide)
    rw [hline, hyear] at hparse
    exact ⟨p, batch, r, r', hbuild, hrun, hr, hr', hline, hyear, again, hparse, htime, hsame rfl⟩

end LogShift.Pipeline
