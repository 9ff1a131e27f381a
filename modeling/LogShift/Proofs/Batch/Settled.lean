import LogShift.Proofs.Batch.Account
import LogShift.Proofs.Batch.Delivery
import LogShift.Proofs.Batch.Renumber
import LogShift.Proofs.Batch.Reparse
import LogShift.Proofs.Line.Trim
import LogShift.Proofs.Stamp.Place

/-! Batches that are taken in again. A record is settled if its line shows its timestamp in full, with
the right weekday; a run leaves settled records behind, and a second run by the same clock does not
move them. -/
namespace LogShift

namespace Shift

theorem newest?_congr {rs rs' : List Record}
    (h : rs.map Record.timestamp = rs'.map Record.timestamp) : newest? rs = newest? rs' := by
  cases rs with
  | nil =>
    rw [List.map_nil, List.nil_eq, List.map_eq_nil_iff] at h
    rw [h]
  | cons r rs =>
    obtain ⟨r', rs', rfl, hr, hrs⟩ := List.map_eq_cons_iff.mp h.symm
    have hfold : ∀ (us : List Record) (t : Moment),
        us.foldl (fun t r => t.later r.timestamp) t = (us.map Record.timestamp).foldl Moment.later t := by
      intro us t
      rw [List.foldl_map]
    rw [newest?, newest?, hfold, hfold, hr, hrs]

/-- A timestamp that none exceeds is the newest. -/
theorem newest?_of_max {rs : List Record} (hleap : ∀ r ∈ rs, r.timestamp.isLeap = false)
    {m : Moment} (hmem : ∃ r ∈ rs, r.timestamp = m)
    (hmax : ∀ r ∈ rs, r.timestamp.instant ≤ m.instant) : newest? rs = some m := by
  obtain ⟨top, htop, rfl⟩ := hmem
  cases hnewest : newest? rs with
  | none =>
    rw [newest?_eq_none hnewest] at htop
    cases htop
  | some t =>
    obtain ⟨⟨r, hr, rfl⟩, hle⟩ := newest?_eq_some hleap hnewest
    have hsame : r.timestamp.instant = top.timestamp.instant :=
      Int.le_antisymm (hmax r hr) (hle top htop)
    rw [Moment.instant_injective (hleap r hr) (hleap top htop) hsame]

end Shift

namespace Record

/-- The line of the record opens with a stamp of its timestamp that nothing can be corrected in, and
no white space stands at its end. -/
def Settled (f : LogFormat) (r : Record) : Prop :=
  ∃ stamp t, Stamp.read? f.surface (stamp.text ++ t) = some (stamp, t) ∧
    r.logline = f.lead ++ (stamp.text ++ t) ∧ (f = .apache → ∃ u, t = ']' :: u) ∧
    t.trimEnd = t ∧ stamp.fields.resolve (some r.timestamp.year) true = .ok r.timestamp ∧
    0 ≤ r.timestamp.year ∧ r.timestamp.year ≤ 9999

variable {f : LogFormat} {r : Record}

theorem Settled.withSeq (h : r.Settled f) (n : Nat) : (r.withSeq n).Settled f := by
  unfold Settled
  rw [logline_withSeq, timestamp_withSeq]
  exact h

theorem Settled.trim (h : r.Settled f) : r.logline.trim = r.logline ∧ r.logline ≠ [] := by
  obtain ⟨stamp, t, hread, hline, -, htrim, -⟩ := h
  have hshaped := (Stamp.read?_eq_some_iff.mp hread).2.1
  refine ⟨?_, ?_⟩
  · rw [hline, f.trim_append hshaped, htrim]
  · intro hnil
    rw [hline] at hnil
    exact Stamp.text_ne_nil hshaped (List.append_eq_nil_iff.mp (List.append_eq_nil_iff.mp hnil).2).1

open Embedded in
/-- Moved by nothing, a settled line stays as it is, and no date is left in place. -/
theorem Settled.moveText (h : r.Settled f) (hf : f ≠ .linux) :
    newText f .logline r.logline r.timestamp ⟨0⟩ = r.logline ∧
      (Embedded.moveText f .logline r.logline r.timestamp ⟨0⟩).outcome.ambiguous = [] := by
  obtain ⟨stamp, t, hread, hline, hclose, -, hchecked, hy⟩ := h
  have hshaped := (Stamp.read?_eq_some_iff.mp hread).2.1
  have hstamp := (DateFields.resolve_of_checked hchecked).1
  have hstay := Moment.add?_zero (DateFields.isLeap_of_resolve hstamp)
  rw [hline]
  refine ⟨?_, ?_⟩
  · rw [newText_header hread hclose hstamp hstay, if_pos hy, newTail_of_ne_linux hf, Stamp.render,
      Stamp.place_of_checked hshaped hchecked]
  · have hmove := moveLocated_header (m := ⟨f.lead.width, stamp⟩) hstamp hstay
    rw [if_pos hy] at hmove
    rw [moveText_outcome, locate_header hread hclose, laterDates, if_neg hf]
    apply List.eq_nil_iff_forall_not_mem.mpr
    intro a ha
    obtain ⟨m, hm, herror⟩ := mem_ambiguousOf_iff.mp ha
    rw [List.mem_singleton.mp hm, hmove] at herror
    cases herror

theorem Settled.isLeap (h : r.Settled f) : r.timestamp.isLeap = false := by
  obtain ⟨stamp, t, -, -, -, -, hchecked, -⟩ := h
  exact DateFields.isLeap_of_resolve hchecked

/-- The second pass does not change a settled record that it moves by nothing. -/
theorem Settled.moved (h : r.Settled f) (hf : f ≠ .linux) {shift : Shift}
    (hzero : shift.delta = ⟨0⟩) {r' : Record} (hmoved : Normalize.Moved f shift r r') :
    r = r' := by
  obtain ⟨s, hadd, rfl⟩ := hmoved
  rw [hzero, Moment.add?_zero h.isLeap] at hadd
  obtain rfl := Option.some.inj hadd
  rw [hzero, Embedded.moveDates_record, (h.moveText hf).1, if_neg hf, withLogline_logline,
    withMsg_msg, withTimestamp_timestamp]

theorem Settled.reports (h : r.Settled f) (hf : f ≠ .linux) {shift : Shift}
    (hzero : shift.delta = ⟨0⟩) : Normalize.reports f shift r = [] := by
  have houtcome := Embedded.moveDates_outcome f r r.timestamp ⟨0⟩
  rw [if_neg hf] at houtcome
  rw [Normalize.reports, hzero, houtcome, Outcome.append, (h.moveText hf).2]
  rfl

end Record

/-- A line that names its year reads back as its record in whatever year it comes. -/
theorem Ingest.read_of_reads {p : Pipeline} (hp : p.parser = .builtin p.format)
    (hf : p.format.hasYear = true) {r : Record} (h : p.Reads r)
    (hlen : r.logline.width ≤ p.config.maxLineLength) (tracker : YearTracker) :
    (read p tracker r.seq r.logline).result = .ok r := by
  obtain ⟨year, made, hmade, hr⟩ := h
  rw [hp] at hmade
  have hparse : p.parser.parse ⟨r.seq, tracker.year⟩ r.logline = .ok made := by
    rw [hp]
    exact LineParser.parse_of_hasYear hf hmade tracker.year
  unfold read
  rw [if_neg (Nat.not_lt.mpr hlen), hparse]
  dsimp only
  rw [if_pos hf, ← hr]

namespace Pipeline

variable {p : Pipeline} {lines : List Text} {now : Moment} {batch : NormalizedBatch}

/-- No white space stands at the end of a line that was taken in. -/
theorem trimEnd_of_mem_parseLines (hp : p.parser = .builtin p.format) {r : Record}
    (hr : r ∈ (p.parseLines lines).1.records) {stamp : Stamp} (hs : stamp.Shaped) {t : Text}
    (hline : r.logline = p.format.lead ++ (stamp.text ++ t)) : t.trimEnd = t := by
  have haccounts := (Ingest.accounts_start p).pushAll hp lines
  obtain ⟨raw, -, hraw⟩ := haccounts.record_of r hr
  have hcut : r.logline.trimEnd = r.logline := by
    rw [hraw]
    exact Text.trimEnd_trimEnd _
  rw [hline, Stamp.trimEnd_append hs] at hcut
  exact List.append_cancel_left (List.append_cancel_left hcut)

/-- A run that leaves no date in place leaves settled records that read back from their lines. -/
theorem settled_of_run (hp : p.parser = .builtin p.format) (hf : p.format ≠ .linux)
    (hrun : (p.run lines now).1 = .ok batch) (hclean : batch.ambiguous = []) {r' : Record}
    (hr' : r' ∈ batch.records) : r'.Settled p.format ∧ p.Reads r' := by
  obtain ⟨-, -, -, hmoved, hambiguous⟩ := run_eq_ok hrun
  obtain ⟨i, hi⟩ := List.getElem?_of_mem hr'
  obtain ⟨r, hr, s, hadd, rfl⟩ := exists_of_forall₂ hmoved.flip hi
  have hmem := List.mem_of_getElem? hr
  have hreads := (parseLines_sound hp lines).1 r hmem
  have hshows := shows_of_run hp hrun hmem hadd
  have hnone : (Embedded.moveDates p.format r r.timestamp batch.shift.delta).2.1.ambiguous = [] := by
    rw [hclean] at hambiguous
    have hreports := List.flatMap_eq_nil_iff.mp hambiguous.symm r hmem
    exact List.map_eq_nil_iff.mp hreports
  have hy : 0 ≤ s.year ∧ s.year ≤ 9999 := by
    by_contra hy
    obtain ⟨header, -, -, hout⟩ := hreads.header_moved hp hadd
    have hreport := (hout hy).1
    rw [hnone] at hreport
    cases hreport
  obtain ⟨stamp, t, make, hread, hline, hstamp, hbody, -⟩ := hreads.stamped hp
  obtain ⟨hsurface, hshaped, -⟩ := Stamp.read?_eq_some_iff.mp hread
  have hclose := Line.close_of_body? hbody
  have hnew : (Embedded.moveDates p.format r r.timestamp batch.shift.delta).1.logline =
      p.format.lead ++ ((stamp.place s).text ++ t) := by
    rw [Embedded.moveDates_record, Record.logline_withMsg, Record.logline_withLogline, hline,
      Embedded.newText_header hread hclose hstamp hadd, if_pos hy,
      Embedded.newTail_of_ne_linux hf]
    rfl
  refine ⟨⟨stamp.place s, t, Stamp.read?_render hread fun _ => hy, ?_, hclose,
    trimEnd_of_mem_parseLines hp hmem hshaped hline, ?_, ?_⟩, ?_⟩
  · rw [Record.logline_withTimestamp]
    exact hnew
  · rw [Record.timestamp_withTimestamp, Stamp.resolve_place hshows.1 (Or.inr rfl),
      hshows.cut_eq (hsurface ▸ p.format.surface_unit)]
  · rw [Record.timestamp_withTimestamp]
    exact hy
  · obtain ⟨again, hparse, -, -, hsame⟩ := hreads.parse_moved hp hadd hshows hy
    refine ⟨s.year, again, ?_, (hsame hf).symm⟩
    rw [hp, Record.seq_withTimestamp, Embedded.moveDates_record, Record.seq_withMsg,
      Record.seq_withLogline, ← Embedded.moveDates_record]
    exact hparse

/-- The newest moved timestamp is that of the clock. -/
theorem newest_of_run (hp : p.parser = .builtin p.format)
    (hrun : (p.run lines now).1 = .ok batch) :
    Shift.newest? batch.records = some (p.format.truncate now) := by
  obtain ⟨hnow, ⟨top, htop, hnew⟩, hmax, -, hnanos⟩ := shift_of_run hp hrun
  obtain ⟨-, -, -, hmoved, -⟩ := run_eq_ok hrun
  have hinstant : ∀ {r r' : Record}, r ∈ (p.parseLines lines).1.records →
      Normalize.Moved p.format batch.shift r r' → r'.timestamp.isLeap = false ∧
        r'.timestamp.instant = r.timestamp.instant + batch.shift.delta.nanos := by
    intro r r' hr h
    obtain ⟨-, hinstant, hleap, -⟩ := h.spec (isLeap_of_mem_parseLines hp hr)
    exact ⟨hleap, hinstant⟩
  have hold : ∀ r' ∈ batch.records, ∃ r ∈ (p.parseLines lines).1.records,
      Normalize.Moved p.format batch.shift r r' := by
    intro r' hr'
    obtain ⟨i, hi⟩ := List.getElem?_of_mem hr'
    obtain ⟨r, hr, h⟩ := exists_of_forall₂ hmoved.flip hi
    exact ⟨r, List.mem_of_getElem? hr, h⟩
  apply Shift.newest?_of_max
  · intro r' hr'
    obtain ⟨r, hr, h⟩ := hold r' hr'
    exact (hinstant hr h).1
  · obtain ⟨i, hi⟩ := List.getElem?_of_mem htop
    obtain ⟨r', hr', h⟩ := exists_of_forall₂ hmoved hi
    obtain ⟨hleap, hsum⟩ := hinstant htop h
    refine ⟨r', List.mem_of_getElem? hr', ?_⟩
    apply Moment.instant_injective hleap (p.format.truncate_isLeap now)
    rw [hsum, hnew, hnanos, hnow]
    omega
  · intro r' hr'
    obtain ⟨r, hr, h⟩ := hold r' hr'
    have hle := hmax r hr
    have hsum := (hinstant hr h).2
    rw [hnanos, hnow] at hsum
    omega

/-- Settled records go through a run unchanged if the newest of them has the time of the clock. -/
theorem run_of_settled (hp : p.parser = .builtin p.format) (hf : p.format.hasYear = true)
    {rs : List Record} (hsettled : ∀ r ∈ rs, r.Settled p.format ∧ p.Reads r)
    (hlen : ∀ r ∈ rs, r.logline.width ≤ p.config.maxLineLength)
    (hnewest : Shift.newest? rs = some (p.format.truncate now)) :
    ∃ again, (p.run (rs.map Record.logline) now).1 = .ok again ∧ again.shift.delta = ⟨0⟩ ∧
      again.stats.blank = 0 ∧ again.stats.malformed = 0 ∧ again.malformed = [] ∧
      again.ambiguous = [] ∧ again.records = Record.renumber rs := by
  have hlinux := LogFormat.ne_linux_of_hasYear hf
  have hholds : ((Ingest.start p).pushAll p (rs.map Record.logline)).Holds rs :=
    (Ingest.holds_start p).pushAll hp (fun r hr => (hsettled r hr).1.trim) fun r hr =>
      Ingest.read_of_reads hp hf (hsettled r hr).2 (hlen r hr)
  have hrecords : (p.parseLines (rs.map Record.logline)).1.records = Record.renumber rs :=
    hholds.records_eq
  have hstill : ∀ r ∈ Record.renumber rs, r.Settled p.format := by
    intro r hr
    obtain ⟨r₀, hr₀, n, rfl⟩ := Record.mem_renumber hr
    exact (hsettled r₀ hr₀).1.withSeq n
  have hnewest' : Shift.newest? (p.parseLines (rs.map Record.logline)).1.records =
      some (p.format.truncate now) := by
    rw [hrecords, Shift.newest?_congr (Record.map_timestamp_renumber rs), hnewest]
  have hspan : (p.format.truncate now).since (p.format.truncate now) = ⟨0⟩ := by
    rw [Moment.since_eq (p.format.truncate_isLeap now) (p.format.truncate_isLeap now), Int.sub_self]
  obtain ⟨again, hrun⟩ : ∃ again, (p.run (rs.map Record.logline) now).1 = .ok again := by
    apply normalize_ok hnewest'
    intro r hr
    rw [hrecords] at hr
    rw [hspan]
    exact ⟨r.timestamp, Moment.add?_zero (hstill r hr).isLeap⟩
  obtain ⟨newest, hnew, hshift, hmoved, hambiguous⟩ := run_eq_ok hrun
  obtain ⟨hstats, hmalformed⟩ := account_of_run hrun
  rw [hnewest', Option.some.injEq] at hnew
  have hzero : again.shift.delta = ⟨0⟩ := by
    rw [hshift, ← hnew]
    exact hspan
  rw [hrecords] at hmoved hambiguous
  refine ⟨again, hrun, hzero, ?_, ?_, ?_, ?_, ?_⟩
  · rw [hstats]
    exact hholds.blank_eq
  · rw [hstats]
    exact hholds.malformed_eq
  · rw [hmalformed]
    exact hholds.malformed_nil
  · rw [hambiguous]
    apply List.flatMap_eq_nil_iff.mpr
    intro r hr
    exact (hstill r hr).reports hlinux hzero
  · have hsame := ((List.forall₂_and_left _ _).mpr ⟨hstill, hmoved⟩).imp fun r r' h =>
      h.1.moved hlinux hzero h.2
    rw [List.forall₂_eq_eq_eq] at hsame
    exact hsame.symm

end Pipeline

end LogShift
