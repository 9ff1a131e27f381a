import LogShift.Proofs.Line.Reread
import LogShift.Proofs.Record

/-! Lines that name no year. Such a line is a record in one year exactly as in any other that has
its day, and a day of January is in all of them. -/
namespace LogShift

/-- What a stamp without a year shows of a moment. -/
def Moment.yearlessFields (t : Moment) : DateFields :=
  ⟨none, none, t.month, t.date.day, t.clock.hour, t.clock.minute, t.clock.second, 0⟩

theorem DateFields.resolve_unchecked {f : DateFields} {context : Option Int} {t : Moment}
    (hyear : f.year.or context = some t.year) (hmonth : f.month = t.month)
    (hday : f.day = t.date.day)
    (hclock : Clock.ofHms? f.hour f.minute f.second f.nanos = some t.clock) :
    f.resolve context false = .ok t := by
  have hdate : Date.ofYmd? t.year f.month f.day = some t.date :=
    Date.ofYmd?_eq_some_iff.mpr ⟨rfl, hmonth.symm, hday.symm⟩
  unfold resolve
  rw [hyear]
  dsimp only
  rw [hdate]
  dsimp only
  rw [hclock]
  cases f.weekday <;> rfl

/-- The moment of a stamp without a year is the one of its parts in the year of the context. -/
theorem Stamp.resolve_syslog_iff {s : Stamp} (hs : s.surface = .syslog) {y : Int} {t : Moment} :
    s.fields.resolve (some y) false = .ok t ↔
      t.year = y ∧ s.fields = t.yearlessFields ∧ t.clock.nanos = 0 := by
  cases s with
  | ctime => cases hs
  | iso => cases hs
  | syslog month day blanks clock =>
    constructor
    · intro h
      obtain ⟨hyear, hmonth, hday, hclock⟩ := DateFields.resolve_eq_ok h
      obtain ⟨-, hhour, hminute, hsecond, hnanos⟩ := Clock.ofHms?_eq_some_iff.mp hclock
      refine ⟨(Option.some.inj hyear).symm, ?_, hnanos⟩
      unfold Moment.yearlessFields
      rw [← hmonth, ← hday, hhour, hminute, hsecond]
      rfl
    · intro h
      obtain ⟨rfl, hfields, hnanos⟩ := h
      rw [hfields]
      have hlt : t.clock.nanos < nanosPerSecond := by
        rw [hnanos]
        decide
      exact DateFields.resolve_unchecked rfl rfl rfl
        (Clock.ofHms?_eq_some_iff.mpr ⟨hlt, rfl, rfl, rfl, hnanos⟩)

/-- What stands behind a stamp is read alike under every number. -/
theorem Line.body?_withSeq {f : LogFormat} {seq : Nat} {t : Text} {make : Moment → Text → Record}
    (h : body? f seq t = some make) (seq' : Nat) :
    body? f seq' t = some fun ts line => (make ts line).withSeq seq' := by
  cases f with
  | apache =>
    simp only [body?, Apache.body?, bind, Option.bind_eq_some_iff, pure, Option.some.injEq] at h ⊢
    obtain ⟨_, h₁, _, h₂, _, h₃, _, h₄, _, h₅, rfl⟩ := h
    exact ⟨_, h₁, _, h₂, _, h₃, _, h₄, _, h₅, rfl⟩
  | hadoop =>
    simp only [body?, Hadoop.body?, bind, Option.bind_eq_some_iff, pure, Option.some.injEq,
      Option.bind_none, Option.ite_none_left_eq_some] at h ⊢
    obtain ⟨_, h₁, hseverity, _, h₂, _, h₃, _, h₄, _, h₅, _, h₆, _, h₇, rfl⟩ := h
    exact ⟨_, h₁, hseverity, _, h₂, _, h₃, _, h₄, _, h₅, _, h₆, _, h₇, rfl⟩
  | linux =>
    simp only [body?, Linux.body?, bind, Option.bind_eq_some_iff, pure, Option.some.injEq] at h ⊢
    obtain ⟨_, h₁, _, h₂, rfl⟩ := h
    exact ⟨_, h₁, _, h₂, rfl⟩
  | openssh =>
    simp only [body?, OpenSsh.body?, bind, Option.bind_eq_some_iff, pure, Option.some.injEq] at h ⊢
    obtain ⟨_, h₁, _, h₂, _, h₃, rfl⟩ := h
    exact ⟨_, h₁, _, h₂, _, h₃, rfl⟩

/-- A line is read alike under every number. -/
theorem LineParser.parse_withSeq {f : LogFormat} {seq : Nat} {year : Int} {line : Text} {r : Record}
    (h : (builtin f).parse ⟨seq, year⟩ line = .ok r) (seq' : Nat) :
    (builtin f).parse ⟨seq', year⟩ line = .ok (r.withSeq seq') := by
  obtain ⟨stamp, t, ts, make, hread, hline, hts, hbody, rfl⟩ := parse_builtin_eq_ok_iff.mp h
  exact parse_builtin_eq_ok_iff.mpr
    ⟨stamp, t, ts, _, hread, hline, hts, Line.body?_withSeq hbody seq', rfl⟩

/-- A line with a year of its own is read alike in every year. -/
theorem LineParser.parse_of_hasYear {f : LogFormat} (hf : f.hasYear = true) {seq : Nat}
    {year : Int} {line : Text} {r : Record} (h : (builtin f).parse ⟨seq, year⟩ line = .ok r)
    (year' : Int) : (builtin f).parse ⟨seq, year'⟩ line = .ok r := by
  obtain ⟨stamp, t, ts, make, hread, hline, hts, hbody, rfl⟩ := parse_builtin_eq_ok_iff.mp h
  have hsurface : stamp.surface.hasYear = true := by
    rw [(Stamp.read?_eq_some_iff.mp hread).1]
    cases f with
    | apache => rfl
    | hadoop => rfl
    | linux => cases hf
    | openssh => cases hf
  rw [Stamp.resolve_of_hasYear hsurface _ (some year')] at hts
  exact parse_builtin_eq_ok_iff.mpr ⟨stamp, t, ts, make, hread, hline, hts, hbody, rfl⟩

theorem LogFormat.lead_of_yearless {f : LogFormat} (hf : f.hasYear = false) : f.lead = [] := by
  cases f with
  | apache => cases hf
  | _ => rfl

theorem LogFormat.ne_linux_of_hasYear {f : LogFormat} (hf : f.hasYear = true) : f ≠ .linux := by
  intro h
  rw [h] at hf
  cases hf

/-- Only the stamps of syslog show no year. -/
theorem LogFormat.surface_eq_syslog_iff {f : LogFormat} :
    f.surface = .syslog ↔ f.hasYear = false := by
  cases f <;> decide

namespace LineParser

variable {f : LogFormat} {line : Text} {r : Record}

/-- When a line without a year is a record of the year of its context. -/
theorem parse_yearless_iff (hf : f.hasYear = false) {ctx : Context} :
    (builtin f).parse ctx line = .ok r ↔ ∃ stamp t ts make,
      Stamp.read? f.surface line = some (stamp, t) ∧ ts.year = ctx.year ∧
      stamp.fields = ts.yearlessFields ∧ ts.clock.nanos = 0 ∧
      Line.body? f ctx.seq t = some make ∧ r = make ts line := by
  have hsurface := LogFormat.surface_eq_syslog_iff.mpr hf
  have hlead := LogFormat.lead_of_yearless hf
  rw [parse_builtin_eq_ok_iff]
  constructor
  · intro h
    obtain ⟨stamp, t, ts, make, hread, hline, hts, hbody, rfl⟩ := h
    have hs := (Stamp.read?_eq_some_iff.mp hread).1
    obtain ⟨hyear, hfields, hnanos⟩ := (Stamp.resolve_syslog_iff (hs.trans hsurface)).mp hts
    rw [hlead, List.nil_append] at hline
    rw [← hline] at hread
    exact ⟨stamp, t, ts, make, hread, hyear, hfields, hnanos, hbody, rfl⟩
  · intro h
    obtain ⟨stamp, t, ts, make, hread, hyear, hfields, hnanos, hbody, rfl⟩ := h
    obtain ⟨hs, -, hline, -⟩ := Stamp.read?_eq_some_iff.mp hread
    refine ⟨stamp, t, ts, make, hline ▸ hread, ?_, ?_, hbody, rfl⟩
    · rw [hlead, List.nil_append]
      exact hline
    · exact (Stamp.resolve_syslog_iff (hs.trans hsurface)).mpr ⟨hyear, hfields, hnanos⟩

theorem year_of_parse (hf : f.hasYear = false) {ctx : Context}
    (h : (builtin f).parse ctx line = .ok r) : r.timestamp.year = ctx.year := by
  obtain ⟨stamp, t, ts, make, -, hyear, -, -, hbody, rfl⟩ := (parse_yearless_iff hf).mp h
  rw [(Line.template_of_body? hbody).timestamp_eq]
  exact hyear

/-- A line is a record of every moment that its stamp shows. -/
theorem parse_of_fields (hf : f.hasYear = false) {ctx : Context}
    (h : (builtin f).parse ctx line = .ok r) {stamp : Stamp} {rest : Text}
    (hread : Stamp.read? f.surface line = some (stamp, rest)) {v : Moment}
    (hfields : stamp.fields = v.yearlessFields) (hnanos : v.clock.nanos = 0) (seq : Nat) :
    ∃ r', (builtin f).parse ⟨seq, v.year⟩ line = .ok r' ∧ r'.timestamp = v := by
  obtain ⟨stamp', rest', ts, make, hread', -, -, -, hbody, -⟩ := (parse_yearless_iff hf).mp h
  rw [hread] at hread'
  cases hread'
  have hbody' := Line.body?_withSeq hbody seq
  refine ⟨(make v line).withSeq seq, ?_, (Line.template_of_body? hbody').timestamp_eq _ _⟩
  exact (parse_yearless_iff hf).mpr
    ⟨stamp, rest, v, _, hread, rfl, hfields, hnanos, hbody', rfl⟩

/-- A line of January is a record of every year of the calendar. -/
theorem parse_january (hf : f.hasYear = false) {seq : Nat} {y y' : Int}
    (h : (builtin f).parse ⟨seq, y⟩ line = .ok r) (hmonth : r.timestamp.month = 1)
    (hy' : minYear ≤ y' ∧ y' ≤ maxYear) :
    ∃ r', (builtin f).parse ⟨seq, y'⟩ line = .ok r' ∧ r'.timestamp.month = 1 := by
  obtain ⟨stamp, rest, ts, make, hread, -, hfields, hnanos, hbody, rfl⟩ :=
    (parse_yearless_iff hf).mp h
  rw [(Line.template_of_body? hbody).timestamp_eq] at hmonth
  have hday : 1 ≤ ts.date.day ∧ ts.date.day ≤ daysInMonth y' 1 := by
    have hmem := ts.date.day_mem
    rw [show ts.date.month = 1 from hmonth] at hmem
    exact hmem
  let v : Moment := ⟨⟨y', 1, ts.date.day, hy', by decide, hday⟩, ts.clock⟩
  have hsame : stamp.fields = v.yearlessFields := by
    rw [hfields]
    unfold Moment.yearlessFields
    rw [hmonth]
    rfl
  obtain ⟨r', hr', htime⟩ := parse_of_fields hf h hread hsame hnanos seq
  exact ⟨r', hr', by rw [htime]; rfl⟩

end LineParser

end LogShift
