import LogShift.Proofs.Line.Year
import LogShift.Proofs.Stamp.Spelling

/-! The stamp of a line and the runs between its parts. A line is a record if it starts with a stamp
that shows a moment and goes on as its format asks; a part that ends where the next one can only
start is the only one at its place. -/
namespace LogShift

/-- The moment that the parts of a date name, in the year of the context if they name none. A
weekday is not compared. -/
structure DateFields.Denotes (f : DateFields) (context : Option Int) (t : Moment) : Prop where
  year_eq : f.year.or context = some t.year
  month_eq : f.month = t.month
  day_eq : f.day = t.date.day
  hour_eq : t.clock.hour = f.hour
  minute_eq : t.clock.minute = f.minute
  second_eq : t.clock.second = f.second
  nanos_eq : t.clock.nanos = f.nanos

theorem DateFields.denotes_iff {f : DateFields} (hf : f.nanos < nanosPerSecond)
    {context : Option Int} {t : Moment} :
    f.Denotes context t ↔ f.resolve context false = .ok t := by
  constructor
  · intro h
    refine resolve_unchecked h.year_eq h.month_eq h.day_eq ?_
    exact Clock.ofHms?_eq_some_iff.mpr
      ⟨h.nanos_eq ▸ hf, h.hour_eq, h.minute_eq, h.second_eq, h.nanos_eq⟩
  · intro h
    obtain ⟨hyear, hmonth, hday, hclock⟩ := resolve_eq_ok h
    obtain ⟨-, hhour, hminute, hsecond, hnanos⟩ := Clock.ofHms?_eq_some_iff.mp hclock
    exact ⟨hyear, hmonth, hday, hhour, hminute, hsecond, hnanos⟩

namespace Stamp

theorem nanos_lt {s : Stamp} (hs : s.Shaped) : s.fields.nanos < nanosPerSecond := by
  cases s with
  | ctime => exact Nat.zero_lt_succ _
  | syslog => exact Nat.zero_lt_succ _
  | iso year month day clock millis =>
    obtain ⟨-, -, -, -, hmillis⟩ := hs
    show millis * 1000000 < 1000000000
    omega

/-- `p` is a stamp that shows the moment `t`. -/
def Dates (k : Surface) (context : Option Int) (p : Text) (t : Moment) : Prop :=
  ∃ f style, Spelled k p f style ∧ f.Denotes context t

variable {k : Surface} {context : Option Int} {p p' rest rest' : Text} {t t' : Moment}

theorem dates_iff : Dates k context p t ↔ ∃ s : Stamp, s.surface = k ∧ s.Shaped ∧ s.text = p ∧
    s.fields.resolve context false = .ok t := by
  simp only [Dates, spelled_iff]
  constructor
  · intro h
    obtain ⟨f, style, ⟨s, hk, hs, hp, rfl, -⟩, hdenotes⟩ := h
    exact ⟨s, hk, hs, hp, (DateFields.denotes_iff (nanos_lt hs)).mp hdenotes⟩
  · intro h
    obtain ⟨s, hk, hs, hp, ht⟩ := h
    exact ⟨s.fields, s.style, ⟨s, hk, hs, hp, rfl, rfl⟩,
      (DateFields.denotes_iff (nanos_lt hs)).mpr ht⟩

theorem dates_of_hasYear (hk : k.hasYear = true) (context' : Option Int) :
    Dates k context p t ↔ Dates k context' p t := by
  rw [dates_iff, dates_iff]
  refine exists_congr fun s => and_congr_right fun hs => ?_
  rw [resolve_of_hasYear (hs ▸ hk) context context']

/-- One stamp at most stands at the front of a text. -/
theorem Dates.unique (h : Dates k context p t) (h' : Dates k context p' t')
    (hrest : ∀ c ∈ rest.head?, c.isDigit = false) (hrest' : ∀ c ∈ rest'.head?, c.isDigit = false)
    (heq : p ++ rest = p' ++ rest') : p = p' ∧ t = t' ∧ rest = rest' := by
  obtain ⟨s, hk, hs, rfl, ht⟩ := dates_iff.mp h
  obtain ⟨s', hk', hs', rfl, ht'⟩ := dates_iff.mp h'
  have hread : read? k (s.text ++ rest) = some (s, rest) :=
    read?_eq_some_iff.mpr ⟨hk, hs, rfl, fun _ => (Option.any_eq_false _ _).mpr hrest⟩
  have hread' : read? k (s.text ++ rest) = some (s', rest') :=
    read?_eq_some_iff.mpr ⟨hk', hs', heq, fun _ => (Option.any_eq_false _ _).mpr hrest'⟩
  rw [hread] at hread'
  cases hread'
  rw [ht] at ht'
  exact ⟨rfl, Except.ok.inj ht', rfl⟩

end Stamp

namespace Text

theorem forall_head?_append {p : Char → Bool} {s t : Text} (hs : s ≠ [])
    (h : ∀ c ∈ s.head?, p c = false) : ∀ c ∈ (s ++ t).head?, p c = false := by
  rw [List.head?_append_of_ne_nil _ hs]
  exact h

/-- A run of characters that are no blanks ends at blanks, and blanks end at it. -/
theorem head?_isBlank {p : Char → Bool} (hp : ∀ c, isBlank c = true → p c = false) {s : Text}
    (hs : ∀ c ∈ s, p c = true) : ∀ c ∈ s.head?, isBlank c = false := by
  intro c hc
  have hchar := hs c (List.mem_of_mem_head? hc)
  cases hblank : isBlank c with
  | false => rfl
  | true =>
    rw [hp c hblank] at hchar
    cases hchar

theorem IsBlanks.head?_append {p : Char → Bool} (hp : ∀ c, isBlank c = true → p c = false)
    {w : Text} (hw : IsBlanks w) (t : Text) : ∀ c ∈ (w ++ t).head?, p c = false := by
  refine forall_head?_append hw.1 ?_
  intro c hc
  exact hp c (hw.2 c (List.mem_of_mem_head? hc))

theorem IsBlanks.head?_isDigit {w : Text} (hw : IsBlanks w) (t : Text) :
    ∀ c ∈ (w ++ t).head?, c.isDigit = false :=
  hw.head?_append (fun _ => isDigit_of_isBlank) t

/-- Blanks end where the first other character stands. -/
theorem IsBlanks.unique {w w' t t' : Text} (hw : IsBlanks w) (hw' : IsBlanks w')
    (ht : ∀ c ∈ t.head?, isBlank c = false) (ht' : ∀ c ∈ t'.head?, isBlank c = false)
    (h : w ++ t = w' ++ t') : w = w' ∧ t = t' :=
  run_unique hw.2 hw'.2 ht ht' h

theorem afterBlanks?_eq_some_iff_head? {t u : Text} : afterBlanks? t = some u ↔
    ∃ w, IsBlanks w ∧ t = w ++ u ∧ ∀ c ∈ u.head?, isBlank c = false := by
  simp only [afterBlanks?_eq_some_iff, dropWhile_eq_self_iff_head?, IsBlanks]

theorem filter_cutAt?_eq_some_iff {c : Char} {t l r : Text} :
    (cutAt? c t).filter (fun (l, _) => !l.isEmpty) = some (l, r) ↔
      t = l ++ c :: r ∧ c ∉ l ∧ l ≠ [] := by
  rw [Option.filter_eq_some_iff, cutAt?_eq_some_iff]
  simp [and_assoc]

end Text

theorem Line.head?_isDigit_of_body? {f : LogFormat} {seq : Nat} {t : Text}
    {make : Moment → Text → Record} (h : body? f seq t = some make) :
    ∀ c ∈ t.head?, c.isDigit = false := by
  have hblanks : ∀ {u}, Text.afterBlanks? t = some u → ∀ c ∈ t.head?, c.isDigit = false := by
    intro u hu
    obtain ⟨w, hw, rfl, -⟩ := Text.afterBlanks?_eq_some_iff.mp hu
    exact Text.IsBlanks.head?_isDigit hw u
  cases f with
  | apache =>
    obtain ⟨u, rfl⟩ := close_of_body? h rfl
    simp
  | hadoop =>
    obtain ⟨u, hu, -⟩ := Option.bind_eq_some_iff.mp h
    exact hblanks hu
  | linux =>
    obtain ⟨e, he, -⟩ := Option.bind_eq_some_iff.mp h
    obtain ⟨u, hu, -⟩ := Option.bind_eq_some_iff.mp he
    exact hblanks hu
  | openssh =>
    obtain ⟨e, he, -⟩ := Option.bind_eq_some_iff.mp h
    obtain ⟨u, hu, -⟩ := Option.bind_eq_some_iff.mp he
    exact hblanks hu

/-- A line is a record if it starts with a stamp that shows a moment and goes on with the parts of
its format. -/
theorem LineParser.parse_builtin_iff_dates {f : LogFormat} {ctx : Context} {line : Text}
    {r : Record} :
    (builtin f).parse ctx line = .ok r ↔ ∃ p t ts make,
      Stamp.Dates f.surface (some ctx.year) p ts ∧ line = f.lead ++ (p ++ t) ∧
      Line.body? f ctx.seq t = some make ∧ r = make ts line := by
  rw [parse_builtin_eq_ok_iff]
  constructor
  · intro h
    obtain ⟨stamp, t, ts, make, hread, hline, hts, hbody, hr⟩ := h
    obtain ⟨hk, hs, -, -⟩ := Stamp.read?_eq_some_iff.mp hread
    exact ⟨stamp.text, t, ts, make, Stamp.dates_iff.mpr ⟨stamp, hk, hs, rfl, hts⟩, hline, hbody, hr⟩
  · intro h
    obtain ⟨p, t, ts, make, hdates, hline, hbody, hr⟩ := h
    obtain ⟨stamp, hk, hs, rfl, hts⟩ := Stamp.dates_iff.mp hdates
    have hstop := (Option.any_eq_false _ _).mpr (Line.head?_isDigit_of_body? hbody)
    exact ⟨stamp, t, ts, make, Stamp.read?_eq_some_iff.mpr ⟨hk, hs, rfl, fun _ => hstop⟩, hline,
      hts, hbody, hr⟩

end LogShift
