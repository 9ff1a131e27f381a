import LogShift.Proofs.Cursor.Basic
import LogShift.Proofs.Stamp.Render
import LogShift.Proofs.Stamp.Spelling

/-! Stamps read by a cursor, with the bytes at which their parts stand. What a cursor finds is what
is located by characters, at every byte of a text and also inside a character. -/
namespace LogShift

structure ByteRange where
  start : Nat
  stop : Nat
deriving DecidableEq

/-- Where the parts of a stamp stand. -/
structure StampParts where
  weekday : Option ByteRange
  year : Option ByteRange
  month : ByteRange
  day : ByteRange
  time : ByteRange
  subsecond : Option ByteRange
deriving DecidableEq

/-- A stamp as a cursor finds it. -/
structure Found where
  start : Nat
  stop : Nat
  fields : DateFields
  style : Style
  parts : StampParts
deriving DecidableEq

namespace Cursor

def expect {α : Type} (s : Scan Unit (Option α)) : Scan Unit α :=
  demand (fun _ => ()) s

def weekdayNames : List Text :=
  Weekday.all.map fun w => w.name.toList

def monthField : Scan Unit (Nat × ByteRange) := do
  let start ← pos
  let i ← expect (oneOf monthNames)
  return (i + 1, ⟨start, ← pos⟩)

/-- How a day of `len` digits, the first of them `first`, fills its place behind a gap. -/
def dayLooks (gapStart gap digitsStart len stop : Nat) (first : UInt8) :
    ByteRange × DayPad × Nat :=
  if len = 2 ∧ first = 0x30 then (⟨digitsStart, stop⟩, .zero, len)
  else if len = 1 ∧ gap = 1 then (⟨digitsStart, stop⟩, .none, len)
  else (⟨gapStart, stop⟩, .space, gap + len)

def dayField : Scan Unit (Nat × ByteRange × DayPad × Nat) := do
  let gapStart ← pos
  let gap := (← takeWhile (· == ' ')).width
  if gap = 0 then refuse () else
  let digitsStart ← pos
  let (day, len) ← expect (digits 1 2)
  let first ← need ((← input).byteAt? digitsStart)
  return (day, dayLooks gapStart gap digitsStart len (← pos) first)

def clockField : Scan Unit (ClockField × ByteRange) := do
  let start ← pos
  let hour ← expect (fixedDigits 2)
  expect (eat ':')
  let minute ← expect (fixedDigits 2)
  expect (eat ':')
  let second ← expect (fixedDigits 2)
  return (⟨hour, minute, second⟩, ⟨start, ← pos⟩)

def ctime : Scan Unit Found := do
  let start ← pos
  let i ← expect (oneOf weekdayNames)
  let weekdayStop ← pos
  expect (eat ' ')
  let (month, monthRange) ← monthField
  let (day, dayRange, pad, width) ← dayField
  expect (eat ' ')
  let (clock, time) ← clockField
  expect (eat ' ')
  let yearStart ← pos
  let year ← expect (fixedDigits 4)
  let stop ← pos
  let weekday ← need Weekday.all[i]?
  return {
    start, stop
    fields := ⟨some weekday, some year, month, day, clock.hour, clock.minute, clock.second, 0⟩
    style := ⟨.ctime, pad, width, 0⟩
    parts := ⟨some ⟨start, weekdayStop⟩, some ⟨yearStart, stop⟩, monthRange, dayRange, time, none⟩ }

def syslog : Scan Unit Found := do
  let start ← pos
  let (month, monthRange) ← monthField
  let (day, dayRange, pad, width) ← dayField
  expect expectBlanks
  let (clock, time) ← clockField
  return {
    start, stop := ← pos
    fields := ⟨none, none, month, day, clock.hour, clock.minute, clock.second, 0⟩
    style := ⟨.syslog, pad, width, 0⟩
    parts := ⟨none, none, monthRange, dayRange, time, none⟩ }

def iso : Scan Unit Found := do
  let start ← pos
  let year ← expect (fixedDigits 4)
  let yearStop ← pos
  expect (eat '-')
  let monthStart ← pos
  let month ← expect (fixedDigits 2)
  let monthStop ← pos
  expect (eat '-')
  let dayStart ← pos
  let day ← expect (fixedDigits 2)
  let dayStop ← pos
  expect (eat ' ')
  let (clock, time) ← clockField
  expect (eat ',')
  let subsecondStart ← pos
  let millis ← expect (fixedDigits 3)
  if (← rest).head?.any Char.isDigit then refuse () else
  let stop ← pos
  return {
    start, stop
    fields := ⟨none, some year, month, day, clock.hour, clock.minute, clock.second,
      millis * 1000000⟩
    style := ⟨.iso, .zero, 2, 3⟩
    parts := ⟨none, some ⟨start, yearStop⟩, ⟨monthStart, monthStop⟩, ⟨dayStart, dayStop⟩, time,
      some ⟨subsecondStart, stop⟩⟩ }

def stamp : Surface → Scan Unit Found
  | .ctime => ctime
  | .syslog => syslog
  | .iso => iso

/-- The stamp at byte `n`, which need not be a boundary: the cursor is put there only if the byte is
an ASCII one. -/
def matchAt (k : Surface) (t : Text) (n : Nat) : Option (Option Found) := do
  if t.width ≤ n then return none
  if 0x80 ≤ (← t.byteAt? n) then return none
  match ← (do seek n; stamp k : Scan Unit Found).run t 0 with
  | .error () => return none
  | .ok (found, _) => return some found

end Cursor

/-- The bytes of a day field that starts at a byte; the spaces before the day are a part of it only
if they pad it. -/
def DayField.range (d : DayField) (start : Nat) : ByteRange :=
  match d.pad with
  | .space => ⟨start, start + d.gap + d.digits⟩
  | .zero | .none => ⟨start + d.gap, start + d.gap + d.digits⟩

/-- The bytes of the parts of a stamp that starts at a byte. -/
def Stamp.parts (start : Nat) : Stamp → StampParts
  | .ctime _ _ day _ _ =>
    let clock := start + 7 + day.gap + day.digits + 1
    ⟨some ⟨start, start + 3⟩, some ⟨clock + 9, clock + 13⟩, ⟨start + 4, start + 7⟩,
      day.range (start + 7), ⟨clock, clock + 8⟩, none⟩
  | .syslog _ day blanks _ =>
    let clock := start + 3 + day.gap + day.digits + blanks.width
    ⟨none, none, ⟨start, start + 3⟩, day.range (start + 3), ⟨clock, clock + 8⟩, none⟩
  | .iso .. =>
    ⟨none, some ⟨start, start + 4⟩, ⟨start + 5, start + 7⟩, ⟨start + 8, start + 10⟩,
      ⟨start + 11, start + 19⟩, some ⟨start + 20, start + 23⟩⟩

def Located.found (m : Located) : Found where
  start := m.start
  stop := m.stop
  fields := m.stamp.fields
  style := m.stamp.style
  parts := m.stamp.parts m.start

namespace Cursor

variable {t r : Text} {n : Nat}

section Expect

variable {α : Type} {s : Scan Unit (Option α)} {n' : Nat}

theorem expect_of_some {a : α} (h : s.run t n = some (.ok (some a, n'))) :
    (expect s).run t n = some (.ok (a, n')) := by
  rw [expect, demand, bind_of_ok h]
  rfl

theorem expect_of_none (h : s.run t n = some (.ok (none, n'))) :
    (expect s).run t n = some (.error ()) := by
  rw [expect, demand, bind_of_ok h]
  rfl

end Expect

theorem weekday_agrees (h : t.dropBytes? n = some r) :
    Agrees (fun i n' b => Weekday.all[i]? = some b.1 ∧ n' = n + 3 ∧ t.dropBytes? n' = some b.2)
      ((expect (oneOf weekdayNames)).run t n) (orRefuse () (Weekday.read? r)) := by
  obtain ⟨i, name, r', hname, rfl, hrun⟩ | ⟨hnone, hrun⟩ := oneOf_cases Unit weekdayNames h
  · obtain ⟨w, hw, rfl⟩ : ∃ w, Weekday.all[i]? = some w ∧ w.name.toList = name := by
      simpa [weekdayNames] using hname
    rw [expect_of_some hrun, Weekday.read?_eq_some_iff.mpr rfl]
    exact .ok ⟨hw, by rw [Text.width_weekdayName], Text.dropBytes?_add h⟩
  · have hread : Weekday.read? r = none := by
      refine Option.eq_none_iff_forall_ne_some.mpr ?_
      rintro ⟨w, r'⟩ hw
      have hstands := Text.after?_eq_some_iff.mpr (Weekday.read?_eq_some_iff.mp hw)
      rw [hnone _ (List.mem_map_of_mem (by cases w <;> decide))] at hstands
      cases hstands
    rw [expect_of_none hrun, hread]
    exact .error ()

theorem monthNames_eq {m : Nat} (h : 1 ≤ m ∧ m ≤ 12) : monthNames[m - 1]? = some (monthName m) := by
  have key : ∀ i < 12, monthNames[i]? = some (monthName (i + 1)) := by decide
  rw [key (m - 1) (by omega), Nat.sub_add_cancel h.1]

theorem monthField_agrees (h : t.dropBytes? n = some r) :
    Agrees (fun a n' b => a = (b.1, ⟨n, n + 3⟩) ∧ n' = n + 3 ∧ t.dropBytes? n' = some b.2)
      (monthField.run t n) (orRefuse () (readMonth? r)) := by
  unfold monthField
  rw [bind_of_ok pos_eq]
  obtain ⟨i, name, r', hname, rfl, hrun⟩ | ⟨hnone, hrun⟩ := oneOf_cases Unit monthNames h
  · have hmonth : 1 ≤ i + 1 ∧ i + 1 ≤ 12 :=
      ⟨Nat.le_add_left 1 i, (List.getElem?_eq_some_iff.mp hname).1⟩
    obtain rfl : monthName (i + 1) = name :=
      Option.some.inj ((monthNames_eq hmonth).symm.trans hname)
    rw [Text.width_monthName hmonth] at hrun
    rw [bind_of_ok (expect_of_some hrun), readMonth?_eq_some_iff.mpr ⟨hmonth, rfl⟩]
    have hrest := Text.dropBytes?_add h
    rw [Text.width_monthName hmonth] at hrest
    exact .ok ⟨rfl, rfl, hrest⟩
  · have hread : readMonth? r = none := by
      refine Option.eq_none_iff_forall_ne_some.mpr ?_
      rintro ⟨m, r'⟩ hm
      obtain ⟨hmonth, hr⟩ := readMonth?_eq_some_iff.mp hm
      have hstands := Text.after?_eq_some_iff.mpr hr
      rw [hnone _ (List.mem_of_getElem? (monthNames_eq hmonth))] at hstands
      cases hstands
    rw [bind_of_error (expect_of_none hrun), hread]
    exact .error ()

theorem expect_agrees {α : Type} {s : Scan Unit (Option α)} {o : Option (α × Text)}
    (h : t.dropBytes? n = some r) (hs : Agrees (Behind t) (s.run t n) (.ok (tried r o))) :
    Agrees (Behind t) ((expect s).run t n) (orRefuse () o) :=
  demand_agrees _ h hs

/-- What is left tells how far the cursor has gone. -/
theorem eq_add_of_dropBytes? {s r' : Text} {n' : Nat} (h : t.dropBytes? n = some (s ++ r'))
    (h' : t.dropBytes? n' = some r') : n' = n + s.width := by
  have := Text.add_width_of_dropBytes? (Text.dropBytes?_add h)
  have := Text.add_width_of_dropBytes? h'
  omega

theorem number_agrees (count : Nat) (h : t.dropBytes? n = some r) :
    Agrees (fun v n' b => v = b.1 ∧ n' = n + count ∧ t.dropBytes? n' = some b.2)
      ((expect (fixedDigits count)).run t n) (orRefuse () (Decimal.fixed? count r)) := by
  refine (expect_agrees h (fixedDigits_agrees count h)).imp ?_
  rintro v n' ⟨_, r'⟩ hread ⟨rfl, h'⟩
  obtain ⟨ds, rfl, rfl, hds, -⟩ :=
    Decimal.fixed?_eq_some_iff_value.mp (orRefuse_eq_ok_iff.mp hread)
  exact ⟨rfl, by rw [eq_add_of_dropBytes? h h', width_digits hds], h'⟩

theorem mark_agrees {c : Char} (hc : c.utf8Size = 1) (h : t.dropBytes? n = some r) :
    Agrees (fun _ n' r' => n' = n + 1 ∧ t.dropBytes? n' = some r')
      ((expect (eat c)).run t n) (orRefuse () (Text.after? [c] r)) := by
  refine Agrees.imp (demand_passed _ h (eat_agrees c h)) ?_
  intro _ n' r' hread h'
  rw [Text.after?_eq_some_iff.mp (orRefuse_eq_ok_iff.mp hread)] at h
  refine ⟨?_, h'⟩
  rw [eq_add_of_dropBytes? h h', Text.width_cons, Text.width_nil, hc]

theorem clockField_agrees (h : t.dropBytes? n = some r) :
    Agrees (fun a n' b => a = (b.1, ⟨n, n + 8⟩) ∧ n' = n + 8 ∧ t.dropBytes? n' = some b.2)
      (clockField.run t n) (orRefuse () (ClockField.read? r)) := by
  unfold clockField ClockField.read?
  rw [bind_of_ok pos_eq]
  refine (number_agrees 2 h).bind_option ?_
  rintro hour _ ⟨_, r₁⟩ - ⟨rfl, rfl, h₁⟩
  refine (mark_agrees rfl h₁).bind_option ?_
  rintro ⟨⟩ _ r₂ - ⟨rfl, h₂⟩
  refine (number_agrees 2 h₂).bind_option ?_
  rintro minute _ ⟨_, r₃⟩ - ⟨rfl, rfl, h₃⟩
  refine (mark_agrees rfl h₃).bind_option ?_
  rintro ⟨⟩ _ r₄ - ⟨rfl, h₄⟩
  refine (number_agrees 2 h₄).bind_option ?_
  rintro second _ ⟨_, r₅⟩ - ⟨rfl, rfl, h₅⟩
  exact .ok ⟨rfl, rfl, h₅⟩

theorem byte_zero_iff {c : Char} (h : c.isDigit = true) :
    UInt8.ofNat c.toNat = 0x30 ↔ c = '0' := by
  have hlt := isDigitByte_mirrors.lt h
  constructor
  · intro hbyte
    have hcode : c.toNat = '0'.toNat := by
      rw [← Utf8.toNat_byte_of_lt hlt, hbyte]
      rfl
    exact Char.toNat_inj.mp hcode
  · rintro rfl
    rfl

theorem dayLooks_eq {d : DayField} (h : d.Shaped) {c : Char} {ds : Text}
    (htext : Decimal.padded d.digits d.value = c :: ds) :
    dayLooks n d.gap (n + d.gap) d.digits (n + d.gap + d.digits) (UInt8.ofNat c.toNat) =
      (d.range n, d.pad, d.width) := by
  have hdigits := h.2.1
  have hlen := Decimal.length_padded (show 0 < d.digits by omega) h.2.2
  have hc : c.isDigit = true := Decimal.isDigit_of_mem_padded (htext ▸ List.mem_cons_self)
  have hlooks := DayField.looks_padded h
  rw [htext] at hlen hlooks
  unfold DayField.looks at hlooks
  unfold dayLooks DayField.range
  simp only [hlen, List.head?_cons, Option.some.injEq] at hlooks
  simp only [byte_zero_iff hc]
  by_cases hzero : d.digits = 2 ∧ c = '0'
  · rw [if_pos hzero] at hlooks ⊢
    obtain ⟨hpad, hwidth⟩ := Prod.mk.inj hlooks
    rw [← hpad, ← hwidth, hzero.1]
  · rw [if_neg hzero] at hlooks ⊢
    by_cases hone : d.digits = 1 ∧ d.gap = 1
    · rw [if_pos hone] at hlooks ⊢
      obtain ⟨hpad, hwidth⟩ := Prod.mk.inj hlooks
      rw [← hpad, ← hwidth, hone.1]
    · rw [if_neg hone] at hlooks ⊢
      obtain ⟨hpad, hwidth⟩ := Prod.mk.inj hlooks
      rw [← hpad, ← hwidth]

theorem dayField_agrees (h : t.dropBytes? n = some r) :
    Agrees (fun a n' b => a = (b.1.value, b.1.range n, b.1.pad, b.1.width) ∧
        n' = n + b.1.gap + b.1.digits ∧ t.dropBytes? n' = some b.2)
      (dayField.run t n) (orRefuse () (DayField.read? r)) := by
  obtain ⟨gap, hgap⟩ : ∃ gap, (r.takeWhile (· == ' ')).length = gap := ⟨_, rfl⟩
  have hwidth : Text.width (r.takeWhile (· == ' ')) = gap := by
    rw [Text.width_eq_length, hgap]
    intro c hc
    obtain rfl : c = ' ' := by simpa using List.mem_takeWhile_imp hc
    rfl
  have hrest := dropBytes?_takeWhile (· == ' ') h
  unfold dayField DayField.read?
  rw [bind_of_ok pos_eq, bind_of_ok (takeWhile_eq _ h), hwidth, hgap]
  rw [hwidth] at hrest
  dsimp only
  split
  case isTrue hzero =>
    rw [if_pos (.inl hzero)]
    exact .error ()
  case isFalse hzero =>
    have hexpect := expect_agrees hrest (digits_agrees 1 2 hrest)
    obtain ⟨ds, r', hrun⟩ : ∃ ds r', Decimal.run 2 (r.dropWhile (· == ' ')) = (ds, r') :=
      ⟨_, _, rfl⟩
    obtain ⟨hr, hds, hle, -⟩ := Decimal.run_eq_iff.mp hrun
    rw [hrun] at hexpect ⊢
    dsimp only at hexpect ⊢
    rw [bind_of_ok pos_eq]
    cases ds with
    | nil =>
      rw [bind_of_error hexpect.eq_error, if_pos (.inr rfl)]
      exact .error ()
    | cons c ds =>
      have hlen : (c :: ds).length = 1 ∨ (c :: ds).length = 2 := by
        rw [List.length_cons] at hle ⊢
        omega
      have hc := hds c List.mem_cons_self
      obtain ⟨_, n', hexpect, rfl, hbehind⟩ := Agrees.eq_ok hexpect
      have hstop : n' = n + gap + (c :: ds).length := by
        rw [← width_digits hds]
        exact eq_add_of_dropBytes? (hr ▸ hrest) hbehind
      have hfirst : t.byteAt? (n + gap) = some (UInt8.ofNat c.toNat) := by
        rw [Text.byteAt?_of_dropBytes? hrest, hr, List.cons_append,
          Utf8.encode_cons_of_lt (isDigitByte_mirrors.lt hc)]
        rfl
      rw [bind_of_ok hexpect, bind_of_ok input_eq, bind_of_ok (need_eq hfirst),
        bind_of_ok pos_eq, hstop,
        if_neg (by simp [hzero])]
      refine .ok ⟨?_, rfl, hstop ▸ hbehind⟩
      have hshaped : DayField.Shaped ⟨gap, (c :: ds).length, Decimal.value (c :: ds)⟩ :=
        ⟨Nat.pos_of_ne_zero hzero, hlen, Decimal.value_lt hds⟩
      exact congrArg (Prod.mk _)
        (dayLooks_eq hshaped (Decimal.padded_value (List.cons_ne_nil c ds) hds))

theorem ctime_agrees (h : t.dropBytes? n = some r) :
    Agrees (fun a n' b => a = Located.found ⟨n, b.1⟩ ∧ t.dropBytes? n' = some b.2)
      (ctime.run t n) (orRefuse () (Stamp.readCtime? r)) := by
  unfold ctime Stamp.readCtime?
  rw [bind_of_ok pos_eq]
  refine (weekday_agrees h).bind_option ?_
  rintro i _ ⟨w, r₁⟩ - ⟨hw, rfl, h₁⟩
  rw [bind_of_ok pos_eq]
  refine (mark_agrees rfl h₁).bind_option ?_
  rintro ⟨⟩ _ r₂ - ⟨rfl, h₂⟩
  refine (monthField_agrees h₂).bind_option ?_
  rintro _ _ ⟨month, r₃⟩ hmonth ⟨rfl, rfl, h₃⟩
  refine (dayField_agrees h₃).bind_option ?_
  rintro _ _ ⟨day, r₄⟩ hday ⟨rfl, rfl, h₄⟩
  refine (mark_agrees rfl h₄).bind_option ?_
  rintro ⟨⟩ _ r₅ - ⟨rfl, h₅⟩
  refine (clockField_agrees h₅).bind_option ?_
  rintro _ _ ⟨clock, r₆⟩ hclock ⟨rfl, rfl, h₆⟩
  refine (mark_agrees rfl h₆).bind_option ?_
  rintro ⟨⟩ _ r₇ - ⟨rfl, h₇⟩
  rw [bind_of_ok pos_eq]
  refine (number_agrees 4 h₇).bind_option ?_
  rintro year _ ⟨_, r₈⟩ hyear ⟨rfl, rfl, h₈⟩
  rw [bind_of_ok pos_eq, bind_of_ok (need_eq hw)]
  have hshaped : (Stamp.ctime w month day clock year).Shaped :=
    ⟨(readMonth?_eq_some_iff.mp hmonth).1, (DayField.read?_eq_some_iff.mp hday).1,
      (ClockField.read?_eq_some_iff.mp hclock).1, (fixed?_four_iff.mp hyear).1⟩
  have hstop : Located.stop ⟨n, .ctime w month day clock year⟩ =
      n + 3 + 1 + 3 + day.gap + day.digits + 1 + 8 + 1 + 4 := by
    rw [Located.stop, Stamp.width_text hshaped]
    dsimp only
    omega
  refine .ok ⟨?_, h₈⟩
  rw [Located.found, hstop]
  rfl

theorem syslog_agrees (h : t.dropBytes? n = some r) :
    Agrees (fun a n' b => a = Located.found ⟨n, b.1⟩ ∧ t.dropBytes? n' = some b.2)
      (syslog.run t n) (orRefuse () (Stamp.readSyslog? r)) := by
  unfold syslog Stamp.readSyslog?
  rw [bind_of_ok pos_eq]
  refine (monthField_agrees h).bind_option ?_
  rintro _ _ ⟨month, r₁⟩ hmonth ⟨rfl, rfl, h₁⟩
  refine (dayField_agrees h₁).bind_option ?_
  rintro _ _ ⟨day, r₂⟩ hday ⟨rfl, rfl, h₂⟩
  have hblanks : (expectBlanks : Scan Unit _).run t _ = _ := expectBlanks_eq h₂
  dsimp only at hblanks ⊢
  cases hb : (r₂.takeWhile isBlank).isEmpty with
  | true =>
    rw [hb] at hblanks
    rw [bind_of_error (expect_of_none hblanks)]
    exact .error ()
  | false =>
    rw [hb] at hblanks
    rw [bind_of_ok (expect_of_some hblanks)]
    have h₃ := dropBytes?_takeWhile isBlank h₂
    refine (clockField_agrees h₃).bind_option ?_
    rintro _ _ ⟨clock, r₄⟩ hclock ⟨rfl, rfl, h₄⟩
    have hshaped : (Stamp.syslog month day (r₂.takeWhile isBlank) clock).Shaped :=
      ⟨(readMonth?_eq_some_iff.mp hmonth).1, (DayField.read?_eq_some_iff.mp hday).1,
        ⟨by simpa using hb, fun c hc => List.mem_takeWhile_imp hc⟩,
        (ClockField.read?_eq_some_iff.mp hclock).1⟩
    have hstop : Located.stop ⟨n, .syslog month day (r₂.takeWhile isBlank) clock⟩ =
        n + 3 + day.gap + day.digits + Text.width (r₂.takeWhile isBlank) + 8 := by
      rw [Located.stop, Stamp.width_text hshaped]
      dsimp only
      omega
    refine .ok ⟨?_, h₄⟩
    rw [Located.found, hstop]
    rfl

theorem iso_agrees (h : t.dropBytes? n = some r) :
    Agrees (fun a n' b => a = Located.found ⟨n, b.1⟩ ∧ t.dropBytes? n' = some b.2)
      (iso.run t n) (orRefuse () (Stamp.readIso? r)) := by
  unfold iso Stamp.readIso?
  rw [bind_of_ok pos_eq]
  refine (number_agrees 4 h).bind_option ?_
  rintro year _ ⟨_, r₁⟩ hyear ⟨rfl, rfl, h₁⟩
  rw [bind_of_ok pos_eq]
  refine (mark_agrees rfl h₁).bind_option ?_
  rintro ⟨⟩ _ r₂ - ⟨rfl, h₂⟩
  rw [bind_of_ok pos_eq]
  refine (number_agrees 2 h₂).bind_option ?_
  rintro month _ ⟨_, r₃⟩ hmonth ⟨rfl, rfl, h₃⟩
  rw [bind_of_ok pos_eq]
  refine (mark_agrees rfl h₃).bind_option ?_
  rintro ⟨⟩ _ r₄ - ⟨rfl, h₄⟩
  rw [bind_of_ok pos_eq]
  refine (number_agrees 2 h₄).bind_option ?_
  rintro day _ ⟨_, r₅⟩ hday ⟨rfl, rfl, h₅⟩
  rw [bind_of_ok pos_eq]
  refine (mark_agrees rfl h₅).bind_option ?_
  rintro ⟨⟩ _ r₆ - ⟨rfl, h₆⟩
  refine (clockField_agrees h₆).bind_option ?_
  rintro _ _ ⟨clock, r₇⟩ hclock ⟨rfl, rfl, h₇⟩
  refine (mark_agrees rfl h₇).bind_option ?_
  rintro ⟨⟩ _ r₈ - ⟨rfl, h₈⟩
  rw [bind_of_ok pos_eq]
  refine (number_agrees 3 h₈).bind_option ?_
  rintro millis _ ⟨_, r₉⟩ hmillis ⟨rfl, rfl, h₉⟩
  rw [bind_of_ok (rest_eq h₉)]
  dsimp only
  cases r₉.head?.any Char.isDigit with
  | true => exact .error ()
  | false =>
    have htwo {v : Nat} {t r : Text} (h : Decimal.fixed? 2 t = some (v, r)) : v < 100 :=
      ((Decimal.fixed?_eq_some_iff (by decide)).mp h).1
    have hshaped : (Stamp.iso year month day clock millis).Shaped :=
      ⟨(fixed?_four_iff.mp hyear).1, htwo hmonth, htwo hday,
        (ClockField.read?_eq_some_iff.mp hclock).1,
        ((Decimal.fixed?_eq_some_iff (by decide)).mp hmillis).1⟩
    have hstop : Located.stop ⟨n, .iso year month day clock millis⟩ =
        n + 4 + 1 + 2 + 1 + 2 + 1 + 8 + 1 + 3 := by
      rw [Located.stop, Stamp.width_text hshaped]
      rfl
    refine .ok ⟨?_, h₉⟩
    rw [Located.found, hstop]
    rfl

end Cursor

end LogShift
