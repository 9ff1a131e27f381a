import LogShift.Calendar.Iso

/-! Date stamps as they stand in a line. A stamp keeps all that its text shows, so that its text can
be written back and a new moment can be put in its place. -/
namespace LogShift

/-- The three ways in which lines write a date. -/
inductive Surface where
  /-- `Mon Nov 28 18:36:18 2005` -/
  | ctime
  /-- `Jan  3 21:20:56`, without a year -/
  | syslog
  /-- `2015-10-18 18:01:47,978` -/
  | iso
deriving DecidableEq, Repr

namespace Surface

def name : Surface → String
  | ctime => "ctime"
  | syslog => "syslog"
  | iso => "iso"

def hasYear : Surface → Bool
  | syslog => false
  | ctime | iso => true

end Surface

/-- How the day of a stamp fills its place. -/
inductive DayPad where
  /-- With a leading zero, `04`. -/
  | zero
  /-- To the right of a field that takes in the spaces before it, ` 4` or `14`. -/
  | space
  /-- With as many digits as it needs, `4`. -/
  | none
deriving DecidableEq, Repr

/-- What is kept of a stamp's looks when its date changes. -/
structure Style where
  surface : Surface
  pad : DayPad
  /-- Places of the day; those of the spaces before it too when it is padded with spaces. -/
  dayWidth : Nat
  subsecondDigits : Nat
deriving DecidableEq

namespace Style

/-- The most places that a day can be padded to. -/
def maxDayWidth : Nat := 65535

/-- Whether a day can be written in the style. A run that has to write one that cannot is broken
off. -/
def isWritable (s : Style) : Bool :=
  s.pad != .space || s.dayWidth ≤ maxDayWidth

end Style

/-- The spaces before a day and its one or two digits. -/
structure DayField where
  gap : Nat
  digits : Nat
  value : Nat
deriving DecidableEq

namespace DayField

def text (d : DayField) : Text :=
  List.replicate d.gap ' ' ++ Decimal.padded d.digits d.value

def pad (d : DayField) : DayPad :=
  if d.digits = 2 ∧ d.value < 10 then .zero
  else if d.digits = 1 ∧ d.gap = 1 then .none
  else .space

def width (d : DayField) : Nat :=
  match d.pad with
  | .space => d.gap + d.digits
  | .zero | .none => d.digits

/-- Day `v` in the place of `d`. A day padded with spaces to more than `Style.maxDayWidth` places is
never written: there the run is broken off, and what is said of the moved text is said of no
finished run. -/
def place (d : DayField) (v : Nat) : DayField :=
  let needed := if v < 10 then 1 else 2
  match d.pad with
  | .zero => ⟨d.gap, 2, v⟩
  | .none => ⟨d.gap, needed, v⟩
  | .space => ⟨d.gap + d.digits - needed, needed, v⟩

end DayField

/-- Hours, minutes and seconds of two digits each. -/
structure ClockField where
  hour : Nat
  minute : Nat
  second : Nat
deriving DecidableEq

namespace ClockField

def text (c : ClockField) : Text :=
  Decimal.padded 2 c.hour ++ ':' :: Decimal.padded 2 c.minute ++ ':' :: Decimal.padded 2 c.second

def ofClock (c : Clock) : ClockField :=
  ⟨c.hour, c.minute, c.second⟩

end ClockField

/-- The parts of a date as read, not yet checked against the calendar. -/
structure DateFields where
  weekday : Option Weekday
  year : Option Int
  month : Nat
  day : Nat
  hour : Nat
  minute : Nat
  second : Nat
  nanos : Nat
deriving DecidableEq

/-- Why date parts denote no moment. -/
inductive DateError where
  | missingYear
  | invalidDate (year : Int) (month day : Nat)
  | invalidTime (hour minute second : Nat)
  | weekdayMismatch (found expected : Weekday)
deriving DecidableEq

namespace DateError

def text : DateError → Text
  | missingYear => "no year available for a yearless date".toList
  | invalidDate y m d =>
    Decimal.paddedInteger 4 y ++ '-' :: Decimal.padded 2 m ++ '-' :: Decimal.padded 2 d ++
      " is not a calendar date".toList
  | invalidTime h m s =>
    Decimal.padded 2 h ++ ':' :: Decimal.padded 2 m ++ ':' :: Decimal.padded 2 s ++
      " is not a time of day".toList
  | weekdayMismatch found expected =>
    s!"weekday {found.name} does not match the date ({expected.name})".toList

def message (e : DateError) : String :=
  String.ofList e.text

end DateError

/-- The moment of the parts, the year taken from `context` where they have none. A weekday is
compared with that of the date only if `checked`. -/
def DateFields.resolve (f : DateFields) (context : Option Int) (checked : Bool) :
    Except DateError Moment :=
  match f.year.or context with
  | none => .error .missingYear
  | some year =>
    match Date.ofYmd? year f.month f.day with
    | none => .error (.invalidDate year f.month f.day)
    | some date =>
      match Clock.ofHms? f.hour f.minute f.second f.nanos with
      | none => .error (.invalidTime f.hour f.minute f.second)
      | some clock =>
        match f.weekday with
        | none => .ok ⟨date, clock⟩
        | some found =>
          if checked && found != date.weekday then .error (.weekdayMismatch found date.weekday)
          else .ok ⟨date, clock⟩

inductive Stamp where
  | ctime (weekday : Weekday) (month : Nat) (day : DayField) (clock : ClockField) (year : Int)
  | syslog (month : Nat) (day : DayField) (blanks : Text) (clock : ClockField)
  | iso (year : Int) (month day : Nat) (clock : ClockField) (millis : Nat)
deriving DecidableEq

namespace Stamp

def surface : Stamp → Surface
  | ctime .. => .ctime
  | syslog .. => .syslog
  | iso .. => .iso

def text : Stamp → Text
  | ctime weekday month day clock year =>
    weekday.name.toList ++ ' ' :: monthName month ++ day.text ++ ' ' :: clock.text ++
      ' ' :: Decimal.paddedInteger 4 year
  | syslog month day blanks clock => monthName month ++ day.text ++ blanks ++ clock.text
  | iso year month day clock millis =>
    Decimal.paddedInteger 4 year ++ '-' :: Decimal.padded 2 month ++ '-' :: Decimal.padded 2 day ++
      ' ' :: clock.text ++ ',' :: Decimal.padded 3 millis

def fields : Stamp → DateFields
  | ctime weekday month day clock year =>
    ⟨some weekday, some year, month, day.value, clock.hour, clock.minute, clock.second, 0⟩
  | syslog month day _ clock =>
    ⟨none, none, month, day.value, clock.hour, clock.minute, clock.second, 0⟩
  | iso year month day clock millis =>
    ⟨none, some year, month, day, clock.hour, clock.minute, clock.second, millis * 1000000⟩

def style : Stamp → Style
  | ctime _ _ day _ _ => ⟨.ctime, day.pad, day.width, 0⟩
  | syslog _ day _ _ => ⟨.syslog, day.pad, day.width, 0⟩
  | iso .. => ⟨.iso, .zero, 2, 3⟩

/-- The moment `t` in the looks of `s`. -/
def place (s : Stamp) (t : Moment) : Stamp :=
  match s with
  | ctime _ _ day _ _ =>
    ctime t.date.weekday t.month (day.place t.date.day) (.ofClock t.clock) t.year
  | syslog _ day blanks _ => syslog t.month (day.place t.date.day) blanks (.ofClock t.clock)
  | iso .. => iso t.year t.month t.date.day (.ofClock t.clock) (t.clock.subsecond / 1000000)

/-- The text of `t` in the looks of `s`. -/
def render (s : Stamp) (t : Moment) : Text :=
  (s.place t).text

end Stamp

end LogShift
