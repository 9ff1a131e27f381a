import LogShift.Stamp.Basic

/-! Reading stamps from the front of a text. -/
namespace LogShift

/-- One or more spaces, then one or two digits, as many as there are. -/
def DayField.read? (t : Text) : Option (DayField × Text) :=
  let gap := (t.takeWhile (· == ' ')).length
  let (digits, rest) := Decimal.run 2 (t.dropWhile (· == ' '))
  if gap = 0 ∨ digits.isEmpty then none
  else some (⟨gap, digits.length, Decimal.value digits⟩, rest)

/-- `HH:MM:SS` -/
def ClockField.read? (t : Text) : Option (ClockField × Text) := do
  let (hour, t) ← Decimal.fixed? 2 t
  let t ← Text.after? [':'] t
  let (minute, t) ← Decimal.fixed? 2 t
  let t ← Text.after? [':'] t
  let (second, t) ← Decimal.fixed? 2 t
  return (⟨hour, minute, second⟩, t)

/-- An abbreviated weekday. -/
def Weekday.read? (t : Text) : Option (Weekday × Text) :=
  Weekday.all.findSome? fun w => (Text.after? w.name.toList t).map fun rest => (w, rest)

/-- An abbreviated month, counted from 1. -/
def readMonth? (t : Text) : Option (Nat × Text) :=
  (monthNames.zipIdx 1).findSome? fun (name, m) =>
    (Text.after? name t).map fun rest => (m, rest)

namespace Stamp

def readCtime? (t : Text) : Option (Stamp × Text) := do
  let (weekday, t) ← Weekday.read? t
  let t ← Text.after? [' '] t
  let (month, t) ← readMonth? t
  let (day, t) ← DayField.read? t
  let t ← Text.after? [' '] t
  let (clock, t) ← ClockField.read? t
  let t ← Text.after? [' '] t
  let (year, t) ← Decimal.fixed? 4 t
  return (.ctime weekday month day clock year, t)

def readSyslog? (t : Text) : Option (Stamp × Text) := do
  let (month, t) ← readMonth? t
  let (day, t) ← DayField.read? t
  let blanks := t.takeWhile isBlank
  if blanks.isEmpty then none
  let (clock, t) ← ClockField.read? (t.dropWhile isBlank)
  return (.syslog month day blanks clock, t)

/-- The three digits behind the comma must not go on. -/
def readIso? (t : Text) : Option (Stamp × Text) := do
  let (year, t) ← Decimal.fixed? 4 t
  let t ← Text.after? ['-'] t
  let (month, t) ← Decimal.fixed? 2 t
  let t ← Text.after? ['-'] t
  let (day, t) ← Decimal.fixed? 2 t
  let t ← Text.after? [' '] t
  let (clock, t) ← ClockField.read? t
  let t ← Text.after? [','] t
  let (millis, t) ← Decimal.fixed? 3 t
  if t.head?.any Char.isDigit then none
  return (.iso year month day clock millis, t)

/-- A stamp at the front of a text, and what stands behind it. -/
def read? : Surface → Text → Option (Stamp × Text)
  | .ctime => readCtime?
  | .syslog => readSyslog?
  | .iso => readIso?

end Stamp

end LogShift
