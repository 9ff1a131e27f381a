import LogShift.Calendar.Date

/-! Moments to the nanosecond, their differences and their shifts. A leap second is the second 59
of a minute with a nanosecond count of a whole second or more. -/
namespace LogShift

def nanosPerSecond : Nat := 1000000000

def secondsPerDay : Nat := 86400

structure Clock where
  /-- Whole seconds since midnight. -/
  seconds : Nat
  /-- Nanoseconds within the second; a leap second counts on from `nanosPerSecond`. -/
  nanos : Nat
  seconds_lt : seconds < secondsPerDay
  nanos_lt : nanos < 2 * nanosPerSecond
  leap : nanosPerSecond ≤ nanos → seconds % 60 = 59
deriving DecidableEq

namespace Clock

def hour (c : Clock) : Nat := c.seconds / 3600

def minute (c : Clock) : Nat := c.seconds / 60 % 60

/-- 60 in a leap second. -/
def second (c : Clock) : Nat := c.seconds % 60 + c.nanos / nanosPerSecond

/-- Nanoseconds behind the point, also in a leap second. -/
def subsecond (c : Clock) : Nat := c.nanos % nanosPerSecond

def ofParts? (seconds nanos : Nat) : Option Clock :=
  if hs : seconds < secondsPerDay then
    if hn : nanos < 2 * nanosPerSecond then
      if hl : nanosPerSecond ≤ nanos → seconds % 60 = 59 then some ⟨seconds, nanos, hs, hn, hl⟩
      else none
    else none
  else none

def ofHms? (h m s nanos : Nat) : Option Clock :=
  if h < 24 ∧ m < 60 ∧ s < 60 ∧ nanos < nanosPerSecond then ofParts? (3600 * h + 60 * m + s) nanos
  else none

/-- As `ofHms?`, with second 60 for the leap second of any minute. -/
def ofReading? (h m s nanos : Nat) : Option Clock :=
  if s = 60 then
    if h < 24 ∧ m < 60 ∧ nanos < nanosPerSecond then
      ofParts? (3600 * h + 60 * m + 59) (nanosPerSecond + nanos)
    else none
  else ofHms? h m s nanos

/-- The same second, cut down to multiples of `unit` nanoseconds; a leap second joins the second
before it. -/
def truncate (unit : Nat) (c : Clock) : Clock where
  seconds := c.seconds
  nanos := c.subsecond - c.subsecond % unit
  seconds_lt := c.seconds_lt
  nanos_lt := by
    have : c.subsecond < nanosPerSecond := Nat.mod_lt _ (by decide)
    omega
  leap := by
    have : c.subsecond < nanosPerSecond := Nat.mod_lt _ (by decide)
    omega

end Clock

/-- A signed span of time in nanoseconds. -/
structure Span where
  nanos : Int
deriving DecidableEq

namespace Span

/-- Whole seconds, cut toward zero. -/
def wholeSeconds (s : Span) : Int := s.nanos.tdiv nanosPerSecond

/-- What `wholeSeconds` leaves, with the sign of the span. -/
def subsecond (s : Span) : Int := s.nanos.tmod nanosPerSecond

def ofParts (seconds nanos : Int) : Span :=
  ⟨seconds * nanosPerSecond + nanos⟩

end Span

structure Moment where
  date : Date
  clock : Clock
deriving DecidableEq

namespace Moment

def year (t : Moment) : Int := t.date.year

def month (t : Moment) : Nat := t.date.month

/-- Nanoseconds since midnight of day 0, as if the leap second ran on into the next second. -/
def instant (t : Moment) : Int :=
  (t.date.dayNumber * secondsPerDay + t.clock.seconds) * nanosPerSecond + t.clock.nanos

/-- The moment of an instant outside leap seconds. -/
def ofInstant? (n : Int) : Option Moment := do
  let seconds := n / nanosPerSecond
  let date ← Date.ofDayNumber? (seconds / secondsPerDay)
  let clock ← Clock.ofParts? (seconds % secondsPerDay).toNat (n % nanosPerSecond).toNat
  return ⟨date, clock⟩

/-- Days first, then seconds, then nanoseconds. -/
def le (s t : Moment) : Bool :=
  let a := (s.date.dayNumber, s.clock.seconds, s.clock.nanos)
  let b := (t.date.dayNumber, t.clock.seconds, t.clock.nanos)
  a.1 < b.1 || (a.1 == b.1 && (a.2.1 < b.2.1 || (a.2.1 == b.2.1 && a.2.2 ≤ b.2.2)))

/-- The second of two equal moments. -/
def later (s t : Moment) : Moment :=
  if s.le t then t else s

def isLeap (t : Moment) : Bool :=
  nanosPerSecond ≤ t.clock.nanos

/-- `t` moved by `s`, if its year can be represented. A shift that leaves a leap second forwards
starts from the second before it, one that leaves it backwards from the second after; one that
does neither keeps the second. -/
def add? (t : Moment) (s : Span) : Option Moment :=
  if t.isLeap then
    if 0 < s.wholeSeconds ∨
        (0 < s.subsecond ∧ 2 * (nanosPerSecond : Int) ≤ t.clock.nanos + s.subsecond) then
      ofInstant? (t.instant - nanosPerSecond + s.nanos)
    else if s.wholeSeconds < 0 then ofInstant? (t.instant + s.nanos)
    else do
      let clock ← Clock.ofParts? t.clock.seconds (t.clock.nanos + s.subsecond).toNat
      return ⟨t.date, clock⟩
  else ofInstant? (t.instant + s.nanos)

/-- The span from `s` to `t`. A leap second of the earlier clock reading counts in full. -/
def since (t s : Moment) : Span :=
  let leap : Int :=
    if s.clock.seconds < t.clock.seconds ∧ s.isLeap then nanosPerSecond
    else if t.clock.seconds < s.clock.seconds ∧ t.isLeap then -nanosPerSecond
    else 0
  ⟨t.instant - s.instant + leap⟩

end Moment

end LogShift
