import LogShift.Text.Basic

/-! Days of the proleptic Gregorian calendar and their numbering from 1 January of year 1. -/
namespace LogShift

inductive Weekday where
  | mon | tue | wed | thu | fri | sat | sun
deriving DecidableEq, Repr

namespace Weekday

def all : List Weekday :=
  [mon, tue, wed, thu, fri, sat, sun]

def name : Weekday → String
  | mon => "Mon"
  | tue => "Tue"
  | wed => "Wed"
  | thu => "Thu"
  | fri => "Fri"
  | sat => "Sat"
  | sun => "Sun"

/-- Day 1 is a Monday. -/
def ofDayNumber (n : Int) : Weekday :=
  match (n - 1) % 7 with
  | 0 => mon
  | 1 => tue
  | 2 => wed
  | 3 => thu
  | 4 => fri
  | 5 => sat
  | _ => sun

end Weekday

def isLeapYear (y : Int) : Bool :=
  y % 4 == 0 && (y % 100 != 0 || y % 400 == 0)

def daysInMonth (y : Int) : Nat → Nat
  | 2 => if isLeapYear y then 29 else 28
  | 4 | 6 | 9 | 11 => 30
  | _ => 31

/-- Days from the first of January to the first of month `m`. -/
def daysBeforeMonth (y : Int) : Nat → Nat
  | 0 | 1 => 0
  | m + 2 => daysBeforeMonth y (m + 1) + daysInMonth y (m + 1)

/-- Days from the first of January of year 1 to that of year `y`. -/
def daysBeforeYear (y : Int) : Int :=
  365 * (y - 1) + (y - 1) / 4 - (y - 1) / 100 + (y - 1) / 400

/-- The years whose days can be represented. -/
def minYear : Int := -262143

def maxYear : Int := 262142

structure Date where
  year : Int
  month : Nat
  day : Nat
  year_mem : minYear ≤ year ∧ year ≤ maxYear
  month_mem : 1 ≤ month ∧ month ≤ 12
  day_mem : 1 ≤ day ∧ day ≤ daysInMonth year month
deriving DecidableEq

namespace Date

def ofYmd? (y : Int) (m d : Nat) : Option Date :=
  if hy : minYear ≤ y ∧ y ≤ maxYear then
    if hm : 1 ≤ m ∧ m ≤ 12 then
      if hd : 1 ≤ d ∧ d ≤ daysInMonth y m then some ⟨y, m, d, hy, hm, hd⟩ else none
    else none
  else none

/-- 1 for the first of January of year 1. -/
def dayNumber (d : Date) : Int :=
  daysBeforeYear d.year + daysBeforeMonth d.year d.month + d.day

def weekday (d : Date) : Weekday :=
  .ofDayNumber d.dayNumber

/-- The year that holds day `n`, and the days of that year before it: the cycles of 400, 100, 4
and 1 years are counted off in turn, the last century and the last year of a cycle being longer. -/
def yearAndOffset (n : Int) : Int × Nat :=
  let cycle := (n - 1) / 146097
  let r := ((n - 1) % 146097).toNat
  let century := min (r / 36524) 3
  let r := r - century * 36524
  let quad := r / 1461
  let r := r % 1461
  let single := min (r / 365) 3
  (400 * cycle + 100 * century + 4 * quad + single + 1, r - single * 365)

/-- The last month up to `m` that starts before the `o`-th day of year `y`, and the day of it. -/
def monthAndDay (y : Int) (o : Nat) : Nat → Nat × Nat
  | 0 => (1, o)
  | m + 1 =>
    if daysBeforeMonth y (m + 1) < o then (m + 1, o - daysBeforeMonth y (m + 1))
    else monthAndDay y o m

def ofDayNumber? (n : Int) : Option Date :=
  let (y, before) := yearAndOffset n
  let (m, d) := monthAndDay y (before + 1) 12
  ofYmd? y m d

end Date

/-- The abbreviations of the months, January first. -/
def monthNames : List Text :=
  ["Jan", "Feb", "Mar", "Apr", "May", "Jun", "Jul", "Aug", "Sep", "Oct", "Nov", "Dec"].map
    String.toList

/-- Abbreviation of month `m`, counted from 1. -/
def monthName (m : Nat) : Text :=
  monthNames.getD (m - 1) []

end LogShift
