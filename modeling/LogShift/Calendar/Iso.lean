import LogShift.Calendar.Moment
import LogShift.Text.Blank
import LogShift.Text.Decimal

/-! Moments as text: `2030-01-01T12:00:00.250`, read with white space between the parts. -/
namespace LogShift.Moment

/-- Four digits; outside `0..9999` at least four digits behind a sign. -/
def yearText (y : Int) : Text :=
  if 0 ≤ y ∧ y ≤ 9999 then Decimal.padded 4 y.toNat
  else (if y < 0 then '-' else '+') :: Decimal.padded 4 y.natAbs

def dateText (d : Date) : Text :=
  yearText d.year ++ '-' :: Decimal.padded 2 d.month ++ '-' :: Decimal.padded 2 d.day

def clockText (c : Clock) : Text :=
  Decimal.padded 2 c.hour ++ ':' :: Decimal.padded 2 c.minute ++ ':' :: Decimal.padded 2 c.second

/-- The fewest of 0, 3, 6 or 9 digits that lose nothing, behind a point. -/
def fractionText (nanos : Nat) : Text :=
  if nanos = 0 then []
  else if nanos % 1000000 = 0 then '.' :: Decimal.padded 3 (nanos / 1000000)
  else if nanos % 1000 = 0 then '.' :: Decimal.padded 6 (nanos / 1000)
  else '.' :: Decimal.padded 9 nanos

/-- Date and clock with `mark` between them, at full precision. -/
def render (mark : Char) (t : Moment) : Text :=
  dateText t.date ++ mark :: clockText t.clock ++ fractionText t.clock.subsecond

/-- The form that is stored and read back. -/
def iso (t : Moment) : Text := t.render 'T'

/-- The form used in messages. -/
def display (t : Moment) : Text := t.render ' '

/-- Cut down to the whole second. -/
def isoSeconds (t : Moment) : Text :=
  dateText t.date ++ 'T' :: clockText t.clock

/-- Cut down to six digits behind the point. -/
def isoMicros (t : Moment) : Text :=
  t.isoSeconds ++ '.' :: Decimal.padded 6 (t.clock.subsecond / 1000)

/-- One to `w` digits behind white space. -/
def number? (w : Nat) (t : Text) : Option (Nat × Text) :=
  let (digits, rest) := Decimal.run w t.trimStart
  if digits.isEmpty then none else some (Decimal.value digits, rest)

/-- Up to four digits, or any number of them behind a sign. -/
def year? (t : Text) : Option (Int × Text) :=
  match t.trimStart with
  | '-' :: r => signed r |>.map fun (n, rest) => (-(n : Int), rest)
  | '+' :: r => signed r |>.map fun (n, rest) => ((n : Int), rest)
  | _ => (number? 4 t).map fun (n, rest) => ((n : Int), rest)
where
  signed (t : Text) : Option (Nat × Text) :=
    let digits := t.takeWhile Char.isDigit
    if digits.isEmpty then none else some (Decimal.value digits, t.dropWhile Char.isDigit)

/-- A point and at least one digit; digits behind the ninth are skipped. -/
def fraction? : Text → Option (Nat × Text)
  | '.' :: t =>
    let (digits, rest) := Decimal.run 9 t
    if digits.isEmpty then none
    else some (Decimal.value digits * Nat.pow 10 (9 - digits.length), rest.dropWhile Char.isDigit)
  | t => some (0, t)

/-- `mark` reads one separator, `middle` what stands between date and clock. -/
def parts? (mark : Char → Text → Option Text) (middle : Text → Option Text) (t : Text) :
    Option (Moment × Text) := do
  let (y, t) ← year? t
  let t ← mark '-' t
  let (m, t) ← number? 2 t
  let t ← mark '-' t
  let (d, t) ← number? 2 t
  let t ← middle t
  let (h, t) ← number? 2 t
  let t ← mark ':' t
  let (min, t) ← number? 2 t
  let t ← mark ':' t
  let (s, t) ← number? 2 t
  let (nanos, t) ← fraction? t
  let date ← Date.ofYmd? y m d
  let clock ← Clock.ofReading? h min s nanos
  return (⟨date, clock⟩, t)

/-- A separator behind white space. -/
def looseMark (c : Char) (t : Text) : Option Text :=
  Text.after? [c] t.trimStart

def tightMark (c : Char) (t : Text) : Option Text :=
  Text.after? [c] t

/-- A moment with `T` between date and clock; white space may surround every part. -/
def ofIso? (t : Text) : Option Moment := do
  let (m, rest) ← parts? looseMark (looseMark 'T') t
  if rest.trimStart.isEmpty then return m else none

/-- A moment with white space between date and clock. -/
def ofSpaced? (t : Text) : Option Moment := do
  let (m, rest) ← parts? tightMark (fun t => some t.trimStart) t
  if rest.isEmpty then return m else none

end LogShift.Moment
