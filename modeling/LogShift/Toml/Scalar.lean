import LogShift.Calendar.Date
import LogShift.Toml.Value

/-! Values that are written without quotes or brackets: numbers, truth values and dates. -/
namespace LogShift.Toml

/-- Digits, with an underscore allowed between any two of them. -/
def grouped? (isDigit : Char → Bool) (t : Text) : Option Text :=
  let pieces := Text.splitOn '_' t
  if pieces.all fun p => !p.isEmpty && p.all isDigit then some pieces.flatten else none

/-- As `grouped?`, in decimal and without a superfluous zero in front. -/
def whole? (t : Text) : Option Text := do
  let digits ← grouped? Char.isDigit t
  if 1 < digits.length ∧ digits.head? = some '0' then none else some digits

/-- Whether there is a minus sign, and what follows the sign. -/
def sign : Text → Bool × Text
  | '-' :: t => (true, t)
  | '+' :: t => (false, t)
  | t => (false, t)

def hexDigit? (c : Char) : Option Nat :=
  if c.isDigit then some (c.toNat - 48)
  else if 'a' ≤ c ∧ c ≤ 'f' then some (c.toNat - 87)
  else if 'A' ≤ c ∧ c ≤ 'F' then some (c.toNat - 55)
  else none

/-- An integer in base 2, 8 or 16. -/
def radix? (base : Nat) (t : Text) : Option Nat := do
  let digits ← grouped? (fun c => (hexDigit? c).any (· < base)) t
  return digits.foldl (fun n c => n * base + (hexDigit? c).getD 0) 0

def decimalInteger? (t : Text) : Option Int := do
  let (negative, t) := sign t
  let n := Decimal.value (← whole? t)
  return if negative then -(n : Int) else n

/-- An integer of any size. -/
def integer? : Text → Option Int
  | '0' :: 'x' :: r => (radix? 16 r).map Int.ofNat
  | '0' :: 'o' :: r => (radix? 8 r).map Int.ofNat
  | '0' :: 'b' :: r => (radix? 2 r).map Int.ofNat
  | t => decimalInteger? t

/-- A number with a point, an exponent or both. -/
def decimalFloat? (t : Text) : Option FloatLiteral :=
  let (negative, t) := sign t
  let (mantissa, power) := match t.span fun c => c ≠ 'e' ∧ c ≠ 'E' with
    | (m, _ :: p) => (m, some p)
    | (m, []) => (m, none)
  let (front, fraction) := match mantissa.span (· ≠ '.') with
    | (f, _ :: d) => (f, some d)
    | (f, []) => (f, none)
  let exponent : Option Int := match power with
    | none => some 0
    | some p =>
      let (down, p) := sign p
      (grouped? Char.isDigit p).map fun d =>
        if down then -(Decimal.value d : Int) else Decimal.value d
  let digits : Option (Text × Nat) := do
    let front ← whole? front
    match fraction with
    | none => some (front, 0)
    | some d => (grouped? Char.isDigit d).map fun d => (front ++ d, d.length)
  match exponent, digits with
  | some e, some (d, places) =>
    if power.isSome || fraction.isSome then
      some (.decimal negative (Decimal.value d) (e - places))
    else none
  | _, _ => none

def float? (t : Text) : Option FloatLiteral :=
  let (negative, rest) := sign t
  if rest = "inf".toList then some (.infinite negative)
  else if rest = "nan".toList then some .notANumber
  else decimalFloat? t

/-- A date of the calendar, and the text behind it. -/
def date? (t : Text) : Option Text := do
  let (y, t) ← Decimal.fixed? 4 t
  let t ← Text.after? ['-'] t
  let (m, t) ← Decimal.fixed? 2 t
  let t ← Text.after? ['-'] t
  let (d, t) ← Decimal.fixed? 2 t
  if 1 ≤ m ∧ m ≤ 12 ∧ 1 ≤ d ∧ d ≤ daysInMonth y m then some t else none

/-- A time of day whose seconds may be left out, and the text behind it. -/
def time? (t : Text) : Option Text := do
  let (h, t) ← Decimal.fixed? 2 t
  let t ← Text.after? [':'] t
  let (m, t) ← Decimal.fixed? 2 t
  if 23 < h ∨ 59 < m then none
  match t with
  | ':' :: t => do
    let (s, t) ← Decimal.fixed? 2 t
    if 60 < s then none
    match t with
    | '.' :: t => if t.head?.any Char.isDigit then some (t.dropWhile Char.isDigit) else none
    | _ => some t
  | _ => some t

def isOffset : Text → Bool
  | ['Z'] | ['z'] => true
  | '+' :: t | '-' :: t =>
    match (do
      let (h, t) ← Decimal.fixed? 2 t
      let t ← Text.after? [':'] t
      let (m, t) ← Decimal.fixed? 2 t
      return (h, m, t)) with
    | some (h, m, []) => h ≤ 23 && m ≤ 59
    | _ => false
  | _ => false

def isDatetime (t : Text) : Bool :=
  match date? t with
  | some [] => true
  | some (mark :: r) =>
    (mark = 'T' || mark = 't' || mark = ' ') &&
      match time? r with
      | some [] => true
      | some r => isOffset r
      | none => false
  | none => time? t = some []

def scalar? (t : Text) : Option Value :=
  if t = "true".toList then some (.boolean true)
  else if t = "false".toList then some (.boolean false)
  else
    match integer? t, float? t with
    | some n, _ => some (.integer n)
    | none, some literal => some (.float literal)
    | none, none => if isDatetime t then some (.datetime t) else none

def isScalarChar (c : Char) : Bool :=
  c.isAlphanum || c == '+' || c == '-' || c == '_' || c == '.' || c == ':'

/-- The longest text that a scalar can be, and the text behind it. A space may stand between a date
and a time. -/
def scalarText (t : Text) : Text × Text :=
  let (first, rest) := t.span isScalarChar
  match rest with
  | ' ' :: c :: r =>
    if c.isDigit && date? first = some [] then
      let (second, rest) := (c :: r).span isScalarChar
      (first ++ ' ' :: second, rest)
    else (first, rest)
  | _ => (first, rest)

end LogShift.Toml
