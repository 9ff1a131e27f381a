import LogShift.Text.Basic

/-! Decimal numbers as text: reading runs of ASCII digits and writing with a least width. -/
namespace LogShift.Decimal

def digit (c : Char) : Nat :=
  c.toNat - '0'.toNat

/-- The number that a run of digits denotes, most significant digit first. -/
def value (digits : Text) : Nat :=
  digits.foldl (fun n c => 10 * n + digit c) 0

/-- Exactly `n` digits, and the text behind them. -/
def fixed? : Nat → Text → Option (Nat × Text)
  | 0, t => some (0, t)
  | _ + 1, [] => none
  | n + 1, c :: t =>
    if c.isDigit then (fixed? n t).map fun (v, rest) => (digit c * Nat.pow 10 n + v, rest) else none

/-- The longest run of at most `n` digits, and the text behind it. -/
def run : Nat → Text → Text × Text
  | 0, t => ([], t)
  | _ + 1, [] => ([], [])
  | n + 1, c :: t => if c.isDigit then ((c :: (run n t).1), (run n t).2) else ([], c :: t)

/-- Shortest decimal form. -/
def natural (n : Nat) : Text :=
  Nat.toDigits 10 n

/-- At least `w` digits, filled with zeros on the left. -/
def padded (w n : Nat) : Text :=
  (natural n).leftpad w '0'

/-- Decimal form with a sign for negative numbers only. -/
def integer : Int → Text
  | .ofNat n => natural n
  | .negSucc n => '-' :: natural (n + 1)

/-- At least `w` characters, a minus sign counted. -/
def paddedInteger (w : Nat) : Int → Text
  | .ofNat n => padded w n
  | .negSucc n => '-' :: padded (w - 1) (n + 1)

/-- A non-empty run of digits that is the whole text. -/
def natural? (t : Text) : Option Nat :=
  if t.isEmpty then none else if t.all Char.isDigit then some (value t) else none

/-- Digits below `2 ^ bits`, optionally with a plus sign. -/
def unsigned? (bits : Nat) (t : Text) : Option Nat :=
  let digits := match t with
    | '+' :: r => r
    | _ => t
  (natural? digits).filter (· < Nat.pow 2 bits)

/-- Digits with an optional sign, in the range of `bits`-bit two's complement. -/
def signed? (bits : Nat) (t : Text) : Option Int :=
  let n := match t with
    | '-' :: r => (natural? r).map fun n => -(n : Int)
    | '+' :: r => (natural? r).map Int.ofNat
    | _ => (natural? t).map Int.ofNat
  n.filter fun n => -(Nat.pow 2 (bits - 1) : Int) ≤ n && n < Nat.pow 2 (bits - 1)

end LogShift.Decimal
