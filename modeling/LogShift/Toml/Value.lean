import LogShift.Text.Decimal

/-! Values of TOML documents, and how they are written. -/
namespace LogShift.Toml

/-- How a table came to be, which decides what may still be added to it. -/
inductive Origin where
  /-- Written as a value in braces; nothing is added to it. -/
  | inline
  /-- Opened by a header of its own. -/
  | header
  /-- Named on the way to the table of a header. -/
  | implied
  /-- Named on the way to a key with points. -/
  | dotted
deriving DecidableEq, Repr

/-- A floating point number as it is written. -/
inductive FloatLiteral where
  | infinite (negative : Bool)
  | notANumber
  /-- The mantissa times ten to the exponent. -/
  | decimal (negative : Bool) (mantissa : Nat) (exponent : Int)
deriving DecidableEq, Repr

namespace FloatLiteral

/-- The least number that rounds to infinity in double precision. -/
def limit : Nat := Nat.pow 2 1024 - Nat.pow 2 970

/-- Whether a number is within the range of double precision. -/
def fits : FloatLiteral → Bool
  | decimal _ n e =>
    let size : Int := (Decimal.natural n).length + e
    if n = 0 ∨ size < 308 then true
    else if 310 < size then false
    else if 0 ≤ e then n * Nat.pow 10 e.toNat < limit
    else n < limit * Nat.pow 10 (-e).toNat
  | _ => true

end FloatLiteral

inductive Value where
  | string (t : Text)
  | integer (n : Int)
  | float (literal : FloatLiteral)
  | boolean (b : Bool)
  | datetime (literal : Text)
  | array (items : List Value)
  | table (origin : Origin) (entries : List (Text × Value))
  /-- The tables of one array header, the one that is open last. -/
  | tables (items : List (List (Text × Value)))
deriving Repr

abbrev Entries := List (Text × Value)

namespace Value

def text? : Value → Option Text
  | string t => some t
  | _ => none

def boolean? : Value → Option Bool
  | boolean b => some b
  | _ => none

/-- An integer from `low` up to but not including `high`. -/
def integer? (low high : Int) : Value → Option Int
  | integer n => if low ≤ n ∧ n < high then some n else none
  | _ => none

mutual

/-- Whether all numbers in a value are in range: integers in 128 bits, with a sign or without, and
the others in double precision. -/
def fits : Value → Bool
  | integer n => -(Nat.pow 2 127 : Int) ≤ n && n < Nat.pow 2 128
  | float literal => literal.fits
  | array items => itemsFit items
  | table _ entries => entriesFit entries
  | tables items => tablesFit items
  | _ => true

def itemsFit : List Value → Bool
  | [] => true
  | v :: rest => v.fits && itemsFit rest

def entriesFit : List (Text × Value) → Bool
  | [] => true
  | (_, v) :: rest => v.fits && entriesFit rest

def tablesFit : List (List (Text × Value)) → Bool
  | [] => true
  | entries :: rest => entriesFit entries && tablesFit rest

end

/-- Whether a value can stand where fields are asked for. A date can, and has none. -/
def isCompound : Value → Bool
  | array _ | table .. | tables _ | datetime _ => true
  | _ => false

/-- Whether the numbers are in range in the fields of a table other than the ones given. The items
of an array are not looked at. -/
def othersFit (keys : List String) : Value → Bool
  | table _ entries => entriesFit (entries.filter fun (k, _) => !keys.contains (String.ofList k))
  | _ => true

/-- A field of a table by its name, or of an array by its place. -/
def member? (key : String) (place : Nat) : Value → Option Value
  | table _ entries => entries.lookup key.toList
  | array items => items[place]?
  | tables items => items[place]?.map (table .header)
  | _ => none

end Value

/-! ### Writing -/

def hexDigits (n : Nat) : Text :=
  (Nat.toDigits 16 n).map Char.toUpper

/-- A character between quotes. -/
def escape (c : Char) : Text :=
  match c with
  | '"' => ['\\', '"']
  | '\\' => ['\\', '\\']
  | '\n' => ['\\', 'n']
  | '\r' => ['\\', 'r']
  | '\t' => ['\\', 't']
  | _ =>
    if c.toNat = 8 then ['\\', 'b']
    else if c.toNat = 12 then ['\\', 'f']
    else if c.toNat < 32 ∨ c.toNat = 127 then ['\\', 'u'] ++ (hexDigits c.toNat).leftpad 4 '0'
    else [c]

/-- A value that fits a line of its own. -/
inductive Scalar where
  | string (t : Text)
  | integer (n : Int)
  | boolean (b : Bool)
deriving DecidableEq, Repr

namespace Scalar

def value : Scalar → Value
  | string t => .string t
  | integer n => .integer n
  | boolean b => .boolean b

def text : Scalar → Text
  | string t => '"' :: t.flatMap escape ++ ['"']
  | integer n => Decimal.integer n
  | boolean b => (if b then "true" else "false").toList

end Scalar

/-- One line for each entry. -/
def entryLines (entries : List (String × Scalar)) : Text :=
  entries.flatMap fun (key, v) => key.toList ++ " = ".toList ++ v.text ++ ['\n']

/-- Tables with their headers, and a blank line between two of them. -/
def sectionLines : List (String × List (String × Scalar)) → Text
  | [] => []
  | [(name, entries)] => '[' :: name.toList ++ "]\n".toList ++ entryLines entries
  | (name, entries) :: rest =>
    '[' :: name.toList ++ "]\n".toList ++ entryLines entries ++ '\n' :: sectionLines rest

end LogShift.Toml
