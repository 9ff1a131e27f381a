import LogShift.Text.Decimal

/-! JSON values and their text: compact, indented, and read back. -/
namespace LogShift

/-- Integers are kept apart from other numbers, whose literal is kept as it stands. -/
inductive Json where
  | null
  | bool (b : Bool)
  | int (n : Int)
  | real (literal : Text)
  | str (t : Text)
  | arr (items : List Json)
  | obj (fields : List (Text × Json))

namespace Json

def string (s : String) : Json := .str s.toList

def nat (n : Nat) : Json := .int n

/-- An absent value is null. -/
def option {α : Type} (f : α → Json) : Option α → Json
  | none => .null
  | some a => f a

def object (fields : List (String × Json)) : Json :=
  .obj (fields.map fun (k, v) => (k.toList, v))

/-- The last value under a key. -/
def field? (key : String) : Json → Option Json
  | .obj fields => (fields.reverse.find? fun (k, _) => k = key.toList).map (·.2)
  | _ => none

def text? : Json → Option Text
  | .str t => some t
  | _ => none

def nat? (bits : Nat) : Json → Option Nat
  | .int n => if 0 ≤ n ∧ n.toNat < Nat.pow 2 bits then some n.toNat else none
  | _ => none

/-! ### Writing -/

def hexDigit (n : Nat) : Char :=
  if n < 10 then Char.ofNat (48 + n) else Char.ofNat (87 + n)

/-- Quotes, backslashes and control characters are escaped, all else stands for itself. -/
def escape (c : Char) : Text :=
  match c with
  | '"' => ['\\', '"']
  | '\\' => ['\\', '\\']
  | '\n' => ['\\', 'n']
  | '\r' => ['\\', 'r']
  | '\t' => ['\\', 't']
  | _ =>
    if c.toNat = 8 then ['\\', 'b']
    else if c.toNat = 12 then ['\\', 'f']
    else if c.toNat < 32 then
      ['\\', 'u', '0', '0', hexDigit (c.toNat / 16), hexDigit (c.toNat % 16)]
    else [c]

def quoted (t : Text) : Text :=
  '"' :: t.flatMap escape ++ ['"']

/-- The items with `sep` between them. -/
def joined (sep : Text) : List Text → Text
  | [] => []
  | [t] => t
  | t :: ts => t ++ sep ++ joined sep ts

/-- White space between the parts of a text. -/
def isSpace (c : Char) : Bool :=
  c == ' ' || c == '\t' || c == '\n' || c == '\r'

/-- The white space that is written before each item and closing bracket of a level, and behind
colons. -/
structure Layout where
  gap : Nat → Text
  afterColon : Text
  gap_space : ∀ level, ∀ c ∈ gap level, isSpace c = true
  afterColon_space : ∀ c ∈ afterColon, isSpace c = true

namespace Layout

/-- No white space at all. -/
def tight : Layout where
  gap := fun _ => []
  afterColon := []
  gap_space := by simp
  afterColon_space := by simp

/-- One item or field per line, indented by two spaces a level. -/
def indented : Layout where
  gap := fun level => '\n' :: List.replicate (2 * level) ' '
  afterColon := [' ']
  gap_space := by simp +contextual [isSpace]
  afterColon_space := by simp [isSpace]

end Layout

mutual

/-- The text of a value inside `level` brackets; empty brackets stay closed. -/
def write (l : Layout) (level : Nat) : Json → Text
  | .null => "null".toList
  | .bool b => (if b then "true" else "false").toList
  | .int n => Decimal.integer n
  | .real literal => literal
  | .str t => quoted t
  | .arr [] => ['[', ']']
  | .arr (v :: vs) =>
    '[' :: l.gap (level + 1) ++
      joined (',' :: l.gap (level + 1)) (writeItems l (level + 1) (v :: vs)) ++
        l.gap level ++ [']']
  | .obj [] => ['\x7b', '\x7d']
  | .obj (f :: fs) =>
    '\x7b' :: l.gap (level + 1) ++
      joined (',' :: l.gap (level + 1)) (writeFields l (level + 1) (f :: fs)) ++
        l.gap level ++ ['\x7d']

def writeItems (l : Layout) (level : Nat) : List Json → List Text
  | [] => []
  | v :: vs => write l level v :: writeItems l level vs

def writeFields (l : Layout) (level : Nat) : List (Text × Json) → List Text
  | [] => []
  | (k, v) :: r =>
    (quoted k ++ ':' :: l.afterColon ++ write l level v) :: writeFields l level r

end

def compact (v : Json) : Text := v.write .tight 0

def pretty (v : Json) : Text := v.write .indented 0

/-! ### Reading -/

def skipSpace (t : Text) : Text := t.dropWhile isSpace

def hexValue? (c : Char) : Option Nat :=
  if c.isDigit then some (c.toNat - 48)
  else if 'a' ≤ c ∧ c ≤ 'f' then some (c.toNat - 87)
  else if 'A' ≤ c ∧ c ≤ 'F' then some (c.toNat - 55)
  else none

/-- Four hexadecimal digits. -/
def unit? (a b c d : Char) : Option Nat := do
  let a ← hexValue? a
  let b ← hexValue? b
  let c ← hexValue? c
  let d ← hexValue? d
  return ((a * 16 + b) * 16 + c) * 16 + d

/-- The character behind a backslash. -/
def escaped? : Char → Option Char
  | '"' => some '"'
  | '\\' => some '\\'
  | '/' => some '/'
  | 'b' => some (Char.ofNat 8)
  | 'f' => some (Char.ofNat 12)
  | 'n' => some '\n'
  | 'r' => some '\r'
  | 't' => some '\t'
  | _ => none

/-- The characters up to the closing quote, and the text behind it. Surrogates come in pairs. -/
def body? : Text → Option (Text × Text)
  | [] => none
  | '"' :: r => some ([], r)
  | '\\' :: 'u' :: a :: b :: c :: d :: r => do
    let n ← unit? a b c d
    if 0xD800 ≤ n ∧ n < 0xDC00 then
      match r with
      | '\\' :: 'u' :: e :: f :: g :: h :: r => do
        let m ← unit? e f g h
        if 0xDC00 ≤ m ∧ m < 0xE000 then
          let (t, rest) ← body? r
          return (Char.ofNat (0x10000 + (n - 0xD800) * 0x400 + (m - 0xDC00)) :: t, rest)
        else none
      | _ => none
    else if 0xDC00 ≤ n ∧ n < 0xE000 then none
    else
      let (t, rest) ← body? r
      return (Char.ofNat n :: t, rest)
  | '\\' :: e :: r => do
    let c ← escaped? e
    let (t, rest) ← body? r
    return (c :: t, rest)
  | c :: r =>
    if c = '\\' ∨ c.toNat < 32 then none
    else do
      let (t, rest) ← body? r
      return (c :: t, rest)

/-- A run of one or more digits. -/
def digits? (t : Text) : Option (Text × Text) :=
  let digits := t.takeWhile Char.isDigit
  if digits.isEmpty then none else some (digits, t.dropWhile Char.isDigit)

/-- Whether a minus stands in front, and the text behind it. -/
def sign (t : Text) : Bool × Text :=
  match t with
  | '-' :: r => (true, r)
  | _ => (false, t)

/-- A point and its digits, if a point stands there. -/
def fractionPart? (t : Text) : Option (Text × Text) :=
  match t with
  | '.' :: r => (digits? r).map fun (d, r) => ('.' :: d, r)
  | _ => some ([], t)

/-- An exponent with an optional sign, if its letter stands there. -/
def exponentPart? (t : Text) : Option (Text × Text) :=
  match t with
  | [] => some ([], t)
  | e :: r =>
    if e = 'e' ∨ e = 'E' then
      match r with
      | s :: r' =>
        if s = '+' ∨ s = '-' then (digits? r').map fun (d, r) => (e :: s :: d, r)
        else (digits? r).map fun (d, r) => (e :: d, r)
      | [] => none
    else some ([], t)

/-- A number without superfluous zeros. It is an integer if it has neither point nor exponent, is
not a negative zero, and fits 64 bits with or without a sign. -/
def number? (t : Text) : Option (Json × Text) := do
  let (negative, t) := sign t
  let (whole, t) ← digits? t
  if 1 < whole.length ∧ whole.head? = some '0' then none
  let (point, t) ← fractionPart? t
  let (power, t) ← exponentPart? t
  let n := Decimal.value whole
  let literal := (if negative then ['-'] else []) ++ whole ++ point ++ power
  let exact := point.isEmpty && power.isEmpty &&
    (if negative then 0 < n && n ≤ Nat.pow 2 63 else n < Nat.pow 2 64)
  let v := if exact then Json.int (if negative then -(n : Int) else n) else .real literal
  return (v, t)

mutual

/-- One value, read with at most `depth` nested steps, and the text behind it. -/
def value? : Nat → Text → Option (Json × Text)
  | 0, _ => none
  | depth + 1, t =>
    match skipSpace t with
    | '\x7b' :: r =>
      match skipSpace r with
      | '\x7d' :: r => some (.obj [], r)
      | r => (fields? depth r).map fun (fs, r) => (.obj fs, r)
    | '[' :: r =>
      match skipSpace r with
      | ']' :: r => some (.arr [], r)
      | r => (items? depth r).map fun (vs, r) => (.arr vs, r)
    | '"' :: r => (body? r).map fun (s, r) => (.str s, r)
    | 'n' :: 'u' :: 'l' :: 'l' :: r => some (.null, r)
    | 't' :: 'r' :: 'u' :: 'e' :: r => some (.bool true, r)
    | 'f' :: 'a' :: 'l' :: 's' :: 'e' :: r => some (.bool false, r)
    | r => number? r

/-- The items of an array up to its closing bracket. -/
def items? : Nat → Text → Option (List Json × Text)
  | 0, _ => none
  | depth + 1, t => do
    let (v, t) ← value? depth t
    match skipSpace t with
    | ',' :: r => (items? depth r).map fun (vs, r) => (v :: vs, r)
    | ']' :: r => some ([v], r)
    | _ => none

/-- The fields of an object up to its closing brace. -/
def fields? : Nat → Text → Option (List (Text × Json) × Text)
  | 0, _ => none
  | depth + 1, t =>
    match skipSpace t with
    | '"' :: r => do
      let (k, r) ← body? r
      match skipSpace r with
      | ':' :: r => do
        let (v, r) ← value? depth r
        match skipSpace r with
        | ',' :: r => (fields? depth r).map fun (fs, r) => ((k, v) :: fs, r)
        | '\x7d' :: r => some ([(k, v)], r)
        | _ => none
      | _ => none
    | _ => none

end

/-- The value that the whole text denotes. Every step of the reader takes a character, so the
length of the text bounds the steps. -/
def read? (t : Text) : Option Json := do
  let (v, rest) ← value? (t.length + 1) t
  if (skipSpace rest).isEmpty then return v else none

end Json

end LogShift
