import LogShift.Toml.Scalar

/-! Text between quotes, on one line or on several. -/
namespace LogShift.Toml

def isWs (c : Char) : Bool := c == ' ' || c == '\t'

/-- Characters that may stand in a line as they are. -/
def isPlain (c : Char) : Bool :=
  c == '\t' || (32 ≤ c.toNat && c.toNat ≠ 127)

/-- The character with the number that hexadecimal digits write. -/
def codePoint? (digits : List Char) : Option Char := do
  let n := (← digits.mapM hexDigit?).foldl (fun n d => n * 16 + d) 0
  if h : n.isValidChar then some (Char.ofNatAux n h) else none

/-- The character behind a backslash. -/
def escaped? : Char → Option Char
  | '"' => some '"'
  | '\\' => some '\\'
  | 'b' => some (Char.ofNat 8)
  | 't' => some '\t'
  | 'n' => some '\n'
  | 'f' => some (Char.ofNat 12)
  | 'r' => some '\r'
  | 'e' => some (Char.ofNat 27)
  | _ => none

/-- The text up to a closing quotation mark, and what follows the mark. -/
def basic? : Text → Option (Text × Text)
  | [] => none
  | '"' :: r => some ([], r)
  | '\\' :: 'x' :: a :: b :: r => do
    let c ← codePoint? [a, b]
    let (t, rest) ← basic? r
    return (c :: t, rest)
  | '\\' :: 'u' :: a :: b :: c :: d :: r => do
    let c ← codePoint? [a, b, c, d]
    let (t, rest) ← basic? r
    return (c :: t, rest)
  | '\\' :: 'U' :: a :: b :: c :: d :: e :: f :: g :: h :: r => do
    let c ← codePoint? [a, b, c, d, e, f, g, h]
    let (t, rest) ← basic? r
    return (c :: t, rest)
  | '\\' :: e :: r => do
    let c ← escaped? e
    let (t, rest) ← basic? r
    return (c :: t, rest)
  | c :: r =>
    if isPlain c && c != '\\' then do
      let (t, rest) ← basic? r
      return (c :: t, rest)
    else none

/-- The text up to a closing apostrophe, all of it as it stands. -/
def literal? : Text → Option (Text × Text)
  | [] => none
  | '\'' :: r => some ([], r)
  | c :: r =>
    if isPlain c then do
      let (t, rest) ← literal? r
      return (c :: t, rest)
    else none

/-- Whether blanks and then an end of line follow. -/
def endsLine (t : Text) : Bool :=
  match t.dropWhile isWs with
  | '\n' :: _ | '\r' :: '\n' :: _ => true
  | _ => false

/-- The text up to three closing quotation marks; two more before them belong to the text. After a
backslash at the end of a line, `skipping`, white space is left out. -/
def basicLines? : Bool → Text → Option (Text × Text)
  | _, [] => none
  | _, '"' :: '"' :: '"' :: '"' :: '"' :: r => some (['"', '"'], r)
  | _, '"' :: '"' :: '"' :: '"' :: r => some (['"'], r)
  | _, '"' :: '"' :: '"' :: r => some ([], r)
  | _, '\\' :: 'x' :: a :: b :: r => do
    let c ← codePoint? [a, b]
    let (t, rest) ← basicLines? false r
    return (c :: t, rest)
  | _, '\\' :: 'u' :: a :: b :: c :: d :: r => do
    let c ← codePoint? [a, b, c, d]
    let (t, rest) ← basicLines? false r
    return (c :: t, rest)
  | _, '\\' :: 'U' :: a :: b :: c :: d :: e :: f :: g :: h :: r => do
    let c ← codePoint? [a, b, c, d, e, f, g, h]
    let (t, rest) ← basicLines? false r
    return (c :: t, rest)
  | _, '\\' :: e :: r =>
    if endsLine (e :: r) then basicLines? true (e :: r)
    else do
      let c ← escaped? e
      let (t, rest) ← basicLines? false r
      return (c :: t, rest)
  | skipping, '\r' :: '\n' :: r =>
    if skipping then basicLines? true r
    else do
      let (t, rest) ← basicLines? false r
      return ('\r' :: '\n' :: t, rest)
  | skipping, c :: r =>
    if skipping && (isWs c || c == '\n') then basicLines? true r
    else if (isPlain c || c == '\n') && c != '\\' then do
      let (t, rest) ← basicLines? false r
      return (c :: t, rest)
    else none

/-- The text up to three closing apostrophes; two more before them belong to the text. -/
def literalLines? : Text → Option (Text × Text)
  | [] => none
  | '\'' :: '\'' :: '\'' :: '\'' :: '\'' :: r => some (['\'', '\''], r)
  | '\'' :: '\'' :: '\'' :: '\'' :: r => some (['\''], r)
  | '\'' :: '\'' :: '\'' :: r => some ([], r)
  | '\r' :: '\n' :: r => do
    let (t, rest) ← literalLines? r
    return ('\r' :: '\n' :: t, rest)
  | c :: r =>
    if isPlain c || c == '\n' then do
      let (t, rest) ← literalLines? r
      return (c :: t, rest)
    else none

/-- An end of line right behind the opening marks is left out. -/
def skipLineEnd : Text → Text
  | '\n' :: r => r
  | '\r' :: '\n' :: r => r
  | t => t

/-- Text in any kind of quotes, and what follows it; `none` as well if there is no quote here. -/
def quoted? : Text → Option (Text × Text)
  | '"' :: '"' :: '"' :: r => basicLines? false (skipLineEnd r)
  | '"' :: r => basic? r
  | '\'' :: '\'' :: '\'' :: r => literalLines? (skipLineEnd r)
  | '\'' :: r => literal? r
  | _ => none

end LogShift.Toml
