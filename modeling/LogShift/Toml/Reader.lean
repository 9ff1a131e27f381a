import LogShift.Toml.Document
import LogShift.Toml.Quoted

/-! Reading TOML documents. -/
namespace LogShift.Toml

def skipWs (t : Text) : Text := t.dropWhile isWs

/-- What follows the end of a line, before which a comment may stand. -/
def lineEnd? (t : Text) : Option Text :=
  let t := match skipWs t with
    | '#' :: r => r.dropWhile isPlain
    | r => r
  match t with
  | [] => some []
  | '\n' :: r => some r
  | '\r' :: '\n' :: r => some r
  | _ => none

/-- What follows white space, ends of lines and comments; `inComment` tells where we are. -/
def skipTrivia? : Bool → Text → Option Text
  | _, [] => some []
  | _, '\n' :: t => skipTrivia? false t
  | _, '\r' :: '\n' :: t => skipTrivia? false t
  | true, c :: t => if isPlain c then skipTrivia? true t else none
  | false, c :: t =>
    if c = '#' then skipTrivia? true t
    else if isWs c then skipTrivia? false t
    else some (c :: t)

def isBareKeyChar (c : Char) : Bool :=
  c.isAlphanum || c == '_' || c == '-'

/-- A key without points. -/
def simpleKey? (t : Text) : Option (Text × Text) :=
  match t with
  | '"' :: r => basic? r
  | '\'' :: r => literal? r
  | _ =>
    let key := t.takeWhile isBareKeyChar
    if key.isEmpty then none else some (key, t.dropWhile isBareKeyChar)

/-- The most parts that a key has, and the most brackets that stand open in a value. -/
def maxDepth : Nat := 80

/-- A key of at most `parts` parts, and the text behind it and its white space. -/
def keyParts? : (parts : Nat) → Text → Option (List Text × Text)
  | 0, _ => none
  | parts + 1, t => do
    let (k, t) ← simpleKey? t
    match skipWs t with
    | '.' :: r => (keyParts? parts (skipWs r)).map fun (ks, r) => (k :: ks, r)
    | r => some ([k], r)

def key? : Text → Option (List Text × Text) :=
  keyParts? maxDepth

mutual

/-- One value and the text behind it, read in at most `fuel` steps and with at most `depth` open
brackets. -/
def value? : (fuel depth : Nat) → Text → Option (Value × Text)
  | 0, _, _ => none
  | fuel + 1, depth, t =>
    match depth, t with
    | 0, '[' :: _ | 0, '\x7b' :: _ => none
    | depth + 1, '[' :: r => do
      match ← skipTrivia? false r with
      | ']' :: r => some (.array [], r)
      | r => (items? fuel depth r).map fun (vs, r) => (.array vs, r)
    | depth + 1, '\x7b' :: r => do
      match ← skipTrivia? false r with
      | '\x7d' :: r => some (.table .inline [], r)
      | r =>
        let (assignments, r) ← assignments? fuel depth r
        (inline? assignments).map fun v => (v, r)
    | _, c :: _ =>
      if c = '"' ∨ c = '\'' then (quoted? t).map fun (s, r) => (.string s, r)
      else
        let (token, r) := scalarText t
        (scalar? token).map fun v => (v, r)
    | _, [] => none

/-- The items of an array up to its closing bracket. -/
def items? : (fuel depth : Nat) → Text → Option (List Value × Text)
  | 0, _, _ => none
  | fuel + 1, depth, t => do
    let (v, t) ← value? fuel depth t
    match ← skipTrivia? false t with
    | ']' :: r => some ([v], r)
    | ',' :: r => do
      match ← skipTrivia? false r with
      | ']' :: r => some ([v], r)
      | r => (items? fuel depth r).map fun (vs, r) => (v :: vs, r)
    | _ => none

/-- The assignments of a table up to its closing brace. -/
def assignments? : (fuel depth : Nat) → Text → Option (List (List Text × Value) × Text)
  | 0, _, _ => none
  | fuel + 1, depth, t => do
    let (path, t) ← key? t
    match ← skipTrivia? false t with
    | '=' :: t => do
      let (v, t) ← value? fuel depth (← skipTrivia? false t)
      match ← skipTrivia? false t with
      | '\x7d' :: r => some ([(path, v)], r)
      | ',' :: r => do
        match ← skipTrivia? false r with
        | '\x7d' :: r => some ([(path, v)], r)
        | r => (assignments? fuel depth r).map fun (rest, r) => ((path, v) :: rest, r)
      | _ => none
    | _ => none

end

/-- One statement and the text behind its line. -/
def statement? (fuel : Nat) (t : Text) : Option (Statement × Text) :=
  match t with
  | '[' :: '[' :: r => do
    let (path, r) ← key? (skipWs r)
    let r ← Text.after? [']', ']'] r
    return (.arrayHeader path, ← lineEnd? r)
  | '[' :: r => do
    let (path, r) ← key? (skipWs r)
    let r ← Text.after? [']'] r
    return (.header path, ← lineEnd? r)
  | _ => do
    let (path, r) ← key? t
    let r ← Text.after? ['='] r
    let (v, r) ← value? fuel maxDepth (skipWs r)
    return (.assign path v, ← lineEnd? r)

def statements? : Nat → Text → Option (List Statement)
  | 0, _ => none
  | fuel + 1, t => do
    match ← skipTrivia? false t with
    | [] => some []
    | t =>
      let (s, rest) ← statement? (fuel + 1) t
      (statements? fuel rest).map (s :: ·)

/-- The table that a document writes. Each step of the reader takes a character, so that the length
of the text bounds the steps. A mark of the byte order may stand in front. -/
def read? (t : Text) : Option Value := do
  let t := match t with
    | c :: r => if c.toNat = 0xFEFF then r else t
    | [] => []
  build? (← statements? (t.length + 1) t)

end LogShift.Toml
