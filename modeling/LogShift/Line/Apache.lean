import LogShift.Line.Fault
import LogShift.Record.Basic

/-! Web server error lines: `[Www Mmm DD HH:MM:SS YYYY] [severity] [client addr] name() message /path`. -/
namespace LogShift.Line.Apache

/-- The address of a `[client addr]` note with blanks behind it, and the text behind those. -/
def client? (t : Text) : Option (Text × Text) := do
  let t ← Text.after? "[client".toList t
  let t ← Text.afterBlanks? t
  let (addr, t) ← t.cutAt? ']'
  if addr.isEmpty then none
  let t ← Text.afterBlanks? t
  return (addr, t)

def isNameChar (c : Char) : Bool :=
  c.isAlphanum || c == '_' || c == '.'

/-- A `name()` at the front of a message with a blank behind it. -/
def function? (msg : Text) : Option Text := do
  let name := msg.takeWhile isNameChar
  if name.isEmpty then none
  let rest ← Text.after? ['(', ')'] (msg.dropWhile isNameChar)
  let _ ← Text.afterBlanks? rest
  return name ++ ['(', ')']

def isPathChar (c : Char) : Bool :=
  c.isAlphanum || c == '.' || c == '_' || c == '-'

/-- The rest of a path of which `n` segments have begun; right behind a slash if `fresh`. -/
def isPathFrom (n : Nat) (fresh : Bool) : Text → Bool
  | [] => 2 ≤ n
  | c :: t =>
    if fresh then isPathChar c && isPathFrom (n + 1) false t
    else if c = '/' then isPathFrom n true t
    else isPathChar c && isPathFrom n false t

/-- Two or more segments, each behind a slash, and at most one slash behind the last. -/
def isPath : Text → Bool
  | '/' :: t => isPathFrom 0 true t
  | _ => false

/-- The longest path that ends the message. -/
def path? : Text → Option Text
  | [] => none
  | c :: t => if isPath (c :: t) then some (c :: t) else path? t

def parse (ctx : Context) (line : Text) : Except Fault Record := do
  let fault (rest : Text) (reason : Reason) : Fault :=
    .malformed .apache (offsetOf line rest) reason line
  let stampText ← orFault (fault line .stampOpen) (Text.after? ['['] line)
  let (stamp, t) ← orFault (fault stampText (.stamp .ctime)) (Stamp.read? .ctime stampText)
  let t ← orFault (fault t .stampClose) (Text.after? [']'] t)
  let timestamp ← (stamp.fields.resolve none false).mapError fun e => fault stampText (.date e)
  let t ← orFault (fault t .blankAfterStamp) (Text.afterBlanks? t)
  let t ← orFault (fault t .severityOpen) (Text.after? ['['] t)
  let (severity, t) ← orFault (fault t .severityEmpty) <|
    (t.cutAt? ']').filter fun (severity, _) => !severity.isEmpty
  let t ← orFault (fault t .blankAfterSeverity) (Text.afterBlanks? t)
  let (client, t) := match client? t with
    | some (addr, t) => (some addr, t)
    | none => (none, t)
  let msg := t.trim
  return .apache {
    seq := ctx.seq, timestamp, severity, client, function := function? msg, path := path? msg
    msg, logline := line }

end LogShift.Line.Apache
