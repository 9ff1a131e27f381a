import LogShift.Line.Fault
import LogShift.Record.Basic

/-! System log lines: `Mmm DD HH:MM:SS hostname source: message`, with the process number of the
source in brackets. -/
namespace LogShift.Line

/-- The parts of a line that both system log formats share. -/
structure Envelope where
  timestamp : Moment
  hostname : Text
  /-- All that stands between host and colon. -/
  source : Text
  /-- The byte at which `source` starts. -/
  sourceAt : Nat
  msg : Text

def Envelope.parse (format : LogFormat) (year : Int) (line : Text) : Except Fault Envelope := do
  let fault (rest : Text) (reason : Reason) : Fault :=
    .malformed format (offsetOf line rest) reason line
  let (stamp, t) ← orFault (fault line (.stamp .syslog)) (Stamp.read? .syslog line)
  let timestamp ←
    (stamp.fields.resolve (some year) false).mapError fun e => fault line (.date e)
  let t ← orFault (fault t .blankAfterStamp) (Text.afterBlanks? t)
  let hostname := t.takeWhile fun c => !isWhiteSpace c
  if hostname.isEmpty then .error (fault t .hostname)
  let t := t.dropWhile fun c => !isWhiteSpace c
  let sourceText ← orFault (fault t .blankAfterHostname) (Text.afterBlanks? t)
  let (source, t) ← orFault (fault sourceText .source) (sourceText.cutAt? ':')
  return {
    timestamp, hostname, source, sourceAt := offsetOf line sourceText, msg := t.dropWhile isBlank }

/-- Every opening bracket of a text from left to right, as the parts before and behind it. -/
def brackets : Text → List (Text × Text)
  | [] => []
  | c :: t =>
    let later := (brackets t).map fun (l, r) => (c :: l, r)
    if c = '[' then ([], t) :: later else later

/-- The digits of a group `[digits]` whose bracket has just been passed. -/
def bracketed? (t : Text) : Option Text :=
  let digits := t.takeWhile Char.isDigit
  if !digits.isEmpty && (t.dropWhile Char.isDigit).head? == some ']' then some digits else none

/-- The number of a process, below `2 ^ 32`. -/
def pid? (digits : Text) : Option Nat :=
  let n := Decimal.value digits
  if n < Nat.pow 2 32 then some n else none

namespace Linux

/-- The source up to its first bracket of either kind; all of it if nothing stands before that. -/
def component (source : Text) : Text :=
  let name := Text.trim (source.takeWhile fun c => !(c == '(' || c == '['))
  if name.isEmpty then source else name

/-- Only the last opening bracket of the source can open the process number. -/
def parse (ctx : Context) (line : Text) : Except Fault Record := do
  let env ← Envelope.parse .linux ctx.year line
  let pid ← match (brackets env.source).getLast? with
    | none => pure none
    | some (before, inner) =>
      match bracketed? inner with
      | none => pure none
      | some digits =>
        (orFault (.malformed .linux (env.sourceAt + before.width + 1) .pidRange line)
          (pid? digits)).map some
  return .linux {
    seq := ctx.seq, timestamp := env.timestamp, hostname := env.hostname
    source := component env.source, pid, msg := env.msg, logline := line }

end Linux

namespace OpenSsh

/-- The name before the rightmost `[digits]` of a word that is not its front, and those digits. -/
def process? (word : Text) : Option (Text × Text) :=
  (brackets word).reverse.findSome? fun (name, inner) =>
    if name.isEmpty then none else (bracketed? inner).map fun digits => (name, digits)

def parse (ctx : Context) (line : Text) : Except Fault Record := do
  let env ← Envelope.parse .openssh ctx.year line
  let fault (reason : Reason) : Fault := .malformed .openssh env.sourceAt reason line
  let (source, digits) ← orFault (fault .pidMissing) (env.source.words.findSome? process?)
  let pid ← orFault (fault .pidRange) (pid? digits)
  return .openssh {
    seq := ctx.seq, timestamp := env.timestamp, hostname := env.hostname, source, pid
    msg := env.msg, logline := line, ip := none, user := none }

end OpenSsh

end LogShift.Line
