import LogShift.Line.Fault
import LogShift.Record.Basic
import LogShift.Text.Classes

/-! Lines of a distributed file system: `YYYY-MM-DD HH:MM:SS,mmm SEVERITY [thread] source: message`. -/
namespace LogShift.Line.Hadoop

def isSeverityChar (c : Char) : Bool :=
  isAlphanumeric c || c == '_'

def parse (ctx : Context) (line : Text) : Except Fault Record := do
  let fault (rest : Text) (reason : Reason) : Fault :=
    .malformed .hadoop (offsetOf line rest) reason line
  let (stamp, t) ← orFault (fault line (.stamp .iso)) (Stamp.read? .iso line)
  let timestamp ← (stamp.fields.resolve none false).mapError fun e => fault line (.date e)
  let t ← orFault (fault t .blankAfterStamp) (Text.afterBlanks? t)
  let severity := t.takeWhile isSeverityChar
  if severity.isEmpty then .error (fault t .severity)
  let t := t.dropWhile isSeverityChar
  let t ← orFault (fault t .blankAfterSeverity) (Text.afterBlanks? t)
  let t ← orFault (fault t .threadOpen) (Text.after? ['['] t)
  let (thread, t) ← orFault (fault t .threadEmpty) <|
    (t.cutAt? ']').filter fun (thread, _) => !thread.isEmpty
  let t ← orFault (fault t .blankAfterThread) (Text.afterBlanks? t)
  let (source, t) ← orFault (fault t .source) <|
    (t.cutAt? ':').filter fun (source, _) => !source.isEmpty
  let t ← orFault (fault t .blankAfterSource) (Text.afterBlanks? t)
  return .hadoop {
    seq := ctx.seq, timestamp, severity, thread, source, msg := t.trim, logline := line }

end LogShift.Line.Hadoop
