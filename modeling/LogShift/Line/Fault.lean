import LogShift.Format
import LogShift.Stamp.Reader

/-! Why a line is not a record. -/
namespace LogShift

/-- What a line grammar missed. -/
inductive Reason where
  | stampOpen
  | stamp (surface : Surface)
  | stampClose
  | date (cause : DateError)
  | blankAfterStamp
  | severityOpen
  | severityEmpty
  | severity
  | blankAfterSeverity
  | threadOpen
  | threadEmpty
  | blankAfterThread
  | hostname
  | blankAfterHostname
  | source
  | blankAfterSource
  | pidMissing
  | pidRange
deriving DecidableEq

namespace Reason

def message : Reason → String
  | stampOpen => "expected '[' before timestamp"
  | stamp .ctime => "expected 'Www Mmm DD HH:MM:SS YYYY' timestamp"
  | stamp .syslog => "expected 'Mmm DD HH:MM:SS' timestamp"
  | stamp .iso => "expected 'YYYY-MM-DD HH:MM:SS,mmm' timestamp"
  | stampClose => "expected ']' after timestamp"
  | date cause => cause.message
  | blankAfterStamp => "expected whitespace after timestamp"
  | severityOpen => "expected '[' before severity"
  | severityEmpty => "expected non-empty severity"
  | severity => "expected severity"
  | blankAfterSeverity => "expected whitespace after severity"
  | threadOpen => "expected '[' before thread"
  | threadEmpty => "expected non-empty thread"
  | blankAfterThread => "expected whitespace after thread"
  | hostname => "expected hostname"
  | blankAfterHostname => "expected whitespace after hostname"
  | source => "expected 'source:'"
  | blankAfterSource => "expected whitespace after 'source:'"
  | pidMissing => "missing pid"
  | pidRange => "pid out of range"

end Reason

/-- A line left out of its batch. -/
inductive Fault where
  /-- The line breaks the grammar of its format at a byte offset. -/
  | malformed (format : LogFormat) (offset : Nat) (reason : Reason) (line : Text)
  /-- The line has more bytes than are allowed. -/
  | tooLarge (size max : Nat)
deriving DecidableEq

namespace Fault

def message : Fault → String
  | malformed format offset reason _ =>
    s!"malformed {format.name} line at offset {offset}: {reason.message}"
  | tooLarge size max => s!"input too large: {size} bytes (max: {max})"

/-- The line of a grammar fault. -/
def line? : Fault → Option Text
  | malformed _ _ _ line => some line
  | tooLarge .. => none

end Fault

/-- What a line takes from its place in the batch. -/
structure Context where
  seq : Nat
  /-- The year of lines that name none. -/
  year : Int

namespace Line

/-- The byte of `line` at which its part `rest` starts. -/
def offsetOf (line rest : Text) : Nat :=
  line.width - rest.width

/-- The value, or the fault that stands for its absence. -/
def orFault {α : Type} (fault : Fault) : Option α → Except Fault α
  | some a => .ok a
  | none => .error fault

end Line

end LogShift
