import LogShift.Line.Fault

/-! Why a batch is not delivered, and how each cause is worded at the levels that report it. -/
namespace LogShift

/-- A setting that cannot be used. -/
inductive ConfigError where
  | fileNotFound (path : Text)
  /-- The document is not TOML or its values have the wrong types. -/
  | parseFailed
  | invalidValue (field reason : String)
deriving DecidableEq

def ConfigError.message : ConfigError → String
  | fileNotFound path => s!"config file not found: {String.ofList path}"
  | parseFailed => "failed to parse config:"
  | invalidValue field reason => s!"invalid config value for '{field}': {reason}"

/-- What can go wrong with a batch. -/
inductive Failure where
  | fault (cause : Fault)
  | unsupportedFormat (name : Text)
  | emptyBatch (format : LogFormat) (malformed : Nat)
  /-- The timestamp `t` of a record cannot be moved by `delta`. -/
  | shiftOverflow (seq : Nat) (t : Moment) (delta : Span)
  | setting (field reason : String)
deriving DecidableEq

namespace Failure

def emptyBatchMessage (format : LogFormat) (malformed : Nat) : String :=
  s!"empty {format.name} batch: no parseable lines ({malformed} malformed)"

def overflowReason (t : Moment) (delta : Span) : String :=
  s!"{String.ofList t.display} + {delta.wholeSeconds}s is out of range"

def message : Failure → String
  | fault cause => cause.message
  | unsupportedFormat name => s!"unsupported log format: {String.ofList name}"
  | emptyBatch format malformed => emptyBatchMessage format malformed
  | shiftOverflow seq t delta =>
    s!"shift overflow for record #{seq}: {overflowReason t delta}"
  | setting field reason => s!"config error: {field}: {reason}"

/-- A failure that is a setting's fault. -/
def configError? : Failure → Option ConfigError
  | setting field reason => some (.invalidValue field reason)
  | unsupportedFormat name =>
    some (.invalidValue "format" s!"unsupported log format: {String.ofList name}")
  | fault _ | emptyBatch .. | shiftOverflow .. => none

/-- The message with the kind of trouble in front. -/
def reportMessage (f : Failure) : String :=
  match f.configError? with
  | some e => s!"config error: {e.message}"
  | none =>
    match f with
    | fault cause => s!"parse error: {cause.message}"
    | shiftOverflow seq t delta =>
      s!"batch error: timestamp shift overflow for record #{seq}: {overflowReason t delta}"
    | f => s!"batch error: {f.message}"

end Failure

end LogShift
