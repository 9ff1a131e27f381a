import LogShift.Failure
import LogShift.Files.Fault

/-! How a command ends that cannot do its work. -/
namespace LogShift

inductive CommandError where
  | config (cause : ConfigError)
  /-- The answer of a check of the settings. -/
  | invalidConfig
  | unknownSection (name : Text)
  | emptyBatch (format : LogFormat) (malformed : Nat)
  | io (cause : FileFault)
  | batch (cause : Failure)
deriving DecidableEq

namespace CommandError

/-- Names of the sections that can be shown alone. -/
def sections : List String := ["general", "batch", "output"]

def message : CommandError → String
  | config cause => s!"configuration error: {cause.message}"
  | invalidConfig => "configuration error: configuration is invalid"
  | unknownSection name =>
    let known := ", ".intercalate sections
    s!"unknown section: {String.ofList name} (expected: {known})"
  | emptyBatch format malformed => Failure.emptyBatchMessage format malformed
  | io cause => s!"io error: {cause.message}"
  | batch cause => cause.reportMessage

/-- Exit code of the process. -/
def exitCode : CommandError → Nat
  | config _ | invalidConfig => 2
  | emptyBatch .. => 3
  | io _ => 10
  | unknownSection _ | batch _ => 1

def ofFailure (f : Failure) : CommandError :=
  match f.configError? with
  | some cause => config cause
  | none =>
    match f with
    | .emptyBatch format malformed => emptyBatch format malformed
    | f => batch f

end CommandError

end LogShift
