import LogShift.Settings.Basic
import LogShift.Signal

/-! Settings from the environment. -/
namespace LogShift

/-- Variables and their values. -/
abbrev Environment := List (String × Text)

namespace Environment

def get? (env : Environment) (key : String) : Option Text :=
  env.lookup key

/-- The variables that settings are read from. -/
def keys : List String :=
  ["LOGREBASE_GENERAL_LOG_LEVEL", "LOGREBASE_GENERAL_LOG_FORMAT", "LOGREBASE_BATCH_START_YEAR",
    "LOGREBASE_BATCH_NOW", "LOGREBASE_BATCH_MAX_LINE_LENGTH", "LOGREBASE_OUTPUT_PRETTY_JSON"]

def ignoredEvent (kind key : String) (value : Text) : Event where
  level := .warn
  message := "failed to parse " ++ kind ++ " from env var, ignoring"
  fields := [("env_key", key.toList), ("value", value)]

/-- The value of a variable in place of `current`; a value that cannot be read is reported and
otherwise passed over. -/
def overrideWith {α : Type} (env : Environment) (key kind : String) (read : Text → Option α)
    (current : α) : α × List Event :=
  match env.get? key with
  | none => (current, [])
  | some value =>
    match read value with
    | some a => (a, [])
    | none => (current, [ignoredEvent kind key value])

def boolean? (t : Text) : Option Bool :=
  if t = "true".toList then some true else if t = "false".toList then some false else none

/-- Settings with the variables that override them. -/
def apply (env : Environment) (s : Settings) : Settings × List Event :=
  let (logLevel, _) :=
    env.overrideWith "LOGREBASE_GENERAL_LOG_LEVEL" "string" some s.general.logLevel
  let (logFormat, _) :=
    env.overrideWith "LOGREBASE_GENERAL_LOG_FORMAT" "string" some s.general.logFormat
  let (startYear, yearEvents) := env.overrideWith "LOGREBASE_BATCH_START_YEAR" "i32"
    (fun t => (Decimal.signed? 32 t.trim).map some) s.batch.startYear
  let (now, nowEvents) := env.overrideWith "LOGREBASE_BATCH_NOW" "datetime"
    (fun t => (Moment.ofIso? t.trim).map some) s.batch.now
  let (maxLineLength, lengthEvents) := env.overrideWith "LOGREBASE_BATCH_MAX_LINE_LENGTH" "usize"
    (Decimal.unsigned? 64) s.batch.maxLineLength
  let (prettyJson, jsonEvents) := env.overrideWith "LOGREBASE_OUTPUT_PRETTY_JSON" "bool"
    boolean? s.output.prettyJson
  (⟨⟨logLevel, logFormat⟩, ⟨startYear, now, maxLineLength⟩, ⟨prettyJson⟩⟩,
    yearEvents ++ nowEvents ++ lengthEvents ++ jsonEvents)

end Environment

end LogShift
