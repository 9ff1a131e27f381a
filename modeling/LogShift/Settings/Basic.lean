import LogShift.Batch.Config

/-! Settings of the program, their defaults, what makes them valid and how they direct the log. -/
namespace LogShift

structure GeneralSettings where
  logLevel : Text
  logFormat : Text
deriving DecidableEq, Repr

structure BatchSettings where
  /-- None leaves the choice to the format. -/
  startYear : Option Int
  /-- None stands for the clock. -/
  now : Option Moment
  maxLineLength : Nat
deriving DecidableEq

structure OutputSettings where
  prettyJson : Bool
deriving DecidableEq, Repr

structure Settings where
  general : GeneralSettings
  batch : BatchSettings
  output : OutputSettings
deriving DecidableEq

namespace Settings

def defaults : Settings where
  general := ⟨"info".toList, "pretty".toList⟩
  batch := ⟨none, none, defaultMaxLineLength⟩
  output := ⟨false⟩

def logLevels : List String := ["trace", "debug", "info", "warn", "error"]

def logFormats : List String := ["json", "pretty"]

def isOneOf (t : Text) (choices : List String) : Bool :=
  choices.any fun c => c.toList = t

def oneOfReason (choices : List String) : String :=
  "must be one of: " ++ ", ".intercalate choices

/-- The first setting, in the order in which they are written, that cannot be used. -/
def validate (s : Settings) : Except ConfigError Unit := do
  if !isOneOf s.general.logLevel logLevels then
    .error (.invalidValue "general.log_level" (oneOfReason logLevels))
  if !isOneOf s.general.logFormat logFormats then
    .error (.invalidValue "general.log_format" (oneOfReason logFormats))
  if let some year := s.batch.startYear then
    if !BatchConfig.isFourDigitYear year then
      .error (.invalidValue "batch.start_year" s!"{year} is outside 1..=9999")
  if let some now := s.batch.now then
    if !BatchConfig.isFourDigitYear now.year then
      .error (.invalidValue "batch.now" s!"year {now.year} is outside 1..=9999")
  if s.batch.maxLineLength = 0 then
    .error (.invalidValue "batch.max_line_length" "must be greater than 0")

/-- The level of the messages that are logged: the one given on the command line, else that of the
environment, else that of the settings. -/
def logFilter (given environment : Option Text) (s : GeneralSettings) : Text :=
  (given.or environment).getD s.logLevel

/-- How the messages that are logged are laid out. -/
inductive LogLayout where
  | json
  | pretty
deriving DecidableEq, Repr

def unknownLogFormatMessage (format : Text) : String :=
  s!"unknown log format '{String.ofList format}', expected 'json' or 'pretty'"

/-- The layout that the settings name, or what is said if there is none of the name. -/
def logLayout (s : GeneralSettings) : Except String LogLayout :=
  if s.logFormat = "json".toList then .ok .json
  else if s.logFormat = "pretty".toList then .ok .pretty
  else .error (unknownLogFormatMessage s.logFormat)

end Settings

/-- The settings of a batch of one format. -/
def BatchConfig.ofSettings (s : BatchSettings) (format : LogFormat) : BatchConfig where
  format := format
  startYear := s.startYear.getD format.defaultStartYear
  now := s.now
  maxLineLength := s.maxLineLength
  enrich := true

end LogShift
