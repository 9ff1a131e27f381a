import LogShift.Command.Error
import LogShift.Settings.Basic
import LogShift.Toml.Reader

/-! Settings as TOML documents. -/
namespace LogShift.Settings

open Toml (Value Scalar)

/-- A field that may be missing. -/
def field? {α : Type} (v : Value) (key : String) (place : Nat) (read : Value → Option α)
    (absent : α) : Option α :=
  match v.member? key place with
  | none => some absent
  | some v => read v

/-- Whether a value can hold the named fields. Fields with other names are passed over, and only
have to be readable. -/
def isSection (keys : List String) (v : Value) : Bool :=
  v.isCompound && v.othersFit keys

def general? (v : Value) : Option GeneralSettings :=
  if isSection ["log_level", "log_format"] v then do
    let logLevel ← field? v "log_level" 0 Value.text? defaults.general.logLevel
    let logFormat ← field? v "log_format" 1 Value.text? defaults.general.logFormat
    return ⟨logLevel, logFormat⟩
  else none

def batch? (v : Value) : Option BatchSettings :=
  if isSection ["start_year", "now", "max_line_length"] v then do
    let startYear ← field? v "start_year" 0
      (fun v => (v.integer? (-(Nat.pow 2 31 : Int)) (Nat.pow 2 31)).map some) none
    let now ← field? v "now" 1 (fun v => (v.text?.bind Moment.ofIso?).map some) none
    let maxLineLength ← field? v "max_line_length" 2
      (fun v => (v.integer? 0 (Nat.pow 2 64)).map Int.toNat) defaults.batch.maxLineLength
    return ⟨startYear, now, maxLineLength⟩
  else none

def output? (v : Value) : Option OutputSettings :=
  if isSection ["pretty_json"] v then
    (field? v "pretty_json" 0 Value.boolean? defaults.output.prettyJson).map OutputSettings.mk
  else none

/-- The settings in a table. -/
def ofToml? (v : Value) : Option Settings :=
  if isSection ["general", "batch", "output"] v then do
    let general ← field? v "general" 0 general? defaults.general
    let batch ← field? v "batch" 1 batch? defaults.batch
    let output ← field? v "output" 2 output? defaults.output
    return ⟨general, batch, output⟩
  else none

/-- The settings that a document writes. -/
def parse (t : Text) : Except ConfigError Settings :=
  match (Toml.read? t).bind ofToml? with
  | some s => .ok s
  | none => .error .parseFailed

/-! ### Writing -/

def generalEntries (s : GeneralSettings) : List (String × Scalar) :=
  [("log_level", .string s.logLevel), ("log_format", .string s.logFormat)]

def batchEntries (s : BatchSettings) : List (String × Scalar) :=
  (s.startYear.map fun y => ("start_year", Scalar.integer y)).toList ++
    (s.now.map fun t => ("now", Scalar.string t.iso)).toList ++
    [("max_line_length", .integer s.maxLineLength)]

def outputEntries (s : OutputSettings) : List (String × Scalar) :=
  [("pretty_json", .boolean s.prettyJson)]

/-- All settings. -/
def toToml (s : Settings) : Text :=
  Toml.sectionLines [("general", generalEntries s.general), ("batch", batchEntries s.batch),
    ("output", outputEntries s.output)]

/-- All settings or those of one section. -/
def showToml (s : Settings) (part : Option Text) : Except CommandError Text :=
  match part with
  | none => .ok s.toToml
  | some name =>
    match String.ofList name with
    | "general" => .ok (Toml.entryLines (generalEntries s.general))
    | "batch" => .ok (Toml.entryLines (batchEntries s.batch))
    | "output" => .ok (Toml.entryLines (outputEntries s.output))
    | _ => .error (.unknownSection name)

end LogShift.Settings
