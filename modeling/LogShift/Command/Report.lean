import LogShift.Batch.Normalize
import LogShift.Command.Error
import LogShift.Command.Line
import LogShift.Record.Json

/-! What commands tell when they are done, in words or as JSON. -/
namespace LogShift

/-- What a run over a file has in common. -/
structure RunSummary where
  format : LogFormat
  input : Text
  output : Text
  stats : IngestStats
  finalYear : Int
  /-- How many records were written. -/
  written : Nat
  malformed : List MalformedLine
deriving DecidableEq

inductive Report where
  | parsed (run : RunSummary)
  | processed (run : RunSummary) (shift : Shift) (movedDates : Nat)
      (ambiguous : List RecordAmbiguity)
  /-- Whether the settings are valid, and where not. -/
  | validation (source : Text) (found : Bool) (error : Option CommandError)
  | settings (source : Text) (part : Option Text) (toml : Text)
deriving DecidableEq

namespace Report

/-- A report lists this many malformed lines or dates at most. -/
def maxSamples : Nat := 10

/-! ### In words -/

def line (s : String) : Text := s.toList ++ ['\n']

def headLines (verb : String) (r : RunSummary) : Text :=
  line s!"{verb} {r.format.name} log: {String.ofList r.input} -> {String.ofList r.output}" ++
    line s!"  Lines:     {r.stats.lines} ({r.stats.blank} blank)" ++
    line s!"  Records:   {r.written}"

def malformedLines (r : RunSummary) : Text :=
  let samples := r.malformed.take maxSamples
  line s!"  Malformed: {r.stats.malformed}" ++
    if r.stats.malformed = 0 then []
    else
      samples.flatMap (fun m => line s!"    line {m.seq + 1}: {m.fault.message}") ++
        if samples.length < r.stats.malformed then
          line s!"    ... {r.stats.malformed - samples.length} more"
        else []

def ambiguousLines (ambiguous : List RecordAmbiguity) : Text :=
  if ambiguous.isEmpty then []
  else
    line s!"  Unshifted: {ambiguous.length}" ++
      (ambiguous.take maxSamples).flatMap fun a =>
        line s!"    line {a.seq + 1} {a.date.field.name} '{String.ofList a.date.text}': {a.date.reason.message}"

def text : Report → Text
  | parsed r =>
    headLines "Parsed" r ++ malformedLines r ++
      if r.format.hasYear then []
      else line s!"  Rollovers: {r.stats.rollovers} (final year {r.finalYear})"
  | processed r shift movedDates ambiguous =>
    headLines "Processed" r ++ malformedLines r ++
      line s!"  Newest:    {String.ofList shift.newest.display} -> {String.ofList shift.now.display}" ++
      line s!"  Delta:     {shift.delta.wholeSeconds}s" ++
      line s!"  Rewritten: {movedDates} embedded dates" ++ ambiguousLines ambiguous
  | validation source found error =>
    line s!"Config Validation: {String.ofList source}" ++
      (if found then [] else line "  File not found, defaults in effect") ++
      match error with
      | none => line "  Result: VALID"
      | some e => line "  Result: INVALID" ++ line s!"  Error: {e.message}"
  | settings source part toml =>
    let label := match part with
      | some name => "[" ++ String.ofList name ++ "] "
      | none => ""
    line s!"Configuration {label}(source: {String.ofList source})" ++ '\n' :: toml

/-! ### As JSON -/

def statsJson (s : IngestStats) : Json := .object [
  ("lines", .nat s.lines), ("blank", .nat s.blank), ("parsed", .nat s.parsed),
  ("malformed", .nat s.malformed), ("rollovers", .nat s.rollovers)]

def runFields (r : RunSummary) : List (String × Json) := [
  ("format", .string r.format.name), ("input", .str r.input), ("output", .str r.output),
  ("stats", statsJson r.stats), ("final_year", .int r.finalYear)]

def malformedField (r : RunSummary) : String × Json :=
  ("malformed", .arr ((r.malformed.take maxSamples).map fun m =>
    .object [("seq", .nat m.seq), ("reason", .string m.fault.message)]))

def ambiguityJson (a : RecordAmbiguity) : Json := .object [
  ("seq", .nat a.seq), ("field", .string a.date.field.name), ("offset", .nat a.date.offset),
  ("surface", .string a.date.surface.name), ("text", .str a.date.text),
  ("reason", .string a.date.reason.message)]

def toJson : Report → Json
  | parsed r => .object (runFields r ++ [("written", .nat r.written), malformedField r])
  | processed r shift movedDates ambiguous => .object (runFields r ++ [
      ("shift", .object [("max", .str shift.newest.iso), ("now", .str shift.now.iso),
        ("delta", .int shift.delta.wholeSeconds)]),
      ("written", .nat r.written), ("rewritten", .nat movedDates),
      ("ambiguous_total", .nat ambiguous.length),
      ("ambiguous", .arr ((ambiguous.take maxSamples).map ambiguityJson)), malformedField r])
  | validation source found error => .object [
      ("source", .str source), ("exists", .bool found), ("valid", .bool error.isNone),
      ("errors", .arr (error.toList.map fun e => .string e.message))]
  | settings source part _ =>
    .object (("source", .str source) :: (part.map fun name => ("section", Json.str name)).toList)

def render (style : ReportStyle) (r : Report) : Text :=
  match style with
  | .text => r.text
  | .json => r.toJson.pretty ++ ['\n']

end Report

end LogShift
