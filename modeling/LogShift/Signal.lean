import LogShift.Stamp.Basic
import LogShift.Format

/-! What a run tells about itself: counters that it increments and events that it reports. -/
namespace LogShift

/-- A counter with its labels. -/
inductive Counter where
  | linesParsed (format : LogFormat)
  | malformedLines (format : LogFormat)
  | ambiguousDates (format : LogFormat) (surface : Surface)
  | datesMoved (format : LogFormat) (surface : Surface)
  | yearRollovers (format : LogFormat)
  | batchesNormalized (format : LogFormat)
deriving DecidableEq

namespace Counter

def name : Counter → String
  | linesParsed _ => "logrebase_lines_parsed_total"
  | malformedLines _ => "logrebase_malformed_lines_total"
  | ambiguousDates .. => "logrebase_ambiguous_dates_total"
  | datesMoved .. => "logrebase_dates_rewritten_total"
  | yearRollovers _ => "logrebase_year_rollovers_total"
  | batchesNormalized _ => "logrebase_batches_normalized_total"

def description : Counter → String
  | linesParsed _ => "Lines parsed into structured records"
  | malformedLines _ => "Lines that did not match their format grammar"
  | ambiguousDates .. => "Embedded dates left unchanged because they could not be resolved"
  | datesMoved .. => "Embedded dates shifted in place"
  | yearRollovers _ => "December to January transitions in yearless formats"
  | batchesNormalized _ => "Batches shifted and rewritten"

def labels : Counter → List (String × String)
  | linesParsed f | malformedLines f | yearRollovers f | batchesNormalized f =>
    [("format", f.name)]
  | ambiguousDates f s | datesMoved f s => [("format", f.name), ("surface", s.name)]

/-- Name and labels in one text. -/
def key (c : Counter) : String :=
  let labels := ",".intercalate (c.labels.map fun (k, v) => k ++ "=" ++ v)
  c.name ++ "\x7b" ++ labels ++ "\x7d"

/-- Every kind of counter with its description, in the order of registration. -/
def described : List (String × String) :=
  [linesParsed .apache, malformedLines .apache, ambiguousDates .apache .ctime,
    datesMoved .apache .ctime, yearRollovers .apache, batchesNormalized .apache].map
      fun c => (c.name, c.description)

end Counter

inductive Level where
  | debug
  | info
  | warn
deriving DecidableEq

def Level.name : Level → String
  | debug => "DEBUG"
  | info => "INFO"
  | warn => "WARN"

structure Event where
  level : Level
  message : String
  fields : List (String × Text)
deriving DecidableEq

inductive Signal where
  | count (counter : Counter)
  | event (event : Event)
deriving DecidableEq

namespace Signal

def counter? : Signal → Option Counter
  | count c => some c
  | event _ => none

def event? : Signal → Option Event
  | count _ => none
  | event e => some e

/-- How often a counter was incremented. -/
def total (c : Counter) (signals : List Signal) : Nat :=
  signals.countP fun s => s.counter? == some c

/-- The counters that were incremented, each once, with their totals. -/
def totals (signals : List Signal) : List (Counter × Nat) :=
  (signals.filterMap counter?).eraseDups.map fun c => (c, total c signals)

def events (signals : List Signal) : List Event :=
  signals.filterMap event?

end Signal

end LogShift
