import LogShift.Batch.Config
import LogShift.Signal

/-! The first pass over a batch: lines in their order become records, or are left out with a fault.
The year of lines that name none is inferred from the order of their months. -/
namespace LogShift

/-- The year in force and the month of the last accepted line. -/
structure YearTracker where
  year : Int
  previousMonth : Option Nat
deriving DecidableEq

namespace YearTracker

/-- The greatest year that a tracker counts to. -/
def lastYear : Int := 2147483647

def start (year : Int) : YearTracker :=
  ⟨year, none⟩

/-- Whether month `m` opens a new year: a January right after a December. -/
def advances (t : YearTracker) (m : Nat) : Bool :=
  t.previousMonth == some 12 && m == 1

def step (t : YearTracker) (m : Nat) : YearTracker :=
  ⟨if t.advances m then min (t.year + 1) lastYear else t.year, some m⟩

end YearTracker

structure IngestStats where
  /-- All lines, blank ones too. -/
  lines : Nat
  blank : Nat
  parsed : Nat
  malformed : Nat
  rollovers : Nat
deriving DecidableEq

def IngestStats.zero : IngestStats := ⟨0, 0, 0, 0, 0⟩

structure MalformedLine where
  seq : Nat
  fault : Fault
deriving DecidableEq

/-- The state between two lines. -/
structure Ingest where
  tracker : YearTracker
  stats : IngestStats
  records : Array Record
  malformed : Array MalformedLine
  signals : Array Signal

structure ParsedBatch where
  format : LogFormat
  records : List Record
  malformed : List MalformedLine
  stats : IngestStats
  /-- The year of the tracker behind the last line. -/
  finalYear : Int
deriving DecidableEq

namespace Ingest

def start (p : Pipeline) : Ingest :=
  ⟨.start p.config.startYear, .zero, #[], #[], #[]⟩

/-- The reading of one trimmed line. -/
structure Reading where
  tracker : YearTracker
  /-- Whether the line turned the year. -/
  turned : Bool
  result : Except Fault Record

/-- Reads a line in the year of the tracker. If its month turns the year the line is read again in
the new year; the turn stands even if that second reading fails. -/
def read (p : Pipeline) (tracker : YearTracker) (seq : Nat) (line : Text) : Reading :=
  if p.config.maxLineLength < line.width then
    ⟨tracker, false, .error (.tooLarge line.width p.config.maxLineLength)⟩
  else
    match p.parser.parse ⟨seq, tracker.year⟩ line with
    | .error e => ⟨tracker, false, .error e⟩
    | .ok record =>
      if p.format.hasYear then ⟨tracker, false, .ok (Enricher.applyAll p.enrichers record)⟩
      else
        let month := record.timestamp.month
        let next := tracker.step month
        if tracker.advances month then
          ⟨next, true,
            (p.parser.parse ⟨seq, next.year⟩ line).map (Enricher.applyAll p.enrichers)⟩
        else ⟨next, false, .ok (Enricher.applyAll p.enrichers record)⟩

def rolloverEvent (seq : Nat) (year : Int) : Event where
  level := .debug
  message := "year rollover"
  fields := [("seq", Decimal.natural seq), ("year", Decimal.integer year)]

def skippedEvent (seq : Nat) (format : LogFormat) (fault : Fault) : Event where
  level := .debug
  message := "skipping malformed line"
  fields := [("seq", Decimal.natural seq), ("format", format.name.toList),
    ("error", fault.message.toList)]

/-- What a reading reports: the turn of the year first. -/
def Reading.signals (format : LogFormat) (seq : Nat) (r : Reading) : List Signal :=
  let turn : List Signal :=
    if r.turned then
      [.count (.yearRollovers format), .event (rolloverEvent seq r.tracker.year)]
    else []
  match r.result with
  | .ok _ => turn ++ [.count (.linesParsed format)]
  | .error e => turn ++ [.event (skippedEvent seq format e), .count (.malformedLines format)]

/-- Takes in one line; its number is that of the lines before it. -/
def push (p : Pipeline) (s : Ingest) (raw : Text) : Ingest :=
  let seq := s.stats.lines
  let stats := { s.stats with lines := seq + 1 }
  let line := raw.trim
  if line.isEmpty then { s with stats := { stats with blank := stats.blank + 1 } }
  else
    let r := read p s.tracker seq line
    let stats := if r.turned then { stats with rollovers := stats.rollovers + 1 } else stats
    let signals := s.signals ++ r.signals p.format seq
    match r.result with
    | .ok record =>
      ⟨r.tracker, { stats with parsed := stats.parsed + 1 }, s.records.push record, s.malformed,
        signals⟩
    | .error e =>
      ⟨r.tracker, { stats with malformed := stats.malformed + 1 }, s.records,
        s.malformed.push ⟨seq, e⟩, signals⟩

def pushAll (p : Pipeline) (s : Ingest) (lines : List Text) : Ingest :=
  lines.foldl (push p) s

def parsedEvent (format : LogFormat) (stats : IngestStats) : Event where
  level := .info
  message := "batch parsed"
  fields := [("format", format.name.toList), ("lines", Decimal.natural stats.lines),
    ("parsed", Decimal.natural stats.parsed), ("malformed", Decimal.natural stats.malformed),
    ("rollovers", Decimal.natural stats.rollovers)]

def finish (p : Pipeline) (s : Ingest) : ParsedBatch × List Signal :=
  (⟨p.format, s.records.toList, s.malformed.toList, s.stats, s.tracker.year⟩,
    s.signals.toList ++ [.event (parsedEvent p.format s.stats)])

end Ingest

/-- The first pass over all lines. -/
def Pipeline.parseLines (p : Pipeline) (lines : List Text) : ParsedBatch × List Signal :=
  ((Ingest.start p).pushAll p lines).finish p

end LogShift
