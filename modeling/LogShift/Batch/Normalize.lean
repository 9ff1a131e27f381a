import LogShift.Batch.Ingest
import LogShift.Embedded
import LogShift.Shift

/-! The second pass over a batch: timestamps and the dates in the text move together. -/
namespace LogShift

/-- A date left in place in the record of a line. -/
structure RecordAmbiguity where
  seq : Nat
  date : AmbiguousDate
deriving DecidableEq

structure NormalizedBatch where
  format : LogFormat
  shift : Shift
  records : List Record
  malformed : List MalformedLine
  stats : IngestStats
  finalYear : Int
  /-- How many dates were moved in the text of all records. -/
  movedDates : Nat
  ambiguous : List RecordAmbiguity
deriving DecidableEq

namespace Normalize

/-- Moved records with their accounts. -/
structure Progress where
  records : List Record
  movedDates : Nat
  ambiguous : List RecordAmbiguity

/-- Moves the records in order and stops at the first whose timestamp cannot be moved. The dates of
a record are moved before its timestamp, which gives them their year. -/
def moveAll (format : LogFormat) (shift : Shift) :
    List Record → Except Failure Progress × List Signal
  | [] => (.ok ⟨[], 0, []⟩, [])
  | r :: rs =>
    let (moved, outcome, signals) := Embedded.moveDates format r r.timestamp shift.delta
    match shift.apply moved with
    | .error e => (.error e, signals)
    | .ok moved =>
      match moveAll format shift rs with
      | (.error e, later) => (.error e, signals ++ later)
      | (.ok rest, later) =>
        (.ok ⟨moved :: rest.records, outcome.movedDates + rest.movedDates,
          outcome.ambiguous.map (⟨r.seq, ·⟩) ++ rest.ambiguous⟩, signals ++ later)

/-- Whether `moveAll` comes to an end: no record that it comes to has a date that moves and cannot
be written. -/
def completes (format : LogFormat) (shift : Shift) : List Record → Bool
  | [] => true
  | r :: rs =>
    Embedded.areDatesWritable format r r.timestamp shift.delta &&
      match shift.apply r with
      | .error _ => true
      | .ok _ => completes format shift rs

def normalizedEvent (b : NormalizedBatch) : Event where
  level := .info
  message := "batch normalized"
  fields := [("format", b.format.name.toList), ("records", Decimal.natural b.records.length),
    ("malformed", Decimal.natural b.malformed.length), ("max", b.shift.newest.display),
    ("now", b.shift.now.display), ("delta_secs", Decimal.integer b.shift.delta.wholeSeconds),
    ("rewritten", Decimal.natural b.movedDates),
    ("ambiguous", Decimal.natural b.ambiguous.length)]

end Normalize

/-- The second pass: every record moves by the span from the newest timestamp to `now`. -/
def Pipeline.normalize (p : Pipeline) (b : ParsedBatch) (now : Moment) :
    Except Failure NormalizedBatch × List Signal :=
  if b.records.isEmpty then (.error (.emptyBatch p.format b.malformed.length), [])
  else
    match Shift.plan p.format now b.records with
    | .error e => (.error e, [])
    | .ok shift =>
      match Normalize.moveAll p.format shift b.records with
      | (.error e, signals) => (.error e, signals)
      | (.ok progress, signals) =>
        let batch : NormalizedBatch :=
          ⟨p.format, shift, progress.records, b.malformed, b.stats, b.finalYear,
            progress.movedDates, progress.ambiguous⟩
        (.ok batch, signals ++ [.count (.batchesNormalized p.format),
          .event (Normalize.normalizedEvent batch)])

/-- Whether the second pass comes to an end. -/
def Pipeline.completes (p : Pipeline) (b : ParsedBatch) (now : Moment) : Bool :=
  match Shift.plan p.format now b.records with
  | .error _ => true
  | .ok shift => Normalize.completes p.format shift b.records

/-- Both passes. -/
def Pipeline.run (p : Pipeline) (lines : List Text) (now : Moment) :
    Except Failure NormalizedBatch × List Signal :=
  let (batch, first) := p.parseLines lines
  let (result, second) := p.normalize batch now
  (result, first ++ second)

end LogShift
