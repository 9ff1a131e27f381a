import LogShift.Failure
import LogShift.Record.Basic

/-! The shift of a batch: its newest timestamp moves to a reference moment, and every other
timestamp by the same span. -/
namespace LogShift

structure Shift where
  /-- The newest timestamp before the shift. -/
  newest : Moment
  /-- The reference moment. -/
  now : Moment
  delta : Span
deriving DecidableEq

namespace Shift

def between (newest now : Moment) : Shift :=
  ⟨newest, now, now.since newest⟩

/-- The latest timestamp of a list of records. -/
def newest? : List Record → Option Moment
  | [] => none
  | r :: rs => some (rs.foldl (fun t r => t.later r.timestamp) r.timestamp)

/-- The shift of `records` onto `now`, which is cut down to the precision of the format. -/
def plan (format : LogFormat) (now : Moment) (records : List Record) : Except Failure Shift :=
  match newest? records with
  | none => .error (.emptyBatch format 0)
  | some newest => .ok (between newest (format.truncate now))

/-- The record with its timestamp moved. -/
def apply (s : Shift) (r : Record) : Except Failure Record :=
  match r.timestamp.add? s.delta with
  | some t => .ok (r.withTimestamp t)
  | none => .error (.shiftOverflow r.seq r.timestamp s.delta)

/-- Moves the records in order up to the first that cannot be moved; that one and those behind it
stay as they are. -/
def applyAll (s : Shift) : List Record → List Record × Option Failure
  | [] => ([], none)
  | r :: rs =>
    match s.apply r with
    | .error e => (r :: rs, some e)
    | .ok r' =>
      let (moved, failure) := applyAll s rs
      (r' :: moved, failure)

/-- Plans the shift of `records` and moves them. -/
def shiftAll (format : LogFormat) (now : Moment) (records : List Record) :
    List Record × Except Failure Shift :=
  match plan format now records with
  | .error e => (records, .error e)
  | .ok s =>
    match s.applyAll records with
    | (moved, none) => (moved, .ok s)
    | (moved, some e) => (moved, .error e)

end Shift

end LogShift
