import LogShift.Record.Basic
import LogShift.Signal
import LogShift.Stamp.Search

/-! Dates that stand in the text of a record: where they are, and the text with each of them moved
in place. -/
namespace LogShift

/-- The text fields of a record in which dates are moved. -/
inductive TextField where
  | logline
  | msg
deriving DecidableEq

namespace TextField

def name : TextField → String
  | logline => "logline"
  | msg => "msg"

def get : TextField → Record → Text
  | logline, r => r.logline
  | msg, r => r.msg

def set : TextField → Text → Record → Record
  | logline, t, r => r.withLogline t
  | msg, t, r => r.withMsg t

/-- The fields in which the dates of a format are moved. -/
def moved : LogFormat → List TextField
  | .linux => [logline, msg]
  | .apache | .hadoop | .openssh => [logline]

end TextField

/-- Why a date stays as it is. -/
inductive Ambiguity where
  | date (cause : DateError)
  /-- The date of the line is not that of its record. -/
  | contextMismatch (found expected : Moment)
  | overflow
  | yearOutOfRange (year : Int)
deriving DecidableEq

def Ambiguity.message : Ambiguity → String
  | date cause => cause.message
  | contextMismatch found expected =>
    s!"resolved to {String.ofList found.display} but the record timestamp is {String.ofList expected.display}"
  | overflow => "shifted value is out of range"
  | yearOutOfRange year => s!"shifted year {year} cannot be rendered"

/-- A date that was left in place. -/
structure AmbiguousDate where
  field : TextField
  offset : Nat
  surface : Surface
  text : Text
  reason : Ambiguity
deriving DecidableEq

/-- A date that was moved: its place in the old text and its old value. -/
structure MovedDate where
  field : TextField
  start : Nat
  stop : Nat
  value : Moment
  style : Style
deriving DecidableEq

structure Outcome where
  /-- How many dates were moved. -/
  movedDates : Nat
  moved : List MovedDate
  ambiguous : List AmbiguousDate
deriving DecidableEq

namespace Outcome

def empty : Outcome := ⟨0, [], []⟩

def append (a b : Outcome) : Outcome :=
  ⟨a.movedDates + b.movedDates, a.moved ++ b.moved, a.ambiguous ++ b.ambiguous⟩

def isClean (o : Outcome) : Bool := o.ambiguous.isEmpty

end Outcome

/-- New text for the bytes from `start` to `stop`. -/
structure Edit where
  start : Nat
  stop : Nat
  text : Text
deriving DecidableEq

namespace Edit

/-- Replaces the bytes of each edit in a text that starts at byte `offset`; edits are in order and
apart. -/
def splice (offset : Nat) (t : Text) : List Edit → Text
  | [] => t
  | e :: es =>
    t.takeBytes (e.start - offset) ++ e.text ++
      splice e.stop (t.dropBytes (e.stop - offset)) es

end Edit

namespace Embedded

/-- A stamp right between square brackets. -/
def isBracketed (t : Text) (m : Located) : Bool :=
  0 < m.start && t.charAt? (m.start - 1) == some '[' && t.charAt? m.stop == some ']'

/-- The dates that are moved in a text: the first bracketed one, the first one, or the one at the
front together with every full date that does not overlap it. -/
def locate (format : LogFormat) (t : Text) : List Located :=
  match format with
  | .apache => ((Located.candidates .ctime t).find? (isBracketed t)).toList
  | .hadoop => (Located.first? .iso t).toList
  | .openssh => (Located.first? .syslog t).toList
  | .linux =>
    let front := (Located.at? .syslog 0 t).toList
    front ++ (Located.all .ctime t).filter fun m => !front.any m.overlaps

/-- The value of a date and its value moved by `delta`. A date without a year takes that of
`anchor`, and in the whole line it must then be `anchor` itself. -/
def move (field : TextField) (anchor : Moment) (delta : Span) (s : Stamp) :
    Except Ambiguity (Moment × Moment) := do
  let found ← (s.fields.resolve (some anchor.year) false).mapError .date
  if s.surface = .syslog ∧ field = .logline ∧ found ≠ anchor then
    .error (.contextMismatch found anchor)
  match found.add? delta with
  | none => .error .overflow
  | some moved =>
    if 0 ≤ moved.year ∧ moved.year ≤ 9999 then .ok (found, moved)
    else .error (.yearOutOfRange moved.year)

/-- What becomes of one date: an edit and its account, or the reason to leave it. -/
def moveLocated (field : TextField) (anchor : Moment) (delta : Span) (m : Located) :
    Except AmbiguousDate (Edit × MovedDate) :=
  match move field anchor delta m.stamp with
  | .ok (found, moved) =>
    .ok (⟨m.start, m.stop, m.stamp.render moved⟩, ⟨field, m.start, m.stop, found, m.stamp.style⟩)
  | .error reason => .error ⟨field, m.start, m.stamp.surface, m.stamp.text, reason⟩

structure MovedText where
  /-- The new text; none if no date was moved. -/
  text : Option Text
  outcome : Outcome
  signals : List Signal
deriving DecidableEq

/-- Moves every located date of a text that can be moved. -/
def moveText (format : LogFormat) (field : TextField) (t : Text) (anchor : Moment)
    (delta : Span) : MovedText :=
  let results := (locate format t).map fun m => (m, moveLocated field anchor delta m)
  let edits := results.filterMap fun (_, r) => r.toOption.map Prod.fst
  let movedDates := results.countP fun (_, r) => r.toOption.isSome
  let moved := results.filterMap fun (_, r) => r.toOption.map Prod.snd
  let ambiguous := results.filterMap fun (_, r) => match r with
    | .error a => some a
    | .ok _ => none
  let signals := results.map fun (m, r) => match r with
    | .ok _ => .count (.datesMoved format m.stamp.surface)
    | .error _ => .count (.ambiguousDates format m.stamp.surface)
  ⟨if edits.isEmpty then none else some (Edit.splice 0 t edits), ⟨movedDates, moved, ambiguous⟩,
    signals⟩

/-- Whether the dates of a text that move can all be written; if not, a run is broken off at the
first that cannot. -/
def isWritable (format : LogFormat) (field : TextField) (t : Text) (anchor : Moment)
    (delta : Span) : Bool :=
  (locate format t).all fun m =>
    (move field anchor delta m.stamp).toOption.isNone || m.stamp.style.isWritable

def ambiguityEvent (seq : Nat) (format : LogFormat) (a : AmbiguousDate) : Event where
  level := .warn
  message := "embedded date left unshifted"
  fields := [("seq", Decimal.natural seq), ("format", format.name.toList),
    ("field", a.field.name.toList), ("offset", Decimal.natural a.offset),
    ("surface", a.surface.name.toList), ("text", a.text), ("reason", a.reason.message.toList)]

/-- Moves the dates in the listed fields of a record, one field after the other. -/
def moveFields (format : LogFormat) (anchor : Moment) (delta : Span) :
    List TextField → Record → Record × Outcome × List Signal
  | [], r => (r, .empty, [])
  | field :: fields, r =>
    let w := moveText format field (field.get r) anchor delta
    let r := match w.text with
      | some t => field.set t r
      | none => r
    let (r, outcome, signals) := moveFields format anchor delta fields r
    (r, w.outcome.append outcome, w.signals ++ signals)

/-- Whether the dates of a record that move can all be written. -/
def areDatesWritable (format : LogFormat) (r : Record) (anchor : Moment) (delta : Span) : Bool :=
  (TextField.moved format).all fun field => isWritable format field (field.get r) anchor delta

/-- Moves the dates in the text of a record whose timestamp was `anchor`; the timestamp itself is
left alone. Dates that stay are reported at the end. -/
def moveDates (format : LogFormat) (r : Record) (anchor : Moment) (delta : Span) :
    Record × Outcome × List Signal :=
  let (r', outcome, signals) := moveFields format anchor delta (TextField.moved format) r
  (r', outcome, signals ++ outcome.ambiguous.map fun a =>
    .event (ambiguityEvent r.seq format a))

end Embedded

end LogShift
