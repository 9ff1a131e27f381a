import LogShift.Calendar.Iso

/-! The log formats and what each of them fixes: its name, its precision and its default year. -/
namespace LogShift

inductive LogFormat where
  | apache
  | hadoop
  | linux
  | openssh
deriving DecidableEq, Repr

/-- How many digits of a second a stored timestamp keeps. -/
inductive Precision where
  | seconds
  | micros
deriving DecidableEq, Repr

namespace Precision

def name : Precision → String
  | seconds => "seconds"
  | micros => "micros"

/-- The form in the customary letters for date parts. -/
def pattern : Precision → String
  | seconds => "%Y-%m-%dT%H:%M:%S"
  | micros => "%Y-%m-%dT%H:%M:%S%.6f"

def render : Precision → Moment → Text
  | seconds, t => t.isoSeconds
  | micros, t => t.isoMicros

end Precision

namespace LogFormat

def all : List LogFormat :=
  [apache, hadoop, linux, openssh]

def name : LogFormat → String
  | apache => "apache"
  | hadoop => "hadoop"
  | linux => "linux"
  | openssh => "openssh"

/-- The exact name. -/
def ofName? (t : Text) : Option LogFormat :=
  all.find? fun f => f.name.toList = t

/-- A name or an alias, in any case and between white space. Lowering the ASCII letters is enough:
no other capital has a small form made of the letters of these names. -/
def ofLooseName? (t : Text) : Option LogFormat :=
  match String.ofList (t.trim.map Char.toLower) with
  | "apache" => some apache
  | "hadoop" | "hdfs" => some hadoop
  | "linux" | "syslog" => some linux
  | "openssh" | "ssh" | "sshd" => some openssh
  | _ => none

/-- All names, for messages. -/
def choices : String :=
  ", ".intercalate (all.map name)

/-- Said when `ofLooseName?` knows no such name. -/
def unknownMessage (t : Text) : String :=
  s!"unknown log format '{String.ofList t}' (expected one of: {choices})"

/-- Whether a line names its year. -/
def hasYear : LogFormat → Bool
  | apache | hadoop => true
  | linux | openssh => false

def defaultStartYear : LogFormat → Int
  | openssh => 2023
  | apache | hadoop | linux => 2005

def precision : LogFormat → Precision
  | hadoop => .micros
  | apache | linux | openssh => .seconds

/-- Digits behind the point of a second in a line. -/
def subsecondDigits : LogFormat → Nat
  | hadoop => 3
  | apache | linux | openssh => 0

/-- The moment cut down to the digits that a line can show. -/
def truncate (f : LogFormat) (t : Moment) : Moment :=
  ⟨t.date, t.clock.truncate (Nat.pow 10 (9 - f.subsecondDigits))⟩

end LogFormat

end LogShift
