import LogShift.Failure
import LogShift.Line.Apache
import LogShift.Line.Hadoop
import LogShift.Line.Syslog

/-! Line parsers by format, and registries of them. -/
namespace LogShift

structure LineParser where
  format : LogFormat
  parse : Context → Text → Except Fault Record

namespace LineParser

/-- The parser that comes with a format. -/
def builtin (format : LogFormat) : LineParser where
  format := format
  parse := match format with
    | .apache => Line.Apache.parse
    | .hadoop => Line.Hadoop.parse
    | .linux => Line.Linux.parse
    | .openssh => Line.OpenSsh.parse

end LineParser

/-- At most one parser for each format, the last registered at the end. -/
structure Registry where
  parsers : List LineParser

namespace Registry

def empty : Registry := ⟨[]⟩

/-- Takes the place of a parser of the same format. -/
def register (r : Registry) (p : LineParser) : Registry :=
  ⟨r.parsers.filter (fun q => q.format != p.format) ++ [p]⟩

def builtin : Registry :=
  LogFormat.all.foldl (fun r f => r.register (.builtin f)) empty

def get? (r : Registry) (format : LogFormat) : Option LineParser :=
  r.parsers.find? fun p => p.format == format

def formats (r : Registry) : List LogFormat :=
  r.parsers.map LineParser.format

def parse (r : Registry) (format : LogFormat) (ctx : Context) (line : Text) :
    Except Failure Record :=
  match r.get? format with
  | none => .error (.unsupportedFormat format.name.toList)
  | some p => (p.parse ctx line).mapError .fault

/-- As `parse`, with any name of a format. -/
def parseNamed (r : Registry) (name : Text) (ctx : Context) (line : Text) :
    Except Failure Record :=
  match LogFormat.ofLooseName? name with
  | none => .error (.unsupportedFormat name)
  | some format => r.parse format ctx line

end Registry

end LogShift
