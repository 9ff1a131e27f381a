import LogShift.Files.Path
import LogShift.Gzip.Basic
import LogShift.Record.Json

/-! What files hold. Those that are read hold lines: a line feed ends a line, a carriage return
before it goes too, and broken characters are replaced. Those that are written hold records, one
after the other. -/
namespace LogShift

namespace Lines

def lineFeed : UInt8 := 0x0A

def carriageReturn : UInt8 := 0x0D

/-- The pieces between line feeds; a last line feed begins no further piece. -/
def split : Bytes → List Bytes
  | [] => []
  | b :: bs =>
    if b = lineFeed then [] :: split bs
    else
      match split bs with
      | [] => [[b]]
      | piece :: pieces => (b :: piece) :: pieces

/-- Without one carriage return at the end. -/
def stripReturn (piece : Bytes) : Bytes :=
  if piece.getLast? = some carriageReturn then piece.dropLast else piece

/-- The lines of a byte string. -/
def read (bs : Bytes) : List Text :=
  (split bs).map fun piece => Utf8.decodeLossy (stripReturn piece)

end Lines

/-- A file of records as it is written. -/
structure Sink where
  path : Text
  /-- Whether records are indented over several lines. -/
  pretty : Bool
  /-- What has been written, the last record first. -/
  texts : List Text
  written : Nat

namespace Sink

def create (path : Text) (pretty : Bool) : Sink :=
  ⟨path, pretty, [], 0⟩

/-- A record, with an end of line behind it. -/
def write (s : Sink) (r : Record) : Sink :=
  { s with texts := (r.jsonText s.pretty ++ ['\n']) :: s.texts, written := s.written + 1 }

def writeAll (s : Sink) (records : List Record) : Sink :=
  records.foldl write s

/-- The bytes of the finished file, compressed if its name asks for it. -/
def bytes (s : Sink) (compress : Bytes → Bytes) : Bytes :=
  let bytes := Utf8.encode s.texts.reverse.flatten
  if Path.isGzip s.path then compress bytes else bytes

end Sink

end LogShift
