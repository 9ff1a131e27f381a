import LogShift.Pattern.Reader
import LogShift.Pattern.Search
import LogShift.Record.Basic

/-! Fields that are filled from the message of a record: the first dotted address in it, and the
user that it names. -/
namespace LogShift

namespace Address

def digitUpTo (last : Char) : Pattern :=
  .char (.range '0' last)

def literal (c : Char) : Pattern :=
  .char (.literal c)

def optional (p : Pattern) : Pattern :=
  .alt p .empty

/-- `25[0-5]|2[0-4][0-9]|[01]?[0-9][0-9]?` -/
def octet : Pattern :=
  .alt (.seq (literal '2') (.seq (literal '5') (digitUpTo '5'))) <|
  .alt (.seq (literal '2') (.seq (digitUpTo '4') (digitUpTo '9'))) <|
  .seq (optional (digitUpTo '1')) (.seq (digitUpTo '9') (optional (digitUpTo '9')))

/-- An octet and a point. -/
def dotted : Pattern :=
  .seq octet (literal '.')

/-- Four octets with points between them, no part of a longer word. -/
def pattern : Pattern :=
  .seq .boundary <| .seq (.seq dotted (.seq dotted dotted)) <| .seq octet .boundary

def find? (msg : Text) : Option Text :=
  pattern.first? msg

end Address

namespace UserName

/-- In the order in which they are tried. -/
def patternTexts : List String :=
  ["user=(\\S+)", "user\\s+(\\S+)", "Invalid user (\\S+)", "for invalid user (\\S+)",
    "for user (\\S+)", "password for (\\S+)", "authentication failure.* for (\\S+)",
    "authentication failures? for (\\S+)"]

/-- All of the patterns, or none if one of them cannot be read. -/
def patterns? (texts : List Text) : Option (List Pattern) :=
  texts.mapM Pattern.ofText?

def patterns : List Pattern :=
  (patterns? (patternTexts.map String.toList)).getD []

/-- The first group of the first pattern that matches with it. -/
def find? (patterns : List Pattern) (msg : Text) : Option Text :=
  patterns.findSome? fun p => p.find? 1 msg

end UserName

/-- The enrichers that come with the program. One that a caller writes, which may change any field
of a record, is none of them. -/
inductive Enricher where
  /-- Fills `ip`. -/
  | address
  /-- Fills `user`. -/
  | user (patterns : List Pattern)

namespace Enricher

def name : Enricher → String
  | address => "address"
  | user _ => "user"

/-- The record with its field filled, if it has one and the message gives it. -/
def enrich? : Enricher → Record → Option Record
  | address, .openssh r => (Address.find? r.msg).map fun ip => .openssh { r with ip := some ip }
  | user patterns, .openssh r =>
    (UserName.find? patterns r.msg).map fun u => .openssh { r with user := some u }
  | _, _ => none

/-- The record as it leaves the enricher. -/
def apply (e : Enricher) (r : Record) : Record :=
  (e.enrich? r).getD r

def applyAll (es : List Enricher) (r : Record) : Record :=
  es.foldl (fun r e => e.apply r) r

/-- The enrichers that come with a format. -/
def builtin : LogFormat → List Enricher
  | .openssh => [address, user UserName.patterns]
  | .apache | .hadoop | .linux => []

end Enricher

end LogShift
