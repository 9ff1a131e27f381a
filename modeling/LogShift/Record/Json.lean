import LogShift.Json
import LogShift.Record.Basic

/-! Records as JSON objects, the format first and then the fields in their order, and as the texts
of these objects. -/
namespace LogShift.Record

/-- The fields of a format behind the tag, in the order in which they are written. -/
def fieldNames : LogFormat → List String
  | .apache => ["seq", "timestamp", "severity", "client", "function", "path", "msg", "logline"]
  | .hadoop => ["seq", "timestamp", "severity", "thread", "source", "msg", "logline"]
  | .linux => ["seq", "timestamp", "hostname", "source", "pid", "msg", "logline"]
  | .openssh =>
    ["seq", "timestamp", "hostname", "source", "pid", "msg", "logline", "ip", "user"]

def fieldValues : Record → List Json
  | apache r => [.nat r.seq, .str (apache r).timestampText, .str r.severity, .option .str r.client,
      .option .str r.function, .option .str r.path, .str r.msg, .str r.logline]
  | hadoop r => [.nat r.seq, .str (hadoop r).timestampText, .str r.severity, .str r.thread,
      .str r.source, .str r.msg, .str r.logline]
  | linux r => [.nat r.seq, .str (linux r).timestampText, .str r.hostname, .str r.source,
      .option .nat r.pid, .str r.msg, .str r.logline]
  | openssh r => [.nat r.seq, .str (openssh r).timestampText, .str r.hostname, .str r.source,
      .nat r.pid, .str r.msg, .str r.logline, .option .str r.ip, .option .str r.user]

def toJson (r : Record) : Json :=
  .object (("format", .string r.format.name) :: (fieldNames r.format).zip r.fieldValues)

/-- A required text. -/
def textField? (j : Json) (key : String) : Option Text :=
  (j.field? key).bind Json.text?

/-- A value that may be missing or null; otherwise `read` must accept it. -/
def optionalField? {α : Type} (read : Json → Option α) (j : Json) (key : String) :
    Option (Option α) :=
  match j.field? key with
  | none | some .null => some none
  | some v => (read v).map some

def momentField? (j : Json) (key : String) : Option Moment :=
  (textField? j key).bind Moment.ofIso?

def natField? (bits : Nat) (j : Json) (key : String) : Option Nat :=
  (j.field? key).bind (Json.nat? bits)

/-- The fields of a record of a known format; unknown fields are passed over. -/
def ofFields? (format : LogFormat) (j : Json) : Option Record := do
  let seq ← natField? 64 j "seq"
  let timestamp ← momentField? j "timestamp"
  let msg ← textField? j "msg"
  let logline ← textField? j "logline"
  match format with
  | .apache =>
    let severity ← textField? j "severity"
    let client ← optionalField? Json.text? j "client"
    let function ← optionalField? Json.text? j "function"
    let path ← optionalField? Json.text? j "path"
    return .apache ⟨seq, timestamp, severity, client, function, path, msg, logline⟩
  | .hadoop =>
    let severity ← textField? j "severity"
    let thread ← textField? j "thread"
    let source ← textField? j "source"
    return .hadoop ⟨seq, timestamp, severity, thread, source, msg, logline⟩
  | .linux =>
    let hostname ← textField? j "hostname"
    let source ← textField? j "source"
    let pid ← optionalField? (Json.nat? 32) j "pid"
    return .linux ⟨seq, timestamp, hostname, source, pid, msg, logline⟩
  | .openssh =>
    let hostname ← textField? j "hostname"
    let source ← textField? j "source"
    let pid ← natField? 32 j "pid"
    let ip ← optionalField? Json.text? j "ip"
    let user ← optionalField? Json.text? j "user"
    return .openssh ⟨seq, timestamp, hostname, source, pid, msg, logline, ip, user⟩

/-- A record from an object, or from an array of the format and all fields in their order. -/
def ofJson? (j : Json) : Option Record :=
  match j with
  | .obj _ => do
    let format ← LogFormat.ofName? (← textField? j "format")
    ofFields? format j
  | .arr (.str tag :: items) => do
    let format ← LogFormat.ofName? tag
    let names := fieldNames format
    if items.length = names.length then ofFields? format (.object (names.zip items)) else none
  | _ => none

/-- A record on one line, or indented over several. -/
def jsonText (pretty : Bool) (r : Record) : Text :=
  if pretty then r.toJson.pretty else r.toJson.compact

/-- The record that a JSON text denotes. -/
def ofText? (t : Text) : Option Record :=
  (Json.read? t).bind ofJson?

end LogShift.Record
