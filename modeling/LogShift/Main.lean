import LogShift.Command.Run
import Std.Time.Zoned

/-! The program: it reads the files of a command line, plans, and then writes and reports. -/
namespace LogShift.Program

/-- The fault that the system reports; its code may come with a sign. -/
def faultOf : IO.Error → FileFault
  | .noFileOrDirectory .. => .notFound
  | .inappropriateType _ code details =>
    let code := min code (0 - code)
    if code = 20 then .notDirectory else if code = 21 then .isDirectory else .other details
  | e => .other (toString e)

def attempt {α : Type} (action : IO α) : IO (Except FileFault α) := do
  match ← action.toBaseIO with
  | .ok a => return .ok a
  | .error e => return .error (faultOf e)

def readFile (path : Text) : IO (Except FileFault Bytes) :=
  attempt do return (← IO.FS.readBinFile (String.ofList path)).toList

def writeFile (path : Text) (content : Bytes) : IO (Except FileFault Unit) :=
  attempt (IO.FS.writeBinFile (String.ofList path) ⟨content.toArray⟩)

/-- The time on the wall, by the local clock. -/
def localClock : IO (Option Moment) := do
  let t ← Std.Time.PlainDateTime.now
  let date := Date.ofYmd? t.date.year.toInt t.date.month.toNat t.date.day.toNat
  let clock := Clock.ofReading? t.time.hour.val.toNat t.time.minute.val.toNat
    t.time.second.val.toNat t.time.nanosecond.val.toNat
  return do return ⟨← date, ← clock⟩

def environment : IO Environment :=
  Environment.keys.filterMapM fun key => do
    return (← IO.getEnv key).map fun value => (key, value.toList)

def usage : String :=
  "Usage: logrebase [OPTIONS] <COMMAND>\n\n" ++
    "Commands:\n" ++
    "  parse <FORMAT> <INPUT> <OUTPUT> [--year <YEAR>]\n" ++
    "  process <FORMAT> <INPUT> <OUTPUT> [--year <YEAR>] [--now <NOW>]\n" ++
    "  config validate\n" ++
    "  config show [--section <SECTION>]\n\n" ++
    "Options:\n" ++
    "  -c, --config <CONFIG>\n" ++
    "      --log-level <LOG_LEVEL>\n" ++
    "      --output <text|json>"

def version : String := "logrebase 0.1.0"

def reportUsage (e : UsageError) : IO UInt32 := do
  match e with
  | .displayHelp => IO.println usage
  | .displayVersion => IO.println version
  | e => IO.eprintln ("error: " ++ e.message?.getD "invalid command line" ++ "\n\n" ++ usage)
  return UInt32.ofNat e.exitCode

/-- The files that a command line names to read from. -/
def inputs (inv : Invocation) : List Text :=
  match inv.command with
  | .parse job | .process job _ => [inv.config, job.input]
  | .validateConfig | .showConfig _ => [inv.config]

/-- The exit code of a run that is broken off. -/
def brokenOff : UInt32 := 134

def carryOut (inv : Invocation) : IO UInt32 := do
  let contents ← (inputs inv).mapM fun path => do return (path, ← readFile path)
  let read (path : Text) := (contents.lookup path).getD (.error .notFound)
  let some clock ← localClock | throw (IO.userError "the local clock cannot be read")
  let env ← environment
  if !inv.completes env clock read then
    IO.eprintln "Formatting argument out of range"
    return brokenOff
  let plan := inv.plan env clock read
  let written ← match plan with
    | .deliver path content _ => writeFile path content
    | _ => pure (.ok ())
  let ending := plan.ending inv.report written
  IO.print (String.ofList ending.stdout)
  if let some e := ending.error then IO.eprintln ("error: " ++ e.message)
  return UInt32.ofNat ending.exitCode

end LogShift.Program

def main (args : List String) : IO UInt32 :=
  match LogShift.CommandLine.read (args.map String.toList) with
  | .error e => LogShift.Program.reportUsage e
  | .ok inv => LogShift.Program.carryOut inv
