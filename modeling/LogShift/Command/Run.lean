import LogShift.Command.Report
import LogShift.Files.Basic
import LogShift.Files.Content
import LogShift.Settings.Load

/-! Commands. What a command does is planned from the files that it reads; the one file that it
writes is written last, so that a plan that fails changes nothing. -/
namespace LogShift

/-- The outcome of a command before anything is written. -/
inductive Plan where
  | fail (error : CommandError)
  /-- A report, after which the command may still end with an error. -/
  | report (report : Report) (error : Option CommandError)
  /-- A file to write, and the report for when that has been done. -/
  | deliver (path : Text) (content : Bytes) (report : Report)
deriving DecidableEq

namespace Job

/-- The pipeline of a job; what its arguments say counts before the settings. -/
def pipeline (job : Job) (s : Settings) (now : Option Moment) : Except CommandError Pipeline :=
  let batch : BatchSettings :=
    { s.batch with startYear := job.year.or s.batch.startYear, now := now.or s.batch.now }
  (Pipeline.build (.ofSettings batch job.format) none []).mapError CommandError.ofFailure

/-- The lines of the input, of which `content` could be read. -/
def lines (job : Job) (content : Except FileFault Bytes) : Except CommandError (List Text) := do
  let bytes ← content.mapError .io
  let bytes ← if Path.isGzip job.input then (Gzip.decode bytes).mapError .io else pure bytes
  return Lines.read bytes

/-- The output with all its records. -/
def sink (job : Job) (s : Settings) (records : List Record) : Sink :=
  (Sink.create job.output s.output.prettyJson).writeAll records

def summary (job : Job) (stats : IngestStats) (finalYear : Int) (written : Nat)
    (malformed : List MalformedLine) : RunSummary :=
  ⟨job.format, job.input, job.output, stats, finalYear, written, malformed⟩

/-- The output with the records as they were read. -/
def parse (job : Job) (s : Settings) (input : Except FileFault Bytes) :
    Except CommandError (Sink × Report) := do
  let p ← job.pipeline s none
  let batch := (p.parseLines (← job.lines input)).1
  if batch.records.isEmpty then .error (.emptyBatch batch.format batch.stats.malformed)
  let sink := job.sink s batch.records
  return (sink,
    .parsed (job.summary batch.stats batch.finalYear sink.written batch.malformed))

/-- The output with the records moved onto `now`, or else the moment of the settings, or else
`clock`. -/
def process (job : Job) (s : Settings) (now : Option Moment) (clock : Moment)
    (input : Except FileFault Bytes) : Except CommandError (Sink × Report) := do
  let p ← job.pipeline s now
  let parsed := (p.parseLines (← job.lines input)).1
  let batch ← (p.normalize parsed (p.config.now.getD clock)).1.mapError CommandError.ofFailure
  let sink := job.sink s batch.records
  return (sink,
    .processed (job.summary batch.stats batch.finalYear sink.written batch.malformed)
      batch.shift batch.movedDates batch.ambiguous)

/-- Whether `process` comes to an end. -/
def completes (job : Job) (s : Settings) (now : Option Moment) (clock : Moment)
    (input : Except FileFault Bytes) : Bool :=
  match job.pipeline s now, job.lines input with
  | .ok p, .ok lines => p.completes (p.parseLines lines).1 (p.config.now.getD clock)
  | _, _ => true

end Job

namespace Invocation

/-- The settings in effect; without a file these are the defaults under the environment. -/
def settings (inv : Invocation) (env : Environment) (content : Except FileFault Bytes) :
    Except CommandError Settings :=
  (Settings.loadOrDefault inv.config content env).mapError LoadError.toCommandError

/-- The plan of a job. How a file is compressed is left open: any bytes that are read back as the
data will do. -/
def planOf (compress : Bytes → Bytes) (output : Text)
    (result : Except CommandError (Sink × Report)) : Plan :=
  match result with
  | .error e => .fail e
  | .ok (sink, report) => .deliver output (sink.bytes compress) report

/-- Whether there is anything at a path, judged by an attempt to read it. -/
def isFound : Except FileFault Bytes → Bool
  | .ok _ | .error .isDirectory | .error (.other _) => true
  | .error _ => false

/-- What a command line comes to, given how files can be read. -/
def plan (inv : Invocation) (env : Environment) (clock : Moment)
    (read : Text → Except FileFault Bytes) : Plan :=
  let settings := inv.settings env (read inv.config)
  match inv.command, settings with
  | .validateConfig, .ok _ =>
    .report (.validation inv.config (isFound (read inv.config)) none) none
  | .validateConfig, .error e =>
    .report (.validation inv.config (isFound (read inv.config)) (some e)) (some .invalidConfig)
  | _, .error e => .fail e
  | .showConfig part, .ok s =>
    match s.showToml part with
    | .error e => .fail e
    | .ok toml => .report (.settings inv.config part toml) none
  | .parse job, .ok s => planOf Gzip.encode job.output (job.parse s (read job.input))
  | .process job now, .ok s =>
    planOf Gzip.encode job.output (job.process s now clock (read job.input))

/-- Whether the command comes to an end. -/
def completes (inv : Invocation) (env : Environment) (clock : Moment)
    (read : Text → Except FileFault Bytes) : Bool :=
  match inv.command, inv.settings env (read inv.config) with
  | .process job now, .ok s => job.completes s now clock (read job.input)
  | _, _ => true

end Invocation

/-- How a command ended. -/
structure Ending where
  stdout : Text
  error : Option CommandError
deriving DecidableEq

namespace Ending

def exitCode (e : Ending) : Nat :=
  match e.error with
  | none => 0
  | some error => error.exitCode

end Ending

namespace Plan

/-- The end of a plan once its file was written or could not be. -/
def ending (style : ReportStyle) (written : Except FileFault Unit) : Plan → Ending
  | fail e => ⟨[], some e⟩
  | report r e => ⟨r.render style, e⟩
  | deliver _ _ r =>
    match written with
    | .ok _ => ⟨r.render style, none⟩
    | .error fault => ⟨[], some (.io fault)⟩

/-- Carries out a plan over files. -/
def perform (style : ReportStyle) (fs : Files) (p : Plan) : Ending × Files :=
  match p with
  | deliver path content _ =>
    match fs.write path content with
    | .error fault => (p.ending style (.error fault), fs)
    | .ok fs' => (p.ending style (.ok ()), fs')
  | _ => (p.ending style (.ok ()), fs)

end Plan

/-- Carries out a command line over files. -/
def Invocation.run (inv : Invocation) (env : Environment) (clock : Moment) (fs : Files) :
    Ending × Files :=
  (inv.plan env clock fs.read).perform inv.report fs

end LogShift
