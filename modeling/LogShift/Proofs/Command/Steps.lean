import LogShift.Proofs.Batch.Stored
import LogShift.Proofs.Files.Stream

/-! Jobs step by step. Opening the output empties it, and what has been done before a step fails is
not undone; so a failed job leaves the files as they were only because all else comes first. -/
namespace LogShift

/-- Steps over files. When one fails, the files are left as they are by then. -/
abbrev FileSteps := EStateM CommandError Files

namespace FileSteps

/-- Opens a file for writing; what it held is gone. -/
def openNew (path : Text) : FileSteps Place := fun fs =>
  match fs.creationPlace path with
  | .error fault => .error (.io fault) fs
  | .ok place => .ok place (fs.set place (.file []))

/-- Adds bytes at the end of a file. -/
def append (place : Place) (content : Bytes) : FileSteps Unit :=
  modify fun fs =>
    match fs.node? place with
    | some (.file before) => fs.set place (.file (before ++ content))
    | _ => fs

/-- How a command ends that takes these steps. -/
def ending (style : ReportStyle) (steps : FileSteps Report) (fs : Files) : Ending × Files :=
  match steps fs with
  | .ok report fs' => (⟨report.render style, none⟩, fs')
  | .error e fs' => (⟨[], some e⟩, fs')

end FileSteps

/-- What becomes of the records that a job has read. -/
inductive Task where
  | parse
  | process (now : Option Moment) (clock : Moment)

namespace Job

open FileSteps

/-- The output and the report, or why there is neither. -/
def result (job : Job) (s : Settings) (input : Except FileFault Bytes) :
    Task → Except CommandError (Sink × Report)
  | .parse => job.parse s input
  | .process now clock => job.process s now clock input

/-- Writes records to the output, and tells how many. -/
def save (job : Job) (compress : Bytes → Bytes) (s : Settings) (records : List Record) :
    FileSteps Nat := do
  let place ← openNew job.output
  let sink := job.sink s records
  append place (sink.bytes compress)
  return sink.written

def steps (job : Job) (compress : Bytes → Bytes) (s : Settings) : Task → FileSteps Report
  | .parse => do
    let p ← MonadExcept.ofExcept (job.pipeline s none)
    let lines ← MonadExcept.ofExcept (job.lines ((← get).read job.input))
    let batch := (p.parseLines lines).1
    if batch.records.isEmpty then throw (.emptyBatch batch.format batch.stats.malformed)
    let written ← job.save compress s batch.records
    return .parsed (job.summary batch.stats batch.finalYear written batch.malformed)
  | .process now clock => do
    let p ← MonadExcept.ofExcept (job.pipeline s now)
    let lines ← MonadExcept.ofExcept (job.lines ((← get).read job.input))
    let parsed := (p.parseLines lines).1
    let batch ← MonadExcept.ofExcept
      ((p.normalize parsed (p.config.now.getD clock)).1.mapError CommandError.ofFailure)
    let written ← job.save compress s batch.records
    return .processed (job.summary batch.stats batch.finalYear written batch.malformed)
      batch.shift batch.movedDates batch.ambiguous

end Job

namespace Files

theorem set_set (fs : Files) (place : Place) (node node' : FileNode) :
    (fs.set place node).set place node' = fs.set place node' := by
  simp [set, List.filter_filter]

theorem ne_nil_of_creationPlace {fs : Files} {path : Text} {place : Place}
    (h : fs.creationPlace path = .ok place) : place ≠ [] := by
  obtain ⟨-, -, -, parent, name, -, -, -, -, hplace⟩ := creationPlace_eq_ok h
  simp [hplace]

end Files

namespace FileSteps

theorem ofExcept_bind {α β : Type} (x : Except CommandError α) (f : α → FileSteps β) (fs : Files) :
    (MonadExcept.ofExcept x >>= f) fs =
      match x with
      | .error e => .error e fs
      | .ok a => f a fs := by
  cases x <;> rfl

theorem append_apply (place : Place) (content : Bytes) (fs : Files) :
    append place content fs = .ok () (match fs.node? place with
      | some (.file before) => fs.set place (.file (before ++ content))
      | _ => fs) := rfl

theorem get_bind {β : Type} (f : Files → FileSteps β) (fs : Files) :
    (get >>= f) fs = f fs fs := rfl

end FileSteps

namespace Job

variable (job : Job) (compress : Bytes → Bytes) (s : Settings) (fs : Files)

/-- Emptying the output and then adding to it leaves what was added. -/
theorem save_bind {β : Type} (records : List Record) (f : Nat → FileSteps β) :
    (job.save compress s records >>= f) fs =
      match fs.creationPlace job.output with
      | .error fault => .error (.io fault) fs
      | .ok place => f (job.sink s records).written
          (fs.set place (.file ((job.sink s records).bytes compress))) := by
  unfold save FileSteps.openNew
  cases hplace : fs.creationPlace job.output with
  | error fault => simp [bind, EStateM.bind, hplace]
  | ok place =>
    have hnode : (fs.set place (.file [])).node? place = some (.file []) :=
      Files.node?_set (Files.ne_nil_of_creationPlace hplace) _
    simp [bind, EStateM.bind, hplace, FileSteps.append_apply, hnode, Files.set_set, pure,
      EStateM.pure]

/-- All that can go wrong with the records goes wrong before the output is opened. -/
theorem steps_eq (task : Task) :
    job.steps compress s task fs =
      match job.result s (fs.read job.input) task with
      | .error e => .error e fs
      | .ok (sink, report) =>
        match fs.creationPlace job.output with
        | .error fault => .error (.io fault) fs
        | .ok place => .ok report (fs.set place (.file (sink.bytes compress))) := by
  cases task with
  | parse =>
    rw [steps, result, parse, FileSteps.ofExcept_bind]
    cases job.pipeline s none with
    | error e => rfl
    | ok p =>
      dsimp only
      rw [FileSteps.get_bind, FileSteps.ofExcept_bind]
      dsimp only [bind, Except.bind]
      cases job.lines (fs.read job.input) with
      | error e => rfl
      | ok lines =>
        dsimp only
        split
        · rfl
        · refine (job.save_bind compress s fs _ _).trans ?_
          cases fs.creationPlace job.output <;> rfl
  | process now clock =>
    rw [steps, result, process, FileSteps.ofExcept_bind]
    cases job.pipeline s now with
    | error e => rfl
    | ok p =>
      dsimp only
      rw [FileSteps.get_bind, FileSteps.ofExcept_bind]
      dsimp only [bind, Except.bind]
      cases job.lines (fs.read job.input) with
      | error e => rfl
      | ok lines =>
        refine (FileSteps.ofExcept_bind _ _ fs).trans ?_
        dsimp only
        cases (p.normalize (p.parseLines lines).1 (p.config.now.getD clock)).1.mapError
            CommandError.ofFailure with
        | error e => rfl
        | ok batch =>
          refine (job.save_bind compress s fs _ _).trans ?_
          cases fs.creationPlace job.output <;> rfl

end Job

/-- The account of a run over a file. -/
def Report.run? : Report → Option RunSummary
  | .parsed run => some run
  | .processed run _ _ _ => some run
  | _ => none

namespace Job

variable {job : Job} {s : Settings} {input : Except FileFault Bytes} {sink : Sink}
  {report : Report}

theorem parser_of_pipeline {now : Option Moment} {p : Pipeline}
    (h : job.pipeline s now = .ok p) : p.parser = .builtin p.format :=
  (Pipeline.build_eq_ok (mapError_eq_ok_iff.mp h)).2

theorem written_sink (job : Job) (s : Settings) (records : List Record) :
    (job.sink s records).written = records.length := by
  unfold sink
  rw [Sink.writeAll_eq]
  exact Nat.zero_add records.length

/-- The records of an output, and what is told about them. -/
structure Holds (job : Job) (s : Settings) (records : List Record) (sink : Sink)
    (run : RunSummary) : Prop where
  sink_eq : sink = job.sink s records
  ne_nil : records ≠ []
  written_eq : run.written = records.length
  parsed_eq : run.stats.parsed = records.length
  stored : run.stats.lines ≤ 2 ^ 64 → ∀ r ∈ records, r.Sized ∧ r.stored = r

theorem holds_of_parse (h : job.parse s input = .ok (sink, report)) :
    ∃ run records, report.run? = some run ∧ job.Holds s records sink run := by
  simp only [parse, bind, bind_eq_ok_iff] at h
  obtain ⟨p, hp, lines, -, h⟩ := h
  obtain ⟨hne, h⟩ := ite_error_eq_ok_iff.mp h
  cases h
  have haccounts := (Ingest.accounts_start p).pushAll (parser_of_pipeline hp) lines
  refine ⟨_, (p.parseLines lines).1.records, rfl, ?_⟩
  constructor
  case sink_eq => rfl
  case ne_nil =>
    intro hnil
    exact hne (by rw [hnil]; rfl)
  case written_eq => exact job.written_sink s _
  case parsed_eq => exact haccounts.parsed_eq
  case stored =>
    intro hlines r hr
    apply Pipeline.stored_of_mem_parseLines (parser_of_pipeline hp) _ hr
    exact haccounts.lines_eq ▸ hlines

theorem holds_of_process {now : Option Moment} {clock : Moment}
    (h : job.process s now clock input = .ok (sink, report)) :
    ∃ run records, report.run? = some run ∧ job.Holds s records sink run := by
  simp only [process, bind, bind_eq_ok_iff, mapError_eq_ok_iff] at h
  obtain ⟨p, hp, lines, -, batch, hbatch, h⟩ := h
  cases h
  have haccounts := (Ingest.accounts_start p).pushAll (parser_of_pipeline hp) lines
  have hrun : (p.run lines (p.config.now.getD clock)).1 = .ok batch := hbatch
  obtain ⟨newest, hnewest, -, hmoved, -⟩ := Pipeline.run_eq_ok hrun
  have hlength := hmoved.length_eq
  have hstats := (Pipeline.account_of_run hrun).1
  refine ⟨_, batch.records, rfl, ?_⟩
  constructor
  case sink_eq => rfl
  case ne_nil =>
    intro hnil
    rw [hnil, List.length_nil, List.length_eq_zero_iff] at hlength
    simp [hlength, Shift.newest?] at hnewest
  case written_eq => exact job.written_sink s _
  case parsed_eq =>
    rw [← hlength]
    exact hstats ▸ haccounts.parsed_eq
  case stored =>
    intro hlines r hr
    apply Pipeline.stored_of_mem_run (parser_of_pipeline hp) _ hrun hr
    have heq : batch.stats.lines = lines.length := hstats ▸ haccounts.lines_eq
    exact heq ▸ hlines

theorem holds_of_result {task : Task} (h : job.result s input task = .ok (sink, report)) :
    ∃ run records, report.run? = some run ∧ job.Holds s records sink run := by
  cases task with
  | parse => exact holds_of_parse h
  | process now clock => exact holds_of_process h

theorem Holds.records?_eq {records : List Record} {run : RunSummary}
    (h : job.Holds s records sink run) (hlines : run.stats.lines ≤ 2 ^ 64)
    {compress : Bytes → Bytes} (hcompress : ∀ bs, Gzip.decode (compress bs) = .ok bs) :
    Sink.records? job.output (sink.bytes compress) = some records := by
  have hsized : ∀ r ∈ records, r.Sized := fun r hr => (h.stored hlines r hr).1
  have hstored : records.map Record.stored = records := by
    conv_rhs => rw [← List.map_id records]
    exact List.map_congr_left fun r hr => (h.stored hlines r hr).2
  rw [h.sink_eq]
  unfold Job.sink
  rw [Sink.records?_writeAll _ _ hsized hcompress, hstored]

/-- A command that does a job leaves the files as its steps leave them. -/
theorem perform_eq_ending (job : Job) (compress : Bytes → Bytes) (s : Settings) (task : Task)
    (style : ReportStyle) (fs : Files) :
    (Invocation.planOf compress job.output (job.result s (fs.read job.input) task)).perform style
      fs = (job.steps compress s task).ending style fs := by
  unfold FileSteps.ending
  rw [steps_eq]
  cases job.result s (fs.read job.input) task with
  | error e => rfl
  | ok outcome =>
    dsimp only [Invocation.planOf, Plan.perform, Files.write]
    cases fs.creationPlace job.output <;> rfl

/-- A job that fails leaves all files as they were; it does so where the output cannot be opened,
or for a reason that the files at its start give: no pipeline, no input, no records or a shift out
of range. A job that succeeds changes its output only, which then holds as many records as are
reported to be parsed and to be written. This is so however a file is compressed, if only its data
can be read back. The number of a line has 64 bits. -/
theorem steps_frame (compress : Bytes → Bytes)
    (hcompress : ∀ bs, Gzip.decode (compress bs) = .ok bs) (job : Job) (s : Settings) (task : Task)
    (style : ReportStyle) (fs : Files) :
    (Invocation.planOf compress job.output (job.result s (fs.read job.input) task)).perform style
      fs = (job.steps compress s task).ending style fs ∧
    match job.steps compress s task fs with
    | .error e fs' => fs' = fs ∧
        (job.result s (fs.read job.input) task = .error e ∨
          ∃ fault, fs.creationPlace job.output = .error fault ∧ e = .io fault)
    | .ok report fs' => ∃ place content run records,
        job.result s (fs.read job.input) task = .ok (job.sink s records, report) ∧
        fs.creationPlace job.output = .ok place ∧
        fs'.read job.output = .ok content ∧
        (∀ q, q ≠ place → fs'.node? q = fs.node? q) ∧ fs'.current = fs.current ∧
        report.run? = some run ∧ records ≠ [] ∧
        run.written = records.length ∧ run.stats.parsed = records.length ∧
        content = (job.sink s records).bytes compress ∧
        (run.stats.lines ≤ 2 ^ 64 → Sink.records? job.output content = some records) := by
  refine ⟨job.perform_eq_ending compress s task style fs, ?_⟩
  rw [steps_eq]
  cases hresult : job.result s (fs.read job.input) task with
  | error e => exact ⟨rfl, .inl rfl⟩
  | ok outcome =>
    obtain ⟨sink, report⟩ := outcome
    dsimp only
    cases hplace : fs.creationPlace job.output with
    | error fault => exact ⟨rfl, .inr ⟨fault, rfl, rfl⟩⟩
    | ok place =>
      obtain ⟨run, records, hrun, hholds⟩ := holds_of_result hresult
      have hread : (fs.set place (.file (sink.bytes compress))).read job.output =
          .ok (sink.bytes compress) :=
        Files.read_write (by rw [Files.write, hplace]; rfl)
      have hsink := hholds.sink_eq
      exact ⟨place, sink.bytes compress, run, records, by rw [hsink], rfl, hread,
        fun q hq => Files.node?_set_of_ne _ hq, rfl, hrun, hholds.ne_nil, hholds.written_eq,
        hholds.parsed_eq, by rw [hsink], fun hlines => hholds.records?_eq hlines hcompress⟩

/-- A log whose output is the log itself: taken for another format it stays as it is, and taken for
what it is it makes room for its record. -/
theorem steps_frame_ownOutput :
    let path : Text := "log".toList
    let fs : Files :=
      ⟨[([path], .file (Utf8.encode "Jun 14 15:16:01 combo sshd: x\n".toList))], []⟩
    (∃ e, (⟨.hadoop, path, path, none⟩ : Job).steps Gzip.encode .defaults .parse fs = .error e fs) ∧
    ∃ report fs' content records,
      (⟨.linux, path, path, some 2024⟩ : Job).steps Gzip.encode .defaults .parse fs = .ok report fs' ∧
      fs'.read path = .ok content ∧ Sink.records? path content = some records ∧
      records.length = 1 := by
  intro path fs
  constructor
  · have hfails : ((⟨.hadoop, path, path, none⟩ : Job).result .defaults (fs.read path)
        .parse).isOk = false := by decide +kernel
    have hframe := (steps_frame Gzip.encode Gzip.decode_encode ⟨.hadoop, path, path, none⟩
      .defaults .parse .text fs).2
    cases hsteps : (⟨.hadoop, path, path, none⟩ : Job).steps Gzip.encode .defaults .parse fs with
    | error e fs' =>
      rw [hsteps] at hframe
      exact ⟨e, by rw [hframe.1]⟩
    | ok report fs' =>
      rw [hsteps] at hframe
      obtain ⟨place, content, run, records, hresult, -⟩ := hframe
      rw [hresult] at hfails
      cases hfails
  · have hcounts : ((⟨.linux, path, path, some 2024⟩ : Job).result .defaults (fs.read path)
        .parse).toOption.bind (fun outcome => outcome.2.run?.map fun run =>
          (run.stats.lines, run.stats.parsed)) = some (1, 1) := by decide +kernel
    have hplace : fs.creationPlace path = .ok [path] := by decide +kernel
    have hframe := (steps_frame Gzip.encode Gzip.decode_encode ⟨.linux, path, path, some 2024⟩
      .defaults .parse .text fs).2
    cases hsteps : (⟨.linux, path, path, some 2024⟩ : Job).steps Gzip.encode .defaults .parse fs with
    | error e fs' =>
      rw [hsteps] at hframe
      rcases hframe with ⟨-, hresult | ⟨fault, hfault, -⟩⟩
      · rw [hresult] at hcounts
        cases hcounts
      · rw [hplace] at hfault
        cases hfault
    | ok report fs' =>
      rw [hsteps] at hframe
      obtain ⟨place, content, run, records, hresult, -, hread, -, -, hrun, -, -, hparsed, -,
        hrecords⟩ := hframe
      rw [hresult] at hcounts
      simp only [Except.toOption, Option.bind_some, hrun, Option.map_some, Option.some.injEq,
        Prod.mk.injEq] at hcounts
      refine ⟨report, fs', content, records, rfl, hread, hrecords ?_, ?_⟩
      · rw [hcounts.1]
        decide
      · rw [← hparsed, hcounts.2]

end Job

end LogShift
