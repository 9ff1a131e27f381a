import LogShift.Command.Run
import LogShift.Proofs.Batch.Ingest
import LogShift.Proofs.Embedded.Locate
import LogShift.Proofs.Line.Message

/-! Which runs come to an end. A date that cannot be written needs a long line, and a line that is
too long is not taken in; so under a small enough limit, as the default is, no command is broken
off. -/
namespace LogShift

namespace Ingest

variable {p : Pipeline}

theorem width_le_of_read {tracker : YearTracker} {seq : Nat} {line : Text} {r : Record}
    (h : (read p tracker seq line).result = .ok r) : line.width ≤ p.config.maxLineLength := by
  unfold read at h
  split at h
  · cases h
  · omega

/-- No record is longer than the lines that are taken in. -/
def Bounded (p : Pipeline) (s : Ingest) : Prop :=
  ∀ r ∈ s.records.toList, r.logline.width ≤ p.config.maxLineLength

theorem bounded_start (p : Pipeline) : (start p).Bounded p := by
  simp [Bounded, start]

theorem Bounded.push (hp : p.parser = .builtin p.format) {s : Ingest} (h : s.Bounded p)
    (raw : Text) : (s.push p raw).Bounded p := by
  obtain ⟨-, hrecords | ⟨r, hr, hrecords⟩⟩ := push_cases p s raw
  · unfold Bounded
    rw [hrecords]
    exact h
  · intro r' hr'
    rw [hrecords, Array.toList_push, List.mem_append, List.mem_singleton] at hr'
    rcases hr' with hr' | rfl
    · exact h r' hr'
    · rw [(read_frame hp hr).2]
      exact width_le_of_read hr

theorem Bounded.pushAll (hp : p.parser = .builtin p.format) {s : Ingest} (h : s.Bounded p)
    (lines : List Text) : (s.pushAll p lines).Bounded p := by
  induction lines generalizing s with
  | nil => exact h
  | cons raw lines ih => exact ih (h.push hp raw)

end Ingest

/-- The message of a system log line is its end. -/
theorem Pipeline.Reads.width_msg_le {p : Pipeline} (hp : p.parser = .builtin p.format)
    (hf : p.format = .linux) {r : Record} (h : p.Reads r) : r.msg.width ≤ r.logline.width := by
  obtain ⟨year, made, hmade, hr⟩ := h
  rw [hp, hf] at hmade
  obtain ⟨stamp, front, -, -, -, hline, -⟩ := LineParser.parts_of_parse hmade
  rw [hline, hr, Enricher.msg_applyAll, Text.width_append, Text.width_append]
  omega

theorem Normalize.completes_of_areDatesWritable {format : LogFormat} {shift : Shift}
    {rs : List Record}
    (h : ∀ r ∈ rs, Embedded.areDatesWritable format r r.timestamp shift.delta = true) :
    completes format shift rs = true := by
  induction rs with
  | nil => rfl
  | cons r rs ih =>
    rw [completes, h r List.mem_cons_self, Bool.true_and]
    cases shift.apply r with
    | error e => rfl
    | ok moved => exact ih fun r' hr' => h r' (List.mem_cons_of_mem r hr')

namespace Pipeline

variable {config : BatchConfig} {given : List Enricher} {p : Pipeline}

theorem areDatesWritable_of_mem_parseLines (hp : p.parser = .builtin p.format)
    (hmax : p.config.maxLineLength ≤ Style.maxDayWidth + 12) {lines : List Text} {r : Record}
    (hr : r ∈ (p.parseLines lines).1.records) (anchor : Moment) (delta : Span) :
    Embedded.areDatesWritable p.format r anchor delta = true := by
  have hline : r.logline.width ≤ Style.maxDayWidth + 12 :=
    Nat.le_trans ((Ingest.bounded_start p).pushAll hp lines r hr) hmax
  apply List.all_eq_true.mpr
  intro field hfield
  apply Embedded.isWritable_of_width_le
  cases field with
  | logline => exact hline
  | msg =>
    have hf : p.format = .linux := by
      cases hformat : p.format with
      | linux => rfl
      | _ =>
        rw [hformat] at hfield
        cases List.mem_singleton.mp hfield
    exact Nat.le_trans (((parseLines_sound hp lines).1 r hr).width_msg_le hp hf) hline

/-- Over lines that are not too long the second pass comes to an end. -/
theorem completes_of_maxLineLength (hbuild : build config none given = .ok p)
    (hmax : config.maxLineLength ≤ Style.maxDayWidth + 12) (lines : List Text) (now : Moment) :
    p.completes (p.parseLines lines).1 now = true := by
  obtain ⟨rfl, hp⟩ := build_eq_ok hbuild
  unfold completes
  cases Shift.plan p.format now (p.parseLines lines).1.records with
  | error e => rfl
  | ok shift =>
    apply Normalize.completes_of_areDatesWritable
    intro r hr
    exact areDatesWritable_of_mem_parseLines hp hmax hr r.timestamp shift.delta

end Pipeline

theorem Job.completes_of_maxLineLength {s : Settings}
    (hmax : s.batch.maxLineLength ≤ Style.maxDayWidth + 12) (job : Job) (now : Option Moment)
    (clock : Moment) (input : Except FileFault Bytes) : job.completes s now clock input = true := by
  unfold completes
  cases hp : job.pipeline s now with
  | error e => rfl
  | ok p =>
    cases job.lines input with
    | error e => rfl
    | ok lines =>
      have hbuild := mapError_eq_ok_iff.mp hp
      exact Pipeline.completes_of_maxLineLength hbuild hmax lines _

/-- Under settings that take in no line that is too long, no command is broken off, whatever the
files hold. -/
theorem Invocation.completes_of_maxLineLength {inv : Invocation} {env : Environment}
    {read : Text → Except FileFault Bytes}
    (hmax : ∀ s, inv.settings env (read inv.config) = .ok s →
      s.batch.maxLineLength ≤ Style.maxDayWidth + 12) (clock : Moment) :
    inv.completes env clock read = true := by
  unfold completes
  cases inv.command with
  | process job now =>
    cases hs : inv.settings env (read inv.config) with
    | error e => rfl
    | ok s => exact job.completes_of_maxLineLength (hmax s hs) now clock _
  | _ => cases inv.settings env (read inv.config) <;> rfl

example : Settings.defaults.batch.maxLineLength ≤ Style.maxDayWidth + 12 := by decide

end LogShift
