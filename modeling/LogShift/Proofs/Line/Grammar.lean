import LogShift.Line.Parser
import LogShift.Proofs.Text
import LogShift.Proofs.Stamp.Shape

/-! When a line is a record: its stamp can be read and denotes a moment, and the text behind the
stamp has the parts of the format. What stands behind the stamp does not look back at it. -/
namespace LogShift

namespace Line

theorem orFault_eq_ok_iff {α : Type} {fault : Fault} {o : Option α} {a : α} :
    orFault fault o = .ok a ↔ o = some a := by
  cases o <;> simp [orFault]

/-- The record that the text behind a stamp makes of a moment and a line. -/
def Apache.body? (seq : Nat) (t : Text) : Option (Moment → Text → Record) := do
  let t ← Text.after? [']'] t
  let t ← Text.afterBlanks? t
  let t ← Text.after? ['['] t
  let (severity, t) ← (t.cutAt? ']').filter fun (severity, _) => !severity.isEmpty
  let t ← Text.afterBlanks? t
  let (client, t) := match client? t with
    | some (addr, t) => (some addr, t)
    | none => (none, t)
  let msg := t.trim
  return fun timestamp logline => .apache {
    seq, timestamp, severity, client, function := function? msg, path := path? msg, msg, logline }

theorem Apache.parse_eq_ok_iff {ctx : Context} {line : Text} {r : Record} :
    Apache.parse ctx line = .ok r ↔ ∃ stamp t ts make,
      Stamp.read? .ctime (stamp.text ++ t) = some (stamp, t) ∧ line = '[' :: (stamp.text ++ t) ∧
      stamp.fields.resolve none false = .ok ts ∧ body? ctx.seq t = some make ∧
      r = make ts line := by
  simp only [parse, body?, bind_eq_ok_iff, orFault_eq_ok_iff, mapError_eq_ok_iff,
    after?_singleton_iff, bind, Option.bind_eq_some_iff, Option.some.injEq, Prod.exists, pure,
    Except.pure]
  constructor
  · rintro ⟨_, rfl, stamp, _, hread, t, rfl, ts, hts, _, hblank, u, rfl, severity, _, hcut, _,
      hblank', hr⟩
    obtain ⟨-, -, rfl, -⟩ := Stamp.read?_eq_some_iff.mp hread
    exact ⟨stamp, _, ts, _, hread, rfl, hts,
      ⟨t, rfl, _, hblank, u, rfl, severity, _, hcut, _, hblank', rfl⟩, (Except.ok.inj hr).symm⟩
  · rintro ⟨stamp, _, ts, _, hread, rfl, hts,
      ⟨t, rfl, _, hblank, u, rfl, severity, _, hcut, _, hblank', rfl⟩, rfl⟩
    exact ⟨_, rfl, stamp, _, hread, t, rfl, ts, hts, _, hblank, u, rfl, severity, _, hcut, _,
      hblank', rfl⟩

@[inherit_doc Apache.body?]
def Hadoop.body? (seq : Nat) (t : Text) : Option (Moment → Text → Record) := do
  let t ← Text.afterBlanks? t
  let severity := t.takeWhile isSeverityChar
  if severity.isEmpty then none
  let t ← Text.afterBlanks? (t.dropWhile isSeverityChar)
  let t ← Text.after? ['['] t
  let (thread, t) ← (t.cutAt? ']').filter fun (thread, _) => !thread.isEmpty
  let t ← Text.afterBlanks? t
  let (source, t) ← (t.cutAt? ':').filter fun (source, _) => !source.isEmpty
  let t ← Text.afterBlanks? t
  return fun timestamp logline => .hadoop {
    seq, timestamp, severity, thread, source, msg := t.trim, logline }

theorem Hadoop.parse_eq_ok_iff {ctx : Context} {line : Text} {r : Record} :
    Hadoop.parse ctx line = .ok r ↔ ∃ stamp t ts make,
      Stamp.read? .iso (stamp.text ++ t) = some (stamp, t) ∧ line = stamp.text ++ t ∧
      stamp.fields.resolve none false = .ok ts ∧ body? ctx.seq t = some make ∧
      r = make ts line := by
  simp only [parse, body?, bind_eq_ok_iff, orFault_eq_ok_iff, mapError_eq_ok_iff,
    after?_singleton_iff, bind, Option.bind_eq_some_iff, Option.some.injEq, Prod.exists, pure,
    Except.pure, ite_error_eq_ok_iff, Option.bind_none, Option.ite_none_left_eq_some]
  constructor
  · rintro ⟨stamp, t, hread, ts, hts, _, hblank, hseverity, _, hblank₁, u, rfl, thread, _, hcut, _,
      hblank₂, source, _, hcut', _, hblank₃, hr⟩
    obtain ⟨-, -, rfl, -⟩ := Stamp.read?_eq_some_iff.mp hread
    exact ⟨stamp, t, ts, _, hread, rfl, hts, ⟨_, hblank, hseverity, _, hblank₁, u, rfl, thread, _,
      hcut, _, hblank₂, source, _, hcut', _, hblank₃, rfl⟩, (Except.ok.inj hr).symm⟩
  · rintro ⟨stamp, t, ts, _, hread, rfl, hts, ⟨_, hblank, hseverity, _, hblank₁, u, rfl, thread, _,
      hcut, _, hblank₂, source, _, hcut', _, hblank₃, rfl⟩, rfl⟩
    exact ⟨stamp, t, hread, ts, hts, _, hblank, hseverity, _, hblank₁, u, rfl, thread, _, hcut, _,
      hblank₂, source, _, hcut', _, hblank₃, rfl⟩

/-- What stands behind the stamp of a system log line: the host, the text behind the host, the
source and the message. -/
def Envelope.body? (t : Text) : Option (Text × Text × Text × Text) := do
  let t ← Text.afterBlanks? t
  let hostname := t.takeWhile fun c => !isWhiteSpace c
  if hostname.isEmpty then none
  let sourceText ← Text.afterBlanks? (t.dropWhile fun c => !isWhiteSpace c)
  let (source, t) ← sourceText.cutAt? ':'
  return (hostname, sourceText, source, t.dropWhile isBlank)

theorem Envelope.parse_eq_ok_iff {format : LogFormat} {year : Int} {line : Text} {e : Envelope} :
    Envelope.parse format year line = .ok e ↔ ∃ stamp t ts hostname sourceText source msg,
      Stamp.read? .syslog (stamp.text ++ t) = some (stamp, t) ∧ line = stamp.text ++ t ∧
      stamp.fields.resolve (some year) false = .ok ts ∧
      body? t = some (hostname, sourceText, source, msg) ∧
      e = ⟨ts, hostname, source, offsetOf line sourceText, msg⟩ := by
  simp only [parse, body?, bind_eq_ok_iff, orFault_eq_ok_iff, mapError_eq_ok_iff, bind,
    Option.bind_eq_some_iff, Prod.exists, pure, Except.pure, ite_error_eq_ok_iff,
    Option.bind_none, Option.ite_none_left_eq_some]
  constructor
  · rintro ⟨stamp, t, hread, ts, hts, _, hblank, hhost, _, hblank', name, _, hcut, he⟩
    obtain ⟨-, -, rfl, -⟩ := Stamp.read?_eq_some_iff.mp hread
    exact ⟨stamp, t, ts, _, _, name, _, hread, rfl, hts,
      ⟨_, hblank, hhost, _, hblank', name, _, hcut, rfl⟩, (Except.ok.inj he).symm⟩
  · rintro ⟨stamp, t, ts, _, _, _, _, hread, rfl, hts,
      ⟨_, hblank, hhost, _, hblank', _, _, hcut, hbody⟩, rfl⟩
    cases hbody
    exact ⟨stamp, t, hread, ts, hts, _, hblank, hhost, _, hblank', _, _, hcut, rfl⟩

/-- The process number of a source: none if its last bracket opens no group of digits. -/
def Linux.number? (source : Text) : Option (Option Nat) :=
  match ((brackets source).getLast?.bind fun (_, inner) => bracketed? inner) with
  | none => some none
  | some digits => (pid? digits).map some

theorem Linux.number_eq_ok_iff {β : Type} {fault : Text → Fault} {source : Text}
    {k : Option Nat → Except Fault β} {b : β} :
    (match (brackets source).getLast? with
      | none => (Except.ok none).bind k
      | some (before, inner) =>
        match bracketed? inner with
        | none => (Except.ok none).bind k
        | some digits => ((orFault (fault before) (pid? digits)).map some).bind k) = .ok b ↔
      ∃ pid, number? source = some pid ∧ k pid = .ok b := by
  unfold number?
  cases hlast : (brackets source).getLast? with
  | none => simp [Except.bind]
  | some last =>
    cases hdigits : bracketed? last.2 with
    | none => simp [hdigits, Except.bind]
    | some digits =>
      cases hpid : pid? digits <;> simp [hdigits, hpid, orFault, Except.map, Except.bind]

@[inherit_doc Apache.body?]
def Linux.body? (seq : Nat) (t : Text) : Option (Moment → Text → Record) := do
  let (hostname, _, source, msg) ← Envelope.body? t
  let pid ← number? source
  return fun timestamp logline => .linux {
    seq, timestamp, hostname, source := component source, pid, msg, logline }

theorem Linux.parse_eq_ok_iff {ctx : Context} {line : Text} {r : Record} :
    Linux.parse ctx line = .ok r ↔ ∃ stamp t ts make,
      Stamp.read? .syslog (stamp.text ++ t) = some (stamp, t) ∧ line = stamp.text ++ t ∧
      stamp.fields.resolve (some ctx.year) false = .ok ts ∧ body? ctx.seq t = some make ∧
      r = make ts line := by
  simp only [parse, body?, bind_eq_ok_iff, Envelope.parse_eq_ok_iff, bind,
    Option.bind_eq_some_iff, Option.some.injEq, Prod.exists, pure, Except.pure]
  constructor
  · rintro ⟨_, ⟨stamp, t, ts, hostname, _, source, msg, hread, rfl, hts, hbody, rfl⟩, h⟩
    obtain ⟨pid, hpid, hr⟩ := number_eq_ok_iff.mp h
    exact ⟨stamp, t, ts, _, hread, rfl, hts, ⟨hostname, _, source, msg, hbody, pid, hpid, rfl⟩,
      (Except.ok.inj hr).symm⟩
  · rintro ⟨stamp, t, ts, _, hread, rfl, hts, ⟨hostname, _, source, msg, hbody, pid, hpid, rfl⟩,
      rfl⟩
    exact ⟨_, ⟨stamp, t, ts, hostname, _, source, msg, hread, rfl, hts, hbody, rfl⟩,
      number_eq_ok_iff.mpr ⟨pid, hpid, rfl⟩⟩

@[inherit_doc Apache.body?]
def OpenSsh.body? (seq : Nat) (t : Text) : Option (Moment → Text → Record) := do
  let (hostname, _, source, msg) ← Envelope.body? t
  let (source, digits) ← source.words.findSome? process?
  let pid ← pid? digits
  return fun timestamp logline => .openssh {
    seq, timestamp, hostname, source, pid, msg, logline, ip := none, user := none }

theorem OpenSsh.parse_eq_ok_iff {ctx : Context} {line : Text} {r : Record} :
    OpenSsh.parse ctx line = .ok r ↔ ∃ stamp t ts make,
      Stamp.read? .syslog (stamp.text ++ t) = some (stamp, t) ∧ line = stamp.text ++ t ∧
      stamp.fields.resolve (some ctx.year) false = .ok ts ∧ body? ctx.seq t = some make ∧
      r = make ts line := by
  simp only [parse, body?, bind_eq_ok_iff, Envelope.parse_eq_ok_iff, orFault_eq_ok_iff, bind,
    Option.bind_eq_some_iff, Option.some.injEq, Prod.exists, pure, Except.pure]
  constructor
  · rintro ⟨_, ⟨stamp, t, ts, hostname, _, source, msg, hread, rfl, hts, hbody, rfl⟩, name, digits,
      hname, pid, hpid, hr⟩
    exact ⟨stamp, t, ts, _, hread, rfl, hts, ⟨hostname, _, source, msg, hbody, name, digits, hname,
      pid, hpid, rfl⟩, (Except.ok.inj hr).symm⟩
  · rintro ⟨stamp, t, ts, _, hread, rfl, hts, ⟨hostname, _, source, msg, hbody, name, digits, hname,
      pid, hpid, rfl⟩, rfl⟩
    exact ⟨_, ⟨stamp, t, ts, hostname, _, source, msg, hread, rfl, hts, hbody, rfl⟩, name, digits,
      hname, pid, hpid, rfl⟩

@[inherit_doc Apache.body?]
def body? : LogFormat → Nat → Text → Option (Moment → Text → Record)
  | .apache => Apache.body?
  | .hadoop => Hadoop.body?
  | .linux => Linux.body?
  | .openssh => OpenSsh.body?

end Line

namespace LogFormat

/-- How the stamp of a line is written. -/
def surface : LogFormat → Surface
  | apache => .ctime
  | hadoop => .iso
  | linux | openssh => .syslog

/-- What stands before the stamp of a line. -/
def lead : LogFormat → Text
  | apache => ['[']
  | hadoop | linux | openssh => []

end LogFormat

/-- A stamp with a year takes none from the context. -/
theorem Stamp.resolve_of_hasYear {s : Stamp} (h : s.surface.hasYear = true)
    (c c' : Option Int) (checked : Bool) :
    s.fields.resolve c checked = s.fields.resolve c' checked := by
  cases s with
  | ctime => rfl
  | syslog => cases h
  | iso => rfl

theorem LineParser.parse_builtin_eq_ok_iff {f : LogFormat} {ctx : Context} {line : Text}
    {r : Record} :
    (builtin f).parse ctx line = .ok r ↔ ∃ stamp t ts make,
      Stamp.read? f.surface (stamp.text ++ t) = some (stamp, t) ∧
      line = f.lead ++ (stamp.text ++ t) ∧ stamp.fields.resolve (some ctx.year) false = .ok ts ∧
      Line.body? f ctx.seq t = some make ∧ r = make ts line := by
  have hctx : ∀ {k : Surface} {stamp : Stamp} {t : Text}, k.hasYear = true →
      Stamp.read? k (stamp.text ++ t) = some (stamp, t) →
      stamp.fields.resolve none false = stamp.fields.resolve (some ctx.year) false := by
    intro k stamp t hk hread
    obtain ⟨rfl, -⟩ := Stamp.read?_eq_some_iff.mp hread
    exact Stamp.resolve_of_hasYear hk _ _ _
  cases f with
  | apache =>
    refine Line.Apache.parse_eq_ok_iff.trans (exists₄_congr fun stamp t ts make => ?_)
    refine and_congr_right fun hread => ?_
    rw [hctx rfl hread]
    rfl
  | hadoop =>
    refine Line.Hadoop.parse_eq_ok_iff.trans (exists₄_congr fun stamp t ts make => ?_)
    refine and_congr_right fun hread => ?_
    rw [hctx rfl hread]
    rfl
  | linux => exact Line.Linux.parse_eq_ok_iff
  | openssh => exact Line.OpenSsh.parse_eq_ok_iff

/-- The parts of a record that do not come from its body. -/
structure Record.Template (f : LogFormat) (seq : Nat) (make : Moment → Text → Record) : Prop where
  format_eq : ∀ ts line, (make ts line).format = f
  seq_eq : ∀ ts line, (make ts line).seq = seq
  timestamp_eq : ∀ ts line, (make ts line).timestamp = ts
  logline_eq : ∀ ts line, (make ts line).logline = line
  withTimestamp_eq : ∀ ts ts' line, (make ts line).withTimestamp ts' = make ts' line
  withLogline_eq : ∀ ts line line', (make ts line).withLogline line' = make ts line'

theorem Line.template_of_body? {f : LogFormat} {seq : Nat} {t : Text}
    {make : Moment → Text → Record} (h : body? f seq t = some make) :
    Record.Template f seq make := by
  cases f with
  | apache =>
    simp only [body?, Apache.body?, bind, Option.bind_eq_some_iff, pure, Option.some.injEq] at h
    obtain ⟨_, -, _, -, _, -, _, -, _, -, rfl⟩ := h
    exact ⟨fun _ _ => rfl, fun _ _ => rfl, fun _ _ => rfl, fun _ _ => rfl, fun _ _ _ => rfl,
      fun _ _ _ => rfl⟩
  | hadoop =>
    simp only [body?, Hadoop.body?, bind, Option.bind_eq_some_iff, pure, Option.some.injEq,
      Option.bind_none, Option.ite_none_left_eq_some] at h
    obtain ⟨_, -, -, _, -, _, -, _, -, _, -, _, -, _, -, rfl⟩ := h
    exact ⟨fun _ _ => rfl, fun _ _ => rfl, fun _ _ => rfl, fun _ _ => rfl, fun _ _ _ => rfl,
      fun _ _ _ => rfl⟩
  | linux =>
    simp only [body?, Linux.body?, bind, Option.bind_eq_some_iff, pure, Option.some.injEq] at h
    obtain ⟨_, -, _, -, rfl⟩ := h
    exact ⟨fun _ _ => rfl, fun _ _ => rfl, fun _ _ => rfl, fun _ _ => rfl, fun _ _ _ => rfl,
      fun _ _ _ => rfl⟩
  | openssh =>
    simp only [body?, OpenSsh.body?, bind, Option.bind_eq_some_iff, pure, Option.some.injEq] at h
    obtain ⟨_, -, _, -, _, -, rfl⟩ := h
    exact ⟨fun _ _ => rfl, fun _ _ => rfl, fun _ _ => rfl, fun _ _ => rfl, fun _ _ _ => rfl,
      fun _ _ _ => rfl⟩

/-- The stamp of the bracketed format is closed. -/
theorem Line.close_of_body? {f : LogFormat} {seq : Nat} {t : Text} {make : Moment → Text → Record}
    (h : body? f seq t = some make) (hf : f = .apache) : ∃ u, t = ']' :: u := by
  subst hf
  simp only [body?, Apache.body?, bind, Option.bind_eq_some_iff, after?_singleton_iff] at h
  obtain ⟨u, rfl, -⟩ := h
  exact ⟨u, rfl⟩

end LogShift
