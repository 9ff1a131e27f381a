import LogShift.Batch.Normalize
import LogShift.Proofs.Batch.Ingest
import LogShift.Proofs.Embedded.Header

/-! The second pass moves all timestamps by one span, which takes the newest of them to the
reference moment, and changes nothing else but the dates in the text. -/
namespace LogShift

namespace Shift

/-- A fold by `later` stays among the moments it has seen and below none of them. -/
theorem foldl_later_spec (rs : List Record) (t : Moment) :
    let m := rs.foldl (fun t r => t.later r.timestamp) t
    (m = t ∨ ∃ r ∈ rs, r.timestamp = m) ∧ t.le m = true ∧ ∀ r ∈ rs, r.timestamp.le m = true := by
  induction rs generalizing t with
  | nil => exact ⟨Or.inl rfl, t.le_refl, by simp⟩
  | cons r rs ih =>
    obtain ⟨hmem, hle, hall⟩ := ih (t.later r.timestamp)
    have hleft := Moment.le_later_left t r.timestamp
    have hright := Moment.le_later_right t r.timestamp
    refine ⟨?_, Moment.le_trans hleft hle, ?_⟩
    · rcases hmem with hmem | ⟨r', h', hmem⟩
      · rcases t.later_eq_or r.timestamp with h | h
        · exact Or.inl (hmem.trans h)
        · exact Or.inr ⟨r, by simp, (hmem.trans h).symm⟩
      · exact Or.inr ⟨r', by simp [h'], hmem⟩
    · intro r' h'
      rcases List.mem_cons.mp h' with rfl | h'
      · exact Moment.le_trans hright hle
      · exact hall r' h'

/-- The newest timestamp is one of the records, and none comes after it. -/
theorem newest?_spec {rs : List Record} {m : Moment} (h : newest? rs = some m) :
    (∃ r ∈ rs, r.timestamp = m) ∧ ∀ r ∈ rs, r.timestamp.le m = true := by
  cases rs with
  | nil => cases h
  | cons r rs =>
    obtain rfl := Option.some.inj h
    obtain ⟨hmem, hle, hall⟩ := foldl_later_spec rs r.timestamp
    refine ⟨?_, ?_⟩
    · rcases hmem with hmem | ⟨r', h', hmem⟩
      · exact ⟨r, by simp, hmem.symm⟩
      · exact ⟨r', by simp [h'], hmem⟩
    · intro r' h'
      rcases List.mem_cons.mp h' with rfl | h'
      · exact hle
      · exact hall r' h'

theorem newest?_eq_some {rs : List Record} (hrs : ∀ r ∈ rs, r.timestamp.isLeap = false)
    {m : Moment} (h : newest? rs = some m) :
    (∃ r ∈ rs, r.timestamp = m) ∧ ∀ r ∈ rs, r.timestamp.instant ≤ m.instant := by
  obtain ⟨⟨top, htop, rfl⟩, hall⟩ := newest?_spec h
  refine ⟨⟨top, htop, rfl⟩, ?_⟩
  intro r hr
  exact (Moment.le_iff_instant_le (hrs r hr) (hrs top htop)).mp (hall r hr)

end Shift

namespace Embedded

theorem moveFields_nil (format : LogFormat) (anchor : Moment) (delta : Span) (r : Record) :
    moveFields format anchor delta [] r = (r, .empty, []) := rfl

theorem moveFields_cons (format : LogFormat) (anchor : Moment) (delta : Span) (field : TextField)
    (fields : List TextField) (r : Record) :
    let w := moveText format field (field.get r) anchor delta
    let rest := moveFields format anchor delta fields
      (field.set (newText format field (field.get r) anchor delta) r)
    moveFields format anchor delta (field :: fields) r =
      (rest.1, w.outcome.append rest.2.1, w.signals ++ rest.2.2) := by
  have hsame : field.set (field.get r) r = r := by
    cases field <;> cases r <;> rfl
  rw [moveFields]
  unfold newText
  cases (moveText format field (field.get r) anchor delta).text with
  | some t => rfl
  | none =>
    rw [Option.getD_none, hsame]

theorem moveDates_record (format : LogFormat) (r : Record) (anchor : Moment) (delta : Span) :
    (moveDates format r anchor delta).1 =
      (r.withLogline (newText format .logline r.logline anchor delta)).withMsg
        (if format = .linux then newText format .msg r.msg anchor delta else r.msg) := by
  have hkeep : ∀ t, (r.withLogline t).withMsg r.msg = r.withLogline t := by
    intro t
    have h := (r.withLogline t).withMsg_msg
    rwa [Record.msg_withLogline] at h
  cases format with
  | linux =>
    simp only [moveDates, TextField.moved, moveFields_nil, moveFields_cons, TextField.get,
      TextField.set, Record.msg_withLogline, if_true]
  | _ =>
    simp only [moveDates, TextField.moved, moveFields_nil, moveFields_cons, TextField.get,
      TextField.set, reduceCtorEq, if_false, hkeep]

theorem moveDates_timestamp (format : LogFormat) (r : Record) (anchor : Moment) (delta : Span) :
    (moveDates format r anchor delta).1.timestamp = r.timestamp := by
  rw [moveDates_record]
  simp

theorem moveDates_outcome (format : LogFormat) (r : Record) (anchor : Moment) (delta : Span) :
    (moveDates format r anchor delta).2.1 =
      (moveText format .logline r.logline anchor delta).outcome.append
        (if format = .linux then (moveText format .msg r.msg anchor delta).outcome
          else .empty) := by
  have hempty : ∀ o : Outcome, o.append .empty = o := by
    intro o
    simp [Outcome.append, Outcome.empty]
  cases format with
  | linux =>
    simp only [moveDates, TextField.moved, moveFields_nil, moveFields_cons, TextField.get,
      TextField.set, Record.msg_withLogline, hempty, if_true]
  | _ =>
    simp only [moveDates, TextField.moved, moveFields_nil, moveFields_cons, TextField.get,
      reduceCtorEq, if_false]

end Embedded

namespace Normalize

variable {format : LogFormat} {shift : Shift}

/-- The record `r` as it leaves the second pass. -/
def Moved (format : LogFormat) (shift : Shift) (r r' : Record) : Prop :=
  ∃ s, r.timestamp.add? shift.delta = some s ∧
    r' = (Embedded.moveDates format r r.timestamp shift.delta).1.withTimestamp s

/-- The dates that the second pass leaves in place in a record. -/
def reports (format : LogFormat) (shift : Shift) (r : Record) : List RecordAmbiguity :=
  (Embedded.moveDates format r r.timestamp shift.delta).2.1.ambiguous.map (⟨r.seq, ·⟩)

/-- How many dates the second pass moves in a record. -/
def moves (format : LogFormat) (shift : Shift) (r : Record) : Nat :=
  (Embedded.moveDates format r r.timestamp shift.delta).2.1.movedDates

theorem moveAll_eq_ok {rs : List Record} {progress : Progress}
    (h : (moveAll format shift rs).1 = .ok progress) :
    List.Forall₂ (Moved format shift) rs progress.records ∧
      progress.ambiguous = rs.flatMap (reports format shift) ∧
      progress.movedDates = (rs.map (moves format shift)).sum := by
  induction rs generalizing progress with
  | nil =>
    cases h
    exact ⟨List.Forall₂.nil, rfl, rfl⟩
  | cons r rs ih =>
    simp only [moveAll, Shift.apply, Embedded.moveDates_timestamp] at h
    cases hadd : r.timestamp.add? shift.delta with
    | none =>
      rw [hadd] at h
      cases h
    | some s =>
      rw [hadd] at h
      dsimp only at h
      cases hrest : moveAll format shift rs with
      | mk result signals =>
        cases result with
        | error e =>
          rw [hrest] at h
          cases h
        | ok rest =>
          rw [hrest] at h
          cases h
          have hok : (moveAll format shift rs).1 = .ok rest := by rw [hrest]
          obtain ⟨hrecords, hambiguous, hmoves⟩ := ih hok
          refine ⟨List.Forall₂.cons ⟨s, hadd, rfl⟩ hrecords, ?_, ?_⟩
          · rw [List.flatMap_cons, ← hambiguous]
            rfl
          · rw [List.map_cons, List.sum_cons, ← hmoves]
            rfl

/-- One record of the second pass: its timestamp is moved by the span of the shift, and only the
text of its line, and in one format that of its message, can be new beside it. -/
theorem Moved.spec {r r' : Record} (h : Moved format shift r r')
    (hl : r.timestamp.isLeap = false) :
    r.timestamp.add? shift.delta = some r'.timestamp ∧
      r'.timestamp.instant = r.timestamp.instant + shift.delta.nanos ∧
      r'.timestamp.isLeap = false ∧ r'.seq = r.seq ∧
      r' = ((r.withTimestamp r'.timestamp).withLogline r'.logline).withMsg r'.msg ∧
      (format ≠ .linux → r'.msg = r.msg) := by
  obtain ⟨s, hadd, rfl⟩ := h
  obtain ⟨hinstant, hleap⟩ := Moment.add?_eq_some hl hadd
  rw [Embedded.moveDates_record]
  refine ⟨?_, ?_, ?_, ?_, ?_, ?_⟩
  · simpa using hadd
  · simpa using hinstant
  · simpa using hleap
  · simp
  · rw [Record.withTimestamp_comm]
    simp
  · intro hf
    simp [hf]

end Normalize

theorem exists_of_forall₂ {α β : Type} {R : α → β → Prop} {l : List α} {u : List β}
    (h : List.Forall₂ R l u) {i : Nat} {a : α} (hi : l[i]? = some a) :
    ∃ b, u[i]? = some b ∧ R a b := by
  induction h generalizing i with
  | nil => simp at hi
  | cons hab _ ih =>
    cases i with
    | zero =>
      obtain rfl : _ = a := by simpa using hi
      exact ⟨_, by simp, hab⟩
    | succ i => exact ih (by simpa using hi)

namespace Pipeline

/-- What a finished second pass is made of. -/
theorem normalize_eq_ok {p : Pipeline} {b : ParsedBatch} {now : Moment} {batch : NormalizedBatch}
    (h : (p.normalize b now).1 = .ok batch) :
    ∃ newest progress, Shift.newest? b.records = some newest ∧
      (Normalize.moveAll p.format (Shift.between newest (p.format.truncate now)) b.records).1 =
        .ok progress ∧
      batch = ⟨p.format, Shift.between newest (p.format.truncate now), progress.records,
        b.malformed, b.stats, b.finalYear, progress.movedDates, progress.ambiguous⟩ := by
  simp only [normalize, Shift.plan] at h
  split at h
  · cases h
  · cases hnewest : Shift.newest? b.records with
    | none =>
      rw [hnewest] at h
      cases h
    | some newest =>
      rw [hnewest] at h
      dsimp only at h
      cases hmove : Normalize.moveAll p.format (Shift.between newest (p.format.truncate now))
          b.records with
      | mk result signals =>
        cases result with
        | error e =>
          rw [hmove] at h
          cases h
        | ok progress =>
          rw [hmove] at h
          cases h
          exact ⟨newest, progress, rfl, by rw [hmove], rfl⟩

/-- What a finished run has done. -/
theorem run_eq_ok {p : Pipeline} {lines : List Text} {now : Moment} {batch : NormalizedBatch}
    (h : (p.run lines now).1 = .ok batch) :
    ∃ newest, Shift.newest? (p.parseLines lines).1.records = some newest ∧
      batch.shift = Shift.between newest (p.format.truncate now) ∧
      List.Forall₂ (Normalize.Moved p.format batch.shift) (p.parseLines lines).1.records
        batch.records ∧
      batch.ambiguous =
        (p.parseLines lines).1.records.flatMap (Normalize.reports p.format batch.shift) := by
  have hnormalize : (p.normalize (p.parseLines lines).1 now).1 = .ok batch := h
  obtain ⟨newest, progress, hnewest, hmove, rfl⟩ := normalize_eq_ok hnormalize
  obtain ⟨hrecords, hambiguous, -⟩ := Normalize.moveAll_eq_ok hmove
  exact ⟨newest, hnewest, rfl, hrecords, hambiguous⟩

/-- A run hands on the account of its first pass. -/
theorem account_of_run {p : Pipeline} {lines : List Text} {now : Moment} {batch : NormalizedBatch}
    (h : (p.run lines now).1 = .ok batch) :
    batch.stats = (p.parseLines lines).1.stats ∧
      batch.malformed = (p.parseLines lines).1.malformed := by
  have hnormalize : (p.normalize (p.parseLines lines).1 now).1 = .ok batch := h
  obtain ⟨newest, progress, -, -, rfl⟩ := normalize_eq_ok hnormalize
  exact ⟨rfl, rfl⟩

/-- The shift of a finished run: from the newest timestamp to the reference moment. -/
theorem shift_of_run {p : Pipeline} (hp : p.parser = .builtin p.format) {lines : List Text}
    {now : Moment} {batch : NormalizedBatch} (h : (p.run lines now).1 = .ok batch) :
    let parsed := (p.parseLines lines).1.records
    batch.shift.now = p.format.truncate now ∧
    (∃ top ∈ parsed, top.timestamp = batch.shift.newest) ∧
    (∀ r ∈ parsed, r.timestamp.instant ≤ batch.shift.newest.instant) ∧
    batch.shift.delta = batch.shift.now.since batch.shift.newest ∧
    batch.shift.delta.nanos = batch.shift.now.instant - batch.shift.newest.instant := by
  intro parsed
  have hleap : ∀ r ∈ parsed, r.timestamp.isLeap = false := fun _ => isLeap_of_mem_parseLines hp
  obtain ⟨newest, hnewest, hshift, -⟩ := run_eq_ok h
  obtain ⟨⟨top, htop, rfl⟩, hmax⟩ := Shift.newest?_eq_some hleap hnewest
  rw [hshift]
  refine ⟨rfl, ⟨top, htop, rfl⟩, hmax, rfl, ?_⟩
  unfold Shift.between
  rw [Moment.since_eq (hleap top htop) (p.format.truncate_isLeap now)]

/-- A finished run moves every timestamp by the span from the newest one to the reference moment,
cut down to the precision of the format. The newest timestamp arrives there exactly, all
differences stay, and each record keeps its place, its number and all fields but its timestamp and
its text. -/
theorem run_shift_law {config : BatchConfig} {given : List Enricher} {p : Pipeline}
    {lines : List Text} {now : Moment} {batch : NormalizedBatch}
    (hbuild : build config none given = .ok p) (hrun : (p.run lines now).1 = .ok batch) :
    let parsed := (p.parseLines lines).1.records
    batch.shift.now = p.format.truncate now ∧
    (∃ r ∈ parsed, r.timestamp = batch.shift.newest) ∧
    (∀ r ∈ parsed, r.timestamp.le batch.shift.newest = true) ∧
    List.Forall₂ (fun r r' =>
      r.timestamp.add? (batch.shift.now.since batch.shift.newest) = some r'.timestamp ∧
      r'.timestamp.instant - r.timestamp.instant =
        batch.shift.now.instant - batch.shift.newest.instant ∧
      r'.seq = r.seq ∧
      r' = ((r.withTimestamp r'.timestamp).withLogline r'.logline).withMsg r'.msg ∧
      (p.format ≠ .linux → r'.msg = r.msg)) parsed batch.records ∧
    (∃ r' ∈ batch.records, r'.timestamp = batch.shift.now) ∧
    (∀ r' ∈ batch.records, r'.timestamp.le batch.shift.now = true) ∧
    ∀ (i j : Nat) (a b a' b' : Record), parsed[i]? = some a → parsed[j]? = some b →
      batch.records[i]? = some a' → batch.records[j]? = some b' →
      b'.timestamp.since a'.timestamp = b.timestamp.since a.timestamp := by
  intro parsed
  obtain ⟨-, hp⟩ := build_eq_ok hbuild
  have hleap : ∀ r ∈ parsed, r.timestamp.isLeap = false := fun r hr =>
    (((parseLines_sound hp lines).1 r hr).shows hp).1
  obtain ⟨hnow, ⟨top, htop, hnew⟩, hmax, hspan, hnanos⟩ := shift_of_run hp hrun
  have hnewleap : batch.shift.newest.isLeap = false := hnew ▸ hleap top htop
  have hnowleap : batch.shift.now.isLeap = false := by
    rw [hnow]
    exact p.format.truncate_isLeap now
  obtain ⟨-, -, -, hmoved, -⟩ := run_eq_ok hrun
  have hspec := ((List.forall₂_and_left _ _).mpr ⟨hleap, hmoved⟩).imp fun r r' h =>
    And.intro h.1 (h.2.spec h.1)
  refine ⟨hnow, ⟨top, htop, hnew⟩, ?_, ?_, ?_, ?_, ?_⟩
  · intro r hr
    rw [Moment.le_iff_instant_le (hleap r hr) hnewleap]
    exact hmax r hr
  · refine hspec.imp ?_
    rintro r r' ⟨-, hadd, hinstant, -, hseq, hfields, hmsg⟩
    rw [hspan] at hadd
    exact ⟨hadd, by omega, hseq, hfields, hmsg⟩
  · obtain ⟨i, hi⟩ := List.getElem?_of_mem htop
    obtain ⟨r', hr', -, -, hinstant, hl, -⟩ := exists_of_forall₂ hspec hi
    rw [hnew] at hinstant
    exact ⟨r', List.mem_of_getElem? hr', Moment.instant_injective hl hnowleap (by omega)⟩
  · intro r' hr'
    obtain ⟨i, hi⟩ := List.getElem?_of_mem hr'
    obtain ⟨r, hr, -, -, hinstant, hl, -⟩ := exists_of_forall₂ hspec.flip hi
    have hle := hmax r (List.mem_of_getElem? hr)
    rw [Moment.le_iff_instant_le hl hnowleap]
    omega
  · intro i j a b a' b' ha hb ha' hb'
    obtain ⟨_, hi, hla, -, hia, hla', -⟩ := exists_of_forall₂ hspec ha
    obtain ⟨_, hj, hlb, -, hib, hlb', -⟩ := exists_of_forall₂ hspec hb
    obtain rfl := Option.some.inj (hi.symm.trans ha')
    obtain rfl := Option.some.inj (hj.symm.trans hb')
    rw [Moment.since_eq hla' hlb', Moment.since_eq hla hlb, hia, hib]
    congr 1
    omega

theorem run_shift_law_leapSecond :
    let lines : List Text := ["[Mon Nov 28 18:36:18 2005] [notice] workerEnv.init() ok".toList,
      "no stamp".toList, "[Sun Nov  6 00:00:00 2005] [error] mod_jk child 6 in state".toList]
    let now : Moment := ⟨⟨2016, 12, 31, by decide, by decide, by decide⟩,
      ⟨86399, 1500000000, by decide, by decide, by decide⟩⟩
    ∃ p batch, build (.forFormat .apache) none [] = .ok p ∧ (p.run lines now).1 = .ok batch ∧
      batch.records.map Record.logline =
        ["[Sat Dec 31 23:59:59 2016] [notice] workerEnv.init() ok".toList,
          "[Fri Dec  9 05:23:41 2016] [error] mod_jk child 6 in state".toList] ∧
      (∃ r' ∈ batch.records, r'.timestamp = batch.shift.now) ∧
      ∀ r' ∈ batch.records, r'.timestamp.le batch.shift.now = true := by
  intro lines now
  let p : Pipeline := ⟨.forFormat .apache, .builtin .apache, []⟩
  have hbuild : build (.forFormat .apache) none [] = .ok p := rfl
  have hlines : ((p.run lines now).1.toOption.map fun b => b.records.map Record.logline) =
      some ["[Sat Dec 31 23:59:59 2016] [notice] workerEnv.init() ok".toList,
        "[Fri Dec  9 05:23:41 2016] [error] mod_jk child 6 in state".toList] := by
    decide +kernel
  cases hrun : (p.run lines now).1 with
  | error e =>
    rw [hrun] at hlines
    cases hlines
  | ok batch =>
    rw [hrun] at hlines
    have h := run_shift_law hbuild hrun
    exact ⟨p, batch, hbuild, hrun, Option.some.inj hlines, h.2.2.2.2.1, h.2.2.2.2.2.1⟩

end Pipeline

end LogShift
