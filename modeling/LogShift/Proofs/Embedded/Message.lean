import LogShift.Proofs.Batch.Normalize
import LogShift.Proofs.Line.Message

/-! The line and the message of a record move together. Where the message starts, the search for
dates in the line goes on as the search in the message; so the dates of both are moved alike, the
new line ends in the new message, and it is read as the new record. -/
namespace LogShift

/-! ### Dates behind a part of the text -/

/-- The same stamp, `n` bytes further behind. -/
def Located.shift (n : Nat) (m : Located) : Located :=
  ⟨n + m.start, m.stamp⟩

def Edit.shift (n : Nat) (e : Edit) : Edit :=
  ⟨n + e.start, n + e.stop, e.text⟩

/-- A date of the message as the line has it, in which the message starts at byte `n`. -/
def MovedDate.inLine (n : Nat) (d : MovedDate) : MovedDate :=
  { d with field := .logline, start := n + d.start, stop := n + d.stop }

@[inherit_doc MovedDate.inLine]
def AmbiguousDate.inLine (n : Nat) (a : AmbiguousDate) : AmbiguousDate :=
  { a with field := .logline, offset := n + a.offset }

namespace Located

variable {k : Surface}

theorem allFrom_add (n offset : Nat) (t : Text) :
    allFrom k (n + offset) t = (allFrom k offset t).map (shift n) := by
  induction t generalizing offset with
  | nil => rfl
  | cons c t ih =>
    rw [allFrom, allFrom, Nat.add_assoc, ih]
    cases Stamp.read? k (c :: t) <;> rfl

/-- Where no stamp starts in its front, a text has the stamps behind the front. -/
theorem allFrom_append {front t : Text} {offset : Nat}
    (h : ∀ m ∈ allFrom k offset (front ++ t), offset + front.width ≤ m.start) :
    allFrom k offset (front ++ t) = allFrom k (offset + front.width) t := by
  induction front generalizing offset with
  | nil => rfl
  | cons c front ih =>
    rw [List.cons_append, allFrom] at h ⊢
    cases hread : Stamp.read? k (c :: (front ++ t)) with
    | some found =>
      rw [hread] at h
      have hstart := h _ List.mem_cons_self
      have hc := c.utf8Size_pos
      simp only [Text.width_cons] at hstart
      omega
    | none =>
      rw [hread] at h
      rw [Text.width_cons, ← Nat.add_assoc] at h ⊢
      exact ih h

theorem candidates_append {front t : Text}
    (h : ∀ m ∈ candidates k (front ++ t), front.width ≤ m.start) :
    candidates k (front ++ t) = (candidates k t).map (shift front.width) := by
  have hclear : ∀ m ∈ allFrom k 0 (front ++ t), 0 + front.width ≤ m.start := by
    simpa [candidates] using h
  unfold candidates
  rw [allFrom_append hclear, ← allFrom_add, Nat.zero_add, Nat.add_zero]

end Located

theorem Edit.splice_shift (n offset : Nat) (t : Text) (es : List Edit) :
    splice (n + offset) t (es.map (shift n)) = splice offset t es := by
  induction es generalizing offset t with
  | nil => rfl
  | cons e es ih =>
    rw [List.map_cons, splice, splice]
    simp only [shift, Nat.add_sub_add_left]
    rw [ih]

namespace Embedded

open Located

variable {anchor : Moment} {delta : Span}

/-- The field matters for dates without a year only. -/
theorem move_field {s : Stamp} (hs : s.surface = .ctime) :
    move .logline anchor delta s = move .msg anchor delta s := by
  simp [move, hs]

/-- What becomes of a date of the message, as the line has it. -/
def inLine (n : Nat) :
    Except AmbiguousDate (Edit × MovedDate) → Except AmbiguousDate (Edit × MovedDate)
  | .ok (e, d) => .ok (e.shift n, d.inLine n)
  | .error a => .error (a.inLine n)

theorem moveLocated_shift {m : Located} (hm : m.stamp.surface = .ctime) (n : Nat) :
    moveLocated .logline anchor delta (m.shift n) = inLine n (moveLocated .msg anchor delta m) := by
  have hmove : move .logline anchor delta (m.shift n).stamp = move .msg anchor delta m.stamp :=
    move_field hm
  unfold moveLocated
  rw [hmove]
  cases move .msg anchor delta m.stamp with
  | error reason => rfl
  | ok values => simp [shift, inLine, Edit.shift, MovedDate.inLine, stop, Nat.add_assoc]

theorem filterMap_shift {β : Type} {ms : List Located} {n : Nat} {f g : Located → Option β}
    {h : β → β} (hfg : ∀ m ∈ ms, f (m.shift n) = (g m).map h) :
    (ms.map (shift n)).filterMap f = (ms.filterMap g).map h := by
  rw [List.filterMap_map, List.map_filterMap]
  exact List.filterMap_congr hfg

/-- Full dates are moved and left alike in the message and in the line. -/
theorem results_shift {ms : List Located} (hms : ∀ m ∈ ms, m.stamp.surface = .ctime) (n : Nat) :
    editsOf .logline anchor delta (ms.map (shift n)) =
      (editsOf .msg anchor delta ms).map (Edit.shift n) ∧
    movedOf .logline anchor delta (ms.map (shift n)) =
      (movedOf .msg anchor delta ms).map (MovedDate.inLine n) ∧
    ambiguousOf .logline anchor delta (ms.map (shift n)) =
      (ambiguousOf .msg anchor delta ms).map (AmbiguousDate.inLine n) := by
  refine ⟨filterMap_shift ?_, filterMap_shift ?_, filterMap_shift ?_⟩
  all_goals
    intro m hm
    rw [moveLocated_shift (hms m hm)]
    cases moveLocated .msg anchor delta m <;> rfl

theorem locate_of_read?_eq_none {t : Text} (h : Stamp.read? .syslog t = none) :
    locate .linux t = candidates .ctime t := by
  have hfront : at? .syslog 0 t = none := by simp [at?, Text.dropBytes?, h]
  rw [locate_linux, hfront]
  rfl

/-! ### The line of a message -/

section
variable {stamp : Stamp} {front msg : Text}

/-- The dates of a line whose full dates are all in its message. -/
theorem laterDates_message (hmsg : Stamp.read? .syslog msg = none)
    (hclear : ∀ m ∈ candidates .ctime (stamp.text ++ (front ++ msg)),
      (stamp.text ++ front).width ≤ m.start) :
    laterDates .linux (LogFormat.linux.lead ++ (stamp.text ++ (front ++ msg))) =
      (locate .linux msg).map (shift (stamp.text ++ front).width) := by
  show candidates .ctime (stamp.text ++ (front ++ msg)) = _
  rw [← List.append_assoc] at hclear ⊢
  rw [candidates_append hclear, locate_of_read?_eq_none hmsg]

theorem surface_of_mem_locate (hmsg : Stamp.read? .syslog msg = none) :
    ∀ m ∈ locate .linux msg, m.stamp.surface = .ctime := by
  rw [locate_of_read?_eq_none hmsg]
  intro m hm
  exact (mem_candidates_iff.mp hm).surface_eq

theorem newTail_message (hmsg : Stamp.read? .syslog msg = none)
    (hclear : ∀ m ∈ candidates .ctime (stamp.text ++ (front ++ msg)),
      (stamp.text ++ front).width ≤ m.start) :
    newTail .linux stamp (front ++ msg) anchor delta =
      front ++ newText .linux .msg msg anchor delta := by
  have hedits : editsOf .logline anchor delta ((locate .linux msg).map
        (shift (stamp.text ++ front).width)) = _ :=
    (results_shift (surface_of_mem_locate hmsg) _).1
  have hbehind : ∀ e ∈ (editsOf .msg anchor delta (locate .linux msg)).map
      (Edit.shift (stamp.text ++ front).width),
      stamp.text.width + front.width ≤ e.start ∧ e.start ≤ e.stop := by
    intro e he
    obtain ⟨e₀, he₀, rfl⟩ := List.mem_map.mp he
    obtain ⟨m, -, x, v, -, rfl⟩ := mem_editsOf he₀
    rw [Text.width_append]
    simp only [Edit.shift, stop]
    omega
  have hshift := Edit.splice_shift (stamp.text ++ front).width 0 msg
    (editsOf .msg anchor delta (locate .linux msg))
  rw [Nat.add_zero, Text.width_append] at hshift
  rw [newTail, laterDates_message hmsg hclear, hedits, newText_eq]
  show Edit.splice stamp.text.width (front ++ msg) _ = _
  rw [Edit.splice_append hbehind, Text.width_append, hshift]

/-- The stamp of the line is moved, and beside it the dates of the message are. -/
theorem outcome_message {s : Moment} (hread : Stamp.read? .syslog (stamp.text ++ (front ++ msg)) =
      some (stamp, front ++ msg)) (hmsg : Stamp.read? .syslog msg = none)
    (hclear : ∀ m ∈ candidates .ctime (stamp.text ++ (front ++ msg)),
      (stamp.text ++ front).width ≤ m.start)
    (hstamp : stamp.fields.resolve (some anchor.year) false = .ok anchor)
    (hadd : anchor.add? delta = some s) (hy : 0 ≤ s.year ∧ s.year ≤ 9999) :
    let o := (moveText .linux .msg msg anchor delta).outcome
    let o' := (moveText .linux .logline (stamp.text ++ (front ++ msg)) anchor delta).outcome
    o'.moved = ⟨.logline, 0, stamp.text.width, anchor, stamp.style⟩ ::
        o.moved.map (MovedDate.inLine (stamp.text ++ front).width) ∧
      o'.ambiguous = o.ambiguous.map (AmbiguousDate.inLine (stamp.text ++ front).width) := by
  intro o o'
  have hlocate : locate .linux (stamp.text ++ (front ++ msg)) =
      ⟨0, stamp⟩ :: (locate .linux msg).map (shift (stamp.text ++ front).width) := by
    rw [← laterDates_message hmsg hclear]
    exact locate_header hread fun h => by cases h
  have hmove := moveLocated_header (m := ⟨0, stamp⟩) hstamp hadd
  rw [if_pos hy] at hmove
  obtain ⟨-, hmoved, hambiguous⟩ := results_shift (surface_of_mem_locate hmsg)
    (stamp.text ++ front).width
  rw [show o = _ from moveText_outcome .msg anchor delta .linux msg,
    show o' = _ from moveText_outcome .logline anchor delta .linux _, hlocate]
  refine ⟨?_, ?_⟩
  · rw [← hmoved, movedOf, List.filterMap_cons, hmove]
    simp [Except.toOption, stop, movedOf]
  · rw [← hambiguous, ambiguousOf, List.filterMap_cons, hmove]
    rfl

end

/-- A text that starts with no blank still does when its dates have moved. -/
theorem dropWhile_newText {format : LogFormat} {field : TextField} {t : Text}
    (ht : t.dropWhile isBlank = t) :
    (newText format field t anchor delta).dropWhile isBlank =
      newText format field t anchor delta := by
  rw [newText_eq]
  cases hes : editsOf field anchor delta (locate format t) with
  | nil => exact ht
  | cons e es =>
    obtain ⟨m, hm, x, v, hmove, rfl⟩ := mem_editsOf (hes ▸ List.mem_cons_self)
    obtain ⟨k, hstands⟩ := standsIn_of_mem_locate hm
    have hshaped := hstands.shaped
    obtain ⟨lead, rest, rfl, hw, -⟩ := hstands
    rw [Edit.splice_next ((Nat.zero_add _).trans hw) rfl]
    cases lead with
    | cons c lead =>
      have hc : ¬isBlank c = true := List.dropWhile_eq_self_iff.mp ht (Nat.zero_lt_succ _)
      exact List.dropWhile_cons_of_neg hc
    | nil =>
      obtain ⟨-, -, -, hy⟩ := move_eq_ok_iff.mp hmove
      obtain ⟨c, u, htext, hsolid⟩ := Stamp.text_eq_cons (Stamp.place_shaped hshaped fun _ => hy)
      have hc : ¬isBlank c = true := by
        intro hblank
        rw [isWhiteSpace_of_isBlank hblank] at hsolid
        cases hsolid
      rw [show m.stamp.render v = c :: u from htext]
      exact List.dropWhile_cons_of_neg hc

/-- A full date of the line that does not straddle the start of the message lies in the message. -/
theorem start_le_of_ctime {stamp : Stamp} {front msg hostname sourceText source : Text}
    (hread : Stamp.read? .syslog (stamp.text ++ (front ++ msg)) = some (stamp, front ++ msg))
    (hbody : Line.Envelope.body? (front ++ msg) = some (hostname, sourceText, source, msg))
    {m : Located} (hm : m ∈ candidates .ctime (stamp.text ++ (front ++ msg)))
    (hwhole : ¬(m.start < (stamp.text ++ front).width ∧ (stamp.text ++ front).width < m.stop)) :
    (stamp.text ++ front).width ≤ m.start := by
  obtain ⟨hstands, hle⟩ : m.StandsIn .ctime (stamp.text ++ (front ++ msg)) ∧
      stamp.text.width ≤ m.start := stop_le_of_mem_laterDates (f := .linux) hread hm
  have hk := hstands.surface_eq
  have hs := hstands.shaped
  obtain ⟨lead, rest, hline, hw, -⟩ := hstands
  obtain ⟨l, rfl, hbehind⟩ := Text.append_eq_append_of_width_le hline (by omega)
  rw [hbehind] at hbody
  have hwidth := congrArg Text.width hbehind
  rcases Line.Envelope.msg_of_ctime hk hs hbody with ⟨x, rfl⟩ | ⟨x, y, htext, hx, hy, rfl⟩
  · simp only [Text.width_append] at hwidth hw ⊢
    omega
  · have hxw : x.width ≠ 0 := fun h => hx (Text.width_eq_zero_iff.mp h)
    have hyw : y.width ≠ 0 := fun h => hy (Text.width_eq_zero_iff.mp h)
    rw [stop, htext] at hwhole
    simp only [htext, Text.width_append] at hwidth hw hwhole ⊢
    omega

/-- Where the message of a line does not start with a stamp, nor inside a full date, the line and
the message move together: the dates of the message are moved and left alike in both, the new line
ends in the new message, and it is read as the new record. -/
theorem moveDates_message {ctx : Context} {line : Text} {r : Record} {delta : Span}
    {s : Moment} (hparse : (LineParser.builtin .linux).parse ctx line = .ok r)
    (hadd : r.timestamp.add? delta = some s) (hseconds : (nanosPerSecond : Int) ∣ delta.nanos)
    (hy : 0 ≤ s.year ∧ s.year ≤ 9999) (hmsg : Stamp.read? .syslog r.msg = none)
    (hwhole : ∀ m ∈ candidates .ctime line,
      ¬(m.start < line.width - r.msg.width ∧ line.width - r.msg.width < m.stop)) :
    let p := line.width - r.msg.width
    let o := (moveText .linux .msg r.msg r.timestamp delta).outcome
    let moved := moveDates .linux r r.timestamp delta
    (∃ front, line = front ++ r.msg ∧ front.width = p) ∧
    moved.1.msg <:+ moved.1.logline ∧
    (∃ stamp : Stamp, moved.2.1.moved =
      ⟨.logline, 0, stamp.text.width, r.timestamp, stamp.style⟩ ::
        o.moved.map (MovedDate.inLine p) ++ o.moved) ∧
    moved.2.1.ambiguous = o.ambiguous.map (AmbiguousDate.inLine p) ++ o.ambiguous ∧
    (LineParser.builtin .linux).parse ⟨ctx.seq, s.year⟩ moved.1.logline =
      .ok (moved.1.withTimestamp s) := by
  intro p o moved
  obtain ⟨stamp, front, hostname, sourceText, source, rfl, hlogline, hread, hstamp, hbody, hsolid,
    hagain⟩ := LineParser.parts_of_parse hparse
  have hp : p = (stamp.text ++ front).width := by
    simp only [p, Text.width_append]
    omega
  have hclear : ∀ m ∈ candidates .ctime (stamp.text ++ (front ++ r.msg)),
      (stamp.text ++ front).width ≤ m.start := fun m hm =>
    start_le_of_ctime hread hbody hm (hp ▸ hwhole m hm)
  -- The new line has the new stamp, the text up to the message as it was, and the new message.
  let msg' := newText .linux .msg r.msg r.timestamp delta
  let line' := stamp.render s ++ (front ++ msg')
  have hnew : newText .linux .logline r.logline r.timestamp delta = line' := by
    have hheader := newText_header (f := .linux) hread (fun h => by cases h) hstamp hadd
    rw [if_pos hy, newTail_message hmsg hclear] at hheader
    rw [hlogline]
    exact hheader
  have hrecord : moved.1 = (r.withLogline line').withMsg msg' := by
    rw [← hnew]
    exact moveDates_record .linux r r.timestamp delta
  have houtcome : moved.2.1 = _ := moveDates_outcome .linux r r.timestamp delta
  obtain ⟨hmoved, hambiguous⟩ := outcome_message hread hmsg hclear hstamp hadd hy
  refine ⟨⟨stamp.text ++ front, by rw [List.append_assoc], hp.symm⟩, ?_, ⟨stamp, ?_⟩, ?_, ?_⟩
  · rw [hrecord, Record.msg_withMsg, Record.logline_withMsg, Record.logline_withLogline]
    exact ⟨stamp.render s ++ front, List.append_assoc _ _ _⟩
  · rw [houtcome, hlogline, Outcome.append, hmoved, hp]
    rfl
  · rw [houtcome, hlogline, Outcome.append, hambiguous, hp]
    rfl
  · have hunit : stamp.surface.unit = LogFormat.linux.unit := by
      rw [(Stamp.read?_eq_some_iff.mp hread).1]
      rfl
    have hshows := (LogFormat.shows_of_resolve hunit hstamp).add? hseconds hadd
    rw [hrecord, Record.logline_withMsg, Record.logline_withLogline]
    exact hagain s msg' hshows (dropWhile_newText hsolid)

theorem moveDates_message_newYear :
    let line : Text :=
      "Dec 31 23:59:59 h s[42]: Sat Dec 31 23:59:58 2005, Wed Feb 30 00:00:00 2005".toList
    let line' : Text :=
      "Jan  1 00:00:01 h s[42]: Sun Jan  1 00:00:00 2006, Wed Feb 30 00:00:00 2005".toList
    let a : Moment := ⟨⟨2005, 12, 31, by decide, by decide, by decide⟩,
      ⟨86399, 0, by decide, by decide, by decide⟩⟩
    let s : Moment := ⟨⟨2006, 1, 1, by decide, by decide, by decide⟩,
      ⟨1, 0, by decide, by decide, by decide⟩⟩
    let r : Record := .linux {
      seq := 7, timestamp := a, hostname := ['h'], source := ['s'], pid := some 42,
      msg := line.drop 25, logline := line }
    let moved := moveDates .linux r r.timestamp ⟨2000000000⟩
    (LineParser.builtin .linux).parse ⟨7, 2005⟩ line = .ok r ∧
      moved.1.logline = line' ∧ moved.1.msg <:+ line' ∧
      moved.2.1.moved.map MovedDate.start = [0, 25, 0] ∧
      moved.2.1.ambiguous.map AmbiguousDate.offset = [51, 26] ∧
      (LineParser.builtin .linux).parse ⟨7, 2006⟩ line' = .ok (moved.1.withTimestamp s) := by
  intro line line' a s r moved
  have hparse : (LineParser.builtin .linux).parse ⟨7, 2005⟩ line = .ok r := by decide +kernel
  have hadd : r.timestamp.add? ⟨2000000000⟩ = some s := by decide +kernel
  have hmoved : (moved.1.logline, moved.2.1.moved.map MovedDate.start,
      moved.2.1.ambiguous.map AmbiguousDate.offset) = (line', [0, 25, 0], [51, 26]) := by
    decide +kernel
  simp only [Prod.mk.injEq] at hmoved
  obtain ⟨hline, hstarts, hoffsets⟩ := hmoved
  obtain ⟨-, hsuffix, -, -, hagain⟩ := moveDates_message hparse hadd (by decide) (by decide)
    (by decide +kernel) (by decide +kernel)
  rw [hline] at hsuffix hagain
  exact ⟨hparse, hline, hsuffix, hstarts, hoffsets, hagain⟩

end Embedded

end LogShift
