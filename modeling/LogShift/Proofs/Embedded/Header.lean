import LogShift.Proofs.Embedded.Frame
import LogShift.Proofs.Line.Reread

/-! The stamp that opens a line is the first of its located dates. It is moved whenever the year of
its new value can be written, and the new line can then be read again. -/
namespace LogShift

/-- Edits that start behind a part of the text leave that part alone. -/
theorem Edit.splice_append {offset : Nat} {l t : Text} {es : List Edit}
    (h : ∀ e ∈ es, offset + l.width ≤ e.start ∧ e.start ≤ e.stop) :
    splice offset (l ++ t) es = l ++ splice (offset + l.width) t es := by
  cases es with
  | nil => rfl
  | cons e es =>
    obtain ⟨hstart, hstop⟩ := h e (by simp)
    have htake : (l ++ t).takeBytes (e.start - offset) =
        l ++ t.takeBytes (e.start - (offset + l.width)) := by
      rw [show e.start - offset = l.width + (e.start - (offset + l.width)) by omega,
        Text.takeBytes_append]
    have hdrop : (l ++ t).dropBytes (e.stop - offset) =
        t.dropBytes (e.stop - (offset + l.width)) := by
      rw [show e.stop - offset = l.width + (e.stop - (offset + l.width)) by omega,
        Text.dropBytes_append]
    rw [splice, splice, htake, hdrop]
    simp

namespace LogFormat

/-- The stamp that opens a line. -/
def header? (f : LogFormat) (line : Text) : Option Located :=
  Located.at? f.surface f.lead.width line

theorem header?_eq_some {f : LogFormat} {stamp : Stamp} {t : Text}
    (h : Stamp.read? f.surface (stamp.text ++ t) = some (stamp, t)) :
    f.header? (f.lead ++ (stamp.text ++ t)) = some ⟨f.lead.width, stamp⟩ :=
  Located.at?_eq_some_iff.mpr ⟨rfl, f.lead, t, rfl, rfl, h⟩

end LogFormat

namespace Embedded
open Located

/-- The text with its dates moved, or as it was if none is. -/
def newText (format : LogFormat) (field : TextField) (t : Text) (anchor : Moment) (delta : Span) :
    Text :=
  (moveText format field t anchor delta).text.getD t

theorem newText_eq (format : LogFormat) (field : TextField) (t : Text) (anchor : Moment)
    (delta : Span) :
    newText format field t anchor delta =
      Edit.splice 0 t (editsOf field anchor delta (locate format t)) := by
  rw [newText, moveText_text]
  cases editsOf field anchor delta (locate format t) <;> rfl

/-- The dates of a line that are moved beside its stamp. -/
def laterDates (f : LogFormat) (line : Text) : List Located :=
  if f = .linux then candidates .ctime line else []

theorem locate_header {f : LogFormat} {stamp : Stamp} {t : Text}
    (hread : Stamp.read? f.surface (stamp.text ++ t) = some (stamp, t))
    (hclose : f = .apache → ∃ u, t = ']' :: u) :
    locate f (f.lead ++ (stamp.text ++ t)) =
      ⟨f.lead.width, stamp⟩ :: laterDates f (f.lead ++ (stamp.text ++ t)) := by
  have hhead := LogFormat.header?_eq_some hread
  unfold LogFormat.header? at hhead
  cases f with
  | linux =>
    rw [locate_linux, show at? .syslog 0 _ = _ from hhead]
    rfl
  | apache =>
    obtain ⟨u, rfl⟩ := hclose rfl
    apply locate_eq_singleton (by decide)
    rw [mem_locate_iff]
    refine ⟨⟨hhead, [], u, rfl, rfl⟩, ?_⟩
    rintro m' ⟨-, lead, rest, -, hw⟩
    show 1 ≤ m'.start
    omega
  | hadoop =>
    apply locate_eq_singleton (by decide)
    exact mem_first?_iff.mpr ⟨hhead, fun m' _ => Nat.zero_le _⟩
  | openssh =>
    apply locate_eq_singleton (by decide)
    exact mem_first?_iff.mpr ⟨hhead, fun m' _ => Nat.zero_le _⟩

/-- The stamp of a line is moved unless its new year has no four digits. -/
theorem moveLocated_header {m : Located} {anchor s : Moment} {delta : Span}
    (hstamp : m.stamp.fields.resolve (some anchor.year) false = .ok anchor)
    (hadd : anchor.add? delta = some s) :
    moveLocated .logline anchor delta m =
      if 0 ≤ s.year ∧ s.year ≤ 9999 then
        .ok (⟨m.start, m.stop, m.stamp.render s⟩,
          ⟨.logline, m.start, m.stop, anchor, m.stamp.style⟩)
      else .error ⟨.logline, m.start, m.stamp.surface, m.stamp.text, .yearOutOfRange s.year⟩ := by
  have hmove : move .logline anchor delta m.stamp =
      if 0 ≤ s.year ∧ s.year ≤ 9999 then .ok (anchor, s) else .error (.yearOutOfRange s.year) := by
    simp [move, hstamp, hadd, Except.mapError, bind, Except.bind]
  unfold moveLocated
  rw [hmove]
  by_cases hy : 0 ≤ s.year ∧ s.year ≤ 9999
  · rw [if_pos hy, if_pos hy]
  · rw [if_neg hy, if_neg hy]

section
variable {f : LogFormat} {stamp : Stamp} {t : Text} {anchor s : Moment} {delta : Span}

/-- What becomes of the text behind the stamp of a line. -/
def newTail (f : LogFormat) (stamp : Stamp) (t : Text) (anchor : Moment) (delta : Span) : Text :=
  Edit.splice (f.lead ++ stamp.text).width t
    (editsOf .logline anchor delta (laterDates f (f.lead ++ (stamp.text ++ t))))

theorem newTail_of_ne_linux (hf : f ≠ .linux) : newTail f stamp t anchor delta = t := by
  rw [newTail, laterDates, if_neg hf]
  rfl

theorem read?_newTail (hread : Stamp.read? f.surface (stamp.text ++ t) = some (stamp, t)) :
    Stamp.read? f.surface (stamp.text ++ newTail f stamp t anchor delta) =
      some (stamp, newTail f stamp t anchor delta) := by
  by_cases hf : f = .linux
  · subst hf
    obtain ⟨hk, hs, -, -⟩ := Stamp.read?_eq_some_iff.mp hread
    exact Stamp.read?_eq_some_iff.mpr ⟨hk, hs, rfl, fun h => by cases h⟩
  · rw [newTail_of_ne_linux hf]
    exact hread

/-- Later dates start behind the stamp. -/
theorem stop_le_of_mem_laterDates
    (hread : Stamp.read? f.surface (stamp.text ++ t) = some (stamp, t)) {m : Located}
    (hm : m ∈ laterDates f (f.lead ++ (stamp.text ++ t))) :
    m.StandsIn .ctime (f.lead ++ (stamp.text ++ t)) ∧
      (f.lead ++ stamp.text).width ≤ m.start := by
  unfold laterDates at hm
  split at hm
  · rename_i hf
    subst hf
    have hstands := mem_candidates_iff.mp hm
    have hheader := (at?_eq_some_iff.mp (LogFormat.header?_eq_some hread)).2
    have hle := stop_le_start_of_syslog hheader hstands (Nat.zero_le _)
    refine ⟨hstands, ?_⟩
    rw [Text.width_append]
    exact hle
  · cases hm

theorem newText_header (hread : Stamp.read? f.surface (stamp.text ++ t) = some (stamp, t))
    (hclose : f = .apache → ∃ u, t = ']' :: u)
    (hstamp : stamp.fields.resolve (some anchor.year) false = .ok anchor)
    (hadd : anchor.add? delta = some s) :
    newText f .logline (f.lead ++ (stamp.text ++ t)) anchor delta =
      f.lead ++ ((if 0 ≤ s.year ∧ s.year ≤ 9999 then stamp.render s else stamp.text) ++
        newTail f stamp t anchor delta) := by
  have hlater : ∀ e ∈ editsOf .logline anchor delta (laterDates f (f.lead ++ (stamp.text ++ t))),
      0 + (f.lead ++ stamp.text).width ≤ e.start ∧ e.start ≤ e.stop := by
    intro e he
    obtain ⟨m, hm, x, v, -, rfl⟩ := mem_editsOf he
    have hle := (stop_le_of_mem_laterDates hread hm).2
    rw [Nat.zero_add]
    exact ⟨hle, Nat.le_add_right _ _⟩
  have hmove := moveLocated_header (m := ⟨f.lead.width, stamp⟩) hstamp hadd
  rw [newText_eq, locate_header hread hclose, newTail]
  by_cases hy : 0 ≤ s.year ∧ s.year ≤ 9999
  · have hedits : ∀ ms, editsOf .logline anchor delta (⟨f.lead.width, stamp⟩ :: ms) =
        ⟨f.lead.width, (f.lead ++ stamp.text).width, stamp.render s⟩ ::
          editsOf .logline anchor delta ms := by
      intro ms
      rw [Text.width_append]
      simp [editsOf, hmove, hy, Except.toOption, stop]
    rw [hedits, Edit.splice_next (Nat.zero_add _) (Text.width_append _ _).symm, if_pos hy]
  · have hedits : ∀ ms, editsOf .logline anchor delta (⟨f.lead.width, stamp⟩ :: ms) =
        editsOf .logline anchor delta ms := by
      intro ms
      simp [editsOf, hmove, hy, Except.toOption]
    have hsplice := Edit.splice_append (t := t) hlater
    rw [List.append_assoc] at hsplice
    rw [hedits, hsplice, if_neg hy, Nat.zero_add, List.append_assoc]

/-- A moved stamp is accounted for as moved, and only dates behind it are left in place. -/
theorem outcome_header (hread : Stamp.read? f.surface (stamp.text ++ t) = some (stamp, t))
    (hclose : f = .apache → ∃ u, t = ']' :: u)
    (hstamp : stamp.fields.resolve (some anchor.year) false = .ok anchor)
    (hadd : anchor.add? delta = some s) (hy : 0 ≤ s.year ∧ s.year ≤ 9999) :
    let m : Located := ⟨f.lead.width, stamp⟩
    let o := (moveText f .logline (f.lead ++ (stamp.text ++ t)) anchor delta).outcome
    ⟨.logline, m.start, m.stop, anchor, stamp.style⟩ ∈ o.moved ∧
      ∀ a ∈ o.ambiguous, m.stop ≤ a.offset := by
  intro m o
  have hmove := moveLocated_header (m := ⟨f.lead.width, stamp⟩) hstamp hadd
  rw [if_pos hy] at hmove
  rw [show o = _ from moveText_outcome .logline anchor delta f _, locate_header hread hclose]
  refine ⟨?_, ?_⟩
  · refine List.mem_filterMap.mpr ⟨m, List.mem_cons_self, ?_⟩
    rw [hmove]
    rfl
  · intro a ha
    obtain ⟨d, hd, herror⟩ := mem_ambiguousOf_iff.mp ha
    rcases List.mem_cons.mp hd with rfl | hd
    · rw [hmove] at herror
      cases herror
    · have hle := (stop_le_of_mem_laterDates hread hd).2
      rw [Text.width_append] at hle
      rw [(moveLocated_eq_error herror).2]
      exact hle

/-- A stamp without a new year is left in place for that reason. -/
theorem outcome_header_of_year
    (hread : Stamp.read? f.surface (stamp.text ++ t) = some (stamp, t))
    (hclose : f = .apache → ∃ u, t = ']' :: u)
    (hstamp : stamp.fields.resolve (some anchor.year) false = .ok anchor)
    (hadd : anchor.add? delta = some s) (hy : ¬(0 ≤ s.year ∧ s.year ≤ 9999)) :
    ⟨.logline, f.lead.width, stamp.surface, stamp.text, .yearOutOfRange s.year⟩ ∈
      (moveText f .logline (f.lead ++ (stamp.text ++ t)) anchor delta).outcome.ambiguous := by
  have hmove := moveLocated_header (m := ⟨f.lead.width, stamp⟩) hstamp hadd
  rw [if_neg hy] at hmove
  rw [moveText_outcome, locate_header hread hclose]
  exact mem_ambiguousOf_iff.mpr ⟨_, List.mem_cons_self, hmove⟩

/-- The text behind the stamp can still be read when the dates in it have moved. -/
theorem body?_newTail {seq : Nat} {make : Moment → Text → Record}
    (hread : Stamp.read? f.surface (stamp.text ++ t) = some (stamp, t))
    (hbody : Line.body? f seq t = some make) :
    ∃ make', Line.body? f seq (newTail f stamp t anchor delta) = some make' := by
  by_cases hf : f = .linux
  · subst hf
    unfold newTail
    cases hes : editsOf .logline anchor delta
        (laterDates .linux (LogFormat.linux.lead ++ (stamp.text ++ t))) with
    | nil => exact ⟨make, hbody⟩
    | cons e es =>
      -- Only the first date matters: the parts that are read end with its first colon.
      obtain ⟨m, hm, x, v, hmove, rfl⟩ := mem_editsOf (hes ▸ List.mem_cons_self)
      obtain ⟨hstands, hle⟩ := stop_le_of_mem_laterDates hread hm
      have hk := hstands.surface_eq
      have hs := hstands.shaped
      obtain ⟨-, -, -, hy⟩ := move_eq_ok_iff.mp hmove
      have hplaced : (m.stamp.place v).Shaped := Stamp.place_shaped hs fun _ => hy
      obtain ⟨lead, rest, hline, hw, -⟩ := hstands
      rw [← List.append_assoc] at hline
      obtain ⟨kept, rfl, rfl⟩ := Text.append_eq_append_of_width_le hline (by omega)
      have hkept : m.start - (LogFormat.linux.lead ++ stamp.text).width = kept.width := by
        rw [← hw, Text.width_append]
        omega
      rw [Edit.splice, hkept, Text.takeBytes_width_append, List.append_assoc]
      exact Line.Linux.body?_of_ctime hk hs ((Stamp.place_surface _ _).trans hk) hplaced _ hbody
  · rw [newTail_of_ne_linux hf]
    exact ⟨make, hbody⟩

end

end Embedded

end LogShift
