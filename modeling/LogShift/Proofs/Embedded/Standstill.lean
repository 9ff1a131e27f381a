import LogShift.Proofs.Calendar.Range
import LogShift.Proofs.Embedded.Header
import LogShift.Proofs.Embedded.Replace
import LogShift.Proofs.Stamp.Place

/-! Dates moved by nothing. The new text is the old one with its wrong weekdays set right. -/
namespace LogShift

namespace Weekday

/-- The weekday whose name starts at byte `n`. -/
def at? (n : Nat) (t : Text) : Option Weekday :=
  (t.dropBytes? n).bind fun rest => (read? rest).map Prod.fst

theorem at?_eq_some_iff {n : Nat} {t : Text} {w : Weekday} :
    at? n t = some w ↔ ∃ lead rest, t = lead ++ (w.name.toList ++ rest) ∧ lead.width = n := by
  simp only [at?, Option.bind_eq_some_iff, Option.map_eq_some_iff, Prod.exists,
    read?_eq_some_iff, Text.dropBytes?_eq_some_iff]
  constructor
  · intro h
    obtain ⟨_, ⟨lead, rfl, hw⟩, _, rest, rfl, rfl⟩ := h
    exact ⟨lead, rest, rfl, hw⟩
  · intro h
    obtain ⟨lead, rest, rfl, hw⟩ := h
    exact ⟨_, ⟨lead, rfl, hw⟩, w, rest, rfl, rfl⟩

end Weekday

namespace MovedDate

/-- The date names a weekday in `t`, and it falls on another one. -/
def Misnamed (t : Text) (d : MovedDate) : Prop :=
  d.style.surface = .ctime ∧ Weekday.at? d.start t ≠ some d.value.date.weekday

instance (t : Text) (d : MovedDate) : Decidable (d.Misnamed t) :=
  inferInstanceAs (Decidable (_ ∧ _))

/-- The weekday of the date in the place of the three letters at its start. -/
def weekdayEdit (d : MovedDate) : Edit :=
  ⟨d.start, d.start + 3, d.value.date.weekday.name.toList⟩

/-- The weekdays that are set right. -/
def corrections (t : Text) (ds : List MovedDate) : List Edit :=
  (ds.filter fun d => d.Misnamed t).map weekdayEdit

theorem corrections_eq_flatMap (t : Text) (ds : List MovedDate) :
    corrections t ds = ds.flatMap fun d => if d.Misnamed t then [d.weekdayEdit] else [] := by
  induction ds with
  | nil => rfl
  | cons d ds ih =>
    rw [List.flatMap_cons, ← ih, corrections, corrections, List.filter_cons]
    by_cases h : d.Misnamed t
    · rw [if_pos h, if_pos (decide_eq_true h)]
      rfl
    · rw [if_neg h, if_neg (by simpa using h)]
      rfl

theorem corrections_keep {t : Text} {ds : List MovedDate} : ∀ e ∈ corrections t ds, e.Keeps := by
  intro e he
  obtain ⟨d, -, rfl⟩ := List.mem_map.mp he
  show d.start + Text.width d.value.date.weekday.name.toList = d.start + 3
  rw [Text.width_weekdayName]

/-- Nothing changes exactly if no weekday is wrong: each correction stands in the new text. -/
theorem eq_iff_of_corrections {t u : Text} {ds : List MovedDate}
    (h : Edit.Replaces 0 t (corrections t ds) u) : u = t ↔ ∀ d ∈ ds, ¬d.Misnamed t := by
  constructor
  · intro hu d hd hwrong
    subst hu
    have hmem : d.weekdayEdit ∈ corrections u ds :=
      List.mem_map_of_mem (List.mem_filter.mpr ⟨hd, decide_eq_true hwrong⟩)
    obtain ⟨lead, rest, hstands, hstart⟩ := h.stands corrections_keep hmem
    rw [Nat.zero_add] at hstart
    exact hwrong.2 (Weekday.at?_eq_some_iff.mpr ⟨lead, rest, hstands, hstart⟩)
  · intro hright
    have hnone : ds.filter (fun d => d.Misnamed t) = [] := by
      apply List.filter_eq_nil_iff.mpr
      intro d hd
      simpa using hright d hd
    rw [corrections, hnone] at h
    cases h
    rfl

end MovedDate

namespace Embedded
open Located

variable {field : TextField} {anchor : Moment}

theorem move_zero {s : Stamp} {x v : Moment} (h : move field anchor ⟨0⟩ s = .ok (x, v)) :
    s.fields.resolve (some anchor.year) false = .ok x ∧ v = x := by
  obtain ⟨hx, -, hadd, -⟩ := move_eq_ok_iff.mp h
  rw [Moment.add?_zero (DateFields.isLeap_of_resolve hx)] at hadd
  exact ⟨hx, (Option.some.inj hadd).symm⟩

theorem weekday_at_start {t : Text} {m : Located} {w : Weekday} {r : Text} {k : Surface}
    (hm : m.StandsIn k t) (htext : m.stamp.text = w.name.toList ++ r) :
    Weekday.at? m.start t = some w := by
  obtain ⟨lead, rest, rfl, hw, -⟩ := hm
  refine Weekday.at?_eq_some_iff.mpr ⟨lead, r ++ rest, ?_, hw⟩
  rw [htext, List.append_assoc]

/-- A stamp with its own moment in its place is the stamp with its weekday set right. -/
theorem replaces_weekday {t : Text} {m : Located} {k : Surface} (hm : m.StandsIn k t) {x : Moment}
    {context : Option Int} (hx : m.stamp.fields.resolve context false = .ok x) :
    let d : MovedDate := ⟨field, m.start, m.stop, x, m.stamp.style⟩
    Edit.Replaces m.start m.stamp.text (if d.Misnamed t then [d.weekdayEdit] else [])
      (m.stamp.render x) := by
  intro d
  have hsurface : d.style.surface = m.stamp.surface := m.stamp.surface_style
  rw [Stamp.render, Stamp.place_of_resolve hm.shaped hx]
  by_cases hk : m.stamp.surface = .ctime
  · obtain ⟨w, r, htext, hnew⟩ := Stamp.text_withWeekday hk
    have hnamed := weekday_at_start hm htext
    rw [htext, hnew]
    by_cases hright : w = x.date.weekday
    · have hd : ¬d.Misnamed t := by
        intro hwrong
        exact hwrong.2 (hright ▸ hnamed)
      rw [if_neg hd, hright]
      exact Edit.Replaces.done _ _
    · have hd : d.Misnamed t := by
        refine ⟨hsurface.trans hk, ?_⟩
        intro hsame
        exact hright (Option.some.inj (hnamed.symm.trans hsame))
      have hwidth : d.weekdayEdit.start + Text.width w.name.toList = d.weekdayEdit.stop := by
        rw [Text.width_weekdayName]
        rfl
      have hstart : m.start + Text.width [] = d.weekdayEdit.start := Nat.add_zero _
      rw [if_pos hd]
      exact Edit.Replaces.next hstart hwidth (Edit.Replaces.done _ r)
  · have hd : ¬d.Misnamed t := by
      intro hwrong
      exact hk (hsurface.symm.trans hwrong.1)
    rw [if_neg hd, Stamp.withWeekday_of_ne_ctime hk]
    exact Edit.Replaces.done _ _

theorem replaces_corrections (format : LogFormat) (t : Text) :
    Edit.Replaces 0 t (MovedDate.corrections t (movedOf field anchor ⟨0⟩ (locate format t)))
      (newText format field t anchor ⟨0⟩) := by
  have hmoved : Edit.Replaces 0 t (editsOf field anchor ⟨0⟩ (locate format t))
      (newText format field t anchor ⟨0⟩) := by
    rw [newText_eq]
    exact Edit.replaces_splice (fun e he => editsOf_fit he) (editsOf_apart format t)
  rw [MovedDate.corrections_eq_flatMap]
  apply hmoved.refine
  apply forall₂_editsOf
  intro m hm x v hmove kept old rest ht hstart hstop
  obtain ⟨hx, rfl⟩ := move_zero hmove
  obtain ⟨k, hstands⟩ := standsIn_of_mem_locate hm
  have hold : old = m.stamp.text := by
    obtain ⟨lead, rest', ht', hw, -⟩ := hstands
    rw [ht'] at ht
    have hlead : lead.width = kept.width := hw.trans (hstart.symm.trans (Nat.zero_add _))
    have hwidth : m.start + old.width = m.start + m.stamp.text.width := hstop
    obtain ⟨-, htail⟩ := Text.append_inj_of_width ht hlead
    exact (Text.append_inj_of_width htail (by omega)).1.symm
  rw [hold]
  exact replaces_weekday hstands hx

/-- Every full date names a weekday. -/
theorem named_of_mem_movedOf {delta : Span} {format : LogFormat} {t : Text} {d : MovedDate}
    (hd : d ∈ movedOf field anchor delta (locate format t)) (hk : d.style.surface = .ctime) :
    ∃ w, Weekday.at? d.start t = some w := by
  obtain ⟨m, hm, x, v, -, rfl⟩ := mem_movedOf hd
  obtain ⟨k, hstands⟩ := standsIn_of_mem_locate hm
  obtain ⟨w, r, htext, -⟩ := Stamp.text_withWeekday (m.stamp.surface_style.symm.trans hk)
  exact ⟨w, weekday_at_start hstands htext⟩

/-- Dates moved by nothing leave the text as it is exactly if each full date among them names the
weekday that it falls on. In any case the text keeps its length, and all that changes in it are the
three letters of the weekdays that are wrong. -/
theorem moveText_zero (format : LogFormat) (field : TextField) (t : Text) (anchor : Moment) :
    let w := moveText format field t anchor ⟨0⟩
    let u := w.text.getD t
    (u = t ↔ ∀ d ∈ w.outcome.moved, d.style.surface = .ctime →
      Weekday.at? d.start t = some d.value.date.weekday) ∧
    u.width = t.width ∧
    (∀ d ∈ w.outcome.moved, d.style.surface = .ctime → ∃ day, Weekday.at? d.start t = some day) ∧
    Edit.Replaces 0 t (MovedDate.corrections t w.outcome.moved) u := by
  intro w u
  have hcorrected : Edit.Replaces 0 t
      (MovedDate.corrections t (movedOf field anchor ⟨0⟩ (locate format t))) u :=
    replaces_corrections format t
  rw [show w.outcome = _ from moveText_outcome field anchor ⟨0⟩ format t]
  refine ⟨?_, hcorrected.width_eq MovedDate.corrections_keep, ?_, hcorrected⟩
  · rw [MovedDate.eq_iff_of_corrections hcorrected]
    simp only [MovedDate.Misnamed, not_and, not_not]
  · intro d hd hk
    exact named_of_mem_movedOf hd hk

end Embedded

end LogShift
