import LogShift.Proofs.Embedded.Locate
import Mathlib.Data.List.Forall2

/-! Moving the dates of a text: each located date is either replaced by its new text or reported,
and all bytes outside the replaced dates stay. -/
namespace LogShift

namespace Edit

/-- `u` is `t` with the bytes of each edit replaced and all others kept in their order; `offset` is
the byte at which `t` starts. -/
inductive Replaces : Nat → Text → List Edit → Text → Prop
  | done (offset : Nat) (t : Text) : Replaces offset t [] t
  | next {offset : Nat} {kept old t u : Text} {e : Edit} {es : List Edit}
      (hstart : offset + kept.width = e.start) (hstop : e.start + old.width = e.stop)
      (h : Replaces e.stop t es u) :
      Replaces offset (kept ++ (old ++ t)) (e :: es) (kept ++ (e.text ++ u))

/-- The edit takes out whole characters of a text that starts at byte `offset`. -/
def Fits (offset : Nat) (t : Text) (e : Edit) : Prop :=
  ∃ kept old rest, t = kept ++ (old ++ rest) ∧ offset + kept.width = e.start ∧
    e.start + old.width = e.stop

/-- What fits behind an edit still fits when the text is cut there. -/
theorem Fits.behind {offset : Nat} {kept old rest : Text} {e e' : Edit}
    (hstart : offset + kept.width = e.start) (hstop : e.start + old.width = e.stop)
    (h : e'.Fits offset (kept ++ (old ++ rest))) (hle : e.stop ≤ e'.start) :
    e'.Fits e.stop rest := by
  obtain ⟨kept', old', rest', ht, hstart', hstop'⟩ := h
  rw [← List.append_assoc] at ht
  obtain ⟨x, rfl, rfl⟩ := Text.append_eq_append_of_width_le ht (by
    rw [Text.width_append]
    omega)
  refine ⟨x, old', rest', rfl, ?_, hstop'⟩
  rw [Text.width_append, Text.width_append] at hstart'
  omega

theorem splice_next {offset : Nat} {kept old rest : Text} {e : Edit}
    (hstart : offset + kept.width = e.start) (hstop : e.start + old.width = e.stop)
    (es : List Edit) :
    splice offset (kept ++ (old ++ rest)) (e :: es) =
      kept ++ (e.text ++ splice e.stop rest es) := by
  have htake : (kept ++ (old ++ rest)).takeBytes (e.start - offset) = kept := by
    rw [show e.start - offset = kept.width by omega, Text.takeBytes_width_append]
  have hdrop : (kept ++ (old ++ rest)).dropBytes (e.stop - offset) = rest := by
    rw [show e.stop - offset = (kept ++ old).width by rw [Text.width_append]; omega,
      ← List.append_assoc, Text.dropBytes_width_append]
  rw [splice, htake, hdrop, List.append_assoc]

theorem replaces_splice {offset : Nat} {t : Text} {es : List Edit}
    (hfit : ∀ e ∈ es, e.Fits offset t) (hp : es.Pairwise fun a b => a.stop ≤ b.start) :
    Replaces offset t es (splice offset t es) := by
  induction es generalizing offset t with
  | nil => exact Replaces.done offset t
  | cons e es ih =>
    obtain ⟨hhead, htail⟩ := List.pairwise_cons.mp hp
    obtain ⟨kept, old, rest, rfl, hstart, hstop⟩ := hfit e (by simp)
    rw [splice_next hstart hstop]
    refine Replaces.next hstart hstop (ih ?_ htail)
    intro e' he'
    exact (hfit e' (by simp [he'])).behind hstart hstop (hhead e' he')

end Edit

namespace Embedded
open Located

variable {field : TextField} {anchor : Moment} {delta : Span}

theorem move_eq_ok_iff {s : Stamp} {x v : Moment} :
    move field anchor delta s = .ok (x, v) ↔
      s.fields.resolve (some anchor.year) false = .ok x ∧
      ¬(s.surface = .syslog ∧ field = .logline ∧ x ≠ anchor) ∧
      x.add? delta = some v ∧ 0 ≤ v.year ∧ v.year ≤ 9999 := by
  unfold move
  cases hr : s.fields.resolve (some anchor.year) false with
  | error e => simp [Except.mapError, bind, Except.bind]
  | ok y =>
    simp only [Except.mapError, bind, Except.bind, Except.ok.injEq]
    split
    · rename_i hc
      simp only [reduceCtorEq, false_iff]
      rintro ⟨rfl, hn, -⟩
      exact hn hc
    · rename_i hc
      cases ha : y.add? delta with
      | none =>
        simp only [reduceCtorEq, false_iff]
        rintro ⟨rfl, -, hadd, -⟩
        rw [ha] at hadd
        cases hadd
      | some z =>
        dsimp only
        split
        · rename_i hy
          constructor
          · intro h
            obtain ⟨rfl, rfl⟩ := Prod.mk.inj (Except.ok.inj h)
            exact ⟨rfl, hc, ha, hy⟩
          · rintro ⟨rfl, -, hadd, -⟩
            rw [ha] at hadd
            cases hadd
            rfl
        · rename_i hy
          simp only [reduceCtorEq, false_iff]
          rintro ⟨rfl, -, hadd, hv⟩
          rw [ha] at hadd
          cases hadd
          exact hy hv

theorem moveLocated_eq_ok {m : Located} {e : Edit} {d : MovedDate}
    (h : moveLocated field anchor delta m = .ok (e, d)) :
    ∃ x v, move field anchor delta m.stamp = .ok (x, v) ∧
      e = ⟨m.start, m.stop, m.stamp.render v⟩ ∧ d = ⟨field, m.start, m.stop, x, m.stamp.style⟩ := by
  unfold moveLocated at h
  split at h
  · rename_i x v hmove
    obtain ⟨rfl, rfl⟩ := Prod.mk.inj (Except.ok.inj h)
    exact ⟨x, v, hmove, rfl, rfl⟩
  · cases h

theorem moveLocated_eq_error {m : Located} {a : AmbiguousDate}
    (h : moveLocated field anchor delta m = .error a) :
    move field anchor delta m.stamp = .error a.reason ∧
      a = ⟨field, m.start, m.stamp.surface, m.stamp.text, a.reason⟩ := by
  unfold moveLocated at h
  split at h
  · cases h
  · rename_i reason hmove
    cases h
    exact ⟨hmove, rfl⟩

section
variable (field anchor delta)

/-- The new texts of the dates that can be moved. -/
def editsOf (ms : List Located) : List Edit :=
  ms.filterMap fun m => (moveLocated field anchor delta m).toOption.map Prod.fst

/-- The accounts of the dates that can be moved. -/
def movedOf (ms : List Located) : List MovedDate :=
  ms.filterMap fun m => (moveLocated field anchor delta m).toOption.map Prod.snd

/-- The dates that are left in place. -/
def ambiguousOf (ms : List Located) : List AmbiguousDate :=
  ms.filterMap fun m => match moveLocated field anchor delta m with
    | .error a => some a
    | .ok _ => none

theorem moveText_text (format : LogFormat) (t : Text) :
    (moveText format field t anchor delta).text =
      if (editsOf field anchor delta (locate format t)).isEmpty then none
      else some (Edit.splice 0 t (editsOf field anchor delta (locate format t))) := by
  simp only [moveText, editsOf, List.filterMap_map]
  rfl

theorem moveText_outcome (format : LogFormat) (t : Text) :
    (moveText format field t anchor delta).outcome =
      ⟨(movedOf field anchor delta (locate format t)).length,
        movedOf field anchor delta (locate format t),
        ambiguousOf field anchor delta (locate format t)⟩ := by
  have hcount : ((locate format t).map fun m => (m, moveLocated field anchor delta m)).countP
      (fun p => p.2.toOption.isSome) =
      (movedOf field anchor delta (locate format t)).length := by
    rw [List.countP_map, movedOf, List.length_filterMap_eq_countP]
    congr 1
    funext m
    simp
  rw [← hcount]
  simp only [moveText, movedOf, ambiguousOf, List.filterMap_map]
  rfl

end

/-- The edit puts the moved value of a located date in the looks of that date. -/
def Renders (format : LogFormat) (t : Text) (anchor : Moment) (delta : Span) (d : MovedDate)
    (e : Edit) : Prop :=
  e.start = d.start ∧ e.stop = d.stop ∧ ∃ m v, IsDate format t m ∧ m.start = d.start ∧
    m.stop = d.stop ∧ m.stamp.fields.resolve (some anchor.year) false = .ok d.value ∧
    d.value.add? delta = some v ∧ e.text = m.stamp.render v

/-- The accounts and the new texts of the moved dates go together. -/
theorem forall₂_editsOf {R : MovedDate → Edit → Prop} {ms : List Located}
    (h : ∀ m ∈ ms, ∀ x v, move field anchor delta m.stamp = .ok (x, v) →
      R ⟨field, m.start, m.stop, x, m.stamp.style⟩ ⟨m.start, m.stop, m.stamp.render v⟩) :
    List.Forall₂ R (movedOf field anchor delta ms) (editsOf field anchor delta ms) := by
  induction ms with
  | nil => exact List.Forall₂.nil
  | cons m ms ih =>
    have ih := ih fun m' hm' => h m' (by simp [hm'])
    cases hr : moveLocated field anchor delta m with
    | error a => simpa [movedOf, editsOf, hr, Except.toOption] using ih
    | ok p =>
      obtain ⟨e, d⟩ := p
      obtain ⟨x, v, hmove, rfl, rfl⟩ := moveLocated_eq_ok hr
      have hhead := h m (by simp) x v hmove
      simpa [movedOf, editsOf, hr, Except.toOption] using ⟨hhead, ih⟩

theorem renders_editsOf {format : LogFormat} {t : Text} {ms : List Located}
    (h : ∀ m ∈ ms, IsDate format t m) :
    List.Forall₂ (Renders format t anchor delta) (movedOf field anchor delta ms)
      (editsOf field anchor delta ms) := by
  apply forall₂_editsOf
  intro m hm x v hmove
  obtain ⟨hx, -, hv, -⟩ := move_eq_ok_iff.mp hmove
  exact ⟨rfl, rfl, m, v, h m hm, rfl, rfl, hx, hv, rfl⟩

/-- Each date goes to one of the two lists. -/
theorem spans_perm (ms : List Located) :
    ((movedOf field anchor delta ms).map (fun d => (d.start, d.stop)) ++
      (ambiguousOf field anchor delta ms).map fun a => (a.offset, a.offset + a.text.width)).Perm
      (ms.map fun m => (m.start, m.stop)) := by
  induction ms with
  | nil => exact List.Perm.refl _
  | cons m ms ih =>
    cases hr : moveLocated field anchor delta m with
    | error a =>
      obtain ⟨-, ha⟩ := moveLocated_eq_error hr
      have hspan : (a.offset, a.offset + a.text.width) = (m.start, m.stop) := by
        rw [ha]
        rfl
      have hmoved : movedOf field anchor delta (m :: ms) = movedOf field anchor delta ms := by
        simp [movedOf, hr, Except.toOption]
      have hambiguous : ambiguousOf field anchor delta (m :: ms) =
          a :: ambiguousOf field anchor delta ms := by
        simp [ambiguousOf, hr]
      rw [hmoved, hambiguous, List.map_cons, List.map_cons, hspan]
      exact List.perm_middle.trans (ih.cons _)
    | ok p =>
      obtain ⟨e, d⟩ := p
      obtain ⟨x, v, -, -, rfl⟩ := moveLocated_eq_ok hr
      have hmoved : movedOf field anchor delta (m :: ms) =
          ⟨field, m.start, m.stop, x, m.stamp.style⟩ :: movedOf field anchor delta ms := by
        simp [movedOf, hr, Except.toOption]
      have hambiguous : ambiguousOf field anchor delta (m :: ms) =
          ambiguousOf field anchor delta ms := by
        simp [ambiguousOf, hr]
      rw [hmoved, hambiguous, List.map_cons, List.cons_append]
      exact ih.cons _

theorem edit_of_moveLocated {m : Located} {e : Edit}
    (h : (moveLocated field anchor delta m).toOption.map Prod.fst = some e) :
    ∃ x v, move field anchor delta m.stamp = .ok (x, v) ∧
      e = ⟨m.start, m.stop, m.stamp.render v⟩ := by
  cases hr : moveLocated field anchor delta m with
  | error a => simp [hr, Except.toOption] at h
  | ok p =>
    obtain ⟨x, v, hmove, hp, -⟩ := moveLocated_eq_ok (e := p.1) (d := p.2) hr
    simp only [hr, Except.toOption, Option.map_some, Option.some.injEq] at h
    exact ⟨x, v, hmove, h ▸ hp⟩

theorem moved_of_moveLocated {m : Located} {d : MovedDate}
    (h : (moveLocated field anchor delta m).toOption.map Prod.snd = some d) :
    ∃ x v, move field anchor delta m.stamp = .ok (x, v) ∧
      d = ⟨field, m.start, m.stop, x, m.stamp.style⟩ := by
  cases hr : moveLocated field anchor delta m with
  | error a => simp [hr, Except.toOption] at h
  | ok p =>
    obtain ⟨x, v, hmove, -, hp⟩ := moveLocated_eq_ok (e := p.1) (d := p.2) hr
    simp only [hr, Except.toOption, Option.map_some, Option.some.injEq] at h
    exact ⟨x, v, hmove, h ▸ hp⟩

theorem mem_editsOf {ms : List Located} {e : Edit} (h : e ∈ editsOf field anchor delta ms) :
    ∃ m ∈ ms, ∃ x v, move field anchor delta m.stamp = .ok (x, v) ∧
      e = ⟨m.start, m.stop, m.stamp.render v⟩ := by
  obtain ⟨m, hm, he⟩ := List.mem_filterMap.mp h
  exact ⟨m, hm, edit_of_moveLocated he⟩

theorem mem_movedOf {ms : List Located} {d : MovedDate} (h : d ∈ movedOf field anchor delta ms) :
    ∃ m ∈ ms, ∃ x v, move field anchor delta m.stamp = .ok (x, v) ∧
      d = ⟨field, m.start, m.stop, x, m.stamp.style⟩ := by
  obtain ⟨m, hm, hd⟩ := List.mem_filterMap.mp h
  exact ⟨m, hm, moved_of_moveLocated hd⟩

theorem fits_of_mem_locate {format : LogFormat} {t : Text} {m : Located}
    (hm : m ∈ locate format t) (new : Text) : Edit.Fits 0 t ⟨m.start, m.stop, new⟩ := by
  obtain ⟨k, lead, rest, rfl, hw, -⟩ := standsIn_of_mem_locate hm
  exact ⟨lead, m.stamp.text, rest, rfl, (Nat.zero_add _).trans hw, rfl⟩

theorem editsOf_fit {format : LogFormat} {t : Text} {e : Edit}
    (h : e ∈ editsOf field anchor delta (locate format t)) : e.Fits 0 t := by
  obtain ⟨m, hm, x, v, -, rfl⟩ := mem_editsOf h
  exact fits_of_mem_locate hm _

theorem editsOf_apart (format : LogFormat) (t : Text) :
    (editsOf field anchor delta (locate format t)).Pairwise fun a b => a.stop ≤ b.start := by
  rw [editsOf, List.pairwise_filterMap]
  refine (locate_apart format t).imp ?_
  intro a b hab e he e' he'
  obtain ⟨-, -, -, rfl⟩ := edit_of_moveLocated he
  obtain ⟨-, -, -, rfl⟩ := edit_of_moveLocated he'
  exact hab

theorem locate_sorted (format : LogFormat) (t : Text) :
    (locate format t).Pairwise fun a b => a.start < b.start := by
  refine (locate_apart format t).imp_of_mem ?_
  intro a b ha hb hab
  obtain ⟨k, hk⟩ := standsIn_of_mem_locate ha
  have := start_lt_stop hk.shaped
  omega

theorem movedOf_sorted (format : LogFormat) (t : Text) :
    (movedOf field anchor delta (locate format t)).Pairwise fun a b => a.start < b.start := by
  rw [movedOf, List.pairwise_filterMap]
  refine (locate_sorted format t).imp ?_
  intro a b hab d hd d' hd'
  obtain ⟨-, -, -, rfl⟩ := moved_of_moveLocated hd
  obtain ⟨-, -, -, rfl⟩ := moved_of_moveLocated hd'
  exact hab

theorem mem_ambiguousOf_iff {ms : List Located} {a : AmbiguousDate} :
    a ∈ ambiguousOf field anchor delta ms ↔
      ∃ m ∈ ms, moveLocated field anchor delta m = .error a := by
  rw [ambiguousOf, List.mem_filterMap]
  refine exists_congr fun m => and_congr_right fun _ => ?_
  cases moveLocated field anchor delta m <;> simp

theorem ambiguousOf_eq_nil_iff {ms : List Located} : ambiguousOf field anchor delta ms = [] ↔
    ∀ m ∈ ms, ∃ x v, move field anchor delta m.stamp = .ok (x, v) := by
  constructor
  · intro h m hm
    cases hmove : move field anchor delta m.stamp with
    | ok p => exact ⟨p.1, p.2, rfl⟩
    | error reason =>
      have herror : moveLocated field anchor delta m =
          .error ⟨field, m.start, m.stamp.surface, m.stamp.text, reason⟩ := by
        unfold moveLocated
        rw [hmove]
      have hmem := mem_ambiguousOf_iff.mpr ⟨m, hm, herror⟩
      rw [h] at hmem
      cases hmem
  · intro h
    apply List.eq_nil_iff_forall_not_mem.mpr
    intro a ha
    obtain ⟨m, hm, herror⟩ := mem_ambiguousOf_iff.mp ha
    obtain ⟨x, v, hmove⟩ := h m hm
    rw [(moveLocated_eq_error herror).1] at hmove
    cases hmove

theorem field_of_mem_ambiguous {format : LogFormat} {t : Text} {a : AmbiguousDate}
    (h : a ∈ (moveText format field t anchor delta).outcome.ambiguous) : a.field = field := by
  rw [moveText_outcome] at h
  obtain ⟨m, -, hm⟩ := mem_ambiguousOf_iff.mp h
  rw [(moveLocated_eq_error hm).2]

theorem ambiguousOf_sorted (format : LogFormat) (t : Text) :
    (ambiguousOf field anchor delta (locate format t)).Pairwise fun a b => a.offset < b.offset := by
  have hoffset : ∀ {m : Located} {a : AmbiguousDate},
      (match moveLocated field anchor delta m with
        | .error a => some a
        | .ok _ => none) = some a → a.offset = m.start := by
    intro m a h
    split at h
    · rename_i a' hr
      cases h
      rw [(moveLocated_eq_error hr).2]
    · cases h
  rw [ambiguousOf, List.pairwise_filterMap]
  refine (locate_sorted format t).imp ?_
  intro a b hab x hx y hy
  rw [hoffset hx, hoffset hy]
  exact hab

/-- Moving the dates of a text changes the located dates and nothing else. They stand apart from
each other; each is accounted for once, as moved or as left in place; and the new text, if there is
one, has the moved dates in their new form and every other byte as it was. -/
theorem moveText_frame (format : LogFormat) (field : TextField) (t : Text) (anchor : Moment)
    (delta : Span) :
    let w := moveText format field t anchor delta
    (∀ m, m ∈ locate format t ↔ IsDate format t m) ∧
    ((locate format t).Pairwise fun a b => a.stop ≤ b.start) ∧
    (w.outcome.moved.map (fun d => (d.start, d.stop)) ++
      w.outcome.ambiguous.map fun a => (a.offset, a.offset + a.text.width)).Perm
      ((locate format t).map fun m => (m.start, m.stop)) ∧
    (w.outcome.moved.Pairwise fun a b => a.start < b.start) ∧
    (w.outcome.ambiguous.Pairwise fun a b => a.offset < b.offset) ∧
    w.outcome.movedDates = w.outcome.moved.length ∧
    (w.text = none ↔ w.outcome.movedDates = 0) ∧
    ∀ u, w.text = some u → ∃ edits,
      List.Forall₂ (Renders format t anchor delta) w.outcome.moved edits ∧
      Edit.Replaces 0 t edits u := by
  intro w
  have hrenders : List.Forall₂ (Renders format t anchor delta)
      (movedOf field anchor delta (locate format t))
      (editsOf field anchor delta (locate format t)) :=
    renders_editsOf fun m hm => mem_locate_iff.mp hm
  have htext := moveText_text field anchor delta format t
  rw [show w.outcome = _ from moveText_outcome field anchor delta format t,
    show w.text = _ from htext]
  refine ⟨fun m => mem_locate_iff, locate_apart format t, spans_perm _, movedOf_sorted format t,
    ambiguousOf_sorted format t, rfl, ?_, ?_⟩
  · simp [hrenders.length_eq]
  · intro u hu
    refine ⟨_, hrenders, ?_⟩
    split at hu
    · cases hu
    · cases hu
      exact Edit.replaces_splice (fun e he => editsOf_fit he) (editsOf_apart format t)

end Embedded

end LogShift
