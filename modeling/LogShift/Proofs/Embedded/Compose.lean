import LogShift.Proofs.Calendar.Range
import LogShift.Proofs.Embedded.Header
import LogShift.Proofs.Embedded.Relocate
import LogShift.Proofs.Stamp.Place

/-! Shifts of a line compose. Dates of fixed width are found again where they were, show the moments
that they were moved to, and can then be moved on. -/
namespace LogShift.Embedded
open Located

section Clean

variable {field : TextField} {anchor : Moment} {delta : Span} {ms : List Located}

variable (field anchor delta) in
/-- The date with its moved value in its place. -/
def redate (m : Located) : Located :=
  match move field anchor delta m.stamp with
  | .ok (_, v) => ⟨m.start, m.stamp.place v⟩
  | .error _ => m

theorem redate_of_move {m : Located} {x v : Moment}
    (h : move field anchor delta m.stamp = .ok (x, v)) :
    redate field anchor delta m = ⟨m.start, m.stamp.place v⟩ := by
  unfold redate
  rw [h]

/-- If all dates can be moved, each gets a new date in its place. -/
theorem editsOf_eq_restamp (h : ∀ m ∈ ms, ∃ x v, move field anchor delta m.stamp = .ok (x, v)) :
    editsOf field anchor delta ms = restamp (redate field anchor delta) ms := by
  induction ms with
  | nil => rfl
  | cons m ms ih =>
    obtain ⟨x, v, hmove⟩ := h m List.mem_cons_self
    have hm : moveLocated field anchor delta m =
        .ok (⟨m.start, m.stop, m.stamp.render v⟩, ⟨field, m.start, m.stop, x, m.stamp.style⟩) := by
      unfold moveLocated
      rw [hmove]
    have hrest := ih fun m' hm' => h m' (List.mem_cons_of_mem _ hm')
    rw [restamp, List.map_cons, redate_of_move hmove, ← restamp, ← hrest]
    simp [editsOf, hm, Except.toOption, Stamp.render]

theorem restamps_redate {k : Surface} {t : Text} {m : Located} (hm : m.StandsIn k t)
    (hpad : m.stamp.style.pad ≠ .none) {x v : Moment}
    (h : move field anchor delta m.stamp = .ok (x, v)) :
    Restamps m (redate field anchor delta m) := by
  obtain ⟨-, -, -, hy⟩ := move_eq_ok_iff.mp h
  rw [redate_of_move h]
  refine ⟨rfl, ?_, Stamp.place_surface _ _, Stamp.place_shaped hm.shaped fun _ => hy⟩
  have hwidth := (Stamp.width_render hm.shaped (v := v) fun _ => hy).1 hpad
  show m.start + (m.stamp.place v).text.width = m.start + m.stamp.text.width
  rw [← hwidth, Stamp.render]

theorem newText_eq_restamp {format : LogFormat} {t : Text}
    (h : ∀ m ∈ locate format t, ∃ x v, move field anchor delta m.stamp = .ok (x, v)) :
    newText format field t anchor delta =
      Edit.splice 0 t (restamp (redate field anchor delta) (locate format t)) := by
  rw [newText_eq, editsOf_eq_restamp h]

end Clean

/-- The stamps of located dates show the unit of the format. -/
theorem unit_of_mem_locate {format : LogFormat} {t : Text} {m : Located}
    (h : m ∈ locate format t) : m.stamp.surface.unit = format.unit := by
  rw [mem_locate_iff] at h
  cases format with
  | apache =>
    rw [(at?_start_iff.mp h.1.1).surface_eq]
    rfl
  | hadoop =>
    rw [(at?_start_iff.mp h.1).surface_eq]
    rfl
  | openssh =>
    rw [(at?_start_iff.mp h.1).surface_eq]
    rfl
  | linux =>
    rcases h with h | h
    · rw [(at?_eq_some_iff.mp h).2.surface_eq]
      rfl
    · rw [(at?_start_iff.mp h).surface_eq]
      rfl

section Compose

variable {format : LogFormat} {t : Text} {a a' : Moment} {d₁ d₂ : Span}

/-- A date that was moved by whole units is moved on from there. Without a year it is the anchor,
and so the moved date is the moved anchor. -/
theorem move_move {s : Stamp} (hunit : s.surface.unit = format.unit)
    (hwhole : (format.unit : Int) ∣ d₁.nanos) (ha : a.add? d₁ = some a') {x v x' w : Moment}
    (h₁ : move .logline a d₁ s = .ok (x, v))
    (h₂ : move .logline a ⟨d₁.nanos + d₂.nanos⟩ s = .ok (x', w)) :
    move .logline a' d₂ (s.place v) = .ok (v, w) := by
  obtain ⟨hx, hanchor, hv, -⟩ := move_eq_ok_iff.mp h₁
  obtain ⟨hx', -, hw, hy⟩ := move_eq_ok_iff.mp h₂
  obtain rfl : x = x' := Except.ok.inj (hx.symm.trans hx')
  have hshows := LogFormat.shows_of_resolve hunit hx
  have hshown := hshows.add? hwhole hv
  have hsame : s.surface = .syslog → v = a' := by
    intro hk
    have hxa : x = a := by
      by_contra hne
      exact hanchor ⟨hk, rfl, hne⟩
    rw [hxa, ha] at hv
    exact (Option.some.inj hv).symm
  have hcontext : s.surface.hasYear = true ∨ some a'.year = some v.year := by
    cases hk : s.surface with
    | syslog => exact Or.inr (by rw [hsame hk])
    | ctime => exact Or.inl rfl
    | iso => exact Or.inl rfl
  have hresolve : (s.place v).fields.resolve (some a'.year) false = .ok v := by
    rw [Stamp.resolve_place hshown.1 hcontext, hshown.cut_eq hunit]
  have hon : v.add? d₂ = some w := by
    obtain ⟨-, hvi⟩ := (Moment.add?_eq_some_iff hshows.1).mp hv
    obtain ⟨hleap, hwi⟩ := (Moment.add?_eq_some_iff hshows.1).mp hw
    apply (Moment.add?_eq_some_iff hshown.1).mpr ⟨hleap, ?_⟩
    rw [hwi, hvi, Int.add_assoc]
  refine move_eq_ok_iff.mpr ⟨hresolve, ?_, hon, hy⟩
  rw [Stamp.place_surface]
  intro hwrong
  exact hwrong.2.2 (hsame hwrong.1)

theorem redate_redate {m : Located} (hm : m ∈ locate format t)
    (hpad : m.stamp.surface = .iso ∨ m.stamp.style.pad = .space)
    (hwhole : (format.unit : Int) ∣ d₁.nanos) (ha : a.add? d₁ = some a') {x v x' w : Moment}
    (h₁ : move .logline a d₁ m.stamp = .ok (x, v))
    (h₂ : move .logline a ⟨d₁.nanos + d₂.nanos⟩ m.stamp = .ok (x', w)) :
    move .logline a' d₂ (redate .logline a d₁ m).stamp = .ok (v, w) ∧
      redate .logline a' d₂ (redate .logline a d₁ m) =
        redate .logline a ⟨d₁.nanos + d₂.nanos⟩ m := by
  obtain ⟨k, hstands⟩ := standsIn_of_mem_locate hm
  have hon : move .logline a' d₂ (redate .logline a d₁ m).stamp = .ok (v, w) := by
    rw [redate_of_move h₁]
    exact move_move (unit_of_mem_locate hm) hwhole ha h₁ h₂
  refine ⟨hon, ?_⟩
  rw [redate_of_move hon, redate_of_move h₁, redate_of_move h₂]
  dsimp only
  rw [Stamp.place_place hstands.shaped hpad]

/-- Moving a line and then the result is moving it once. The dates are those in ISO form or padded
with spaces, the first shift is by whole units of the format, and no date stays in place. -/
theorem moveText_moveText (hwhole : (format.unit : Int) ∣ d₁.nanos) (ha : a.add? d₁ = some a')
    (hpad : ∀ m ∈ locate format t, m.stamp.surface = .iso ∨ m.stamp.style.pad = .space)
    (h₁ : (moveText format .logline t a d₁).outcome.ambiguous = [])
    (h₂ : (moveText format .logline t a ⟨d₁.nanos + d₂.nanos⟩).outcome.ambiguous = []) :
    let u := (moveText format .logline t a d₁).text.getD t
    let twice := moveText format .logline u a' d₂
    twice.outcome.ambiguous = [] ∧
      twice.text.getD u = (moveText format .logline t a ⟨d₁.nanos + d₂.nanos⟩).text.getD t := by
  intro u twice
  let g := redate .logline a d₁
  let g' := redate .logline a ⟨d₁.nanos + d₂.nanos⟩
  rw [moveText_outcome] at h₁ h₂
  have hmove := ambiguousOf_eq_nil_iff.mp h₁
  have hmove' := ambiguousOf_eq_nil_iff.mp h₂
  have hg : ∀ m ∈ locate format t, Restamps m (g m) := by
    intro m hm
    obtain ⟨k, hstands⟩ := standsIn_of_mem_locate hm
    obtain ⟨x, v, hv⟩ := hmove m hm
    exact restamps_redate hstands (Stamp.pad_ne_none (hpad m hm)) hv
  have hu : u = Edit.splice 0 t (restamp g (locate format t)) := newText_eq_restamp hmove
  have hlocate : locate format u = (locate format t).map g := by
    rw [hu]
    exact locate_restamp hg
  have hclean : ∀ m ∈ locate format u, ∃ x v, move .logline a' d₂ m.stamp = .ok (x, v) := by
    intro m' hm'
    rw [hlocate] at hm'
    obtain ⟨m, hm, rfl⟩ := List.mem_map.mp hm'
    obtain ⟨x, v, hv⟩ := hmove m hm
    obtain ⟨x', w, hw⟩ := hmove' m hm
    exact ⟨v, w, (redate_redate hm (hpad m hm) hwhole ha hv hw).1⟩
  have hedits : restamp (redate .logline a' d₂) (locate format u) = restamp g' (locate format t) := by
    rw [hlocate]
    apply restamp_map hg
    intro m hm
    obtain ⟨x, v, hv⟩ := hmove m hm
    obtain ⟨x', w, hw⟩ := hmove' m hm
    exact (redate_redate hm (hpad m hm) hwhole ha hv hw).2
  refine ⟨?_, ?_⟩
  · rw [show twice.outcome = _ from moveText_outcome .logline a' d₂ format u]
    exact ambiguousOf_eq_nil_iff.mpr hclean
  · calc twice.text.getD u
        = Edit.splice 0 u (restamp (redate .logline a' d₂) (locate format u)) :=
          newText_eq_restamp hclean
      _ = Edit.splice 0 u (restamp g' (locate format t)) := by rw [hedits]
      _ = Edit.splice 0 t (restamp g' (locate format t)) := by rw [hu, splice_restamp hg]
      _ = (moveText format .logline t a ⟨d₁.nanos + d₂.nanos⟩).text.getD t :=
          (newText_eq_restamp hmove').symm

/-- From the last day of a year to the first of the next, and on to the tenth: the stamp takes the
new year from its anchor, and the full date behind it shows it. -/
theorem moveText_moveText_newYear :
    let t : Text := "Dec 31 23:59:58 h s: Sat Dec 31 23:59:58 2005".toList
    let a : Moment := ⟨⟨2005, 12, 31, by decide, by decide, by decide⟩,
      ⟨86398, 0, by decide, by decide, by decide⟩⟩
    let a' : Moment := ⟨⟨2006, 1, 1, by decide, by decide, by decide⟩,
      ⟨0, 0, by decide, by decide, by decide⟩⟩
    let d₁ : Span := ⟨2000000000⟩
    let d₂ : Span := ⟨777600000000000⟩
    let u := (moveText .linux .logline t a d₁).text.getD t
    u = "Jan  1 00:00:00 h s: Sun Jan  1 00:00:00 2006".toList ∧
      (moveText .linux .logline u a' d₂).outcome.ambiguous = [] ∧
      (moveText .linux .logline u a' d₂).text.getD u =
        (moveText .linux .logline t a ⟨d₁.nanos + d₂.nanos⟩).text.getD t := by
  intro t a a' d₁ d₂ u
  exact ⟨by decide +kernel, moveText_moveText (by decide) (by decide +kernel) (by decide +kernel)
    (by decide +kernel) (by decide +kernel)⟩

end Compose

end LogShift.Embedded
