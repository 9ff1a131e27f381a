import LogShift.Proofs.Embedded.Replace
import LogShift.Proofs.Stamp.Apart
import Mathlib.Data.List.Pairwise
import Mathlib.Data.List.Sort

/-! Dates put in the places of the located ones are located there again: no date comes up beside
them, since stamps stand apart from each other and all other bytes are as before. -/
namespace LogShift

namespace Located

variable {k : Surface} {t : Text} {a m : Located}

theorem at?_start_iff : at? k m.start t = some m ↔ m.StandsIn k t := by
  rw [at?_eq_some_iff]
  exact ⟨And.right, fun h => ⟨rfl, h⟩⟩

theorem standsIn_append (hs : m.stamp.Shaped) {lead rest : Text} (hw : lead.width = m.start)
    (hrest : m.stamp.surface = .iso → rest.head?.any Char.isDigit = false) :
    m.StandsIn m.stamp.surface (lead ++ (m.stamp.text ++ rest)) :=
  ⟨lead, rest, rfl, hw, Stamp.read?_eq_some_iff.mpr ⟨rfl, hs, rfl, hrest⟩⟩

/-- A stamp at the front of a text stands there whatever follows; one in ISO form needs the byte
behind it. -/
theorem StandsIn.of_front {lead b : Text} (h : a.StandsIn k (lead ++ b))
    (hstop : a.stop ≤ lead.width) (hiso : k = .iso → a.stop < lead.width) (b' : Text) :
    a.StandsIn k (lead ++ b') := by
  obtain ⟨l, r, ht, hl, hread⟩ := h
  obtain ⟨hk, hs, -, hrest⟩ := Stamp.read?_eq_some_iff.mp hread
  have hwidth : (l ++ a.stamp.text).width = a.stop := by rw [Text.width_append, hl, stop]
  rw [← List.append_assoc] at ht
  obtain ⟨z, rfl, rfl⟩ := Text.append_eq_append_of_width_le ht.symm (by omega)
  refine ⟨l, z ++ b', by simp, hl, Stamp.read?_eq_some_iff.mpr ⟨hk, hs, rfl, ?_⟩⟩
  intro hki
  have hgap := hiso hki
  rw [Text.width_append, hwidth] at hgap
  cases z with
  | nil =>
    rw [Text.width_nil] at hgap
    omega
  | cons c z => exact hrest hki

end Located

namespace Embedded
open Located

/-- Another date of the same surface in the place of `m`. -/
structure Restamps (m m' : Located) : Prop where
  start_eq : m'.start = m.start
  stop_eq : m'.stop = m.stop
  surface_eq : m'.stamp.surface = m.stamp.surface
  shaped : m'.stamp.Shaped

/-- The edits that put a date in the place of each located one. -/
def restamp (g : Located → Located) (ms : List Located) : List Edit :=
  ms.map fun m => ⟨m.start, m.stop, (g m).stamp.text⟩

section Single

variable {k : Surface} {t lead rest : Text} {m m' a : Located}

/-- Two texts that differ in one date. -/
theorem restamp_standsIn (hm : m.StandsIn k t) (h : Restamps m m') :
    ∃ lead rest, t = lead ++ (m.stamp.text ++ rest) ∧
      Edit.splice 0 t [⟨m.start, m.stop, m'.stamp.text⟩] = lead ++ (m'.stamp.text ++ rest) ∧
      lead.width = m'.start ∧ m'.StandsIn k (lead ++ (m'.stamp.text ++ rest)) := by
  have hk : m'.stamp.surface = k := h.surface_eq.trans hm.surface_eq
  obtain ⟨lead, rest, rfl, hw, hread⟩ := hm
  have hrest := (Stamp.read?_eq_some_iff.mp hread).2.2.2
  have hlead : lead.width = m'.start := hw.trans h.start_eq.symm
  refine ⟨lead, rest, rfl, ?_, hlead, ?_⟩
  · rw [Edit.splice_next ((Nat.zero_add _).trans hw) rfl]
    rfl
  · subst hk
    exact standsIn_append h.shaped hlead hrest

theorem standsIn_of_earlier (hm' : m'.StandsIn k (lead ++ (m'.stamp.text ++ rest)))
    (hw : lead.width = m'.start) (ha : a.StandsIn k (lead ++ (m'.stamp.text ++ rest)))
    (hlt : a.start < m'.start) (b : Text) : a.StandsIn k (lead ++ b) := by
  apply ha.of_front
  · rw [hw]
    exact stop_le_start ha hm' hlt
  · intro hk
    subst hk
    rw [hw]
    exact iso_stop_lt_start ha hm' hlt

theorem isFirst_restamp (h : IsFirst (fun m => at? k m.start t = some m) m) (hr : Restamps m m') :
    IsFirst (fun a => at? k a.start (Edit.splice 0 t [⟨m.start, m.stop, m'.stamp.text⟩]) = some a)
      m' := by
  obtain ⟨hm, hfirst⟩ := h
  obtain ⟨lead, rest, rfl, hu, hw, hm'⟩ := restamp_standsIn (at?_start_iff.mp hm) hr
  rw [hu]
  refine ⟨at?_start_iff.mpr hm', ?_⟩
  intro a ha
  by_contra hlt
  have hold := standsIn_of_earlier hm' hw (at?_start_iff.mp ha) (by omega) (m.stamp.text ++ rest)
  have hle := hfirst a (at?_start_iff.mpr hold)
  have hstart := hr.start_eq
  omega

theorem EnclosedIn.of_front {b : Text} (h : EnclosedIn (lead ++ b) a) (hstop : a.stop < lead.width)
    (b' : Text) : EnclosedIn (lead ++ b') a := by
  obtain ⟨l, r, ht, hl⟩ := h
  have hsplit : (l ++ '[' :: (a.stamp.text ++ [']'])) ++ r = lead ++ b := by
    rw [ht]
    simp
  have hwidth : (l ++ '[' :: (a.stamp.text ++ [']'])).width = a.stop + 1 := by
    have hopen : ('[' : Char).utf8Size = 1 := rfl
    have hclose : (']' : Char).utf8Size = 1 := rfl
    rw [Text.width_append, Text.width_cons, Text.width_append, Text.width_cons, Text.width_nil,
      hopen, hclose, stop]
    omega
  obtain ⟨z, rfl, -⟩ := Text.append_eq_append_of_width_le hsplit (by omega)
  exact ⟨l, z ++ b', by simp, hl⟩

/-- Right behind a date in brackets no full date can start. -/
theorem EnclosedIn.stop_ne {s : Stamp} (h : EnclosedIn (lead ++ (s.text ++ rest)) a)
    (hs : s.surface = .ctime) : a.stop ≠ lead.width := by
  intro hstop
  obtain ⟨l, r, ht, hl⟩ := h
  obtain ⟨w, u, hu⟩ := Stamp.ctime_text_eq hs
  obtain ⟨p, q, e, hp, hupper, -⟩ := w.name_eq
  have hsplit : lead ++ (s.text ++ rest) = (l ++ '[' :: a.stamp.text) ++ ']' :: r := by
    rw [ht]
    simp
  have hopen : ('[' : Char).utf8Size = 1 := rfl
  obtain ⟨-, hbehind⟩ := Text.append_inj_of_width hsplit (by
    rw [Text.width_append, Text.width_cons, hopen, ← hstop, stop]
    omega)
  have hc : p = ']' := by
    rw [hu, hp] at hbehind
    exact (List.cons_eq_cons.mp hbehind).1
  rw [hc] at hupper
  exact absurd hupper (by decide)

theorem isFirst_restamp_enclosed
    (h : IsFirst (fun m => at? .ctime m.start t = some m ∧ EnclosedIn t m) m)
    (hr : Restamps m m') :
    IsFirst (fun a => at? .ctime a.start (Edit.splice 0 t [⟨m.start, m.stop, m'.stamp.text⟩]) =
      some a ∧ EnclosedIn (Edit.splice 0 t [⟨m.start, m.stop, m'.stamp.text⟩]) a) m' := by
  obtain ⟨⟨hm, hclosed⟩, hfirst⟩ := h
  obtain ⟨lead, rest, rfl, hu, hw, hm'⟩ := restamp_standsIn (at?_start_iff.mp hm) hr
  rw [hu]
  have hstart := hr.start_eq
  refine ⟨⟨at?_start_iff.mpr hm', ?_⟩, ?_⟩
  · obtain ⟨l, r, ht, hl⟩ := hclosed
    have hopen : ('[' : Char).utf8Size = 1 := rfl
    have hsplit : lead ++ (m.stamp.text ++ rest) = (l ++ ['[']) ++ (m.stamp.text ++ ']' :: r) := by
      rw [ht]
      simp
    obtain ⟨rfl, htail⟩ := Text.append_inj_of_width hsplit (by
      rw [Text.width_append, Text.width_cons, Text.width_nil, hopen]
      omega)
    rw [List.append_cancel_left htail]
    exact ⟨l, r, by simp, by omega⟩
  · intro a ha
    obtain ⟨ha, hencl⟩ := ha
    by_contra hlt
    have hstands := at?_start_iff.mp ha
    have hold := standsIn_of_earlier hm' hw hstands (by omega) (m.stamp.text ++ rest)
    have hle := stop_le_start hstands hm' (by omega)
    have hne := hencl.stop_ne hm'.surface_eq
    have hfound := hfirst a ⟨at?_start_iff.mpr hold, hencl.of_front (by omega) _⟩
    omega

end Single

/-- Two located dates are the same or stand apart. -/
theorem apart_of_mem_locate {format : LogFormat} {t : Text} {a b : Located}
    (ha : a ∈ locate format t) (hb : b ∈ locate format t) (hne : a ≠ b) :
    a.stop ≤ b.start ∨ b.stop ≤ a.start := by
  let R : Located → Located → Prop := fun a b => a.stop ≤ b.start ∨ b.stop ≤ a.start
  have hsymm : Std.Symm R := ⟨fun a b h => h.symm⟩
  have hpairs : (locate format t).Pairwise R := (locate_apart format t).imp fun h => Or.inl h
  exact hpairs.forall ha hb hne

section Linux

variable {t u : Text} {g : Located → Located}

theorem isDate_restamp_linux (hg : ∀ m ∈ locate .linux t, Restamps m (g m))
    (hrep : Edit.Replaces 0 t (restamp g (locate .linux t)) u)
    (hkeep : ∀ e ∈ restamp g (locate .linux t), e.Keeps) {m : Located} (hm : m ∈ locate .linux t) :
    IsDate .linux u (g m) := by
  have hr := hg m hm
  obtain ⟨l, r, rfl, hl⟩ := hrep.stands hkeep (List.mem_map_of_mem hm)
  have hw : l.width = (g m).start := by
    rw [hr.start_eq]
    exact (Nat.zero_add _).symm.trans hl
  have hstands : (g m).stamp.surface ≠ .iso →
      (g m).StandsIn (g m).stamp.surface (l ++ ((g m).stamp.text ++ r)) := by
    intro hne
    exact standsIn_append hr.shaped hw fun hk => absurd hk hne
  rw [hr.surface_eq] at hstands
  rcases mem_locate_iff.mp hm with hfront | hlater
  · obtain ⟨hstart, hsyslog⟩ := at?_eq_some_iff.mp hfront
    rw [hsyslog.surface_eq] at hstands
    exact Or.inl (at?_eq_some_iff.mpr ⟨hr.start_eq.trans hstart, hstands (by decide)⟩)
  · have hctime := at?_start_iff.mp hlater
    rw [hctime.surface_eq] at hstands
    exact Or.inr (at?_start_iff.mpr (hstands (by decide)))

/-- A date outside all replaced ones was there before. -/
theorem isDate_of_apart (hrep : Edit.Replaces 0 t (restamp g (locate .linux t)) u)
    (hkeep : ∀ e ∈ restamp g (locate .linux t), e.Keeps) {a : Located} (ha : IsDate .linux u a)
    (hout : ∀ m ∈ locate .linux t, a.stop ≤ m.start ∨ m.stop ≤ a.start) : IsDate .linux t a := by
  have hstands : ∀ {k : Surface}, k ≠ .iso → a.StandsIn k u → a.StandsIn k t := by
    intro k hk h
    obtain ⟨l, r, hu, hl, hread⟩ := h
    obtain ⟨hsurface, hs, -, -⟩ := Stamp.read?_eq_some_iff.mp hread
    obtain ⟨l', r', rfl, hl'⟩ := hrep.part hkeep hu (by
      intro e he
      obtain ⟨m, hm, rfl⟩ := List.mem_map.mp he
      rw [Text.width_append, hl, Nat.zero_add, Nat.zero_add]
      exact hout m hm)
    subst hsurface
    exact standsIn_append hs (hl'.trans hl) fun hiso => absurd hiso hk
  rcases ha with hfront | hlater
  · obtain ⟨hstart, hsyslog⟩ := at?_eq_some_iff.mp hfront
    exact Or.inl (at?_eq_some_iff.mpr ⟨hstart, hstands (by decide) hsyslog⟩)
  · exact Or.inr (at?_start_iff.mpr (hstands (by decide) (at?_start_iff.mp hlater)))

theorem mem_locate_restamp_linux (hg : ∀ m ∈ locate .linux t, Restamps m (g m))
    (hrep : Edit.Replaces 0 t (restamp g (locate .linux t)) u)
    (hkeep : ∀ e ∈ restamp g (locate .linux t), e.Keeps) {a : Located} :
    a ∈ locate .linux u ↔ a ∈ (locate .linux t).map g := by
  have hnew : ∀ m ∈ locate .linux t, g m ∈ locate .linux u := fun m hm =>
    mem_locate_iff.mpr (isDate_restamp_linux hg hrep hkeep hm)
  constructor
  · intro ha
    by_contra hnot
    have hne : ∀ m ∈ locate .linux t, a ≠ g m := by
      intro m hm heq
      exact hnot (heq ▸ List.mem_map_of_mem hm)
    have hout : ∀ m ∈ locate .linux t, a.stop ≤ m.start ∨ m.stop ≤ a.start := by
      intro m hm
      rw [← (hg m hm).start_eq, ← (hg m hm).stop_eq]
      exact apart_of_mem_locate ha (hnew m hm) (hne m hm)
    -- So it was there before, and then its own place is one of the replaced ones.
    have hold : a ∈ locate .linux t :=
      mem_locate_iff.mpr (isDate_of_apart hrep hkeep (mem_locate_iff.mp ha) hout)
    obtain ⟨k, hstands⟩ := standsIn_of_mem_locate ha
    have hpos := start_lt_stop hstands.shaped
    have hself := hout a hold
    omega
  · intro ha
    obtain ⟨m, hm, rfl⟩ := List.mem_map.mp ha
    exact hnew m hm

end Linux

theorem restamp_keeps {g : Located → Located} {ms : List Located}
    (hg : ∀ m ∈ ms, Restamps m (g m)) : ∀ e ∈ restamp g ms, e.Keeps := by
  intro e he
  obtain ⟨m, hm, rfl⟩ := List.mem_map.mp he
  have hstop := (hg m hm).stop_eq
  rw [stop, (hg m hm).start_eq] at hstop
  exact hstop

theorem replaces_restamp (format : LogFormat) (t : Text) (g : Located → Located) :
    Edit.Replaces 0 t (restamp g (locate format t))
      (Edit.splice 0 t (restamp g (locate format t))) := by
  apply Edit.replaces_splice
  · intro e he
    obtain ⟨m, hm, rfl⟩ := List.mem_map.mp he
    exact fits_of_mem_locate hm _
  · exact List.pairwise_map.mpr (locate_apart format t)

/-- Of two rounds of dates put in the same places the second one counts. -/
theorem splice_restamp {format : LogFormat} {t : Text} {g : Located → Located}
    (hg : ∀ m ∈ locate format t, Restamps m (g m)) (g' : Located → Located) :
    Edit.splice 0 (Edit.splice 0 t (restamp g (locate format t))) (restamp g' (locate format t)) =
      Edit.splice 0 t (restamp g' (locate format t)) := by
  have hspan : List.Forall₂ (fun e e' : Edit => e'.start = e.start ∧ e'.stop = e.stop)
      (restamp g (locate format t)) (restamp g' (locate format t)) := by
    apply List.forall₂_map_left_iff.mpr
    apply List.forall₂_map_right_iff.mpr
    exact List.forall₂_same.mpr fun m _ => ⟨rfl, rfl⟩
  have hboth := (replaces_restamp format t g).again (restamp_keeps hg) hspan
    (replaces_restamp format t g')
  exact hboth.eq_splice.symm

theorem restamp_map {g h g' : Located → Located} {ms : List Located}
    (hg : ∀ m ∈ ms, Restamps m (g m)) (hh : ∀ m ∈ ms, h (g m) = g' m) :
    restamp h (ms.map g) = restamp g' ms := by
  rw [restamp, restamp, List.map_map]
  apply List.map_congr_left
  intro m hm
  show (⟨(g m).start, (g m).stop, (h (g m)).stamp.text⟩ : Edit) = _
  rw [(hg m hm).start_eq, (hg m hm).stop_eq, hh m hm]

/-- With other dates of the same surfaces in their places, the located dates are those. -/
theorem locate_restamp {format : LogFormat} {t : Text} {g : Located → Located}
    (hg : ∀ m ∈ locate format t, Restamps m (g m)) :
    locate format (Edit.splice 0 t (restamp g (locate format t))) = (locate format t).map g := by
  by_cases hf : format = .linux
  · subst hf
    let R : Located → Located → Prop := fun a b => a.start < b.start
    have hanti : Std.Antisymm R := ⟨fun a b hab hba => absurd hab (Nat.lt_asymm hba)⟩
    have hirrefl : Std.Irrefl R := ⟨fun a => Nat.lt_irrefl a.start⟩
    have hsorted : ((locate .linux t).map g).Pairwise R := by
      apply List.pairwise_map.mpr
      refine (locate_sorted .linux t).imp_of_mem ?_
      intro a b ha hb hab
      show (g a).start < (g b).start
      rw [(hg a ha).start_eq, (hg b hb).start_eq]
      exact hab
    apply List.Pairwise.eq_of_mem_iff (locate_sorted .linux _) hsorted
    intro a
    exact mem_locate_restamp_linux hg (replaces_restamp .linux t g) (restamp_keeps hg)
  · cases hms : locate format t with
    | nil => exact hms
    | cons m ms =>
      have hm : m ∈ locate format t := hms ▸ List.mem_cons_self
      have hsingle := locate_eq_singleton hf hm
      rw [hms, List.cons.injEq] at hsingle
      rw [hsingle.2]
      have hr := hg m hm
      apply locate_eq_singleton hf
      rw [mem_locate_iff] at hm ⊢
      cases format with
      | linux => exact absurd rfl hf
      | apache => exact isFirst_restamp_enclosed hm hr
      | hadoop => exact isFirst_restamp hm hr
      | openssh => exact isFirst_restamp hm hr

end Embedded

end LogShift
