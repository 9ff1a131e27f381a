import LogShift.Proofs.Stamp.Search
import Mathlib.Data.List.Lattice

/-! Stamps of one surface stand apart from each other. Those that start with a name are told apart by
its capital, and those in ISO form by the four digits of their year, which are the longest run of
digits in them. The search from left to right therefore takes every stamp. -/
namespace LogShift

/-- The text starts with four digits. -/
def FourDigits (t : Text) : Prop :=
  ∃ p r, t = p ++ r ∧ p.length = 4 ∧ ∀ c ∈ p, c.isDigit = true

theorem not_fourDigits {ds r : Text} (hlen : ds.length ≤ 3)
    (hr : r.head?.any Char.isDigit = false) : ¬FourDigits (ds ++ r) := by
  intro h
  obtain ⟨p, q, hpq, hp, hdigits⟩ := h
  rcases List.append_eq_append_iff.mp hpq with ⟨a, rfl, rfl⟩ | ⟨a, rfl, -⟩
  · rw [List.length_append] at hp
    obtain ⟨c, a, rfl⟩ := List.exists_cons_of_length_pos (show 0 < a.length by omega)
    have hc : c.isDigit = true := hdigits c (by simp)
    have hhead : c.isDigit = false := hr
    rw [hc] at hhead
    cases hhead
  · rw [List.length_append] at hlen
    omega

/-- Four digits do not start in a shorter run nor right behind it. -/
theorem FourDigits.behind {ds r x y : Text} (hy : FourDigits y) (hlen : ds.length ≤ 3)
    (hr : r.head?.any Char.isDigit = false) (h : ds ++ r = x ++ y) :
    ∃ z, x = ds ++ z ∧ z ≠ [] ∧ r = z ++ y := by
  rcases List.append_eq_append_iff.mp h with ⟨z, hx, hz⟩ | ⟨z, rfl, rfl⟩
  · refine ⟨z, hx, ?_, hz⟩
    intro hnil
    subst hnil
    rw [← List.nil_append r] at hr hz
    exact not_fourDigits (show ([] : Text).length ≤ 3 by decide) hr (hz ▸ hy)
  · rw [List.length_append] at hlen
    exact absurd hy (not_fourDigits (by omega) hr)

/-- Runs of characters, each with the mark that ends it. -/
def joinRuns (runs : List (Text × Char)) : Text :=
  runs.flatMap fun (ds, c) => ds ++ [c]

theorem joinRuns_cons (ds : Text) (c : Char) (runs : List (Text × Char)) (r : Text) :
    joinRuns ((ds, c) :: runs) ++ r = ds ++ c :: (joinRuns runs ++ r) := by
  simp [joinRuns]

theorem FourDigits.behind_runs {runs : List (Text × Char)} {r x y : Text} (hy : FourDigits y)
    (hruns : ∀ run ∈ runs, run.1.length ≤ 3 ∧ run.2.isDigit = false)
    (h : joinRuns runs ++ r = x ++ y) : ∃ z, x = joinRuns runs ++ z ∧ r = z ++ y := by
  induction runs generalizing x with
  | nil => exact ⟨x, rfl, h⟩
  | cons run runs ih =>
    obtain ⟨ds, c⟩ := run
    obtain ⟨hlen, hc⟩ := hruns (ds, c) List.mem_cons_self
    have hmark : (c :: (joinRuns runs ++ r)).head?.any Char.isDigit = false := hc
    rw [joinRuns_cons] at h
    obtain ⟨z, rfl, hz, hrest⟩ := hy.behind hlen hmark h
    obtain ⟨c', z, rfl⟩ := List.exists_cons_of_ne_nil hz
    obtain ⟨rfl, htail⟩ := List.cons_eq_cons.mp hrest
    obtain ⟨z, rfl, hr⟩ := ih (fun run hrun => hruns run (List.mem_cons_of_mem _ hrun)) htail
    exact ⟨z, (joinRuns_cons ds _ runs z).symm, hr⟩

namespace Stamp

variable {s : Stamp}

/-- Behind its first digit a stamp in ISO form has no run of four digits. -/
theorem iso_text_eq (hk : s.surface = .iso) (hs : s.Shaped) :
    ∃ (c : Char) (runs : List (Text × Char)) (ds : Text), s.text = c :: (joinRuns runs ++ ds) ∧
      (∀ run ∈ runs, run.1.length ≤ 3 ∧ run.2.isDigit = false) ∧ ds.length ≤ 3 := by
  cases s with
  | iso y m d f n =>
    obtain ⟨⟨hy0, hy9⟩, hm, hd, ⟨hhour, hminute, hsecond⟩, hn⟩ := hs
    obtain ⟨y, rfl⟩ := Int.eq_ofNat_of_zero_le hy0
    have hfour := Decimal.length_padded (show 0 < 4 by omega) (show y < 10 ^ 4 by omega)
    obtain ⟨c, ds, hyear⟩ := List.exists_cons_of_length_pos (show 0 < (Decimal.padded 4 y).length by
      omega)
    rw [hyear, List.length_cons] at hfour
    refine ⟨c, [(ds, '-'), (Decimal.padded 2 m, '-'), (Decimal.padded 2 d, ' '),
      (Decimal.padded 2 f.hour, ':'), (Decimal.padded 2 f.minute, ':'),
      (Decimal.padded 2 f.second, ',')], Decimal.padded 3 n, ?_, ?_, ?_⟩
    · simp [text, ClockField.text, Decimal.paddedInteger_natCast, hyear, joinRuns]
    · have htwo : ∀ {v : Nat}, v < 100 → (Decimal.padded 2 v).length ≤ 3 := by
        intro v hv
        rw [Decimal.length_padded (by omega) hv]
        omega
      intro run hrun
      simp only [List.mem_cons, List.not_mem_nil, or_false] at hrun
      rcases hrun with rfl | rfl | rfl | rfl | rfl | rfl
      · exact ⟨by show ds.length ≤ 3; omega, rfl⟩
      · exact ⟨htwo hm, rfl⟩
      · exact ⟨htwo hd, rfl⟩
      · exact ⟨htwo hhour, rfl⟩
      · exact ⟨htwo hminute, rfl⟩
      · exact ⟨htwo hsecond, rfl⟩
    · rw [Decimal.length_padded (by omega) hn]
  | ctime => cases hk
  | syslog => cases hk

theorem iso_fourDigits (hk : s.surface = .iso) (hs : s.Shaped) (r : Text) :
    FourDigits (s.text ++ r) := by
  cases s with
  | iso y m d f n =>
    obtain ⟨⟨hy0, hy9⟩, -⟩ := hs
    obtain ⟨y, rfl⟩ := Int.eq_ofNat_of_zero_le hy0
    have hfour := Decimal.length_padded (show 0 < 4 by omega) (show y < 10 ^ 4 by omega)
    have hsplit : ∃ r', (iso y m d f n).text ++ r = Decimal.padded 4 y ++ r' := by
      rw [text, Decimal.paddedInteger_natCast]
      simp only [List.append_assoc]
      exact ⟨_, rfl⟩
    obtain ⟨r', hr'⟩ := hsplit
    exact ⟨_, r', hr', hfour, fun c hc => Decimal.isDigit_of_mem_padded hc⟩
  | ctime => cases hk
  | syslog => cases hk

end Stamp

namespace Located

variable {k : Surface} {t : Text} {a b f m : Located}

/-- A stamp in ISO form starts behind the one before it, and not right behind it. -/
theorem iso_stop_lt_start (ha : a.StandsIn .iso t) (hb : b.StandsIn .iso t)
    (h : a.start < b.start) : a.stop < b.start := by
  have hfour := Stamp.iso_fourDigits hb.surface_eq hb.shaped
  obtain ⟨c, runs, ds, htext, hruns, hds⟩ := Stamp.iso_text_eq ha.surface_eq ha.shaped
  obtain ⟨la, ra, rfl, hla, hread⟩ := ha
  obtain ⟨lb, rb, ht, hlb, -⟩ := hb
  have hstop : ra.head?.any Char.isDigit = false := (Stamp.read?_eq_some_iff.mp hread).2.2.2 rfl
  obtain ⟨x, rfl, hx⟩ := Text.append_eq_append_of_width_le ht (by omega)
  rw [Text.width_append] at hlb
  have hne : x ≠ [] := by
    intro hnil
    rw [hnil, Text.width_nil] at hlb
    omega
  obtain ⟨c', x, rfl⟩ := List.exists_cons_of_ne_nil hne
  rw [htext, List.cons_append, List.append_assoc] at hx
  obtain ⟨rfl, htail⟩ := List.cons_eq_cons.mp hx
  obtain ⟨z, rfl, hz⟩ := (hfour rb).behind_runs hruns htail
  obtain ⟨z, rfl, hgap, -⟩ := (hfour rb).behind hds hstop hz
  have hpos : z.width ≠ 0 := fun h0 => hgap (Text.width_eq_zero_iff.mp h0)
  have hwidth : a.stop = a.start + Text.width (c :: (joinRuns runs ++ ds)) := by
    rw [← htext, stop]
  simp only [Text.width_cons, Text.width_append] at hlb hwidth
  omega

theorem syslog_stop_le_start (ha : a.StandsIn .syslog t) (hb : b.StandsIn .syslog t)
    (h : a.start < b.start) : a.stop ≤ b.start := by
  by_contra ho
  obtain ⟨x, c, y, r, r', hx, hw, hy⟩ := ha.inside hb (by omega) (by omega)
  have hne : x ≠ [] := by
    intro hnil
    rw [hnil, Text.width_nil] at hw
    omega
  obtain ⟨m, u, hm, hu⟩ := Stamp.syslog_text_eq hb.surface_eq hb.shaped
  obtain ⟨p, q, e, hp, hupper, -⟩ := monthName_eq hm
  have hc : c = p := by
    rw [hu, hp] at hy
    exact (List.cons_eq_cons.mp hy).1
  have hlower := Stamp.not_upper_syslog ha.surface_eq ha.shaped hx hne
  rw [hc, hupper] at hlower
  cases hlower

theorem stop_le_start (ha : a.StandsIn k t) (hb : b.StandsIn k t) (h : a.start < b.start) :
    a.stop ≤ b.start := by
  cases k with
  | ctime => exact stop_le_start_of_ctime ha hb h
  | syslog => exact syslog_stop_le_start ha hb h
  | iso => exact Nat.le_of_lt (iso_stop_lt_start ha hb h)

theorem candidates_apart (k : Surface) (t : Text) :
    (candidates k t).Pairwise fun a b => a.stop ≤ b.start := by
  refine (candidates_sorted k t).imp_of_mem ?_
  intro a b ha hb hlt
  exact stop_le_start (mem_candidates_iff.mp ha) (mem_candidates_iff.mp hb) hlt

/-- Taking stamps from left to right passes over none of them. -/
theorem all_eq_candidates (k : Surface) (t : Text) : all k t = candidates k t :=
  disjointFrom_eq_self (candidates_apart k t) fun _ _ => Nat.zero_le _

/-- Full dates stand behind a stamp without a year at the front. -/
theorem front_stop_le_start (hf : at? .syslog 0 t = some f) (hm : m ∈ candidates .ctime t) :
    f.stop ≤ m.start := by
  obtain ⟨hstart, hfront⟩ := at?_eq_some_iff.mp hf
  apply stop_le_start_of_syslog hfront (mem_candidates_iff.mp hm)
  rw [hstart]
  exact Nat.zero_le _

theorem overlaps_eq_false_of_stop_le (h : b.stop ≤ a.start) : a.overlaps b = false := by
  rw [overlaps, decide_eq_false (Nat.not_lt.mpr h), Bool.false_and]

/-- The bytes that a stamp takes up. -/
def bytes (m : Located) : List Nat :=
  List.range' m.start m.stamp.text.width

theorem mem_bytes_iff {i : Nat} : i ∈ m.bytes ↔ m.start ≤ i ∧ i < m.stop :=
  List.mem_range'_1

theorem disjoint_bytes_of_stop_le (h : a.stop ≤ b.start) : a.bytes.Disjoint b.bytes := by
  intro i ha hb
  rw [mem_bytes_iff] at ha hb
  omega

/-- No byte belongs to two stamps of one surface, so that all of them are taken from left to right,
and none belongs to a full date and to a stamp without a year at the front. -/
theorem candidates_disjoint (k : Surface) (t : Text) :
    (∀ a ∈ candidates k t, ∀ b ∈ candidates k t, a.start ≠ b.start →
      a.bytes.Disjoint b.bytes) ∧
    all k t = candidates k t ∧
    (∀ m, m ∈ all k t ↔ at? k m.start t = some m) ∧
    ∀ f n m, at? .syslog 0 t = some f → at? .ctime n t = some m →
      m.bytes.Disjoint f.bytes ∧ m.overlaps f = false := by
  refine ⟨?_, all_eq_candidates k t, ?_, ?_⟩
  · intro a ha b hb hne
    rw [mem_candidates_iff] at ha hb
    rcases Nat.lt_or_gt_of_ne hne with hlt | hgt
    · exact disjoint_bytes_of_stop_le (stop_le_start ha hb hlt)
    · exact (disjoint_bytes_of_stop_le (stop_le_start hb ha hgt)).symm
  · intro m
    rw [all_eq_candidates, mem_candidates_iff_at?]
  · intro f n m hf hm
    have hmem : m ∈ candidates .ctime t := mem_candidates_iff.mpr (at?_eq_some_iff.mp hm).2
    have hle := front_stop_le_start hf hmem
    exact ⟨(disjoint_bytes_of_stop_le hle).symm, overlaps_eq_false_of_stop_le hle⟩

/-- A stamp without a year and two full dates with nothing between them. -/
theorem candidates_disjoint_touching :
    let t : Text := "Jan  3 21:20:56Sun Feb 12 19:42:12 2006Mon Feb 13 19:42:12 2006".toList
    let f : Located := ⟨0, .syslog 1 ⟨2, 1, 3⟩ [' '] ⟨21, 20, 56⟩⟩
    let a : Located := ⟨15, .ctime .sun 2 ⟨1, 2, 12⟩ ⟨19, 42, 12⟩ 2006⟩
    let b : Located := ⟨39, .ctime .mon 2 ⟨1, 2, 13⟩ ⟨19, 42, 12⟩ 2006⟩
    at? .syslog 0 t = some f ∧ candidates .ctime t = [a, b] ∧ f.stop = a.start ∧
      a.stop = b.start ∧ a.bytes.Disjoint b.bytes ∧ all .ctime t = [a, b] ∧
      a.bytes.Disjoint f.bytes ∧ a.overlaps f = false := by
  intro t f a b
  have hf : at? .syslog 0 t = some f := by decide +kernel
  have ha : at? .ctime 15 t = some a := by decide +kernel
  have hab : candidates .ctime t = [a, b] := by decide +kernel
  obtain ⟨hdisjoint, hall, -, hfront⟩ := candidates_disjoint .ctime t
  refine ⟨hf, hab, by decide, by decide, ?_, hall.trans hab, hfront f 15 a hf ha⟩
  exact hdisjoint a (by simp [hab]) b (by simp [hab]) (by decide)

-- Away from the front a stamp without a year may be part of a full date.
example :
    let t : Text := "Sun Feb 12 19:42:12 2006".toList
    ∃ m ∈ at? .ctime 0 t, ∃ f ∈ at? .syslog 4 t, m.overlaps f = true := by
  decide +kernel

end Located

end LogShift
