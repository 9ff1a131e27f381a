import LogShift.Proofs.Decimal
import LogShift.Proofs.Text
import LogShift.Stamp.Reader
import Mathlib.Data.List.TakeWhile
import Mathlib.Tactic.IntervalCases

/-! Which stamps can be read: the texts of the well-shaped ones and no others, each read back as the
stamp that it is the text of. -/
namespace LogShift

/-- At least one space, and one or two digits that can show the day. -/
def DayField.Shaped (d : DayField) : Prop :=
  1 ≤ d.gap ∧ (d.digits = 1 ∨ d.digits = 2) ∧ d.value < 10 ^ d.digits

def ClockField.Shaped (c : ClockField) : Prop :=
  c.hour < 100 ∧ c.minute < 100 ∧ c.second < 100

def Stamp.Shaped : Stamp → Prop
  | .ctime _ month day clock year =>
    (1 ≤ month ∧ month ≤ 12) ∧ day.Shaped ∧ clock.Shaped ∧ 0 ≤ year ∧ year ≤ 9999
  | .syslog month day blanks clock =>
    (1 ≤ month ∧ month ≤ 12) ∧ day.Shaped ∧ (blanks ≠ [] ∧ ∀ c ∈ blanks, isBlank c = true) ∧
      clock.Shaped
  | .iso year month day clock millis =>
    (0 ≤ year ∧ year ≤ 9999) ∧ month < 100 ∧ day < 100 ∧ clock.Shaped ∧ millis < 1000

theorem after?_singleton_iff {c : Char} {t rest : Text} :
    Text.after? [c] t = some rest ↔ t = c :: rest :=
  Text.after?_eq_some_iff

theorem Weekday.name_eq (w : Weekday) :
    ∃ a b c, w.name.toList = [a, b, c] ∧ a.isUpper = true ∧ b.isUpper = false ∧
      c.isUpper = false := by
  cases w <;> exact ⟨_, _, _, rfl, rfl, rfl, rfl⟩

theorem monthName_eq {m : Nat} (h : 1 ≤ m ∧ m ≤ 12) :
    ∃ a b c, monthName m = [a, b, c] ∧ a.isUpper = true ∧ b.isUpper = false ∧
      c.isUpper = false := by
  obtain ⟨h1, h12⟩ := h
  interval_cases m <;> exact ⟨_, _, _, rfl, rfl, rfl, rfl⟩

theorem Weekday.read?_eq_some_iff {t rest : Text} {w : Weekday} :
    Weekday.read? t = some (w, rest) ↔ t = w.name.toList ++ rest := by
  unfold Weekday.read?
  constructor
  · intro h
    obtain ⟨v, -, hv⟩ := List.exists_of_findSome?_eq_some h
    obtain ⟨r, hr, he⟩ := Option.map_eq_some_iff.mp hv
    obtain ⟨rfl, rfl⟩ := Prod.mk.inj he
    exact Text.after?_eq_some_iff.mp hr
  · rintro rfl
    cases w <;> rfl

theorem readMonth?_eq_some_iff {t rest : Text} {m : Nat} :
    readMonth? t = some (m, rest) ↔ (1 ≤ m ∧ m ≤ 12) ∧ t = monthName m ++ rest := by
  unfold readMonth?
  constructor
  · intro h
    obtain ⟨⟨name, i⟩, hmem, hi⟩ := List.exists_of_findSome?_eq_some h
    obtain ⟨r, hr, he⟩ := Option.map_eq_some_iff.mp hi
    obtain ⟨rfl, rfl⟩ := Prod.mk.inj he
    rw [Text.after?_eq_some_iff] at hr
    have key : ∀ p ∈ monthNames.zipIdx 1, (1 ≤ p.2 ∧ p.2 ≤ 12) ∧ p.1 = monthName p.2 := by decide
    obtain ⟨hm, hn⟩ := key _ hmem
    exact ⟨hm, hn ▸ hr⟩
  · rintro ⟨⟨h1, h12⟩, rfl⟩
    interval_cases m <;> rfl

theorem ClockField.read?_eq_some_iff {t rest : Text} {c : ClockField} :
    ClockField.read? t = some (c, rest) ↔ c.Shaped ∧ t = c.text ++ rest := by
  simp only [ClockField.read?, bind, Option.bind_eq_some_iff, Prod.exists, pure,
    Option.some.injEq, Prod.mk.injEq, Decimal.fixed?_eq_some_iff (show 0 < 2 by omega),
    after?_singleton_iff]
  constructor
  · rintro ⟨h, _, ⟨hh, rfl⟩, _, rfl, m, _, ⟨hm, rfl⟩, _, rfl, s, _, ⟨hs, rfl⟩, rfl, rfl⟩
    exact ⟨⟨hh, hm, hs⟩, by simp [ClockField.text]⟩
  · rintro ⟨⟨hh, hm, hs⟩, rfl⟩
    exact ⟨c.hour, _, ⟨hh, by simp [ClockField.text]⟩, _, rfl, c.minute, _, ⟨hm, rfl⟩, _, rfl,
      c.second, _, ⟨hs, rfl⟩, rfl, rfl⟩

theorem DayField.read?_eq_some_iff {t rest : Text} {d : DayField} :
    DayField.read? t = some (d, rest) ↔ d.Shaped ∧ t = d.text ++ rest ∧
      (d.digits = 1 → rest.head?.any Char.isDigit = false) := by
  unfold DayField.read?
  simp only [Option.ite_none_left_eq_some, not_or, Option.some.injEq, Prod.mk.injEq]
  constructor
  · rintro ⟨⟨hgap, hne⟩, rfl, rfl⟩
    obtain ⟨ds, rest, hrun⟩ : ∃ ds rest, Decimal.run 2 (t.dropWhile (· == ' ')) = (ds, rest) :=
      ⟨_, _, rfl⟩
    rw [hrun] at hne ⊢
    obtain ⟨hdrop, hdig, hle, hstop⟩ := Decimal.run_eq_iff.mp hrun
    have hne : ds ≠ [] := by simpa using hne
    have hlen : 0 < ds.length := List.length_pos_iff.mpr hne
    have hspaces : t.takeWhile (· == ' ') =
        List.replicate (t.takeWhile (· == ' ')).length ' ' := by
      apply List.eq_replicate_of_mem
      intro c hc
      simpa using List.mem_takeWhile_imp hc
    have hd2 : ds.length = 1 ∨ ds.length = 2 := by omega
    refine ⟨⟨Nat.pos_of_ne_zero hgap, hd2, Decimal.value_lt hdig⟩, ?_, ?_⟩
    · rw [DayField.text, Decimal.padded_value hne hdig, ← hspaces, List.append_assoc, ← hdrop,
        List.takeWhile_append_dropWhile]
    · intro h1
      have h1 : ds.length = 1 := h1
      exact hstop (by omega)
  · rintro ⟨⟨hgap, hdigits, hv⟩, rfl, hstop⟩
    have hpos : 0 < d.digits := by omega
    have hlen := Decimal.length_padded hpos hv
    obtain ⟨a, ds, hp, hda⟩ := Decimal.padded_eq_cons hpos hv
    have hd : ∀ c ∈ Decimal.padded d.digits d.value, c.isDigit = true :=
      fun c hc => Decimal.isDigit_of_mem_padded hc
    have ha : (a == ' ') = false := by
      rw [beq_eq_false_iff_ne]
      rintro rfl
      exact absurd hda (by decide)
    have hs : ∀ c ∈ List.replicate d.gap ' ', (c == ' ') = true := by
      intro c hc
      simp [List.eq_of_mem_replicate hc]
    have htake : (d.text ++ rest).takeWhile (· == ' ') = List.replicate d.gap ' ' := by
      rw [DayField.text, List.append_assoc, hp, List.cons_append]
      exact Text.takeWhile_append_cons hs ha
    have hdrop : (d.text ++ rest).dropWhile (· == ' ') =
        Decimal.padded d.digits d.value ++ rest := by
      rw [DayField.text, List.append_assoc, hp, List.cons_append]
      exact Text.dropWhile_append_cons hs ha
    have hrun : Decimal.run 2 (Decimal.padded d.digits d.value ++ rest) =
        (Decimal.padded d.digits d.value, rest) :=
      Decimal.run_eq_iff.mpr ⟨rfl, hd, by omega, fun h => hstop (by omega)⟩
    rw [htake, hdrop, hrun]
    refine ⟨⟨by simp; omega, by simp [hp]⟩, ?_, rfl⟩
    rw [List.length_replicate, hlen, Decimal.value_padded]

theorem isDigit_of_isBlank {c : Char} (h : isBlank c = true) : c.isDigit = false := by
  simp only [isBlank, Bool.or_eq_true, beq_iff_eq] at h
  rcases h with rfl | rfl <;> decide

theorem isBlank_of_isDigit {c : Char} (h : c.isDigit = true) : isBlank c = false := by
  by_contra hb
  rw [isDigit_of_isBlank (by simpa using hb)] at h
  exact absurd h (by decide)

theorem ClockField.text_eq_cons {c : ClockField} (h : c.Shaped) :
    ∃ x u, c.text = x :: u ∧ x.isDigit = true := by
  have hlen := Decimal.length_padded (show 0 < 2 by omega) h.1
  obtain ⟨x, u, hx⟩ := List.exists_cons_of_length_pos (hlen ▸ (show 0 < 2 by omega))
  have hd : x.isDigit = true := Decimal.isDigit_of_mem_padded (hx ▸ List.mem_cons_self)
  rw [ClockField.text, hx, List.append_assoc, List.cons_append]
  exact ⟨x, _, rfl, hd⟩

/-- The year of a stamp is a natural number of four digits. -/
theorem fixed?_four_iff {t rest : Text} {v : Nat} :
    Decimal.fixed? 4 t = some (v, rest) ↔
      (0 ≤ (v : Int) ∧ (v : Int) ≤ 9999) ∧ t = Decimal.paddedInteger 4 v ++ rest := by
  rw [Decimal.fixed?_eq_some_iff (by omega), Decimal.paddedInteger_natCast]
  constructor
  · rintro ⟨hv, rfl⟩
    exact ⟨by omega, rfl⟩
  · rintro ⟨hv, rfl⟩
    exact ⟨by omega, rfl⟩

namespace Stamp

theorem readCtime?_eq_some_iff {t rest : Text} {s : Stamp} :
    readCtime? t = some (s, rest) ↔ s.surface = .ctime ∧ s.Shaped ∧ t = s.text ++ rest := by
  simp only [readCtime?, bind, Option.bind_eq_some_iff, Prod.exists, pure, Option.some.injEq,
    Prod.mk.injEq, Weekday.read?_eq_some_iff, readMonth?_eq_some_iff,
    DayField.read?_eq_some_iff, ClockField.read?_eq_some_iff, fixed?_four_iff,
    after?_singleton_iff]
  constructor
  · rintro ⟨w, _, rfl, _, rfl, m, _, ⟨hm, rfl⟩, d, _, ⟨hd, rfl, -⟩, _, rfl, c, _, ⟨hc, rfl⟩, _, rfl,
      y, _, ⟨hy, rfl⟩, rfl, rfl⟩
    exact ⟨rfl, ⟨hm, hd, hc, hy⟩, by simp [Stamp.text]⟩
  · rintro ⟨hs, hsh, rfl⟩
    cases s with
    | ctime w m d c y =>
      obtain ⟨hm, hd, hc, hy0, hy9⟩ := hsh
      obtain ⟨y, rfl⟩ := Int.eq_ofNat_of_zero_le hy0
      exact ⟨w, _, by simp [Stamp.text], _, rfl, m, _, ⟨hm, rfl⟩, d, _, ⟨hd, rfl, fun _ => rfl⟩, _,
        rfl, c, _, ⟨hc, rfl⟩, _, rfl, y, _, ⟨⟨hy0, hy9⟩, rfl⟩, rfl, rfl⟩
    | syslog => cases hs
    | iso => cases hs

theorem readSyslog?_eq_some_iff {t rest : Text} {s : Stamp} :
    readSyslog? t = some (s, rest) ↔ s.surface = .syslog ∧ s.Shaped ∧ t = s.text ++ rest := by
  simp only [readSyslog?, bind, Option.bind_eq_some_iff, Prod.exists, pure, Option.some.injEq,
    Prod.mk.injEq, readMonth?_eq_some_iff, DayField.read?_eq_some_iff,
    ClockField.read?_eq_some_iff, Option.bind_none, Option.ite_none_left_eq_some]
  constructor
  · rintro ⟨m, _, ⟨hm, rfl⟩, d, t, ⟨hd, rfl, -⟩, hne, c, _, ⟨hc, ht⟩, rfl, rfl⟩
    refine ⟨rfl, ⟨hm, hd, ⟨by simpa using hne, fun c hc => List.mem_takeWhile_imp hc⟩, hc⟩, ?_⟩
    rw [Stamp.text, List.append_assoc (_ ++ _), ← ht]
    simp [List.takeWhile_append_dropWhile]
  · rintro ⟨hs, hsh, rfl⟩
    cases s with
    | syslog m d b c =>
      obtain ⟨hm, hd, ⟨hne, hb⟩, hc⟩ := hsh
      obtain ⟨x, u, hx, hxd⟩ := c.text_eq_cons hc
      have hxb : isBlank x = false := isBlank_of_isDigit hxd
      obtain ⟨y, v, rfl⟩ := List.exists_cons_of_ne_nil hne
      have hy : y.isDigit = false := isDigit_of_isBlank (hb y (by simp))
      refine ⟨m, d.text ++ ((y :: v) ++ (c.text ++ rest)), ⟨hm, by simp [Stamp.text]⟩, d,
        (y :: v) ++ (c.text ++ rest), ⟨hd, rfl, fun _ => by simpa using hy⟩, ?_⟩
      have htake : ((y :: v) ++ (c.text ++ rest)).takeWhile isBlank = y :: v := by
        rw [hx, List.cons_append]
        exact Text.takeWhile_append_cons hb hxb
      have hdrop : ((y :: v) ++ (c.text ++ rest)).dropWhile isBlank = c.text ++ rest := by
        rw [hx, List.cons_append]
        exact Text.dropWhile_append_cons hb hxb
      rw [htake, hdrop]
      exact ⟨by simp, c, _, ⟨hc, rfl⟩, rfl, rfl⟩
    | ctime => cases hs
    | iso => cases hs

theorem readIso?_eq_some_iff {t rest : Text} {s : Stamp} :
    readIso? t = some (s, rest) ↔ s.surface = .iso ∧ s.Shaped ∧ t = s.text ++ rest ∧
      rest.head?.any Char.isDigit = false := by
  simp only [readIso?, bind, Option.bind_eq_some_iff, Prod.exists, pure, Option.some.injEq,
    Prod.mk.injEq, fixed?_four_iff, Decimal.fixed?_eq_some_iff (show 0 < 2 by omega),
    Decimal.fixed?_eq_some_iff (show 0 < 3 by omega), ClockField.read?_eq_some_iff,
    after?_singleton_iff, Option.bind_none, Option.ite_none_left_eq_some]
  constructor
  · rintro ⟨y, _, ⟨hy, rfl⟩, _, rfl, m, _, ⟨hm, rfl⟩, _, rfl, d, _, ⟨hd, rfl⟩, _, rfl, c, _,
      ⟨hc, rfl⟩, _, rfl, f, _, ⟨hf, rfl⟩, hstop, rfl, rfl⟩
    exact ⟨rfl, ⟨hy, hm, hd, hc, hf⟩, by simp [Stamp.text], by simpa using hstop⟩
  · rintro ⟨hs, hsh, rfl, hstop⟩
    cases s with
    | iso y m d c f =>
      obtain ⟨⟨hy0, hy9⟩, hm, hd, hc, hf⟩ := hsh
      obtain ⟨y, rfl⟩ := Int.eq_ofNat_of_zero_le hy0
      exact ⟨y, _, ⟨⟨hy0, hy9⟩, by simp [Stamp.text]⟩, _, rfl, m, _, ⟨hm, rfl⟩, _, rfl, d, _,
        ⟨hd, rfl⟩, _, rfl, c, _, ⟨hc, rfl⟩, _, rfl, f, rest, ⟨hf, rfl⟩, by simp [hstop], rfl, rfl⟩
    | ctime => cases hs
    | syslog => cases hs

/-- Reading accepts the texts of the well-shaped stamps of a surface and no others; behind a date in
ISO form no digit may follow. -/
theorem read?_eq_some_iff {k : Surface} {t rest : Text} {s : Stamp} :
    read? k t = some (s, rest) ↔ s.surface = k ∧ s.Shaped ∧ t = s.text ++ rest ∧
      (k = .iso → rest.head?.any Char.isDigit = false) := by
  cases k with
  | ctime => simp [read?, readCtime?_eq_some_iff]
  | syslog => simp [read?, readSyslog?_eq_some_iff]
  | iso => simp [read?, readIso?_eq_some_iff]

end Stamp

end LogShift
