import LogShift.Proofs.Calendar.Moment
import LogShift.Proofs.Decimal
import LogShift.Proofs.Text

/-! Stored timestamps: the text of a moment at a precision is read as that moment, cut down to it.
-/
namespace LogShift

namespace Clock

/-- The same second, cut down to multiples of `unit` nanoseconds; a leap second stays one. -/
def cut (unit : Nat) (c : Clock) : Clock where
  seconds := c.seconds
  nanos := c.nanos - c.subsecond % unit
  seconds_lt := c.seconds_lt
  nanos_lt := by
    have := c.nanos_lt
    omega
  leap := by
    have := c.leap
    omega

theorem nanos_eq (c : Clock) :
    c.nanos = c.subsecond ∨ c.seconds % 60 = 59 ∧ c.nanos = nanosPerSecond + c.subsecond := by
  have hlt := c.nanos_lt
  have hleap := c.leap
  unfold subsecond
  unfold nanosPerSecond at *
  omega

theorem hour_lt (c : Clock) : c.hour < 24 := by
  have hday := c.seconds_lt
  unfold secondsPerDay at hday
  unfold hour
  omega

theorem minute_lt (c : Clock) : c.minute < 60 :=
  Nat.mod_lt _ (by decide)

theorem second_le (c : Clock) : c.second ≤ 60 := by
  have hnanos := c.nanos_eq
  have hsub := c.subsecond_lt
  unfold second
  unfold nanosPerSecond at *
  omega

theorem cut_eq_self {unit : Nat} {c : Clock} (h : c.subsecond % unit = 0) : c.cut unit = c := by
  refine eq_of_parts (show (c.cut unit).seconds = c.seconds from rfl) ?_
  show c.nanos - c.subsecond % unit = c.nanos
  rw [h, Nat.sub_zero]

/-- Exactly the leap seconds become leap seconds. -/
theorem le_cut_nanos_iff (unit : Nat) (c : Clock) :
    nanosPerSecond ≤ (c.cut unit).nanos ↔ nanosPerSecond ≤ c.nanos := by
  have hnanos := c.nanos_eq
  have hsub := c.subsecond_lt
  have hmod := Nat.mod_le c.subsecond unit
  have hcut : (c.cut unit).nanos = c.nanos - c.subsecond % unit := rfl
  omega

/-- The parts of a clock with whole units behind the point are those of the clock cut down. -/
theorem ofReading?_cut (unit : Nat) (c : Clock) :
    ofReading? c.hour c.minute c.second (c.subsecond - c.subsecond % unit) =
      some (c.cut unit) := by
  have hday := c.seconds_lt
  have hsub := c.subsecond_lt
  have hmod := Nat.mod_le c.subsecond unit
  have hnanos : (c.cut unit).nanos = c.nanos - c.subsecond % unit := rfl
  have hseconds : (c.cut unit).seconds = c.seconds := rfl
  unfold secondsPerDay at hday
  unfold ofReading?
  rcases c.nanos_eq with h | ⟨hlast, h⟩
  · have hsecond : c.second = c.seconds % 60 := by
      unfold second
      rw [h, Nat.div_eq_of_lt hsub, Nat.add_zero]
    have hcut : (c.cut unit).nanos < nanosPerSecond := by omega
    rw [if_neg (by omega), ofHms?_eq_some_iff, hsecond]
    refine ⟨hcut, rfl, rfl, ?_, by omega⟩
    unfold second
    rw [Nat.div_eq_of_lt hcut, hseconds, Nat.add_zero]
  · have hsecond : c.second = 60 := by
      unfold second
      rw [h, hlast, Nat.add_div_left _ (by decide), Nat.div_eq_of_lt hsub]
    rw [if_pos hsecond, if_pos ⟨c.hour_lt, c.minute_lt, by omega⟩, ofParts?_eq_some_iff, hnanos,
      hseconds]
    unfold hour minute
    constructor <;> omega

end Clock

namespace Moment

theorem number?_padded {w v : Nat} (hw : 0 < w) (hv : v < 10 ^ w) (rest : Text) :
    number? w (Decimal.padded w v ++ rest) = some (v, rest) := by
  have hrun := Decimal.run_padded hw hv rest
  have hvalue := Decimal.value_padded w v
  obtain ⟨c, ds, hds, hc⟩ := Decimal.padded_eq_cons hw hv
  rw [hds] at hrun hvalue ⊢
  unfold number?
  rw [List.cons_append, Text.trimStart_cons (Text.isWhiteSpace_of_isDigit hc), ← List.cons_append,
    hrun]
  simp [hvalue]

theorem signed_padded (n : Nat) (rest : Text) :
    year?.signed (Decimal.padded 4 n ++ '-' :: rest) = some (n, '-' :: rest) := by
  have hdigits : ∀ c ∈ Decimal.padded 4 n, c.isDigit = true := fun c hc =>
    Decimal.isDigit_of_mem_padded hc
  have hne : Decimal.padded 4 n ≠ [] := by
    simp [Decimal.padded, List.leftpad, Decimal.natural_ne_nil]
  unfold year?.signed
  rw [Text.takeWhile_append_cons hdigits rfl, Text.dropWhile_append_cons hdigits rfl]
  simp [hne, Decimal.value_padded]

/-- Every year is read back, with a sign or without one. -/
theorem year?_yearText (y : Int) (rest : Text) :
    year? (yearText y ++ '-' :: rest) = some (y, '-' :: rest) := by
  unfold yearText
  split
  · rename_i h
    have hnumber := number?_padded (w := 4) (v := y.toNat) (by decide) (by omega) ('-' :: rest)
    obtain ⟨c, ds, hds, hc⟩ := Decimal.padded_eq_cons (w := 4) (v := y.toNat) (by decide) (by omega)
    have hy : (y.toNat : Int) = y := Int.toNat_of_nonneg h.1
    rw [hds] at hnumber ⊢
    unfold year?
    rw [List.cons_append, Text.trimStart_cons (Text.isWhiteSpace_of_isDigit hc)]
    split
    · rename_i heq
      rw [(List.cons.inj heq).1] at hc
      cases hc
    · rename_i heq
      rw [(List.cons.inj heq).1] at hc
      cases hc
    · rw [← List.cons_append, hnumber]
      simp [hy]
  · by_cases hneg : y < 0
    · have hy : -(y.natAbs : Int) = y := by omega
      have hread : year? ('-' :: (Decimal.padded 4 y.natAbs ++ '-' :: rest)) =
          (year?.signed (Decimal.padded 4 y.natAbs ++ '-' :: rest)).map
            fun p => (-(p.1 : Int), p.2) := rfl
      rw [if_pos hneg, List.cons_append, hread, signed_padded]
      exact congrArg (fun n => some (n, '-' :: rest)) hy
    · have hy : (y.natAbs : Int) = y := by omega
      have hread : year? ('+' :: (Decimal.padded 4 y.natAbs ++ '-' :: rest)) =
          (year?.signed (Decimal.padded 4 y.natAbs ++ '-' :: rest)).map
            fun p => ((p.1 : Int), p.2) := rfl
      rw [if_neg hneg, List.cons_append, hread, signed_padded]
      exact congrArg (fun n => some (n, '-' :: rest)) hy

theorem looseMark_cons {c : Char} (hc : isWhiteSpace c = false) (t : Text) :
    looseMark c (c :: t) = some t := by
  simp [looseMark, Text.trimStart_cons hc, Text.after?]

theorem fraction?_padded {w n : Nat} (hw : 0 < w) (hle : w ≤ 9) (hn : n < 10 ^ w) :
    fraction? ('.' :: Decimal.padded w n) = some (n * 10 ^ (9 - w), []) := by
  have hlen := Decimal.length_padded hw hn
  have hdigits : ∀ c ∈ Decimal.padded w n, c.isDigit = true := fun c hc =>
    Decimal.isDigit_of_mem_padded hc
  have hrun : Decimal.run 9 (Decimal.padded w n) = (Decimal.padded w n, []) :=
    Decimal.run_eq_iff.mpr ⟨by simp, hdigits, by omega, by simp⟩
  have hne : Decimal.padded w n ≠ [] := by
    intro hnil
    simp [hnil] at hlen
    omega
  simp [fraction?, hrun, hne, hlen, Decimal.value_padded]

/-- Date and clock are read back, and what stands behind them as the fraction. -/
theorem ofIso?_append {t : Moment} {fraction : Text} {nanos : Nat}
    (h : fraction? fraction = some (nanos, [])) :
    ofIso? (t.isoSeconds ++ fraction) =
      (Clock.ofReading? t.clock.hour t.clock.minute t.clock.second nanos).map (⟨t.date, ·⟩) := by
  have hmonth : t.date.month < 10 ^ 2 := Nat.lt_of_le_of_lt t.date.month_mem.2 (by decide)
  have hday : t.date.day < 10 ^ 2 := Nat.lt_of_le_of_lt t.date.day_le (by decide)
  have hhour : t.clock.hour < 10 ^ 2 := Nat.lt_trans t.clock.hour_lt (by decide)
  have hminute : t.clock.minute < 10 ^ 2 := Nat.lt_trans t.clock.minute_lt (by decide)
  have hsecond : t.clock.second < 10 ^ 2 := Nat.lt_of_le_of_lt t.clock.second_le (by decide)
  have hdash : isWhiteSpace '-' = false := rfl
  have hmark : isWhiteSpace 'T' = false := rfl
  have hcolon : isWhiteSpace ':' = false := rfl
  have hdate : Date.ofYmd? t.date.year t.date.month t.date.day = some t.date :=
    Date.ofYmd?_eq_some_iff.mpr ⟨rfl, rfl, rfl⟩
  have hparts : parts? looseMark (looseMark 'T') (t.isoSeconds ++ fraction) =
      (Clock.ofReading? t.clock.hour t.clock.minute t.clock.second nanos).map
        fun c => (⟨t.date, c⟩, []) := by
    have htext : t.isoSeconds ++ fraction = yearText t.date.year ++
        '-' :: (Decimal.padded 2 t.date.month ++ '-' :: (Decimal.padded 2 t.date.day ++
          'T' :: (Decimal.padded 2 t.clock.hour ++ ':' :: (Decimal.padded 2 t.clock.minute ++
            ':' :: (Decimal.padded 2 t.clock.second ++ fraction))))) := by
      simp [isoSeconds, dateText, clockText]
    unfold parts?
    rw [htext, year?_yearText]
    dsimp only [bind, Option.bind_some]
    rw [looseMark_cons hdash, Option.bind_some, number?_padded Nat.two_pos hmonth]
    dsimp only [Option.bind_some]
    rw [looseMark_cons hdash, Option.bind_some, number?_padded Nat.two_pos hday]
    dsimp only [Option.bind_some]
    rw [looseMark_cons hmark, Option.bind_some, number?_padded Nat.two_pos hhour]
    dsimp only [Option.bind_some]
    rw [looseMark_cons hcolon, Option.bind_some, number?_padded Nat.two_pos hminute]
    dsimp only [Option.bind_some]
    rw [looseMark_cons hcolon, Option.bind_some, number?_padded Nat.two_pos hsecond]
    dsimp only [Option.bind_some]
    rw [h]
    dsimp only [Option.bind_some]
    rw [hdate, Option.bind_some]
    cases Clock.ofReading? t.clock.hour t.clock.minute t.clock.second nanos <;> rfl
  unfold ofIso?
  rw [hparts]
  cases Clock.ofReading? t.clock.hour t.clock.minute t.clock.second nanos <;> rfl

theorem fraction?_fractionText {n : Nat} (h : n < nanosPerSecond) :
    fraction? (fractionText n) = some (n, []) := by
  unfold nanosPerSecond at h
  unfold fractionText
  split
  · rename_i hzero
    rw [hzero]
    rfl
  split
  · rename_i hmillis
    rw [fraction?_padded (by decide) (by decide) (by omega),
      show n / 1000000 * 10 ^ (9 - 3) = n by omega]
  split
  · rename_i hmicros
    rw [fraction?_padded (by decide) (by decide) (by omega),
      show n / 1000 * 10 ^ (9 - 6) = n by omega]
  · rw [fraction?_padded (by decide) (by decide) (by omega), show n * 10 ^ (9 - 9) = n by omega]

/-- At full precision every moment is read back, leap seconds included. -/
theorem ofIso?_iso (t : Moment) : ofIso? t.iso = some t := by
  have hread := ofIso?_append (t := t) (fraction?_fractionText t.clock.subsecond_lt)
  have hcut := Clock.ofReading?_cut 1 t.clock
  have hmod := Nat.mod_one t.clock.subsecond
  rw [hmod, Nat.sub_zero, Clock.cut_eq_self hmod] at hcut
  rw [hcut] at hread
  exact hread

end Moment

namespace Precision

/-- Nanoseconds in the last digit that is stored. -/
def unit : Precision → Nat
  | seconds => nanosPerSecond
  | micros => 1000

/-- The moment that the stored text keeps. -/
def cut (p : Precision) (t : Moment) : Moment :=
  ⟨t.date, t.clock.cut p.unit⟩

theorem isLeap_cut (p : Precision) (t : Moment) : (p.cut t).isLeap = t.isLeap := by
  unfold Moment.isLeap
  exact decide_eq_decide.mpr (t.clock.le_cut_nanos_iff p.unit)

theorem unit_dvd (f : LogFormat) : f.precision.unit ∣ f.unit := by
  cases f <;> decide

theorem cut_eq_self {f : LogFormat} {t : Moment} (h : f.Shows t) : f.precision.cut t = t := by
  have hlt := Moment.isLeap_eq_false_iff.mp h.1
  have hsub : t.clock.subsecond % f.precision.unit = 0 := by
    have hdvd := Nat.dvd_trans (unit_dvd f) (Nat.dvd_of_mod_eq_zero h.2)
    unfold Clock.subsecond
    rw [Nat.mod_eq_of_lt hlt, Nat.mod_eq_zero_of_dvd hdvd]
  unfold cut
  rw [Clock.cut_eq_self hsub]

theorem ofIso?_render (p : Precision) (t : Moment) :
    Moment.ofIso? (p.render t) = some (p.cut t) := by
  have hsub := t.clock.subsecond_lt
  cases p with
  | seconds =>
    have hcut : t.clock.subsecond - t.clock.subsecond % nanosPerSecond = 0 := by
      rw [Nat.mod_eq_of_lt hsub, Nat.sub_self]
    have hnone : Moment.fraction? [] =
        some (t.clock.subsecond - t.clock.subsecond % nanosPerSecond, []) := by
      rw [hcut]
      rfl
    have h := Moment.ofIso?_append (t := t) hnone
    rw [List.append_nil, Clock.ofReading?_cut] at h
    exact h
  | micros =>
    have hmicros : t.clock.subsecond / 1000 < 10 ^ 6 := by
      unfold nanosPerSecond at hsub
      omega
    have hcut : t.clock.subsecond / 1000 * 10 ^ (9 - 6) =
        t.clock.subsecond - t.clock.subsecond % 1000 := by omega
    have h := Moment.ofIso?_append (t := t)
      (Moment.fraction?_padded (w := 6) (by decide) (by decide) hmicros)
    rw [hcut, Clock.ofReading?_cut] at h
    exact h

end Precision

end LogShift
