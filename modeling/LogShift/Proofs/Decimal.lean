import LogShift.Text.Decimal
import Mathlib.Data.List.Induction
import Mathlib.Tactic.Ring

/-! Digits written and read back: the value of a written number is that number, padded or not, and
every run of digits is the padded form of its value. -/
namespace LogShift.Decimal

theorem digit_lt {c : Char} (h : c.isDigit = true) : digit c < 10 := by
  have h9 : c.toNat ≤ 57 := (Char.isDigit_iff_toNat.mp h).2
  have h0 : '0'.toNat = 48 := rfl
  unfold digit
  omega

theorem digit_digitChar {d : Nat} (h : d < 10) : digit d.digitChar = d := by
  have key : ∀ d < 10, digit (Nat.digitChar d) = d := by decide
  exact key d h

theorem digitChar_digit {c : Char} (h : c.isDigit = true) : (digit c).digitChar = c := by
  have hlt := digit_lt h
  have hd : (digit c).digitChar.isDigit = true := by
    rw [Nat.isDigit_digitChar]
    simpa using hlt
  have key : digit (digit c).digitChar = digit c := digit_digitChar hlt
  simp only [Char.isDigit, Bool.and_eq_true, decide_eq_true_eq, ge_iff_le,
    UInt32.le_iff_toNat_le] at h hd
  have hc : 48 ≤ c.val.toNat := h.1
  have hd' : 48 ≤ (digit c).digitChar.val.toNat := hd.1
  have h0 : '0'.toNat = 48 := rfl
  apply Char.ext
  apply UInt32.toNat_inj.mp
  generalize (digit c).digitChar = e at *
  unfold digit Char.toNat at key h0
  omega

@[simp] theorem value_nil : value [] = 0 := rfl

theorem value_append_singleton (ds : Text) (c : Char) :
    value (ds ++ [c]) = 10 * value ds + digit c := by
  simp [value]

theorem value_cons (c : Char) (ds : Text) :
    value (c :: ds) = digit c * 10 ^ ds.length + value ds := by
  induction ds using List.reverseRecOn with
  | nil => simp [value]
  | append_singleton ds a ih =>
    rw [← List.cons_append, value_append_singleton, value_append_singleton, ih,
      List.length_append, List.length_singleton, Nat.pow_succ]
    ring

theorem value_lt {ds : Text} (h : ∀ c ∈ ds, c.isDigit = true) : value ds < 10 ^ ds.length := by
  induction ds using List.reverseRecOn with
  | nil => simp
  | append_singleton ds a ih =>
    have ha := digit_lt (h a (by simp))
    have hds := ih fun c hc => h c (by simp [hc])
    rw [value_append_singleton, List.length_append, List.length_singleton, Nat.pow_succ]
    omega

theorem natural_of_lt {n : Nat} (h : n < 10) : natural n = [n.digitChar] :=
  Nat.toDigits_of_lt_base h

theorem natural_of_le {n : Nat} (h : 10 ≤ n) :
    natural n = natural (n / 10) ++ [(n % 10).digitChar] :=
  Nat.toDigits_of_base_le (by omega) h

theorem isDigit_of_mem_natural {n : Nat} {c : Char} (h : c ∈ natural n) : c.isDigit = true :=
  Nat.isDigit_of_mem_toDigits (by omega) (by omega) h

theorem value_natural (n : Nat) : value (natural n) = n := by
  induction n using Nat.strongRecOn with
  | _ n ih =>
    by_cases h : n < 10
    · rw [natural_of_lt h]
      simp [value, digit_digitChar h]
    · rw [natural_of_le (by omega), value_append_singleton, ih (n / 10) (by omega),
        digit_digitChar (by omega)]
      omega

theorem natural_ne_nil (n : Nat) : natural n ≠ [] := by
  by_cases h : n < 10
  · simp [natural_of_lt h]
  · simp [natural_of_le (show 10 ≤ n by omega)]

/-- No superfluous zero stands in front. -/
theorem head?_natural {n : Nat} (h : 0 < n) : (natural n).head? ≠ some '0' := by
  induction n using Nat.strongRecOn with
  | _ n ih =>
    by_cases hn : n < 10
    · have hdigit : n.digitChar ≠ '0' := by
        have key : ∀ d < 10, 0 < d → d.digitChar ≠ '0' := by decide
        exact key n hn h
      simpa [natural_of_lt hn] using hdigit
    · have hrest := ih (n / 10) (by omega) (by omega)
      obtain ⟨c, ds, hds⟩ := List.exists_cons_of_ne_nil (natural_ne_nil (n / 10))
      rw [natural_of_le (by omega), hds]
      rw [hds] at hrest
      exact hrest

theorem padded_one {v : Nat} (h : v < 10) : padded 1 v = [v.digitChar] := by
  simp [padded, natural, Nat.toDigits_of_lt_base h, List.leftpad]

/-- The last digit of a padded number stands apart from those before it. -/
theorem padded_succ {w : Nat} (hw : 0 < w) (v : Nat) :
    padded (w + 1) v = padded w (v / 10) ++ [(v % 10).digitChar] := by
  unfold padded natural
  by_cases hv : 10 ≤ v
  · rw [Nat.toDigits_of_base_le (by omega) hv]
    simp [List.leftpad, ← List.append_assoc]
  · have h0 : v / 10 = 0 := by omega
    rw [Nat.toDigits_of_lt_base (by omega), h0, Nat.mod_eq_of_lt (by omega), Nat.toDigits_zero]
    obtain ⟨n, rfl⟩ : ∃ n, w = n + 1 := ⟨w - 1, by omega⟩
    simp [List.leftpad, List.replicate_succ']

theorem length_padded {w v : Nat} (hw : 0 < w) (hv : v < 10 ^ w) : (padded w v).length = w := by
  induction w generalizing v with
  | zero => omega
  | succ w ih =>
    by_cases h0 : w = 0
    · subst h0
      rw [padded_one (by simpa using hv)]
      rfl
    · have hv' : v / 10 < 10 ^ w := by
        rw [Nat.pow_succ] at hv
        omega
      rw [padded_succ (by omega), List.length_append, ih (by omega) hv', List.length_singleton]

theorem length_natural {v : Nat} (hv : v < 100) :
    (natural v).length = if v < 10 then 1 else 2 := by
  unfold natural
  split
  · rename_i h
    rw [Nat.toDigits_of_lt_base h]
    rfl
  · rename_i h
    rw [Nat.toDigits_of_base_le (by omega) (by omega), Nat.toDigits_of_lt_base (by omega)]
    rfl

theorem isDigit_of_mem_padded {w v : Nat} {c : Char} (h : c ∈ padded w v) : c.isDigit = true := by
  unfold padded List.leftpad at h
  rcases List.mem_append.mp h with h | h
  · rw [List.eq_of_mem_replicate h]
    rfl
  · exact Nat.isDigit_of_mem_toDigits (by omega) (by omega) h

theorem padded_eq_cons {w v : Nat} (hw : 0 < w) (hv : v < 10 ^ w) :
    ∃ c ds, padded w v = c :: ds ∧ c.isDigit = true := by
  have hlen := length_padded hw hv
  obtain ⟨c, ds, hds⟩ := List.exists_cons_of_length_pos (hlen ▸ hw)
  have hc : c.isDigit = true := isDigit_of_mem_padded (w := w) (v := v) (by simp [hds])
  exact ⟨c, ds, hds, hc⟩

theorem padded_eq_concat {w v : Nat} (hw : 0 < w) (hv : v < 10 ^ w) :
    ∃ ds c, padded w v = ds ++ [c] ∧ c.isDigit = true := by
  have hne : padded w v ≠ [] := by
    intro hnil
    have hlen := length_padded hw hv
    rw [hnil, List.length_nil] at hlen
    omega
  refine ⟨_, _, (List.dropLast_concat_getLast hne).symm, ?_⟩
  exact isDigit_of_mem_padded (List.getLast_mem hne)

theorem value_replicate_append (k : Nat) (ds : Text) :
    value (List.replicate k '0' ++ ds) = value ds := by
  induction k with
  | zero => rfl
  | succ k ih =>
    have hzero : digit '0' = 0 := rfl
    rw [List.replicate_succ, List.cons_append, value_cons, ih, hzero, Nat.zero_mul, Nat.zero_add]

theorem value_padded (w v : Nat) : value (padded w v) = v := by
  unfold padded List.leftpad
  rw [value_replicate_append, value_natural]

theorem padded_value {ds : Text} (hne : ds ≠ []) (h : ∀ c ∈ ds, c.isDigit = true) :
    padded ds.length (value ds) = ds := by
  induction ds using List.reverseRecOn with
  | nil => exact absurd rfl hne
  | append_singleton ds a ih =>
    have ha := h a (by simp)
    have hlt := digit_lt ha
    by_cases h0 : ds = []
    · subst h0
      have hv : value [a] = digit a := by simp [value]
      rw [List.nil_append, hv, List.length_singleton, padded_one hlt, digitChar_digit ha]
    · have hds : 0 < ds.length := List.length_pos_iff.mpr h0
      rw [List.length_append, List.length_singleton, padded_succ hds, value_append_singleton,
        show (10 * value ds + digit a) / 10 = value ds by omega,
        show (10 * value ds + digit a) % 10 = digit a by omega, digitChar_digit ha,
        ih h0 fun c hc => h c (by simp [hc])]

@[simp] theorem paddedInteger_natCast (w n : Nat) : paddedInteger w (n : Int) = padded w n := rfl

theorem fixed?_eq_some_iff_value {n v : Nat} {t rest : Text} :
    fixed? n t = some (v, rest) ↔
      ∃ ds, t = ds ++ rest ∧ ds.length = n ∧ (∀ c ∈ ds, c.isDigit = true) ∧ v = value ds := by
  induction n generalizing v t with
  | zero =>
    simp only [fixed?, Option.some.injEq, Prod.mk.injEq, List.length_eq_zero_iff]
    constructor
    · rintro ⟨rfl, rfl⟩
      exact ⟨[], rfl, rfl, by simp, rfl⟩
    · rintro ⟨ds, rfl, rfl, -, rfl⟩
      exact ⟨rfl, rfl⟩
  | succ n ih =>
    cases t with
    | nil =>
      constructor
      · simp [fixed?]
      · rintro ⟨ds, hds, hn, -⟩
        have := congrArg List.length hds
        simp at this
        omega
    | cons c t =>
      simp only [fixed?, Option.ite_none_right_eq_some, Option.map_eq_some_iff, Prod.exists,
        Prod.mk.injEq]
      constructor
      · rintro ⟨hc, u, r, hu, rfl, rfl⟩
        obtain ⟨ds, rfl, rfl, hd, rfl⟩ := ih.mp hu
        exact ⟨c :: ds, rfl, rfl, by simpa [hc] using hd, (value_cons c ds).symm⟩
      · rintro ⟨ds, hds, hn, hd, rfl⟩
        cases ds with
        | nil => simp at hn
        | cons a ds =>
          obtain ⟨rfl, rfl⟩ := List.cons_eq_cons.mp hds
          have hlen : ds.length = n := by simpa using hn
          have hvalue : digit c * Nat.pow 10 n + value ds = value (c :: ds) := by
            rw [value_cons, hlen]
            rfl
          refine ⟨hd c (by simp), value ds, rest, ?_, hvalue, rfl⟩
          exact ih.mpr ⟨ds, rfl, hlen, fun x hx => hd x (by simp [hx]), rfl⟩

/-- Exactly the padded numbers that fit are read from a place of `n` digits. -/
theorem fixed?_eq_some_iff {n : Nat} (hn : 0 < n) {v : Nat} {t rest : Text} :
    fixed? n t = some (v, rest) ↔ v < 10 ^ n ∧ t = padded n v ++ rest := by
  rw [fixed?_eq_some_iff_value]
  constructor
  · rintro ⟨ds, rfl, rfl, hd, rfl⟩
    rw [padded_value (List.length_pos_iff.mp hn) hd]
    exact ⟨value_lt hd, rfl⟩
  · rintro ⟨hv, rfl⟩
    exact ⟨padded n v, rfl, length_padded hn hv, fun c hc => isDigit_of_mem_padded hc,
      (value_padded n v).symm⟩

/-- A run takes all digits in reach: it is as long as allowed, or no digit stands behind it. -/
theorem run_eq_iff {n : Nat} {t ds rest : Text} :
    run n t = (ds, rest) ↔ t = ds ++ rest ∧ (∀ c ∈ ds, c.isDigit = true) ∧ ds.length ≤ n ∧
      (ds.length < n → rest.head?.any Char.isDigit = false) := by
  induction n generalizing t ds with
  | zero =>
    simp only [run, Prod.mk.injEq, Nat.le_zero, List.length_eq_zero_iff]
    constructor
    · rintro ⟨rfl, rfl⟩
      simp
    · rintro ⟨rfl, -, rfl, -⟩
      simp
  | succ n ih =>
    cases t with
    | nil =>
      simp only [run, Prod.mk.injEq]
      constructor
      · rintro ⟨rfl, rfl⟩
        simp
      · rintro ⟨h, -⟩
        have := List.append_eq_nil_iff.mp h.symm
        exact ⟨this.1.symm, this.2.symm⟩
    | cons c t =>
      by_cases hc : c.isDigit = true
      · simp only [run, hc, if_true, Prod.mk.injEq]
        constructor
        · rintro ⟨rfl, hr⟩
          have h := ih.mp (Prod.ext rfl hr : run n t = ((run n t).1, rest))
          refine ⟨by rw [List.cons_append, ← h.1], ?_, by simpa using h.2.2.1, ?_⟩
          · simpa [hc] using h.2.1
          · simpa using h.2.2.2
        · rintro ⟨hds, hd, hle, hstop⟩
          cases ds with
          | nil =>
            have hrest : rest = c :: t := by simpa using hds.symm
            have := hstop (by simp)
            simp [hrest, hc] at this
          | cons a ds =>
            obtain ⟨rfl, ht⟩ := List.cons_eq_cons.mp hds
            have h := ih.mpr ⟨ht, fun x hx => hd x (by simp [hx]), by simpa using hle,
              by simpa using hstop⟩
            rw [h]
            exact ⟨rfl, rfl⟩
      · simp only [run, hc, if_false, Prod.mk.injEq, Bool.false_eq_true]
        constructor
        · rintro ⟨rfl, rfl⟩
          simpa using hc
        · rintro ⟨hds, hd, -⟩
          cases ds with
          | nil => exact ⟨rfl, by simpa using hds⟩
          | cons a ds =>
            obtain ⟨rfl, -⟩ := List.cons_eq_cons.mp hds
            exact absurd (hd c (by simp)) hc

/-- A padded number fills its place, whatever follows. -/
theorem run_padded {w v : Nat} (hw : 0 < w) (hv : v < 10 ^ w) (rest : Text) :
    run w (padded w v ++ rest) = (padded w v, rest) := by
  have hlen := length_padded hw hv
  have hdigits : ∀ c ∈ padded w v, c.isDigit = true := fun c hc =>
    isDigit_of_mem_padded hc
  exact run_eq_iff.mpr ⟨rfl, hdigits, by omega, by omega⟩

end LogShift.Decimal
