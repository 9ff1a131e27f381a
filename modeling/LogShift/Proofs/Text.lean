import LogShift.Text.Blank
import Mathlib.Data.List.DropRight

/-! Cutting a text at a byte, the runs of characters that the line grammars skip, and what the steps
of a computation that succeeds have given. -/
namespace LogShift.Text

@[simp] theorem width_nil : width [] = 0 := rfl

@[simp] theorem width_cons (c : Char) (t : Text) : width (c :: t) = c.utf8Size + width t := rfl

theorem width_eq_zero_iff {t : Text} : width t = 0 ↔ t = [] := by
  cases t with
  | nil => simp
  | cons c t =>
    have := c.utf8Size_pos
    rw [width_cons]
    constructor
    · omega
    · simp

theorem width_eq_length {t : Text} (h : ∀ c ∈ t, c.utf8Size = 1) : t.width = t.length := by
  induction t with
  | nil => rfl
  | cons c t ih =>
    rw [width_cons, h c (by simp), ih fun a ha => h a (by simp [ha]), List.length_cons]
    omega

theorem width_replicate_space (n : Nat) : width (List.replicate n ' ') = n := by
  rw [width_eq_length, List.length_replicate]
  intro c hc
  rw [List.eq_of_mem_replicate hc]
  rfl

theorem dropBytes?_width_append (s t : Text) : dropBytes? (width s) (s ++ t) = some t := by
  induction s with
  | nil => cases t <;> rfl
  | cons c s ih =>
    have hc := c.utf8Size_pos
    obtain ⟨n, hn⟩ : ∃ n, c.utf8Size = n + 1 := ⟨c.utf8Size - 1, by omega⟩
    rw [width_cons, List.cons_append, hn, Nat.add_right_comm, dropBytes?, hn, if_pos (by omega),
      show n + width s + 1 - (n + 1) = width s by omega]
    exact ih

theorem dropBytes?_eq_some_iff {n : Nat} {t rest : Text} :
    dropBytes? n t = some rest ↔ ∃ lead, t = lead ++ rest ∧ width lead = n := by
  constructor
  · intro h
    fun_induction dropBytes? n t with
    | case1 t => exact ⟨[], by simpa using h, rfl⟩
    | case2 => simp at h
    | case3 n c t hc ih =>
      obtain ⟨lead, rfl, hw⟩ := ih h
      exact ⟨c :: lead, rfl, by rw [width_cons]; omega⟩
    | case4 => simp at h
  · rintro ⟨lead, rfl, rfl⟩
    exact dropBytes?_width_append lead rest

theorem takeBytes_width_append (s t : Text) : takeBytes (width s) (s ++ t) = s := by
  induction s with
  | nil =>
    cases t with
    | nil => rfl
    | cons c t =>
      have := c.utf8Size_pos
      rw [List.nil_append, width_nil, takeBytes, if_neg (by omega)]
  | cons c s ih =>
    rw [List.cons_append, width_cons, takeBytes, if_pos (by omega), Nat.add_sub_cancel_left, ih]

theorem dropBytes_width_append (s t : Text) : dropBytes (width s) (s ++ t) = t := by
  have h := takeBytes_append_dropBytes (width s) (s ++ t)
  rw [takeBytes_width_append] at h
  exact List.append_cancel_left h

theorem takeBytes_append (s t : Text) (n : Nat) :
    takeBytes (width s + n) (s ++ t) = s ++ takeBytes n t := by
  induction s with
  | nil => rw [width_nil, Nat.zero_add, List.nil_append, List.nil_append]
  | cons c s ih =>
    rw [List.cons_append, width_cons, takeBytes, if_pos (by omega), List.cons_append,
      show c.utf8Size + width s + n - c.utf8Size = width s + n by omega, ih]

theorem dropBytes_append (s t : Text) (n : Nat) :
    dropBytes (width s + n) (s ++ t) = dropBytes n t := by
  have h := takeBytes_append_dropBytes (width s + n) (s ++ t)
  rw [takeBytes_append, List.append_assoc] at h
  have hrest := List.append_cancel_left h
  exact List.append_cancel_left (hrest.trans (takeBytes_append_dropBytes n t).symm)

/-- Of two cuts of one text, the one at the lower byte comes first. -/
theorem append_eq_append_of_width_le {a b c d : Text} (h : a ++ b = c ++ d)
    (hw : width a ≤ width c) : ∃ x, c = a ++ x ∧ b = x ++ d := by
  rcases List.append_eq_append_iff.mp h with ⟨x, hc, hb⟩ | ⟨x, ha, hd⟩
  · exact ⟨x, hc, hb⟩
  · rw [ha, width_append] at hw
    have hx : x = [] := width_eq_zero_iff.mp (by omega)
    subst hx
    exact ⟨[], by simpa using ha.symm, by simpa using hd.symm⟩

theorem append_inj_of_width {a b c d : Text} (h : a ++ b = c ++ d) (hw : width a = width c) :
    a = c ∧ b = d := by
  obtain ⟨x, rfl, rfl⟩ := append_eq_append_of_width_le h (Nat.le_of_eq hw)
  rw [width_append] at hw
  have hx : x = [] := width_eq_zero_iff.mp (by omega)
  simp [hx]

theorem charAt?_eq_some_iff {n : Nat} {t : Text} {c : Char} :
    charAt? n t = some c ↔ ∃ lead rest, t = lead ++ c :: rest ∧ width lead = n := by
  unfold charAt?
  rw [Option.bind_eq_some_iff]
  constructor
  · rintro ⟨u, hu, hc⟩
    obtain ⟨lead, rfl, hw⟩ := dropBytes?_eq_some_iff.mp hu
    obtain ⟨rest, rfl⟩ := List.head?_eq_some_iff.mp hc
    exact ⟨lead, rest, rfl, hw⟩
  · rintro ⟨lead, rest, rfl, hw⟩
    exact ⟨c :: rest, dropBytes?_eq_some_iff.mpr ⟨lead, rfl, hw⟩, rfl⟩

theorem takeWhile_append_cons {p : Char → Bool} {s t : Text} {c : Char} (hs : ∀ a ∈ s, p a = true)
    (hc : p c = false) : (s ++ c :: t).takeWhile p = s := by
  rw [List.takeWhile_append_of_pos hs, List.takeWhile_cons_of_neg (by simp [hc]), List.append_nil]

theorem dropWhile_append_cons {p : Char → Bool} {s t : Text} {c : Char} (hs : ∀ a ∈ s, p a = true)
    (hc : p c = false) : (s ++ c :: t).dropWhile p = c :: t := by
  rw [List.dropWhile_append_of_pos hs, List.dropWhile_cons_of_neg (by simp [hc])]

/-- A run that ends inside a text is the same whatever follows the text. -/
theorem takeWhile_append_of_stop {p : Char → Bool} {s : Text} (h : ∃ a ∈ s, p a = false)
    (t : Text) :
    (s ++ t).takeWhile p = s.takeWhile p ∧ (s ++ t).dropWhile p = s.dropWhile p ++ t := by
  induction s with
  | nil => simp at h
  | cons c s ih =>
    cases hc : p c with
    | false => simp [hc]
    | true =>
      have hs : ∃ a ∈ s, p a = false := by
        obtain ⟨a, ha, hpa⟩ := h
        rcases List.mem_cons.mp ha with rfl | ha
        · rw [hc] at hpa
          cases hpa
        · exact ⟨a, ha, hpa⟩
      simp [hc, ih hs]

theorem cutAt?_eq_some_iff {c : Char} {t l r : Text} :
    cutAt? c t = some (l, r) ↔ t = l ++ c :: r ∧ c ∉ l := by
  induction t generalizing l with
  | nil => simp [cutAt?]
  | cons a t ih =>
    rw [cutAt?]
    split
    · rename_i hac
      subst hac
      cases l with
      | nil => simp [eq_comm]
      | cons b l => simp +contextual
    · rename_i hac
      cases l with
      | nil => simp [hac]
      | cons b l =>
        simp only [Option.map_eq_some_iff, Prod.exists, Prod.mk.injEq, List.cons.injEq,
          List.cons_append, List.mem_cons, not_or]
        constructor
        · rintro ⟨l', r', h, ⟨rfl, rfl⟩, rfl⟩
          obtain ⟨rfl, hl⟩ := ih.mp h
          exact ⟨⟨rfl, rfl⟩, Ne.symm hac, hl⟩
        · rintro ⟨⟨rfl, rfl⟩, -, hl⟩
          exact ⟨l, r, ih.mpr ⟨rfl, hl⟩, ⟨rfl, rfl⟩, rfl⟩

theorem dropWhile_isBlank_append {l z : Text} (hz : z.dropWhile isBlank = z) :
    (l ++ z).dropWhile isBlank = l.dropWhile isBlank ++ z := by
  rw [List.dropWhile_append]
  split
  · rename_i hnil
    rw [List.isEmpty_iff.mp hnil, hz, List.nil_append]
  · rfl

/-- Blanks that end before a given point end there whatever follows. -/
theorem afterBlanks?_append {l y a : Text} (hy : y.dropWhile isBlank = y)
    (h : afterBlanks? (l ++ y) = some a) :
    ∃ l', a = l' ++ y ∧
      ∀ z : Text, z.dropWhile isBlank = z → afterBlanks? (l ++ z) = some (l' ++ z) := by
  cases l with
  | nil =>
    cases y with
    | nil => simp [afterBlanks?] at h
    | cons c y =>
      cases hc : isBlank c with
      | false => simp [afterBlanks?, hc] at h
      | true =>
        have hle := (List.dropWhile_sublist (l := y) isBlank).length_le
        rw [List.dropWhile_cons_of_pos hc] at hy
        rw [hy, List.length_cons] at hle
        omega
  | cons b l =>
    rw [List.cons_append, afterBlanks?, Option.ite_none_right_eq_some, ← List.cons_append] at h
    obtain ⟨hb, ha⟩ := h
    rw [Option.some.injEq, dropWhile_isBlank_append hy] at ha
    refine ⟨_, ha.symm, ?_⟩
    intro z hz
    rw [List.cons_append, afterBlanks?, if_pos hb, ← List.cons_append,
      dropWhile_isBlank_append hz]

/-- A run of blanks ends at the first character that is none. -/
theorem afterBlanks?_eq_some_iff {t u : Text} :
    afterBlanks? t = some u ↔ ∃ blanks, (blanks ≠ [] ∧ ∀ c ∈ blanks, isBlank c = true) ∧
      t = blanks ++ u ∧ u.dropWhile isBlank = u := by
  constructor
  · intro h
    cases t with
    | nil => cases h
    | cons c t =>
      rw [afterBlanks?, Option.ite_none_right_eq_some, Option.some.injEq] at h
      obtain ⟨hc, rfl⟩ := h
      refine ⟨(c :: t).takeWhile isBlank, ⟨?_, ?_⟩, List.takeWhile_append_dropWhile.symm,
        List.dropWhile_idempotent isBlank _⟩
      · simp [hc]
      · intro a ha
        exact List.mem_takeWhile_imp ha
  · intro h
    obtain ⟨blanks, ⟨hne, hall⟩, rfl, hu⟩ := h
    obtain ⟨b, bs, rfl⟩ := List.exists_cons_of_ne_nil hne
    rw [List.cons_append, afterBlanks?, if_pos (hall b List.mem_cons_self), ← List.cons_append,
      List.dropWhile_append_of_pos hall, hu]

/-- One or more blanks. -/
def IsBlanks (t : Text) : Prop :=
  t ≠ [] ∧ ∀ c ∈ t, isBlank c = true

theorem dropWhile_eq_self_iff_head? {p : Char → Bool} {t : Text} :
    t.dropWhile p = t ↔ ∀ c ∈ t.head?, p c = false := by
  rw [List.dropWhile_eq_self_iff]
  cases t with
  | nil => simp
  | cons c t => simp

/-- A run is read up to where it stops. -/
theorem takeWhile_append_of_head? {p : Char → Bool} {l r : Text} (hl : ∀ c ∈ l, p c = true)
    (hr : ∀ c ∈ r.head?, p c = false) :
    (l ++ r).takeWhile p = l ∧ (l ++ r).dropWhile p = r := by
  have hdrop : (l ++ r).dropWhile p = r := by
    rw [List.dropWhile_append_of_pos hl, dropWhile_eq_self_iff_head?.mpr hr]
  have hsplit := List.takeWhile_append_dropWhile (p := p) (l := l ++ r)
  rw [hdrop] at hsplit
  exact ⟨List.append_cancel_right hsplit, hdrop⟩

theorem run_unique {p : Char → Bool} {l l' r r' : Text} (hl : ∀ c ∈ l, p c = true)
    (hl' : ∀ c ∈ l', p c = true) (hr : ∀ c ∈ r.head?, p c = false)
    (hr' : ∀ c ∈ r'.head?, p c = false) (h : l ++ r = l' ++ r') : l = l' ∧ r = r' := by
  obtain ⟨htake, hdrop⟩ := takeWhile_append_of_head? hl hr
  obtain ⟨htake', hdrop'⟩ := takeWhile_append_of_head? hl' hr'
  rw [h] at htake hdrop
  exact ⟨htake.symm.trans htake', hdrop.symm.trans hdrop'⟩

/-- A text has one part before its first `c`. -/
theorem cut_unique {c : Char} {l l' r r' : Text} (hl : c ∉ l) (hl' : c ∉ l')
    (h : l ++ c :: r = l' ++ c :: r') : l = l' ∧ r = r' := by
  have hcut := cutAt?_eq_some_iff.mpr ⟨h, hl'⟩
  rw [cutAt?_eq_some_iff.mpr ⟨rfl, hl⟩] at hcut
  cases hcut
  exact ⟨rfl, rfl⟩

theorem isWhiteSpace_of_isDigit {c : Char} (h : c.isDigit = true) : isWhiteSpace c = false := by
  have hlow : 48 ≤ c.toNat := (Char.isDigit_iff_toNat.mp h).1
  have hhigh : c.toNat ≤ 57 := (Char.isDigit_iff_toNat.mp h).2
  simp [isWhiteSpace]
  omega

@[simp] theorem trimStart_nil : trimStart [] = [] := rfl

theorem trimStart_cons {c : Char} (hc : isWhiteSpace c = false) (t : Text) :
    trimStart (c :: t) = c :: t :=
  List.dropWhile_cons_of_neg (by simp [hc])

/-- Behind a character that is no white space only what follows it is cut. -/
theorem trimEnd_append_cons {l r : Text} {c : Char} (hc : isWhiteSpace c = false) :
    trimEnd (l ++ c :: r) = l ++ c :: trimEnd r := by
  unfold trimEnd
  have hstop : (c :: l.reverse).dropWhile isWhiteSpace = c :: l.reverse :=
    List.dropWhile_cons_of_neg (by simp [hc])
  rw [List.reverse_append, List.reverse_cons, List.append_assoc, List.singleton_append,
    List.dropWhile_append, hstop]
  split
  · rename_i hnil
    rw [List.isEmpty_iff.mp hnil]
    simp
  · simp

theorem trimEnd_trimEnd (t : Text) : trimEnd (trimEnd t) = trimEnd t := by
  unfold trimEnd
  rw [List.reverse_reverse, List.dropWhile_idempotent isWhiteSpace]

theorem width_trim_le (t : Text) : t.trim.width ≤ t.width := by
  have hstart := congrArg width (List.takeWhile_append_dropWhile (p := isWhiteSpace) (l := t))
  have hend : ∀ u : Text, (trimEnd u).width ≤ u.width := by
    intro u
    have h := congrArg List.reverse
      (List.takeWhile_append_dropWhile (p := isWhiteSpace) (l := u.reverse))
    rw [List.reverse_append, List.reverse_reverse] at h
    have hw := congrArg width h
    rw [width_append] at hw
    unfold trimEnd
    omega
  rw [width_append] at hstart
  have := hend t.trimStart
  unfold trim
  unfold trimStart at *
  omega

end LogShift.Text

namespace LogShift

theorem bind_eq_ok_iff {ε α β : Type} {x : Except ε α} {f : α → Except ε β} {b : β} :
    x.bind f = .ok b ↔ ∃ a, x = .ok a ∧ f a = .ok b := by
  cases x <;> simp [Except.bind]

theorem mapError_eq_ok_iff {ε δ α : Type} {x : Except ε α} {f : ε → δ} {a : α} :
    x.mapError f = .ok a ↔ x = .ok a := by
  cases x with
  | error e =>
    constructor
    · intro h
      cases h
    · intro h
      cases h
  | ok b =>
    have hmap : (Except.ok b : Except ε α).mapError f = .ok b := rfl
    rw [hmap, Except.ok.injEq, Except.ok.injEq]

/-- A check that ends a computation early. -/
theorem ite_error_eq_ok_iff {ε α β : Type} {c : Prop} [Decidable c] {e : ε}
    {f : α → Except ε β} {x : Except ε β} {b : β} :
    (if c then (Except.error e).bind f else x) = .ok b ↔ ¬c ∧ x = .ok b := by
  split <;> simp_all [Except.bind]

theorem guard_eq_ok_iff {ε α : Type} {c : Prop} [Decidable c] {e : ε} {x : Except ε α} {a : α} :
    (if c then .error e else x) = .ok a ↔ ¬c ∧ x = .ok a := by
  split <;> simp_all

end LogShift
