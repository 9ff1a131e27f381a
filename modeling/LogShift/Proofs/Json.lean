import LogShift.Json
import LogShift.Proofs.Decimal

/-! The text of a value is read back as that value, in every layout. -/
namespace LogShift
namespace Json

theorem hexValue?_hexDigit {n : Nat} (h : n < 16) : hexValue? (hexDigit n) = some n := by
  have key : ∀ n < 16, hexValue? (hexDigit n) = some n := by decide
  exact key n h

theorem body?_escaped {e c : Char} (he : escaped? e = some c) (t : Text) :
    body? ('\\' :: e :: t) = (body? t).map fun (s, rest) => (c :: s, rest) := by
  have hu : e ≠ 'u' := by
    intro h
    subst h
    simp [escaped?] at he
  rw [body?]
  · rw [he]
    cases body? t <;> rfl
  · intro a b c d r h
    exact absurd h hu

theorem body?_unit {n : Nat} {a b c d : Char} (hn : unit? a b c d = some n) (hlt : n < 0xD800)
    (t : Text) :
    body? ('\\' :: 'u' :: a :: b :: c :: d :: t) =
      (body? t).map fun (s, rest) => (Char.ofNat n :: s, rest) := by
  rw [body?, hn]
  simp only [Option.bind_eq_bind, Option.bind_some]
  rw [if_neg (by omega), if_neg (by omega)]
  cases body? t <;> rfl

theorem body?_plain {c : Char} (hquote : c ≠ '"') (hslash : c ≠ '\\') (hc : 32 ≤ c.toNat)
    (t : Text) : body? (c :: t) = (body? t).map fun (s, rest) => (c :: s, rest) := by
  rw [body?.eq_def]
  split
  · simp_all
  · simp_all
  · simp_all
  · simp_all
  · rename_i heq
    obtain ⟨rfl, rfl⟩ := heq
    rw [if_neg (by simp [hslash]; omega)]
    cases body? t <;> rfl

/-- An escaped character is read as itself. -/
theorem body?_escape (c : Char) (t : Text) :
    body? (escape c ++ t) = (body? t).map fun (s, rest) => (c :: s, rest) := by
  unfold escape
  split
  · exact body?_escaped rfl t
  · exact body?_escaped rfl t
  · exact body?_escaped rfl t
  · exact body?_escaped rfl t
  · exact body?_escaped rfl t
  · rename_i hquote hslash _ _ _
    split
    · rename_i h
      have hc : escaped? 'b' = some c := by
        rw [← Char.ofNat_toNat c, h]
        rfl
      exact body?_escaped hc t
    split
    · rename_i h
      have hc : escaped? 'f' = some c := by
        rw [← Char.ofNat_toNat c, h]
        rfl
      exact body?_escaped hc t
    split
    · rename_i h
      have hunit : unit? '0' '0' (hexDigit (c.toNat / 16)) (hexDigit (c.toNat % 16)) =
          some c.toNat := by
        have hzero : hexValue? '0' = some 0 := rfl
        simp only [unit?, hzero, hexValue?_hexDigit (show c.toNat / 16 < 16 by omega),
          hexValue?_hexDigit (show c.toNat % 16 < 16 by omega)]
        simp
        omega
      have h' := body?_unit hunit (by omega) t
      rw [Char.ofNat_toNat] at h'
      exact h'
    · exact body?_plain hquote hslash (by omega) t

theorem body?_quoted (s rest : Text) :
    body? (s.flatMap escape ++ '"' :: rest) = some (s, rest) := by
  induction s with
  | nil => simp [body?]
  | cons c s ih =>
    rw [List.flatMap_cons, List.append_assoc, body?_escape, ih]
    rfl

/-- What may follow a value: the end, white space, a comma or a closing bracket. -/
def Ends (rest : Text) : Prop :=
  ∀ c ∈ rest.head?, isSpace c = true ∨ c = ',' ∨ c = ']' ∨ c = '\x7d'

theorem Ends.head_ne {rest : Text} (h : Ends rest) {c : Char} (hc : c ∈ rest.head?) :
    c.isDigit = false ∧ c ≠ '.' ∧ c ≠ 'e' ∧ c ≠ 'E' := by
  have hcases := h c hc
  simp only [isSpace, Bool.or_eq_true, beq_iff_eq] at hcases
  rcases hcases with (((rfl | rfl) | rfl) | rfl) | rfl | rfl | rfl <;> decide

theorem digits?_append {ds rest : Text} (hne : ds ≠ []) (hds : ∀ c ∈ ds, c.isDigit = true)
    (hrest : Ends rest) : digits? (ds ++ rest) = some (ds, rest) := by
  have hstop : rest.takeWhile Char.isDigit = [] ∧ rest.dropWhile Char.isDigit = rest := by
    cases rest with
    | nil => simp
    | cons c rest =>
      have hc := (hrest.head_ne (c := c) (by simp)).1
      simp [hc]
  have htake : (ds ++ rest).takeWhile Char.isDigit = ds := by
    rw [List.takeWhile_append_of_pos hds, hstop.1, List.append_nil]
  have hdrop : (ds ++ rest).dropWhile Char.isDigit = rest := by
    rw [List.dropWhile_append_of_pos hds, hstop.2]
  unfold digits?
  rw [htake, hdrop]
  simp [hne]

theorem not_padded_natural (n : Nat) :
    ¬(1 < (Decimal.natural n).length ∧ (Decimal.natural n).head? = some '0') := by
  rintro ⟨hlen, hhead⟩
  by_cases h : n = 0
  · subst h
    simp [Decimal.natural_of_lt] at hlen
  · exact Decimal.head?_natural (by omega) hhead

/-- The integer whose digits stand behind an optional sign. -/
theorem number?_of_sign {t rest : Text} {negative : Bool} {n : Nat}
    (hsign : sign t = (negative, Decimal.natural n ++ rest)) (hrest : Ends rest)
    (hn : if negative then 0 < n ∧ n ≤ 2 ^ 63 else n < 2 ^ 64) :
    number? t = some (.int (if negative then -(n : Int) else n), rest) := by
  have hdigits := digits?_append (Decimal.natural_ne_nil n)
    (fun c hc => Decimal.isDigit_of_mem_natural hc) hrest
  have hpadded := not_padded_natural n
  have hfraction : fractionPart? rest = some ([], rest) := by
    unfold fractionPart?
    split
    · exact absurd rfl (hrest.head_ne (c := '.') (by simp)).2.1
    · rfl
  have hexponent : exponentPart? rest = some ([], rest) := by
    unfold exponentPart?
    split
    · rfl
    · rename_i e r
      obtain ⟨-, -, he, hE⟩ := hrest.head_ne (c := e) (by simp)
      rw [if_neg (by simp [he, hE])]
  unfold number?
  rw [hsign]
  dsimp only [bind]
  rw [hdigits, Option.bind_some]
  dsimp only
  rw [if_neg hpadded, hfraction, Option.bind_some]
  dsimp only
  rw [hexponent, Option.bind_some]
  cases negative with
  | false =>
    have hlt : n < Nat.pow 2 64 := hn
    simp [Decimal.value_natural, hlt]
  | true =>
    have hpos : 0 < n := hn.1
    have hle : n ≤ Nat.pow 2 63 := hn.2
    simp [Decimal.value_natural, hpos, hle]

theorem sign_natural (n : Nat) (rest : Text) :
    sign (Decimal.natural n ++ rest) = (false, Decimal.natural n ++ rest) := by
  unfold sign
  split
  · rename_i r h
    obtain ⟨c, ds, hds⟩ := List.exists_cons_of_ne_nil (Decimal.natural_ne_nil n)
    rw [hds, List.cons_append, List.cons.injEq] at h
    have hdigit : c.isDigit = true := Decimal.isDigit_of_mem_natural (n := n) (by simp [hds])
    rw [h.1] at hdigit
    cases hdigit
  · rfl

theorem number?_integer {n : Int} (hmin : -2 ^ 63 ≤ n) (hmax : n < 2 ^ 64) {rest : Text}
    (hrest : Ends rest) : number? (Decimal.integer n ++ rest) = some (.int n, rest) := by
  cases n with
  | ofNat n =>
    have hn : n < 2 ^ 64 := by
      rw [Int.ofNat_eq_natCast] at hmax
      omega
    exact number?_of_sign (sign_natural n rest) hrest hn
  | negSucc n =>
    have hn : 0 < n + 1 ∧ n + 1 ≤ 2 ^ 63 := by omega
    have hsign : sign ('-' :: (Decimal.natural (n + 1) ++ rest)) =
        (true, Decimal.natural (n + 1) ++ rest) := rfl
    exact number?_of_sign hsign hrest hn

mutual

/-- No numbers but integers that 64 bits can hold. -/
def Exact : Json → Prop
  | .null | .bool _ | .str _ => True
  | .int n => -(2 ^ 63 : Int) ≤ n ∧ n < 2 ^ 64
  | .real _ => False
  | .arr items => ExactItems items
  | .obj fields => ExactFields fields

def ExactItems : List Json → Prop
  | [] => True
  | v :: vs => v.Exact ∧ ExactItems vs

def ExactFields : List (Text × Json) → Prop
  | [] => True
  | (_, v) :: fs => v.Exact ∧ ExactFields fs

end

section Space

variable {w : Text} (hw : ∀ c ∈ w, isSpace c = true)
include hw

theorem skipSpace_append (t : Text) : skipSpace (w ++ t) = skipSpace t :=
  List.dropWhile_append_of_pos hw

/-- White space in front of a value is skipped. -/
theorem value?_space (n : Nat) (t : Text) : value? n (w ++ t) = value? n t := by
  cases n with
  | zero => rfl
  | succ n =>
    unfold value?
    rw [skipSpace_append hw]

theorem items?_space (n : Nat) (t : Text) : items? n (w ++ t) = items? n t := by
  cases n with
  | zero => rfl
  | succ n =>
    unfold items?
    rw [value?_space hw]

theorem fields?_space (n : Nat) (t : Text) : fields? n (w ++ t) = fields? n t := by
  cases n with
  | zero => rfl
  | succ n =>
    unfold fields?
    rw [skipSpace_append hw]

end Space

theorem skipSpace_cons {c : Char} (hc : isSpace c = false) (t : Text) :
    skipSpace (c :: t) = c :: t :=
  List.dropWhile_cons_of_neg (by simp [hc])

section Number

variable {c : Char} (hc : c.isDigit = true ∨ c = '-')
include hc

theorem ne_of_number {d : Char} (hd : d.isDigit = false) (hminus : d ≠ '-') : c ≠ d := by
  rintro rfl
  rcases hc with hc | hc
  · rw [hd] at hc
    cases hc
  · exact hminus hc

theorem isSpace_of_number : isSpace c = false := by
  have hblank : c ≠ ' ' := ne_of_number hc rfl (by decide)
  have htab : c ≠ '\t' := ne_of_number hc rfl (by decide)
  have hline : c ≠ '\n' := ne_of_number hc rfl (by decide)
  have hreturn : c ≠ '\r' := ne_of_number hc rfl (by decide)
  simp [isSpace, hblank, htab, hline, hreturn]

/-- A value that starts with a digit or a minus is a number. -/
theorem value?_number (n : Nat) (t : Text) : value? (n + 1) (c :: t) = number? (c :: t) := by
  unfold value?
  rw [skipSpace_cons (isSpace_of_number hc)]
  split
  case h_7 => rfl
  all_goals
    rename_i h
    exact absurd (List.cons.inj h).1 (ne_of_number hc rfl (by decide))

end Number

theorem integer_eq_cons (n : Int) :
    ∃ c t, Decimal.integer n = c :: t ∧ (c.isDigit = true ∨ c = '-') := by
  cases n with
  | ofNat n =>
    obtain ⟨c, ds, hds⟩ := List.exists_cons_of_ne_nil (Decimal.natural_ne_nil n)
    have hdigit : c.isDigit = true := Decimal.isDigit_of_mem_natural (n := n) (by simp [hds])
    exact ⟨c, ds, hds, Or.inl hdigit⟩
  | negSucc n => exact ⟨'-', _, rfl, Or.inr rfl⟩

theorem value?_integer {n : Int} (hmin : -2 ^ 63 ≤ n) (hmax : n < 2 ^ 64) (steps : Nat)
    {rest : Text} (hrest : Ends rest) :
    value? (steps + 1) (Decimal.integer n ++ rest) = some (.int n, rest) := by
  obtain ⟨c, t, htext, hc⟩ := integer_eq_cons n
  have hnumber := number?_integer hmin hmax hrest
  rw [htext] at hnumber ⊢
  exact (value?_number hc steps (t ++ rest)).trans hnumber

theorem value?_quoted (s : Text) (n : Nat) (rest : Text) :
    value? (n + 1) (quoted s ++ rest) = some (.str s, rest) := by
  have hbody := body?_quoted s rest
  have htext : quoted s ++ rest = '"' :: (s.flatMap escape ++ '"' :: rest) := by
    simp [quoted]
  unfold value?
  rw [htext, skipSpace_cons rfl]
  simp [hbody]

/-- A text that starts as a value does: with no white space and no closing bracket. -/
def Opens (t : Text) : Prop :=
  ∃ c r, t = c :: r ∧ isSpace c = false ∧ c ≠ ']'

theorem opens_write {v : Json} (hv : v.Exact) (l : Layout) (level : Nat) :
    Opens (v.write l level) := by
  cases v with
  | null => exact ⟨'n', _, rfl, rfl, by decide⟩
  | bool b => cases b <;> exact ⟨_, _, rfl, rfl, by decide⟩
  | int n =>
    obtain ⟨c, t, htext, hc⟩ := integer_eq_cons n
    exact ⟨c, t, htext, isSpace_of_number hc, ne_of_number hc rfl (by decide)⟩
  | real literal => exact hv.elim
  | str t => exact ⟨'"', _, rfl, rfl, by decide⟩
  | arr items => cases items <;> exact ⟨'[', _, rfl, rfl, by decide⟩
  | obj fields => cases fields <;> exact ⟨'\x7b', _, rfl, rfl, by decide⟩

theorem ends_comma (t : Text) : Ends (',' :: t) := by
  simp [Ends]

theorem ends_close {w : Text} (hw : ∀ c ∈ w, isSpace c = true) {c : Char}
    (hc : c = ']' ∨ c = '\x7d') (t : Text) : Ends (w ++ c :: t) := by
  cases w with
  | nil => simp [Ends, hc]
  | cons a w =>
    have ha := hw a (by simp)
    simp [Ends, ha]

theorem joined_singleton (sep t : Text) : joined sep [t] = t := rfl

theorem joined_cons (sep t u : Text) (us : List Text) :
    joined sep (t :: u :: us) = t ++ sep ++ joined sep (u :: us) := rfl

section Step

variable {n : Nat} {w t u rest : Text} {v : Json}

theorem value?_array (hw : ∀ c ∈ w, isSpace c = true) (ht : Opens t) {vs : List Json}
    (h : items? n t = some (vs, rest)) :
    value? (n + 1) ('[' :: (w ++ t)) = some (.arr vs, rest) := by
  obtain ⟨c, r, rfl, hspace, hclose⟩ := ht
  have hskip : skipSpace (w ++ c :: r) = c :: r := by
    rw [skipSpace_append hw, skipSpace_cons hspace]
  simp [value?, skipSpace_cons, hskip, hclose, h, isSpace]

theorem value?_object (hw : ∀ c ∈ w, isSpace c = true) {fs : List (Text × Json)}
    (h : fields? n ('"' :: t) = some (fs, rest)) :
    value? (n + 1) ('\x7b' :: (w ++ '"' :: t)) = some (.obj fs, rest) := by
  have hskip : skipSpace (w ++ '"' :: t) = '"' :: t := by
    rw [skipSpace_append hw, skipSpace_cons rfl]
  simp [value?, skipSpace_cons, hskip, h, isSpace]

theorem items?_comma (hv : value? n t = some (v, ',' :: u)) {vs : List Json}
    (h : items? n u = some (vs, rest)) : items? (n + 1) t = some (v :: vs, rest) := by
  simp [items?, hv, skipSpace_cons, h, isSpace]

theorem items?_close (hw : ∀ c ∈ w, isSpace c = true)
    (hv : value? n t = some (v, w ++ ']' :: rest)) : items? (n + 1) t = some ([v], rest) := by
  simp [items?, hv, skipSpace_append hw, skipSpace_cons, isSpace]

theorem fields?_comma (k : Text) (hv : value? n t = some (v, ',' :: u))
    {fs : List (Text × Json)} (h : fields? n u = some (fs, rest)) :
    fields? (n + 1) (quoted k ++ ':' :: t) = some ((k, v) :: fs, rest) := by
  simp [fields?, quoted, body?_quoted, hv, skipSpace_cons, h, isSpace]

theorem fields?_close (k : Text) (hw : ∀ c ∈ w, isSpace c = true)
    (hv : value? n t = some (v, w ++ '\x7d' :: rest)) :
    fields? (n + 1) (quoted k ++ ':' :: t) = some ([(k, v)], rest) := by
  simp [fields?, quoted, body?_quoted, hv, skipSpace_append hw, skipSpace_cons, isSpace]

end Step

theorem joined_head (sep : Text) (c : Char) (t : Text) (ts : List Text) :
    joined sep ((c :: t) :: ts) = c :: joined sep (t :: ts) := by
  cases ts <;> rfl

mutual

/-- A written value is read back with what follows it left over. Each step of the reader takes a
character, so that the length of the text is steps enough. -/
theorem value?_write (l : Layout) : ∀ (v : Json), v.Exact → ∀ (level n : Nat) (rest : Text),
    (v.write l level).length ≤ n → Ends rest →
    value? n (v.write l level ++ rest) = some (v, rest)
  | v, hv, level, 0, _, hn, _ => by
    obtain ⟨c, r, htext, -⟩ := opens_write hv l level
    simp [htext] at hn
  | .null, _, _, n + 1, rest, _, _ => rfl
  | .bool true, _, _, n + 1, rest, _, _ => rfl
  | .bool false, _, _, n + 1, rest, _, _ => rfl
  | .int i, hv, _, n + 1, rest, _, hrest => value?_integer hv.1 hv.2 n hrest
  | .str t, _, _, n + 1, rest, _, _ => value?_quoted t n rest
  | .arr [], _, _, n + 1, rest, _, _ => rfl
  | .obj [], _, _, n + 1, rest, _, _ => rfl
  | .arr (v :: vs), hv, level, n + 1, rest, hn, _ => by
    simp only [write, List.length_append, List.length_cons, List.length_nil] at hn
    have hitems := items?_write l v vs hv (level + 1) n (l.gap level) rest (by omega)
      (l.gap_space level)
    obtain ⟨c, r, htext, hc⟩ := opens_write hv.1 l (level + 1)
    simp only [writeItems, htext, joined_head, List.cons_append] at hitems
    have h := value?_array (l.gap_space (level + 1)) ⟨c, _, rfl, hc⟩ hitems
    simpa [write, writeItems, htext, joined_head] using h
  | .obj ((k, v) :: fs), hv, level, n + 1, rest, hn, _ => by
    simp only [write, List.length_append, List.length_cons, List.length_nil] at hn
    have hfields := fields?_write l k v fs hv (level + 1) n (l.gap level) rest (by omega)
      (l.gap_space level)
    simp only [writeFields, quoted, joined_head, List.cons_append] at hfields
    have h := value?_object (l.gap_space (level + 1)) hfields
    simpa [write, writeFields, quoted, joined_head] using h
termination_by _ _ _ n => n

theorem items?_write (l : Layout) : ∀ (v : Json) (vs : List Json), ExactItems (v :: vs) →
    ∀ (level n : Nat) (w rest : Text),
    (joined (',' :: l.gap level) (writeItems l level (v :: vs))).length < n →
    (∀ c ∈ w, isSpace c = true) →
    items? n (joined (',' :: l.gap level) (writeItems l level (v :: vs)) ++ (w ++ ']' :: rest)) =
      some (v :: vs, rest)
  | v, [], hv, level, n + 1, w, rest, hn, hw => by
    have hvalue := value?_write l v hv.1 level n (w ++ ']' :: rest) (Nat.le_of_lt_succ hn)
      (ends_close hw (Or.inl rfl) rest)
    exact items?_close hw hvalue
  | v, v' :: vs, hv, level, n + 1, w, rest, hn, hw => by
    simp only [writeItems, joined_cons, List.length_append, List.length_cons] at hn
    have hitems := items?_write l v' vs hv.2 level n w rest
      (by simp only [writeItems]; omega) hw
    have hvalue := value?_write l v hv.1 level n
      (',' :: (l.gap level ++ (joined (',' :: l.gap level) (writeItems l level (v' :: vs)) ++
        (w ++ ']' :: rest)))) (by omega) (ends_comma _)
    have h := items?_comma hvalue ((items?_space (l.gap_space level) n _).trans hitems)
    simpa [writeItems, joined_cons] using h
termination_by _ _ _ _ n => n

theorem fields?_write (l : Layout) : ∀ (k : Text) (v : Json) (fs : List (Text × Json)),
    ExactFields ((k, v) :: fs) → ∀ (level n : Nat) (w rest : Text),
    (joined (',' :: l.gap level) (writeFields l level ((k, v) :: fs))).length < n →
    (∀ c ∈ w, isSpace c = true) →
    fields? n (joined (',' :: l.gap level) (writeFields l level ((k, v) :: fs)) ++
      (w ++ '\x7d' :: rest)) = some ((k, v) :: fs, rest)
  | k, v, [], hv, level, n + 1, w, rest, hn, hw => by
    simp only [writeFields, joined_singleton, List.length_append, List.length_cons] at hn
    have hvalue := value?_write l v hv.1 level n (w ++ '\x7d' :: rest) (by omega)
      (ends_close hw (Or.inr rfl) rest)
    have h := fields?_close k hw ((value?_space l.afterColon_space n _).trans hvalue)
    simpa [writeFields, joined_singleton] using h
  | k, v, (k', v') :: fs, hv, level, n + 1, w, rest, hn, hw => by
    simp only [writeFields, joined_cons, List.length_append, List.length_cons] at hn
    have hfields := fields?_write l k' v' fs hv.2 level n w rest
      (by simp only [writeFields]; omega) hw
    have hvalue := value?_write l v hv.1 level n
      (',' :: (l.gap level ++ (joined (',' :: l.gap level) (writeFields l level ((k', v') :: fs)) ++
        (w ++ '\x7d' :: rest)))) (by omega) (ends_comma _)
    have h := fields?_comma k ((value?_space l.afterColon_space n _).trans hvalue)
      ((fields?_space (l.gap_space level) n _).trans hfields)
    simpa [writeFields, joined_cons] using h
termination_by _ _ _ _ _ n => n

end

/-- The text of a value without reals denotes that value. -/
theorem read?_write (l : Layout) {v : Json} (hv : v.Exact) : read? (v.write l 0) = some v := by
  have hend : Ends [] := by simp [Ends]
  have h := value?_write l v hv 0 ((v.write l 0).length + 1) [] (Nat.le_succ _) hend
  rw [List.append_nil] at h
  unfold read?
  rw [h]
  rfl

/-! ### Control characters -/

/-- Without control characters, ends of lines among them. -/
def Printable (t : Text) : Prop :=
  ∀ c ∈ t, 32 ≤ c.toNat

theorem Printable.append {t u : Text} (ht : Printable t) (hu : Printable u) :
    Printable (t ++ u) := by
  intro c hc
  rcases List.mem_append.mp hc with hc | hc
  · exact ht c hc
  · exact hu c hc

theorem Printable.cons {c : Char} {t : Text} (hc : 32 ≤ c.toNat) (ht : Printable t) :
    Printable (c :: t) := by
  intro a ha
  rcases List.mem_cons.mp ha with rfl | ha
  · exact hc
  · exact ht a ha

theorem printable_nil : Printable [] := by
  simp [Printable]

theorem printable_joined {sep : Text} {ts : List Text} (hsep : Printable sep)
    (hts : ∀ t ∈ ts, Printable t) : Printable (joined sep ts) := by
  induction ts with
  | nil => exact printable_nil
  | cons t ts ih =>
    have ht := hts t (by simp)
    have hrest := ih fun u hu => hts u (by simp [hu])
    cases ts with
    | nil => exact ht
    | cons u us => exact (ht.append hsep).append hrest

theorem printable_hexDigit {n : Nat} (h : n < 16) : 32 ≤ (hexDigit n).toNat := by
  have key : ∀ n < 16, 32 ≤ (hexDigit n).toNat := by decide
  exact key n h

theorem printable_escape (c : Char) : Printable (escape c) := by
  unfold escape
  split
  · simp [Printable]
  · simp [Printable]
  · simp [Printable]
  · simp [Printable]
  · simp [Printable]
  split
  · simp [Printable]
  split
  · simp [Printable]
  split
  · rename_i h
    have hhigh := printable_hexDigit (show c.toNat / 16 < 16 by omega)
    have hlow := printable_hexDigit (show c.toNat % 16 < 16 by omega)
    simp [Printable, hhigh, hlow]
  · rename_i h
    simpa [Printable] using h

theorem printable_quoted (t : Text) : Printable (quoted t) := by
  have hbody : Printable (t.flatMap escape) := by
    intro c hc
    obtain ⟨a, -, hc⟩ := List.mem_flatMap.mp hc
    exact printable_escape a c hc
  unfold quoted
  exact (Printable.cons (by decide) hbody).append (by simp [Printable])

theorem printable_integer (n : Int) : Printable (Decimal.integer n) := by
  have hdigit : ∀ {c : Char}, c.isDigit = true → 32 ≤ c.toNat := by
    intro c hc
    have hlow : 48 ≤ c.toNat := (Char.isDigit_iff_toNat.mp hc).1
    omega
  have hnatural : ∀ n, Printable (Decimal.natural n) := fun n c hc =>
    hdigit (Decimal.isDigit_of_mem_natural hc)
  cases n with
  | ofNat n => exact hnatural n
  | negSucc n => exact Printable.cons (by decide) (hnatural (n + 1))

mutual

/-- The text of a value on one line has no control characters: those of its strings are escaped. -/
theorem printable_write : ∀ (v : Json), v.Exact → ∀ level, Printable (v.write .tight level)
  | .null, _, _ => by simp [write, Printable]
  | .bool b, _, _ => by cases b <;> simp [write, Printable]
  | .int n, _, _ => printable_integer n
  | .str t, _, _ => printable_quoted t
  | .arr [], _, _ => by simp [write, Printable]
  | .arr (v :: vs), hv, level => by
    have hcomma : Printable [','] := by simp [Printable]
    have hitems := printable_joined hcomma (printable_writeItems (v :: vs) hv (level + 1))
    exact ((Printable.cons (by decide) hitems).append printable_nil).append (by simp [Printable])
  | .obj [], _, _ => by simp [write, Printable]
  | .obj (f :: fs), hv, level => by
    have hcomma : Printable [','] := by simp [Printable]
    have hfields := printable_joined hcomma (printable_writeFields (f :: fs) hv (level + 1))
    exact ((Printable.cons (by decide) hfields).append printable_nil).append (by simp [Printable])

theorem printable_writeItems : ∀ (vs : List Json), ExactItems vs → ∀ level,
    ∀ t ∈ writeItems .tight level vs, Printable t
  | [], _, _ => by simp [writeItems]
  | v :: vs, hv, level => by
    have hfirst := printable_write v hv.1 level
    have hrest := printable_writeItems vs hv.2 level
    intro t ht
    rcases List.mem_cons.mp ht with rfl | ht
    · exact hfirst
    · exact hrest t ht

theorem printable_writeFields : ∀ (fs : List (Text × Json)), ExactFields fs → ∀ level,
    ∀ t ∈ writeFields .tight level fs, Printable t
  | [], _, _ => by simp [writeFields]
  | (k, v) :: fs, hv, level => by
    have hvalue := printable_write v hv.1 level
    have hcolon : Printable [':'] := by simp [Printable]
    have hfirst := ((printable_quoted k).append hcolon).append hvalue
    have hrest := printable_writeFields fs hv.2 level
    intro t ht
    rcases List.mem_cons.mp ht with rfl | ht
    · exact hfirst
    · exact hrest t ht

end

end Json

end LogShift
