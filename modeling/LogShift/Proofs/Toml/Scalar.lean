import LogShift.Proofs.Json
import LogShift.Proofs.Text
import LogShift.Toml.Reader
import Mathlib.Data.List.TakeDrop

/-! Scalars of a document: the text of a value on a line of its own is read back as that value. -/
namespace LogShift.Toml

/-! ### Quoted text -/

theorem basic?_escaped {e c : Char} (he : escaped? e = some c) (t : Text) :
    basic? ('\\' :: e :: t) = (basic? t).map fun (s, rest) => (c :: s, rest) := by
  have hx : e ≠ 'x' := by
    rintro rfl
    simp [escaped?] at he
  have hu : e ≠ 'u' := by
    rintro rfl
    simp [escaped?] at he
  have hU : e ≠ 'U' := by
    rintro rfl
    simp [escaped?] at he
  rw [basic?]
  · rw [he]
    cases basic? t <;> rfl
  · intro a b r h
    exact absurd h hx
  · intro a b c d r h
    exact absurd h hu
  · intro a b c d e f g h r heq
    exact absurd heq hU

theorem basic?_codePoint {digits : List Char} {c : Char} (hlen : digits.length = 4)
    (hc : codePoint? digits = some c) (t : Text) :
    basic? ('\\' :: 'u' :: (digits ++ t)) = (basic? t).map fun (s, rest) => (c :: s, rest) := by
  obtain ⟨a, b, d, e, rfl⟩ : ∃ a b d e, digits = [a, b, d, e] := by
    match digits, hlen with
    | [a, b, d, e], _ => exact ⟨a, b, d, e, rfl⟩
  simp only [List.cons_append, List.nil_append]
  rw [basic?, hc]
  cases basic? t <;> rfl

theorem basic?_plain {c : Char} (hquote : c ≠ '"') (hslash : c ≠ '\\') (hc : isPlain c = true)
    (t : Text) : basic? (c :: t) = (basic? t).map fun (s, rest) => (c :: s, rest) := by
  rw [basic?.eq_def]
  split
  · simp_all
  · simp_all
  · simp_all
  · simp_all
  · simp_all
  · simp_all
  · rename_i heq
    obtain ⟨rfl, rfl⟩ := heq
    rw [if_pos (by simp [hc, hslash])]
    cases basic? t <;> rfl

theorem codePoint?_hexDigits {n : Nat} (h : n < 128) :
    ((hexDigits n).leftpad 4 '0').length = 4 ∧
      codePoint? ((hexDigits n).leftpad 4 '0') = some (Char.ofNat n) := by
  have key : ∀ n < 128, ((hexDigits n).leftpad 4 '0').length = 4 ∧
      codePoint? ((hexDigits n).leftpad 4 '0') = some (Char.ofNat n) := by decide +kernel
  exact key n h

/-- An escaped character is read as itself. -/
theorem basic?_escape (c : Char) (t : Text) :
    basic? (escape c ++ t) = (basic? t).map fun (s, rest) => (c :: s, rest) := by
  unfold escape
  split
  · exact basic?_escaped rfl t
  · exact basic?_escaped rfl t
  · exact basic?_escaped rfl t
  · exact basic?_escaped rfl t
  · exact basic?_escaped rfl t
  · rename_i hquote hslash _ _ _
    split
    · rename_i h
      have hc : escaped? 'b' = some c := by
        rw [← Char.ofNat_toNat c, h]
        rfl
      exact basic?_escaped hc t
    split
    · rename_i h
      have hc : escaped? 'f' = some c := by
        rw [← Char.ofNat_toNat c, h]
        rfl
      exact basic?_escaped hc t
    split
    · rename_i h
      obtain ⟨hlen, hdigits⟩ := codePoint?_hexDigits (show c.toNat < 128 by omega)
      rw [Char.ofNat_toNat] at hdigits
      exact basic?_codePoint hlen hdigits t
    · rename_i h
      have hplain : isPlain c = true := by
        simp [isPlain]
        omega
      exact basic?_plain hquote hslash hplain t

theorem basic?_quoted (s rest : Text) :
    basic? (s.flatMap escape ++ '"' :: rest) = some (s, rest) := by
  induction s with
  | nil => simp [basic?]
  | cons c s ih =>
    rw [List.flatMap_cons, List.append_assoc, basic?_escape, ih]
    rfl

theorem head?_escape_ne_quote (c : Char) (t : Text) : (escape c ++ t).head? ≠ some '"' := by
  unfold escape
  split
  · simp
  · simp
  · simp
  · simp
  · simp
  · split
    · simp
    split
    · simp
    split
    · simp
    · simpa

/-- Three quotation marks open a text on several lines, but in front of the closing mark none
stands that is not escaped. -/
theorem quoted?_text (s : Text) {rest : Text} (hrest : rest.head? ≠ some '"') :
    quoted? ('"' :: (s.flatMap escape ++ '"' :: rest)) = some (s, rest) := by
  have hbasic := basic?_quoted s rest
  have hopen : ∀ r, s.flatMap escape ++ '"' :: rest ≠ '"' :: '"' :: r := by
    intro r h
    cases s with
    | nil =>
      have hquote : rest = '"' :: r := (List.cons.inj h).2
      simp [hquote] at hrest
    | cons c s =>
      have hhead := head?_escape_ne_quote c (s.flatMap escape ++ '"' :: rest)
      rw [List.flatMap_cons, List.append_assoc] at h
      simp [h] at hhead
  rw [quoted?.eq_def]
  split
  · rename_i r h
    exact absurd (List.cons.inj h).2 (hopen r)
  · rename_i r h
    rw [← (List.cons.inj h).2, hbasic]
  · rename_i h
    cases h
  · rename_i h
    cases h
  · rename_i h _ _
    exact absurd rfl (h _)

/-! ### Numbers and truth values -/

theorem splitOn_of_not_mem {c : Char} {t : Text} (h : c ∉ t) : Text.splitOn c t = [t] := by
  induction t with
  | nil => rfl
  | cons a t ih =>
    rw [List.mem_cons, not_or] at h
    rw [Text.splitOn, ih h.2]
    simp [Ne.symm h.1]

theorem whole?_natural (n : Nat) : whole? (Decimal.natural n) = some (Decimal.natural n) := by
  have hdigits : ∀ c ∈ Decimal.natural n, c.isDigit = true := fun c hc =>
    Decimal.isDigit_of_mem_natural hc
  have hsplit : Text.splitOn '_' (Decimal.natural n) = [Decimal.natural n] := by
    apply splitOn_of_not_mem
    intro h
    exact absurd (hdigits _ h) (by decide)
  have hgrouped : grouped? Char.isDigit (Decimal.natural n) = some (Decimal.natural n) := by
    unfold grouped?
    rw [hsplit]
    simpa [Decimal.natural_ne_nil] using hdigits
  unfold whole?
  rw [hgrouped]
  simp only [Option.bind_eq_bind, Option.bind_some]
  rw [if_neg (Json.not_padded_natural n)]

theorem decimalInteger?_integer (n : Int) : decimalInteger? (Decimal.integer n) = some n := by
  cases n with
  | ofNat n =>
    have hsign : sign (Decimal.natural n) = (false, Decimal.natural n) := by
      obtain ⟨c, ds, hds⟩ := List.exists_cons_of_ne_nil (Decimal.natural_ne_nil n)
      have hdigit : c.isDigit = true := Decimal.isDigit_of_mem_natural (n := n) (by simp [hds])
      rw [hds]
      unfold sign
      split
      · rename_i h
        rw [(List.cons.inj h).1] at hdigit
        cases hdigit
      · rename_i h
        rw [(List.cons.inj h).1] at hdigit
        cases hdigit
      · rfl
    unfold decimalInteger? Decimal.integer
    rw [hsign]
    simp [whole?_natural, Decimal.value_natural]
  | negSucc n =>
    have hsign : sign ('-' :: Decimal.natural (n + 1)) = (true, Decimal.natural (n + 1)) := rfl
    unfold decimalInteger? Decimal.integer
    rw [hsign]
    simp [whole?_natural, Decimal.value_natural]
    omega

theorem mem_integer {n : Int} {c : Char} (h : c ∈ Decimal.integer n) :
    c.isDigit = true ∨ c = '-' := by
  cases n with
  | ofNat n => exact .inl (Decimal.isDigit_of_mem_natural h)
  | negSucc n =>
    rcases List.mem_cons.mp h with rfl | h
    · exact .inr rfl
    · exact .inl (Decimal.isDigit_of_mem_natural h)

/-- No letter of a base stands in a decimal number. -/
theorem integer?_integer (n : Int) : integer? (Decimal.integer n) = some n := by
  have hletter : ∀ {a c : Char} {t : Text}, Decimal.integer n = a :: c :: t →
      c.isDigit = true ∨ c = '-' := by
    intro a c t h
    exact mem_integer (n := n) (by simp [h])
  unfold integer?
  split
  · rename_i h
    exact absurd (hletter h) (by decide)
  · rename_i h
    exact absurd (hletter h) (by decide)
  · rename_i h
    exact absurd (hletter h) (by decide)
  · exact decimalInteger?_integer n

theorem scalar?_integer (n : Int) : scalar? (Decimal.integer n) = some (.integer n) := by
  have hne : ∀ (a : Char) (t : Text), a.isDigit = false → a ≠ '-' →
      Decimal.integer n ≠ a :: t := by
    intro a t ha hminus h
    have hcases := mem_integer (n := n) (c := a) (by simp [h])
    simp [ha, hminus] at hcases
  have htrue : Decimal.integer n ≠ "true".toList := hne 't' "rue".toList rfl (by decide)
  have hfalse : Decimal.integer n ≠ "false".toList := hne 'f' "alse".toList rfl (by decide)
  unfold scalar?
  rw [if_neg htrue, if_neg hfalse, integer?_integer]

theorem scalarText_append {token : Text} (htoken : ∀ c ∈ token, isScalarChar c = true)
    (rest : Text) :
    scalarText (token ++ '\n' :: rest) = (token, '\n' :: rest) := by
  have hspan : (token ++ '\n' :: rest).span isScalarChar = (token, '\n' :: rest) := by
    rw [List.span_eq_takeWhile_dropWhile, Text.takeWhile_append_cons htoken rfl,
      Text.dropWhile_append_cons htoken rfl]
  unfold scalarText
  rw [hspan]
  rfl

theorem value?_cons {c : Char} (hbracket : c ≠ '[') (hbrace : c ≠ '\x7b') (fuel depth : Nat)
    (t : Text) :
    value? (fuel + 1) depth (c :: t) =
      if c = '"' ∨ c = '\'' then (quoted? (c :: t)).map fun (s, r) => (.string s, r)
      else (scalar? (scalarText (c :: t)).1).map fun v => (v, (scalarText (c :: t)).2) := by
  unfold value?
  split
  · rename_i h
    exact absurd (List.cons.inj h).1 hbracket
  · rename_i h
    exact absurd (List.cons.inj h).1 hbrace
  · rename_i h
    exact absurd (List.cons.inj h).1 hbracket
  · rename_i h
    exact absurd (List.cons.inj h).1 hbrace
  · rename_i h
    rw [(List.cons.inj h).1]
  · rename_i h
    cases h

theorem value?_string (s : Text) (fuel depth : Nat) (rest : Text) :
    value? (fuel + 1) depth ((Scalar.string s).text ++ '\n' :: rest) =
      some (.string s, '\n' :: rest) := by
  have htext : (Scalar.string s).text ++ '\n' :: rest =
      '"' :: (s.flatMap escape ++ '"' :: '\n' :: rest) := by
    simp [Scalar.text]
  rw [htext, value?_cons (by decide) (by decide), if_pos (.inl rfl), quoted?_text s (by simp)]
  rfl

/-- What is written without quotes and brackets. -/
theorem value?_token {token : Text} {v : Value} (hne : token ≠ [])
    (htoken : ∀ c ∈ token, isScalarChar c = true) (hv : scalar? token = some v)
    (fuel depth : Nat) (rest : Text) :
    value? (fuel + 1) depth (token ++ '\n' :: rest) = some (v, '\n' :: rest) := by
  have hsplit := scalarText_append htoken rest
  obtain ⟨c, t, rfl⟩ := List.exists_cons_of_ne_nil hne
  have hhead : ∀ d, isScalarChar d = false → c ≠ d := by
    intro d hd h
    have hc := htoken c (by simp)
    rw [h, hd] at hc
    cases hc
  rw [List.cons_append] at hsplit ⊢
  rw [value?_cons (hhead _ rfl) (hhead _ rfl),
    if_neg (not_or.mpr ⟨hhead _ rfl, hhead _ rfl⟩), hsplit, hv]
  rfl

/-- A scalar at the end of a line. -/
theorem value?_text (v : Scalar) (fuel depth : Nat) (rest : Text) :
    value? (fuel + 1) depth (v.text ++ '\n' :: rest) = some (v.value, '\n' :: rest) := by
  cases v with
  | string s => exact value?_string s fuel depth rest
  | integer n =>
    obtain ⟨c, t, htext, -⟩ := Json.integer_eq_cons n
    apply value?_token
    · simp [Scalar.text, htext]
    · intro c hc
      rcases mem_integer hc with h | rfl
      · simp [isScalarChar, Char.isAlphanum, h]
      · rfl
    · exact scalar?_integer n
  | boolean b =>
    cases b with
    | false => exact value?_token (by decide) (List.all_eq_true.mp rfl) rfl fuel depth rest
    | true => exact value?_token (by decide) (List.all_eq_true.mp rfl) rfl fuel depth rest

end LogShift.Toml
