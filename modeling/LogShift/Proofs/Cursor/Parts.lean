import LogShift.Line.Syslog
import LogShift.Line.Apache
import LogShift.Proofs.Cursor.Embedded
import LogShift.Proofs.Line.Syslog

/-! The parts of a line that are looked up by their bytes: the function and the path of a message,
the numbers in brackets of a source. Every byte that is indexed and every slice that is taken
exists. -/
namespace LogShift.Cursor

/-- The bytes at which `c` stands in a text that starts at byte `n`. -/
def indicesFrom (c : Char) (n : Nat) : Text → List Nat
  | [] => []
  | a :: t =>
    let later := indicesFrom c (n + a.utf8Size) t
    if a = c then n :: later else later

def indices (c : Char) (t : Text) : List Nat :=
  indicesFrom c 0 t

/-- A trial of its own from the front of a text. -/
def trial {α : Type} (t : Text) (s : Scan Unit α) : Option (Option α) :=
  (s.run t 0).map fun x => x.toOption.map Prod.fst

/-- A `name()` at the front of a message with a blank behind it. -/
def leadingFunction (msg : Text) : Option (Option Text) :=
  trial msg do
    let name ← takeWhile Line.Apache.isNameChar
    if name.isEmpty then refuse () else
    expect (eatText ['(', ')'])
    let stop ← pos
    expect expectBlanks
    need (msg.slice? 0 stop)

def isLowerByte (b : UInt8) : Bool :=
  0x61 ≤ b && b ≤ 0x7A

def isPathByte (b : UInt8) : Bool :=
  isUpperByte b || isLowerByte b || isDigitByte b || b == 0x2E || b == 0x5F || b == 0x2D

/-- The first byte from `j` on that is not of a segment. -/
def segmentStop (bs : Bytes) (j : Nat) : Option Nat :=
  if j < bs.length then do
    if isPathByte (← bs[j]?) then segmentStop bs (j + 1) else some j
  else some j
termination_by bs.length - j

theorem segmentStop_eq (bs : Bytes) (j : Nat) :
    segmentStop bs j = some (j + ((bs.drop j).takeWhile isPathByte).length) := by
  induction hlen : bs.length - j generalizing j with
  | zero =>
    rw [segmentStop, if_neg (by omega), List.drop_eq_nil_of_le (by omega)]
    rfl
  | succ k ih =>
    have hlt : j < bs.length := by omega
    rw [segmentStop, if_pos hlt, List.getElem?_eq_getElem hlt, List.drop_eq_getElem_cons hlt]
    show (if isPathByte bs[j] = true then _ else _) = _
    cases hb : isPathByte bs[j] with
    | true =>
      rw [if_pos rfl, ih (j + 1) (by omega), List.takeWhile_cons_of_pos hb, List.length_cons]
      congr 1
      omega
    | false =>
      rw [List.takeWhile_cons_of_neg (by simp [hb])]
      rfl

/-- Whether the bytes from `i` on are segments, each behind a slash, with at most one slash behind
the last; `n` segments stand before them. -/
def isPathFrom (bs : Bytes) (i n : Nat) : Option Bool :=
  if i < bs.length then
    match bs[i]? with
    | none => none
    | some b =>
      if b = 0x2F then
        match h : segmentStop bs (i + 1) with
        | none => none
        | some j =>
          if j = i + 1 then some (j == bs.length && 2 ≤ n) else isPathFrom bs j (n + 1)
      else some false
  else some (2 ≤ n)
termination_by bs.length - i
decreasing_by
  rw [segmentStop_eq] at h
  have := Option.some.inj h
  omega

def isPath (t : Text) : Option Bool :=
  isPathFrom (Utf8.encode t) 0 0

/-- The longest path that ends the message. -/
def trailingPath (msg : Text) : Option (Option Text) :=
  (indices '/' msg).findSomeM? fun i => do
    let suffix ← msg.slice? i msg.width
    return if ← isPath suffix then some suffix else none

/-- The digits of a group `[digits]` whose bracket stands at a byte. -/
def bracketedDigits (t : Text) (k : Nat) : Option (Option Text) :=
  match t.slice? (k + 1) t.width with
  | none => some none
  | some inner =>
    let len := ((Utf8.encode inner).takeWhile isDigitByte).length
    if 0 < len ∧ inner.byteAt? len = some 0x5D then (inner.slice? 0 len).map some else some none

def processToken (word : Text) : Option (Option (Text × Text)) :=
  (indices '[' word).reverse.findSomeM? fun k => do
    if k = 0 then return none
    match ← bracketedDigits word k with
    | none => return none
    | some digits => return some (← word.slice? 0 k, digits)

def componentName (source : Text) : Option Text := do
  let stop := Text.width (source.takeWhile fun c => !(c == '(' || c == '['))
  let name := (← source.slice? 0 stop).trim
  return if name.isEmpty then source else name

variable {t r : Text} {n : Nat}

theorem trial_eq {α : Type} {s : Scan Unit α} {o : Option α}
    (h : Agrees (fun a _ b => a = b) (s.run t 0) (orRefuse () o)) : trial t s = some o := by
  unfold trial
  cases o with
  | none =>
    rw [h.eq_error]
    rfl
  | some a =>
    obtain ⟨_, n, hrun, rfl⟩ := h.eq_ok
    rw [hrun]
    rfl

theorem findSomeM?_map {α β γ : Type} {f : β → Option (Option γ)} {key : α → β}
    {g : α → Option γ} {l : List α} (h : ∀ a ∈ l, f (key a) = some (g a)) :
    (l.map key).findSomeM? f = some (l.findSome? g) := by
  induction l with
  | nil => rfl
  | cons a l ih =>
    rw [List.map_cons, List.findSomeM?_cons, List.findSome?_cons, h a List.mem_cons_self]
    cases hg : g a with
    | none => exact ih fun b hb => h b (List.mem_cons_of_mem a hb)
    | some c => rfl

theorem leadingFunction_eq (msg : Text) :
    leadingFunction msg = some (Line.Apache.function? msg) := by
  have h₀ := Text.dropBytes?_zero msg
  refine trial_eq ?_
  unfold Line.Apache.function?
  rw [bind_of_ok (takeWhile_eq _ h₀)]
  have h₁ := dropBytes?_takeWhile Line.Apache.isNameChar h₀
  have hmsg : msg = msg.takeWhile Line.Apache.isNameChar ++ msg.dropWhile Line.Apache.isNameChar :=
    List.takeWhile_append_dropWhile.symm
  generalize msg.takeWhile Line.Apache.isNameChar = name at h₁ hmsg ⊢
  generalize msg.dropWhile Line.Apache.isNameChar = r₁ at h₁ hmsg ⊢
  dsimp only
  cases name.isEmpty with
  | true => exact .error ()
  | false =>
    refine (demand_passed _ h₁ (eatText_agrees _ h₁)).bind_option ?_
    rintro ⟨⟩ n' r₂ hr₂ h₂
    rw [bind_of_ok pos_eq]
    refine (demand_passed _ h₂ (expectBlanks_agrees h₂)).bind_option ?_
    rintro ⟨⟩ n'' r₃ - -
    have hr₁ := Text.after?_eq_some_iff.mp hr₂
    rw [hr₁] at h₁ hmsg
    have hslice := Text.slice?_zero (name ++ ['(', ')']) r₂
    rw [List.append_assoc, ← hmsg, Text.width_append, ← Nat.zero_add (Text.width name),
      ← eq_add_of_dropBytes? h₁ h₂] at hslice
    rw [need_eq hslice]
    exact .ok rfl

theorem isLowerByte_mirrors : Utf8.Mirrors isLowerByte Char.isLower := by
  refine .range 0x61 0x7A (by decide) (fun b => ?_) fun c => ?_
  · simp [isLowerByte, UInt8.le_iff_toNat_le]
  · show (decide (97 ≤ c.val) && decide (c.val ≤ 122)) = true ↔ _
    rw [Bool.and_eq_true, decide_eq_true_eq, decide_eq_true_eq, UInt32.le_iff_toNat_le,
      UInt32.le_iff_toNat_le]
    rfl

theorem isPathByte_mirrors : Utf8.Mirrors isPathByte Line.Apache.isPathChar :=
  have alphanum := (isUpperByte_mirrors.or isLowerByte_mirrors).or isDigitByte_mirrors
  ((alphanum.or (.beq (a := '.') (by decide))).or (.beq (a := '_') (by decide))).or
    (.beq (a := '-') (by decide))

theorem drop_encode (h : t.dropBytes? n = some r) : (Utf8.encode t).drop n = Utf8.encode r := by
  obtain ⟨lead, rfl, rfl⟩ := Text.dropBytes?_eq_some_iff.mp h
  rw [Utf8.encode_append, ← Utf8.length_encode, List.drop_left]

/-- Characters of a segment do not end it. -/
theorem isPathFrom_append {p q : Text} (h : ∀ c ∈ p, Line.Apache.isPathChar c = true) (k : Nat) :
    Line.Apache.isPathFrom k false (p ++ q) = Line.Apache.isPathFrom k false q := by
  induction p with
  | nil => rfl
  | cons c p ih =>
    have hc := h c List.mem_cons_self
    have hslash : c ≠ '/' := by
      rintro rfl
      cases hc
    rw [List.cons_append, Line.Apache.isPathFrom, if_neg (by decide), if_neg hslash, hc,
      Bool.true_and, ih fun a ha => h a (List.mem_cons_of_mem c ha)]

/-- Behind a slash a segment is read in one go; without one the slash has to be the last. -/
theorem isPathFrom_segment (k : Nat) (r : Text) :
    Line.Apache.isPathFrom k true r =
      if r.takeWhile Line.Apache.isPathChar = [] then r.isEmpty && decide (2 ≤ k)
      else Line.Apache.isPathFrom (k + 1) false (r.dropWhile Line.Apache.isPathChar) := by
  cases r with
  | nil => rfl
  | cons c r =>
    rw [Line.Apache.isPathFrom, if_pos rfl]
    cases hc : Line.Apache.isPathChar c with
    | false =>
      rw [List.takeWhile_cons_of_neg (by simp [hc]), if_pos rfl]
      rfl
    | true =>
      have hsegment : ∀ a ∈ r.takeWhile Line.Apache.isPathChar, Line.Apache.isPathChar a = true :=
        fun a ha => List.mem_takeWhile_imp ha
      have hread := isPathFrom_append (q := r.dropWhile Line.Apache.isPathChar) hsegment (k + 1)
      rw [List.takeWhile_append_dropWhile] at hread
      rw [List.takeWhile_cons_of_pos hc, if_neg (List.cons_ne_nil _ _),
        List.dropWhile_cons_of_pos hc, Bool.true_and, hread]

theorem segmentStop_encode (h : t.dropBytes? n = some r) :
    segmentStop (Utf8.encode t) n =
      some (n + Text.width (r.takeWhile Line.Apache.isPathChar)) := by
  rw [segmentStop_eq, drop_encode h, isPathByte_mirrors.takeWhile_encode, Utf8.length_encode]

section Loop

variable {bs : Bytes} {i k : Nat}

theorem isPathFrom_end (h : bs.length ≤ i) : isPathFrom bs i k = some (decide (2 ≤ k)) := by
  rw [isPathFrom, if_neg (Nat.not_lt.mpr h)]

theorem isPathFrom_other {b : UInt8} (h : bs[i]? = some b) (hb : b ≠ 0x2F) :
    isPathFrom bs i k = some false := by
  obtain ⟨hlt, -⟩ := List.getElem?_eq_some_iff.mp h
  rw [isPathFrom, if_pos hlt, h]
  exact if_neg hb

theorem isPathFrom_slash {j : Nat} (h : bs[i]? = some 0x2F) (hj : segmentStop bs (i + 1) = some j) :
    isPathFrom bs i k =
      if j = i + 1 then some (j == bs.length && 2 ≤ k) else isPathFrom bs j (k + 1) := by
  obtain ⟨hlt, -⟩ := List.getElem?_eq_some_iff.mp h
  rw [isPathFrom, if_pos hlt, h]
  dsimp only
  rw [if_pos rfl]
  split
  next hnone =>
    rw [hj] at hnone
    cases hnone
  next j' hj' =>
    rw [hj] at hj'
    cases hj'
    rfl

end Loop

/-- The scan of bytes goes from segment to segment as that of characters does. -/
theorem isPathFrom_eq (h : t.dropBytes? n = some r)
    (hhead : ∀ c ∈ r.head?, Line.Apache.isPathChar c = false) (k : Nat) :
    isPathFrom (Utf8.encode t) n k = some (Line.Apache.isPathFrom k false r) := by
  -- A round of the scan reads a slash and all of the segment behind it, not one character.
  induction hlen : r.length using Nat.strongRecOn generalizing n r k with
  | _ len ih =>
    have hwidth := Text.add_width_of_dropBytes? h
    rw [← Utf8.length_encode t] at hwidth
    cases r with
    | nil =>
      rw [isPathFrom_end (show _ ≤ n from Nat.le_of_eq hwidth.symm), Line.Apache.isPathFrom]
    | cons c r =>
      by_cases hc : c = '/'
      · subst hc
        have hbyte : (Utf8.encode t)[n]? = some 0x2F := by
          show t.byteAt? n = _
          rw [Text.byteAt?_of_dropBytes? h]
          rfl
        have h₁ : t.dropBytes? (n + 1) = some r := Text.dropBytes?_add (s := ['/']) h
        have hstop : ∀ c ∈ (r.dropWhile Line.Apache.isPathChar).head?,
            Line.Apache.isPathChar c = false :=
          Text.dropWhile_eq_self_iff_head?.mp (List.dropWhile_idempotent _ _)
        have hshorter : (r.dropWhile Line.Apache.isPathChar).length < len := by
          rw [← hlen, List.length_cons]
          exact Nat.lt_succ_of_le (List.dropWhile_sublist _).length_le
        have hsegment : n + 1 + Text.width (r.takeWhile Line.Apache.isPathChar) = n + 1 ↔
            r.takeWhile Line.Apache.isPathChar = [] := by
          rw [← Text.width_eq_zero_iff]
          omega
        rw [isPathFrom_slash hbyte (segmentStop_encode h₁)]
        show _ = some (Line.Apache.isPathFrom k true r)
        rw [isPathFrom_segment]
        simp only [hsegment]
        by_cases hnone : r.takeWhile Line.Apache.isPathChar = []
        · have hlast : (n + 1 == (Utf8.encode t).length) = r.isEmpty := by
            rw [Bool.eq_iff_iff, beq_iff_eq, List.isEmpty_iff, ← Text.width_eq_zero_iff,
              Utf8.length_encode, ← Text.add_width_of_dropBytes? h₁]
            omega
          rw [if_pos hnone, if_pos hnone, hnone, Text.width_nil, Nat.add_zero, hlast]
        · rw [if_neg hnone, if_neg hnone]
          exact ih _ hshorter (dropBytes?_takeWhile _ h₁) hstop (k + 1) rfl
      · have hchar : t.charAt? n = some c := by
          rw [Text.charAt?, h]
          rfl
        obtain ⟨b, hb, -⟩ := Text.exists_byteAt? (show n < t.width by
          have := c.utf8Size_pos
          rw [Utf8.length_encode, Text.width_cons] at hwidth
          omega)
        have hne : b ≠ 0x2F := by
          rintro rfl
          have hslash := (byteAt?_eq_some_iff (show '/'.toNat < 0x80 by decide)).mp hb
          exact hc (Option.some.inj (hchar.symm.trans hslash))
        rw [isPathFrom_other hb hne, Line.Apache.isPathFrom, if_neg (by decide), if_neg hc,
          hhead c rfl, Bool.false_and]

theorem isPath_slash (t : Text) : isPath ('/' :: t) = some (Line.Apache.isPath ('/' :: t)) := by
  refine isPathFrom_eq (Text.dropBytes?_zero _) ?_ 0
  intro c hc
  obtain rfl := Option.some.inj hc
  rfl

theorem trailingPath_eq (msg : Text) : trailingPath msg = some (Line.Apache.path? msg) := by
  suffices h : ∀ r n, msg.dropBytes? n = some r →
      (indicesFrom '/' n r).findSomeM? (fun i => do
        let suffix ← msg.slice? i msg.width
        return if ← isPath suffix then some suffix else none) = some (Line.Apache.path? r) from
    h msg 0 (Text.dropBytes?_zero msg)
  intro r
  induction r with
  | nil => exact fun _ _ => rfl
  | cons c r ih =>
    intro n h
    have hlater := ih (n + c.utf8Size) (Text.dropBytes?_add (s := [c]) h)
    rw [indicesFrom, Line.Apache.path?]
    by_cases hc : c = '/'
    · subst hc
      rw [if_pos rfl, List.findSomeM?_cons, Text.slice?_width h]
      show (isPath ('/' :: r) >>= fun b =>
        pure (if b = true then some ('/' :: r) else none)) >>= _ = _
      rw [isPath_slash]
      cases Line.Apache.isPath ('/' :: r) with
      | true => rfl
      | false => exact hlater
    · have hpath : Line.Apache.isPath (c :: r) = false := by
        simp [Line.Apache.isPath, hc]
      rw [if_neg hc, hpath, hlater]
      rfl

theorem bracketedDigits_eq {before inner : Text} (ht : t = before ++ '[' :: inner) :
    bracketedDigits t before.width = some (Line.bracketed? inner) := by
  have hinner : t.dropBytes? (before.width + 1) = some inner := by
    rw [ht]
    exact Text.dropBytes?_add (s := ['[']) (Text.dropBytes?_width_append before _)
  have hdigits : ∀ c ∈ inner.takeWhile Char.isDigit, c.isDigit = true := fun c hc =>
    List.mem_takeWhile_imp hc
  have hafter := dropBytes?_takeWhile Char.isDigit (Text.dropBytes?_zero inner)
  have hslice := Text.slice?_zero (inner.takeWhile Char.isDigit) (inner.dropWhile Char.isDigit)
  rw [List.takeWhile_append_dropWhile, width_digits hdigits] at hslice
  rw [Nat.zero_add, width_digits hdigits] at hafter
  have hclose : inner.byteAt? (inner.takeWhile Char.isDigit).length = some 0x5D ↔
      (inner.dropWhile Char.isDigit).head? = some ']' := by
    refine (byteAt?_eq_some_iff (show ']'.toNat < 0x80 by decide)).trans ?_
    rw [Text.charAt?, hafter, Option.bind_some]
  unfold bracketedDigits Line.bracketed?
  rw [Text.slice?_width hinner]
  dsimp only
  rw [isDigitByte_mirrors.takeWhile_encode, length_encode_digits hdigits, hslice]
  simp only [hclose, List.length_pos_iff, Bool.and_eq_true, Bool.not_eq_true', beq_iff_eq,
    List.isEmpty_eq_false_iff]
  split
  case isTrue => rfl
  case isFalse => rfl

theorem indicesFrom_eq (n : Nat) (t : Text) :
    indicesFrom '[' n t = (Line.brackets t).map fun p => n + Text.width p.1 := by
  induction t generalizing n with
  | nil => rfl
  | cons c t ih =>
    have hlater : indicesFrom '[' (n + c.utf8Size) t =
        ((Line.brackets t).map fun p => (c :: p.1, p.2)).map fun p => n + Text.width p.1 := by
      rw [ih, List.map_map]
      refine List.map_congr_left fun p _ => ?_
      show n + c.utf8Size + Text.width p.1 = n + Text.width (c :: p.1)
      rw [Text.width_cons, Nat.add_assoc]
    rw [indicesFrom, Line.brackets, hlater]
    by_cases hc : c = '['
    · rw [if_pos hc, if_pos hc]
      rfl
    · rw [if_neg hc, if_neg hc]

theorem indices_eq (t : Text) :
    indices '[' t = (Line.brackets t).map fun p => Text.width p.1 := by
  simp only [indices, indicesFrom_eq, Nat.zero_add]

theorem processToken_eq (word : Text) :
    processToken word = some (Line.OpenSsh.process? word) := by
  unfold processToken Line.OpenSsh.process?
  rw [indices_eq, ← List.map_reverse]
  refine findSomeM?_map ?_
  rintro ⟨name, inner⟩ hmem
  have hword := Line.mem_brackets_iff.mp (List.mem_reverse.mp hmem)
  have hslice := Text.slice?_zero name ('[' :: inner)
  rw [← hword] at hslice
  dsimp only
  rw [bracketedDigits_eq hword]
  cases name with
  | nil => rfl
  | cons c name =>
    have hne : ¬Text.width (c :: name) = 0 :=
      mt Text.width_eq_zero_iff.mp (List.cons_ne_nil c name)
    rw [if_neg hne]
    cases Line.bracketed? inner with
    | none => rfl
    | some digits =>
      show (word.slice? 0 (Text.width (c :: name)) >>= _) = _
      rw [hslice]
      rfl

theorem componentName_eq (source : Text) :
    componentName source = some (Line.Linux.component source) := by
  have hslice := Text.slice?_zero (source.takeWhile fun c => !(c == '(' || c == '['))
    (source.dropWhile fun c => !(c == '(' || c == '['))
  rw [List.takeWhile_append_dropWhile] at hslice
  unfold componentName Line.Linux.component
  dsimp only
  rw [hslice]
  rfl

end LogShift.Cursor
