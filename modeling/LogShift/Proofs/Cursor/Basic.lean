import LogShift.Proofs.Line.Fault
import LogShift.Proofs.Text.Slice

/-! Reading a text by the bytes of a cursor. Every slice, every index and every move of the cursor
is checked, and a scan has no outcome at all where one of them fails. Each operation is shown to
agree with reading the characters that are left, so that none of them fails and the cursor stays on
a boundary. -/
namespace LogShift.Cursor

/-- Reads a text from a byte on: a value and the byte behind what was read, or a refusal. The
outcome is `none` where a slice or an index does not exist. -/
structure Scan (ε α : Type) where
  run : Text → Nat → Option (Except ε (α × Nat))

section Operations

variable {ε α β : Type}

def Scan.bind (x : Scan ε α) (k : α → Scan ε β) : Scan ε β where
  run t n :=
    match x.run t n with
    | none => none
    | some (.error e) => some (.error e)
    | some (.ok (a, n')) => (k a).run t n'

instance : Monad (Scan ε) where
  pure a := ⟨fun _ n => some (.ok (a, n))⟩
  bind := Scan.bind

def refuse (e : ε) : Scan ε α := ⟨fun _ _ => some (.error e)⟩

def input : Scan ε Text := ⟨fun t n => some (.ok (t, n))⟩

def pos : Scan ε Nat := ⟨fun _ n => some (.ok (n, n))⟩

/-- A slice or an element that has to exist. -/
def need (o : Option α) : Scan ε α := ⟨fun _ n => o.map fun a => .ok (a, n)⟩

/-- Puts the cursor on a byte that has to be a boundary. -/
def seek (n : Nat) : Scan ε Unit := ⟨fun t _ => (t.dropBytes? n).map fun _ => .ok ((), n)⟩

def advance (k : Nat) : Scan ε Unit := do
  seek ((← pos) + k)

def rest : Scan ε Text := do
  let t ← input
  need (t.slice? (← pos) t.width)

def eat (c : Char) : Scan ε (Option Unit) := do
  if (← rest).head? = some c then
    advance c.utf8Size
    return some ()
  else return none

def eatText (lead : Text) : Scan ε (Option Unit) := do
  if lead.isPrefixOf (← rest) then
    advance lead.width
    return some ()
  else return none

def takeWhile (p : Char → Bool) : Scan ε Text := do
  let r ← rest
  let front : Text := r.takeWhile p
  advance front.width
  need (r.slice? 0 front.width)

def skipBlanks : Scan ε Nat := do
  return (← takeWhile isBlank).width

def expectBlanks : Scan ε (Option Unit) := do
  return if (← skipBlanks) = 0 then none else some ()

/-- Up to the first `c`, but not beyond it. -/
def takeUntil (c : Char) : Scan ε (Option Text) := do
  let r ← rest
  match r.cutAt? c with
  | none => return none
  | some (front, _) =>
    advance front.width
    return some (← need (r.slice? 0 front.width))

def isDigitByte (b : UInt8) : Bool :=
  0x30 ≤ b && b ≤ 0x39

def byteValue (bs : Bytes) : Nat :=
  bs.foldl (fun n b => 10 * n + (b.toNat - 0x30)) 0

/-- The first `n` bytes, if there are so many. -/
def frontBytes? (n : Nat) (bs : Bytes) : Option Bytes :=
  if n ≤ bs.length then some (bs.take n) else none

def fixedDigits (count : Nat) : Scan ε (Option Nat) := do
  let bs := Utf8.encode (← rest)
  if bs.length < count then return none
  let front ← need (frontBytes? count bs)
  if front.all isDigitByte then
    advance count
    return some (byteValue front)
  else return none

/-- At least `min` digits and at most `max` of them, with their number. -/
def digits (min max : Nat) : Scan ε (Option (Nat × Nat)) := do
  let bs := Utf8.encode (← rest)
  let len := ((bs.take max).takeWhile isDigitByte).length
  if len < min then return none
  let front ← need (frontBytes? len bs)
  advance len
  return some (byteValue front, len)

/-- The place in a list of the name that stands here. -/
def oneOf (names : List Text) : Scan ε (Option Nat) := do
  let r ← rest
  match names.findIdx? fun name => name.isPrefixOf r with
  | none => return none
  | some i =>
    advance (← need names[i]?).width
    return some i

/-- The value of a scan that must have one, or a refusal that may name the place. -/
def demand (fault : Nat → ε) (s : Scan ε (Option α)) : Scan ε α := do
  match ← s with
  | some a => return a
  | none => refuse (fault (← pos))

/-- Moves only if the scan does not refuse. -/
def attempt (s : Scan Unit α) : Scan ε (Option α) where
  run t n :=
    match s.run t n with
    | none => none
    | some (.error _) => some (.ok (none, n))
    | some (.ok (a, n')) => some (.ok (some a, n'))

end Operations

/-- A scan ends as a computation on characters does: with the same refusal, or with a value and a
place that stand in `R` to what the computation gives. -/
inductive Agrees {ε α β : Type} (R : α → Nat → β → Prop) :
    Option (Except ε (α × Nat)) → Except ε β → Prop
  | ok {a : α} {n : Nat} {b : β} : R a n b → Agrees R (some (.ok (a, n))) (.ok b)
  | error (e : ε) : Agrees R (some (.error e)) (.error e)

/-- The same value, with the cursor before the characters that are left. -/
def Behind {α : Type} (t : Text) (a : α) (n : Nat) (b : α × Text) : Prop :=
  a = b.1 ∧ t.dropBytes? n = some b.2

/-- No value, with the cursor before the characters that are left. -/
def Passed (t : Text) (_ : Unit) (n : Nat) (r : Text) : Prop :=
  t.dropBytes? n = some r

def orRefuse {ε α : Type} (e : ε) : Option α → Except ε α
  | some a => .ok a
  | none => .error e

/-- The outcome of a trial before `r`, which leaves all of it if it fails. -/
def tried {α : Type} (r : Text) : Option (α × Text) → Option α × Text
  | some (a, r') => (some a, r')
  | none => (none, r)

section Agreement

variable {ε α β γ δ : Type} {t r : Text} {n : Nat}

theorem Agrees.eq_ok {R : α → Nat → β → Prop} {o : Option (Except ε (α × Nat))} {b : β}
    (h : Agrees R o (.ok b)) : ∃ a n, o = some (.ok (a, n)) ∧ R a n b := by
  cases h with
  | ok hR => exact ⟨_, _, rfl, hR⟩

theorem Agrees.eq_error {R : α → Nat → β → Prop} {o : Option (Except ε (α × Nat))} {e : ε}
    (h : Agrees R o (.error e)) : o = some (.error e) := by
  cases h
  rfl

theorem Agrees.imp {R R' : α → Nat → β → Prop} {o : Option (Except ε (α × Nat))} {y : Except ε β}
    (h : Agrees R o y) (hR : ∀ a n b, y = .ok b → R a n b → R' a n b) : Agrees R' o y := by
  cases h with
  | ok h => exact .ok (hR _ _ _ rfl h)
  | error e => exact .error e

theorem orRefuse_eq_ok_iff {e : ε} {o : Option α} {a : α} : orRefuse e o = .ok a ↔ o = some a := by
  cases o <;> simp [orRefuse]

theorem Agrees.bind {R : α → Nat → β → Prop} {R' : γ → Nat → δ → Prop} {x : Scan ε α}
    {k : α → Scan ε γ} {y : Except ε β} {k' : β → Except ε δ} (h : Agrees R (x.run t n) y)
    (hk : ∀ a n' b, y = .ok b → R a n' b → Agrees R' ((k a).run t n') (k' b)) :
    Agrees R' ((x >>= k).run t n) (y >>= k') := by
  show Agrees R' ((x.bind k).run t n) (y.bind k')
  unfold Scan.bind
  dsimp only
  generalize x.run t n = o at h
  cases h with
  | ok hR => exact hk _ _ _ rfl hR
  | error e => exact .error e

/-- As `Agrees.bind`, for a computation that refuses without a reason. -/
theorem Agrees.bind_option {R : α → Nat → β → Prop} {R' : γ → Nat → δ → Prop} {x : Scan ε α}
    {k : α → Scan ε γ} {e : ε} {o : Option β} {k' : β → Option δ}
    (h : Agrees R (x.run t n) (orRefuse e o))
    (hk : ∀ a n' b, o = some b → R a n' b → Agrees R' ((k a).run t n') (orRefuse e (k' b))) :
    Agrees R' ((x >>= k).run t n) (orRefuse e (o.bind k')) := by
  have hbind : orRefuse e (o.bind k') = orRefuse e o >>= fun b => orRefuse e (k' b) := by
    cases o <;> rfl
  rw [hbind]
  refine h.bind ?_
  intro a n' b hb
  exact hk a n' b (orRefuse_eq_ok_iff.mp hb)

theorem bind_of_ok {x : Scan ε α} {k : α → Scan ε γ} {a : α} {n' : Nat}
    (h : x.run t n = some (.ok (a, n'))) : (x >>= k).run t n = (k a).run t n' := by
  show (x.bind k).run t n = _
  unfold Scan.bind
  simp only [h]

theorem bind_of_error {x : Scan ε α} {k : α → Scan ε γ} {e : ε}
    (h : x.run t n = some (.error e)) : (x >>= k).run t n = some (.error e) := by
  show (x.bind k).run t n = _
  unfold Scan.bind
  simp only [h]

theorem pos_eq : (pos : Scan ε Nat).run t n = some (.ok (n, n)) := rfl

theorem input_eq : (input : Scan ε Text).run t n = some (.ok (t, n)) := rfl

theorem need_eq {o : Option α} {a : α} (h : o = some a) :
    (need o : Scan ε α).run t n = some (.ok (a, n)) := by
  rw [h]
  rfl

theorem seek_eq {n' : Nat} (h : t.dropBytes? n' = some r) :
    (seek n' : Scan ε Unit).run t n = some (.ok ((), n')) := by
  show (t.dropBytes? n').map (fun _ => Except.ok ((), n')) = _
  rw [h]
  rfl

theorem rest_eq (h : t.dropBytes? n = some r) :
    (rest : Scan ε Text).run t n = some (.ok (r, n)) := by
  rw [rest, bind_of_ok input_eq, bind_of_ok pos_eq, need_eq (Text.slice?_width h)]

theorem advance_eq {s : Text} (h : t.dropBytes? n = some (s ++ r)) :
    (advance s.width : Scan ε Unit).run t n = some (.ok ((), n + s.width)) := by
  rw [advance, bind_of_ok pos_eq, seek_eq (Text.dropBytes?_add h)]

theorem isPrefixOf_eq (lead r : Text) : lead.isPrefixOf r = (Text.after? lead r).isSome := by
  rw [Bool.eq_iff_iff, List.isPrefixOf_iff_prefix, Option.isSome_iff_exists]
  constructor
  · rintro ⟨r', rfl⟩
    exact ⟨r', Text.after?_eq_some_iff.mpr rfl⟩
  · rintro ⟨r', hr⟩
    exact ⟨r', (Text.after?_eq_some_iff.mp hr).symm⟩

theorem eatText_agrees (lead : Text) (h : t.dropBytes? n = some r) :
    Agrees (Behind t) ((eatText lead : Scan ε _).run t n)
      (.ok (tried r ((Text.after? lead r).map fun r' => ((), r')))) := by
  unfold eatText
  rw [bind_of_ok (rest_eq h), isPrefixOf_eq]
  cases hr : Text.after? lead r with
  | none => exact .ok ⟨rfl, h⟩
  | some r' =>
    obtain rfl := Text.after?_eq_some_iff.mp hr
    rw [if_pos Option.isSome_some, bind_of_ok (advance_eq h)]
    exact .ok ⟨rfl, Text.dropBytes?_add h⟩

theorem eat_eq_eatText (c : Char) : (eat c : Scan ε (Option Unit)) = eatText [c] := by
  have hone : ∀ r : Text, r.head? = some c ↔ ([c] : Text).isPrefixOf r = true := by
    intro r
    rw [List.isPrefixOf_iff_prefix, List.singleton_prefix_iff_head?_eq_some]
  unfold eat eatText
  simp only [hone]
  rfl

theorem eat_agrees (c : Char) (h : t.dropBytes? n = some r) :
    Agrees (Behind t) ((eat c : Scan ε _).run t n)
      (.ok (tried r ((Text.after? [c] r).map fun r' => ((), r')))) := by
  rw [eat_eq_eatText]
  exact eatText_agrees [c] h

theorem takeWhile_eq (p : Char → Bool) (h : t.dropBytes? n = some r) :
    (takeWhile p : Scan ε _).run t n =
      some (.ok (r.takeWhile p, n + Text.width (r.takeWhile p))) := by
  unfold takeWhile
  rw [bind_of_ok (rest_eq h)]
  have hr : r = r.takeWhile p ++ r.dropWhile p := List.takeWhile_append_dropWhile.symm
  generalize r.takeWhile p = front at hr ⊢
  generalize r.dropWhile p = back at hr
  subst hr
  rw [bind_of_ok (advance_eq h), need_eq (Text.slice?_zero front back)]

theorem dropBytes?_takeWhile (p : Char → Bool) (h : t.dropBytes? n = some r) :
    t.dropBytes? (n + Text.width (r.takeWhile p)) = some (r.dropWhile p) :=
  Text.dropBytes?_add (by rwa [List.takeWhile_append_dropWhile])

theorem takeWhile_agrees (p : Char → Bool) (h : t.dropBytes? n = some r) :
    Agrees (Behind t) ((takeWhile p : Scan ε _).run t n) (.ok (r.takeWhile p, r.dropWhile p)) := by
  rw [takeWhile_eq p h]
  exact .ok ⟨rfl, dropBytes?_takeWhile p h⟩

theorem skipBlanks_eq (h : t.dropBytes? n = some r) :
    (skipBlanks : Scan ε _).run t n =
      some (.ok (Text.width (r.takeWhile isBlank), n + Text.width (r.takeWhile isBlank))) := by
  unfold skipBlanks
  rw [bind_of_ok (takeWhile_eq isBlank h)]
  rfl

theorem skipBlanks_agrees (h : t.dropBytes? n = some r) :
    Agrees (Behind t) ((skipBlanks : Scan ε _).run t n)
      (.ok (Text.width (r.takeWhile isBlank), r.dropWhile isBlank)) := by
  rw [skipBlanks_eq h]
  exact .ok ⟨rfl, dropBytes?_takeWhile isBlank h⟩

theorem expectBlanks_eq (h : t.dropBytes? n = some r) :
    (expectBlanks : Scan ε _).run t n = some (.ok
      (if (r.takeWhile isBlank).isEmpty then none else some (),
        n + Text.width (r.takeWhile isBlank))) := by
  have hzero : (Text.width (r.takeWhile isBlank) = 0) = ((r.takeWhile isBlank).isEmpty = true) := by
    rw [List.isEmpty_iff, Text.width_eq_zero_iff]
  unfold expectBlanks
  rw [bind_of_ok (skipBlanks_eq h)]
  simp only [hzero]
  rfl

theorem expectBlanks_agrees (h : t.dropBytes? n = some r) :
    Agrees (Behind t) ((expectBlanks : Scan ε _).run t n)
      (.ok (tried r ((Text.afterBlanks? r).map fun r' => ((), r')))) := by
  have hrest := dropBytes?_takeWhile isBlank h
  rw [expectBlanks_eq h]
  cases r with
  | nil => exact .ok ⟨rfl, h⟩
  | cons c r =>
    rw [Text.afterBlanks?]
    cases hc : isBlank c with
    | false =>
      rw [List.takeWhile_cons_of_neg (by simp [hc])]
      exact .ok ⟨rfl, h⟩
    | true =>
      rw [List.takeWhile_cons_of_pos hc] at hrest ⊢
      exact .ok ⟨rfl, hrest⟩

theorem takeUntil_agrees (c : Char) (h : t.dropBytes? n = some r) :
    Agrees (Behind t) ((takeUntil c : Scan ε _).run t n)
      (.ok (tried r ((r.cutAt? c).map fun (front, r') => (front, c :: r')))) := by
  unfold takeUntil
  rw [bind_of_ok (rest_eq h)]
  cases hr : r.cutAt? c with
  | none => exact .ok ⟨rfl, h⟩
  | some cut =>
    obtain ⟨front, r'⟩ := cut
    obtain ⟨rfl, -⟩ := Text.cutAt?_eq_some_iff.mp hr
    dsimp only
    rw [bind_of_ok (advance_eq h), bind_of_ok (need_eq (Text.slice?_zero front (c :: r')))]
    exact .ok ⟨rfl, Text.dropBytes?_add h⟩

theorem isDigitByte_mirrors : Utf8.Mirrors isDigitByte Char.isDigit :=
  .range 0x30 0x39 (by decide) (fun b => by simp [isDigitByte, UInt8.le_iff_toNat_le])
    fun _ => Char.isDigit_iff_toNat

theorem byteValue_encode {ds : Text} (h : ∀ c ∈ ds, c.isDigit = true) :
    byteValue (Utf8.encode ds) = Decimal.value ds := by
  have key : ∀ v, (Utf8.encode ds).foldl (fun n b => 10 * n + (b.toNat - 0x30)) v =
      ds.foldl (fun n c => 10 * n + Decimal.digit c) v := by
    induction ds with
    | nil => exact fun _ => rfl
    | cons c ds ih =>
      have hlt := isDigitByte_mirrors.lt (h c List.mem_cons_self)
      intro v
      rw [Utf8.encode_cons_of_lt hlt, List.foldl_cons, Utf8.toNat_byte_of_lt hlt,
        ih fun a ha => h a (List.mem_cons_of_mem c ha)]
      rfl
  exact key 0

theorem length_encode_digits {ds : Text} (h : ∀ c ∈ ds, c.isDigit = true) :
    (Utf8.encode ds).length = ds.length := by
  rw [isDigitByte_mirrors.encode_of_forall h, List.length_map]

theorem width_digits {ds : Text} (h : ∀ c ∈ ds, c.isDigit = true) : ds.width = ds.length := by
  rw [← Utf8.length_encode, length_encode_digits h]

/-- The first bytes are digits just where the first characters are. -/
theorem digits_iff {count : Nat} :
    (count ≤ (Utf8.encode r).length ∧ ((Utf8.encode r).take count).all isDigitByte = true) ↔
      ∃ ds r', r = ds ++ r' ∧ ds.length = count ∧ ∀ c ∈ ds, c.isDigit = true := by
  constructor
  · rintro ⟨hlen, hall⟩
    -- A digit byte is a whole character, so a run of such bytes is the text of a run of digits.
    obtain ⟨run, hrun⟩ : ∃ run : Text, run = r.takeWhile Char.isDigit := ⟨_, rfl⟩
    have hdigits : ∀ c ∈ run, c.isDigit = true := fun c hc => List.mem_takeWhile_imp (hrun ▸ hc)
    have htake : (Utf8.encode run).take count = (Utf8.encode r).take count := by
      rw [hrun, ← isDigitByte_mirrors.takeWhile_encode, List.take_takeWhile,
        List.takeWhile_eq_self_iff]
      exact List.all_eq_true.mp hall
    have hcount : count ≤ run.length := by
      have := congrArg List.length htake
      rw [List.length_take, List.length_take, length_encode_digits hdigits] at this
      omega
    refine ⟨run.take count, run.drop count ++ r.dropWhile Char.isDigit, ?_, ?_, ?_⟩
    · rw [← List.append_assoc, List.take_append_drop, hrun, List.takeWhile_append_dropWhile]
    · rw [List.length_take, Nat.min_eq_left hcount]
    · exact fun c hc => hdigits c (List.mem_of_mem_take hc)
  · rintro ⟨ds, r', rfl, rfl, hds⟩
    rw [Utf8.encode_append, List.length_append, ← length_encode_digits hds, List.take_left]
    exact ⟨Nat.le_add_right _ _, List.all_eq_true.mpr (isDigitByte_mirrors.forall_encode hds)⟩

section Digits

variable {ds r' : Text}

theorem take_encode_digits (hds : ∀ c ∈ ds, c.isDigit = true) :
    (Utf8.encode (ds ++ r')).take ds.length = Utf8.encode ds := by
  rw [Utf8.encode_append, ← length_encode_digits hds, List.take_left]

theorem need_digits_eq (hds : ∀ c ∈ ds, c.isDigit = true) :
    (need (frontBytes? ds.length (Utf8.encode (ds ++ r'))) : Scan ε Bytes).run t n =
      some (.ok (Utf8.encode ds, n)) := by
  refine need_eq ?_
  have hle : ds.length ≤ (Utf8.encode (ds ++ r')).length := by
    rw [Utf8.encode_append, List.length_append, length_encode_digits hds]
    exact Nat.le_add_right _ _
  rw [frontBytes?, if_pos hle, take_encode_digits hds]

theorem advance_digits_eq (hds : ∀ c ∈ ds, c.isDigit = true)
    (h : t.dropBytes? n = some (ds ++ r')) :
    (advance ds.length : Scan ε Unit).run t n = some (.ok ((), n + ds.length)) := by
  rw [← width_digits hds]
  exact advance_eq h

theorem dropBytes?_digits (hds : ∀ c ∈ ds, c.isDigit = true)
    (h : t.dropBytes? n = some (ds ++ r')) :
    t.dropBytes? (n + ds.length) = some r' := by
  rw [← width_digits hds]
  exact Text.dropBytes?_add h

end Digits

theorem fixedDigits_agrees (count : Nat) (h : t.dropBytes? n = some r) :
    Agrees (Behind t) ((fixedDigits count : Scan ε _).run t n)
      (.ok (tried r (Decimal.fixed? count r))) := by
  unfold fixedDigits
  rw [bind_of_ok (rest_eq h)]
  dsimp only
  cases hr : Decimal.fixed? count r with
  | some found =>
    obtain ⟨v, r'⟩ := found
    obtain ⟨ds, rfl, rfl, hds, rfl⟩ := Decimal.fixed?_eq_some_iff_value.mp hr
    obtain ⟨hlen, hall⟩ := digits_iff.mpr ⟨ds, r', rfl, rfl, hds⟩
    rw [take_encode_digits hds] at hall
    rw [if_neg (Nat.not_lt.mpr hlen), bind_of_ok (need_digits_eq hds), if_pos hall,
      bind_of_ok (advance_digits_eq hds h), byteValue_encode hds]
    exact .ok ⟨rfl, dropBytes?_digits hds h⟩
  | none =>
    split
    case isTrue => exact .ok ⟨rfl, h⟩
    case isFalse hlen =>
      have hfront : frontBytes? count (Utf8.encode r) = some ((Utf8.encode r).take count) :=
        if_pos (Nat.le_of_not_lt hlen)
      have hall : ¬((Utf8.encode r).take count).all isDigitByte = true := by
        intro hall
        obtain ⟨ds, r', hds⟩ := digits_iff.mp ⟨Nat.le_of_not_lt hlen, hall⟩
        rw [Decimal.fixed?_eq_some_iff_value.mpr ⟨ds, hds.1, hds.2.1, hds.2.2, rfl⟩] at hr
        cases hr
      rw [bind_of_ok (need_eq hfront), if_neg hall]
      exact .ok ⟨rfl, h⟩

theorem length_run (max : Nat) (r : Text) :
    (((Utf8.encode r).take max).takeWhile isDigitByte).length = (Decimal.run max r).1.length := by
  obtain ⟨ds, r', hrun⟩ : ∃ ds r', Decimal.run max r = (ds, r') := ⟨_, _, rfl⟩
  obtain ⟨rfl, hds, hle, hstop⟩ := Decimal.run_eq_iff.mp hrun
  have hall : ∀ c ∈ (ds ++ r').takeWhile Char.isDigit, c.isDigit = true := fun c hc =>
    List.mem_takeWhile_imp hc
  rw [hrun, ← List.take_takeWhile, isDigitByte_mirrors.takeWhile_encode, List.length_take,
    length_encode_digits hall, List.takeWhile_append_of_pos hds, List.length_append]
  by_cases hlt : ds.length < max
  · have hnone : r'.takeWhile Char.isDigit = [] := by
      have hhead := hstop hlt
      cases r' with
      | nil => rfl
      | cons c r' => exact List.takeWhile_cons_of_neg (by simpa using hhead)
    rw [hnone, List.length_nil, Nat.add_zero, Nat.min_eq_right hle]
  · dsimp only
    omega

theorem digits_agrees (min max : Nat) (h : t.dropBytes? n = some r) :
    Agrees (Behind t) ((digits min max : Scan ε _).run t n)
      (.ok (tried r (if (Decimal.run max r).1.length < min then none
        else some ((Decimal.value (Decimal.run max r).1, (Decimal.run max r).1.length),
          (Decimal.run max r).2)))) := by
  obtain ⟨ds, r', hrun⟩ : ∃ ds r', Decimal.run max r = (ds, r') := ⟨_, _, rfl⟩
  have hlen := length_run max r
  rw [hrun] at hlen ⊢
  obtain ⟨rfl, hds, -⟩ := Decimal.run_eq_iff.mp hrun
  unfold digits
  rw [bind_of_ok (rest_eq h)]
  dsimp only at hlen ⊢
  rw [hlen]
  split
  case isTrue => exact .ok ⟨rfl, h⟩
  case isFalse =>
    rw [bind_of_ok (need_digits_eq hds), bind_of_ok (advance_digits_eq hds h),
      byteValue_encode hds]
    exact .ok ⟨rfl, dropBytes?_digits hds h⟩

/-- Of the names in a list, the first that stands here is eaten. -/
theorem oneOf_cases (ε : Type) (names : List Text) (h : t.dropBytes? n = some r) :
    (∃ i name r', names[i]? = some name ∧ r = name ++ r' ∧
      (oneOf names : Scan ε _).run t n = some (.ok (some i, n + name.width))) ∨
      (∀ name ∈ names, Text.after? name r = none) ∧
        (oneOf names : Scan ε _).run t n = some (.ok (none, n)) := by
  unfold oneOf
  rw [bind_of_ok (rest_eq h)]
  cases hi : names.findIdx? fun name => name.isPrefixOf r with
  | none =>
    refine .inr ⟨?_, rfl⟩
    intro name hname
    have hlead := List.findIdx?_eq_none_iff.mp hi name hname
    rwa [isPrefixOf_eq, Option.isSome_eq_false_iff, Option.isNone_iff_eq_none] at hlead
  | some i =>
    obtain ⟨hlt, hlead, -⟩ := List.findIdx?_eq_some_iff_getElem.mp hi
    obtain ⟨r', rfl⟩ := List.isPrefixOf_iff_prefix.mp hlead
    have hname := List.getElem?_eq_getElem hlt
    refine .inl ⟨i, names[i], r', hname, rfl, ?_⟩
    dsimp only
    rw [bind_of_ok (need_eq hname), bind_of_ok (advance_eq h)]
    rfl

theorem demand_agrees {s : Scan ε (Option α)} {o : Option (α × Text)} (fault : Nat → ε)
    (h : t.dropBytes? n = some r) (hs : Agrees (Behind t) (s.run t n) (.ok (tried r o))) :
    Agrees (Behind t) ((demand fault s).run t n) (orRefuse (fault n) o) := by
  obtain ⟨a, n', hrun, rfl, hrest⟩ := hs.eq_ok
  rw [demand, bind_of_ok hrun]
  cases o with
  | some found => exact .ok ⟨rfl, hrest⟩
  | none =>
    have hsame : n' = n := by
      have hleft : n' + r.width = t.width := Text.add_width_of_dropBytes? hrest
      have := Text.add_width_of_dropBytes? h
      omega
    rw [hsame]
    exact .error (fault n)

theorem demand_passed {s : Scan ε (Option Unit)} {o : Option Text} (fault : Nat → ε)
    (h : t.dropBytes? n = some r)
    (hs : Agrees (Behind t) (s.run t n) (.ok (tried r (o.map fun r' => ((), r'))))) :
    Agrees (Passed t) ((demand fault s).run t n) (orRefuse (fault n) o) := by
  have hd := demand_agrees fault h hs
  cases o with
  | none =>
    rw [hd.eq_error]
    exact .error (fault n)
  | some r' =>
    obtain ⟨a, n', hrun, -, hrest⟩ := hd.eq_ok
    rw [hrun]
    exact .ok hrest

theorem attempt_agrees {s : Scan Unit α} {o : Option (α × Text)} (h : t.dropBytes? n = some r)
    (hs : Agrees (Behind t) (s.run t n) (orRefuse () o)) :
    Agrees (Behind t) ((attempt s : Scan ε _).run t n) (.ok (tried r o)) := by
  unfold attempt
  dsimp only
  cases o with
  | none =>
    rw [hs.eq_error]
    exact .ok ⟨rfl, h⟩
  | some found =>
    obtain ⟨a, n', hrun, rfl, hrest⟩ := hs.eq_ok
    rw [hrun]
    exact .ok ⟨rfl, hrest⟩

end Agreement

/-- What a cursor can do in one step. -/
inductive Operation where
  | eat (c : Char)
  | eatText (lead : Text)
  | takeWhile (p : Char → Bool)
  | skipBlanks
  | takeUntil (c : Char)
  | fixedDigits (count : Nat)
  | digits (min max : Nat)
  | oneOf (names : List Text)

/-- Only the move of the cursor, whatever was read. -/
def Operation.step : Operation → Scan Empty Unit
  | eat c => do let _ ← Cursor.eat c
  | eatText lead => do let _ ← Cursor.eatText lead
  | takeWhile p => do let _ ← Cursor.takeWhile p
  | skipBlanks => do let _ ← Cursor.skipBlanks
  | takeUntil c => do let _ ← Cursor.takeUntil c
  | fixedDigits count => do let _ ← Cursor.fixedDigits count
  | digits min max => do let _ ← Cursor.digits min max
  | oneOf names => do let _ ← Cursor.oneOf names

def steps : List Operation → Scan Empty Unit
  | [] => pure ()
  | op :: ops => do
    op.step
    steps ops

section Steps

variable {t : Text} {n : Nat}

theorem isBoundary_iff : t.IsBoundary n ↔ ∃ r, t.dropBytes? n = some r := by
  simp only [Text.dropBytes?_eq_some_iff]
  constructor
  · rintro ⟨front, r, h⟩
    exact ⟨r, front, h⟩
  · rintro ⟨r, front, h⟩
    exact ⟨front, r, h⟩

theorem Agrees.boundary {α : Type} {x : Scan Empty α} {b : α × Text}
    (h : Agrees (Behind t) (x.run t n) (.ok b)) :
    ∃ n', (x >>= fun _ => pure ()).run t n = some (.ok ((), n')) ∧ t.IsBoundary n' := by
  obtain ⟨a, n', hx, -, hrest⟩ := h.eq_ok
  exact ⟨n', bind_of_ok hx, isBoundary_iff.mpr ⟨_, hrest⟩⟩

theorem Operation.step_boundary (op : Operation) (h : t.IsBoundary n) :
    ∃ n', op.step.run t n = some (.ok ((), n')) ∧ t.IsBoundary n' := by
  obtain ⟨r, h⟩ := isBoundary_iff.mp h
  cases op with
  | eat c => exact (eat_agrees c h).boundary
  | eatText lead => exact (eatText_agrees lead h).boundary
  | takeWhile p => exact (takeWhile_agrees p h).boundary
  | skipBlanks => exact (skipBlanks_agrees h).boundary
  | takeUntil c => exact (takeUntil_agrees c h).boundary
  | fixedDigits count => exact (fixedDigits_agrees count h).boundary
  | digits min max => exact (digits_agrees min max h).boundary
  | oneOf names =>
    obtain ⟨i, name, r', -, rfl, hrun⟩ | ⟨-, hrun⟩ := oneOf_cases Empty names h
    · exact ⟨_, bind_of_ok hrun, isBoundary_iff.mpr ⟨r', Text.dropBytes?_add h⟩⟩
    · exact ⟨_, bind_of_ok hrun, isBoundary_iff.mpr ⟨r, h⟩⟩

/-- However a cursor is moved, it stays on a boundary. -/
theorem steps_boundary (ops : List Operation) (h : t.IsBoundary n) :
    ∃ n', (steps ops).run t n = some (.ok ((), n')) ∧ t.IsBoundary n' := by
  induction ops generalizing n with
  | nil => exact ⟨n, rfl, h⟩
  | cons op ops ih =>
    obtain ⟨n₁, hstep, hn₁⟩ := op.step_boundary h
    obtain ⟨n₂, hsteps, hn₂⟩ := ih hn₁
    refine ⟨n₂, ?_, hn₂⟩
    rw [steps, bind_of_ok hstep, hsteps]

end Steps

end LogShift.Cursor
