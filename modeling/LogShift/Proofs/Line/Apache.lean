import LogShift.Proofs.Line.Parts

/-! Web server error lines. A line is a record exactly if it can be cut into the parts of its
format, which is possible in one way only. A client note in front of the message counts only if it
is complete, and the name of a function is read from the message without being taken from it. -/
namespace LogShift.Line.Apache

/-- The parts of a line in their order: the stamp in brackets, blanks, the severity in brackets,
blanks and the rest. -/
@[ext] structure Parts where
  stamp : Text
  timestamp : Moment
  gap₁ : Text
  severity : Text
  gap₂ : Text
  rest : Text
  stamp_dates : Stamp.Dates .ctime none stamp timestamp
  gap₁_blanks : Text.IsBlanks gap₁
  severity_ne : severity ≠ []
  severity_open : ']' ∉ severity
  gap₂_blanks : Text.IsBlanks gap₂
  rest_head : ∀ c ∈ rest.head?, isBlank c = false

namespace Parts

/-- What stands behind the stamp. -/
def body (p : Parts) : Text :=
  ']' :: (p.gap₁ ++ '[' :: (p.severity ++ ']' :: (p.gap₂ ++ p.rest)))

def text (p : Parts) : Text :=
  '[' :: (p.stamp ++ p.body)

theorem text_injective {p q : Parts} (h : p.text = q.text) : p = q := by
  obtain ⟨hstamp, htime, h⟩ := p.stamp_dates.unique q.stamp_dates (by simp [body]) (by simp [body])
    (List.cons.inj h).2
  obtain ⟨hgap₁, h⟩ := p.gap₁_blanks.unique q.gap₁_blanks (by simp [isBlank]) (by simp [isBlank])
    (List.cons.inj h).2
  obtain ⟨hseverity, h⟩ := Text.cut_unique p.severity_open q.severity_open (List.cons.inj h).2
  obtain ⟨hgap₂, hrest⟩ := p.gap₂_blanks.unique q.gap₂_blanks p.rest_head q.rest_head h
  exact Parts.ext hstamp htime hgap₁ hseverity hgap₂ hrest

end Parts

/-- `t` is a `[client addr]` note with blanks behind it, and `tail`. -/
def Notes (t addr tail : Text) : Prop :=
  ∃ gap₁ gap₂, t = "[client".toList ++ (gap₁ ++ (addr ++ ']' :: (gap₂ ++ tail))) ∧
    Text.IsBlanks gap₁ ∧ addr ≠ [] ∧ ']' ∉ addr ∧ (∀ c ∈ addr.head?, isBlank c = false) ∧
    Text.IsBlanks gap₂ ∧ ∀ c ∈ tail.head?, isBlank c = false

theorem client?_eq_some_iff {t addr tail : Text} :
    client? t = some (addr, tail) ↔ Notes t addr tail := by
  simp only [client?, bind, Option.bind_eq_some_iff, Prod.exists, pure, Option.bind_none,
    Option.ite_none_left_eq_some, Option.some.injEq, Prod.mk.injEq, List.isEmpty_iff,
    Text.after?_eq_some_iff, Text.afterBlanks?_eq_some_iff_head?, Text.cutAt?_eq_some_iff]
  constructor
  · intro h
    obtain ⟨_, rfl, _, ⟨gap₁, hgap₁, rfl, hhead⟩, _, _, ⟨rfl, hopen⟩, hne, _,
      ⟨gap₂, hgap₂, rfl, htail⟩, rfl, rfl⟩ := h
    rw [List.head?_append_of_ne_nil _ hne] at hhead
    exact ⟨gap₁, gap₂, rfl, hgap₁, hne, hopen, hhead, hgap₂, htail⟩
  · intro h
    obtain ⟨gap₁, gap₂, rfl, hgap₁, hne, hopen, hhead, hgap₂, htail⟩ := h
    exact ⟨_, rfl, _, ⟨gap₁, hgap₁, rfl, Text.forall_head?_append hne hhead⟩, addr, _, ⟨rfl, hopen⟩,
      hne, tail, ⟨gap₂, hgap₂, rfl, htail⟩, rfl, rfl⟩

/-- `msg` starts with the call `name()` and a blank. -/
def Calls (msg name : Text) : Prop :=
  name ≠ [] ∧ (∀ c ∈ name, c.isAlphanum = true ∨ c = '_' ∨ c = '.') ∧
    ∃ blank rest, msg = name ++ '(' :: ')' :: blank :: rest ∧ isBlank blank = true

theorem isNameChar_iff {c : Char} :
    isNameChar c = true ↔ c.isAlphanum = true ∨ c = '_' ∨ c = '.' := by
  simp [isNameChar, or_assoc]

theorem function?_eq_some_iff {msg f : Text} :
    function? msg = some f ↔ ∃ name, Calls msg name ∧ f = name ++ ['(', ')'] := by
  simp only [function?, bind, Option.bind_eq_some_iff, pure, Option.bind_none,
    Option.ite_none_left_eq_some, Option.some.injEq, List.isEmpty_iff, Text.after?_eq_some_iff]
  constructor
  · intro h
    obtain ⟨hne, rest, hdrop, after, hafter, rfl⟩ := h
    refine ⟨msg.takeWhile isNameChar, ⟨hne, ?_, ?_⟩, rfl⟩
    · intro c hc
      exact isNameChar_iff.mp (List.mem_takeWhile_imp hc)
    · obtain ⟨gap, hgap, hrest, -⟩ := Text.afterBlanks?_eq_some_iff_head?.mp hafter
      obtain ⟨blank, gap, rfl⟩ := List.exists_cons_of_ne_nil hgap.1
      refine ⟨blank, gap ++ after, ?_, hgap.2 blank List.mem_cons_self⟩
      have hsplit := List.takeWhile_append_dropWhile (p := isNameChar) (l := msg)
      rw [hdrop, hrest] at hsplit
      exact hsplit.symm
  · intro h
    obtain ⟨name, ⟨hne, hname, blank, rest, rfl, hblank⟩, rfl⟩ := h
    have hchars : ∀ c ∈ name, isNameChar c = true := fun c hc => isNameChar_iff.mpr (hname c hc)
    have hstop : isNameChar '(' = false := by decide
    rw [Text.takeWhile_append_cons hchars hstop, Text.dropWhile_append_cons hchars hstop]
    exact ⟨hne, _, rfl, _, if_pos hblank, rfl⟩

/-- The client and the message that a rest makes. -/
def note (rest : Text) : Option Text × Text :=
  match client? rest with
  | some (addr, t) => (some addr, t.trim)
  | none => (none, rest.trim)

theorem note_of_notes {rest addr tail : Text} (h : Notes rest addr tail) :
    note rest = (some addr, tail.trim) := by
  rw [note, client?_eq_some_iff.mpr h]

theorem note_of_not_notes {rest : Text} (h : ¬∃ addr tail, Notes rest addr tail) :
    note rest = (none, rest.trim) := by
  unfold note
  cases hclient : client? rest with
  | none => rfl
  | some found => exact absurd ⟨_, _, client?_eq_some_iff.mp hclient⟩ h

def Parts.record (p : Parts) (seq : Nat) : ApacheRecord where
  seq := seq
  timestamp := p.timestamp
  severity := p.severity
  client := (note p.rest).1
  function := function? (note p.rest).2
  path := path? (note p.rest).2
  msg := (note p.rest).2
  logline := p.text

theorem body?_eq_some_iff {seq : Nat} {t : Text} {make : Moment → Text → Record} :
    body? seq t = some make ↔ ∃ gap₁ severity gap₂ rest, Text.IsBlanks gap₁ ∧ severity ≠ [] ∧
      ']' ∉ severity ∧ Text.IsBlanks gap₂ ∧ (∀ c ∈ rest.head?, isBlank c = false) ∧
      t = ']' :: (gap₁ ++ '[' :: (severity ++ ']' :: (gap₂ ++ rest))) ∧
      make = fun timestamp logline => .apache {
        seq, timestamp, severity, client := (note rest).1, function := function? (note rest).2
        path := path? (note rest).2, msg := (note rest).2, logline } := by
  simp only [body?, bind, Option.bind_eq_some_iff, Prod.exists, pure, Option.some.injEq,
    Text.afterBlanks?_eq_some_iff_head?, after?_singleton_iff, Text.filter_cutAt?_eq_some_iff]
  constructor
  · intro h
    obtain ⟨_, rfl, _, ⟨gap₁, hgap₁, rfl, -⟩, _, rfl, severity, _, ⟨rfl, hopen, hne⟩, rest,
      ⟨gap₂, hgap₂, rfl, hrest⟩, rfl⟩ := h
    refine ⟨gap₁, severity, gap₂, rest, hgap₁, hne, hopen, hgap₂, hrest, rfl, ?_⟩
    unfold note
    cases client? rest <;> rfl
  · intro h
    obtain ⟨gap₁, severity, gap₂, rest, hgap₁, hne, hopen, hgap₂, hrest, rfl, rfl⟩ := h
    refine ⟨_, rfl, _, ⟨gap₁, hgap₁, rfl, by simp [isBlank]⟩, _, rfl, severity, _,
      ⟨rfl, hopen, hne⟩, rest, ⟨gap₂, hgap₂, rfl, hrest⟩, ?_⟩
    unfold note
    cases client? rest <;> rfl

theorem parse_eq_ok_iff_parts {ctx : Context} {line : Text} {r : Record} :
    parse ctx line = .ok r ↔ ∃ p : Parts, p.text = line ∧ r = .apache (p.record ctx.seq) := by
  refine (LineParser.parse_builtin_iff_dates (f := .apache)).trans ?_
  constructor
  · intro h
    obtain ⟨stamp, t, timestamp, make, hdates, rfl, hbody, rfl⟩ := h
    obtain ⟨gap₁, severity, gap₂, rest, hgap₁, hne, hopen, hgap₂, hrest, rfl, rfl⟩ :=
      body?_eq_some_iff.mp hbody
    exact ⟨⟨stamp, timestamp, gap₁, severity, gap₂, rest,
      (Stamp.dates_of_hasYear rfl none).mp hdates, hgap₁, hne, hopen, hgap₂, hrest⟩, rfl, rfl⟩
  · intro h
    obtain ⟨p, rfl, rfl⟩ := h
    exact ⟨p.stamp, p.body, p.timestamp, _, (Stamp.dates_of_hasYear rfl _).mp p.stamp_dates, rfl,
      body?_eq_some_iff.mpr ⟨p.gap₁, p.severity, p.gap₂, p.rest, p.gap₁_blanks, p.severity_ne,
        p.severity_open, p.gap₂_blanks, p.rest_head, rfl, rfl⟩, rfl⟩

/-- A line is a record exactly if it has the parts of its format, which it has in one way only. Its
client is that of a complete note at the front of the rest, which the message then leaves out, and
its function is the call at the front of the message. -/
theorem parse_apacheParts (ctx : Context) (line : Text) :
    ((∃ r, parse ctx line = .ok r) ↔ ∃ p : Parts, p.text = line) ∧
    (∀ p q : Parts, p.text = line → q.text = line → p = q) ∧
    ∀ (p : Parts) (r : Record), p.text = line → parse ctx line = .ok r → ∃ a : ApacheRecord,
      r = .apache a ∧ a.timestamp = p.timestamp ∧ a.severity = p.severity ∧
      (∀ addr tail, Notes p.rest addr tail → a.client = some addr ∧ a.msg = tail.trim) ∧
      ((¬∃ addr tail, Notes p.rest addr tail) → a.client = none ∧ a.msg = p.rest.trim) ∧
      ∀ f, a.function = some f ↔ ∃ name, Calls a.msg name ∧ f = name ++ ['(', ')'] := by
  refine ⟨?_, ?_, ?_⟩
  · constructor
    · intro h
      obtain ⟨r, hr⟩ := h
      obtain ⟨p, hp, -⟩ := parse_eq_ok_iff_parts.mp hr
      exact ⟨p, hp⟩
    · intro h
      obtain ⟨p, hp⟩ := h
      exact ⟨_, parse_eq_ok_iff_parts.mpr ⟨p, hp, rfl⟩⟩
  · intro p q hp hq
    exact Parts.text_injective (hp.trans hq.symm)
  · intro p r hp hr
    obtain ⟨q, hq, rfl⟩ := parse_eq_ok_iff_parts.mp hr
    obtain rfl := Parts.text_injective (hq.trans hp.symm)
    refine ⟨q.record ctx.seq, rfl, rfl, rfl, ?_, ?_, fun f => function?_eq_some_iff⟩
    · intro addr tail h
      exact Prod.mk.inj (note_of_notes h)
    · intro h
      exact Prod.mk.inj (note_of_not_notes h)

/-- The first note is complete. The second one lacks its blank and stays in the message. -/
theorem parse_apacheParts_note :
    let lead := "[Mon Dec  4 04:47:44 2005] [a [b] \t".toList
    let noted := "[client ::1]  f.x() y ".toList
    let bare := "[client ::1]f.x() y ".toList
    (∃ a, parse ⟨7, 1999⟩ (lead ++ noted) = .ok (.apache a) ∧ a.severity = "a [b".toList ∧
      a.client = some "::1".toList ∧ a.msg = "f.x() y".toList ∧
      a.function = some "f.x()".toList) ∧
    ∃ a, parse ⟨7, 1999⟩ (lead ++ bare) = .ok (.apache a) ∧ a.severity = "a [b".toList ∧
      a.client = none ∧ a.msg = "[client ::1]f.x() y".toList := by
  intro lead noted bare
  have hdates : Stamp.Dates .ctime none "Mon Dec  4 04:47:44 2005".toList
      ⟨⟨2005, 12, 4, by decide, by decide, by decide⟩,
        ⟨17264, 0, by decide, by decide, by decide⟩⟩ :=
    Stamp.dates_iff.mpr ⟨.ctime .mon 12 ⟨2, 1, 4⟩ ⟨4, 47, 44⟩ 2005, rfl,
      ⟨⟨by decide, by decide⟩, ⟨by decide, by decide, by decide⟩,
        ⟨by decide, by decide, by decide⟩, by decide, by decide⟩, by decide, rfl⟩
  have hparts : ∀ rest : Text, (∀ c ∈ rest.head?, isBlank c = false) →
      ∃ p : Parts, p.text = lead ++ rest ∧ p.severity = "a [b".toList ∧ p.rest = rest := by
    intro rest hrest
    exact ⟨⟨_, _, [' '], "a [b".toList, " \t".toList, rest, hdates, ⟨by simp, by simp [isBlank]⟩,
      by simp, by simp, ⟨by simp, by simp [isBlank]⟩, hrest⟩, rfl, rfl, rfl⟩
  constructor
  · obtain ⟨p, htext, hseverity, hrest⟩ := hparts noted (by simp [noted, isBlank])
    have hnotes : Notes p.rest "::1".toList "f.x() y ".toList := by
      rw [hrest]
      exact ⟨[' '], "  ".toList, rfl, ⟨by simp, by simp [isBlank]⟩, by simp, by simp,
        by simp [isBlank], ⟨by simp, by simp [isBlank]⟩, by simp [isBlank]⟩
    have hcalls : Calls "f.x() y".toList "f.x".toList :=
      ⟨by simp, by simp, ' ', ['y'], rfl, rfl⟩
    obtain ⟨hok, -, hrecord⟩ := parse_apacheParts ⟨7, 1999⟩ (lead ++ noted)
    obtain ⟨r, hr⟩ := hok.mpr ⟨p, htext⟩
    obtain ⟨a, rfl, -, hsev, hnoted, -, hfunction⟩ := hrecord p r htext hr
    obtain ⟨hclient, hmsg⟩ := hnoted _ _ hnotes
    have hmsg : a.msg = "f.x() y".toList := hmsg.trans (by decide)
    exact ⟨a, hr, hsev.trans hseverity, hclient, hmsg,
      (hfunction _).mpr ⟨"f.x".toList, hmsg ▸ hcalls, rfl⟩⟩
  · obtain ⟨p, htext, hseverity, hrest⟩ := hparts bare (by simp [bare, isBlank])
    have hnotes : ¬∃ addr tail, Notes p.rest addr tail := by
      rw [hrest]
      intro h
      obtain ⟨addr, tail, hnotes⟩ := h
      cases (client?_eq_some_iff.mpr hnotes).symm.trans (by decide : client? bare = none)
    obtain ⟨hok, -, hrecord⟩ := parse_apacheParts ⟨7, 1999⟩ (lead ++ bare)
    obtain ⟨r, hr⟩ := hok.mpr ⟨p, htext⟩
    obtain ⟨a, rfl, -, hsev, -, hbare, -⟩ := hrecord p r htext hr
    obtain ⟨hclient, hmsg⟩ := hbare hnotes
    rw [hrest] at hmsg
    exact ⟨a, hr, hsev.trans hseverity, hclient, hmsg.trans (by decide)⟩

end LogShift.Line.Apache
