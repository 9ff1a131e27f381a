import LogShift.Proofs.Line.Syslog

/-! The process number of a system log line. The last opening bracket of the source alone decides: it
opens a number, or the record has none, whatever numbers stand in brackets before it. -/
namespace LogShift.Line

/-- Nothing stands behind the last `c` of a text but what holds no `c`. -/
theorem length_le_of_last {c : Char} {l l' r r' : Text} (hr' : c ∉ r')
    (h : l ++ c :: r = l' ++ c :: r') : l.length ≤ l'.length := by
  by_contra hlt
  obtain ⟨mid, hl⟩ := List.prefix_of_prefix_length_le ⟨c :: r', h.symm⟩ ⟨c :: r, rfl⟩
    (Nat.le_of_not_le hlt)
  cases mid with
  | nil => simp [← hl] at hlt
  | cons a mid =>
    rw [← hl, List.append_assoc, List.append_cancel_left_eq] at h
    exact hr' ((List.cons.inj h).2 ▸ List.mem_append_right mid List.mem_cons_self)

theorem last_unique {c : Char} {l l' r r' : Text} (hr : c ∉ r) (hr' : c ∉ r')
    (h : l ++ c :: r = l' ++ c :: r') : l = l' ∧ r = r' := by
  have hlen : l.length = l'.length :=
    Nat.le_antisymm (length_le_of_last hr' h) (length_le_of_last hr h.symm)
  obtain ⟨hl, hrest⟩ := List.append_inj h hlen
  exact ⟨hl, (List.cons.inj hrest).2⟩

theorem getLast?_brackets {t before inner : Text}
    (h : (brackets t).getLast? = some (before, inner)) :
    t = before ++ '[' :: inner ∧ '[' ∉ inner := by
  obtain ⟨earlier, hsplit⟩ := List.getLast?_eq_some_iff.mp h
  have ht : t = before ++ '[' :: inner := mem_brackets_iff.mp (by simp [hsplit])
  refine ⟨ht, ?_⟩
  intro hmem
  obtain ⟨mid, after, rfl⟩ := List.append_of_mem hmem
  have hlater : (before ++ '[' :: mid, after) ∈ earlier ++ [(before, mid ++ '[' :: after)] := by
    rw [← hsplit]
    apply mem_brackets_iff.mpr
    simpa using ht
  have hsorted := brackets_pairwise t
  rw [hsplit] at hsorted
  -- A bracket behind the last one would stand before it in the list, and yet further right.
  cases List.mem_append.mp hlater with
  | inl hleft =>
    have hlt := (List.pairwise_append.mp hsorted).2.2 _ hleft _ List.mem_cons_self
    simp at hlt
  | inr hright => simp at hright

theorem getLast?_brackets_iff {t before inner : Text} :
    (brackets t).getLast? = some (before, inner) ↔ t = before ++ '[' :: inner ∧ '[' ∉ inner := by
  refine ⟨getLast?_brackets, ?_⟩
  intro h
  cases hlast : (brackets t).getLast? with
  | none =>
    have hmem : (before, inner) ∈ brackets t := mem_brackets_iff.mpr h.1
    rw [List.getLast?_eq_none_iff.mp hlast] at hmem
    cases hmem
  | some last =>
    obtain ⟨ht, hopen⟩ := getLast?_brackets hlast
    obtain ⟨hbefore, hinner⟩ := last_unique h.2 hopen (h.1.symm.trans ht)
    rw [hbefore, hinner]

/-- `[digits]` between `before` and `after` is the last number in brackets of a text. -/
structure LastGroup (t before digits after : Text) : Prop where
  text_eq : t = before ++ '[' :: (digits ++ ']' :: after)
  digits_ne : digits ≠ []
  isDigit : ∀ c ∈ digits, c.isDigit = true
  last : ∀ before' digits', Group t before' digits' → before'.length ≤ before.length

/-- The brackets that open a number, from left to right. -/
def numbered (t : Text) : List (Text × Text) :=
  (brackets t).filter fun b => (bracketed? b.2).isSome

theorem mem_numbered_iff {t before inner : Text} :
    (before, inner) ∈ numbered t ↔
      (before, inner) ∈ brackets t ∧ ∃ digits, bracketed? inner = some digits := by
  rw [numbered, List.mem_filter, Option.isSome_iff_exists]

/-- Of the numbers in brackets, if there are any, one is the last. -/
theorem exists_lastGroup {t before digits : Text} (h : Group t before digits) :
    ∃ before digits after, LastGroup t before digits after := by
  obtain ⟨inner, hmem, hinner⟩ := group_iff.mp h
  have hne : numbered t ≠ [] := List.ne_nil_of_mem (mem_numbered_iff.mpr ⟨hmem, digits, hinner⟩)
  obtain ⟨earlier, ⟨lastBefore, lastInner⟩, hsplit⟩ :=
    (List.eq_nil_or_concat' (numbered t)).resolve_left hne
  obtain ⟨hlast, lastDigits, hlastInner⟩ :=
    mem_numbered_iff.mp (hsplit ▸ List.mem_append_right earlier List.mem_cons_self)
  obtain ⟨hdigits, hall, after, rfl⟩ := bracketed?_eq_some_iff.mp hlastInner
  refine ⟨lastBefore, lastDigits, after, mem_brackets_iff.mp hlast, hdigits, hall, ?_⟩
  intro before' digits' hgroup
  obtain ⟨inner', hmem', hinner'⟩ := group_iff.mp hgroup
  have hother : (before', inner') ∈ numbered t := mem_numbered_iff.mpr ⟨hmem', digits', hinner'⟩
  have hsorted : (numbered t).Pairwise fun a b => a.1.length < b.1.length :=
    (brackets_pairwise t).filter _
  rw [hsplit] at hother hsorted
  cases List.mem_append.mp hother with
  | inl hleft =>
    exact Nat.le_of_lt ((List.pairwise_append.mp hsorted).2.2 _ hleft _ List.mem_cons_self)
  | inr hright =>
    rw [(Prod.mk.inj (List.mem_singleton.mp hright)).1]

section
variable {t before digits after : Text}

theorem LastGroup.bracketed?_eq (h : LastGroup t before digits after) :
    bracketed? (digits ++ ']' :: after) = some digits :=
  bracketed?_eq_some_iff.mpr ⟨h.digits_ne, h.isDigit, after, rfl⟩

theorem LastGroup.open_not_mem (h : LastGroup t before digits after) (hafter : '[' ∉ after) :
    '[' ∉ digits ++ ']' :: after := by
  intro hmem
  cases List.mem_append.mp hmem with
  | inl hmem => cases h.isDigit _ hmem
  | inr hmem =>
    cases hmem with
    | tail _ hmem => exact hafter hmem

/-- A bracket behind the last number opens none. -/
theorem LastGroup.bracketed?_eq_none (h : LastGroup t before digits after) (hafter : '[' ∈ after)
    {before' inner' : Text} (ht : t = before' ++ '[' :: inner') (hopen : '[' ∉ inner') :
    bracketed? inner' = none := by
  cases hinner : bracketed? inner' with
  | none => rfl
  | some digits' =>
    have hgroup : Group t before' digits' :=
      group_iff.mpr ⟨inner', mem_brackets_iff.mpr ht, hinner⟩
    have hle := h.last _ _ hgroup
    obtain ⟨mid, rest, rfl⟩ := List.append_of_mem hafter
    have hsplit : (before ++ '[' :: (digits ++ ']' :: mid)) ++ '[' :: rest =
        before' ++ '[' :: inner' := by
      rw [← ht, h.text_eq]
      simp
    have hlater := length_le_of_last hopen hsplit
    simp at hlater
    omega

end

namespace Linux

def record {year : Int} (p : Envelope.Parts year) (seq : Nat) (pid : Option Nat) : Record :=
  .linux {
    seq, timestamp := p.timestamp, hostname := p.host, source := component p.source, pid
    msg := p.msg, logline := p.text }

variable {ctx : Context} {p : Envelope.Parts ctx.year} {before inner digits : Text}

/-- No bracket, or a last one that opens no number. -/
theorem parse_of_unnumbered
    (h : ∀ before inner, p.source = before ++ '[' :: inner → '[' ∉ inner →
      bracketed? inner = none) :
    parse ctx p.text = .ok (record p ctx.seq none) := by
  rw [parse, Envelope.parse_text]
  dsimp only [bind, Except.bind]
  cases hlast : (brackets p.source).getLast? with
  | none => rfl
  | some last =>
    obtain ⟨hsource, hopen⟩ := getLast?_brackets hlast
    dsimp only
    rw [h _ _ hsource hopen]
    rfl

theorem parse_of_numbered (hsource : p.source = before ++ '[' :: inner) (hopen : '[' ∉ inner)
    (hdigits : bracketed? inner = some digits) :
    parse ctx p.text = (orFault
      (.malformed .linux (p.front.width + before.width + 1) .pidRange p.text) (pid? digits)).map
        fun pid => record p ctx.seq (some pid) := by
  rw [parse, Envelope.parse_text]
  dsimp only [bind, Except.bind]
  rw [getLast?_brackets_iff.mpr ⟨hsource, hopen⟩]
  dsimp only
  rw [hdigits]
  dsimp only
  cases pid? digits <;> rfl

/-- The last opening bracket of the source decides. If it opens the last number, that number counts
below `2 ^ 32` and is a fault above. A bracket behind the last number hides it: the record has no
number then, as it has none if the source shows none. -/
theorem parse_lastBracket (ctx : Context) (line : Text) :
    ((∃ env, Envelope.parse .linux ctx.year line = .ok env) ↔
      ∃ p : Envelope.Parts ctx.year, p.text = line) ∧
    ∀ p : Envelope.Parts ctx.year, p.text = line →
      ((∃ before digits, Group p.source before digits) →
        ∃ before digits after, LastGroup p.source before digits after) ∧
      ((¬∃ before digits, Group p.source before digits) →
        parse ctx line = .ok (record p ctx.seq none)) ∧
      ∀ before digits after, LastGroup p.source before digits after →
        ('[' ∉ after → Decimal.value digits < 2 ^ 32 →
          parse ctx line = .ok (record p ctx.seq (some (Decimal.value digits)))) ∧
        ('[' ∉ after → 2 ^ 32 ≤ Decimal.value digits → parse ctx line =
          .error (.malformed .linux (p.front.width + before.width + 1) .pidRange line)) ∧
        ('[' ∈ after → parse ctx line = .ok (record p ctx.seq none)) := by
  refine ⟨Envelope.parse_isOk_iff, ?_⟩
  intro p hp
  subst hp
  refine ⟨?_, ?_, ?_⟩
  · intro h
    obtain ⟨before, digits, hgroup⟩ := h
    exact exists_lastGroup hgroup
  · intro h
    apply parse_of_unnumbered
    intro before inner hsource hopen
    cases hinner : bracketed? inner with
    | none => rfl
    | some digits =>
      exact absurd ⟨before, digits, group_iff.mpr ⟨inner, mem_brackets_iff.mpr hsource, hinner⟩⟩ h
  · intro before digits after h
    refine ⟨?_, ?_, ?_⟩
    · intro hafter hlt
      rw [parse_of_numbered h.text_eq (h.open_not_mem hafter) h.bracketed?_eq,
        pid?_eq_some_iff.mpr ⟨hlt, rfl⟩]
      rfl
    · intro hafter hle
      have hpid : pid? digits = none := if_neg (Nat.not_lt.mpr hle)
      rw [parse_of_numbered h.text_eq (h.open_not_mem hafter) h.bracketed?_eq, hpid]
      rfl
    · intro hafter
      apply parse_of_unnumbered
      intro before' inner' hsource hopen
      exact h.bracketed?_eq_none hafter hsource hopen

/-- A line of one host with any source. -/
theorem exists_parts (source : Text) (hhead : ∀ c ∈ source.head?, isBlank c = false)
    (hopen : ':' ∉ source) : ∃ p : Envelope.Parts 2005, p.source = source ∧
      p.text = "Jun 14 15:16:01 combo ".toList ++ (source ++ ": z".toList) := by
  have hdates : Stamp.Dates .syslog (some 2005) "Jun 14 15:16:01".toList
      ⟨⟨2005, 6, 14, by decide, by decide, by decide⟩,
        ⟨54961, 0, by decide, by decide, by decide⟩⟩ :=
    Stamp.dates_iff.mpr ⟨.syslog 6 ⟨1, 2, 14⟩ [' '] ⟨15, 16, 1⟩, rfl,
      ⟨⟨by decide, by decide⟩, ⟨by decide, by decide, by decide⟩, ⟨by simp, by simp [isBlank]⟩,
        by decide, by decide, by decide⟩, by decide, rfl⟩
  exact ⟨{
    stamp := _, timestamp := _, gap₁ := [' '], host := "combo".toList, gap₂ := [' '], source
    gap₃ := [' '], msg := ['z'], stamp_dates := hdates, gap₁_blanks := ⟨by simp, by simp [isBlank]⟩
    host_ne := by simp, host_solid := by simp [isWhiteSpace]
    gap₂_blanks := ⟨by simp, by simp [isBlank]⟩, source_head := hhead, source_open := hopen
    gap₃_blanks := by simp [isBlank], msg_head := by simp [isBlank] }, rfl,
    by simp [Envelope.Parts.text, Envelope.Parts.body]⟩

theorem lastGroup_of_brackets {t before digits after : Text}
    (heq : t = before ++ '[' :: (digits ++ ']' :: after)) (hne : digits ≠ [])
    (hdigits : ∀ c ∈ digits, c.isDigit = true)
    (hlast : ∀ b ∈ brackets t, (bracketed? b.2).isSome = true → b.1.length ≤ before.length) :
    LastGroup t before digits after := by
  refine ⟨heq, hne, hdigits, ?_⟩
  intro before' digits' hgroup
  obtain ⟨inner', hmem, hinner⟩ := group_iff.mp hgroup
  exact hlast _ hmem (by rw [hinner]; rfl)

/-- The second number counts, with text between its bracket and the colon. -/
theorem parse_lastBracket_second :
    let line := "Jun 14 15:16:01 combo x[7](ab)[0012] y: z".toList
    ∃ p : Envelope.Parts 2005, p.text = line ∧
      LastGroup p.source "x[7](ab)".toList "0012".toList " y".toList ∧
      parse ⟨0, 2005⟩ line = .ok (record p 0 (some 12)) := by
  intro line
  obtain ⟨p, hsource, htext⟩ :=
    exists_parts "x[7](ab)[0012] y".toList (by simp [isBlank]) (by simp)
  have hlast : LastGroup p.source "x[7](ab)".toList "0012".toList " y".toList := by
    rw [hsource]
    exact lastGroup_of_brackets rfl (by simp) (by simp) (by decide)
  obtain ⟨-, h⟩ := parse_lastBracket ⟨0, 2005⟩ line
  obtain ⟨-, -, h⟩ := h p htext
  exact ⟨p, htext, hlast, (h _ _ _ hlast).1 (by simp) (by decide)⟩

/-- A bracket behind the last number hides it, though it opens none. -/
theorem parse_hides_number :
    let line := "Jun 14 15:16:01 combo x[12][ab]: z".toList
    ∃ p : Envelope.Parts 2005, p.text = line ∧
      LastGroup p.source "x".toList "12".toList "[ab]".toList ∧
      Decimal.value "12".toList < 2 ^ 32 ∧
      parse ⟨0, 2005⟩ line = .ok (record p 0 none) ∧
      parse ⟨0, 2005⟩ line ≠ .ok (record p 0 (some (Decimal.value "12".toList))) := by
  intro line
  obtain ⟨p, hsource, htext⟩ :=
    exists_parts "x[12][ab]".toList (by simp [isBlank]) (by simp)
  have hlast : LastGroup p.source "x".toList "12".toList "[ab]".toList := by
    rw [hsource]
    exact lastGroup_of_brackets rfl (by simp) (by simp) (by decide)
  have hhidden : '[' ∈ "[ab]".toList := by decide
  have hparse : parse ⟨0, 2005⟩ p.text = .ok (record p 0 none) := by
    apply parse_of_unnumbered
    intro before' inner' hother hopen
    exact hlast.bracketed?_eq_none hhidden hother hopen
  have htext : p.text = line := htext
  rw [htext] at hparse
  refine ⟨p, htext, hlast, by decide, hparse, ?_⟩
  rw [hparse]
  simp [record]

end Linux

end LogShift.Line
