import LogShift.Proofs.Line.Syslog

/-! What reading a line can give: a record of the format with the line in it and a moment that such a
line can show, or a fault that names the line in full, with the format, the text of the line and a
place in it, at a character or at its end. -/
namespace LogShift

namespace Text

/-- A character or the end of `t` stands at byte `n`. -/
def IsBoundary (t : Text) (n : Nat) : Prop :=
  ∃ front rest, t = front ++ rest ∧ front.width = n

theorem IsBoundary.le_width {t : Text} {n : Nat} (h : IsBoundary t n) : n ≤ t.width := by
  obtain ⟨front, rest, rfl, rfl⟩ := h
  rw [width_append]
  exact Nat.le_add_right _ _

theorem suffix_of_after? {lead t u : Text} (h : after? lead t = some u) : u <:+ t :=
  ⟨lead, (after?_eq_some_iff.mp h).symm⟩

theorem suffix_of_afterBlanks? {t u : Text} (h : afterBlanks? t = some u) : u <:+ t := by
  obtain ⟨blanks, -, rfl, -⟩ := afterBlanks?_eq_some_iff.mp h
  exact List.suffix_append blanks u

theorem suffix_of_cutAt? {c : Char} {t : Text} {cut : Text × Text} (h : cutAt? c t = some cut) :
    cut.2 <:+ t := by
  obtain ⟨rfl, -⟩ := cutAt?_eq_some_iff.mp h
  exact (List.suffix_cons c cut.2).trans (List.suffix_append cut.1 _)

theorem suffix_of_filter_cutAt? {c : Char} {t : Text} {cut : Text × Text}
    {p : Text × Text → Bool} (h : (cutAt? c t).filter p = some cut) : cut.2 <:+ t :=
  suffix_of_cutAt? (Option.filter_eq_some_iff.mp h).1

end Text

theorem Stamp.suffix_of_read? {k : Surface} {t : Text} {found : Stamp × Text}
    (h : read? k t = some found) : found.2 <:+ t := by
  obtain ⟨-, -, rfl, -⟩ := read?_eq_some_iff.mp h
  exact List.suffix_append found.1.text found.2

namespace Line

theorem isBoundary_offsetOf {line rest : Text} (h : rest <:+ line) :
    line.IsBoundary (offsetOf line rest) := by
  obtain ⟨front, rfl⟩ := h
  refine ⟨front, rest, rfl, ?_⟩
  rw [offsetOf, Text.width_append, Nat.add_sub_cancel]

/-- Each fault of the computation is one of the grammar of `f` and carries `line`. -/
def Blames {α : Type} (f : LogFormat) (line : Text) (x : Except Fault α) : Prop :=
  ∀ e, x = .error e → ∃ offset reason, e = .malformed f offset reason line

/-- Each fault of the computation is one of the grammar of `f`, carries `line` and names a place in
it. -/
def Locates {α : Type} (f : LogFormat) (line : Text) (x : Except Fault α) : Prop :=
  ∀ e, x = .error e →
    ∃ offset reason, e = .malformed f offset reason line ∧ line.IsBoundary offset

section
variable {α β : Type} {f : LogFormat} {line : Text}

theorem Blames.map {x : Except Fault α} (hx : Blames f line x) (k : α → β) :
    Blames f line (x.map k) := by
  cases x with
  | error e =>
    intro e' h
    have he : e = e' := Except.error.inj h
    exact hx e' (congrArg Except.error he)
  | ok a =>
    intro e h
    cases h

theorem Locates.blames {x : Except Fault α} (hx : Locates f line x) : Blames f line x := by
  intro e he
  obtain ⟨offset, reason, h, -⟩ := hx e he
  exact ⟨offset, reason, h⟩

theorem locates_ok (a : α) : Locates f line (.ok a) := by
  intro e h
  cases h

theorem locates_error {offset : Nat} (h : line.IsBoundary offset) (reason : Reason) :
    Locates f line (.error (.malformed f offset reason line) : Except Fault α) := by
  intro e he
  exact ⟨offset, reason, (Except.error.inj he).symm, h⟩

/-- What follows may use that the first part succeeded. -/
theorem Locates.bind {x : Except Fault α} {k : α → Except Fault β} (hx : Locates f line x)
    (hk : ∀ a, x = .ok a → Locates f line (k a)) : Locates f line (x >>= k) := by
  cases x with
  | error e =>
    intro e' h
    have he : e = e' := Except.error.inj h
    exact hx e' (congrArg Except.error he)
  | ok a => exact hk a rfl

theorem Locates.map {x : Except Fault α} (hx : Locates f line x) (k : α → β) :
    Locates f line (x.map k) :=
  hx.bind fun a _ => locates_ok (k a)

theorem locates_orFault {offset : Nat} (h : line.IsBoundary offset) (reason : Reason)
    (o : Option α) : Locates f line (orFault (.malformed f offset reason line) o) := by
  cases o with
  | none => exact locates_error h reason
  | some a => exact locates_ok a

/-- A part that is read at `rest`, and what follows it. -/
theorem locates_part {rest : Text} (hrest : rest <:+ line) {reason : Reason} {o : Option α}
    {k : α → Except Fault β} (hk : ∀ a, o = some a → Locates f line (k a)) :
    Locates f line (orFault (.malformed f (offsetOf line rest) reason line) o >>= k) := by
  apply Locates.bind (locates_orFault (isBoundary_offsetOf hrest) reason o)
  intro a ha
  exact hk a (orFault_eq_ok_iff.mp ha)

theorem locates_date {rest : Text} (hrest : rest <:+ line) {x : Except DateError α}
    {k : α → Except Fault β} (hk : ∀ a, Locates f line (k a)) :
    Locates f line
      ((x.mapError fun e => .malformed f (offsetOf line rest) (.date e) line) >>= k) := by
  cases x with
  | error e => exact locates_error (isBoundary_offsetOf hrest) (.date e)
  | ok a => exact hk a

/-- A check that ends a computation early. -/
theorem locates_check {rest : Text} (hrest : rest <:+ line) {c : Prop} [Decidable c]
    {reason : Reason} {k : PUnit → Except Fault α} (hk : Locates f line (k ⟨⟩)) :
    Locates f line (if c then
      Except.error (.malformed f (offsetOf line rest) reason line) >>= k else k ⟨⟩) := by
  by_cases hc : c
  · rw [if_pos hc]
    exact locates_error (isBoundary_offsetOf hrest) reason
  · rw [if_neg hc]
    exact hk

end

theorem Apache.parse_locates (ctx : Context) (line : Text) :
    Locates .apache line (Apache.parse ctx line) := by
  unfold Apache.parse
  dsimp only
  refine locates_part (List.suffix_refl line) fun stampText hopen => ?_
  have hstamp := Text.suffix_of_after? hopen
  refine locates_part hstamp fun ⟨stamp, t₁⟩ hread => ?_
  have h₁ := (Stamp.suffix_of_read? hread).trans hstamp
  refine locates_part h₁ fun t₂ hclose => ?_
  have h₂ := (Text.suffix_of_after? hclose).trans h₁
  refine locates_date hstamp fun timestamp => ?_
  refine locates_part h₂ fun t₃ hblank => ?_
  have h₃ := (Text.suffix_of_afterBlanks? hblank).trans h₂
  refine locates_part h₃ fun t₄ hopen => ?_
  have h₄ := (Text.suffix_of_after? hopen).trans h₃
  refine locates_part h₄ fun ⟨severity, t₅⟩ hcut => ?_
  have h₅ := (Text.suffix_of_filter_cutAt? hcut).trans h₄
  exact locates_part h₅ fun t₆ _ => locates_ok _

theorem Hadoop.parse_locates (ctx : Context) (line : Text) :
    Locates .hadoop line (Hadoop.parse ctx line) := by
  unfold Hadoop.parse
  dsimp only
  have h₀ := List.suffix_refl line
  refine locates_part h₀ fun ⟨stamp, t₁⟩ hread => ?_
  have h₁ := Stamp.suffix_of_read? hread
  refine locates_date h₀ fun timestamp => ?_
  refine locates_part h₁ fun t₂ hblank => ?_
  have h₂ := (Text.suffix_of_afterBlanks? hblank).trans h₁
  refine locates_check h₂ ?_
  have h₃ := (List.dropWhile_suffix isSeverityChar).trans h₂
  refine locates_part h₃ fun t₄ hblank => ?_
  have h₄ := (Text.suffix_of_afterBlanks? hblank).trans h₃
  refine locates_part h₄ fun t₅ hopen => ?_
  have h₅ := (Text.suffix_of_after? hopen).trans h₄
  refine locates_part h₅ fun ⟨thread, t₆⟩ hcut => ?_
  have h₆ := (Text.suffix_of_filter_cutAt? hcut).trans h₅
  refine locates_part h₆ fun t₇ hblank => ?_
  have h₇ := (Text.suffix_of_afterBlanks? hblank).trans h₆
  refine locates_part h₇ fun ⟨source, t₈⟩ hcut => ?_
  have h₈ := (Text.suffix_of_filter_cutAt? hcut).trans h₇
  exact locates_part h₈ fun t₉ _ => locates_ok _

theorem Envelope.parse_locates (f : LogFormat) (year : Int) (line : Text) :
    Locates f line (Envelope.parse f year line) := by
  unfold Envelope.parse
  dsimp only
  have h₀ := List.suffix_refl line
  refine locates_part h₀ fun ⟨stamp, t₁⟩ hread => ?_
  have h₁ := Stamp.suffix_of_read? hread
  refine locates_date h₀ fun timestamp => ?_
  refine locates_part h₁ fun t₂ hblank => ?_
  have h₂ := (Text.suffix_of_afterBlanks? hblank).trans h₁
  refine locates_check h₂ ?_
  have h₃ := (List.dropWhile_suffix fun c => !isWhiteSpace c).trans h₂
  refine locates_part h₃ fun sourceText hblank => ?_
  have hsource := (Text.suffix_of_afterBlanks? hblank).trans h₃
  exact locates_part hsource fun _ _ => locates_ok _

/-- The source of a line stands where the envelope says. -/
theorem Envelope.source_at {f : LogFormat} {year : Int} {line : Text} {env : Envelope}
    (h : Envelope.parse f year line = .ok env) :
    ∃ front rest, line = front ++ (env.source ++ rest) ∧ front.width = env.sourceAt := by
  obtain ⟨p, rfl⟩ := parse_isOk_iff.mp ⟨env, h⟩
  rw [parse_text] at h
  cases h
  exact ⟨p.front, ':' :: (p.gap₃ ++ p.msg), p.text_eq, rfl⟩

theorem Envelope.isBoundary_sourceAt {f : LogFormat} {year : Int} {line : Text} {env : Envelope}
    (h : Envelope.parse f year line = .ok env) : line.IsBoundary env.sourceAt := by
  obtain ⟨front, rest, hline, hwidth⟩ := source_at h
  exact ⟨front, _, hline, hwidth⟩

/-- A bracket has one byte, so that a character or the end stands behind it. -/
theorem Envelope.isBoundary_bracket {f : LogFormat} {year : Int} {line : Text} {env : Envelope}
    (h : Envelope.parse f year line = .ok env) {b : Text × Text} (hb : b ∈ brackets env.source) :
    line.IsBoundary (env.sourceAt + b.1.width + 1) := by
  obtain ⟨front, rest, hline, hwidth⟩ := source_at h
  refine ⟨front ++ (b.1 ++ ['[']), b.2 ++ rest, ?_, ?_⟩
  · rw [hline, mem_brackets_iff.mp hb]
    simp
  · rw [Text.width_append, Text.width_append, hwidth, ← Nat.add_assoc]
    rfl

theorem Linux.parse_locates (ctx : Context) (line : Text) :
    Locates .linux line (Linux.parse ctx line) := by
  unfold Linux.parse
  refine Locates.bind (Envelope.parse_locates _ _ _) fun env henv => ?_
  dsimp only
  cases hlast : (brackets env.source).getLast? with
  | none => exact Locates.bind (locates_ok _) fun _ _ => locates_ok _
  | some last =>
    dsimp only
    cases bracketed? last.2 with
    | none => exact Locates.bind (locates_ok _) fun _ _ => locates_ok _
    | some digits =>
      have hdigits := Envelope.isBoundary_bracket henv (List.mem_of_getLast? hlast)
      exact Locates.bind ((locates_orFault hdigits _ _).map some) fun _ _ => locates_ok _

theorem OpenSsh.parse_locates (ctx : Context) (line : Text) :
    Locates .openssh line (OpenSsh.parse ctx line) := by
  unfold OpenSsh.parse
  refine Locates.bind (Envelope.parse_locates _ _ _) fun env henv => ?_
  have hsource := Envelope.isBoundary_sourceAt henv
  refine Locates.bind (locates_orFault hsource _ _) fun ⟨_, _⟩ _ => ?_
  exact Locates.bind (locates_orFault hsource _ _) fun _ _ => locates_ok _

end Line

theorem LineParser.parse_builtin_locates (f : LogFormat) (ctx : Context) (line : Text) :
    Line.Locates f line ((builtin f).parse ctx line) := by
  cases f with
  | apache => exact Line.Apache.parse_locates ctx line
  | hadoop => exact Line.Hadoop.parse_locates ctx line
  | linux => exact Line.Linux.parse_locates ctx line
  | openssh => exact Line.OpenSsh.parse_locates ctx line

/-- A refused line comes back in the fault as it was given. -/
theorem LineParser.parse_builtin_blames (f : LogFormat) (ctx : Context) (line : Text) :
    Line.Blames f line ((builtin f).parse ctx line) :=
  (parse_builtin_locates f ctx line).blames

theorem LogFormat.Shows.truncate_eq {f : LogFormat} {t : Moment} (h : f.Shows t) :
    f.truncate t = t :=
  congrArg (Moment.mk t.date)
    (Clock.truncate_eq_self (Moment.isLeap_eq_false_iff.mp h.1) h.2)

/-- Every line gives a whole record or a fault that is true to the line, in every context. -/
theorem LineParser.parse_builtin_outcome (f : LogFormat) (ctx : Context) (line : Text) :
    (∃ r, (builtin f).parse ctx line = .ok r ∧ r.format = f ∧ r.seq = ctx.seq ∧
      r.logline = line ∧ r.timestamp.isLeap = false ∧ f.truncate r.timestamp = r.timestamp) ∨
    ∃ offset reason, (builtin f).parse ctx line = .error (.malformed f offset reason line) ∧
      offset ≤ line.width ∧ line.IsBoundary offset := by
  cases hparse : (builtin f).parse ctx line with
  | ok r =>
    apply Or.inl
    obtain ⟨hformat, hseq, hline, hshows⟩ := frame_of_parse hparse
    exact ⟨r, rfl, hformat, hseq, hline, hshows.1, hshows.truncate_eq⟩
  | error e =>
    apply Or.inr
    obtain ⟨offset, reason, rfl, hboundary⟩ := parse_builtin_locates f ctx line e hparse
    exact ⟨offset, reason, rfl, hboundary.le_width, hboundary⟩

end LogShift
