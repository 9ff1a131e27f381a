import LogShift.Proofs.Calendar.Moment
import LogShift.Proofs.Line.Grammar
import LogShift.Proofs.Stamp.Render

/-! Reading a line again once its dates are others: the new stamp is read as the new moment, and the
text behind it still has the parts of its format, whatever full dates have a new form there. -/
namespace LogShift

theorem DateFields.resolve_eq_ok {f : DateFields} {context : Option Int} {checked : Bool}
    {t : Moment} (h : f.resolve context checked = .ok t) :
    f.year.or context = some t.year ∧ f.month = t.month ∧ f.day = t.date.day ∧
      Clock.ofHms? f.hour f.minute f.second f.nanos = some t.clock := by
  unfold resolve at h
  split at h
  · cases h
  · rename_i year hyear
    split at h
    · cases h
    · rename_i date hdate
      split at h
      · cases h
      · rename_i clock hclock
        obtain ⟨hy, hm, hd⟩ := Date.ofYmd?_eq_some_iff.mp hdate
        have ht : t = ⟨date, clock⟩ := by
          split at h
          · exact (Except.ok.inj h).symm
          · split at h
            · cases h
            · exact (Except.ok.inj h).symm
        subst ht
        exact ⟨hyear.trans (congrArg some hy.symm), hm.symm, hd.symm, hclock⟩

/-- No date parts denote a leap second. -/
theorem DateFields.isLeap_of_resolve {f : DateFields} {context : Option Int} {checked : Bool}
    {t : Moment} (h : f.resolve context checked = .ok t) : t.isLeap = false :=
  Moment.isLeap_eq_false_iff.mpr (Clock.ofHms?_eq_some_iff.mp (resolve_eq_ok h).2.2.2).1

/-- A date is its own context. -/
theorem DateFields.resolve_year {f : DateFields} {context : Option Int} {checked : Bool}
    {t : Moment} (h : f.resolve context checked = .ok t) :
    f.resolve (some t.year) checked = .ok t := by
  have hyear := (resolve_eq_ok h).1
  have hsame : f.year.or (some t.year) = f.year.or context := by
    rw [hyear]
    cases hf : f.year with
    | none => rfl
    | some y =>
      rw [hf] at hyear
      exact hyear
  unfold resolve at h ⊢
  rw [hsame]
  exact h

namespace LogFormat

theorem surface_unit (f : LogFormat) : f.surface.unit = f.unit := by
  cases f <;> rfl

/-- Stamps that show the unit of a format denote moments that its lines can show. -/
theorem shows_of_resolve {f : LogFormat} {s : Stamp} (hs : s.surface.unit = f.unit)
    {context : Option Int} {checked : Bool} {t : Moment}
    (h : s.fields.resolve context checked = .ok t) : f.Shows t := by
  obtain ⟨hlt, -, -, -, hnanos⟩ := Clock.ofHms?_eq_some_iff.mp (DateFields.resolve_eq_ok h).2.2.2
  refine ⟨Moment.isLeap_eq_false_iff.mpr hlt, ?_⟩
  rw [hnanos, ← hs]
  cases s with
  | ctime => rfl
  | syslog => rfl
  | iso => exact Nat.mul_mod_left _ _

theorem Shows.cut_eq {f : LogFormat} {k : Surface} (hk : k.unit = f.unit) {t : Moment}
    (h : f.Shows t) : k.cut t = t := by
  unfold Surface.cut
  rw [hk, Clock.truncate_eq_self (Moment.isLeap_eq_false_iff.mp h.1) h.2]

end LogFormat

/-- What a record takes from its line and its place, and what its stamp can show. -/
theorem LineParser.frame_of_parse {f : LogFormat} {ctx : Context} {line : Text} {r : Record}
    (h : (builtin f).parse ctx line = .ok r) :
    r.format = f ∧ r.seq = ctx.seq ∧ r.logline = line ∧ f.Shows r.timestamp := by
  obtain ⟨stamp, t, ts, make, hread, -, hts, hbody, rfl⟩ := parse_builtin_eq_ok_iff.mp h
  have htemplate := Line.template_of_body? hbody
  have hsurface : stamp.surface = f.surface := (Stamp.read?_eq_some_iff.mp hread).1
  refine ⟨htemplate.format_eq ts line, htemplate.seq_eq ts line, htemplate.logline_eq ts line, ?_⟩
  rw [htemplate.timestamp_eq]
  exact LogFormat.shows_of_resolve (hsurface ▸ f.surface_unit) hts

/-- A line with a moment put in the place of its stamp is read as that moment. -/
theorem LineParser.parse_render {f : LogFormat} {seq : Nat} {stamp : Stamp} {t : Text}
    {make : Moment → Text → Record} {v : Moment}
    (hread : Stamp.read? f.surface (stamp.text ++ t) = some (stamp, t))
    (hbody : Line.body? f seq t = some make) (hv : f.Shows v)
    (hy : f.surface.hasYear = true → 0 ≤ v.year ∧ v.year ≤ 9999) :
    (builtin f).parse ⟨seq, v.year⟩ (f.lead ++ (stamp.render v ++ t)) =
      .ok (make v (f.lead ++ (stamp.render v ++ t))) := by
  have hk : stamp.surface = f.surface := (Stamp.read?_eq_some_iff.mp hread).1
  refine parse_builtin_eq_ok_iff.mpr
    ⟨stamp.place v, t, v, make, Stamp.read?_render hread hy, rfl, ?_, hbody, rfl⟩
  rw [Stamp.resolve_place hv.1 (Or.inr rfl), hk, hv.cut_eq f.surface_unit]

namespace Line

theorem brackets_eq_nil {x : Text} (hx : '[' ∉ x) : brackets x = [] := by
  induction x with
  | nil => rfl
  | cons c x ih =>
    rw [List.mem_cons, not_or] at hx
    rw [brackets, if_neg (Ne.symm hx.1), ih hx.2]
    rfl

theorem brackets_append {l x : Text} (hx : '[' ∉ x) :
    brackets (l ++ x) = (brackets l).map fun (a, b) => (a, b ++ x) := by
  induction l with
  | nil => rw [List.nil_append, brackets_eq_nil hx]; rfl
  | cons c l ih =>
    rw [List.cons_append, brackets, brackets, ih]
    split <;> simp

theorem bracketed?_append {l x : Text} {c : Char} (hd : c.isDigit = false) (hc : c ≠ ']') :
    bracketed? (l ++ c :: x) = bracketed? l := by
  unfold bracketed?
  by_cases hl : ∀ a ∈ l, a.isDigit = true
  · have htake : (l ++ c :: x).takeWhile Char.isDigit = l := Text.takeWhile_append_cons hl hd
    have hdrop : (l ++ c :: x).dropWhile Char.isDigit = c :: x := Text.dropWhile_append_cons hl hd
    have hnone : l.dropWhile Char.isDigit = [] := List.dropWhile_eq_nil_iff.mpr hl
    rw [htake, hdrop, hnone]
    simp [hc]
  · have hstop : ∃ a ∈ l, a.isDigit = false := by simpa using hl
    obtain ⟨htake, hdrop⟩ := Text.takeWhile_append_of_stop hstop (c :: x)
    have hne : l.dropWhile Char.isDigit ≠ [] := by
      rw [Ne, List.dropWhile_eq_nil_iff]
      exact hl
    obtain ⟨a, r, har⟩ := List.exists_cons_of_ne_nil hne
    rw [htake, hdrop, har]
    rfl

/-- The part of a full date before its first colon: a word, a space and more, without brackets. -/
structure IsFront (x word mid : Text) : Prop where
  eq : x = word ++ ' ' :: mid
  word_ne : word ≠ []
  solid : ∀ c ∈ word, isWhiteSpace c = false
  head : ∀ c ∈ word.head?, c.isDigit = false ∧ c ≠ ']'
  bracket : '[' ∉ x
  colon : ':' ∉ x

namespace IsFront

variable {x word mid : Text}

theorem dropWhile_isBlank (h : IsFront x word mid) (t : Text) :
    (x ++ t).dropWhile isBlank = x ++ t := by
  obtain ⟨c, w, hw⟩ := List.exists_cons_of_ne_nil h.word_ne
  have hsolid := h.solid c (by simp [hw])
  have hc : ¬isBlank c = true := by
    intro hb
    rw [isWhiteSpace_of_isBlank hb] at hsolid
    cases hsolid
  rw [h.eq, hw]
  exact List.dropWhile_cons_of_neg hc

theorem number?_append (h : IsFront x word mid) (l : Text) :
    Linux.number? (l ++ x) = Linux.number? l := by
  obtain ⟨c, w, hw⟩ := List.exists_cons_of_ne_nil h.word_ne
  obtain ⟨hd, hc⟩ := h.head c (by simp [hw])
  have hlast : ((brackets (l ++ x)).getLast?.bind fun (_, inner) => bracketed? inner) =
      (brackets l).getLast?.bind fun (_, inner) => bracketed? inner := by
    rw [brackets_append h.bracket, List.getLast?_map]
    cases (brackets l).getLast? with
    | none => rfl
    | some last =>
      rw [h.eq, hw]
      exact bracketed?_append hd hc
  unfold Linux.number?
  rw [hlast]

end IsFront

/-- A full date up to its first colon, and from the digits of the minute on. -/
theorem isFront_of_ctime {s : Stamp} (hk : s.surface = .ctime) (hs : s.Shaped) :
    ∃ x word mid d back, s.text = x ++ ':' :: d :: back ∧ IsFront x word mid ∧
      d.isDigit = true := by
  cases s with
  | syslog => cases hk
  | iso => cases hk
  | ctime weekday month day clock year =>
    obtain ⟨hmonth, -, ⟨-, hminute, -⟩, -⟩ := hs
    obtain ⟨d, minute, hd, hdigit⟩ := Decimal.padded_eq_cons (show 0 < 2 by decide) hminute
    have hname : ∀ c ∈ weekday.name.toList,
        isWhiteSpace c = false ∧ c.isDigit = false ∧ c ≠ ']' ∧ c ≠ '[' ∧ c ≠ ':' := by
      have hall : (weekday.name.toList.all fun c => !isWhiteSpace c && !c.isDigit && c != ']' &&
          c != '[' && c != ':') = true := by
        cases weekday <;> rfl
      simpa [and_assoc] using hall
    have hmonthName : ∀ c ∈ monthName month, c ≠ '[' ∧ c ≠ ':' := by
      have hall : ((monthName month).all fun c => c != '[' && c != ':') = true := by
        obtain ⟨h1, h12⟩ := hmonth
        interval_cases month <;> rfl
      simpa using hall
    have hdigits : ∀ {w v : Nat}, ∀ c ∈ Decimal.padded w v, c ≠ '[' ∧ c ≠ ':' := by
      intro w v c hc
      have hd := Decimal.isDigit_of_mem_padded hc
      constructor
      · rintro rfl
        cases hd
      · rintro rfl
        cases hd
    have hday : ∀ c ∈ day.text, c ≠ '[' ∧ c ≠ ':' := by
      intro c hc
      rcases List.mem_append.mp hc with hc | hc
      · rw [List.eq_of_mem_replicate hc]
        decide
      · exact hdigits c hc
    have hplain : ∀ c ∈ weekday.name.toList ++ ' ' :: (monthName month ++ day.text ++
        ' ' :: Decimal.padded 2 clock.hour), c ≠ '[' ∧ c ≠ ':' := by
      intro c hc
      simp only [List.mem_append, List.mem_cons] at hc
      rcases hc with hc | rfl | (hc | hc) | rfl | hc
      · exact (hname c hc).2.2.2
      · decide
      · exact hmonthName c hc
      · exact hday c hc
      · decide
      · exact hdigits c hc
    refine ⟨_, weekday.name.toList, _, d, minute ++ ':' :: Decimal.padded 2 clock.second ++
      ' ' :: Decimal.paddedInteger 4 year, ?_, ⟨rfl, ?_, ?_, ?_, fun h => (hplain _ h).1 rfl,
      fun h => (hplain _ h).2 rfl⟩, hdigit⟩
    · simp [Stamp.text, ClockField.text, hd]
    · cases weekday <;> decide
    · exact fun c hc => (hname c hc).1
    · intro c hc
      obtain ⟨-, hd, hclose, -⟩ := hname c (List.mem_of_mem_head? hc)
      exact ⟨hd, hclose⟩

theorem Linux.number?_of_not_mem {x : Text} (hx : '[' ∉ x) : number? x = some none := by
  rw [number?, brackets_eq_nil hx]
  rfl

theorem Linux.body?_isSome_iff {seq : Nat} {t : Text} :
    (∃ make, body? seq t = some make) ↔ ∃ t₁ t₂ source rest pid,
      Text.afterBlanks? t = some t₁ ∧ t₁.takeWhile (fun c => !isWhiteSpace c) ≠ [] ∧
      Text.afterBlanks? (t₁.dropWhile fun c => !isWhiteSpace c) = some t₂ ∧
      Text.cutAt? ':' t₂ = some (source, rest) ∧ number? source = some pid := by
  simp only [body?, Envelope.body?, bind, Option.bind_eq_some_iff, Option.some.injEq, Prod.exists,
    pure, Option.bind_none, Option.ite_none_left_eq_some, List.isEmpty_iff]
  constructor
  · rintro ⟨_, _, _, _, _, ⟨t₁, h₁, hhost, t₂, h₂, _, rest, hcut, hbody⟩, pid, hpid, -⟩
    cases hbody
    exact ⟨t₁, _, _, rest, pid, h₁, hhost, h₂, hcut, hpid⟩
  · rintro ⟨t₁, t₂, source, rest, pid, h₁, hhost, h₂, hcut, hpid⟩
    exact ⟨_, _, t₂, source, _, ⟨t₁, h₁, hhost, t₂, h₂, source, rest, hcut, rfl⟩, pid, hpid, rfl⟩

/-- A source that a full date stands in or behind keeps its process number: the date ends it at its
own first colon and opens no bracket. -/
theorem Linux.source_redated {l x w m x' w' m' t source rest : Text} {pid : Option Nat}
    (hx : IsFront x w m) (hx' : IsFront x' w' m') (u : Text)
    (hcut : Text.cutAt? ':' (l ++ (x ++ ':' :: t)) = some (source, rest))
    (hpid : number? source = some pid) :
    ∃ source' rest', Text.cutAt? ':' (l ++ (x' ++ ':' :: u)) = some (source', rest') ∧
      number? source' = some pid := by
  by_cases hcolon : ':' ∈ l
  · obtain ⟨name, r, rfl, hname⟩ := List.eq_append_cons_of_mem hcolon
    have hcuts : ∀ y, Text.cutAt? ':' (name ++ ':' :: r ++ y) = some (name, r ++ y) := by
      intro y
      exact Text.cutAt?_eq_some_iff.mpr ⟨by simp, hname⟩
    rw [hcuts] at hcut
    cases hcut
    exact ⟨_, _, hcuts _, hpid⟩
  · have hsource : Text.cutAt? ':' (l ++ (x ++ ':' :: t)) = some (l ++ x, t) :=
      Text.cutAt?_eq_some_iff.mpr ⟨by simp, by simp [hcolon, hx.colon]⟩
    have hsource' : Text.cutAt? ':' (l ++ (x' ++ ':' :: u)) = some (l ++ x', u) :=
      Text.cutAt?_eq_some_iff.mpr ⟨by simp, by simp [hcolon, hx'.colon]⟩
    rw [hsource] at hcut
    cases hcut
    rw [hx.number?_append, ← hx'.number?_append] at hpid
    exact ⟨_, _, hsource', hpid⟩

/-- A full date can end the host with its first word; what stands behind the host is then the rest
of the date, up to its first colon without colons and brackets. -/
theorem IsFront.host {l x w m : Text} (hx : IsFront x w m)
    (hl : ∀ c ∈ l, isWhiteSpace c = false) (u : Text) :
    ∃ mid, ':' ∉ mid ∧ '[' ∉ mid ∧
      (l ++ (x ++ ':' :: u)).takeWhile (fun c => !isWhiteSpace c) ≠ [] ∧
      Text.afterBlanks? ((l ++ (x ++ ':' :: u)).dropWhile fun c => !isWhiteSpace c) =
        some (mid ++ ':' :: u) := by
  have hword : ∀ c ∈ l ++ w, (!isWhiteSpace c) = true := by
    intro c hc
    rcases List.mem_append.mp hc with hc | hc
    · rw [hl c hc]
      rfl
    · rw [hx.solid c hc]
      rfl
  have hline : l ++ (x ++ ':' :: u) = (l ++ w) ++ ' ' :: (m ++ ':' :: u) := by
    rw [hx.eq]
    simp
  have hmid : ∀ c ∈ m.dropWhile isBlank, c ∈ x := by
    intro c hc
    rw [hx.eq]
    simp [(List.dropWhile_sublist isBlank).mem hc]
  refine ⟨m.dropWhile isBlank, fun hc => hx.colon (hmid _ hc), fun hc => hx.bracket (hmid _ hc),
    ?_, ?_⟩
  · rw [hline, Text.takeWhile_append_cons hword (by decide)]
    simp [hx.word_ne]
  · rw [hline, Text.dropWhile_append_cons hword (by decide)]
    exact congrArg some (Text.dropWhile_isBlank_append rfl)

/-- What stands behind the stamp can still be read if a full date in it becomes another one. -/
theorem Linux.body?_redated {seq : Nat} {l x w m x' w' m' t : Text}
    {make : Moment → Text → Record} (hx : IsFront x w m) (hx' : IsFront x' w' m') (u : Text)
    (h : body? seq (l ++ (x ++ ':' :: t)) = some make) :
    ∃ make', body? seq (l ++ (x' ++ ':' :: u)) = some make' := by
  obtain ⟨t₁, t₂, source, rest, pid, h₁, hhost, h₂, hcut, hpid⟩ := body?_isSome_iff.mp ⟨make, h⟩
  rw [body?_isSome_iff]
  obtain ⟨l₁, rfl, hl₁⟩ := Text.afterBlanks?_append (hx.dropWhile_isBlank _) h₁
  have h₁' := hl₁ _ (hx'.dropWhile_isBlank (':' :: u))
  -- Either the host ends before the date, or the first word of the date ends it.
  by_cases hspace : ∃ c ∈ l₁, (!isWhiteSpace c) = false
  · obtain ⟨htake, hdrop⟩ := Text.takeWhile_append_of_stop hspace (x ++ ':' :: t)
    obtain ⟨htake', hdrop'⟩ := Text.takeWhile_append_of_stop hspace (x' ++ ':' :: u)
    rw [htake, ← htake'] at hhost
    rw [hdrop] at h₂
    obtain ⟨l₂, rfl, hl₂⟩ := Text.afterBlanks?_append (hx.dropWhile_isBlank _) h₂
    have h₂' := hl₂ _ (hx'.dropWhile_isBlank (':' :: u))
    rw [← hdrop'] at h₂'
    obtain ⟨source', rest', hcut', hpid'⟩ := source_redated hx hx' u hcut hpid
    exact ⟨_, _, source', rest', pid, h₁', hhost, h₂', hcut', hpid'⟩
  · have hsolid : ∀ c ∈ l₁, isWhiteSpace c = false := by
      intro c hc
      cases hw : isWhiteSpace c with
      | false => rfl
      | true => exact absurd ⟨c, hc, by simp [hw]⟩ hspace
    obtain ⟨mid, hcolon, hbracket, hhost', h₂'⟩ := hx'.host hsolid u
    exact ⟨_, _, mid, u, none, h₁', hhost', h₂', Text.cutAt?_eq_some_iff.mpr ⟨rfl, hcolon⟩,
      number?_of_not_mem hbracket⟩

theorem Linux.body?_of_ctime {seq : Nat} {l t : Text} {s s' : Stamp}
    {make : Moment → Text → Record} (hk : s.surface = .ctime) (hs : s.Shaped)
    (hk' : s'.surface = .ctime) (hs' : s'.Shaped) (u : Text)
    (h : body? seq (l ++ (s.text ++ t)) = some make) :
    ∃ make', body? seq (l ++ (s'.text ++ u)) = some make' := by
  obtain ⟨x, w, m, d, back, hx, hfront, -⟩ := isFront_of_ctime hk hs
  obtain ⟨x', w', m', d', back', hx', hfront', -⟩ := isFront_of_ctime hk' hs'
  rw [hx, List.append_assoc] at h
  rw [hx', List.append_assoc]
  exact body?_redated hfront hfront' _ h

end Line

end LogShift
