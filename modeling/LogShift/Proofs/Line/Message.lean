import LogShift.Proofs.Line.Trim

/-! The message of a system log line. A full date behind the stamp is part of the message, or the
message starts inside it; and a line with another moment and another message is read as the record
that has these. -/
namespace LogShift

namespace Line

theorem dropWhile_isBlank_digit {d : Char} (hd : d.isDigit = true) (t : Text) :
    (d :: t).dropWhile isBlank = d :: t := by
  apply List.dropWhile_cons_of_neg
  intro hblank
  rw [isDigit_of_isBlank hblank] at hd
  cases hd

/-- The text behind the first colon of a text in which a full date stands: the date is behind that
colon, or the colon is its own. -/
theorem rest_of_cutAt? {l x w m t source rest : Text} {d : Char} (hx : IsFront x w m)
    (hd : d.isDigit = true)
    (h : Text.cutAt? ':' (l ++ (x ++ ':' :: d :: t)) = some (source, rest)) :
    (∃ r, rest.dropWhile isBlank = r ++ (x ++ ':' :: d :: t)) ∨
      rest.dropWhile isBlank = d :: t := by
  by_cases hcolon : ':' ∈ l
  · obtain ⟨name, r, rfl, hname⟩ := List.eq_append_cons_of_mem hcolon
    have hcut : Text.cutAt? ':' (name ++ ':' :: r ++ (x ++ ':' :: d :: t)) =
        some (name, r ++ (x ++ ':' :: d :: t)) :=
      Text.cutAt?_eq_some_iff.mpr ⟨by simp, hname⟩
    rw [hcut] at h
    cases h
    exact .inl ⟨_, Text.dropWhile_isBlank_append (hx.dropWhile_isBlank _)⟩
  · have hcut : Text.cutAt? ':' (l ++ (x ++ ':' :: d :: t)) = some (l ++ x, d :: t) :=
      Text.cutAt?_eq_some_iff.mpr ⟨by simp, by simp [hcolon, hx.colon]⟩
    rw [hcut] at h
    cases h
    exact .inr (dropWhile_isBlank_digit hd t)

/-- A full date behind the stamp lies in the message, or the message starts inside it. -/
theorem Envelope.msg_of_ctime {l u hostname sourceText source msg : Text} {s : Stamp}
    (hk : s.surface = .ctime) (hs : s.Shaped)
    (h : body? (l ++ (s.text ++ u)) = some (hostname, sourceText, source, msg)) :
    (∃ r, msg = r ++ (s.text ++ u)) ∨
      ∃ x y, s.text = x ++ y ∧ x ≠ [] ∧ y ≠ [] ∧ msg = y ++ u := by
  obtain ⟨x, w, m, d, back, hx, hfront, hd⟩ := isFront_of_ctime hk hs
  have htext : s.text ++ u = x ++ ':' :: d :: (back ++ u) := by
    rw [hx]
    simp
  simp only [body?, bind, Option.bind_eq_some_iff, Prod.exists, pure, Option.bind_none,
    Option.ite_none_left_eq_some, Option.some.injEq, Prod.mk.injEq] at h
  obtain ⟨t₁, h₁, -, t₂, h₂, source, rest, hcut, -, -, -, rfl⟩ := h
  have hrest : (∃ r, rest.dropWhile isBlank = r ++ (x ++ ':' :: d :: (back ++ u))) ∨
      rest.dropWhile isBlank = d :: (back ++ u) := by
    rw [htext] at h₁
    obtain ⟨l₁, rfl, -⟩ := Text.afterBlanks?_append (hfront.dropWhile_isBlank _) h₁
    -- Either the host ends before the date, or the first word of the date ends it.
    by_cases hspace : ∃ c ∈ l₁, (!isWhiteSpace c) = false
    · rw [(Text.takeWhile_append_of_stop hspace _).2] at h₂
      obtain ⟨l₂, rfl, -⟩ := Text.afterBlanks?_append (hfront.dropWhile_isBlank _) h₂
      exact rest_of_cutAt? hfront hd hcut
    · have hsolid : ∀ c ∈ l₁, isWhiteSpace c = false := by simpa using hspace
      obtain ⟨mid, hcolon, -, -, hafter⟩ := hfront.host hsolid (d :: (back ++ u))
      rw [hafter] at h₂
      cases h₂
      rw [Text.cutAt?_eq_some_iff.mpr ⟨rfl, hcolon⟩] at hcut
      cases hcut
      exact .inr (dropWhile_isBlank_digit hd _)
  rcases hrest with ⟨r, hr⟩ | hr
  · exact .inl ⟨r, by rw [hr, htext]⟩
  · exact .inr ⟨x ++ [':'], d :: back, by rw [hx]; simp, by simp, by simp, by rw [hr]; rfl⟩

/-- A message that starts with no blank is read as it stands in the place of another. -/
theorem Envelope.body?_msg {t hostname sourceText source msg : Text}
    (h : body? t = some (hostname, sourceText, source, msg)) :
    msg.dropWhile isBlank = msg ∧ ∃ front, t = front ++ msg ∧
      ∀ msg' : Text, msg'.dropWhile isBlank = msg' →
        ∃ sourceText', body? (front ++ msg') = some (hostname, sourceText', source, msg') := by
  obtain ⟨b, b', rest, hb, hb', hhost, rfl, hstop, rfl, hcolon, rfl⟩ := body?_eq_some_iff.mp h
  have hblanks : ∀ c ∈ rest.takeWhile isBlank, isBlank c = true := fun c hc =>
    List.mem_takeWhile_imp hc
  refine ⟨List.dropWhile_idempotent isBlank rest,
    b ++ (hostname ++ (b' ++ (source ++ ':' :: rest.takeWhile isBlank))), ?_, ?_⟩
  · conv_lhs => rw [← List.takeWhile_append_dropWhile (p := isBlank) (l := rest)]
    simp
  · intro msg' hmsg'
    have hstop' : (source ++ ':' :: (rest.takeWhile isBlank ++ msg')).dropWhile isBlank =
        source ++ ':' :: (rest.takeWhile isBlank ++ msg') := by
      rw [Text.dropWhile_isBlank_append rfl] at hstop ⊢
      rw [List.append_cancel_right hstop]
    refine ⟨_, body?_eq_some_iff.mpr ⟨b, b', rest.takeWhile isBlank ++ msg', hb, hb', hhost,
      by simp, hstop', rfl, hcolon, ?_⟩⟩
    rw [List.dropWhile_append_of_pos hblanks, hmsg']

/-- A record takes the message that stands in the place of its own, and all else stays. -/
theorem Linux.body?_msg {seq : Nat} {t : Text} {make : Moment → Text → Record}
    (h : body? seq t = some make) :
    ∃ front msg hostname sourceText source, t = front ++ msg ∧
      Envelope.body? t = some (hostname, sourceText, source, msg) ∧
      (∀ ts line, (make ts line).msg = msg) ∧ msg.dropWhile isBlank = msg ∧
      ∀ msg' : Text, msg'.dropWhile isBlank = msg' →
        body? seq (front ++ msg') = some fun ts line => (make ts line).withMsg msg' := by
  simp only [body?, bind, Option.bind_eq_some_iff, Prod.exists, pure, Option.some.injEq] at h ⊢
  obtain ⟨hostname, sourceText, source, msg, hbody, pid, hpid, rfl⟩ := h
  obtain ⟨hsolid, front, rfl, hagain⟩ := Envelope.body?_msg hbody
  refine ⟨front, msg, hostname, sourceText, source, rfl, hbody, fun _ _ => rfl, hsolid, ?_⟩
  intro msg' hmsg'
  obtain ⟨sourceText', hbody'⟩ := hagain msg' hmsg'
  exact ⟨hostname, sourceText', source, msg', hbody', pid, hpid, rfl⟩

end Line

/-- The parts of a line that is read as the record `r`: with the moment and the message of another
record in their places, it is read as `r` with these. -/
theorem LineParser.parts_of_parse {ctx : Context} {line : Text} {r : Record}
    (h : (builtin .linux).parse ctx line = .ok r) :
    ∃ stamp front hostname sourceText source, line = stamp.text ++ (front ++ r.msg) ∧
      r.logline = line ∧
      Stamp.read? .syslog (stamp.text ++ (front ++ r.msg)) = some (stamp, front ++ r.msg) ∧
      stamp.fields.resolve (some r.timestamp.year) false = .ok r.timestamp ∧
      Line.Envelope.body? (front ++ r.msg) = some (hostname, sourceText, source, r.msg) ∧
      r.msg.dropWhile isBlank = r.msg ∧
      ∀ (v : Moment) (msg : Text), LogFormat.linux.Shows v → msg.dropWhile isBlank = msg →
        let line' := stamp.render v ++ (front ++ msg)
        (builtin .linux).parse ⟨ctx.seq, v.year⟩ line' =
          .ok (((r.withLogline line').withMsg msg).withTimestamp v) := by
  obtain ⟨stamp, t, ts, make, hread, hline, hts, hmake, rfl⟩ := parse_builtin_eq_ok_iff.mp h
  have hmade := Line.template_of_body? hmake
  obtain ⟨front, msg, hostname, sourceText, source, rfl, hbody, hmsg, hsolid, hagain⟩ :=
    Line.Linux.body?_msg hmake
  rw [hmsg, hmade.timestamp_eq, hmade.logline_eq]
  refine ⟨stamp, front, hostname, sourceText, source, hline, rfl, hread,
    DateFields.resolve_year hts, hbody, hsolid, ?_⟩
  intro v msg' hv hmsg' line'
  obtain ⟨hk, hs, -, -⟩ := Stamp.read?_eq_some_iff.mp hread
  have hread' : Stamp.read? .syslog (stamp.text ++ (front ++ msg')) = some (stamp, front ++ msg') :=
    Stamp.read?_eq_some_iff.mpr ⟨hk, hs, rfl, fun h => by cases h⟩
  have hparse := parse_render (f := .linux) hread' (hagain msg' hmsg') hv fun h => by cases h
  rw [Record.withTimestamp_comm, hmade.withTimestamp_eq, hmade.withLogline_eq]
  exact hparse

end LogShift
