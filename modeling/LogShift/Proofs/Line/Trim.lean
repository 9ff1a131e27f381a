import LogShift.Proofs.Line.Year

/-! White space around a line. A line with a stamp at its front starts with it, and nothing of the
stamp is cut off at its end; a line without a year that is accepted is accepted without white space
too, since any message may follow the source. -/
namespace LogShift

namespace Line

/-- The text behind a stamp: blanks, the host as one word, blanks, the source up to its first colon,
and any message. -/
theorem Envelope.body?_eq_some_iff {t hostname sourceText source msg : Text} :
    body? t = some (hostname, sourceText, source, msg) ↔ ∃ b b' rest,
      (b ≠ [] ∧ ∀ c ∈ b, isBlank c = true) ∧ (b' ≠ [] ∧ ∀ c ∈ b', isBlank c = true) ∧
      (hostname ≠ [] ∧ ∀ c ∈ hostname, isWhiteSpace c = false) ∧
      t = b ++ (hostname ++ (b' ++ sourceText)) ∧ sourceText.dropWhile isBlank = sourceText ∧
      sourceText = source ++ ':' :: rest ∧ ':' ∉ source ∧ msg = rest.dropWhile isBlank := by
  simp only [body?, bind, Option.bind_eq_some_iff, Prod.exists, pure, Option.bind_none,
    Option.ite_none_left_eq_some, List.isEmpty_iff, Option.some.injEq, Prod.mk.injEq,
    Text.afterBlanks?_eq_some_iff, Text.cutAt?_eq_some_iff]
  constructor
  · intro h
    obtain ⟨t₁, ⟨b, hb, rfl, -⟩, hhost, t₂, ⟨b', hb', hdrop, hstop⟩, name, rest,
      ⟨hcut, hcolon⟩, rfl, rfl, rfl, rfl⟩ := h
    refine ⟨b, b', rest, hb, hb', ⟨hhost, ?_⟩, ?_, hstop, hcut, hcolon, rfl⟩
    · intro c hc
      have hsolid : (!isWhiteSpace c) = true :=
        List.mem_takeWhile_imp (p := fun c => !isWhiteSpace c) hc
      simpa using hsolid
    · rw [← hdrop, List.takeWhile_append_dropWhile]
  · intro h
    obtain ⟨b, b', rest, hb, hb', ⟨hne, hsolid⟩, rfl, hstop, hcut, hcolon, rfl⟩ := h
    obtain ⟨c, hostname, rfl⟩ := List.exists_cons_of_ne_nil hne
    obtain ⟨d, b', rfl⟩ := List.exists_cons_of_ne_nil hb'.1
    have hwhite : (!isWhiteSpace d) = false := by
      rw [isWhiteSpace_of_isBlank (hb'.2 d List.mem_cons_self)]
      rfl
    have hword : ∀ a ∈ c :: hostname, (!isWhiteSpace a) = true := by
      intro a ha
      rw [hsolid a ha]
      rfl
    have htake : (c :: hostname ++ (d :: b' ++ sourceText)).takeWhile (fun c => !isWhiteSpace c) =
        c :: hostname := Text.takeWhile_append_cons hword hwhite
    have hdrop : (c :: hostname ++ (d :: b' ++ sourceText)).dropWhile (fun c => !isWhiteSpace c) =
        d :: b' ++ sourceText := Text.dropWhile_append_cons hword hwhite
    have hfront : ¬isBlank c = true := by
      intro hblank
      have hc := hsolid c List.mem_cons_self
      rw [isWhiteSpace_of_isBlank hblank] at hc
      cases hc
    exact ⟨_, ⟨b, hb, rfl, List.dropWhile_cons_of_neg hfront⟩, by rw [htake]; exact hne, sourceText,
      ⟨d :: b', hb', hdrop, hstop⟩, source, rest, ⟨hcut, hcolon⟩, htake, rfl, rfl, rfl⟩

/-- Any message may stand in the place of another. -/
theorem Envelope.body?_open {t hostname sourceText source msg : Text}
    (h : body? t = some (hostname, sourceText, source, msg)) :
    ∃ front rest, t = front ++ ':' :: rest ∧ ∀ u, ∃ sourceText' msg',
      body? (front ++ ':' :: u) = some (hostname, sourceText', source, msg') := by
  obtain ⟨b, b', rest, hb, hb', hhost, rfl, hstop, rfl, hcolon, -⟩ := body?_eq_some_iff.mp h
  refine ⟨b ++ (hostname ++ (b' ++ source)), rest, by simp, ?_⟩
  intro u
  have hstop' : (source ++ ':' :: u).dropWhile isBlank = source ++ ':' :: u := by
    rw [Text.dropWhile_isBlank_append rfl] at hstop ⊢
    rw [List.append_cancel_right hstop]
  exact ⟨_, _, body?_eq_some_iff.mpr
    ⟨b, b', u, hb, hb', hhost, by simp, hstop', rfl, hcolon, rfl⟩⟩

theorem body?_open {f : LogFormat} (hf : f.hasYear = false) {seq : Nat} {t : Text}
    {make : Moment → Text → Record} (h : body? f seq t = some make) :
    ∃ front rest, t = front ++ ':' :: rest ∧
      ∀ u, ∃ make', body? f seq (front ++ ':' :: u) = some make' := by
  cases f with
  | apache => cases hf
  | hadoop => cases hf
  | linux =>
    simp only [body?, Linux.body?, bind, Option.bind_eq_some_iff, pure, Option.some.injEq] at h ⊢
    obtain ⟨⟨hostname, sourceText, source, msg⟩, hbody, pid, hpid, -⟩ := h
    obtain ⟨front, rest, rfl, hopen⟩ := Envelope.body?_open hbody
    refine ⟨front, rest, rfl, ?_⟩
    intro u
    obtain ⟨sourceText', msg', hbody'⟩ := hopen u
    exact ⟨_, _, hbody', pid, hpid, rfl⟩
  | openssh =>
    simp only [body?, OpenSsh.body?, bind, Option.bind_eq_some_iff, pure, Option.some.injEq] at h ⊢
    obtain ⟨⟨hostname, sourceText, source, msg⟩, hbody, word, hword, pid, hpid, -⟩ := h
    obtain ⟨front, rest, rfl, hopen⟩ := Envelope.body?_open hbody
    refine ⟨front, rest, rfl, ?_⟩
    intro u
    obtain ⟨sourceText', msg', hbody'⟩ := hopen u
    exact ⟨_, _, hbody', word, hword, pid, hpid, rfl⟩

end Line

namespace Stamp

variable {s : Stamp}

/-- A stamp starts with the letter of a name or with a digit. -/
theorem text_eq_cons (hs : s.Shaped) : ∃ c u, s.text = c :: u ∧ isWhiteSpace c = false := by
  cases s with
  | ctime w m d c y => cases w <;> exact ⟨_, _, rfl, by decide⟩
  | syslog m d b c =>
    obtain ⟨⟨h1, h12⟩, -⟩ := hs
    interval_cases m <;> exact ⟨_, _, rfl, by decide⟩
  | iso y m d c f =>
    obtain ⟨⟨hy0, hy9⟩, -⟩ := hs
    obtain ⟨y, rfl⟩ := Int.eq_ofNat_of_zero_le hy0
    have hlen := Decimal.length_padded (show 0 < 4 by omega) (show y < 10 ^ 4 by omega)
    obtain ⟨a, u, hyear⟩ := List.exists_cons_of_length_pos (hlen ▸ (show 0 < 4 by omega))
    have hdigit : a.isDigit = true := Decimal.isDigit_of_mem_padded (hyear ▸ List.mem_cons_self)
    rw [text, Decimal.paddedInteger_natCast, hyear]
    exact ⟨a, _, rfl, Text.isWhiteSpace_of_isDigit hdigit⟩

/-- A stamp ends with a digit. -/
theorem text_eq_concat (hs : s.Shaped) : ∃ u c, s.text = u ++ [c] ∧ c.isDigit = true := by
  cases s with
  | ctime w m d c y =>
    obtain ⟨-, -, -, hy0, hy9⟩ := hs
    obtain ⟨y, rfl⟩ := Int.eq_ofNat_of_zero_le hy0
    obtain ⟨ds, a, hyear, ha⟩ :=
      Decimal.padded_eq_concat (show 0 < 4 by omega) (show y < 10 ^ 4 by omega)
    rw [text, Decimal.paddedInteger_natCast, hyear, ← List.cons_append, ← List.append_assoc]
    exact ⟨_, a, rfl, ha⟩
  | syslog m d b c =>
    obtain ⟨-, -, -, -, -, hsecond⟩ := hs
    obtain ⟨ds, a, hlast, ha⟩ := Decimal.padded_eq_concat (show 0 < 2 by omega) hsecond
    rw [text, ClockField.text, hlast, ← List.cons_append, ← List.append_assoc, ← List.append_assoc]
    exact ⟨_, a, rfl, ha⟩
  | iso y m d c f =>
    obtain ⟨-, -, -, -, hf⟩ := hs
    obtain ⟨ds, a, hlast, ha⟩ := Decimal.padded_eq_concat (show 0 < 3 by omega) hf
    rw [text, hlast, ← List.cons_append, ← List.append_assoc]
    exact ⟨_, a, rfl, ha⟩

theorem trimEnd_append (hs : s.Shaped) (l t : Text) :
    (l ++ (s.text ++ t)).trimEnd = l ++ (s.text ++ t.trimEnd) := by
  obtain ⟨u, c, htext, hc⟩ := text_eq_concat hs
  have hsplit : ∀ r : Text, l ++ (s.text ++ r) = (l ++ u) ++ c :: r := by
    intro r
    simp [htext]
  rw [hsplit, hsplit, Text.trimEnd_append_cons (Text.isWhiteSpace_of_isDigit hc)]

end Stamp

/-- Only what follows the stamp of a line can be cut off. -/
theorem LogFormat.trim_append (f : LogFormat) {s : Stamp} (hs : s.Shaped) (t : Text) :
    (f.lead ++ (s.text ++ t)).trim = f.lead ++ (s.text ++ t.trimEnd) := by
  have hfront : (f.lead ++ (s.text ++ t)).trimStart = f.lead ++ (s.text ++ t) := by
    obtain ⟨c, u, htext, hc⟩ := Stamp.text_eq_cons hs
    have hstamp : (s.text ++ t).trimStart = s.text ++ t := by
      rw [htext]
      exact List.dropWhile_cons_of_neg (by simp [hc])
    cases f with
    | apache => exact List.dropWhile_cons_of_neg (by decide)
    | _ => exact hstamp
  rw [Text.trim, hfront, Stamp.trimEnd_append hs]

namespace LineParser

variable {f : LogFormat} {line : Text} {r : Record}

/-- White space around a line that is accepted can be cut off. -/
theorem parse_trim (hf : f.hasYear = false) {ctx : Context}
    (h : (builtin f).parse ctx line = .ok r) {stamp : Stamp} {rest : Text}
    (hread : Stamp.read? f.surface line = some (stamp, rest)) :
    (∃ r', (builtin f).parse ctx line.trim = .ok r') ∧
      ∃ rest', Stamp.read? f.surface line.trim = some (stamp, rest') := by
  obtain ⟨_, _, ts, make, hread', hyear, hfields, hnanos, hbody, -⟩ :=
    (parse_yearless_iff hf).mp h
  rw [hread] at hread'
  cases hread'
  have hsyslog := LogFormat.surface_eq_syslog_iff.mpr hf
  obtain ⟨hs, hshaped, hline, -⟩ := Stamp.read?_eq_some_iff.mp hread
  obtain ⟨front, msg, rfl, hopen⟩ := Line.body?_open hf hbody
  have hlead := LogFormat.lead_of_yearless hf
  have htrim : line.trim = stamp.text ++ (front ++ ':' :: Text.trimEnd msg) := by
    have hcut := f.trim_append hshaped (front ++ ':' :: msg)
    rw [hlead, Text.trimEnd_append_cons (by decide)] at hcut
    rw [hline]
    exact hcut
  have hagain : Stamp.read? f.surface line.trim = some (stamp, front ++ ':' :: Text.trimEnd msg) := by
    refine Stamp.read?_eq_some_iff.mpr ⟨hs, hshaped, htrim, ?_⟩
    intro hiso
    rw [hsyslog] at hiso
    cases hiso
  obtain ⟨make', hmake'⟩ := hopen (Text.trimEnd msg)
  exact ⟨⟨_, (parse_yearless_iff hf).mpr
    ⟨stamp, _, ts, make', hagain, hyear, hfields, hnanos, hmake', rfl⟩⟩, _, hagain⟩

end LineParser

end LogShift
