import LogShift.Proofs.Line.Syslog
import LogShift.Proofs.Text.Words

/-! Lines of a login daemon. A line is a record exactly if it can be cut into the parts of a system
log line and a word of its source shows a process number; the first such word decides, with its
rightmost number. -/
namespace LogShift.Line.OpenSsh

/-- The word starts with a name and shows a number in brackets behind it. -/
def Numbered (word name digits : Text) : Prop :=
  name ≠ [] ∧ Group word name digits

/-- The number behind `name` is the rightmost one of the word. -/
def Rightmost (word name digits : Text) : Prop :=
  Numbered word name digits ∧
    ∀ name' digits', Numbered word name' digits' → name'.length ≤ name.length

/-- The first word of `t` that shows a number has its rightmost one behind `name`. -/
def Shows (t name digits : Text) : Prop :=
  ∃ before word after, t = before ++ (word ++ after) ∧ Text.IsWord before word after ∧
    Rightmost word name digits ∧
    ¬∃ before' word' after' name' digits', before = before' ++ (word' ++ after') ∧
      Text.IsWord before' word' after' ∧ Numbered word' name' digits'

/-- What one bracket of a word gives. -/
theorem bracket_eq_some_iff {before inner name digits : Text} :
    (if before.isEmpty then none else (bracketed? inner).map fun digits => (before, digits)) =
      some (name, digits) ↔ before ≠ [] ∧ before = name ∧ bracketed? inner = some digits := by
  simp [and_left_comm]

theorem process?_eq_some {word name digits : Text} (h : process? word = some (name, digits)) :
    Rightmost word name digits := by
  obtain ⟨later, ⟨before, inner⟩, earlier, hsplit, hfound, hlater⟩ :=
    List.findSome?_eq_some_iff.mp h
  obtain ⟨hne, rfl, hinner⟩ := bracket_eq_some_iff.mp hfound
  have hbrackets : brackets word = earlier.reverse ++ (before, inner) :: later.reverse := by
    rw [← List.reverse_reverse (brackets word), hsplit]
    simp
  have hmem : (before, inner) ∈ brackets word := by simp [hbrackets]
  refine ⟨⟨hne, group_iff.mpr ⟨inner, hmem, hinner⟩⟩, ?_⟩
  intro name' digits' hother
  obtain ⟨inner', hmem', hinner'⟩ := group_iff.mp hother.2
  have hsorted := brackets_pairwise word
  rw [hbrackets] at hmem' hsorted
  -- A bracket further right was asked before and gave nothing.
  rcases List.mem_append.mp hmem' with hleft | hright
  · exact ((List.pairwise_append.mp hsorted).2.2 _ hleft _ List.mem_cons_self).le
  · cases hright with
    | head => exact Nat.le_refl _
    | tail _ hright =>
      have hnone := hlater _ (List.mem_reverse.mp hright)
      cases (bracket_eq_some_iff.mpr ⟨hother.1, rfl, hinner'⟩).symm.trans hnone

theorem process?_eq_none_iff {word : Text} :
    process? word = none ↔ ¬∃ name digits, Numbered word name digits := by
  constructor
  · intro h hnumbered
    obtain ⟨name, digits, hne, hgroup⟩ := hnumbered
    obtain ⟨inner, hmem, hinner⟩ := group_iff.mp hgroup
    have hnone := List.findSome?_eq_none_iff.mp h _ (List.mem_reverse.mpr hmem)
    cases (bracket_eq_some_iff.mpr ⟨hne, rfl, hinner⟩).symm.trans hnone
  · intro h
    cases hprocess : process? word with
    | none => rfl
    | some found => exact absurd ⟨_, _, (process?_eq_some hprocess).1⟩ h

theorem Rightmost.unique {word name name' digits digits' : Text} (h : Rightmost word name digits)
    (h' : Rightmost word name' digits') : name = name' ∧ digits = digits' := by
  have hlen : name.length = name'.length :=
    Nat.le_antisymm (h'.2 name digits h.1) (h.2 name' digits' h'.1)
  obtain ⟨-, -, hdigits, after, hword⟩ := h.1
  obtain ⟨-, -, hdigits', after', hword'⟩ := h'.1
  obtain ⟨hname, hinner⟩ := List.append_inj (hword.symm.trans hword') hlen
  have hstop : ∀ t : Text, ∀ c ∈ (']' :: t).head?, c.isDigit = false := by
    intro t c hc
    cases hc
    rfl
  exact ⟨hname, (Text.run_unique hdigits hdigits' (hstop _) (hstop _) (List.cons.inj hinner).2).1⟩

theorem process?_eq_some_iff {word name digits : Text} :
    process? word = some (name, digits) ↔ Rightmost word name digits := by
  refine ⟨process?_eq_some, ?_⟩
  intro h
  cases hprocess : process? word with
  | none => exact absurd ⟨name, digits, h.1⟩ (process?_eq_none_iff.mp hprocess)
  | some found =>
    obtain ⟨rfl, rfl⟩ := h.unique (process?_eq_some hprocess)
    rfl

/-- The words are asked from left to right. -/
theorem shows_iff {t name digits : Text} :
    Shows t name digits ↔ t.words.findSome? process? = some (name, digits) := by
  simp only [List.findSome?_eq_some_iff, process?_eq_some_iff, process?_eq_none_iff]
  constructor
  · intro h
    obtain ⟨before, word, after, ht, hword, hlast, hfirst⟩ := h
    refine ⟨before.words, word, after.words, ?_, hlast, ?_⟩
    · exact Text.words_eq_append_cons_iff.mpr ⟨before, after, ht, hword, rfl, rfl⟩
    · intro word' hmem hnumbered
      obtain ⟨before', after', hbefore, hword'⟩ := Text.mem_words_iff.mp hmem
      obtain ⟨name', digits', hnumbered⟩ := hnumbered
      exact hfirst ⟨before', word', after', name', digits', hbefore, hword', hnumbered⟩
  · intro h
    obtain ⟨earlier, word, later, hwords, hlast, hfirst⟩ := h
    obtain ⟨before, after, ht, hword, rfl, rfl⟩ := Text.words_eq_append_cons_iff.mp hwords
    refine ⟨before, word, after, ht, hword, hlast, ?_⟩
    intro hearlier
    obtain ⟨before', word', after', name', digits', hbefore, hword', hnumbered⟩ := hearlier
    exact hfirst word' (Text.mem_words_iff.mpr ⟨before', after', hbefore, hword'⟩)
      ⟨name', digits', hnumbered⟩

theorem Shows.unique {t name name' digits digits' : Text} (h : Shows t name digits)
    (h' : Shows t name' digits') : name = name' ∧ digits = digits' := by
  rw [shows_iff] at h h'
  rw [h] at h'
  exact Prod.mk.inj (Option.some.inj h')

def record {year : Int} (p : Envelope.Parts year) (seq : Nat) (name digits : Text) : Record :=
  .openssh {
    seq, timestamp := p.timestamp, hostname := p.host, source := name
    pid := Decimal.value digits, msg := p.msg, logline := p.text, ip := none, user := none }

theorem parse_eq_ok_iff_parts {ctx : Context} {line : Text} {r : Record} :
    parse ctx line = .ok r ↔ ∃ (p : Envelope.Parts ctx.year) (name digits : Text),
      p.text = line ∧ Shows p.source name digits ∧ Decimal.value digits < 2 ^ 32 ∧
      r = record p ctx.seq name digits := by
  refine (LineParser.parse_builtin_iff_dates (f := .openssh)).trans ?_
  simp only [Line.body?, body?, bind, Option.bind_eq_some_iff, Prod.exists, pure,
    Option.some.injEq, ← shows_iff, pid?_eq_some_iff]
  constructor
  · intro h
    obtain ⟨stamp, t, timestamp, _, hdates, rfl, ⟨hostname, sourceText, source, msg, hbody, name,
      digits, hshows, pid, ⟨hlt, rfl⟩, rfl⟩, rfl⟩ := h
    obtain ⟨p, htext, rfl, rfl, rfl, rfl⟩ := Envelope.parts_of_body? hdates hbody
    refine ⟨p, name, digits, htext, hshows, hlt, ?_⟩
    rw [record, htext]
    rfl
  · intro h
    obtain ⟨p, name, digits, rfl, hshows, hlt, rfl⟩ := h
    obtain ⟨sourceText, hbody⟩ := Envelope.body?_parts p
    exact ⟨p.stamp, p.body, p.timestamp, _, p.stamp_dates, rfl, ⟨p.host, sourceText, p.source,
      p.msg, hbody, name, digits, hshows, _, ⟨hlt, rfl⟩, rfl⟩, rfl⟩

/-- A line is a record exactly if it has the parts of a system log line, a word of its source shows
a number in brackets behind a name, and the rightmost number of the first such word is below
`2 ^ 32`. The line has its parts in one way only, and the record is made of them. -/
theorem parse_opensshParts (ctx : Context) (line : Text) :
    ((∃ r, parse ctx line = .ok r) ↔ ∃ (p : Envelope.Parts ctx.year) (name digits : Text),
      p.text = line ∧ Shows p.source name digits ∧ Decimal.value digits < 2 ^ 32) ∧
    (∀ p q : Envelope.Parts ctx.year, p.text = line → q.text = line → p = q) ∧
    ∀ (p : Envelope.Parts ctx.year) (name digits : Text) (r : Record), p.text = line →
      Shows p.source name digits → parse ctx line = .ok r → r = .openssh {
        seq := ctx.seq, timestamp := p.timestamp, hostname := p.host, source := name
        pid := Decimal.value digits, msg := p.msg, logline := line, ip := none, user := none } := by
  refine ⟨?_, ?_, ?_⟩
  · constructor
    · intro h
      obtain ⟨r, hr⟩ := h
      obtain ⟨p, name, digits, hp, hshows, hlt, -⟩ := parse_eq_ok_iff_parts.mp hr
      exact ⟨p, name, digits, hp, hshows, hlt⟩
    · intro h
      obtain ⟨p, name, digits, hp, hshows, hlt⟩ := h
      exact ⟨_, parse_eq_ok_iff_parts.mpr ⟨p, name, digits, hp, hshows, hlt, rfl⟩⟩
  · intro p q hp hq
    exact Envelope.Parts.text_injective (hp.trans hq.symm)
  · intro p name digits r hp hshows hr
    obtain ⟨q, name', digits', hq, hshows', -, rfl⟩ := parse_eq_ok_iff_parts.mp hr
    obtain rfl := Envelope.Parts.text_injective (hq.trans hp.symm)
    obtain ⟨rfl, rfl⟩ := hshows.unique hshows'
    rw [← hp]
    rfl

/-- A number at the front of a word names no process, the first word with a number decides, and its
rightmost number counts. -/
theorem parse_opensshParts_rightmost :
    let line := "Feb 29 00:00:59 é-1 \t[1]x a[2][03]b c[4]:\tm: [5]: ".toList
    ∃ p : Envelope.Parts 2016, p.text = line ∧ Shows p.source "a[2]".toList "03".toList ∧
      parse ⟨7, 2016⟩ line = .ok (.openssh {
        seq := 7
        timestamp := ⟨⟨2016, 2, 29, by decide, by decide, by decide⟩,
          ⟨59, 0, by decide, by decide, by decide⟩⟩
        hostname := "é-1".toList, source := "a[2]".toList, pid := 3, msg := "m: [5]: ".toList
        logline := line, ip := none, user := none }) := by
  intro line
  let timestamp : Moment := ⟨⟨2016, 2, 29, by decide, by decide, by decide⟩,
    ⟨59, 0, by decide, by decide, by decide⟩⟩
  have hdates : Stamp.Dates .syslog (some 2016) "Feb 29 00:00:59".toList timestamp :=
    Stamp.dates_iff.mpr ⟨.syslog 2 ⟨1, 2, 29⟩ [' '] ⟨0, 0, 59⟩, rfl,
      ⟨⟨by decide, by decide⟩, ⟨by decide, by decide, by decide⟩, ⟨by simp, by simp [isBlank]⟩,
        by decide, by decide, by decide⟩, by decide, rfl⟩
  have hshows : Shows "[1]x a[2][03]b c[4]".toList "a[2]".toList "03".toList :=
    shows_iff.mpr (by decide)
  let p : Envelope.Parts 2016 := {
    stamp := "Feb 29 00:00:59".toList, timestamp, gap₁ := [' '], host := "é-1".toList
    gap₂ := " \t".toList, source := "[1]x a[2][03]b c[4]".toList, gap₃ := ['\t']
    msg := "m: [5]: ".toList, stamp_dates := hdates, gap₁_blanks := ⟨by simp, by simp [isBlank]⟩
    host_ne := by simp, host_solid := by simp [isWhiteSpace]
    gap₂_blanks := ⟨by simp, by simp [isBlank]⟩, source_head := by simp [isBlank]
    source_open := by simp, gap₃_blanks := by simp [isBlank], msg_head := by simp [isBlank] }
  have htext : p.text = line := rfl
  obtain ⟨hok, -, hrecord⟩ := parse_opensshParts ⟨7, 2016⟩ line
  obtain ⟨r, hr⟩ := hok.mpr ⟨p, _, _, htext, hshows, by decide⟩
  rw [hrecord p _ _ r htext hshows hr] at hr
  exact ⟨p, htext, hshows, hr⟩

end LogShift.Line.OpenSsh
