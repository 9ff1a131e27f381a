import LogShift.Proofs.Line.Parts
import LogShift.Proofs.Line.Trim

/-! System log lines of both formats. A line is cut in one way only into the stamp, the host, the
source up to the first colon and the message; numbers in brackets are looked for in the source. -/
namespace LogShift.Line

/-- The parts of a line in their order: the stamp, blanks, the host, blanks, the source with a
colon, blanks if any and the message. -/
@[ext] structure Envelope.Parts (year : Int) where
  stamp : Text
  timestamp : Moment
  gap₁ : Text
  host : Text
  gap₂ : Text
  source : Text
  gap₃ : Text
  msg : Text
  stamp_dates : Stamp.Dates .syslog (some year) stamp timestamp
  gap₁_blanks : Text.IsBlanks gap₁
  host_ne : host ≠ []
  host_solid : ∀ c ∈ host, isWhiteSpace c = false
  gap₂_blanks : Text.IsBlanks gap₂
  source_head : ∀ c ∈ source.head?, isBlank c = false
  source_open : ':' ∉ source
  gap₃_blanks : ∀ c ∈ gap₃, isBlank c = true
  msg_head : ∀ c ∈ msg.head?, isBlank c = false

namespace Envelope.Parts

theorem not_isWhiteSpace_of_isBlank (c : Char) (h : isBlank c = true) :
    (!isWhiteSpace c) = false := by
  rw [isWhiteSpace_of_isBlank h]
  rfl

variable {year : Int}

/-- What stands behind the stamp. -/
def body (p : Parts year) : Text :=
  p.gap₁ ++ (p.host ++ (p.gap₂ ++ (p.source ++ ':' :: (p.gap₃ ++ p.msg))))

def text (p : Parts year) : Text :=
  p.stamp ++ p.body

theorem host_head (p : Parts year) : ∀ c ∈ p.host.head?, isBlank c = false :=
  Text.head?_isBlank not_isWhiteSpace_of_isBlank (by simpa using p.host_solid)

theorem host_stop (p : Parts year) (t : Text) :
    ∀ c ∈ (p.gap₂ ++ t).head?, (!isWhiteSpace c) = false :=
  p.gap₂_blanks.head?_append not_isWhiteSpace_of_isBlank t

/-- A source may be empty; then the colon stands at its place. -/
theorem sourceText_head_iff {source t : Text} :
    (∀ c ∈ (source ++ ':' :: t).head?, isBlank c = false) ↔
      ∀ c ∈ source.head?, isBlank c = false := by
  cases source with
  | nil => simp [isBlank]
  | cons c source => rfl

theorem text_injective {p q : Parts year} (h : p.text = q.text) : p = q := by
  obtain ⟨hstamp, htime, h⟩ := p.stamp_dates.unique q.stamp_dates
    (p.gap₁_blanks.head?_isDigit _) (q.gap₁_blanks.head?_isDigit _) h
  obtain ⟨hgap₁, h⟩ := p.gap₁_blanks.unique q.gap₁_blanks
    (Text.forall_head?_append p.host_ne p.host_head)
    (Text.forall_head?_append q.host_ne q.host_head) h
  obtain ⟨hhost, h⟩ := Text.run_unique (by simpa using p.host_solid) (by simpa using q.host_solid)
    (p.host_stop _) (q.host_stop _) h
  obtain ⟨hgap₂, h⟩ := p.gap₂_blanks.unique q.gap₂_blanks (sourceText_head_iff.mpr p.source_head)
    (sourceText_head_iff.mpr q.source_head) h
  obtain ⟨hsource, h⟩ := Text.cut_unique p.source_open q.source_open h
  obtain ⟨hgap₃, hmsg⟩ := Text.run_unique p.gap₃_blanks q.gap₃_blanks p.msg_head q.msg_head h
  exact Parts.ext hstamp htime hgap₁ hhost hgap₂ hsource hgap₃ hmsg

end Envelope.Parts

/-- The source of the parts with all that follows it. -/
def Envelope.Parts.sourceText {year : Int} (p : Parts year) : Text :=
  p.source ++ ':' :: (p.gap₃ ++ p.msg)

theorem Envelope.body?_eq {year : Int} (p : Parts year) :
    body? p.body = some (p.host, p.sourceText, p.source, p.msg) := by
  obtain ⟨-, hdrop⟩ := Text.takeWhile_append_of_head? p.gap₃_blanks p.msg_head
  exact body?_eq_some_iff.mpr ⟨p.gap₁, p.gap₂, p.gap₃ ++ p.msg, p.gap₁_blanks, p.gap₂_blanks,
    ⟨p.host_ne, p.host_solid⟩, rfl,
    Text.dropWhile_eq_self_iff_head?.mpr (Parts.sourceText_head_iff.mpr p.source_head),
    rfl, p.source_open, hdrop.symm⟩

theorem Envelope.body?_parts {year : Int} (p : Parts year) :
    ∃ sourceText, body? p.body = some (p.host, sourceText, p.source, p.msg) :=
  ⟨p.sourceText, body?_eq p⟩

theorem Envelope.parts_of_body? {year : Int} {stamp t hostname sourceText source msg : Text}
    {timestamp : Moment} (hstamp : Stamp.Dates .syslog (some year) stamp timestamp)
    (h : body? t = some (hostname, sourceText, source, msg)) :
    ∃ p : Parts year, p.text = stamp ++ t ∧ p.timestamp = timestamp ∧ p.host = hostname ∧
      p.source = source ∧ p.msg = msg := by
  obtain ⟨gap₁, gap₂, rest, hgap₁, hgap₂, ⟨hne, hsolid⟩, rfl, hhead, rfl, hopen, rfl⟩ :=
    body?_eq_some_iff.mp h
  refine ⟨{
    stamp, timestamp, gap₁, host := hostname, gap₂, source, gap₃ := rest.takeWhile isBlank
    msg := rest.dropWhile isBlank, stamp_dates := hstamp, gap₁_blanks := hgap₁, host_ne := hne
    host_solid := hsolid, gap₂_blanks := hgap₂
    source_head := Parts.sourceText_head_iff.mp (Text.dropWhile_eq_self_iff_head?.mp hhead)
    source_open := hopen
    gap₃_blanks := fun c hc => List.mem_takeWhile_imp hc
    msg_head := Text.dropWhile_eq_self_iff_head?.mp (List.dropWhile_idempotent _ _) },
    ?_, rfl, rfl, rfl, rfl⟩
  simp [Parts.text, Parts.body]

namespace Envelope

variable {year : Int}

/-- All that stands before the source. -/
def Parts.front (p : Parts year) : Text :=
  p.stamp ++ (p.gap₁ ++ (p.host ++ p.gap₂))

theorem Parts.text_eq (p : Parts year) : p.text = p.front ++ p.sourceText := by
  simp [text, body, front, sourceText]

theorem parse_text (format : LogFormat) (p : Parts year) :
    Envelope.parse format year p.text =
      .ok ⟨p.timestamp, p.host, p.source, p.front.width, p.msg⟩ := by
  obtain ⟨stamp, hk, hs, hstamp, hts⟩ := Stamp.dates_iff.mp p.stamp_dates
  have hstop : p.body.head?.any Char.isDigit = false :=
    (Option.any_eq_false _ _).mpr (p.gap₁_blanks.head?_isDigit _)
  have hat : p.front.width = offsetOf p.text p.sourceText := by
    rw [offsetOf, p.text_eq, Text.width_append, Nat.add_sub_cancel]
  rw [hat]
  apply parse_eq_ok_iff.mpr
  refine ⟨stamp, p.body, p.timestamp, p.host, p.sourceText, p.source, p.msg, ?_, ?_, hts,
    body?_eq p, rfl⟩
  · exact Stamp.read?_eq_some_iff.mpr ⟨hk, hs, rfl, fun _ => hstop⟩
  · rw [hstamp]
    rfl

/-- The parts of a line are what the envelope is read from. -/
theorem parse_isOk_iff {format : LogFormat} {line : Text} :
    (∃ env, Envelope.parse format year line = .ok env) ↔ ∃ p : Parts year, p.text = line := by
  constructor
  · intro h
    obtain ⟨env, henv⟩ := h
    obtain ⟨stamp, t, ts, host, sourceText, source, msg, hread, rfl, hts, hbody, -⟩ :=
      parse_eq_ok_iff.mp henv
    obtain ⟨hk, hs, -, -⟩ := Stamp.read?_eq_some_iff.mp hread
    obtain ⟨p, hp, -⟩ := parts_of_body? (Stamp.dates_iff.mpr ⟨stamp, hk, hs, rfl, hts⟩) hbody
    exact ⟨p, hp⟩
  · intro h
    obtain ⟨p, rfl⟩ := h
    exact ⟨_, parse_text format p⟩

end Envelope

/-- A number in brackets stands behind `before`. -/
def Group (t before digits : Text) : Prop :=
  digits ≠ [] ∧ (∀ c ∈ digits, c.isDigit = true) ∧
    ∃ after, t = before ++ '[' :: (digits ++ ']' :: after)

theorem mem_brackets_iff {t before inner : Text} :
    (before, inner) ∈ brackets t ↔ t = before ++ '[' :: inner := by
  induction t generalizing before with
  | nil => simp [brackets]
  | cons c t ih =>
    cases before with
    | nil => by_cases hc : c = '[' <;> simp [brackets, hc, eq_comm]
    | cons d before => by_cases hc : c = '[' <;> simp [brackets, hc, ih, eq_comm, and_comm]

theorem brackets_pairwise (t : Text) :
    (brackets t).Pairwise fun a b => a.1.length < b.1.length := by
  induction t with
  | nil => exact List.Pairwise.nil
  | cons c t ih =>
    have hshift : ∀ {a b : Text × Text}, a.1.length < b.1.length →
        (c :: a.1).length < (c :: b.1).length := Nat.succ_lt_succ
    by_cases hc : c = '['
    · rw [brackets, if_pos hc]
      refine List.pairwise_cons.mpr ⟨?_, List.pairwise_map.mpr (ih.imp hshift)⟩
      intro b hb
      obtain ⟨a, -, rfl⟩ := List.mem_map.mp hb
      exact Nat.zero_lt_succ _
    · rw [brackets, if_neg hc]
      exact List.pairwise_map.mpr (ih.imp hshift)

theorem bracketed?_eq_some_iff {t digits : Text} :
    bracketed? t = some digits ↔
      digits ≠ [] ∧ (∀ c ∈ digits, c.isDigit = true) ∧ ∃ after, t = digits ++ ']' :: after := by
  simp only [bracketed?, Option.ite_none_right_eq_some, Option.some.injEq, Bool.and_eq_true,
    Bool.not_eq_true', List.isEmpty_eq_false_iff, beq_iff_eq]
  constructor
  · intro h
    obtain ⟨⟨hne, hclose⟩, rfl⟩ := h
    obtain ⟨after, hafter⟩ := List.head?_eq_some_iff.mp hclose
    refine ⟨hne, fun c hc => List.mem_takeWhile_imp hc, after, ?_⟩
    rw [← hafter, List.takeWhile_append_dropWhile]
  · intro h
    obtain ⟨hne, hdigits, after, rfl⟩ := h
    have hstop : ']'.isDigit = false := rfl
    rw [Text.takeWhile_append_cons hdigits hstop, Text.dropWhile_append_cons hdigits hstop]
    exact ⟨⟨hne, rfl⟩, rfl⟩

theorem group_iff {t before digits : Text} :
    Group t before digits ↔
      ∃ inner, (before, inner) ∈ brackets t ∧ bracketed? inner = some digits := by
  simp only [mem_brackets_iff, bracketed?_eq_some_iff]
  constructor
  · intro h
    obtain ⟨hne, hdigits, after, rfl⟩ := h
    exact ⟨_, rfl, hne, hdigits, after, rfl⟩
  · intro h
    obtain ⟨_, rfl, hne, hdigits, after, rfl⟩ := h
    exact ⟨hne, hdigits, after, rfl⟩

theorem pid?_eq_some_iff {digits : Text} {n : Nat} :
    pid? digits = some n ↔ Decimal.value digits < 2 ^ 32 ∧ n = Decimal.value digits := by
  simp [pid?, eq_comm]

end LogShift.Line
