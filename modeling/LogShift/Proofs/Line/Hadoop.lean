import LogShift.Proofs.Line.Parts

/-! The lines of a distributed file system. A line is a record exactly if it can be cut into the
parts of its format; it can be cut in one way only, and the record shows the parts. -/
namespace LogShift.Line.Hadoop

/-- The parts of a line in their order: the stamp, blanks, the severity, blanks, the thread in
brackets, blanks, the source with a colon, blanks and the message. -/
@[ext] structure Parts where
  stamp : Text
  timestamp : Moment
  gap₁ : Text
  severity : Text
  gap₂ : Text
  thread : Text
  gap₃ : Text
  source : Text
  gap₄ : Text
  tail : Text
  stamp_dates : Stamp.Dates .iso none stamp timestamp
  gap₁_blanks : Text.IsBlanks gap₁
  severity_ne : severity ≠ []
  severity_chars : ∀ c ∈ severity, isAlphanumeric c = true ∨ c = '_'
  gap₂_blanks : Text.IsBlanks gap₂
  thread_ne : thread ≠ []
  thread_open : ']' ∉ thread
  gap₃_blanks : Text.IsBlanks gap₃
  source_ne : source ≠ []
  source_head : ∀ c ∈ source.head?, isBlank c = false
  source_open : ':' ∉ source
  gap₄_blanks : Text.IsBlanks gap₄
  tail_head : ∀ c ∈ tail.head?, isBlank c = false

theorem isSeverityChar_iff {c : Char} :
    isSeverityChar c = true ↔ isAlphanumeric c = true ∨ c = '_' := by
  simp [isSeverityChar]

theorem isSeverityChar_of_isBlank {c : Char} (h : isBlank c = true) : isSeverityChar c = false := by
  simp only [isBlank, Bool.or_eq_true, beq_iff_eq] at h
  rcases h with rfl | rfl
  · decide
  · decide

namespace Parts

/-- What stands behind the stamp. -/
def body (p : Parts) : Text :=
  p.gap₁ ++ (p.severity ++ (p.gap₂ ++ '[' :: (p.thread ++ ']' :: (p.gap₃ ++ (p.source ++
    ':' :: (p.gap₄ ++ p.tail))))))

def text (p : Parts) : Text :=
  p.stamp ++ p.body

def record (p : Parts) (seq : Nat) : Record :=
  .hadoop {
    seq, timestamp := p.timestamp, severity := p.severity, thread := p.thread, source := p.source
    msg := p.tail.trim, logline := p.text }

theorem severity_solid (p : Parts) : ∀ c ∈ p.severity, isSeverityChar c = true := by
  intro c hc
  exact isSeverityChar_iff.mpr (p.severity_chars c hc)

theorem severity_head (p : Parts) : ∀ c ∈ p.severity.head?, isBlank c = false :=
  Text.head?_isBlank (fun _ => isSeverityChar_of_isBlank) p.severity_solid

theorem severity_stop (p : Parts) (t : Text) :
    ∀ c ∈ (p.gap₂ ++ t).head?, isSeverityChar c = false :=
  p.gap₂_blanks.head?_append (fun _ => isSeverityChar_of_isBlank) t

/-- Each part ends where the next one can only start, so that a line has its parts once. -/
theorem text_injective {p q : Parts} (h : p.text = q.text) : p = q := by
  obtain ⟨hstamp, htime, h⟩ := p.stamp_dates.unique q.stamp_dates
    (p.gap₁_blanks.head?_isDigit _) (q.gap₁_blanks.head?_isDigit _) h
  obtain ⟨hgap₁, h⟩ := p.gap₁_blanks.unique q.gap₁_blanks
    (Text.forall_head?_append p.severity_ne p.severity_head)
    (Text.forall_head?_append q.severity_ne q.severity_head) h
  obtain ⟨hseverity, h⟩ := Text.run_unique p.severity_solid q.severity_solid
    (p.severity_stop _) (q.severity_stop _) h
  obtain ⟨hgap₂, h⟩ := p.gap₂_blanks.unique q.gap₂_blanks (by simp [isBlank]) (by simp [isBlank]) h
  obtain ⟨hthread, h⟩ := Text.cut_unique p.thread_open q.thread_open (List.cons.inj h).2
  obtain ⟨hgap₃, h⟩ := p.gap₃_blanks.unique q.gap₃_blanks
    (Text.forall_head?_append p.source_ne p.source_head)
    (Text.forall_head?_append q.source_ne q.source_head) h
  obtain ⟨hsource, h⟩ := Text.cut_unique p.source_open q.source_open h
  obtain ⟨hgap₄, htail⟩ := p.gap₄_blanks.unique q.gap₄_blanks p.tail_head q.tail_head h
  exact Parts.ext hstamp htime hgap₁ hseverity hgap₂ hthread hgap₃ hsource hgap₄ htail

end Parts

/-- The parts behind a stamp are read one after the other. -/
theorem body?_parts (p : Parts) (seq : Nat) : ∃ make, body? seq p.body = some make ∧
    p.record seq = make p.timestamp p.text := by
  obtain ⟨htake, hdrop⟩ := Text.takeWhile_append_of_head? p.severity_solid (p.severity_stop
    ('[' :: (p.thread ++ ']' :: (p.gap₃ ++ (p.source ++ ':' :: (p.gap₄ ++ p.tail))))))
  refine ⟨fun timestamp logline => .hadoop {
    seq, timestamp, severity := p.severity, thread := p.thread, source := p.source
    msg := p.tail.trim, logline }, ?_, rfl⟩
  simp only [body?, bind, Option.bind_eq_some_iff, Prod.exists, pure, Option.bind_none,
    Option.ite_none_left_eq_some, Option.some.injEq, Text.afterBlanks?_eq_some_iff_head?,
    after?_singleton_iff, Text.filter_cutAt?_eq_some_iff]
  refine ⟨_, ⟨p.gap₁, p.gap₁_blanks, rfl, Text.forall_head?_append p.severity_ne p.severity_head⟩,
    ?_⟩
  rw [htake, hdrop]
  exact ⟨by simpa using p.severity_ne, _, ⟨p.gap₂, p.gap₂_blanks, rfl, by simp [isBlank]⟩, _, rfl,
    p.thread, _, ⟨rfl, p.thread_open, p.thread_ne⟩, _,
    ⟨p.gap₃, p.gap₃_blanks, rfl, Text.forall_head?_append p.source_ne p.source_head⟩, p.source, _,
    ⟨rfl, p.source_open, p.source_ne⟩, _, ⟨p.gap₄, p.gap₄_blanks, rfl, p.tail_head⟩, rfl⟩

/-- What is read behind a stamp has the parts of the format. -/
theorem parts_of_body? {seq : Nat} {t stamp : Text} {timestamp : Moment}
    {make : Moment → Text → Record} (hstamp : Stamp.Dates .iso none stamp timestamp)
    (h : body? seq t = some make) :
    ∃ p : Parts, p.text = stamp ++ t ∧ p.record seq = make timestamp p.text := by
  simp only [body?, bind, Option.bind_eq_some_iff, Prod.exists, pure, Option.bind_none,
    Option.ite_none_left_eq_some, Option.some.injEq, Text.afterBlanks?_eq_some_iff_head?,
    after?_singleton_iff, Text.filter_cutAt?_eq_some_iff] at h
  obtain ⟨t₁, ⟨gap₁, hgap₁, rfl, -⟩, hne, _, ⟨gap₂, hgap₂, hdrop, -⟩, _, rfl, thread, _,
    ⟨rfl, hthread, hthread_ne⟩, _, ⟨gap₃, hgap₃, rfl, hsource_head⟩, source, _,
    ⟨rfl, hsource, hsource_ne⟩, tail, ⟨gap₄, hgap₄, rfl, htail⟩, rfl⟩ := h
  have hsplit : t₁ = t₁.takeWhile isSeverityChar ++ t₁.dropWhile isSeverityChar :=
    List.takeWhile_append_dropWhile.symm
  refine ⟨{
    stamp, timestamp, gap₁, severity := t₁.takeWhile isSeverityChar, gap₂, thread, gap₃, source
    gap₄, tail, stamp_dates := hstamp, gap₁_blanks := hgap₁, severity_ne := by simpa using hne
    severity_chars := fun c hc => isSeverityChar_iff.mp (List.mem_takeWhile_imp hc)
    gap₂_blanks := hgap₂, thread_ne := hthread_ne, thread_open := hthread, gap₃_blanks := hgap₃
    source_ne := hsource_ne, source_head := ?_, source_open := hsource, gap₄_blanks := hgap₄
    tail_head := htail }, ?_, rfl⟩
  · rw [List.head?_append_of_ne_nil _ hsource_ne] at hsource_head
    exact hsource_head
  · rw [hdrop] at hsplit
    exact congrArg (fun u => stamp ++ (gap₁ ++ u)) hsplit.symm

theorem parse_eq_ok_iff_parts {ctx : Context} {line : Text} {r : Record} :
    parse ctx line = .ok r ↔ ∃ p : Parts, p.text = line ∧ r = p.record ctx.seq := by
  refine (LineParser.parse_builtin_iff_dates (f := .hadoop)).trans ?_
  constructor
  · intro h
    obtain ⟨stamp, t, timestamp, make, hdates, rfl, hbody, rfl⟩ := h
    obtain ⟨p, htext, hrecord⟩ :=
      parts_of_body? ((Stamp.dates_of_hasYear rfl none).mp hdates) hbody
    refine ⟨p, htext, ?_⟩
    rw [hrecord, htext]
    rfl
  · intro h
    obtain ⟨p, rfl, rfl⟩ := h
    obtain ⟨make, hbody, hrecord⟩ := body?_parts p ctx.seq
    exact ⟨p.stamp, p.body, p.timestamp, make,
      (Stamp.dates_of_hasYear rfl _).mp p.stamp_dates, rfl, hbody, hrecord⟩

/-- A line is a record exactly if it has the parts of its format. It has them in one way only, and
the record is made of them. -/
theorem parse_hadoopParts (ctx : Context) (line : Text) :
    ((∃ r, parse ctx line = .ok r) ↔ ∃ p : Parts, p.text = line) ∧
    (∀ p q : Parts, p.text = line → q.text = line → p = q) ∧
    ∀ (p : Parts) (r : Record), p.text = line → parse ctx line = .ok r → r = .hadoop {
      seq := ctx.seq, timestamp := p.timestamp, severity := p.severity, thread := p.thread
      source := p.source, msg := p.tail.trim, logline := line } := by
  refine ⟨?_, ?_, ?_⟩
  · constructor
    · intro h
      obtain ⟨r, hr⟩ := h
      obtain ⟨p, hp, -⟩ := parse_eq_ok_iff_parts.mp hr
      exact ⟨p, hp⟩
    · intro h
      obtain ⟨p, hp⟩ := h
      exact ⟨_, parse_eq_ok_iff_parts.mpr ⟨p, hp, rfl⟩⟩
  · intro p q hp hq
    exact Parts.text_injective (hp.trans hq.symm)
  · intro p r hp hr
    obtain ⟨q, hq, rfl⟩ := parse_eq_ok_iff_parts.mp hr
    obtain rfl := Parts.text_injective (hq.trans hp.symm)
    rw [← hp]
    rfl

/-- The signs between the parts stand inside other parts too, and the message ends with white space
that is no blank. -/
theorem parse_hadoopParts_signs :
    let line := "2016-02-29 23:59:59,007\tWARN_é  [main [1: 2] a] b: [c]: d \u00a0".toList
    ∃ p : Parts, p.text = line ∧ parse ⟨7, 1999⟩ line = .ok (.hadoop {
      seq := 7
      timestamp := ⟨⟨2016, 2, 29, by decide, by decide, by decide⟩,
        ⟨86399, 7000000, by decide, by decide, by decide⟩⟩
      severity := "WARN_é".toList, thread := "main [1: 2".toList, source := "a] b".toList
      msg := "[c]: d".toList, logline := line }) := by
  intro line
  let timestamp : Moment := ⟨⟨2016, 2, 29, by decide, by decide, by decide⟩,
    ⟨86399, 7000000, by decide, by decide, by decide⟩⟩
  have hdates : Stamp.Dates .iso none "2016-02-29 23:59:59,007".toList timestamp :=
    Stamp.dates_iff.mpr ⟨.iso 2016 2 29 ⟨23, 59, 59⟩ 7, rfl,
      ⟨by decide, by decide, by decide, ⟨by decide, by decide, by decide⟩, by decide⟩, by decide,
      rfl⟩
  have hseverity : "WARN_é".toList.all isSeverityChar = true := by decide +kernel
  let p : Parts := {
    stamp := "2016-02-29 23:59:59,007".toList, timestamp, gap₁ := ['\t']
    severity := "WARN_é".toList, gap₂ := "  ".toList, thread := "main [1: 2".toList, gap₃ := [' ']
    source := "a] b".toList, gap₄ := [' '], tail := "[c]: d \u00a0".toList, stamp_dates := hdates
    gap₁_blanks := ⟨by simp, by simp [isBlank]⟩, severity_ne := by simp
    severity_chars := fun c hc => isSeverityChar_iff.mp (List.all_eq_true.mp hseverity c hc)
    gap₂_blanks := ⟨by simp, by simp [isBlank]⟩, thread_ne := by simp, thread_open := by simp
    gap₃_blanks := ⟨by simp, by simp [isBlank]⟩, source_ne := by simp
    source_head := by simp [isBlank], source_open := by simp
    gap₄_blanks := ⟨by simp, by simp [isBlank]⟩, tail_head := by simp [isBlank] }
  have htext : p.text = line := rfl
  obtain ⟨hok, -, hrecord⟩ := parse_hadoopParts ⟨7, 1999⟩ line
  obtain ⟨r, hr⟩ := hok.mpr ⟨p, htext⟩
  have hmsg : Text.trim "[c]: d \u00a0".toList = "[c]: d".toList := by decide
  rw [hrecord p r htext hr] at hr
  refine ⟨p, htext, hr.trans ?_⟩
  rw [← hmsg]

end LogShift.Line.Hadoop
