import LogShift.Line.Parser
import LogShift.Proofs.Cursor.Parts

/-! The lines of each format read by a cursor. -/
namespace LogShift.Cursor

section Steps

variable {ε α : Type}

/-- Up to the first `c` and past it; an empty part counts only if `emptyToo`. -/
def cutAt (c : Char) (emptyToo : Bool) : Scan ε (Option Text) := do
  match ← takeUntil c with
  | none => return none
  | some front =>
    if emptyToo || !front.isEmpty then
      let _ ← eat c
      return some front
    else return none

/-- One or more characters. -/
def takeSome (p : Char → Bool) : Scan ε (Option Text) := do
  let front ← takeWhile p
  return if front.isEmpty then none else some front

/-- The stamp at the cursor, which stays before it. -/
def stampHere (k : Surface) : Scan ε (Option Found) := do
  let t ← input
  need (matchAt k t (← pos))

def ofExcept (x : Except ε α) : Scan ε α := ⟨fun _ n => some (x.map fun a => (a, n))⟩

end Steps

/-- The address of a `[client addr]` note with blanks behind it. -/
def clientNote : Scan Unit Text := do
  expect (eatText "[client".toList)
  expect expectBlanks
  let addr ← expect (cutAt ']' false)
  expect expectBlanks
  return addr

def apache (ctx : Context) (line : Text) : Scan Fault Record := do
  let fault (reason : Reason) (n : Nat) : Fault := .malformed .apache n reason line
  demand (fault .stampOpen) (eat '[')
  let stampAt ← pos
  let stamp ← demand (fault (.stamp .ctime)) (stampHere .ctime)
  seek stamp.stop
  demand (fault .stampClose) (eat ']')
  let timestamp ← ofExcept <|
    (stamp.fields.resolve none false).mapError fun e => fault (.date e) stampAt
  demand (fault .blankAfterStamp) expectBlanks
  demand (fault .severityOpen) (eat '[')
  let severity ← demand (fault .severityEmpty) (cutAt ']' false)
  demand (fault .blankAfterSeverity) expectBlanks
  let client ← attempt clientNote
  let msg := (← rest).trim
  let function ← need (leadingFunction msg)
  let path ← need (trailingPath msg)
  return .apache {
    seq := ctx.seq, timestamp, severity, client, function, path, msg, logline := line }

def hadoop (ctx : Context) (line : Text) : Scan Fault Record := do
  let fault (reason : Reason) (n : Nat) : Fault := .malformed .hadoop n reason line
  let stamp ← demand (fault (.stamp .iso)) (stampHere .iso)
  let timestamp ← ofExcept <|
    (stamp.fields.resolve none false).mapError fun e => fault (.date e) 0
  seek stamp.stop
  demand (fault .blankAfterStamp) expectBlanks
  let severity ← demand (fault .severity) (takeSome Line.Hadoop.isSeverityChar)
  demand (fault .blankAfterSeverity) expectBlanks
  demand (fault .threadOpen) (eat '[')
  let thread ← demand (fault .threadEmpty) (cutAt ']' false)
  demand (fault .blankAfterThread) expectBlanks
  let source ← demand (fault .source) (cutAt ':' false)
  demand (fault .blankAfterSource) expectBlanks
  let msg := (← rest).trim
  return .hadoop { seq := ctx.seq, timestamp, severity, thread, source, msg, logline := line }

def envelope (format : LogFormat) (year : Int) (line : Text) : Scan Fault Line.Envelope := do
  let fault (reason : Reason) (n : Nat) : Fault := .malformed format n reason line
  let stamp ← demand (fault (.stamp .syslog)) (stampHere .syslog)
  let timestamp ← ofExcept <|
    (stamp.fields.resolve (some year) false).mapError fun e => fault (.date e) 0
  seek stamp.stop
  demand (fault .blankAfterStamp) expectBlanks
  let hostname ← demand (fault .hostname) (takeSome fun c => !isWhiteSpace c)
  demand (fault .blankAfterHostname) expectBlanks
  let sourceAt ← pos
  let source ← demand (fault .source) (cutAt ':' true)
  let _ ← skipBlanks
  let msg ← rest
  return { timestamp, hostname, source, sourceAt, msg }

def linux (ctx : Context) (line : Text) : Scan Fault Record := do
  let env ← envelope .linux ctx.year line
  let pid ← match (indices '[' env.source).getLast? with
    | none => pure none
    | some k => do
      match ← need (bracketedDigits env.source k) with
      | none => pure none
      | some digits => ofExcept <|
        (Line.orFault (.malformed .linux (env.sourceAt + k + 1) .pidRange line)
          (Line.pid? digits)).map some
  let source ← need (componentName env.source)
  return .linux {
    seq := ctx.seq, timestamp := env.timestamp, hostname := env.hostname, source, pid
    msg := env.msg, logline := line }

def openssh (ctx : Context) (line : Text) : Scan Fault Record := do
  let env ← envelope .openssh ctx.year line
  let fault (reason : Reason) : Fault := .malformed .openssh env.sourceAt reason line
  let token ← need (env.source.words.findSomeM? processToken)
  let (source, digits) ← ofExcept (Line.orFault (fault .pidMissing) token)
  let pid ← ofExcept (Line.orFault (fault .pidRange) (Line.pid? digits))
  return .openssh {
    seq := ctx.seq, timestamp := env.timestamp, hostname := env.hostname, source, pid
    msg := env.msg, logline := line, ip := none, user := none }

/-- The record of a line, or why it is none. -/
def parse (format : LogFormat) (ctx : Context) (line : Text) : Option (Except Fault Record) :=
  let scan := match format with
    | .apache => apache ctx line
    | .hadoop => hadoop ctx line
    | .linux => linux ctx line
    | .openssh => openssh ctx line
  (scan.run line 0).map fun x => x.map Prod.fst

section Agreement

variable {ε α : Type} {t r : Text} {n : Nat}

theorem cutAt_agrees (c : Char) (emptyToo : Bool) (h : t.dropBytes? n = some r) :
    Agrees (Behind t) ((cutAt c emptyToo : Scan ε _).run t n)
      (.ok (tried r ((r.cutAt? c).filter fun (front, _) => emptyToo || !front.isEmpty))) := by
  obtain ⟨_, n', hrun, rfl, h'⟩ := (takeUntil_agrees (ε := ε) c h).eq_ok
  unfold cutAt
  rw [bind_of_ok hrun]
  cases hcut : r.cutAt? c with
  | none =>
    rw [hcut] at h'
    exact .ok ⟨rfl, h'⟩
  | some cut =>
    obtain ⟨front, r'⟩ := cut
    rw [hcut] at h'
    replace h' : t.dropBytes? n' = some (c :: r') := h'
    rw [Option.filter_some]
    dsimp only [Option.map_some, tried]
    by_cases hkept : (emptyToo || !front.isEmpty) = true
    · obtain ⟨_, n'', heat, -, h''⟩ := (eat_agrees (ε := ε) c h').eq_ok
      rw [Text.after?_eq_some_iff.mpr (show c :: r' = [c] ++ r' from rfl)] at h''
      rw [if_pos hkept, if_pos hkept, bind_of_ok heat]
      exact .ok ⟨rfl, h''⟩
    · obtain rfl : front = [] := by
        simpa using mt (Bool.or_eq_true_iff.mpr ∘ Or.inr) hkept
      obtain ⟨rfl, -⟩ := Text.cutAt?_eq_some_iff.mp hcut
      rw [if_neg hkept, if_neg hkept]
      exact .ok ⟨rfl, h'⟩

theorem takeSome_eq (p : Char → Bool) (h : t.dropBytes? n = some r) :
    (takeSome p : Scan ε _).run t n = some (.ok
      (if (r.takeWhile p).isEmpty then none else some (r.takeWhile p),
        n + Text.width (r.takeWhile p))) := by
  unfold takeSome
  rw [bind_of_ok (takeWhile_eq p h)]
  rfl

theorem ofExcept_agrees (x : Except ε α) :
    Agrees (fun a n' b => a = b ∧ n' = n) ((ofExcept x).run t n) x := by
  cases x with
  | error e => exact .error e
  | ok a => exact .ok ⟨rfl, rfl⟩

theorem offsetOf_eq (h : t.dropBytes? n = some r) : Line.offsetOf t r = n := by
  have := Text.add_width_of_dropBytes? h
  unfold Line.offsetOf
  omega

theorem client?_eq (r : Text) :
    Line.Apache.client? r = (Text.after? "[client".toList r).bind fun r₁ =>
      r₁.afterBlanks?.bind fun r₂ =>
        ((r₂.cutAt? ']').filter fun (addr, _) => !addr.isEmpty).bind fun (addr, r₃) =>
          r₃.afterBlanks?.bind fun r₄ => some (addr, r₄) := by
  unfold Line.Apache.client?
  refine Option.bind_congr fun r₁ _ => Option.bind_congr fun r₂ _ => ?_
  cases r₂.cutAt? ']' with
  | none => rfl
  | some cut =>
    obtain ⟨addr, r₃⟩ := cut
    cases addr with
    | nil => rfl
    | cons => rfl

theorem clientNote_agrees (h : t.dropBytes? n = some r) :
    Agrees (Behind t) (clientNote.run t n) (orRefuse () (Line.Apache.client? r)) := by
  rw [clientNote, client?_eq]
  refine (demand_passed _ h (eatText_agrees _ h)).bind_option ?_
  rintro ⟨⟩ n₁ r₁ - h₁
  refine (demand_passed _ h₁ (expectBlanks_agrees h₁)).bind_option ?_
  rintro ⟨⟩ n₂ r₂ - h₂
  refine (expect_agrees h₂ (cutAt_agrees ']' false h₂)).bind_option ?_
  rintro _ n₃ ⟨addr, r₃⟩ - ⟨rfl, h₃⟩
  refine (demand_passed _ h₃ (expectBlanks_agrees h₃)).bind_option ?_
  rintro ⟨⟩ n₄ r₄ - h₄
  exact .ok ⟨rfl, h₄⟩

end Agreement

section Parts

variable {format : LogFormat} {line r : Text} {n : Nat} {reason : Reason}

/-- A part that is missing is reported at the byte of the cursor. -/
theorem part_agrees {α : Type} {s : Scan Fault (Option α)} {o : Option (α × Text)}
    (h : line.dropBytes? n = some r)
    (hs : Agrees (Behind line) (s.run line n) (.ok (tried r o))) :
    Agrees (Behind line) ((demand (fun n => .malformed format n reason line) s).run line n)
      (Line.orFault (.malformed format (Line.offsetOf line r) reason line) o) := by
  rw [offsetOf_eq h]
  have hpart := demand_agrees (fun n => Fault.malformed format n reason line) h hs
  cases o <;> exact hpart

theorem mark_part {s : Scan Fault (Option Unit)} {o : Option Text}
    (h : line.dropBytes? n = some r)
    (hs : Agrees (Behind line) (s.run line n) (.ok (tried r (o.map fun r' => ((), r'))))) :
    Agrees (Passed line) ((demand (fun n => .malformed format n reason line) s).run line n)
      (Line.orFault (.malformed format (Line.offsetOf line r) reason line) o) := by
  rw [offsetOf_eq h]
  have hpart := demand_passed (fun n => Fault.malformed format n reason line) h hs
  cases o <;> exact hpart

theorem stamp_part (k : Surface) (h : line.dropBytes? n = some r) :
    Agrees (fun m n' b => m = Located.found ⟨n, b.1⟩ ∧ n' = n ∧ line.dropBytes? m.stop = some b.2)
      ((demand (fun n => .malformed format n reason line) (stampHere k)).run line n)
      (Line.orFault (.malformed format (Line.offsetOf line r) reason line) (Stamp.read? k r)) := by
  have hhere : (stampHere k : Scan Fault _).run line n =
      some (.ok ((Stamp.read? k r).map fun b => Located.found ⟨n, b.1⟩, n)) := by
    unfold stampHere
    rw [bind_of_ok input_eq, bind_of_ok pos_eq, need_eq (matchAt_eq k line n), Located.at?, h]
    cases hread : Stamp.read? k r <;> simp [hread]
  rw [demand, bind_of_ok hhere, offsetOf_eq h]
  cases hread : Stamp.read? k r with
  | none => exact .error _
  | some found =>
    obtain ⟨s, r'⟩ := found
    obtain ⟨-, -, rfl, -⟩ := Stamp.read?_eq_some_iff.mp hread
    exact .ok ⟨rfl, rfl, Text.dropBytes?_add h⟩

theorem date_part {x : Except DateError Moment} (h : line.dropBytes? n = some r) {n' : Nat} :
    Agrees (fun a n'' b => a = b ∧ n'' = n')
      ((ofExcept (x.mapError fun e => Fault.malformed format n (.date e) line)).run line n')
      (x.mapError fun e => Fault.malformed format (Line.offsetOf line r) (.date e) line) := by
  rw [offsetOf_eq h]
  exact ofExcept_agrees _

/-- A run of characters that must not be empty. -/
theorem Agrees.bind_takeSome {α β : Type} {R : α → Nat → β → Prop} {p : Char → Bool}
    {k : Text → Scan Fault α} {k' : Unit → Except Fault β} (h : line.dropBytes? n = some r)
    (hk : ∀ n', line.dropBytes? n' = some (r.dropWhile p) →
      Agrees R ((k (r.takeWhile p)).run line n') (k' ())) :
    Agrees R ((demand (fun n => .malformed format n reason line) (takeSome p) >>= k).run line n)
      (if (r.takeWhile p).isEmpty then
        .error (.malformed format (Line.offsetOf line r) reason line) >>= k' else k' ()) := by
  have hsome := takeSome_eq (ε := Fault) p h
  cases hempty : (r.takeWhile p).isEmpty with
  | true =>
    have hfault : (demand (fun n => Fault.malformed format n reason line) (takeSome p)).run line n =
        some (.error (Fault.malformed format (Line.offsetOf line r) reason line)) := by
      rw [demand, bind_of_ok hsome, hempty, List.isEmpty_iff.mp hempty, offsetOf_eq h]
      rfl
    rw [bind_of_error hfault]
    exact .error _
  | false =>
    have hfound : (demand (fun n => Fault.malformed format n reason line) (takeSome p)).run line n =
        some (.ok (r.takeWhile p, n + Text.width (r.takeWhile p))) := by
      rw [demand, bind_of_ok hsome, hempty]
      rfl
    rw [bind_of_ok hfound]
    exact hk _ (dropBytes?_takeWhile p h)

theorem apache_agrees (ctx : Context) (line : Text) :
    Agrees (fun a _ b => a = b) ((apache ctx line).run line 0) (Line.Apache.parse ctx line) := by
  have h₀ := Text.dropBytes?_zero line
  unfold apache Line.Apache.parse
  refine (mark_part h₀ (eat_agrees '[' h₀)).bind ?_
  rintro ⟨⟩ n₁ r₁ - h₁
  rw [bind_of_ok pos_eq]
  refine (stamp_part .ctime h₁).bind ?_
  rintro _ _ ⟨stamp, r₂⟩ - ⟨rfl, rfl, h₂⟩
  rw [bind_of_ok (seek_eq h₂)]
  refine (mark_part h₂ (eat_agrees ']' h₂)).bind ?_
  rintro ⟨⟩ n₃ r₃ - h₃
  refine (date_part h₁).bind ?_
  rintro timestamp _ _ - ⟨rfl, rfl⟩
  refine (mark_part h₃ (expectBlanks_agrees h₃)).bind ?_
  rintro ⟨⟩ n₄ r₄ - h₄
  refine (mark_part h₄ (eat_agrees '[' h₄)).bind ?_
  rintro ⟨⟩ n₅ r₅ - h₅
  refine (part_agrees h₅ (cutAt_agrees ']' false h₅)).bind ?_
  rintro severity n₆ ⟨_, r₆⟩ - ⟨rfl, h₆⟩
  refine (mark_part h₆ (expectBlanks_agrees h₆)).bind ?_
  rintro ⟨⟩ n₇ r₇ - h₇
  obtain ⟨_, n₈, hclient, rfl, h₈⟩ := (attempt_agrees (ε := Fault) h₇ (clientNote_agrees h₇)).eq_ok
  rw [bind_of_ok hclient, bind_of_ok (rest_eq h₈), bind_of_ok (need_eq (leadingFunction_eq _)),
    bind_of_ok (need_eq (trailingPath_eq _))]
  cases Line.Apache.client? r₇ with
  | none => exact .ok rfl
  | some note => exact .ok rfl

theorem hadoop_agrees (ctx : Context) (line : Text) :
    Agrees (fun a _ b => a = b) ((hadoop ctx line).run line 0) (Line.Hadoop.parse ctx line) := by
  have h₀ := Text.dropBytes?_zero line
  unfold hadoop Line.Hadoop.parse
  refine (stamp_part .iso h₀).bind ?_
  rintro _ _ ⟨stamp, r₁⟩ - ⟨rfl, rfl, h₁⟩
  refine (date_part h₀).bind ?_
  rintro timestamp _ _ - ⟨rfl, rfl⟩
  rw [bind_of_ok (seek_eq h₁)]
  refine (mark_part h₁ (expectBlanks_agrees h₁)).bind ?_
  rintro ⟨⟩ n₂ r₂ - h₂
  refine Agrees.bind_takeSome h₂ ?_
  intro n₃ h₃
  refine (mark_part h₃ (expectBlanks_agrees h₃)).bind ?_
  rintro ⟨⟩ n₄ r₄ - h₄
  refine (mark_part h₄ (eat_agrees '[' h₄)).bind ?_
  rintro ⟨⟩ n₅ r₅ - h₅
  refine (part_agrees h₅ (cutAt_agrees ']' false h₅)).bind ?_
  rintro thread n₆ ⟨_, r₆⟩ - ⟨rfl, h₆⟩
  refine (mark_part h₆ (expectBlanks_agrees h₆)).bind ?_
  rintro ⟨⟩ n₇ r₇ - h₇
  refine (part_agrees h₇ (cutAt_agrees ':' false h₇)).bind ?_
  rintro source n₈ ⟨_, r₈⟩ - ⟨rfl, h₈⟩
  refine (mark_part h₈ (expectBlanks_agrees h₈)).bind ?_
  rintro ⟨⟩ n₉ r₉ - h₉
  rw [bind_of_ok (rest_eq h₉)]
  exact .ok rfl

theorem envelope_agrees (format : LogFormat) (year : Int) (line : Text) :
    Agrees (fun a _ b => a = b) ((envelope format year line).run line 0)
      (Line.Envelope.parse format year line) := by
  have h₀ := Text.dropBytes?_zero line
  unfold envelope Line.Envelope.parse
  refine (stamp_part .syslog h₀).bind ?_
  rintro _ _ ⟨stamp, r₁⟩ - ⟨rfl, rfl, h₁⟩
  refine (date_part h₀).bind ?_
  rintro timestamp _ _ - ⟨rfl, rfl⟩
  rw [bind_of_ok (seek_eq h₁)]
  refine (mark_part h₁ (expectBlanks_agrees h₁)).bind ?_
  rintro ⟨⟩ n₂ r₂ - h₂
  refine Agrees.bind_takeSome h₂ ?_
  intro n₃ h₃
  refine (mark_part h₃ (expectBlanks_agrees h₃)).bind ?_
  rintro ⟨⟩ n₄ r₄ - h₄
  rw [bind_of_ok pos_eq]
  have hcut := cutAt_agrees (ε := Fault) ':' true h₄
  have hany : ((r₄.cutAt? ':').filter fun (source, _) => true || !source.isEmpty) =
      r₄.cutAt? ':' := by
    cases r₄.cutAt? ':' <;> rfl
  rw [hany] at hcut
  refine (part_agrees h₄ hcut).bind ?_
  rintro source n₅ ⟨_, r₅⟩ - ⟨rfl, h₅⟩
  rw [bind_of_ok (skipBlanks_eq h₅), bind_of_ok (rest_eq (dropBytes?_takeWhile isBlank h₅))]
  dsimp only
  rw [offsetOf_eq h₄]
  exact .ok rfl

theorem linux_agrees (ctx : Context) (line : Text) :
    Agrees (fun a _ b => a = b) ((linux ctx line).run line 0) (Line.Linux.parse ctx line) := by
  unfold linux Line.Linux.parse
  refine (envelope_agrees .linux ctx.year line).bind ?_
  rintro env n _ - rfl
  have hsource := need_eq (ε := Fault) (t := line) (n := n) (componentName_eq env.source)
  have hlast : (indices '[' env.source).getLast? =
      (Line.brackets env.source).getLast?.map fun p => Text.width p.1 := by
    rw [indices_eq, List.getLast?_map]
  dsimp only
  rw [hlast]
  cases hbracket : (Line.brackets env.source).getLast? with
  | none =>
    show Agrees _ ((need (componentName env.source) >>= _).run line n) _
    rw [bind_of_ok hsource]
    exact .ok rfl
  | some bracket =>
    obtain ⟨before, inner⟩ := bracket
    have hdigits := bracketedDigits_eq
      (Line.mem_brackets_iff.mp (List.mem_of_getLast? hbracket))
    show Agrees _ ((need (bracketedDigits env.source before.width) >>= _).run line n) _
    rw [bind_of_ok (need_eq hdigits)]
    dsimp only
    cases Line.bracketed? inner with
    | none =>
      show Agrees _ ((need (componentName env.source) >>= _).run line n) _
      rw [bind_of_ok hsource]
      exact .ok rfl
    | some digits =>
      refine (ofExcept_agrees _).bind ?_
      rintro pid _ _ - ⟨rfl, rfl⟩
      rw [bind_of_ok hsource]
      exact .ok rfl

theorem openssh_agrees (ctx : Context) (line : Text) :
    Agrees (fun a _ b => a = b) ((openssh ctx line).run line 0) (Line.OpenSsh.parse ctx line) := by
  unfold openssh Line.OpenSsh.parse
  refine (envelope_agrees .openssh ctx.year line).bind ?_
  rintro env n _ - rfl
  have htoken : (env.source.words.map id).findSomeM? processToken =
      some (env.source.words.findSome? Line.OpenSsh.process?) :=
    findSomeM?_map fun word _ => processToken_eq word
  rw [List.map_id] at htoken
  rw [bind_of_ok (need_eq htoken)]
  refine (ofExcept_agrees _).bind ?_
  rintro ⟨source, digits⟩ _ _ - ⟨rfl, rfl⟩
  refine (ofExcept_agrees _).bind ?_
  rintro pid _ _ - ⟨rfl, rfl⟩
  exact .ok rfl

end Parts

/-- Reading a line by bytes always gives a result, the one of reading its characters. -/
theorem parse_eq (format : LogFormat) (ctx : Context) (line : Text) :
    parse format ctx line = some ((LineParser.builtin format).parse ctx line) := by
  have hresult {s : Scan Fault Record} {y : Except Fault Record}
      (h : Agrees (fun a _ b => a = b) (s.run line 0) y) :
      (s.run line 0).map (fun x => x.map Prod.fst) = some y := by
    cases y with
    | error e =>
      rw [h.eq_error]
      rfl
    | ok record =>
      obtain ⟨_, n, hrun, rfl⟩ := h.eq_ok
      rw [hrun]
      rfl
  cases format with
  | apache => exact hresult (apache_agrees ctx line)
  | hadoop => exact hresult (hadoop_agrees ctx line)
  | linux => exact hresult (linux_agrees ctx line)
  | openssh => exact hresult (openssh_agrees ctx line)

/-- Whatever is done with a text by its bytes, every slice and every byte that is asked for exists.
A cursor on a boundary stays on boundaries. At each byte, also inside a character, the cursor finds
the stamp that is located there; its parts are apart and on boundaries inside it. So are the
candidates of a surface found, lines read and edits made, always with the result of the computation
on characters. Stamps are written anew and dates moved with that result too, unless a day has more
places than can be padded: exactly then there is none. A text of up to `Style.maxDayWidth + 12`
bytes has no such day. -/
theorem bytewise_total_unless_wide (t : Text) :
    (∀ ops n, t.IsBoundary n →
      ∃ n', (steps ops).run t n = some (.ok ((), n')) ∧ t.IsBoundary n' ∧ n' ≤ t.width) ∧
    (∀ k n, matchAt k t n = some ((Located.at? k n t).map Located.found)) ∧
    (∀ k n m, Located.at? k n t = some m →
      m.found.Framed t ∧ t.slice? m.found.start m.found.stop = some m.stamp.text ∧
      ∀ v, render m.found t v =
        if m.stamp.style.isWritable then some (m.stamp.render v) else none) ∧
    (∀ k, candidates k t = some ((Located.candidates k t).map Located.found)) ∧
    (∀ format ctx, parse format ctx t = some ((LineParser.builtin format).parse ctx t)) ∧
    (∀ format field anchor delta, rewriteText format field t anchor delta =
      if Embedded.isWritable format field t anchor delta then
        some ((Embedded.moveText format field t anchor delta).text,
          (Embedded.moveText format field t anchor delta).outcome)
      else none) ∧
    (∀ es : List Edit, (∀ e ∈ es, e.Fits 0 t) → (es.Pairwise fun a b => a.stop ≤ b.start) →
      fill t 0 t.width es = some (Edit.splice 0 t es)) ∧
    (t.width ≤ Style.maxDayWidth + 12 →
      (∀ k n m, Located.at? k n t = some m → m.stamp.style.isWritable = true) ∧
      ∀ format field anchor delta, Embedded.isWritable format field t anchor delta = true) := by
  refine ⟨?_, fun k n => matchAt_eq k t n, ?_, fun k => candidates_eq k t,
    fun format ctx => parse_eq format ctx t,
    fun format field anchor delta => rewriteText_eq field anchor delta format t,
    fun es hfit hapart => fill_splice hfit hapart, ?_⟩
  · intro ops n h
    obtain ⟨n', hrun, hn'⟩ := steps_boundary ops h
    exact ⟨n', hrun, hn', hn'.le_width⟩
  · intro k n m hm
    have hstands := (Located.at?_eq_some_iff.mp hm).2
    exact ⟨framed_found hstands, slice?_found hstands, render_eq hstands⟩
  · intro ht
    refine ⟨?_, Embedded.isWritable_of_width_le ht⟩
    intro k n m hm
    exact Embedded.isWritable_style (Located.at?_eq_some_iff.mp hm).2 ht

/-- A stamp with any number of spaces before its day. -/
theorem at?_spaced {gap : Nat} (h : 1 ≤ gap) :
    Located.at? .syslog 0 ("Jan".toList ++ (List.replicate gap ' ' ++ "14 00:00:00".toList)) =
      some ⟨0, .syslog 1 ⟨gap, 2, 14⟩ [' '] ⟨0, 0, 0⟩⟩ := by
  let s : Stamp := .syslog 1 ⟨gap, 2, 14⟩ [' '] ⟨0, 0, 0⟩
  have hday : (⟨gap, 2, 14⟩ : DayField).Shaped := ⟨h, .inr rfl, (by decide : 14 < 10 ^ 2)⟩
  have hclock : (⟨0, 0, 0⟩ : ClockField).Shaped := by
    unfold ClockField.Shaped
    decide
  have hblank : ∀ c ∈ [' '], isBlank c = true := by
    intro c hc
    rw [List.mem_singleton.mp hc]
    rfl
  have hshaped : s.Shaped := ⟨by decide, hday, ⟨List.cons_ne_nil _ _, hblank⟩, hclock⟩
  have hread : Stamp.read? .syslog (s.text ++ []) = some (s, []) :=
    Stamp.read?_eq_some_iff.mpr ⟨rfl, hshaped, rfl, fun hiso => by cases hiso⟩
  have hmonth : monthName 1 = "Jan".toList := by decide +kernel
  have hdigits : Decimal.padded 2 14 = "14".toList := by decide +kernel
  have htime : (⟨0, 0, 0⟩ : ClockField).text = "00:00:00".toList := by decide +kernel
  have htext : "Jan".toList ++ (List.replicate gap ' ' ++ "14 00:00:00".toList) =
      s.text ++ [] := by
    simp [s, Stamp.text, DayField.text, hmonth, hdigits, htime]
  exact Located.at?_eq_some_iff.mpr ⟨rfl, [], [], htext, rfl, hread⟩

/-- One space more than can be padded, and neither is the stamp written anew nor the text moved. -/
theorem rewriteText_wide :
    let t : Text := "Jan".toList ++ (List.replicate 65534 ' ' ++ "14 00:00:00".toList)
    let m : Located := ⟨0, .syslog 1 ⟨65534, 2, 14⟩ [' '] ⟨0, 0, 0⟩⟩
    let anchor : Moment := ⟨⟨2023, 1, 14, by decide, by decide, by decide⟩,
      ⟨0, 0, by decide, by decide, by decide⟩⟩
    Located.at? .syslog 0 t = some m ∧ (∀ v, render m.found t v = none) ∧
      rewriteText .openssh .logline t anchor ⟨86400000000000⟩ = none := by
  intro t m anchor
  have hat : Located.at? .syslog 0 t = some m := at?_spaced (by decide)
  have hwide : m.stamp.style.isWritable = false := by decide
  refine ⟨hat, ?_, ?_⟩
  · intro v
    rw [render_eq (Located.at?_eq_some_iff.mp hat).2, hwide]
    rfl
  · have hdate : m ∈ Embedded.locate .openssh t :=
      Embedded.mem_locate_iff.mpr ⟨hat, fun m' _ => Nat.zero_le m'.start⟩
    have hmoves : (Embedded.move .logline anchor ⟨86400000000000⟩ m.stamp).toOption.isNone =
        false := by
      decide +kernel
    have hnot : Embedded.isWritable .openssh .logline t anchor ⟨86400000000000⟩ = false :=
      List.all_eq_false.mpr ⟨m, hdate, by rw [hmoves, hwide]; decide⟩
    rw [rewriteText_eq, hnot]
    rfl

end LogShift.Cursor
