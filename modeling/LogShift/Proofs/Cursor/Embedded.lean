import LogShift.Proofs.Cursor.Render
import LogShift.Proofs.Stamp.Place

/-! Dates moved by the bytes at which they are found. The dates that the rules of a format find are
those that are located by characters, and the new text is put together from slices that all
exist. Only a date that is too wide cannot be written. -/
namespace LogShift.Cursor

/-- Which of the stamps that are found count. -/
inductive Scope where
  | first
  /-- Only one at the front. -/
  | anchored
  /-- All that are apart. -/
  | every

structure SpanRule where
  surface : Surface
  scope : Scope
  bracketed : Bool

def rules : LogFormat → List SpanRule
  | .apache => [⟨.ctime, .first, true⟩]
  | .hadoop => [⟨.iso, .first, false⟩]
  | .openssh => [⟨.syslog, .first, false⟩]
  | .linux => [⟨.syslog, .anchored, false⟩, ⟨.ctime, .every, false⟩]

/-- The byte before the stamp has to exist unless it starts the text. -/
def accepts (rule : SpanRule) (t : Text) (m : Found) : Option Bool :=
  if rule.bracketed then
    if m.start = 0 then some false
    else do
      let before ← t.byteAt? (m.start - 1)
      return before == 0x5B && t.byteAt? m.stop == some 0x5D
  else some true

def accepted (rule : SpanRule) (t : Text) (ms : List Found) : Option (List Found) := do
  let kept ← ms.mapM fun m => return if ← accepts rule t m then some m else none
  return kept.filterMap id

def locate (t : Text) (rule : SpanRule) : Option (List Found) :=
  match rule.scope with
  | .anchored => do return (← matchAt rule.surface t 0).toList
  | .first => do return (← accepted rule t (← candidates rule.surface t)).head?.toList
  | .every => do accepted rule t (← findAll rule.surface t)

def keepApart (located : List Found) (m : Found) : List Found :=
  if located.any fun p => m.start < p.stop && p.start < m.stop then located else located ++ [m]

def locateAll (format : LogFormat) (t : Text) : Option (List Found) := do
  let found ← (rules format).mapM (locate t)
  return inOrder Found.start (found.flatten.foldl keepApart [])

/-- The value of a date and its value moved by `delta`. -/
def shift (field : TextField) (anchor : Moment) (delta : Span) (m : Found) :
    Except Ambiguity (Moment × Moment) := do
  let original ← match m.style.surface with
    | .syslog => do
      let original ← (m.fields.resolve (some anchor.year) false).mapError .date
      if field = .logline ∧ original ≠ anchor then
        .error (.contextMismatch original anchor)
      pure original
    | .ctime | .iso => (m.fields.resolve none false).mapError .date
  match original.add? delta with
  | none => .error .overflow
  | some shifted =>
    if 0 ≤ shifted.year ∧ shifted.year ≤ 9999 then .ok (original, shifted)
    else .error (.yearOutOfRange shifted.year)

def shiftFound (field : TextField) (t : Text) (anchor : Moment) (delta : Span) (m : Found) :
    Option (Except AmbiguousDate (Edit × MovedDate)) :=
  match shift field anchor delta m with
  | .ok (original, shifted) => do
    let new ← render m t shifted
    return .ok (⟨m.start, m.stop, new⟩, ⟨field, m.start, m.stop, original, m.style⟩)
  | .error reason => do
    let old ← t.slice? m.start m.stop
    return .error ⟨field, m.start, m.style.surface, old, reason⟩

/-- The text with its dates moved, if there is one that can be, and what became of each date. -/
def rewriteText (format : LogFormat) (field : TextField) (t : Text) (anchor : Moment)
    (delta : Span) : Option (Option Text × Outcome) := do
  let results ← (← locateAll format t).mapM (shiftFound field t anchor delta)
  let edits := results.filterMap fun r => r.toOption.map Prod.fst
  let moved := results.filterMap fun r => r.toOption.map Prod.snd
  let ambiguous := results.filterMap fun r => match r with
    | .error a => some a
    | .ok _ => none
  let outcome : Outcome := ⟨moved.length, moved, ambiguous⟩
  if edits.isEmpty then return (none, outcome)
  return (some (← fill t 0 t.width edits), outcome)

variable {t : Text} {n : Nat} {k : Surface} {m : Located} {ms : List Located}

/-- A computation over found stamps ends at the first of them on which it fails. -/
theorem mapM_found_if {α : Type} {f : Found → Option α} {g : Located → α} {p : Located → Bool}
    (h : ∀ m ∈ ms, f m.found = if p m then some (g m) else none) :
    (ms.map Located.found).mapM f = if ms.all p then some (ms.map g) else none := by
  induction ms with
  | nil => rfl
  | cons m ms ih =>
    rw [List.map_cons, List.mapM_cons, h m List.mem_cons_self,
      ih fun a ha => h a (List.mem_cons_of_mem m ha), List.all_cons]
    cases p m with
    | false => rfl
    | true =>
      cases ms.all p with
      | false => rfl
      | true => rfl

theorem mapM_found {α : Type} {f : Found → Option α} {g : Located → α}
    (h : ∀ m ∈ ms, f m.found = some (g m)) :
    (ms.map Located.found).mapM f = some (ms.map g) := by
  have hall : ms.all (fun _ => true) = true := List.all_eq_true.mpr fun _ _ => rfl
  rw [mapM_found_if (p := fun _ => true) h, hall]
  rfl

/-- An ASCII byte is found where its character stands. -/
theorem byteAt?_eq_some_iff {c : Char} (hc : c.toNat < 0x80) :
    t.byteAt? n = some (UInt8.ofNat c.toNat) ↔ t.charAt? n = some c := by
  constructor
  · intro h
    have hn : n < t.width := by
      rw [← Utf8.length_encode]
      exact (List.getElem?_eq_some_iff.mp h).1
    obtain ⟨b, hb, hascii⟩ := Text.exists_byteAt? hn
    obtain rfl := Option.some.inj (h.symm.trans hb)
    rw [Utf8.toNat_byte_of_lt hc, Char.ofNat_toNat] at hascii
    obtain ⟨r, hr⟩ := hascii hc
    rw [Text.charAt?, hr]
    rfl
  · intro h
    obtain ⟨r, hr, hhead⟩ := Option.bind_eq_some_iff.mp h
    obtain ⟨r, rfl⟩ := List.head?_eq_some_iff.mp hhead
    rw [Text.byteAt?_of_dropBytes? hr, Utf8.encode_cons_of_lt hc]
    rfl

theorem accepts_eq (rule : SpanRule) (h : m.StandsIn k t) :
    accepts rule t m.found = some (!rule.bracketed || Embedded.isBracketed t m) := by
  unfold accepts
  cases rule.bracketed with
  | false => rfl
  | true =>
    rw [if_pos rfl, Bool.not_true, Bool.false_or, Embedded.isBracketed]
    by_cases hstart : m.found.start = 0
    · have hzero : m.start = 0 := hstart
      rw [if_pos hstart, hzero]
      rfl
    · obtain ⟨r, hr⟩ := dropBytes?_of_standsIn h
      have hwidth := Text.add_width_of_dropBytes? hr
      have hpositive : 0 < m.start := Nat.pos_of_ne_zero hstart
      obtain ⟨b, hb, -⟩ := Text.exists_byteAt? (show m.start - 1 < t.width by omega)
      have hopen : (b == 0x5B) = (t.charAt? (m.start - 1) == some '[') := by
        rw [Bool.eq_iff_iff, beq_iff_eq, beq_iff_eq, ← byteAt?_eq_some_iff (by decide), hb,
          Option.some.injEq]
        rfl
      have hclose : (t.byteAt? m.stop == some 0x5D) = (t.charAt? m.stop == some ']') := by
        rw [Bool.eq_iff_iff, beq_iff_eq, beq_iff_eq, ← byteAt?_eq_some_iff (by decide)]
        rfl
      rw [if_neg hstart, decide_eq_true hpositive, Bool.true_and, ← hopen, ← hclose]
      show t.byteAt? (m.start - 1) >>= _ = _
      rw [hb]
      rfl

theorem accepted_eq (rule : SpanRule) (h : ∀ m ∈ ms, m.StandsIn k t) :
    accepted rule t (ms.map Located.found) = some ((ms.filter fun m =>
      !rule.bracketed || Embedded.isBracketed t m).map Located.found) := by
  have hkept : ∀ m ∈ ms, (do return if ← accepts rule t m.found then some m.found else none) =
      some (if !rule.bracketed || Embedded.isBracketed t m then some m.found else none) := by
    intro m hm
    rw [accepts_eq rule (h m hm)]
    rfl
  rw [accepted, mapM_found hkept]
  show some ((ms.map _).filterMap id) = _
  rw [List.filterMap_map, ← List.filterMap_eq_map, List.filterMap_filter]
  rfl

theorem candidates_standsIn : ∀ m ∈ Located.candidates k t, m.StandsIn k t := fun _ hm =>
  Located.mem_candidates_iff.mp hm

theorem locate_first (rule : SpanRule) (h : rule.scope = .first) :
    locate t rule = some (((Located.candidates rule.surface t).find? fun m =>
      !rule.bracketed || Embedded.isBracketed t m).toList.map Located.found) := by
  rw [locate, h]
  show (candidates rule.surface t >>= fun ms => accepted rule t ms >>= _) = _
  rw [candidates_eq]
  show (accepted rule t _ >>= _) = _
  rw [accepted_eq rule candidates_standsIn]
  show some (List.head? _).toList = _
  rw [List.head?_map, List.head?_filter, Option.toList_map]

/-- The rules of a format find the dates that are located in it. -/
theorem flatten_locate (format : LogFormat) (t : Text) :
    ∃ found, (rules format).mapM (locate t) = some found ∧
      found.flatten = (Embedded.locate format t).map Located.found := by
  have hany (l : List Located) :
      l.find? (fun m => !false || Embedded.isBracketed t m) = l.head? := by
    cases l with
    | nil => rfl
    | cons => rfl
  cases format with
  | apache =>
    refine ⟨[_], ?_, List.append_nil _⟩
    rw [rules, List.mapM_cons, locate_first _ rfl]
    rfl
  | hadoop =>
    refine ⟨[_], ?_, List.append_nil _⟩
    rw [rules, List.mapM_cons, locate_first _ rfl, hany]
    rfl
  | openssh =>
    refine ⟨[_], ?_, List.append_nil _⟩
    rw [rules, List.mapM_cons, locate_first _ rfl, hany]
    rfl
  | linux =>
    have hfront : locate t ⟨.syslog, .anchored, false⟩ =
        some ((Located.at? .syslog 0 t).toList.map Located.found) := by
      rw [locate, matchAt_eq, ← Option.toList_map]
      rfl
    have hevery : locate t ⟨.ctime, .every, false⟩ =
        some ((Located.candidates .ctime t).map Located.found) := by
      rw [locate, findAll_eq, Located.all_eq_candidates]
      show accepted _ t _ = _
      rw [accepted_eq _ candidates_standsIn]
      show some ((List.filter (fun _ => true) _).map _) = _
      rw [List.filter_true]
    refine ⟨[(Located.at? .syslog 0 t).toList.map Located.found,
      (Located.candidates .ctime t).map Located.found], ?_, ?_⟩
    · rw [rules, List.mapM_cons, List.mapM_cons, hfront, hevery]
      rfl
    · rw [Embedded.locate_linux, List.map_append, List.flatten_cons, List.flatten_singleton]

theorem foldl_keepApart {found located : List Found}
    (h : (located ++ found).Pairwise fun a b => a.stop ≤ b.start) :
    found.foldl keepApart located = located ++ found := by
  induction found generalizing located with
  | nil => rw [List.foldl_nil, List.append_nil]
  | cons m found ih =>
    have hclear : (located.any fun p => m.start < p.stop && p.start < m.stop) = false := by
      refine List.any_eq_false.mpr ?_
      intro p hp
      have hle : p.stop ≤ m.start :=
        (List.pairwise_append.mp h).2.2 p hp m List.mem_cons_self
      simp [Nat.not_lt.mpr hle]
    have hstep : keepApart located m = located ++ [m] := by
      rw [keepApart, hclear]
      rfl
    rw [List.append_cons] at h ⊢
    rw [List.foldl_cons, hstep, ih h]

theorem locateAll_eq (format : LogFormat) (t : Text) :
    locateAll format t = some ((Embedded.locate format t).map Located.found) := by
  obtain ⟨found, hfound, hflatten⟩ := flatten_locate format t
  have hapart : ((Embedded.locate format t).map Located.found).Pairwise
      fun a b => a.stop ≤ b.start := List.pairwise_map.mpr (Embedded.locate_apart format t)
  have hsorted : ((Embedded.locate format t).map Located.found).Pairwise
      fun a b => a.start < b.start := List.pairwise_map.mpr (Embedded.locate_sorted format t)
  rw [locateAll, hfound]
  show some (inOrder Found.start (found.flatten.foldl keepApart [])) = _
  -- Nothing overlaps and nothing is out of order, so that neither step changes the list.
  rw [hflatten, foldl_keepApart hapart, List.nil_append, inOrder_eq (.refl _) hsorted]

/-- The slices between edits that fit and are apart all exist. -/
theorem fill_splice {es : List Edit} (hfit : ∀ e ∈ es, e.Fits 0 t)
    (hp : es.Pairwise fun a b => a.stop ≤ b.start) :
    fill t 0 t.width es = some (Edit.splice 0 t es) := by
  have hfull : t.dropBytes? 0 = some (t ++ []) := by
    rw [Text.dropBytes?_zero, List.append_nil]
  have hfill := fill_eq (Edit.replaces_splice hfit hp) hfull
  rwa [Nat.zero_add] at hfill

section Shift

variable (field : TextField) (anchor : Moment) (delta : Span)

theorem shift_eq (m : Located) :
    shift field anchor delta m.found = Embedded.move field anchor delta m.stamp := by
  obtain ⟨n, s⟩ := m
  unfold shift Embedded.move
  cases s with
  | syslog =>
    simp only [Located.found, Stamp.style, Stamp.surface, true_and]
    rfl
  | ctime =>
    simp only [Located.found, Stamp.style, Stamp.surface, reduceCtorEq, false_and, if_false]
    rfl
  | iso =>
    simp only [Located.found, Stamp.style, Stamp.surface, reduceCtorEq, false_and, if_false]
    rfl

theorem shiftFound_eq (h : m.StandsIn k t) :
    shiftFound field t anchor delta m.found =
      if (Embedded.move field anchor delta m.stamp).toOption.isNone || m.stamp.style.isWritable then
        some (Embedded.moveLocated field anchor delta m)
      else none := by
  have hsurface : m.found.style.surface = m.stamp.surface := Stamp.surface_style m.stamp
  unfold shiftFound Embedded.moveLocated
  rw [shift_eq]
  cases Embedded.move field anchor delta m.stamp with
  | error reason =>
    dsimp only
    rw [slice?_found h, hsurface]
    rfl
  | ok values =>
    obtain ⟨original, shifted⟩ := values
    dsimp only [Except.toOption, Option.isNone]
    rw [render_eq h]
    cases m.stamp.style.isWritable with
    | false => rfl
    | true => rfl

/-- Moving dates by bytes gives the result of moving them by characters, unless one of them is too
wide to be written. -/
theorem rewriteText_eq (format : LogFormat) (t : Text) :
    rewriteText format field t anchor delta =
      if Embedded.isWritable format field t anchor delta then
        some ((Embedded.moveText format field t anchor delta).text,
          (Embedded.moveText format field t anchor delta).outcome)
      else none := by
  have hresults : ((Embedded.locate format t).map Located.found).mapM
      (shiftFound field t anchor delta) =
        if Embedded.isWritable format field t anchor delta then
          some ((Embedded.locate format t).map (Embedded.moveLocated field anchor delta))
        else none := by
    refine mapM_found_if fun m hm => ?_
    obtain ⟨k, hk⟩ := Embedded.standsIn_of_mem_locate hm
    exact shiftFound_eq field anchor delta hk
  have hedits : ((Embedded.locate format t).map (Embedded.moveLocated field anchor delta)).filterMap
      (fun r => r.toOption.map Prod.fst) =
        Embedded.editsOf field anchor delta (Embedded.locate format t) := List.filterMap_map
  have hmoved : ((Embedded.locate format t).map (Embedded.moveLocated field anchor delta)).filterMap
      (fun r => r.toOption.map Prod.snd) =
        Embedded.movedOf field anchor delta (Embedded.locate format t) := List.filterMap_map
  have hfill : fill t 0 t.width (Embedded.editsOf field anchor delta (Embedded.locate format t)) =
      some (Edit.splice 0 t (Embedded.editsOf field anchor delta (Embedded.locate format t))) :=
    fill_splice (fun _ he => Embedded.editsOf_fit he) (Embedded.editsOf_apart format t)
  rw [Embedded.moveText_text, Embedded.moveText_outcome, rewriteText, locateAll_eq]
  simp only [Option.bind_eq_bind, Option.bind_some, hresults]
  cases Embedded.isWritable format field t anchor delta with
  | false => rfl
  | true =>
    simp only [if_true, Option.bind_some, hedits, hmoved, hfill, List.filterMap_map]
    split
    case isTrue => rfl
    case isFalse => rfl

end Shift

end LogShift.Cursor
