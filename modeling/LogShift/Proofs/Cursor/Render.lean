import LogShift.Proofs.Cursor.Search
import LogShift.Proofs.Embedded.Frame

/-! A new moment written over a found stamp. The parts of a stamp are apart from each other and
inside it, so that every piece of text between them exists. The one thing that can fail is the day:
it cannot be padded to any width. -/
namespace LogShift

def Edit.range (e : Edit) : ByteRange :=
  ⟨e.start, e.stop⟩

/-- The parts that a stamp has, in no order. -/
def StampParts.ranges (p : StampParts) : List ByteRange :=
  p.weekday.toList ++ p.year.toList ++ [p.month, p.day, p.time] ++ p.subsecond.toList

namespace Cursor

/-- Sorted by the byte of their start. -/
def inOrder {α : Type} (start : α → Nat) (l : List α) : List α :=
  l.mergeSort fun a b => start a ≤ start b

/-- The bytes of `t` from `start` to `stop` with new text for those of the edits. -/
def fill (t : Text) (start stop : Nat) : List Edit → Option Text
  | [] => t.slice? start stop
  | e :: es => do
    let kept ← t.slice? start e.start
    return kept ++ (e.text ++ (← fill t e.stop stop es))

/-- New text for a range. -/
def overwrite (p : ByteRange) (new : Text) : Edit :=
  ⟨p.start, p.stop, new⟩

/-- A text with spaces in front of it up to a width, which can be asked for only up to a bound. -/
def padLeft (width : Nat) (t : Text) : Option Text :=
  if width ≤ Style.maxDayWidth then some (t.leftpad width ' ') else none

def renderDay (pad : DayPad) (width day : Nat) : Option Text :=
  match pad with
  | .zero => some (Decimal.padded 2 day)
  | .none => some (Decimal.natural day)
  | .space => padLeft width (Decimal.natural day)

/-- The new text of each part of a stamp. -/
def pieces (m : Found) (v : Moment) : Option (List Edit) := do
  let weekday ← m.parts.weekday.toList.mapM fun p =>
    return overwrite p (← weekdayNames[Weekday.all.idxOf v.date.weekday]?)
  let year := m.parts.year.toList.map fun p => overwrite p (Decimal.paddedInteger 4 v.year)
  let month ← match m.style.surface with
    | .iso => some (Decimal.padded 2 v.month)
    | .ctime | .syslog => monthNames[v.month - 1]?
  let day ← renderDay m.style.pad m.style.dayWidth v.date.day
  let subsecond ← m.parts.subsecond.toList.mapM fun p =>
    return overwrite p
      (← (Decimal.padded 9 v.clock.subsecond).slice? 0 (min m.style.subsecondDigits 9))
  return weekday ++ year ++ [overwrite m.parts.month month, overwrite m.parts.day day,
    overwrite m.parts.time (ClockField.ofClock v.clock).text] ++ subsecond

def render (m : Found) (t : Text) (v : Moment) : Option Text := do
  fill t m.start m.stop (inOrder Edit.start (← pieces m v))

end Cursor

namespace Edit.Replaces

variable {n : Nat} {t u : Text} {es : List Edit}

theorem fits (h : Replaces n t es u) : ∀ e ∈ es, e.Fits n t := by
  induction h with
  | done => simp
  | @next offset kept old t u e es hstart hstop h ih =>
    refine List.forall_mem_cons.mpr ⟨⟨kept, old, t, rfl, hstart, hstop⟩, ?_⟩
    intro e' he'
    obtain ⟨kept', old', rest, rfl, hstart', hstop'⟩ := ih e' he'
    refine ⟨kept ++ (old ++ kept'), old', rest, by simp, ?_, hstop'⟩
    rw [Text.width_append, Text.width_append]
    omega

theorem apart (h : Replaces n t es u) : es.Pairwise fun a b => a.stop ≤ b.start := by
  induction h with
  | done => exact List.Pairwise.nil
  | next hstart hstop h ih =>
    refine List.pairwise_cons.mpr ⟨?_, ih⟩
    intro e' he'
    obtain ⟨kept', -, -, -, hstart', -⟩ := h.fits e' he'
    omega

end Edit.Replaces

namespace Cursor

variable {t r u : Text} {n : Nat} {es : List Edit}

/-- Where the edits are in order and inside, every slice between them exists. -/
theorem fill_eq (h : Edit.Replaces n t es u) {full : Text}
    (hfull : full.dropBytes? n = some (t ++ r)) :
    fill full n (n + t.width) es = some u := by
  induction h with
  | done n t => exact Text.slice?_of_dropBytes? hfull
  | @next n kept old t u e es hstart hstop h ih =>
    rw [List.append_assoc, List.append_assoc] at hfull
    have hkept := Text.slice?_of_dropBytes? hfull
    have hbehind := Text.dropBytes?_add (Text.dropBytes?_add hfull)
    rw [hstart] at hkept hbehind
    rw [hstop] at hbehind
    have hend : n + (kept ++ (old ++ t)).width = e.stop + t.width := by
      rw [Text.width_append, Text.width_append]
      omega
    rw [fill, hkept, hend, ih hbehind]
    rfl

theorem inOrder_eq {α : Type} {start : α → Nat} {l l' : List α} (hperm : l.Perm l')
    (hsorted : l'.Pairwise fun a b => start a < start b) : inOrder start l = l' := by
  have hsame := (List.mergeSort_perm l fun a b => decide (start a ≤ start b)).trans hperm
  have hnodup : (l'.map start).Nodup := List.pairwise_map.mpr (hsorted.imp Nat.ne_of_lt)
  refine hsame.eq_of_pairwise ?_ (List.pairwise_mergeSort ?_ ?_ l)
    (hsorted.imp fun hlt => decide_eq_true (Nat.le_of_lt hlt))
  · intro a b ha hb hab hba
    exact List.inj_on_of_nodup_map hnodup (hsame.subset ha) hb
      (Nat.le_antisymm (of_decide_eq_true hab) (of_decide_eq_true hba))
  · intro a b c hab hbc
    exact decide_eq_true (Nat.le_trans (of_decide_eq_true hab) (of_decide_eq_true hbc))
  · intro a b
    simpa using Nat.le_total (start a) (start b)

theorem padded_add {w : Nat} (hw : 0 < w) (k v : Nat) :
    ∃ ds, Decimal.padded (w + k) v = Decimal.padded w (v / 10 ^ k) ++ ds := by
  induction k generalizing v with
  | zero => exact ⟨[], by simp⟩
  | succ k ih =>
    obtain ⟨ds, hds⟩ := ih (v / 10)
    refine ⟨ds ++ [(v % 10).digitChar], ?_⟩
    rw [← Nat.add_assoc, Decimal.padded_succ (by omega), hds, Nat.div_div_eq_div_mul,
      ← Nat.pow_succ', List.append_assoc]

theorem take_padded {w k x : Nat} (hw : 0 < w) (hx : x < 10 ^ (w + k)) :
    (Decimal.padded (w + k) x).take w = Decimal.padded w (x / 10 ^ k) := by
  obtain ⟨ds, hds⟩ := padded_add hw k x
  have hlt : x / 10 ^ k < 10 ^ w := by
    rw [Nat.div_lt_iff_lt_mul (Nat.pow_pos (by decide)), ← Nat.pow_add]
    exact hx
  rw [hds]
  exact List.take_left' (Decimal.length_padded hw hlt)

theorem slice?_padded {w x k : Nat} (hw : 0 < w) (hx : x < 10 ^ w) (hk : k ≤ w) :
    (Decimal.padded w x).slice? 0 k = some ((Decimal.padded w x).take k) := by
  have hslice := Text.slice?_zero ((Decimal.padded w x).take k) ((Decimal.padded w x).drop k)
  have hdigits : ∀ c ∈ (Decimal.padded w x).take k, c.isDigit = true := fun c hc =>
    Decimal.isDigit_of_mem_padded (List.mem_of_mem_take hc)
  rw [width_digits hdigits, List.length_take, Decimal.length_padded hw hx, Nat.min_eq_left hk,
    List.take_append_drop] at hslice
  exact hslice

theorem weekdayNames_eq (w : Weekday) :
    weekdayNames[Weekday.all.idxOf w]? = some w.name.toList := by
  cases w <;> decide

/-- The text of a day that fills a place of any width. -/
def dayText (pad : DayPad) (width day : Nat) : Text :=
  match pad with
  | .zero => Decimal.padded 2 day
  | .none => Decimal.natural day
  | .space => (Decimal.natural day).leftpad width ' '

theorem renderDay_eq (s : Style) (day : Nat) :
    renderDay s.pad s.dayWidth day =
      if s.isWritable then some (dayText s.pad s.dayWidth day) else none := by
  unfold renderDay dayText Style.isWritable
  cases s.pad with
  | zero => rfl
  | none => rfl
  | space => simp [padLeft]

/-- The new day stands where the old one stood, behind the same spaces if these are no part of
it. -/
theorem exists_day {d : DayField} (h : d.Shaped) {v : Nat} (hv : v < 100) :
    ∃ kept old, d.text = kept ++ old ∧ (d.place v).text = kept ++ dayText d.pad d.width v ∧
      (∀ n, n + kept.width = (d.range n).start) ∧
      ∀ n, (d.range n).start + old.width = (d.range n).stop := by
  have htext := DayField.width_text h
  obtain ⟨-, hdigits, hvalue⟩ := h
  have hpositive : 0 < d.digits := by omega
  have hwidth := Text.width_padded hpositive hvalue
  have hneeded := Decimal.length_natural hv
  have hnatural : Decimal.padded (if v < 10 then 1 else 2) v = Decimal.natural v := by
    rw [← hneeded, Decimal.padded, List.leftpad, Nat.sub_self, List.replicate_zero, List.nil_append]
  unfold DayField.place DayField.range DayField.width dayText
  cases d.pad with
  | zero =>
    refine ⟨List.replicate d.gap ' ', Decimal.padded d.digits d.value, rfl, rfl, ?_, ?_⟩
    · intro n
      rw [Text.width_replicate_space]
    · intro n
      rw [hwidth]
  | none =>
    refine ⟨List.replicate d.gap ' ', Decimal.padded d.digits d.value, rfl, ?_, ?_, ?_⟩
    · dsimp only [DayField.text]
      rw [hnatural]
    · intro n
      rw [Text.width_replicate_space]
    · intro n
      rw [hwidth]
  | space =>
    refine ⟨[], d.text, rfl, ?_, fun n => rfl, ?_⟩
    · dsimp only [DayField.text]
      rw [hnatural, List.nil_append, List.leftpad, hneeded]
    · intro n
      rw [htext, Nat.add_assoc]

theorem range_start_lt {d : DayField} (h : d.Shaped) (n : Nat) :
    (d.range n).start < (d.range n).stop := by
  obtain ⟨hgap, hdigits, -⟩ := h
  unfold DayField.range
  cases d.pad with
  | zero =>
    dsimp only
    omega
  | none =>
    dsimp only
    omega
  | space =>
    dsimp only
    omega

end Cursor

/-- The new text of the parts of a stamp that starts at a byte, in the order of the text. -/
def Stamp.pieces (start : Nat) (s : Stamp) (v : Moment) : List Edit :=
  let clockText := (ClockField.ofClock v.clock).text
  match s with
  | .ctime _ _ day _ _ =>
    let clock := start + 7 + day.gap + day.digits + 1
    [⟨start, start + 3, v.date.weekday.name.toList⟩, ⟨start + 4, start + 7, monthName v.month⟩,
      Cursor.overwrite (day.range (start + 7)) (Cursor.dayText day.pad day.width v.date.day),
      ⟨clock, clock + 8, clockText⟩, ⟨clock + 9, clock + 13, Decimal.paddedInteger 4 v.year⟩]
  | .syslog _ day blanks _ =>
    let clock := start + 3 + day.gap + day.digits + blanks.width
    [⟨start, start + 3, monthName v.month⟩,
      Cursor.overwrite (day.range (start + 3)) (Cursor.dayText day.pad day.width v.date.day),
      ⟨clock, clock + 8, clockText⟩]
  | .iso .. =>
    [⟨start, start + 4, Decimal.paddedInteger 4 v.year⟩,
      ⟨start + 5, start + 7, Decimal.padded 2 v.month⟩,
      ⟨start + 8, start + 10, Decimal.padded 2 v.date.day⟩, ⟨start + 11, start + 19, clockText⟩,
      ⟨start + 20, start + 23, Decimal.padded 3 (v.clock.subsecond / 1000000)⟩]

namespace Cursor

/-- The new text of each part of a stamp whose day is to read `day`. -/
def piecesOf (m : Found) (v : Moment) (day : Text) : List Edit :=
  m.parts.weekday.toList.map (overwrite · v.date.weekday.name.toList) ++
  m.parts.year.toList.map (overwrite · (Decimal.paddedInteger 4 v.year)) ++
  [overwrite m.parts.month
    (if m.style.surface = .iso then Decimal.padded 2 v.month else monthName v.month),
  overwrite m.parts.day day,
  overwrite m.parts.time (ClockField.ofClock v.clock).text] ++
  m.parts.subsecond.toList.map (overwrite ·
    ((Decimal.padded 9 v.clock.subsecond).take (min m.style.subsecondDigits 9)))

/-- Every name and every slice that a piece is taken from exists. -/
theorem pieces_eq (m : Found) (v : Moment) :
    pieces m v = (renderDay m.style.pad m.style.dayWidth v.date.day).map (piecesOf m v) := by
  have hmonth : monthNames[v.month - 1]? = some (monthName v.month) :=
    monthNames_eq v.date.month_mem
  have hslice : (Decimal.padded 9 v.clock.subsecond).slice? 0 (min m.style.subsecondDigits 9) =
      some ((Decimal.padded 9 v.clock.subsecond).take (min m.style.subsecondDigits 9)) :=
    slice?_padded (by decide) (Nat.mod_lt _ (by decide)) (Nat.min_le_right _ _)
  unfold pieces piecesOf
  simp only [weekdayNames_eq, hmonth, hslice, Option.map_eq_bind, Option.bind_eq_bind,
    Option.bind_some, List.mapM_pure]
  cases m.style.surface with
  | iso => rfl
  | ctime => rfl
  | syslog => rfl

theorem range_piecesOf (m : Found) (v : Moment) (day : Text) :
    (piecesOf m v day).map Edit.range = m.parts.ranges := by
  simp [piecesOf, StampParts.ranges, overwrite, Edit.range, Function.comp_def]

/-- The pieces of a located stamp before and after they are sorted. -/
theorem perm_piecesOf (m : Located) (v : Moment) :
    (piecesOf m.found v (dayText m.stamp.style.pad m.stamp.style.dayWidth v.date.day)).Perm
      (m.stamp.pieces m.start v) := by
  obtain ⟨n, s⟩ := m
  cases s with
  | ctime => exact .cons _ (List.perm_append_singleton _ _).symm
  | syslog => exact .refl _
  | iso =>
    have htake := take_padded (show 0 < 3 by decide)
      (show v.clock.subsecond < 10 ^ (3 + 6) from Nat.mod_lt _ (by decide))
    show List.Perm [_, _, _, _, overwrite _ ((Decimal.padded (3 + 6) v.clock.subsecond).take 3)] _
    rw [htake]
    exact .refl _

theorem width_paddedInteger {y : Int} (h0 : 0 ≤ y) (h9 : y ≤ 9999) :
    Text.width (Decimal.paddedInteger 4 y) = 4 := by
  obtain ⟨y, rfl⟩ := Int.eq_ofNat_of_zero_le h0
  rw [Decimal.paddedInteger_natCast]
  exact Text.width_padded (by decide) (by omega)

theorem replaces_pieces {s : Stamp} (h : s.Shaped) (n : Nat) (v : Moment) :
    Edit.Replaces n s.text (s.pieces n v) (s.render v) := by
  have hnil : Text.width [] = 0 := rfl
  have hday : v.date.day < 100 := Nat.lt_of_le_of_lt v.date.day_le (by decide)
  -- Old and new text are cut at every part and every mark, so that each piece meets its part.
  cases s with
  | ctime weekday month day clock year =>
    obtain ⟨hm, hd, hc, h0, h9⟩ := h
    obtain ⟨kept, old, hold, hnew, hstart, hstop⟩ := exists_day hd hday
    have htext : (Stamp.ctime weekday month day clock year).text =
        [] ++ (weekday.name.toList ++ ([' '] ++ (monthName month ++ (kept ++ (old ++ ([' '] ++
          (clock.text ++ ([' '] ++ (Decimal.paddedInteger 4 year ++ []))))))))) := by
      simp [Stamp.text, hold]
    have hrender : (Stamp.ctime weekday month day clock year).render v =
        [] ++ (v.date.weekday.name.toList ++ ([' '] ++ (monthName v.month ++ (kept ++
          (dayText day.pad day.width v.date.day ++ ([' '] ++
          ((ClockField.ofClock v.clock).text ++
            ([' '] ++ (Decimal.paddedInteger 4 v.year ++ []))))))))) := by
      simp [Stamp.render, Stamp.place, Stamp.text, hnew]
    have hspace : Text.width [' '] = 1 := rfl
    have hweekday := Text.width_weekdayName weekday
    have hmonth := Text.width_monthName hm
    have hroom := DayField.width_text hd
    have hdayStart := hstart (n + 7)
    have hdayStop := hstop (n + 7)
    have hclock := ClockField.width_text hc
    have hyear := width_paddedInteger h0 h9
    rw [hold, Text.width_append] at hroom
    rw [htext, hrender]
    refine .next ?_ ?_ (.next ?_ ?_ (.next ?_ ?_ (.next ?_ ?_ (.next ?_ ?_ (.done _ _)))))
    all_goals
      dsimp only [overwrite]
      omega
  | syslog month day blanks clock =>
    obtain ⟨hm, hd, -, hc⟩ := h
    obtain ⟨kept, old, hold, hnew, hstart, hstop⟩ := exists_day hd hday
    have htext : (Stamp.syslog month day blanks clock).text =
        [] ++ (monthName month ++ (kept ++ (old ++ (blanks ++ (clock.text ++ []))))) := by
      simp [Stamp.text, hold]
    have hrender : (Stamp.syslog month day blanks clock).render v =
        [] ++ (monthName v.month ++ (kept ++ (dayText day.pad day.width v.date.day ++
          (blanks ++ ((ClockField.ofClock v.clock).text ++ []))))) := by
      simp [Stamp.render, Stamp.place, Stamp.text, hnew]
    have hmonth := Text.width_monthName hm
    have hroom := DayField.width_text hd
    have hdayStart := hstart (n + 3)
    have hdayStop := hstop (n + 3)
    have hclock := ClockField.width_text hc
    rw [hold, Text.width_append] at hroom
    rw [htext, hrender]
    refine .next ?_ ?_ (.next ?_ ?_ (.next ?_ ?_ (.done _ _)))
    all_goals
      dsimp only [overwrite]
      omega
  | iso year month day clock millis =>
    obtain ⟨⟨h0, h9⟩, hm, hd, hc, hf⟩ := h
    have htext : (Stamp.iso year month day clock millis).text =
        [] ++ (Decimal.paddedInteger 4 year ++ (['-'] ++ (Decimal.padded 2 month ++ (['-'] ++
          (Decimal.padded 2 day ++ ([' '] ++ (clock.text ++
            ([','] ++ (Decimal.padded 3 millis ++ []))))))))) := by
      simp [Stamp.text]
    have hrender : (Stamp.iso year month day clock millis).render v =
        [] ++ (Decimal.paddedInteger 4 v.year ++ (['-'] ++ (Decimal.padded 2 v.month ++ (['-'] ++
          (Decimal.padded 2 v.date.day ++ ([' '] ++ ((ClockField.ofClock v.clock).text ++
            ([','] ++ (Decimal.padded 3 (v.clock.subsecond / 1000000) ++ []))))))))) := by
      simp [Stamp.render, Stamp.place, Stamp.text]
    have hdash : Text.width ['-'] = 1 := rfl
    have hspace : Text.width [' '] = 1 := rfl
    have hcomma : Text.width [','] = 1 := rfl
    have hyear := width_paddedInteger h0 h9
    have hmonth := Text.width_padded (show 0 < 2 by decide) hm
    have hday := Text.width_padded (show 0 < 2 by decide) hd
    have hclock := ClockField.width_text hc
    have hmillis := Text.width_padded (show 0 < 3 by decide) hf
    rw [htext, hrender]
    refine .next ?_ ?_ (.next ?_ ?_ (.next ?_ ?_ (.next ?_ ?_ (.next ?_ ?_ (.done _ _)))))
    all_goals
      dsimp only
      omega

theorem start_lt_stop_of_mem_pieces {s : Stamp} (h : s.Shaped) {v : Moment} {e : Edit}
    (he : e ∈ s.pieces n v) : e.start < e.stop := by
  cases s with
  | ctime weekday month day clock year =>
    have hday := range_start_lt h.2.1 (n + 7)
    simp only [Stamp.pieces, List.mem_cons, List.not_mem_nil, or_false] at he
    obtain rfl | rfl | rfl | rfl | rfl := he
    all_goals
      dsimp only [overwrite]
      omega
  | syslog month day blanks clock =>
    have hday := range_start_lt h.2.1 (n + 3)
    simp only [Stamp.pieces, List.mem_cons, List.not_mem_nil, or_false] at he
    obtain rfl | rfl | rfl := he
    all_goals
      dsimp only [overwrite]
      omega
  | iso =>
    simp only [Stamp.pieces, List.mem_cons, List.not_mem_nil, or_false] at he
    obtain rfl | rfl | rfl | rfl | rfl := he
    all_goals
      dsimp only
      omega

theorem pieces_sorted {s : Stamp} (h : s.Shaped) (n : Nat) (v : Moment) :
    (s.pieces n v).Pairwise fun a b => a.start < b.start := by
  refine (replaces_pieces h n v).apart.imp_of_mem ?_
  intro a b ha _ hab
  exact Nat.lt_of_lt_of_le (start_lt_stop_of_mem_pieces h ha) hab

end Cursor

/-- The stamp and all its parts stand on boundaries of the text; the parts are not empty, inside the
stamp and, in their order, apart. -/
structure Found.Framed (t : Text) (m : Found) : Prop where
  ends : m.start < m.stop ∧ t.IsBoundary m.start ∧ t.IsBoundary m.stop
  parts : ∀ p ∈ m.parts.ranges, m.start ≤ p.start ∧ p.start < p.stop ∧ p.stop ≤ m.stop ∧
    t.IsBoundary p.start ∧ t.IsBoundary p.stop
  apart : (Cursor.inOrder ByteRange.start m.parts.ranges).Pairwise fun a b => a.stop ≤ b.start

namespace Cursor

variable {k : Surface} {m : Located}

theorem dropBytes?_of_standsIn (h : m.StandsIn k t) :
    ∃ r, t.dropBytes? m.start = some (m.stamp.text ++ r) := by
  obtain ⟨lead, rest, rfl, hlead, -⟩ := h
  exact ⟨rest, hlead ▸ Text.dropBytes?_width_append lead _⟩

theorem slice?_found (h : m.StandsIn k t) :
    t.slice? m.found.start m.found.stop = some m.stamp.text := by
  obtain ⟨r, hr⟩ := dropBytes?_of_standsIn h
  exact Text.slice?_of_dropBytes? hr

/-- A stamp is written anew unless its day is too wide. -/
theorem render_eq (h : m.StandsIn k t) (v : Moment) :
    render m.found t v =
      if m.stamp.style.isWritable then some (m.stamp.render v) else none := by
  have hday := renderDay_eq m.stamp.style v.date.day
  obtain ⟨r, hr⟩ := dropBytes?_of_standsIn h
  rw [render, pieces_eq]
  show ((renderDay m.stamp.style.pad m.stamp.style.dayWidth v.date.day).map _ >>= _) = _
  rw [hday]
  cases m.stamp.style.isWritable with
  | false => rfl
  | true =>
    show fill t m.start (m.start + m.stamp.text.width) (inOrder Edit.start _) = _
    rw [inOrder_eq (perm_piecesOf m v) (pieces_sorted h.shaped m.start v)]
    exact fill_eq (replaces_pieces h.shaped m.start v) hr

theorem framed_found (h : m.StandsIn k t) : m.found.Framed t := by
  -- The places of the pieces do not depend on the moment that they show.
  have v : Moment :=
    ⟨⟨1, 1, 1, by decide, by decide, by decide⟩, ⟨0, 0, by decide, by decide, by decide⟩⟩
  have hreplaces := replaces_pieces h.shaped m.start v
  have hsorted := pieces_sorted h.shaped m.start v
  have hsame : m.found.parts.ranges.Perm ((m.stamp.pieces m.start v).map Edit.range) :=
    range_piecesOf m.found v _ ▸ (perm_piecesOf m v).map Edit.range
  refine ⟨⟨Located.start_lt_stop h.shaped, ?_, ?_⟩, ?_, ?_⟩
  · obtain ⟨lead, rest, rfl, hlead, -⟩ := h
    exact ⟨lead, _, rfl, hlead⟩
  · obtain ⟨lead, rest, rfl, hlead, -⟩ := h
    exact ⟨lead ++ m.stamp.text, rest, by simp, by rw [Text.width_append, hlead]; rfl⟩
  · intro p hp
    obtain ⟨e, he, rfl⟩ := List.mem_map.mp (hsame.subset hp)
    have hlt := start_lt_stop_of_mem_pieces h.shaped he
    obtain ⟨kept, old, after, htext, hstart, hstop⟩ := hreplaces.fits e he
    obtain ⟨lead, rest, ht, hlead, -⟩ := h
    have hwidth : m.found.stop = m.start + (kept.width + (old.width + after.width)) := by
      rw [← Text.width_append, ← Text.width_append, ← htext]
      rfl
    refine ⟨?_, hlt, ?_, ⟨lead ++ kept, old ++ (after ++ rest), ?_, ?_⟩,
      ⟨lead ++ (kept ++ old), after ++ rest, ?_, ?_⟩⟩
    · show m.start ≤ e.start
      omega
    · show e.stop ≤ m.found.stop
      omega
    · simp [ht, htext]
    · rw [Text.width_append, hlead, hstart]
      rfl
    · simp [ht, htext]
    · rw [Text.width_append, Text.width_append, hlead, ← Nat.add_assoc, hstart, hstop]
      rfl
  · have horder : inOrder ByteRange.start m.found.parts.ranges =
        (m.stamp.pieces m.start v).map Edit.range :=
      inOrder_eq hsame (List.pairwise_map.mpr hsorted)
    rw [horder]
    exact List.pairwise_map.mpr hreplaces.apart

end Cursor

end LogShift
