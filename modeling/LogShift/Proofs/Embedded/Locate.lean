import LogShift.Embedded
import LogShift.Proofs.Stamp.Apart
import LogShift.Proofs.Stamp.Render

/-! Which dates of a text are located: those that the format asks for, each once and in order. In a
text that is not too long all of them can be written anew. -/
namespace LogShift.Embedded
open Located

/-- The stamp stands right between square brackets. -/
def EnclosedIn (t : Text) (m : Located) : Prop :=
  ∃ lead rest, t = lead ++ '[' :: (m.stamp.text ++ ']' :: rest) ∧ lead.width + 1 = m.start

/-- Of all stamps with `P`, the one that starts first. -/
def IsFirst (P : Located → Prop) (m : Located) : Prop :=
  P m ∧ ∀ m', P m' → m.start ≤ m'.start

/-- The dates of a text that are moved in a format. -/
def IsDate (format : LogFormat) (t : Text) (m : Located) : Prop :=
  match format with
  | .apache => IsFirst (fun m => at? .ctime m.start t = some m ∧ EnclosedIn t m) m
  | .hadoop => IsFirst (fun m => at? .iso m.start t = some m) m
  | .openssh => IsFirst (fun m => at? .syslog m.start t = some m) m
  | .linux => at? .syslog 0 t = some m ∨ at? .ctime m.start t = some m

theorem isBracketed_iff {k : Surface} {t : Text} {m : Located} (h : m.StandsIn k t) :
    isBracketed t m = true ↔ EnclosedIn t m := by
  obtain ⟨lead, rest, rfl, hw, -⟩ := h
  have hstop : m.stop = (lead ++ m.stamp.text).width := by rw [stop, Text.width_append, hw]
  simp only [isBracketed, Bool.and_eq_true, decide_eq_true_eq, beq_iff_eq,
    Text.charAt?_eq_some_iff, EnclosedIn]
  have hopen : ('[' : Char).utf8Size = 1 := rfl
  constructor
  · rintro ⟨⟨hpos, l, r, hl, hlw⟩, l', r', hl', hlw'⟩
    have hsplit : lead ++ (m.stamp.text ++ rest) = (l ++ ['[']) ++ r := by rw [hl]; simp
    obtain ⟨rfl, -⟩ := Text.append_inj_of_width hsplit (by
      rw [Text.width_append, hlw, Text.width_cons, Text.width_nil, hopen, hw]
      omega)
    rw [← List.append_assoc] at hl'
    obtain ⟨-, rfl⟩ := Text.append_inj_of_width hl' (by rw [hlw', hstop])
    exact ⟨l, r', by simp, by omega⟩
  · rintro ⟨l, r, hl, hlw⟩
    have hsplit : lead ++ (m.stamp.text ++ rest) = (l ++ ['[']) ++ (m.stamp.text ++ ']' :: r) := by
      rw [hl]
      simp
    obtain ⟨rfl, hrest⟩ := Text.append_inj_of_width hsplit (by
      rw [Text.width_append, Text.width_cons, Text.width_nil, hopen, hw]
      omega)
    refine ⟨⟨by omega, l, _, hl, by omega⟩, l ++ ['['] ++ m.stamp.text, r, ?_, hstop.symm⟩
    rw [hrest]
    simp

/-- The first of a sorted list that passes a test. -/
theorem mem_find?_iff {p : Located → Bool} {ms : List Located}
    (hs : ms.Pairwise fun a b => a.start < b.start) {m : Located} :
    m ∈ (ms.find? p).toList ↔ IsFirst (fun m => m ∈ ms ∧ p m = true) m := by
  rw [Option.mem_toList, List.find?_eq_some_iff_append]
  constructor
  · rintro ⟨hp, before, behind, rfl, hbefore⟩
    refine ⟨⟨by simp, hp⟩, ?_⟩
    rintro m' ⟨hm', hp'⟩
    obtain ⟨-, hs', -⟩ := List.pairwise_append.mp hs
    rcases List.mem_append.mp hm' with hm' | hm'
    · have := hbefore m' hm'
      simp [hp'] at this
    · rcases List.mem_cons.mp hm' with rfl | hm'
      · exact Nat.le_refl _
      · exact Nat.le_of_lt ((List.pairwise_cons.mp hs').1 m' hm')
  · rintro ⟨⟨hm, hp⟩, hfirst⟩
    obtain ⟨before, behind, rfl⟩ := List.append_of_mem hm
    refine ⟨hp, before, behind, rfl, ?_⟩
    intro a ha
    obtain ⟨-, -, hlt⟩ := List.pairwise_append.mp hs
    have hlt := hlt a ha m (by simp)
    cases hpa : p a with
    | false => rfl
    | true =>
      have := hfirst a ⟨by simp [ha], hpa⟩
      omega

theorem IsFirst.congr {P Q : Located → Prop} (h : ∀ m, P m ↔ Q m) {m : Located} :
    IsFirst P m ↔ IsFirst Q m := by
  simp only [IsFirst, h]

theorem mem_first?_iff {k : Surface} {t : Text} {m : Located} :
    m ∈ (first? k t).toList ↔ IsFirst (fun m => at? k m.start t = some m) m := by
  have hhead : first? k t = (candidates k t).find? fun _ => true := by
    unfold first?
    cases candidates k t <;> rfl
  rw [hhead, mem_find?_iff (candidates_sorted k t)]
  apply IsFirst.congr
  intro m
  simp [mem_candidates_iff_at?]

/-- No full date overlaps the stamp at the front, so that none is left out. -/
theorem locate_linux (t : Text) :
    locate .linux t = (at? .syslog 0 t).toList ++ candidates .ctime t := by
  simp only [locate, all_eq_candidates]
  congr 1
  apply List.filter_eq_self.mpr
  intro m hm
  cases hf : at? .syslog 0 t with
  | none => rfl
  | some f =>
    simp [overlaps_eq_false_of_stop_le (front_stop_le_start hf hm)]

theorem mem_locate_iff {format : LogFormat} {t : Text} {m : Located} :
    m ∈ locate format t ↔ IsDate format t m := by
  cases format with
  | apache =>
    show m ∈ ((candidates .ctime t).find? (isBracketed t)).toList ↔ _
    rw [mem_find?_iff (candidates_sorted .ctime t)]
    apply IsFirst.congr
    intro m
    rw [← mem_candidates_iff_at?]
    constructor
    · rintro ⟨hm, hb⟩
      exact ⟨hm, (isBracketed_iff (mem_candidates_iff.mp hm)).mp hb⟩
    · rintro ⟨hm, hb⟩
      exact ⟨hm, (isBracketed_iff (mem_candidates_iff.mp hm)).mpr hb⟩
  | hadoop => exact mem_first?_iff
  | openssh => exact mem_first?_iff
  | linux =>
    rw [locate_linux, List.mem_append, Option.mem_toList, mem_candidates_iff_at?]
    rfl

/-- Outside the linux format one date is located at most. -/
theorem locate_eq_singleton {format : LogFormat} (hf : format ≠ .linux) {t : Text} {m : Located}
    (h : m ∈ locate format t) : locate format t = [m] := by
  have hsingle : ∀ {o : Option Located}, m ∈ o.toList → o.toList = [m] := by
    intro o hm
    rw [Option.mem_toList] at hm
    rw [hm]
    rfl
  cases format with
  | linux => exact absurd rfl hf
  | apache => exact hsingle h
  | hadoop => exact hsingle h
  | openssh => exact hsingle h

theorem locate_apart (format : LogFormat) (t : Text) :
    (locate format t).Pairwise fun a b => a.stop ≤ b.start := by
  cases format with
  | apache =>
    show ((candidates .ctime t).find? (isBracketed t)).toList.Pairwise _
    cases (candidates .ctime t).find? (isBracketed t) <;> simp
  | hadoop =>
    show (first? .iso t).toList.Pairwise _
    cases first? .iso t <;> simp
  | openssh =>
    show (first? .syslog t).toList.Pairwise _
    cases first? .syslog t <;> simp
  | linux =>
    rw [locate_linux, List.pairwise_append]
    refine ⟨by cases at? .syslog 0 t <;> simp, candidates_apart .ctime t, ?_⟩
    intro f hf m hm
    exact front_stop_le_start (Option.mem_toList.mp hf) hm

/-- Every located date stands in the text. -/
theorem standsIn_of_mem_locate {format : LogFormat} {t : Text} {m : Located}
    (h : m ∈ locate format t) : ∃ k, m.StandsIn k t := by
  rw [mem_locate_iff] at h
  cases format with
  | apache => exact ⟨_, (at?_eq_some_iff.mp h.1.1).2⟩
  | hadoop => exact ⟨_, (at?_eq_some_iff.mp h.1).2⟩
  | openssh => exact ⟨_, (at?_eq_some_iff.mp h.1).2⟩
  | linux =>
    rcases h with h | h
    · exact ⟨_, (at?_eq_some_iff.mp h).2⟩
    · exact ⟨_, (at?_eq_some_iff.mp h).2⟩

/-- A stamp is no wider than its text, which leaves too little room for a day that is too wide. -/
theorem isWritable_style {k : Surface} {t : Text} {m : Located} (h : m.StandsIn k t)
    (ht : t.width ≤ Style.maxDayWidth + 12) : m.stamp.style.isWritable = true := by
  have hday := Stamp.dayWidth_add_le h.shaped
  obtain ⟨lead, rest, rfl, -, -⟩ := h
  rw [Text.width_append, Text.width_append] at ht
  have hle : m.stamp.style.dayWidth ≤ Style.maxDayWidth := by omega
  simp [Style.isWritable, hle]

theorem isWritable_of_width_le {t : Text} (ht : t.width ≤ Style.maxDayWidth + 12)
    (format : LogFormat) (field : TextField) (anchor : Moment) (delta : Span) :
    isWritable format field t anchor delta = true := by
  apply List.all_eq_true.mpr
  intro m hm
  obtain ⟨k, hk⟩ := standsIn_of_mem_locate hm
  rw [isWritable_style hk ht, Bool.or_true]

end LogShift.Embedded
