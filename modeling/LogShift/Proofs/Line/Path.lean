import LogShift.Line.Apache
import Mathlib.Data.List.Infix

/-! The path of a web server message: the longest end of the message that the expression
`(/[A-Za-z0-9._-]+){2,}/?` describes as a whole. -/
namespace LogShift.Line.Apache

/-- What stands between two slashes: `[A-Za-z0-9._-]+`. -/
def IsSegment (s : Text) : Prop :=
  s ≠ [] ∧ ∀ c ∈ s, c.isAlphanum = true ∨ c = '.' ∨ c = '_' ∨ c = '-'

/-- Segments, each behind a slash, and at most one slash behind the last; with `n` segments before
them there are two or more. -/
def PathEnd (n : Nat) (t : Text) : Prop :=
  ∃ (segments : List Text) (tail : Text), 2 ≤ n + segments.length ∧
    (∀ s ∈ segments, IsSegment s) ∧ (tail = [] ∨ tail = ['/']) ∧
    t = segments.flatMap (fun s => '/' :: s) ++ tail

/-- The language of `(/[A-Za-z0-9._-]+){2,}/?`. -/
def PathText (t : Text) : Prop :=
  ∃ (segments : List Text) (tail : Text), 2 ≤ segments.length ∧
    (∀ s ∈ segments, IsSegment s) ∧ (tail = [] ∨ tail = ['/']) ∧
    t = segments.flatMap (fun s => '/' :: s) ++ tail

theorem pathEnd_zero {t : Text} : PathEnd 0 t ↔ PathText t := by
  simp only [PathEnd, PathText, Nat.zero_add]

theorem isPathChar_iff {c : Char} :
    isPathChar c = true ↔ c.isAlphanum = true ∨ c = '.' ∨ c = '_' ∨ c = '-' := by
  simp [isPathChar, or_assoc]

theorem isSegment_cons_iff {c : Char} {s : Text} :
    IsSegment (c :: s) ↔ isPathChar c = true ∧ ∀ a ∈ s, isPathChar a = true := by
  simp [IsSegment, isPathChar_iff]

theorem pathEnd_nil_iff {n : Nat} : PathEnd n [] ↔ 2 ≤ n := by
  constructor
  · intro h
    obtain ⟨segments, tail, hn, -, -, h⟩ := h
    cases segments with
    | nil => simpa using hn
    | cons s segments => simp at h
  · intro h
    exact ⟨[], [], h, by simp, .inl rfl, rfl⟩

theorem PathEnd.head_eq {n : Nat} {c : Char} {t : Text} (h : PathEnd n (c :: t)) : c = '/' := by
  obtain ⟨segments, tail, -, -, htail, h⟩ := h
  cases segments with
  | nil =>
    cases htail with
    | inl hnil => simp [hnil] at h
    | inr hslash =>
      rw [hslash] at h
      exact (List.cons.inj h).1
  | cons s segments => exact (List.cons.inj h).1

/-- Behind a slash the text is over, or a segment follows. -/
theorem pathEnd_slash_iff {n : Nat} {t : Text} :
    PathEnd n ('/' :: t) ↔ (t = [] ∧ 2 ≤ n) ∨
      ∃ s rest, IsSegment s ∧ t = s ++ rest ∧ PathEnd (n + 1) rest := by
  constructor
  · intro h
    obtain ⟨segments, tail, hn, hall, htail, h⟩ := h
    cases segments with
    | nil =>
      apply Or.inl
      cases htail with
      | inl hnil => simp [hnil] at h
      | inr hslash => exact ⟨by simpa [hslash] using h, hn⟩
    | cons s segments =>
      apply Or.inr
      refine ⟨s, segments.flatMap (fun s => '/' :: s) ++ tail, hall s List.mem_cons_self, ?_,
        segments, tail, ?_, fun a ha => hall a (List.mem_cons_of_mem s ha), htail, rfl⟩
      · simpa using h
      · rw [List.length_cons] at hn
        omega
  · intro h
    cases h with
    | inl h => exact ⟨[], ['/'], h.2, by simp, .inr rfl, by rw [h.1]; rfl⟩
    | inr h =>
      obtain ⟨s, rest, hs, rfl, segments, tail, hn, hall, htail, rfl⟩ := h
      refine ⟨s :: segments, tail, ?_, ?_, htail, by simp⟩
      · rw [List.length_cons]
        omega
      · intro a ha
        cases ha with
        | head => exact hs
        | tail _ ha => exact hall a ha

/-- The two states of the scan: right behind a slash, and inside a segment, of which more characters
may follow. -/
theorem isPathFrom_iff (t : Text) : ∀ n : Nat,
    (isPathFrom n true t = true ↔ PathEnd n ('/' :: t)) ∧
    (isPathFrom n false t = true ↔
      ∃ s rest, (∀ c ∈ s, isPathChar c = true) ∧ t = s ++ rest ∧ PathEnd n rest) := by
  induction t with
  | nil =>
    intro n
    constructor
    · simp [isPathFrom, pathEnd_slash_iff, IsSegment]
    · simp [isPathFrom, pathEnd_nil_iff]
  | cons c t ih =>
    intro n
    constructor
    · rw [isPathFrom, if_pos rfl, Bool.and_eq_true, (ih (n + 1)).2, pathEnd_slash_iff]
      constructor
      · intro h
        obtain ⟨hc, s, rest, hs, rfl, hrest⟩ := h
        exact .inr ⟨c :: s, rest, isSegment_cons_iff.mpr ⟨hc, hs⟩, rfl, hrest⟩
      · intro h
        obtain ⟨s, rest, hs, heq, hrest⟩ := h.resolve_left (by simp)
        cases s with
        | nil => exact absurd rfl hs.1
        | cons a s =>
          obtain ⟨rfl, rfl⟩ := List.cons.inj heq
          obtain ⟨hc, hs⟩ := isSegment_cons_iff.mp hs
          exact ⟨hc, s, rest, hs, rfl, hrest⟩
    · rw [isPathFrom, if_neg (by simp)]
      by_cases hc : c = '/'
      · subst hc
        rw [if_pos rfl, (ih n).1]
        constructor
        · intro h
          exact ⟨[], '/' :: t, by simp, rfl, h⟩
        · intro h
          obtain ⟨s, rest, hs, heq, hrest⟩ := h
          -- A slash is no character of a segment, so the segment in hand has ended.
          cases s with
          | nil => exact heq ▸ hrest
          | cons a s =>
            have hslash : isPathChar '/' = true := (List.cons.inj heq).1 ▸ hs a List.mem_cons_self
            cases hslash
      · rw [if_neg hc, Bool.and_eq_true, (ih n).2]
        constructor
        · intro h
          obtain ⟨hchar, s, rest, hs, rfl, hrest⟩ := h
          exact ⟨c :: s, rest, List.forall_mem_cons.mpr ⟨hchar, hs⟩, rfl, hrest⟩
        · intro h
          obtain ⟨s, rest, hs, heq, hrest⟩ := h
          cases s with
          | nil =>
            rw [List.nil_append] at heq
            exact absurd (heq ▸ hrest).head_eq hc
          | cons a s =>
            obtain ⟨rfl, rfl⟩ := List.cons.inj heq
            obtain ⟨hchar, hs⟩ := List.forall_mem_cons.mp hs
            exact ⟨hchar, s, rest, hs, rfl, hrest⟩

theorem isPath_iff {t : Text} : isPath t = true ↔ PathText t := by
  rw [← pathEnd_zero]
  cases t with
  | nil => simp [isPath, pathEnd_nil_iff]
  | cons c t =>
    by_cases hc : c = '/'
    · subst hc
      exact (isPathFrom_iff t 0).1
    · constructor
      · intro h
        simp [isPath, hc] at h
      · intro h
        exact absurd h.head_eq hc

/-- No end of `msg` that is a path is longer than `s`. -/
def LongestPath (msg s : Text) : Prop :=
  s <:+ msg ∧ PathText s ∧ ∀ s', s' <:+ msg → PathText s' → s'.length ≤ s.length

theorem longestPath_cons_iff {c : Char} {t s : Text} (h : ¬PathText (c :: t)) :
    LongestPath (c :: t) s ↔ LongestPath t s := by
  have hsuffix : ∀ {u}, PathText u → (u <:+ c :: t ↔ u <:+ t) := by
    intro u hu
    rw [List.suffix_cons_iff, or_iff_right]
    intro heq
    exact h (heq ▸ hu)
  constructor
  · intro hs
    refine ⟨(hsuffix hs.2.1).mp hs.1, hs.2.1, ?_⟩
    intro s' hs' hpath
    exact hs.2.2 s' ((hsuffix hpath).mpr hs') hpath
  · intro hs
    refine ⟨(hsuffix hs.2.1).mpr hs.1, hs.2.1, ?_⟩
    intro s' hs' hpath
    exact hs.2.2 s' ((hsuffix hpath).mp hs') hpath

theorem longestPath_self_iff {t s : Text} (h : PathText t) : LongestPath t s ↔ t = s := by
  constructor
  · intro hs
    exact (hs.1.eq_of_length_le (hs.2.2 t (List.suffix_refl t) h)).symm
  · intro hs
    subst hs
    exact ⟨List.suffix_refl t, h, fun s' hs' _ => hs'.length_le⟩

theorem path?_eq_some_iff {msg s : Text} : path? msg = some s ↔ LongestPath msg s := by
  induction msg with
  | nil =>
    constructor
    · intro h
      cases h
    · intro h
      have hnil : s = [] := List.suffix_nil.mp h.1
      cases (isPath_iff.mpr (hnil ▸ h.2.1))
  | cons c t ih =>
    rw [path?]
    by_cases hpath : isPath (c :: t) = true
    · rw [if_pos hpath, Option.some.injEq, longestPath_self_iff (isPath_iff.mp hpath)]
    · rw [if_neg hpath, ih, longestPath_cons_iff (mt isPath_iff.mpr hpath)]

theorem path?_eq_none_iff {msg : Text} :
    path? msg = none ↔ ¬∃ s, s <:+ msg ∧ PathText s := by
  induction msg with
  | nil =>
    simp only [path?, List.suffix_nil, exists_eq_left, ← isPath_iff]
    simp [isPath]
  | cons c t ih =>
    rw [path?]
    simp only [List.suffix_cons_iff, or_and_right, exists_or, exists_eq_left, ← isPath_iff]
    simp only [← isPath_iff] at ih
    by_cases hpath : isPath (c :: t) = true
    · simp [hpath]
    · simp [hpath, ih]

/-- The path of a message is its longest end in the language of paths, there is none exactly if no
end is in the language, and the scan decides the language. -/
theorem path?_longest (msg : Text) :
    (∀ s, path? msg = some s ↔
      s <:+ msg ∧ PathText s ∧ ∀ s', s' <:+ msg → PathText s' → s'.length ≤ s.length) ∧
    (path? msg = none ↔ ¬∃ s, s <:+ msg ∧ PathText s) ∧
    ∀ t, isPath t = true ↔ PathText t := by
  refine ⟨?_, path?_eq_none_iff, ?_⟩
  · intro s
    exact path?_eq_some_iff
  · intro t
    exact isPath_iff

end LogShift.Line.Apache
