import LogShift.Enrichment
import LogShift.Proofs.Pattern.Matches
import Mathlib.Data.List.Induction
import Mathlib.Tactic.IntervalCases

/-! Which of the user patterns decide. Half of them match only where one tried before them matches
too, so that without them the same user is found in every message. -/
namespace LogShift

namespace Pattern

/-- `p`, and behind it the characters of a text. -/
def andText (p : Pattern) (t : Text) : Pattern :=
  t.foldl (fun p c => .seq p (.char (.literal c))) p

/-- The characters of a text. -/
def ofChars : Text → Pattern
  | [] => .empty
  | c :: t => andText (.char (.literal c)) t

/-- One or more characters of a class. -/
def plus (cls : CharClass) : Pattern :=
  .seq (.char cls) (.many (.char cls))

section

variable {p : Pattern} {before s after t : Text}

theorem matches_andText_iff :
    (p.andText t).Matches before s after ↔
      ∃ s', s = s' ++ t ∧ p.Matches before s' (t ++ after) := by
  induction t generalizing p with
  | nil => simp [andText]
  | cons c t ih =>
    have hstep : p.andText (c :: t) = (Pattern.seq p (.char (.literal c))).andText t := rfl
    rw [hstep, ih]
    simp only [matches_seq_iff, matches_char_iff, CharClass.holds, beq_iff_eq]
    constructor
    · intro h
      obtain ⟨_, rfl, s', _, rfl, hp, _, rfl, rfl⟩ := h
      exact ⟨s', List.append_cons s' c t ▸ rfl, hp⟩
    · intro h
      obtain ⟨s', rfl, hp⟩ := h
      exact ⟨s' ++ [c], List.append_cons s' c t, s', [c], rfl, hp, c, rfl, rfl⟩

theorem matches_ofChars_iff : (ofChars t).Matches before s after ↔ s = t := by
  cases t with
  | nil => exact matches_empty_iff
  | cons c t =>
    rw [ofChars, matches_andText_iff]
    simp [CharClass.holds]

theorem matches_plus_iff {cls : CharClass} :
    (plus cls).Matches before s after ↔ s ≠ [] ∧ ∀ c ∈ s, cls.holds c = true := by
  simp only [plus, matches_seq_iff, matches_char_iff, matches_many_char_iff]
  constructor
  · intro h
    obtain ⟨_, s, rfl, ⟨c, rfl, hc⟩, hs⟩ := h
    exact ⟨List.cons_ne_nil c s, List.forall_mem_cons.2 ⟨hc, hs⟩⟩
  · intro h
    obtain ⟨hne, hall⟩ := h
    obtain ⟨c, s, rfl⟩ := List.exists_cons_of_ne_nil hne
    obtain ⟨hc, hs⟩ := List.forall_mem_cons.1 hall
    exact ⟨[c], s, rfl, ⟨c, rfl, hc⟩, hs⟩

end

/-- A pattern that ends in a group has its text wherever the pattern matches. -/
theorem isSome_find?_of_matches {p q : Pattern} {i : Nat} {before s after : Text}
    (h : (Pattern.seq p (.group i q)).Matches before s after) :
    ((Pattern.seq p (.group i q)).find? i (before ++ (s ++ after))).isSome = true := by
  cases hsearch : (Pattern.seq p (.group i q)).search? (before ++ (s ++ after)) with
  | none => exact absurd h (search?_eq_none_iff.1 hsearch before s after rfl)
  | some g =>
    obtain ⟨front, rest, b, _, hpass, _⟩ := search?_eq_some hsearch
    obtain ⟨m, k, hp, hq⟩ := passes_seq_iff.1 hpass
    obtain ⟨s', after', _, rfl, _, _⟩ := hp.matches
    obtain ⟨x, _, _, _, htext⟩ := hq.text?_group
    rw [find?, hsearch, Option.bind_some, htext]
    rfl

theorem exists_matches_of_search? {p : Pattern} {t : Text} (h : (p.search? t).isSome = true) :
    ∃ before s after, t = before ++ (s ++ after) ∧ p.Matches before s after := by
  obtain ⟨g, hg⟩ := Option.isSome_iff_exists.1 h
  obtain ⟨before, rest, b, ht, hpass, _⟩ := search?_eq_some hg
  obtain ⟨s, after, hrest, _, hmatch, _⟩ := hpass.matches
  exact ⟨before, s, after, ht.trans (congrArg (before ++ ·) hrest), hmatch⟩

theorem isSome_search?_of_find? {p : Pattern} {i : Nat} {t : Text}
    (h : (p.find? i t).isSome = true) : (p.search? t).isSome = true := by
  obtain ⟨s, hs⟩ := Option.isSome_iff_exists.1 h
  obtain ⟨g, hg, _⟩ := Option.bind_eq_some_iff.1 hs
  exact Option.isSome_iff_exists.2 ⟨g, hg⟩

end Pattern

/-- The first success of a list is that of the part kept, if each success left out comes behind
another one. -/
theorem findSome?_filter {α β : Type} {f : α → Option β} {keep : α → Bool} {l : List α}
    (h : ∀ i x, l[i]? = some x → keep x = false → (f x).isSome = true →
      ∃ y ∈ l.take i, (f y).isSome = true) :
    (l.filter keep).findSome? f = l.findSome? f := by
  -- The list grows at its end, so that what stands before an element stays.
  induction l using List.reverseRecOn with
  | nil => rfl
  | append_singleton l x ih =>
    have hl : (l.filter keep).findSome? f = l.findSome? f := by
      apply ih
      intro i y hy hdrop hsome
      obtain ⟨hlt, _⟩ := List.getElem?_eq_some_iff.1 hy
      have hfront := h i y (by rw [List.getElem?_append_left hlt, hy]) hdrop hsome
      rwa [List.take_append_of_le_length hlt.le] at hfront
    rw [List.filter_append, List.findSome?_append, List.findSome?_append, hl]
    cases hkeep : keep x with
    | true => rw [List.filter_singleton, hkeep, cond_true]
    | false =>
      rw [List.filter_singleton, hkeep, cond_false, List.findSome?_nil, Option.or_none]
      cases hx : f x with
      | none => simp [hx]
      | some b =>
        obtain ⟨y, hy, hsome⟩ := h l.length x List.getElem?_concat_length hkeep (by rw [hx]; rfl)
        rw [List.take_left] at hy
        have hfound : (l.findSome? f).isSome = true := List.findSome?_isSome_iff.2 ⟨y, hy, hsome⟩
        rw [Option.or_of_isSome hfound]

namespace UserName

open Pattern

/-- The patterns that decide, in the order in which they are tried. -/
def decidingTexts : List String :=
  ["user=(\\S+)", "user\\s+(\\S+)", "password for (\\S+)", "authentication failure.* for (\\S+)"]

def deciding : List Pattern :=
  (patterns? (decidingTexts.map String.toList)).getD []

/-- A name, as the first group. -/
def namePattern : Pattern :=
  .group 1 (plus (.whiteSpace true))

def userPattern : Pattern :=
  .seq (.seq (ofChars "user".toList) (plus (.whiteSpace false))) namePattern

/-- A name right behind a text. -/
def behindPattern (t : String) : Pattern :=
  .seq (ofChars t.toList) namePattern

/-- An authentication failure, something else, and the name behind a preposition. -/
def failurePattern (p : Pattern) : Pattern :=
  .seq (andText (.seq (ofChars "authentication failure".toList) p) " for ".toList) namePattern

theorem patterns_eq : patterns =
    [behindPattern "user=", userPattern, behindPattern "Invalid user ",
      behindPattern "for invalid user ", behindPattern "for user ", behindPattern "password for ",
      failurePattern (.many (.char .any)),
      failurePattern (.alt (.char (.literal 's')) .empty)] := by
  decide +kernel

theorem deciding_eq : deciding =
    [behindPattern "user=", userPattern, behindPattern "password for ",
      failurePattern (.many (.char .any))] := by
  decide +kernel

/-- Patterns that were read are no default. -/
theorem patterns?_eq_some {texts : List Text} (h : (patterns? texts).getD [] ≠ []) :
    patterns? texts = some ((patterns? texts).getD []) := by
  cases hp : patterns? texts with
  | none => exact absurd (by rw [hp]; rfl) h
  | some ps => rfl

theorem matches_namePattern_iff {before s after : Text} :
    namePattern.Matches before s after ↔ s ≠ [] ∧ ∀ c ∈ s, isWhiteSpace c = false := by
  simp only [namePattern, matches_group_iff, matches_plus_iff, CharClass.holds, bne_iff_ne, ne_eq,
    Bool.not_eq_true]

theorem matches_behindPattern_iff {t : String} {before s after : Text} :
    (behindPattern t).Matches before s after ↔
      ∃ n, s = t.toList ++ n ∧ n ≠ [] ∧ ∀ c ∈ n, isWhiteSpace c = false := by
  simp only [behindPattern, matches_seq_iff, matches_ofChars_iff, matches_namePattern_iff]
  constructor
  · intro h
    obtain ⟨_, n, rfl, rfl, hn⟩ := h
    exact ⟨n, rfl, hn⟩
  · intro h
    obtain ⟨n, rfl, hn⟩ := h
    exact ⟨_, n, rfl, rfl, hn⟩

theorem matches_userPattern_iff {before s after : Text} :
    userPattern.Matches before s after ↔
      ∃ gap n, s = "user".toList ++ gap ++ n ∧ (gap ≠ [] ∧ ∀ c ∈ gap, isWhiteSpace c = true) ∧
        n ≠ [] ∧ ∀ c ∈ n, isWhiteSpace c = false := by
  simp only [userPattern, matches_seq_iff, matches_ofChars_iff, matches_plus_iff,
    matches_namePattern_iff, CharClass.holds, bne_iff_ne, ne_eq, Bool.not_eq_false]
  constructor
  · intro h
    obtain ⟨_, n, rfl, ⟨_, gap, rfl, rfl, hgap⟩, hn⟩ := h
    exact ⟨gap, n, rfl, hgap, hn⟩
  · intro h
    obtain ⟨gap, n, rfl, hgap, hn⟩ := h
    exact ⟨_, n, rfl, ⟨_, gap, rfl, rfl, hgap⟩, hn⟩

theorem matches_failurePattern_iff {p : Pattern} {before s after : Text} :
    (failurePattern p).Matches before s after ↔
      ∃ x n, s = "authentication failure".toList ++ x ++ " for ".toList ++ n ∧
        p.Matches (before ++ "authentication failure".toList) x (" for ".toList ++ (n ++ after)) ∧
        n ≠ [] ∧ ∀ c ∈ n, isWhiteSpace c = false := by
  simp only [failurePattern, matches_seq_iff, matches_andText_iff, matches_ofChars_iff,
    matches_namePattern_iff]
  constructor
  · intro h
    obtain ⟨_, n, rfl, ⟨_, rfl, _, x, rfl, rfl, hx⟩, hn⟩ := h
    exact ⟨x, n, rfl, hx, hn⟩
  · intro h
    obtain ⟨x, n, rfl, hx, hn⟩ := h
    exact ⟨_, n, rfl, ⟨_, rfl, _, x, rfl, rfl, hx⟩, hn⟩

/-- One space is a run of white space, so a name behind a text that ends in the word is found behind
the word alone. -/
theorem isSome_userPattern (lead : Text) {t : String} {msg : Text}
    (ht : t.toList = lead ++ "user ".toList) (h : ((behindPattern t).search? msg).isSome = true) :
    (userPattern.find? 1 msg).isSome = true := by
  obtain ⟨before, _, after, rfl, hmatch⟩ := exists_matches_of_search? h
  obtain ⟨n, rfl, hn⟩ := matches_behindPattern_iff.1 hmatch
  have hspace : [' '] ≠ [] ∧ ∀ c ∈ [' '], isWhiteSpace c = true :=
    ⟨List.cons_ne_nil _ _, List.forall_mem_singleton.2 rfl⟩
  have huser : userPattern.Matches (before ++ lead) ("user".toList ++ [' '] ++ n) after :=
    matches_userPattern_iff.2 ⟨[' '], n, rfl, hspace, hn⟩
  have hsplit : before ++ (t.toList ++ n ++ after) =
      (before ++ lead) ++ ("user".toList ++ [' '] ++ n ++ after) := by
    rw [ht]
    simp
  rw [hsplit]
  exact isSome_find?_of_matches huser

/-- The letter of the plural is something else too. -/
theorem isSome_failurePattern {msg : Text}
    (h : ((failurePattern (.alt (.char (.literal 's')) .empty)).search? msg).isSome = true) :
    ((failurePattern (.many (.char .any))).find? 1 msg).isSome = true := by
  obtain ⟨before, _, after, rfl, hmatch⟩ := exists_matches_of_search? h
  obtain ⟨x, n, rfl, hx, hn⟩ := matches_failurePattern_iff.1 hmatch
  have hany : (Pattern.many (.char .any)).Matches (before ++ "authentication failure".toList) x
      (" for ".toList ++ (n ++ after)) := by
    rw [matches_many_char_iff]
    rw [matches_alt_iff, matches_char_iff, matches_empty_iff] at hx
    rcases hx with ⟨c, rfl, hc⟩ | rfl
    · obtain rfl : 's' = c := by simpa [CharClass.holds] using hc
      exact List.forall_mem_singleton.2 rfl
    · exact List.forall_mem_nil _
  exact isSome_find?_of_matches (matches_failurePattern_iff.2 ⟨x, n, rfl, hany, hn⟩)

/-- A pattern that does not decide matches only where one tried before it finds a name. -/
theorem exists_deciding_before {msg : Text} {i : Nat} {p : Pattern} (hp : patterns[i]? = some p)
    (hidle : p ∉ deciding) (hmatch : (p.search? msg).isSome = true) :
    ∃ q ∈ patterns.take i, q ∈ deciding ∧ (q.find? 1 msg).isSome = true := by
  have huser (lead : Text) {t : String} (ht : t.toList = lead ++ "user ".toList)
      (hp : some (behindPattern t) = some p) : (userPattern.find? 1 msg).isSome = true :=
    isSome_userPattern lead ht (Option.some.inj hp ▸ hmatch)
  have hmem : userPattern ∈ deciding ∧ failurePattern (.many (.char .any)) ∈ deciding := by
    simp [deciding_eq]
  have hlt : i < 8 := by
    obtain ⟨h, _⟩ := List.getElem?_eq_some_iff.1 hp
    rw [patterns_eq] at h
    exact h
  have hdecides {q : Pattern} (hq : some q = some p) (hmem : q ∈ deciding) : False :=
    hidle (Option.some.inj hq ▸ hmem)
  rw [patterns_eq] at hp ⊢
  interval_cases i
  · exact (hdecides hp (by simp [deciding_eq])).elim
  · exact (hdecides hp (by simp [deciding_eq])).elim
  · exact ⟨userPattern, by simp, hmem.1, huser "Invalid ".toList rfl hp⟩
  · exact ⟨userPattern, by simp, hmem.1, huser "for invalid ".toList rfl hp⟩
  · exact ⟨userPattern, by simp, hmem.1, huser "for ".toList rfl hp⟩
  · exact (hdecides hp (by simp [deciding_eq])).elim
  · exact (hdecides hp (by simp [deciding_eq])).elim
  · exact ⟨failurePattern (.many (.char .any)), by simp, hmem.2,
      isSome_failurePattern ((Option.some.inj hp).symm ▸ hmatch)⟩

/-- The patterns that decide find the same user as all of them in every message: each other one
matches only if a deciding one before it finds a name. -/
theorem find?_deciding :
    patterns? (patternTexts.map String.toList) = some patterns ∧
    patterns? (decidingTexts.map String.toList) = some deciding ∧
    ∀ msg, find? patterns msg = find? deciding msg ∧
      ∀ i p, patterns[i]? = some p → p ∉ deciding → (p.search? msg).isSome = true →
        ∃ q ∈ patterns.take i, q ∈ deciding ∧ (q.find? 1 msg).isSome = true := by
  have hread : patterns ≠ [] ∧ deciding ≠ [] := by simp [patterns_eq, deciding_eq]
  refine ⟨patterns?_eq_some hread.1, patterns?_eq_some hread.2, ?_⟩
  intro msg
  refine ⟨?_, fun i p => exists_deciding_before⟩
  have hkept : deciding = patterns.filter (· ∈ deciding) := by
    rw [patterns_eq, deciding_eq]
    rfl
  rw [find?, find?, hkept]
  refine (findSome?_filter ?_).symm
  intro i p hp hidle hfind
  obtain ⟨q, hq, _, hsome⟩ := exists_deciding_before hp (of_decide_eq_false hidle)
    (isSome_search?_of_find? hfind)
  exact ⟨q, hq, hsome⟩

example : find? deciding "Failed password for invalid user\u2003webmaster".toList =
    some "webmaster".toList := by decide +kernel

end UserName

end LogShift
