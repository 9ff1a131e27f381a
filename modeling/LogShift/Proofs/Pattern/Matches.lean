import LogShift.Proofs.Pattern.Search

/-! The texts that a pattern matches where they stand, constructor by constructor, and that the
first match is the text of one that starts first. -/
namespace LogShift.Pattern

/-- `p` matches `s` where it stands between `before` and `after`. -/
def Matches (p : Pattern) (before s after : Text) : Prop :=
  ∃ g g', Passes p ⟨before.getLast?, s ++ after⟩ g ⟨(before ++ s).getLast?, after⟩ g'

/-- What a pattern passes is a text that it matches, and the open groups have it. -/
theorem Passes.matches {p : Pattern} {before t : Text} {b : Place} {g g' : Groups}
    (h : Passes p ⟨before.getLast?, t⟩ g b g') :
    ∃ s after, t = s ++ after ∧ b = ⟨(before ++ s).getLast?, after⟩ ∧ p.Matches before s after ∧
      g'.opened = Groups.grown s g.opened := by
  obtain ⟨s, ⟨hrest, hprev⟩, hopened⟩ := h.reads
  obtain ⟨prev, after⟩ := b
  have hb : prev = (before ++ s).getLast? := by rw [List.getLast?_append]; exact hprev
  subst hb hrest
  exact ⟨s, after, rfl, rfl, ⟨g, g', h⟩, hopened⟩

theorem Matches.passes {p : Pattern} {before s after : Text} (h : p.Matches before s after)
    (g : Groups) :
    ∃ g', Passes p ⟨before.getLast?, s ++ after⟩ g ⟨(before ++ s).getLast?, after⟩ g' := by
  obtain ⟨_, _, hpass⟩ := h
  exact hpass.regroup g

section Cases

variable {p q : Pattern} {before s after : Text}

@[simp]
theorem matches_empty_iff : Matches .empty before s after ↔ s = [] := by
  simp only [Matches, passes_empty_iff, Place.mk.injEq]
  constructor
  · intro h
    obtain ⟨g, g', ⟨_, hrest⟩, _⟩ := h
    exact List.append_left_eq_self.1 hrest.symm
  · intro h
    subst h
    exact ⟨.start, .start, ⟨by rw [List.append_nil], rfl⟩, rfl⟩

@[simp]
theorem matches_char_iff {cls : CharClass} :
    Matches (.char cls) before s after ↔ ∃ c, s = [c] ∧ cls.holds c = true := by
  simp only [Matches, passes_char_iff, Place.mk.injEq]
  constructor
  · intro h
    obtain ⟨g, g', c, t, hrest, hc, ⟨_, rfl⟩, _⟩ := h
    exact ⟨c, List.append_cancel_right (hrest.trans List.singleton_append.symm), hc⟩
  · intro h
    obtain ⟨c, rfl, hc⟩ := h
    exact ⟨.start, _, c, after, rfl, hc, ⟨List.getLast?_concat, rfl⟩, rfl⟩

@[simp]
theorem matches_boundary_iff :
    Matches .boundary before s after ↔
      s = [] ∧ isBoundary before.getLast? after.head? = true := by
  simp only [Matches, passes_boundary_iff, Place.mk.injEq]
  constructor
  · intro h
    obtain ⟨g, g', hb, ⟨_, hrest⟩, _⟩ := h
    obtain rfl := List.append_left_eq_self.1 hrest.symm
    exact ⟨rfl, hb⟩
  · intro h
    obtain ⟨rfl, hb⟩ := h
    exact ⟨.start, .start, hb, ⟨by rw [List.append_nil], rfl⟩, rfl⟩

@[simp]
theorem matches_seq_iff :
    Matches (.seq p q) before s after ↔
      ∃ s₁ s₂, s = s₁ ++ s₂ ∧ p.Matches before s₁ (s₂ ++ after) ∧
        q.Matches (before ++ s₁) s₂ after := by
  constructor
  · intro h
    obtain ⟨g, g', hpass⟩ := h
    obtain ⟨m, h₁, hp, hq⟩ := passes_seq_iff.1 hpass
    obtain ⟨s₁, rest, hs, rfl, hmp, _⟩ := hp.matches
    obtain ⟨s₂, after', rfl, hafter, hmq, _⟩ := hq.matches
    obtain ⟨_, rfl⟩ := Place.mk.inj hafter
    rw [← List.append_assoc] at hs
    exact ⟨s₁, s₂, List.append_cancel_right hs, hmp, hmq⟩
  · intro h
    obtain ⟨s₁, s₂, rfl, hp, hq⟩ := h
    obtain ⟨h₁, hp⟩ := hp.passes .start
    obtain ⟨h₂, hq⟩ := hq.passes h₁
    refine ⟨.start, h₂, ?_⟩
    rw [List.append_assoc, ← List.append_assoc before]
    exact .seq hp hq

@[simp]
theorem matches_alt_iff :
    Matches (.alt p q) before s after ↔ p.Matches before s after ∨ q.Matches before s after := by
  simp only [Matches, passes_alt_iff, exists_or]

@[simp]
theorem matches_group_iff {i : Nat} :
    Matches (.group i p) before s after ↔ p.Matches before s after := by
  constructor
  · intro h
    obtain ⟨g, g', hpass⟩ := h
    obtain ⟨h₁, hp, _⟩ := passes_group_iff.1 hpass
    exact ⟨_, _, hp⟩
  · intro h
    obtain ⟨h₁, hp⟩ := h.passes (Groups.start.enter i)
    exact ⟨_, _, .group hp⟩

/-- What a repeated class takes is in the class. -/
theorem Passes.holds_of_many {cls : CharClass} {a b : Place} {g g' : Groups}
    (h : Passes (.many (.char cls)) a g b g') :
    ∃ s, a.Reads s b ∧ ∀ c ∈ s, cls.holds c = true := by
  generalize hp : Pattern.many (.char cls) = p at h
  induction h with
  | manyNone => exact ⟨[], Place.reads_nil _, List.forall_mem_nil _⟩
  | manyMore hone _ _ _ ih =>
    cases hp
    cases hone with
    | @char _ _ c _ _ hc =>
      obtain ⟨s, hs, hall⟩ := ih rfl
      exact ⟨c :: s, Place.reads_cons_iff.2 ⟨rfl, hs⟩, List.forall_mem_cons.2 ⟨hc, hall⟩⟩
  | _ => cases hp

@[simp]
theorem matches_many_char_iff {cls : CharClass} :
    Matches (.many (.char cls)) before s after ↔ ∀ c ∈ s, cls.holds c = true := by
  constructor
  · intro h
    obtain ⟨g, g', hpass⟩ := h
    obtain ⟨s', ⟨hrest, _⟩, hall⟩ := hpass.holds_of_many
    rw [List.append_cancel_right hrest]
    exact hall
  · intro h
    induction s generalizing before with
    | nil => exact ⟨.start, .start, by simpa using .manyNone⟩
    | cons c s ih =>
      obtain ⟨hc, hs⟩ := List.forall_mem_cons.1 h
      have hnext : Matches (.many (.char cls)) (before ++ [c]) s after := ih hs
      obtain ⟨g', hrest⟩ := hnext.passes (Groups.start.extend c)
      rw [List.append_assoc, List.singleton_append, List.getLast?_concat] at hrest
      exact ⟨.start, g', .manyMore (.char hc) (Nat.lt_succ_self _) hrest⟩

end Cases

theorem mem_places_iff {prev : Option Char} {t : Text} {a : Place} :
    a ∈ places prev t ↔ ∃ before, Place.Reads ⟨prev, t⟩ before a := by
  induction t generalizing prev with
  | nil =>
    simp only [places, List.mem_singleton]
    constructor
    · intro h
      subst h
      exact ⟨[], Place.reads_nil _⟩
    · intro h
      obtain ⟨before, hrest, hprev⟩ := h
      obtain ⟨rfl, hnil⟩ := List.append_eq_nil_iff.1 hrest.symm
      obtain ⟨_, _⟩ := a
      exact congrArg₂ Place.mk hprev hnil
  | cons c t ih =>
    simp only [places, List.mem_cons, ih]
    constructor
    · intro h
      rcases h with rfl | ⟨before, hread⟩
      · exact ⟨[], Place.reads_nil _⟩
      · exact ⟨c :: before, Place.reads_cons_iff.2 ⟨rfl, hread⟩⟩
    · intro h
      obtain ⟨before, hread⟩ := h
      cases before with
      | nil =>
        left
        obtain ⟨_, _⟩ := a
        exact congrArg₂ Place.mk hread.2 hread.1.symm
      | cons d before =>
        right
        exact ⟨before, (Place.reads_cons_iff.1 hread).2⟩

/-- The places come with ever less behind them. -/
theorem places_pairwise (prev : Option Char) (t : Text) :
    (places prev t).Pairwise fun a b => b.rest.length < a.rest.length := by
  induction t generalizing prev with
  | nil => exact List.pairwise_singleton _ _
  | cons c t ih =>
    refine List.pairwise_cons.2 ⟨?_, ih _⟩
    intro b hb
    obtain ⟨before, hread⟩ := mem_places_iff.1 hb
    exact Nat.lt_succ_of_le hread.length_le

theorem mem_places_none_iff {t : Text} {a : Place} :
    a ∈ places none t ↔ ∃ before rest, t = before ++ rest ∧ a = ⟨before.getLast?, rest⟩ := by
  obtain ⟨prev, rest⟩ := a
  simp only [mem_places_iff, Place.Reads, Option.or_none, Place.mk.injEq]
  constructor
  · intro h
    obtain ⟨before, hrest, hprev⟩ := h
    exact ⟨before, rest, hrest, hprev, rfl⟩
  · intro h
    obtain ⟨before, _, hrest, hprev, rfl⟩ := h
    exact ⟨before, hrest, hprev⟩

/-- There is no way from a place where nothing is matched. -/
theorem runs_eq_nil_iff {p : Pattern} {before rest : Text} :
    runs rest before.getLast? [.pass p] .start = [] ↔
      ∀ s after, rest = s ++ after → ¬p.Matches before s after := by
  simp only [List.eq_nil_iff_forall_not_mem, mem_runs_iff, tasksPass_single, not_exists]
  constructor
  · intro h s after hrest hmatch
    obtain ⟨g, hpass⟩ := hmatch.passes .start
    exact h g _ (hrest ▸ hpass)
  · intro h g b hpass
    obtain ⟨s, after, hrest, _, hmatch, _⟩ := hpass.matches
    exact h s after hrest hmatch

theorem search?_eq_none_iff {p : Pattern} {t : Text} :
    p.search? t = none ↔ ∀ before s after, t = before ++ (s ++ after) → ¬p.Matches before s after := by
  rw [search?_eq_head?, List.head?_eq_none_iff, starts, List.flatMap_eq_nil_iff]
  constructor
  · intro h before s after ht
    have hplace := h _ (mem_places_none_iff.2 ⟨before, s ++ after, ht, rfl⟩)
    exact runs_eq_nil_iff.1 hplace s after rfl
  · intro h a ha
    obtain ⟨before, rest, ht, rfl⟩ := mem_places_none_iff.1 ha
    refine runs_eq_nil_iff.2 fun s after hrest => h before s after ?_
    exact ht.trans (congrArg (before ++ ·) hrest)

/-- A search that succeeds gives a passage from the first place where something is matched. -/
theorem search?_eq_some {p : Pattern} {t : Text} {g : Groups} (h : p.search? t = some g) :
    ∃ before rest b, t = before ++ rest ∧ Passes p ⟨before.getLast?, rest⟩ .start b g ∧
      ∀ before' s' after', t = before' ++ (s' ++ after') → p.Matches before' s' after' →
        before.length ≤ before'.length := by
  rw [search?_eq_head?, starts, List.head?_flatMap, List.findSome?_eq_some_iff] at h
  obtain ⟨l, a, l', hplaces, hfirst, hnone⟩ := h
  have hmem : a ∈ places none t := by rw [hplaces]; exact List.mem_append_cons_self
  obtain ⟨before, rest, ht, rfl⟩ := mem_places_none_iff.1 hmem
  obtain ⟨b, hpass⟩ := mem_runs_iff.1 (List.mem_of_mem_head? hfirst)
  refine ⟨before, rest, b, ht, tasksPass_single.1 hpass, ?_⟩
  intro before' s' after' ht' hmatch
  -- A place where something is matched is none of those before, so less text is behind it.
  have hplace : ⟨before'.getLast?, s' ++ after'⟩ ∈ places none t :=
    mem_places_none_iff.2 ⟨before', s' ++ after', ht', rfl⟩
  have hle : (s' ++ after').length ≤ rest.length := by
    rw [hplaces, List.mem_append, List.mem_cons] at hplace
    rcases hplace with hbefore | heq | hbehind
    · have hnil := List.head?_eq_none_iff.1 (hnone _ hbefore)
      exact absurd hmatch (runs_eq_nil_iff.1 hnil s' after' rfl)
    · exact Nat.le_of_eq (congrArg List.length (Place.mk.inj heq).2)
    · have hpairwise := places_pairwise none t
      rw [hplaces, List.pairwise_append, List.pairwise_cons] at hpairwise
      exact Nat.le_of_lt (hpairwise.2.1.1 _ hbehind)
  have hlength := congrArg List.length (ht.symm.trans ht')
  simp only [List.length_append] at hlength hle
  omega

/-- A group has the text that its body matches. -/
theorem Passes.text?_group {i : Nat} {p : Pattern} {before rest : Text} {b : Place} {g g' : Groups}
    (h : Passes (.group i p) ⟨before.getLast?, rest⟩ g b g') :
    ∃ s after, rest = s ++ after ∧ p.Matches before s after ∧ g'.text? i = some s := by
  obtain ⟨k, hpass, rfl⟩ := passes_group_iff.1 h
  obtain ⟨s, after, hrest, _, hmatch, hopened⟩ := hpass.matches
  refine ⟨s, after, hrest, hmatch, ?_⟩
  simp [Groups.leave, hopened, Groups.enter, Groups.grown, Groups.text?]

/-- The first match is a text that the pattern matches, and none starts before it. -/
theorem first?_eq_some {p : Pattern} {t s : Text} (h : p.first? t = some s) :
    ∃ before after, t = before ++ (s ++ after) ∧ p.Matches before s after ∧
      ∀ before' s' after', t = before' ++ (s' ++ after') → p.Matches before' s' after' →
        before.length ≤ before'.length := by
  obtain ⟨g, hsearch, htext⟩ := Option.bind_eq_some_iff.1 h
  obtain ⟨before, rest, b, ht, hpass, hleast⟩ := search?_eq_some hsearch
  obtain ⟨s', after, rfl, hmatch, htext'⟩ := hpass.text?_group
  obtain rfl : s' = s := Option.some.inj (htext'.symm.trans htext)
  refine ⟨before, after, ht, hmatch, ?_⟩
  intro before' s' after' ht' hmatch'
  exact hleast before' s' after' ht' (matches_group_iff.2 hmatch')

theorem first?_eq_none_iff {p : Pattern} {t : Text} :
    p.first? t = none ↔ ∀ before s after, t = before ++ (s ++ after) → ¬p.Matches before s after := by
  have hsearch : p.first? t = none ↔ (group 0 p).search? t = none := by
    cases h : (group 0 p).search? t with
    | none => simp [first?, find?, h]
    | some g =>
      obtain ⟨before, rest, b, _, hpass, _⟩ := search?_eq_some h
      obtain ⟨s, _, _, _, htext⟩ := hpass.text?_group
      simp [first?, find?, h, htext]
  rw [hsearch, search?_eq_none_iff]
  simp only [matches_group_iff]

end LogShift.Pattern
