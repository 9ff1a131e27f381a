import LogShift.Pattern.Search
import Mathlib.Data.List.Basic

/-! What it means for a pattern to pass from one place of a text to another, and that the moves of
the search are the first steps of just these passages. -/
namespace LogShift.Pattern

/-- A place in a text: the character before it, if there is one, and the text behind it. -/
structure Place where
  prev : Option Char
  rest : Text

/-- From `a`, the text `s` leads to `b`. -/
def Place.Reads (a : Place) (s : Text) (b : Place) : Prop :=
  a.rest = s ++ b.rest ∧ b.prev = s.getLast?.or a.prev

theorem Place.reads_nil (a : Place) : a.Reads [] a :=
  ⟨rfl, rfl⟩

theorem Place.reads_cons_iff {prev : Option Char} {c d : Char} {t s : Text} {b : Place} :
    Reads ⟨prev, c :: t⟩ (d :: s) b ↔ c = d ∧ Reads ⟨some c, t⟩ s b := by
  simp only [Reads, List.cons_append, List.cons.injEq, List.getLast?_cons, Option.some_or]
  constructor
  · intro h
    obtain ⟨⟨rfl, hrest⟩, hprev⟩ := h
    exact ⟨rfl, hrest, by rw [hprev, Option.or_some]⟩
  · intro h
    obtain ⟨rfl, hrest, hprev⟩ := h
    exact ⟨⟨rfl, hrest⟩, by rw [hprev, Option.or_some]⟩

theorem Place.Reads.append {a b c : Place} {s s' : Text} (h : a.Reads s b) (h' : b.Reads s' c) :
    a.Reads (s ++ s') c := by
  obtain ⟨hrest, hprev⟩ := h
  obtain ⟨hrest', hprev'⟩ := h'
  refine ⟨by rw [hrest, hrest', List.append_assoc], ?_⟩
  rw [hprev', hprev, List.getLast?_append, Option.or_assoc]

theorem Place.Reads.length_le {a b : Place} {s : Text} (h : a.Reads s b) :
    b.rest.length ≤ a.rest.length := by
  rw [h.1, List.length_append]
  omega

/-- `p` leads from the first place to the second, and turns the first groups into the second. -/
inductive Passes : Pattern → Place → Groups → Place → Groups → Prop
  | empty {a g} : Passes .empty a g a g
  | char {cls : CharClass} {prev c t g} (h : cls.holds c = true) :
      Passes (.char cls) ⟨prev, c :: t⟩ g ⟨some c, t⟩ (g.extend c)
  | boundary {a : Place} {g} (h : isBoundary a.prev a.rest.head? = true) : Passes .boundary a g a g
  | seq {p q a b c g g' g''} (hp : Passes p a g b g') (hq : Passes q b g' c g'') :
      Passes (.seq p q) a g c g''
  | altFirst {p q a b g g'} (h : Passes p a g b g') : Passes (.alt p q) a g b g'
  | altSecond {p q a b g g'} (h : Passes q a g b g') : Passes (.alt p q) a g b g'
  | manyNone {p a g} : Passes (.many p) a g a g
  | manyMore {p} {a b c : Place} {g g' g''} (h : Passes p a g b g')
      (hlt : b.rest.length < a.rest.length) (hs : Passes (.many p) b g' c g'') :
      Passes (.many p) a g c g''
  | group {i p a b g g'} (h : Passes p a (g.enter i) b g') : Passes (.group i p) a g b g'.leave

section Cases

variable {p q : Pattern} {a b : Place} {g g' : Groups}

theorem passes_empty_iff : Passes .empty a g b g' ↔ b = a ∧ g' = g := by
  constructor
  · intro h
    cases h
    exact ⟨rfl, rfl⟩
  · intro h
    obtain ⟨rfl, rfl⟩ := h
    exact .empty

theorem passes_char_iff {cls : CharClass} :
    Passes (.char cls) a g b g' ↔
      ∃ c t, a.rest = c :: t ∧ cls.holds c = true ∧ b = ⟨some c, t⟩ ∧ g' = g.extend c := by
  constructor
  · intro h
    cases h with
    | @char _ _ c t _ hc => exact ⟨c, t, rfl, hc, rfl, rfl⟩
  · intro h
    obtain ⟨prev, rest⟩ := a
    obtain ⟨c, t, rfl, hc, rfl, rfl⟩ := h
    exact .char hc

theorem passes_boundary_iff :
    Passes .boundary a g b g' ↔ isBoundary a.prev a.rest.head? = true ∧ b = a ∧ g' = g := by
  constructor
  · intro h
    cases h with
    | boundary hb => exact ⟨hb, rfl, rfl⟩
  · intro h
    obtain ⟨hb, rfl, rfl⟩ := h
    exact .boundary hb

theorem passes_seq_iff :
    Passes (.seq p q) a g b g' ↔ ∃ m h, Passes p a g m h ∧ Passes q m h b g' := by
  constructor
  · intro h
    cases h with
    | seq hp hq => exact ⟨_, _, hp, hq⟩
  · intro h
    obtain ⟨m, h₁, hp, hq⟩ := h
    exact .seq hp hq

theorem passes_alt_iff :
    Passes (.alt p q) a g b g' ↔ Passes p a g b g' ∨ Passes q a g b g' := by
  constructor
  · intro h
    cases h with
    | altFirst hp => exact .inl hp
    | altSecond hq => exact .inr hq
  · intro h
    exact h.elim .altFirst .altSecond

theorem passes_group_iff {i : Nat} :
    Passes (.group i p) a g b g' ↔ ∃ h, Passes p a (g.enter i) b h ∧ g' = h.leave := by
  constructor
  · intro h
    cases h with
    | group hp => exact ⟨_, hp, rfl⟩
  · intro h
    obtain ⟨h₁, hp, rfl⟩ := h
    exact .group hp

end Cases

/-- The open groups when `s` was taken. -/
def Groups.grown (s : Text) (opened : List (Nat × Text)) : List (Nat × Text) :=
  opened.map fun e => (e.1, s.reverse ++ e.2)

theorem Groups.grown_nil (l : List (Nat × Text)) : grown [] l = l := by
  simp [grown]

theorem Groups.grown_append (s s' : Text) (l : List (Nat × Text)) :
    grown (s ++ s') l = grown s' (grown s l) := by
  simp [grown]

/-- A passage takes a text, and adds it to each open group. -/
theorem Passes.reads {p : Pattern} {a b : Place} {g g' : Groups} (h : Passes p a g b g') :
    ∃ s, a.Reads s b ∧ g'.opened = Groups.grown s g.opened := by
  induction h with
  | empty => exact ⟨[], Place.reads_nil _, (Groups.grown_nil _).symm⟩
  | char => exact ⟨[_], ⟨rfl, rfl⟩, rfl⟩
  | boundary => exact ⟨[], Place.reads_nil _, (Groups.grown_nil _).symm⟩
  | seq _ _ ihp ihq =>
    obtain ⟨s, hs, hg⟩ := ihp
    obtain ⟨s', hs', hg'⟩ := ihq
    exact ⟨s ++ s', hs.append hs', by rw [hg', hg, Groups.grown_append]⟩
  | altFirst _ ih => exact ih
  | altSecond _ ih => exact ih
  | manyNone => exact ⟨[], Place.reads_nil _, (Groups.grown_nil _).symm⟩
  | manyMore _ _ _ ih ihs =>
    obtain ⟨s, hs, hg⟩ := ih
    obtain ⟨s', hs', hg'⟩ := ihs
    exact ⟨s ++ s', hs.append hs', by rw [hg', hg, Groups.grown_append]⟩
  | group _ ih =>
    obtain ⟨s, hs, hg⟩ := ih
    refine ⟨s, hs, ?_⟩
    simp only [Groups.leave, hg, Groups.enter, Groups.grown, List.map_cons]

/-- Where a pattern leads does not depend on the groups. -/
theorem Passes.regroup {p : Pattern} {a b : Place} {g g' : Groups} (h : Passes p a g b g') :
    ∀ k, ∃ k', Passes p a k b k' := by
  induction h with
  | empty => exact fun k => ⟨k, .empty⟩
  | char h => exact fun k => ⟨_, .char h⟩
  | boundary h => exact fun k => ⟨k, .boundary h⟩
  | seq _ _ ihp ihq =>
    intro k
    obtain ⟨k', hp⟩ := ihp k
    obtain ⟨k'', hq⟩ := ihq k'
    exact ⟨k'', .seq hp hq⟩
  | altFirst _ ih =>
    intro k
    obtain ⟨k', hp⟩ := ih k
    exact ⟨k', .altFirst hp⟩
  | altSecond _ ih =>
    intro k
    obtain ⟨k', hq⟩ := ih k
    exact ⟨k', .altSecond hq⟩
  | manyNone => exact fun k => ⟨k, .manyNone⟩
  | manyMore _ hlt _ ih ihs =>
    intro k
    obtain ⟨k', hp⟩ := ih k
    obtain ⟨k'', hs⟩ := ihs k'
    exact ⟨k'', .manyMore hp hlt hs⟩
  | group _ ih =>
    intro k
    obtain ⟨k', hp⟩ := ih (k.enter _)
    exact ⟨k'.leave, .group hp⟩

/-- As `Passes`, for tasks done one behind the other. -/
def TasksPass : List Task → Place → Groups → Place → Groups → Prop
  | [], a, g, b, g' => b = a ∧ g' = g
  | .leave :: k, a, g, b, g' => TasksPass k a g.leave b g'
  | .pass p :: k, a, g, b, g' => ∃ m h, Passes p a g m h ∧ TasksPass k m h b g'

theorem tasksPass_append {k k' : List Task} {a b : Place} {g g' : Groups} :
    TasksPass (k ++ k') a g b g' ↔ ∃ m h, TasksPass k a g m h ∧ TasksPass k' m h b g' := by
  induction k generalizing a g with
  | nil => simp [TasksPass]
  | cons task k ih =>
    cases task with
    | leave => exact ih
    | pass p =>
      simp only [List.cons_append, TasksPass, ih]
      constructor
      · intro h
        obtain ⟨m, h₁, hp, n, h₂, hk, hk'⟩ := h
        exact ⟨n, h₂, ⟨m, h₁, hp, hk⟩, hk'⟩
      · intro h
        obtain ⟨n, h₂, ⟨m, h₁, hp, hk⟩, hk'⟩ := h
        exact ⟨m, h₁, hp, n, h₂, hk, hk'⟩

theorem TasksPass.length_le {k : List Task} {a b : Place} {g g' : Groups}
    (h : TasksPass k a g b g') : b.rest.length ≤ a.rest.length := by
  induction k generalizing a g with
  | nil => exact Nat.le_of_eq (by rw [h.1])
  | cons task k ih =>
    cases task with
    | leave => exact ih h
    | pass p =>
      obtain ⟨m, g₁, hp, hk⟩ := h
      obtain ⟨s, hs, _⟩ := hp.reads
      exact Nat.le_trans (ih hk) hs.length_le

theorem TasksPass.regroup {k : List Task} {a b : Place} {g g' : Groups}
    (h : TasksPass k a g b g') (i : Groups) : ∃ i', TasksPass k a i b i' := by
  induction k generalizing a g i with
  | nil => exact ⟨i, h.1, rfl⟩
  | cons task k ih =>
    cases task with
    | leave => exact ih h i.leave
    | pass p =>
      obtain ⟨m, g₁, hp, hk⟩ := h
      obtain ⟨i₁, hp'⟩ := hp.regroup i
      obtain ⟨i', hk'⟩ := ih hk i₁
      exact ⟨i', m, i₁, hp', hk'⟩

/-- From `a`, the move can end at `b`. -/
def Leads (a : Place) : Move → Place → Groups → Prop
  | .done g, b, g' => b = a ∧ g' = g
  | .taken k g, b, g' => ∃ c t, a.rest = c :: t ∧ TasksPass k ⟨some c, t⟩ g b g'

theorem leads_taken_append {a b : Place} {k k' : List Task} {g g' : Groups} :
    Leads a (.taken (k ++ k') g) b g' ↔
      ∃ m h, Leads a (.taken k g) m h ∧ TasksPass k' m h b g' := by
  simp only [Leads, tasksPass_append]
  constructor
  · intro h
    obtain ⟨c, t, hrest, m, h₁, hk, hk'⟩ := h
    exact ⟨m, h₁, ⟨c, t, hrest, hk⟩, hk'⟩
  · intro h
    obtain ⟨m, h₁, ⟨c, t, hrest, hk⟩, hk'⟩ := h
    exact ⟨c, t, hrest, m, h₁, hk, hk'⟩

theorem Leads.length_lt {a b : Place} {k : List Task} {g g' : Groups}
    (h : Leads a (.taken k g) b g') : b.rest.length < a.rest.length := by
  obtain ⟨c, t, hrest, hk⟩ := h
  rw [hrest]
  exact Nat.lt_succ_of_le hk.length_le

/-- Some of the moves can end at `b`. -/
def Lead (a : Place) (moves : List Move) (b : Place) (g' : Groups) : Prop :=
  ∃ m ∈ moves, Leads a m b g'

theorem lead_append {a b : Place} {l l' : List Move} {g' : Groups} :
    Lead a (l ++ l') b g' ↔ Lead a l b g' ∨ Lead a l' b g' := by
  simp only [Lead, List.mem_append, or_and_right, exists_or]

theorem lead_done {a b : Place} {g g' : Groups} : Lead a [.done g] b g' ↔ b = a ∧ g' = g := by
  simp [Lead, Leads]

theorem lead_flatMap {a b : Place} {l : List Move} {f : Move → List Move} {g' : Groups} :
    Lead a (l.flatMap f) b g' ↔ ∃ m ∈ l, Lead a (f m) b g' := by
  simp only [Lead, List.mem_flatMap]
  constructor
  · intro h
    obtain ⟨m', ⟨m, hm, hm'⟩, hlead⟩ := h
    exact ⟨m, hm, m', hm', hlead⟩
  · intro h
    obtain ⟨m, hm, m', hm', hlead⟩ := h
    exact ⟨m', ⟨m, hm, hm'⟩, hlead⟩

/-- What is done behind some moves is done where they end, if what is begun at once is begun as the
tasks say. -/
theorem lead_andThen {a b : Place} {l : List Move} {k : List Task} {next : Groups → List Move}
    {g' : Groups} (hnext : ∀ g, Lead a (next g) b g' ↔ TasksPass k a g b g') :
    Lead a (l.flatMap (Move.andThen k next)) b g' ↔
      ∃ m h, Lead a l m h ∧ TasksPass k m h b g' := by
  have hmove (m : Move) : Lead a (m.andThen k next) b g' ↔
      ∃ n h, Leads a m n h ∧ TasksPass k n h b g' := by
    cases m with
    | taken k₀ g₀ => simp only [Move.andThen, Lead, List.mem_singleton, exists_eq_left,
        leads_taken_append]
    | done g₀ => simp [Move.andThen, hnext, Leads]
  rw [lead_flatMap]
  simp only [hmove]
  constructor
  · intro h
    obtain ⟨m, hm, n, h₁, hlead, hk⟩ := h
    exact ⟨n, h₁, ⟨m, hm, hlead⟩, hk⟩
  · intro h
    obtain ⟨n, h₁, ⟨m, hm, hlead⟩, hk⟩ := h
    exact ⟨m, hm, n, h₁, hlead, hk⟩

theorem tasksPass_single {p : Pattern} {a b : Place} {g g' : Groups} :
    TasksPass [.pass p] a g b g' ↔ Passes p a g b g' := by
  constructor
  · intro h
    obtain ⟨m, h₁, hp, rfl, rfl⟩ := h
    exact hp
  · intro h
    exact ⟨b, g', h, rfl, rfl⟩

/-- The moves of a repetition are those that end behind a time that takes a character and the
repetition behind it, and the one that is done at once. -/
theorem lead_many {p : Pattern} {a b : Place} {l : List Move} {g g' : Groups}
    (hp : ∀ m h, Lead a l m h ↔ Passes p a g m h) :
    Lead a (l.flatMap (Move.andThen [.pass (many p)] fun _ => []) ++ [.done g]) b g' ↔
      Passes (many p) a g b g' := by
  rw [lead_append, lead_done, lead_flatMap]
  constructor
  · intro h
    rcases h with ⟨m, hm, hlead⟩ | ⟨rfl, rfl⟩
    · cases m with
      | done g₀ => simp [Move.andThen, Lead] at hlead
      | taken k₀ g₀ =>
        simp only [Move.andThen, Lead, List.mem_singleton, exists_eq_left, leads_taken_append,
          tasksPass_single] at hlead
        obtain ⟨n, h₁, htaken, hrest⟩ := hlead
        exact .manyMore ((hp n h₁).1 ⟨_, hm, htaken⟩) htaken.length_lt hrest
    · exact .manyNone
  · intro h
    cases h with
    | manyNone => exact .inr ⟨rfl, rfl⟩
    | @manyMore _ _ n _ _ h₁ _ hone hlt hrest =>
      obtain ⟨m, hm, hlead⟩ := (hp n h₁).2 hone
      cases m with
      | done g₀ =>
        rw [hlead.1] at hlt
        exact absurd hlt (Nat.lt_irrefl _)
      | taken k₀ g₀ =>
        refine .inl ⟨_, hm, _, List.mem_singleton_self _, ?_⟩
        exact leads_taken_append.2 ⟨n, h₁, hlead, tasksPass_single.2 hrest⟩

/-- The moves of a pattern lead where the pattern leads. -/
theorem lead_moves_iff {p : Pattern} {a b : Place} {g g' : Groups} :
    Lead a (moves a.prev a.rest.head? p g) b g' ↔ Passes p a g b g' := by
  induction p generalizing b g g' with
  | empty => rw [moves, lead_done, passes_empty_iff]
  | char cls =>
    obtain ⟨prev, rest⟩ := a
    rw [passes_char_iff]
    cases rest with
    | nil => simp [moves, Lead]
    | cons c t => by_cases hc : cls.holds c = true <;> simp [moves, Lead, Leads, TasksPass, hc]
  | boundary =>
    rw [passes_boundary_iff]
    by_cases hb : isBoundary a.prev a.rest.head? = true <;> simp [moves, Lead, Leads, hb]
  | seq p q ihp ihq =>
    rw [moves, lead_andThen fun g => by rw [ihq, tasksPass_single], passes_seq_iff]
    simp only [ihp, tasksPass_single]
  | alt p q ihp ihq => rw [moves, lead_append, ihp, ihq, passes_alt_iff]
  | many p ih =>
    rw [moves]
    exact lead_many fun m h => ih
  | group i p ih =>
    rw [moves, lead_andThen fun g => lead_done, passes_group_iff]
    simp only [ih, TasksPass]
    constructor
    · intro h
      obtain ⟨m, h₁, hp, rfl, rfl⟩ := h
      exact ⟨h₁, hp, rfl⟩
    · intro h
      obtain ⟨h₁, hp, rfl⟩ := h
      exact ⟨b, h₁, hp, rfl, rfl⟩

/-- As `lead_moves_iff`, for tasks. -/
theorem lead_tasksMoves_iff {k : List Task} {a b : Place} {g g' : Groups} :
    Lead a (tasksMoves a.prev a.rest.head? k g) b g' ↔ TasksPass k a g b g' := by
  induction k generalizing b g g' with
  | nil => exact lead_done
  | cons task k ih =>
    cases task with
    | leave => exact ih
    | pass p =>
      rw [tasksMoves, lead_andThen fun g => ih]
      simp only [lead_moves_iff, TasksPass]

end LogShift.Pattern
