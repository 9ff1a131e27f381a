import LogShift.Proofs.Pattern.Passes

/-! The search finds the first match: dropping ways with equal tasks loses none that is preferred,
so the result is the first of all ways, taken place by place in the order of preference. -/
namespace LogShift.Pattern

/-- The groups at the ends of a move, where `next` gives those of what is left to do. -/
def Move.results (next : List Task → Groups → List Groups) : Move → List Groups
  | taken k g => next k g
  | done g => [g]

/-- The groups at the ends of all ways through some tasks, the preferred first. -/
def runs : Text → Option Char → List Task → Groups → List Groups
  | [], prev, k, g => (tasksMoves prev none k g).flatMap (Move.results fun _ _ => [])
  | c :: t, prev, k, g => (tasksMoves prev (some c) k g).flatMap (Move.results (runs t (some c)))

theorem mem_results_iff {next : List Task → Groups → List Groups} {a : Place} {l : List Move}
    {g' : Groups} (hnext : ∀ k g, g' ∈ next k g ↔ ∃ b, Leads a (.taken k g) b g') :
    g' ∈ l.flatMap (Move.results next) ↔ ∃ b, Lead a l b g' := by
  have hmove (m : Move) : g' ∈ m.results next ↔ ∃ b, Leads a m b g' := by
    cases m with
    | taken k g => exact hnext k g
    | done g => simp [Move.results, Leads]
  simp only [List.mem_flatMap, hmove, Lead]
  constructor
  · intro h
    obtain ⟨m, hm, b, hlead⟩ := h
    exact ⟨b, m, hm, hlead⟩
  · intro h
    obtain ⟨b, m, hm, hlead⟩ := h
    exact ⟨m, hm, b, hlead⟩

theorem mem_runs_iff {t : Text} {prev : Option Char} {k : List Task} {g g' : Groups} :
    g' ∈ runs t prev k g ↔ ∃ b, TasksPass k ⟨prev, t⟩ g b g' := by
  induction t generalizing prev k g with
  | nil =>
    simp only [← lead_tasksMoves_iff]
    apply mem_results_iff
    intro k g
    simp [Leads]
  | cons c t ih =>
    simp only [← lead_tasksMoves_iff]
    apply mem_results_iff
    intro k g
    rw [ih]
    simp [Leads]

/-- Whether there is a way does not depend on the groups. -/
def GroupsFree (next : List Task → Groups → List Groups) : Prop :=
  ∀ k g g', next k g = [] → next k g' = []

theorem groupsFree_runs (t : Text) (prev : Option Char) : GroupsFree (runs t prev) := by
  intro k g g' h
  rw [List.eq_nil_iff_forall_not_mem] at h ⊢
  intro i hi
  obtain ⟨b, hb⟩ := mem_runs_iff.1 hi
  obtain ⟨i', hb'⟩ := hb.regroup g
  exact h i' (mem_runs_iff.2 ⟨b, hb'⟩)

/-- What the threads come to, where `next` gives what tasks come to. -/
def ends (next : List Task → Groups → List Groups) (threads : List Thread) : List Groups :=
  threads.flatMap fun th => next th.tasks th.groups

theorem ends_append (next : List Task → Groups → List Groups) (l l' : List Thread) :
    ends next (l ++ l') = ends next l ++ ends next l' := by
  simp [ends]

/-- A thread that has the same tasks as one before it does not come first. -/
theorem head?_ends_append {next : List Task → Groups → List Groups} (hnext : GroupsFree next)
    {kept : List Thread} {k : List Task} (g : Groups) (hk : ∃ th ∈ kept, th.tasks = k)
    (l : List Groups) :
    (ends next kept ++ (next k g ++ l)).head? = (ends next kept ++ l).head? := by
  obtain ⟨th, hth, rfl⟩ := hk
  cases hends : ends next kept with
  | cons g' l' => rfl
  | nil =>
    have hnil : next th.tasks th.groups = [] := List.flatMap_eq_nil_iff.1 hends th hth
    rw [hnext _ _ g hnil, List.nil_append]

/-- Sifting keeps what comes first. -/
theorem sift_head? {next : List Task → Groups → List Groups} (hnext : GroupsFree next)
    (moves : List Move) (kept : List Thread) :
    (ends next (sift kept moves).1).head?.or (sift kept moves).2 =
      (ends next kept.reverse ++ moves.flatMap (Move.results next)).head? := by
  induction moves generalizing kept with
  | nil => simp [sift]
  | cons m moves ih =>
    cases m with
    | done g => simp [sift, Move.results, List.head?_append]
    | taken k g =>
      rw [sift]
      split
      · next hany =>
        have hk : ∃ th ∈ kept.reverse, th.tasks = k := by simpa using hany
        rw [ih, List.flatMap_cons, Move.results, head?_ends_append hnext g hk]
      · rw [ih]
        simp [ends, Move.results]

/-- At the end of the text, a step gives what comes first. -/
theorem step_nil (prev : Option Char) (threads : List Thread) :
    (step prev none threads).2 = (ends (runs [] prev) threads).head? := by
  have hnone : GroupsFree fun _ _ => [] := fun _ _ _ _ => rfl
  have hsift := sift_head? hnone
    (threads.flatMap fun th => tasksMoves prev none th.tasks th.groups) []
  have hempty (l : List Thread) : ends (fun _ _ => []) l = [] :=
    List.flatMap_eq_nil_iff.2 fun _ _ => rfl
  rw [hempty, hempty, List.flatMap_assoc] at hsift
  exact hsift

/-- Before a character, a step keeps what comes first. -/
theorem step_cons (prev : Option Char) (c : Char) (t : Text) (threads : List Thread) :
    (ends (runs t (some c)) (step prev (some c) threads).1).head?.or
        (step prev (some c) threads).2 = (ends (runs (c :: t) prev) threads).head? := by
  have hsift := sift_head? (groupsFree_runs t (some c))
    (threads.flatMap fun th => tasksMoves prev (some c) th.tasks th.groups) []
  rw [List.flatMap_assoc] at hsift
  exact hsift

/-- The places of a text from one on, the first first. -/
def places (prev : Option Char) : Text → List Place
  | [] => [⟨prev, []⟩]
  | c :: t => ⟨prev, c :: t⟩ :: places (some c) t

/-- The groups of all matches, place by place and the preferred first. -/
def starts (p : Pattern) (l : List Place) : List Groups :=
  l.flatMap fun a => runs a.rest a.prev [.pass p] .start

theorem ends_start (p : Pattern) (t : Text) (prev : Option Char) (threads : List Thread) :
    ends (runs t prev) (threads ++ [⟨[.pass p], .start⟩]) =
      ends (runs t prev) threads ++ starts p [⟨prev, t⟩] := by
  rw [ends_append]
  rfl

/-- What was found is kept unless a thread in hand comes to something. -/
theorem searchFrom_some (p : Pattern) (t : Text) (prev : Option Char) (threads : List Thread)
    (g : Groups) :
    searchFrom p prev threads (some g) t = (ends (runs t prev) threads).head?.or (some g) := by
  induction t generalizing prev threads g with
  | nil => exact congrArg (Option.or · (some g)) (step_nil prev threads)
  | cons c t ih =>
    have hstep := step_cons prev c t threads
    simp only [searchFrom, Option.isNone_some, Bool.false_eq_true, if_false]
    cases hbetter : (step prev (some c) threads).2 with
    | none =>
      rw [hbetter, Option.or_none] at hstep
      rw [Option.none_or, ih, hstep]
    | some g' =>
      rw [hbetter] at hstep
      rw [Option.some_or, ih, ← hstep, Option.or_assoc, Option.some_or]

/-- As long as nothing is found, the threads in hand come before the ones that start later. -/
theorem searchFrom_none (p : Pattern) (t : Text) (prev : Option Char) (threads : List Thread) :
    searchFrom p prev threads none t =
      (ends (runs t prev) threads ++ starts p (places prev t)).head? := by
  induction t generalizing prev threads with
  | nil =>
    simp only [searchFrom, Option.isNone_none, if_true, Option.or_none]
    rw [step_nil, ends_start]
    rfl
  | cons c t ih =>
    have hstep := step_cons prev c t (threads ++ [⟨[.pass p], .start⟩])
    simp only [searchFrom, Option.isNone_none, if_true, Option.or_none]
    have hsplit : ends (runs (c :: t) prev) threads ++ starts p (places prev (c :: t)) =
        ends (runs (c :: t) prev) (threads ++ [⟨[.pass p], .start⟩]) ++
          starts p (places (some c) t) := by
      rw [ends_start, List.append_assoc]
      simp [starts, places]
    rw [hsplit, List.head?_append, ← hstep]
    cases (step prev (some c) (threads ++ [⟨[.pass p], .start⟩])).2 with
    | none => rw [ih, List.head?_append, Option.or_none]
    | some g => rw [searchFrom_some, Option.or_assoc, Option.some_or]

theorem search?_eq_head? (p : Pattern) (t : Text) :
    p.search? t = (starts p (places none t)).head? :=
  searchFrom_none p t none []

end LogShift.Pattern
