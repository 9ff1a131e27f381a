import LogShift.Proofs.Text

/-! The words of a text are its maximal runs without white space, in their order. -/
namespace LogShift.Text

/-- Between `before` and `after` the text `word` is a maximal run without white space. -/
structure IsWord (before word after : Text) : Prop where
  ne_nil : word ≠ []
  solid : ∀ c ∈ word, isWhiteSpace c = false
  left : ∀ c ∈ before.getLast?, isWhiteSpace c = true
  right : ∀ c ∈ after.head?, isWhiteSpace c = true

theorem wordsFrom_append {word s : Text} (hs : ∀ c ∈ s, isWhiteSpace c = false) (t : Text) :
    wordsFrom word (s ++ t) = wordsFrom (word ++ s) t := by
  induction s generalizing word with
  | nil => simp
  | cons c s ih =>
    rw [List.cons_append, wordsFrom, hs c (by simp), if_neg (by simp),
      ih fun a ha => hs a (by simp [ha]), List.append_assoc, List.singleton_append]

theorem words_cons_white {c : Char} (hc : isWhiteSpace c = true) (t : Text) :
    words (c :: t) = words t := by
  simp [words, wordsFrom, hc]

theorem words_white {s : Text} (hs : ∀ c ∈ s, isWhiteSpace c = true) (t : Text) :
    words (s ++ t) = words t := by
  induction s with
  | nil => rfl
  | cons c s ih =>
    rw [List.cons_append, words_cons_white (hs c (by simp)), ih fun a ha => hs a (by simp [ha])]

/-- A run without white space at the front of a text is its first word. -/
theorem words_append {word after : Text} (hne : word ≠ [])
    (hsolid : ∀ c ∈ word, isWhiteSpace c = false)
    (hright : ∀ c ∈ after.head?, isWhiteSpace c = true) :
    words (word ++ after) = word :: words after := by
  rw [words, wordsFrom_append hsolid, List.nil_append]
  cases after with
  | nil => simp [wordsFrom, words, hne]
  | cons c after => simp [wordsFrom, words, hne, hright c rfl]

/-- A cut behind white space parts no word; the run in hand must have ended before it. -/
theorem wordsFrom_append_of_left {word before : Text} (hword : before = [] → word = [])
    (hleft : ∀ c ∈ before.getLast?, isWhiteSpace c = true) (t : Text) :
    wordsFrom word (before ++ t) = wordsFrom word before ++ words t := by
  induction before generalizing word with
  | nil =>
    rw [hword rfl]
    rfl
  | cons c before ih =>
    have hlast : ∀ a ∈ before.getLast?, isWhiteSpace a = true := by
      intro a ha
      refine hleft a ?_
      rw [List.getLast?_cons, Option.mem_def.mp ha]
      rfl
    cases hc : isWhiteSpace c with
    | true =>
      have hwords := @ih [] (fun _ => rfl) hlast
      cases word <;> simp [wordsFrom, hc, hwords]
    | false =>
      have hne : before ≠ [] := by
        rintro rfl
        rw [hleft c rfl] at hc
        cases hc
      simpa [wordsFrom, hc] using @ih (word ++ [c]) (fun h => absurd h hne) hlast

/-- The first word of a text stands behind white space alone. -/
theorem words_eq_cons {t word : Text} {later : List Text} (h : words t = word :: later) :
    ∃ space after, t = space ++ (word ++ after) ∧ (∀ c ∈ space, isWhiteSpace c = true) ∧
      IsWord space word after ∧ words after = later := by
  induction t with
  | nil => cases h
  | cons c t ih =>
    cases hc : isWhiteSpace c with
    | true =>
      rw [words_cons_white hc] at h
      obtain ⟨space, after, rfl, hspace, hword, hlater⟩ := ih h
      have hspace : ∀ a ∈ c :: space, isWhiteSpace a = true := by simpa [hc] using hspace
      exact ⟨c :: space, after, rfl, hspace, ⟨hword.ne_nil, hword.solid,
        fun a ha => hspace a (List.mem_of_mem_getLast? ha), hword.right⟩, hlater⟩
    | false =>
      let solid : Char → Bool := fun a => !isWhiteSpace a
      have hsolid : ∀ a ∈ c :: t.takeWhile solid, isWhiteSpace a = false := by
        intro a ha
        cases ha with
        | head => exact hc
        | tail _ ha => simpa [solid] using List.mem_takeWhile_imp ha
      have hright : ∀ a ∈ (t.dropWhile solid).head?, isWhiteSpace a = true := by
        intro a ha
        simpa [solid] using
          dropWhile_eq_self_iff_head?.mp (List.dropWhile_idempotent solid t) a ha
      have ht : c :: t = (c :: t.takeWhile solid) ++ t.dropWhile solid := by
        rw [List.cons_append, List.takeWhile_append_dropWhile]
      rw [ht, words_append (List.cons_ne_nil _ _) hsolid hright] at h
      obtain ⟨rfl, hlater⟩ := List.cons.inj h
      exact ⟨[], t.dropWhile solid, ht, by simp, ⟨List.cons_ne_nil _ _, hsolid, by simp, hright⟩,
        hlater⟩

/-- A text has its words where they stand as maximal runs, each between the words before it and
those behind it. -/
theorem words_eq_append_cons_iff {t word : Text} {earlier later : List Text} :
    words t = earlier ++ word :: later ↔ ∃ before after, t = before ++ (word ++ after) ∧
      IsWord before word after ∧ words before = earlier ∧ words after = later := by
  constructor
  · intro h
    induction earlier generalizing t with
    | nil =>
      obtain ⟨space, after, ht, hspace, hword, hlater⟩ := words_eq_cons h
      refine ⟨space, after, ht, hword, ?_, hlater⟩
      rw [← List.append_nil space, words_white hspace]
      rfl
    | cons first earlier ih =>
      obtain ⟨space, rest, rfl, hspace, hfirst, hrest⟩ := words_eq_cons h
      obtain ⟨before, after, rfl, hword, rfl, rfl⟩ := ih hrest
      -- The next word is not glued to the first one.
      have hbefore : before ≠ [] := by
        rintro rfl
        obtain ⟨c, s, hs⟩ := List.exists_cons_of_ne_nil hword.ne_nil
        have hwhite := hfirst.right c (by simp [hs])
        rw [hword.solid c (by simp [hs])] at hwhite
        cases hwhite
      have hright : ∀ c ∈ before.head?, isWhiteSpace c = true := by
        rw [← List.head?_append_of_ne_nil _ hbefore]
        exact hfirst.right
      refine ⟨space ++ (first ++ before), after, by simp, ?_, ?_, rfl⟩
      · refine ⟨hword.ne_nil, hword.solid, ?_, hword.right⟩
        rw [List.getLast?_append_of_ne_nil _ (by simp [hbefore]),
          List.getLast?_append_of_ne_nil _ hbefore]
        exact hword.left
      · rw [words_white hspace, words_append hfirst.ne_nil hfirst.solid hright]
  · intro h
    obtain ⟨before, after, rfl, hword, rfl, rfl⟩ := h
    rw [words, wordsFrom_append_of_left (fun _ => rfl) hword.left,
      words_append hword.ne_nil hword.solid hword.right]
    rfl

theorem mem_words_iff {t word : Text} :
    word ∈ words t ↔ ∃ before after, t = before ++ (word ++ after) ∧ IsWord before word after := by
  constructor
  · intro h
    obtain ⟨earlier, later, h⟩ := List.append_of_mem h
    obtain ⟨before, after, ht, hword, -, -⟩ := words_eq_append_cons_iff.mp h
    exact ⟨before, after, ht, hword⟩
  · intro h
    obtain ⟨before, after, ht, hword⟩ := h
    rw [words_eq_append_cons_iff.mpr ⟨before, after, ht, hword, rfl, rfl⟩]
    exact List.mem_append_cons_self

end LogShift.Text
