import LogShift.Proofs.Toml.Scalar

/-! Documents of tables whose entries are scalars: what is written is read back, with the tables and
their entries in their order. -/
namespace LogShift.Toml

theorem isWs_eq_false {p : Char → Bool} {c : Char} (hc : p c = true) (hspace : p ' ' = false)
    (htab : p '\t' = false) : isWs c = false := by
  have hne : ∀ {d}, p d = false → c ≠ d := by
    rintro d hd rfl
    rw [hc] at hd
    cases hd
  simp [isWs, hne hspace, hne htab]

/-- A key that stands without quotes. -/
structure Bare (key : Text) : Prop where
  ne_nil : key ≠ []
  chars : ∀ c ∈ key, isBareKeyChar c = true

namespace Bare

variable {key : Text}

theorem eq_cons (h : Bare key) : ∃ c t, key = c :: t ∧ isBareKeyChar c = true := by
  obtain ⟨c, t, rfl⟩ := List.exists_cons_of_ne_nil h.ne_nil
  exact ⟨c, t, rfl, h.chars c (by simp)⟩

theorem ne_head (h : Bare key) {d : Char} (hd : isBareKeyChar d = false) (rest t : Text) :
    key ++ rest ≠ d :: t := by
  obtain ⟨c, u, rfl, hc⟩ := h.eq_cons
  intro heq
  rw [(List.cons.inj heq).1, hd] at hc
  cases hc

theorem simpleKey?_append (h : Bare key) {c : Char} (hc : isBareKeyChar c = false) (rest : Text) :
    simpleKey? (key ++ c :: rest) = some (key, c :: rest) := by
  unfold simpleKey?
  rw [Text.takeWhile_append_cons h.chars hc, Text.dropWhile_append_cons h.chars hc]
  split
  · rename_i heq
    exact absurd heq (h.ne_head rfl _ _)
  · rename_i heq
    exact absurd heq (h.ne_head rfl _ _)
  · rw [if_neg (by simpa using h.ne_nil)]

/-- A key of one part, and what follows it and its white space. -/
theorem key?_append (h : Bare key) {c : Char} (hc : isBareKeyChar c = false) (rest : Text)
    (hpoint : (skipWs (c :: rest)).head? ≠ some '.') :
    key? (key ++ c :: rest) = some ([key], skipWs (c :: rest)) := by
  have hsimple := h.simpleKey?_append hc rest
  unfold key? maxDepth keyParts?
  rw [hsimple]
  dsimp only [bind, Option.bind]
  split
  · rename_i heq
    rw [heq] at hpoint
    exact absurd rfl hpoint
  · rfl

theorem skipWs_append (h : Bare key) (rest : Text) : skipWs (key ++ rest) = key ++ rest := by
  obtain ⟨c, t, rfl, hc⟩ := h.eq_cons
  have hws : isWs c = false := isWs_eq_false hc rfl rfl
  exact List.dropWhile_cons_of_neg (by simp [hws])

end Bare

/-! ### Lines -/

theorem statement?_header {name : Text} (h : Bare name) (fuel : Nat) (rest : Text) :
    statement? fuel ('[' :: (name ++ ']' :: '\n' :: rest)) = some (.header [name], rest) := by
  have hbracket : isBareKeyChar ']' = false := rfl
  have hskip : skipWs (']' :: '\n' :: rest) = ']' :: '\n' :: rest := rfl
  have hkey := h.key?_append hbracket ('\n' :: rest) (by simp [hskip])
  unfold statement?
  split
  · rename_i r heq
    exact absurd (List.cons.inj heq).2 (h.ne_head rfl _ _)
  · rename_i r _ heq
    rw [← (List.cons.inj heq).2, h.skipWs_append, hkey, hskip]
    rfl
  · rename_i hnone
    exact absurd rfl (hnone _)

theorem head?_text (v : Scalar) (rest : Text) :
    ∃ c t, v.text ++ rest = c :: t ∧ isWs c = false := by
  cases v with
  | string s => exact ⟨'"', _, rfl, rfl⟩
  | integer n =>
    obtain ⟨c, t, htext, hc⟩ := Json.integer_eq_cons n
    refine ⟨c, t ++ rest, by simp [Scalar.text, htext], ?_⟩
    rcases hc with hc | rfl
    · exact isWs_eq_false hc rfl rfl
    · rfl
  | boolean b =>
    cases b with
    | false => exact ⟨'f', _, rfl, rfl⟩
    | true => exact ⟨'t', _, rfl, rfl⟩

theorem statement?_entry {key : Text} (h : Bare key) (v : Scalar) (fuel : Nat) (rest : Text) :
    statement? (fuel + 1) (key ++ (" = ".toList ++ (v.text ++ '\n' :: rest))) =
      some (.assign [key] v.value, rest) := by
  have hspace : isBareKeyChar ' ' = false := rfl
  have hskip : skipWs (' ' :: '=' :: ' ' :: (v.text ++ '\n' :: rest)) =
      '=' :: ' ' :: (v.text ++ '\n' :: rest) := rfl
  have hkey := h.key?_append hspace ('=' :: ' ' :: (v.text ++ '\n' :: rest)) (by simp [hskip])
  have hvalue : skipWs (' ' :: (v.text ++ '\n' :: rest)) = v.text ++ '\n' :: rest := by
    obtain ⟨c, t, htext, hc⟩ := head?_text v ('\n' :: rest)
    have hstop : (c :: t).dropWhile isWs = c :: t := List.dropWhile_cons_of_neg (by simp [hc])
    rw [htext]
    exact hstop
  show statement? (fuel + 1) (key ++ ' ' :: '=' :: ' ' :: (v.text ++ '\n' :: rest)) = _
  unfold statement?
  split
  · rename_i heq
    exact absurd heq (h.ne_head rfl _ _)
  · rename_i heq
    exact absurd heq (h.ne_head rfl _ _)
  · rw [hkey, hskip]
    dsimp only [bind, Option.bind, Text.after?]
    rw [if_pos rfl]
    dsimp only
    rw [hvalue, value?_text]
    rfl

/-- Where no white space, comment or end of line stands nothing is skipped. -/
theorem skipTrivia?_cons {p : Char → Bool} {c : Char} (hc : p c = true)
    (hp : ∀ d ∈ [' ', '\t', '\n', '\r', '#'], p d = false) (t : Text) :
    skipTrivia? false (c :: t) = some (c :: t) := by
  have hne : ∀ d ∈ [' ', '\t', '\n', '\r', '#'], c ≠ d := by
    intro d hd h
    have hd := hp d hd
    rw [← h, hc] at hd
    cases hd
  have hws : isWs c = false := isWs_eq_false hc (hp _ (by simp)) (hp _ (by simp))
  rw [skipTrivia?.eq_def]
  split
  · rename_i h
    cases h
  · rename_i h
    exact absurd (List.cons.inj h).1 (hne _ (by simp))
  · rename_i h
    exact absurd (List.cons.inj h).1 (hne _ (by simp))
  · rename_i h _
    cases h
  · rename_i h
    obtain ⟨rfl, rfl⟩ := h
    rw [if_neg (hne _ (by simp)), if_neg (by simp [hws])]

theorem statements?_cons {fuel : Nat} {c : Char} {t rest : Text} {s : Statement}
    (hskip : skipTrivia? false (c :: t) = some (c :: t))
    (hs : statement? (fuel + 1) (c :: t) = some (s, rest)) :
    statements? (fuel + 1) (c :: t) = (statements? fuel rest).map (s :: ·) := by
  rw [statements?, hskip]
  dsimp only [bind, Option.bind]
  rw [hs]

theorem statements?_newline (fuel : Nat) (t : Text) :
    statements? fuel ('\n' :: t) = statements? fuel t := by
  cases fuel <;> rfl

/-! ### Statements -/

def entryStatements (entries : List (String × Scalar)) : List Statement :=
  entries.map fun (key, v) => .assign [key.toList] v.value

theorem statements?_entryLines {entries : List (String × Scalar)}
    (h : ∀ e ∈ entries, Bare e.1.toList) (fuel : Nat) (rest : Text) :
    statements? (fuel + entries.length) (entryLines entries ++ rest) =
      (statements? fuel rest).map (entryStatements entries ++ ·) := by
  induction entries with
  | nil => simp [entryLines, entryStatements]
  | cons e entries ih =>
    obtain ⟨key, v⟩ := e
    have hbare : Bare key.toList := h (key, v) (by simp)
    have hrest := ih fun e he => h e (by simp [he])
    have hline : entryLines ((key, v) :: entries) ++ rest =
        key.toList ++ (" = ".toList ++ (v.text ++ '\n' :: (entryLines entries ++ rest))) := by
      simp [entryLines]
    have hs := statement?_entry hbare v (fuel + entries.length) (entryLines entries ++ rest)
    obtain ⟨c, t, hkey, hc⟩ := hbare.eq_cons
    rw [hline, List.length_cons, ← Nat.add_assoc]
    rw [hkey, List.cons_append] at hs ⊢
    rw [statements?_cons (skipTrivia?_cons hc (by simp [isBareKeyChar]) _) hs, hrest, Option.map_map,
      ← hkey]
    rfl

def sectionStatements (sections : List (String × List (String × Scalar))) : List Statement :=
  sections.flatMap fun (name, entries) => .header [name.toList] :: entryStatements entries

theorem sectionLines_cons (name : String) (entries : List (String × Scalar))
    (sections : List (String × List (String × Scalar))) :
    sectionLines ((name, entries) :: sections) =
      '[' :: (name.toList ++ ']' :: '\n' :: (entryLines entries ++
        if sections.isEmpty then [] else '\n' :: sectionLines sections)) := by
  cases sections <;> simp [sectionLines]

/-- The names and keys of tables are bare, and no two tables or entries of a table have the same. -/
structure Plain (sections : List (String × List (String × Scalar))) : Prop where
  names : (sections.map fun s => s.1.toList).Nodup
  name_bare : ∀ s ∈ sections, Bare s.1.toList
  keys : ∀ s ∈ sections, (s.2.map fun e => e.1.toList).Nodup
  key_bare : ∀ s ∈ sections, ∀ e ∈ s.2, Bare e.1.toList

theorem Plain.tail {s : String × List (String × Scalar)}
    {sections : List (String × List (String × Scalar))} (h : Plain (s :: sections)) :
    Plain sections where
  names := (List.nodup_cons.mp h.names).2
  name_bare := fun s hs => h.name_bare s (by simp [hs])
  keys := fun s hs => h.keys s (by simp [hs])
  key_bare := fun s hs => h.key_bare s (by simp [hs])

theorem statements?_sectionLines {sections : List (String × List (String × Scalar))}
    (h : Plain sections) (fuel : Nat) :
    statements? (fuel + 1 + (sectionStatements sections).length) (sectionLines sections) =
      some (sectionStatements sections) := by
  induction sections with
  | nil => rfl
  | cons s sections ih =>
    obtain ⟨name, entries⟩ := s
    have hname : Bare name.toList := h.name_bare (name, entries) (by simp)
    have hentries := statements?_entryLines (h.key_bare (name, entries) (by simp))
      (fuel + 1 + (sectionStatements sections).length)
      (if sections.isEmpty then [] else '\n' :: sectionLines sections)
    have hrest : statements? (fuel + 1 + (sectionStatements sections).length)
        (if sections.isEmpty then [] else '\n' :: sectionLines sections) =
        some (sectionStatements sections) := by
      cases sections with
      | nil => rfl
      | cons s sections => exact (statements?_newline _ _).trans (ih h.tail)
    have hfuel : fuel + 1 + (sectionStatements ((name, entries) :: sections)).length =
        fuel + 1 + (sectionStatements sections).length + entries.length + 1 := by
      simp [sectionStatements, entryStatements]
      omega
    rw [hfuel, sectionLines_cons, statements?_cons
      (skipTrivia?_cons (p := (· == '[')) rfl (by simp) _) (statement?_header hname _ _),
      hentries, hrest]
    rfl

/-! ### Tables -/

theorem alter?_new {key : Text} {entries : Entries} (h : key ∉ entries.map Prod.fst)
    (f : Option Value → Option Value) :
    alter? key f entries = (f none).map fun v => entries ++ [(key, v)] := by
  induction entries with
  | nil => rfl
  | cons e entries ih =>
    rw [List.map_cons, List.mem_cons, not_or] at h
    rw [alter?, if_neg (Ne.symm h.1), ih h.2, Option.map_map]
    rfl

theorem alter?_last {key : Text} {entries : Entries} (h : key ∉ entries.map Prod.fst)
    (f : Option Value → Option Value) (v : Value) :
    alter? key f (entries ++ [(key, v)]) = (f (some v)).map fun v => entries ++ [(key, v)] := by
  induction entries with
  | nil => simp [alter?]
  | cons e entries ih =>
    rw [List.map_cons, List.mem_cons, not_or] at h
    rw [List.cons_append, alter?, if_neg (Ne.symm h.1), ih h.2, Option.map_map]
    rfl

theorem openTable?_new {name : Text} {root : Entries} (h : name ∉ root.map Prod.fst) :
    openTable? [name] root = some (root ++ [(name, .table .header [])]) := by
  show alter? name _ root = _
  rw [alter?_new h]
  rfl

theorem within?_assign {name key : Text} {root inner : Entries} (hname : name ∉ root.map Prod.fst)
    (hkey : key ∉ inner.map Prod.fst) (v : Value) :
    within? .implied (assign? [key] v) [name] .header
      (root ++ [(name, .table .header inner)]) =
      some (root ++ [(name, .table .header (inner ++ [(key, v)]))]) := by
  have hassign : assign? [key] v .header inner = some (inner ++ [(key, v)]) := by
    have hinsert : insert? key v inner = some (inner ++ [(key, v)]) := by
      rw [insert?, alter?_new hkey]
      rfl
    simp [assign?, within?, hinsert]
  rw [within?, alter?_last hname]
  simp [within?, hassign]

/-- The entries of a table. -/
def entryValues (entries : List (String × Scalar)) : Entries :=
  entries.map fun (key, v) => (key.toList, v.value)

/-- The tables of a document. -/
def sectionValues (sections : List (String × List (String × Scalar))) : Entries :=
  sections.map fun (name, entries) => (name.toList, .table .header (entryValues entries))

theorem buildFrom?_entries {name : Text} {root inner : Entries}
    (hname : name ∉ root.map Prod.fst) {entries : List (String × Scalar)}
    (h : (inner.map Prod.fst ++ entries.map fun e => e.1.toList).Nodup) (rest : List Statement) :
    buildFrom? [name] (entryStatements entries ++ rest) (root ++ [(name, .table .header inner)]) =
      buildFrom? [name] rest
        (root ++ [(name, .table .header (inner ++ entryValues entries))]) := by
  induction entries generalizing inner with
  | nil => simp [entryStatements, entryValues]
  | cons e entries ih =>
    obtain ⟨key, v⟩ := e
    have hkey : key.toList ∉ inner.map Prod.fst := by
      intro hmem
      exact (List.nodup_append.mp h).2.2 _ hmem _ (by simp) rfl
    have hnodup : ((inner ++ [(key.toList, v.value)]).map Prod.fst ++
        entries.map fun e => e.1.toList).Nodup := by
      simpa using h
    show (within? .implied (assign? [key.toList] v.value) [name] .header
      (root ++ [(name, .table .header inner)])).bind
        (buildFrom? [name] (entryStatements entries ++ rest)) = _
    rw [within?_assign hname hkey, Option.bind_some, ih hnodup]
    simp [entryValues]

theorem buildFrom?_sections {root : Entries} {sections : List (String × List (String × Scalar))}
    (h : Plain sections) (hroot : (root.map Prod.fst ++ sections.map fun s => s.1.toList).Nodup)
    (current : List Text) :
    buildFrom? current (sectionStatements sections) root =
      some (root ++ sectionValues sections) := by
  induction sections generalizing root current with
  | nil => simp [sectionStatements, sectionValues, buildFrom?]
  | cons s sections ih =>
    obtain ⟨name, entries⟩ := s
    have hname : name.toList ∉ root.map Prod.fst := by
      intro hmem
      exact (List.nodup_append.mp hroot).2.2 _ hmem _ (by simp) rfl
    have hkeys : (([] : Entries).map Prod.fst ++ entries.map fun e => e.1.toList).Nodup :=
      h.keys (name, entries) (by simp)
    have hnodup : ((root ++ [(name.toList, Value.table .header (entryValues entries))]).map
        Prod.fst ++ sections.map fun s => s.1.toList).Nodup := by
      simpa using hroot
    show (openTable? [name.toList] root).bind (buildFrom? [name.toList]
      (entryStatements entries ++ sectionStatements sections)) = _
    rw [openTable?_new hname, Option.bind_some, buildFrom?_entries hname hkeys, List.nil_append,
      ih h.tail hnodup]
    simp [sectionValues]

/-! ### Documents -/

theorem length_entryStatements_le (entries : List (String × Scalar)) :
    (entryStatements entries).length ≤ (entryLines entries).length := by
  induction entries with
  | nil => exact Nat.zero_le _
  | cons e entries ih =>
    simp [entryStatements, entryLines] at ih ⊢
    omega

theorem length_sectionStatements_le (sections : List (String × List (String × Scalar))) :
    (sectionStatements sections).length ≤ (sectionLines sections).length := by
  induction sections with
  | nil => exact Nat.zero_le _
  | cons s sections ih =>
    obtain ⟨name, entries⟩ := s
    have hentries := length_entryStatements_le entries
    rw [sectionLines_cons]
    cases sections <;> simp [sectionStatements] at ih ⊢ <;> omega

/-- A document of plain tables is read as these tables. -/
theorem read?_sectionLines {sections : List (String × List (String × Scalar))}
    (h : Plain sections) :
    read? (sectionLines sections) = some (.table .header (sectionValues sections)) := by
  have hlength := length_sectionStatements_le sections
  have hstatements := statements?_sectionLines h
    ((sectionLines sections).length - (sectionStatements sections).length)
  rw [show (sectionLines sections).length - (sectionStatements sections).length + 1 +
    (sectionStatements sections).length = (sectionLines sections).length + 1 by omega]
    at hstatements
  have hbuild : buildFrom? [] (sectionStatements sections) [] = some (sectionValues sections) :=
    buildFrom?_sections h (by simpa using h.names) []
  have hmark : read? (sectionLines sections) =
      (statements? ((sectionLines sections).length + 1) (sectionLines sections)).bind build? := by
    cases sections with
    | nil => rfl
    | cons s sections =>
      obtain ⟨name, entries⟩ := s
      rw [sectionLines_cons]
      rfl
  rw [hmark, hstatements, Option.bind_some, build?, hbuild]
  rfl

end LogShift.Toml
