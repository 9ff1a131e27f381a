import LogShift.Files.Basic
import LogShift.Proofs.Text

/-! A file that could be written is read back: writing leaves all directories in place, so the same
path leads to the same file. -/
namespace LogShift.Files

variable {fs fs' : Files} {place start : Place}

theorem node?_set (hplace : place ≠ []) (node : FileNode) :
    (fs.set place node).node? place = some node := by
  simp [node?, set, hplace]

theorem lookup_filter_ne (nodes : List (Place × FileNode)) {q : Place} (h : q ≠ place) :
    (nodes.filter fun (p, _) => p ≠ place).lookup q = nodes.lookup q := by
  induction nodes with
  | nil => rfl
  | cons entry nodes ih =>
    obtain ⟨p, node⟩ := entry
    by_cases hp : p = place
    · have hq : (q == p) = false := by simpa [hp] using h
      rw [List.filter_cons_of_neg (by simpa using hp), List.lookup_cons, hq, ih]
    · rw [List.filter_cons_of_pos (by simpa using hp), List.lookup_cons, List.lookup_cons, ih]

theorem node?_set_of_ne (node : FileNode) {q : Place} (h : q ≠ place) :
    (fs.set place node).node? q = fs.node? q := by
  have hne : (q == place) = false := by simpa using h
  unfold node? set
  simp only [List.lookup_cons, hne]
  rw [lookup_filter_ne fs.nodes h]

theorem walk_append (fs : Files) (start : Place) (names names' : List Text) :
    fs.walk start (names ++ names') = (fs.walk start names).bind (fs.walk · names') := by
  induction names generalizing start with
  | nil => rfl
  | cons name names ih =>
    rw [List.cons_append, walk, walk]
    cases fs.node? start with
    | none => rfl
    | some node =>
      cases node with
      | file content => rfl
      | directory =>
        cases hplace : enter start name with
        | error fault => rfl
        | ok next => exact ih next

/-- A walk passes through directories only. -/
theorem walk_mono (hfs : ∀ q, fs.node? q = some .directory → fs'.node? q = some .directory)
    {names : List Text} (h : fs.walk start names = .ok place) :
    fs'.walk start names = .ok place := by
  induction names generalizing start with
  | nil => exact h
  | cons name names ih =>
    rw [walk] at h ⊢
    cases hnode : fs.node? start with
    | none => simp [hnode] at h
    | some node =>
      cases node with
      | file content => simp [hnode] at h
      | directory =>
        rw [hnode] at h
        rw [hfs start hnode]
        obtain ⟨next, hnext, hwalk⟩ := bind_eq_ok_iff.mp h
        exact bind_eq_ok_iff.mpr ⟨next, hnext, ih hwalk⟩

/-- The place of a new file: a name in a directory, and no directory itself. -/
theorem creationPlace_eq_ok {path : Text} (h : fs.creationPlace path = .ok place) :
    checkPath path = .ok () ∧ Path.endsInSlash path = false ∧
    fs.node? place ≠ some .directory ∧ ∃ parent name,
      fs.walk (fs.startOf path) (Path.names path).dropLast = .ok parent ∧
      fs.node? parent = some .directory ∧ (Path.names path).getLast? = some name ∧
      enter parent name = .ok place ∧ place = parent ++ [name] := by
  simp only [creationPlace, bind, bind_eq_ok_iff] at h
  obtain ⟨⟨⟩, hcheck, parent, hparent, h⟩ := h
  cases hnode : fs.node? parent with
  | none => simp [hnode] at h
  | some node =>
    cases node with
    | file content => simp [hnode] at h
    | directory =>
      cases hlast : (Path.names path).getLast? with
      | none => simp [hnode, hlast] at h
      | some name =>
        simp only [hnode, hlast] at h
        obtain ⟨hname, h⟩ := guard_eq_ok_iff.mp h
        obtain ⟨found, henter, h⟩ := bind_eq_ok_iff.mp h
        obtain ⟨hfree, h⟩ := guard_eq_ok_iff.mp h
        cases h
        simp only [not_or, Bool.not_eq_true] at hname
        obtain ⟨hpoint, hpoints, hslash⟩ := hname
        have hplace := henter
        rw [enter, if_neg hpoint, if_neg hpoints, guard_eq_ok_iff] at hplace
        exact ⟨hcheck, hslash, hfree, parent, name, hparent, hnode, rfl, henter,
          (Except.ok.inj hplace.2).symm⟩

/-- What has been written to a path is read from it. -/
theorem read_write {path : Text} {content : Bytes} (h : fs.write path content = .ok fs') :
    fs'.read path = .ok content := by
  unfold write at h
  cases hplace : fs.creationPlace path with
  | error fault =>
    rw [hplace] at h
    cases h
  | ok place =>
    rw [hplace] at h
    cases h
    obtain ⟨hcheck, hslash, hfree, parent, name, hwalk, hparent, hlast, henter, heq⟩ :=
      creationPlace_eq_ok hplace
    have hkept : ∀ q, fs.node? q = some .directory →
        (fs.set place (.file content)).node? q = some .directory := by
      intro q hq
      have hne : q ≠ place := by
        intro heq
        exact hfree (heq ▸ hq)
      rw [node?_set_of_ne _ hne, hq]
    have hnode : (fs.set place (.file content)).node? place = some (.file content) :=
      node?_set (by simp [heq]) _
    obtain ⟨front, hnames⟩ := List.getLast?_eq_some_iff.mp hlast
    rw [hnames, List.dropLast_concat] at hwalk
    have hfound : (fs.set place (.file content)).walk (fs.startOf path) (Path.names path) =
        .ok place := by
      rw [hnames, walk_append, walk_mono hkept hwalk]
      show walk _ parent [name] = _
      rw [walk, hkept parent hparent]
      exact bind_eq_ok_iff.mpr ⟨place, henter, rfl⟩
    have hlookup : (fs.set place (.file content)).lookup path = .ok (.file content) := by
      unfold lookup
      simp only [bind, bind_eq_ok_iff]
      refine ⟨(), hcheck, place, hfound, ?_⟩
      simp [hnode, hslash]
    unfold read
    rw [hlookup]
    rfl

end LogShift.Files
