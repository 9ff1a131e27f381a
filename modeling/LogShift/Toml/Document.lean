import LogShift.Toml.Value

/-! Documents: what headers and keys build. A key is written once, a table is opened once, and what
stands in braces is closed. -/
namespace LogShift.Toml

/-- A line of a document. -/
inductive Statement where
  | header (path : List Text)
  | arrayHeader (path : List Text)
  | assign (path : List Text) (value : Value)

/-- Changes the value at a key, or adds one behind the others. -/
def alter? (key : Text) (f : Option Value → Option Value) : Entries → Option Entries
  | [] => (f none).map fun v => [(key, v)]
  | (k, v) :: rest =>
    if k = key then (f (some v)).map fun v => (k, v) :: rest
    else (alter? key f rest).map ((k, v) :: ·)

/-- Changes the table at the end of a path. Tables on the way are made as `made` says. A key with
points does not enter tables that have a header, and the tables that it enters count as made by it. -/
def within? (made : Origin) (f : Origin → Entries → Option Entries) :
    List Text → Origin → Entries → Option Entries
  | [], origin, entries => f origin entries
  | key :: path, _, entries =>
    alter? key (fun
      | none => (within? made f path made []).map (.table made)
      | some (.table origin inner) =>
        if origin = .inline ∨ (made = .dotted ∧ origin = .header) then none
        else
          let origin := if made = .dotted then .dotted else origin
          (within? made f path origin inner).map (.table origin)
      | some (.tables items) =>
        match items.getLast? with
        | none => none
        | some last => (within? made f path .header last).map fun inner =>
          .tables (items.dropLast ++ [inner])
      | some _ => none) entries

/-- Adds a value that must be new. -/
def insert? (key : Text) (v : Value) (entries : Entries) : Option Entries :=
  alter? key (fun
    | none => some v
    | some _ => none) entries

/-- Adds a value at a key with points, which leads through tables made by such keys only. -/
def assign? (path : List Text) (v : Value) (origin : Origin) (entries : Entries) :
    Option Entries :=
  match path.getLast? with
  | none => none
  | some key =>
    within? .dotted (fun last entries =>
      if last = .dotted ∨ path.length = 1 then insert? key v entries else none)
      path.dropLast origin entries

/-- Opens a table. -/
def openTable? (path : List Text) (root : Entries) : Option Entries :=
  match path.getLast? with
  | none => none
  | some key =>
    within? .implied (fun _ entries =>
      alter? key (fun
        | none => some (.table .header [])
        | some (.table .implied inner) => some (.table .header inner)
        | some _ => none) entries) path.dropLast .header root

/-- Opens a further table of an array. -/
def openArray? (path : List Text) (root : Entries) : Option Entries :=
  match path.getLast? with
  | none => none
  | some key =>
    within? .implied (fun _ entries =>
      alter? key (fun
        | none => some (.tables [[]])
        | some (.tables items) => some (.tables (items ++ [[]]))
        | some _ => none) entries) path.dropLast .header root

/-- Builds on with the path of the table that is open. -/
def buildFrom? (current : List Text) : List Statement → Entries → Option Entries
  | [], root => some root
  | .header path :: rest, root => do
    let root ← openTable? path root
    buildFrom? path rest root
  | .arrayHeader path :: rest, root => do
    let root ← openArray? path root
    buildFrom? path rest root
  | .assign path v :: rest, root => do
    let root ← within? .implied (assign? path v) current .header root
    buildFrom? current rest root

/-- The table of a document. -/
def build? (statements : List Statement) : Option Value :=
  (buildFrom? [] statements []).map (.table .header)

/-- The table between two braces. -/
def inline? (assignments : List (List Text × Value)) : Option Value :=
  (assignments.foldlM (fun entries (path, v) => assign? path v .inline entries) []).map
    (.table .inline)

end LogShift.Toml
