import LogShift.Pattern.Basic

/-! The first match of a pattern in a text. Of the ways in which a pattern matches, the one that
starts first is taken, and of those with one start the one that the pattern prefers. All ways are
followed at once, in the order of preference, and one that has the same left to do as a preferred
one is dropped, so that each character is looked at a bounded number of times. -/
namespace LogShift.Pattern

/-- The texts of groups, each from its last character: of the open ones, the innermost first, and of
the closed ones, the latest first. -/
structure Groups where
  opened : List (Nat × Text)
  closed : List (Nat × Text)
deriving DecidableEq

namespace Groups

def start : Groups := ⟨[], []⟩

def enter (i : Nat) (g : Groups) : Groups := ⟨(i, []) :: g.opened, g.closed⟩

/-- Adds a character to the open groups. -/
def extend (c : Char) (g : Groups) : Groups :=
  ⟨g.opened.map fun (i, t) => (i, c :: t), g.closed⟩

/-- Closes the innermost group. -/
def leave (g : Groups) : Groups :=
  match g.opened with
  | [] => g
  | entry :: opened => ⟨opened, entry :: g.closed⟩

/-- The text of a group, if it was passed. -/
def text? (i : Nat) (g : Groups) : Option Text :=
  (g.closed.lookup i).map List.reverse

end Groups

/-- A part of what is left to do. -/
inductive Task where
  | pass (p : Pattern)
  /-- The end of the innermost group. -/
  | leave
deriving DecidableEq, Repr

/-- A way through a pattern up to a place in the text. -/
structure Thread where
  tasks : List Task
  groups : Groups

/-- How a way goes on at the next character. -/
inductive Move where
  /-- The character is taken, and the tasks are left to do. -/
  | taken (tasks : List Task) (groups : Groups)
  /-- All is done before the character. -/
  | done (groups : Groups)

/-- Does something else behind a way: what follows is added to the tasks, or begun at once. -/
def Move.andThen (tasks : List Task) (next : Groups → List Move) : Move → List Move
  | taken k g => [.taken (k ++ tasks) g]
  | done g => next g

/-- The ways to go on with a pattern between two characters, where there are such, the preferred
first. -/
def moves (prev next : Option Char) : Pattern → Groups → List Move
  | empty, g => [.done g]
  | boundary, g => if isBoundary prev next then [.done g] else []
  | char cls, g =>
    match next with
    | some c => if cls.holds c then [.taken [] (g.extend c)] else []
    | none => []
  | seq p q, g => (moves prev next p g).flatMap (Move.andThen [.pass q] (moves prev next q))
  | alt p q, g => moves prev next p g ++ moves prev next q g
  | many p, g =>
    (moves prev next p g).flatMap (Move.andThen [.pass (many p)] fun _ => []) ++ [.done g]
  | group i p, g =>
    (moves prev next p (g.enter i)).flatMap (Move.andThen [.leave] fun g => [.done g.leave])

/-- The ways to go on with tasks, as `moves`. -/
def tasksMoves (prev next : Option Char) : List Task → Groups → List Move
  | [], g => [.done g]
  | .leave :: k, g => tasksMoves prev next k g.leave
  | .pass p :: k, g => (moves prev next p g).flatMap (Move.andThen k (tasksMoves prev next k))

/-- The ways that took the character, up to the first that is done. Of ways with equal tasks only
the preferred one is kept; the ones kept so far are in `kept`, the last first. -/
def sift (kept : List Thread) : List Move → List Thread × Option Groups
  | [] => (kept.reverse, none)
  | .done g :: _ => (kept.reverse, some g)
  | .taken tasks groups :: rest =>
    if kept.any fun t => t.tasks = tasks then sift kept rest
    else sift (⟨tasks, groups⟩ :: kept) rest

/-- One character, or the end of the text. -/
def step (prev next : Option Char) (threads : List Thread) : List Thread × Option Groups :=
  sift [] (threads.flatMap fun t => tasksMoves prev next t.tasks t.groups)

/-- Goes on behind `prev` with the ways in hand; as long as none is done, one more starts at each
place. Those in hand when one is done are preferred to it. -/
def searchFrom (p : Pattern) (prev : Option Char) (threads : List Thread)
    (found : Option Groups) : Text → Option Groups
  | [] =>
    let threads := if found.isNone then threads ++ [⟨[.pass p], .start⟩] else threads
    (step prev none threads).2.or found
  | c :: t =>
    let threads := if found.isNone then threads ++ [⟨[.pass p], .start⟩] else threads
    let (threads, better) := step prev (some c) threads
    searchFrom p (some c) threads (better.or found) t

/-- The groups of the first match in a text. -/
def search? (p : Pattern) (t : Text) : Option Groups :=
  searchFrom p none [] none t

/-- The text of a group in the first match, if the match passed it. -/
def find? (p : Pattern) (group : Nat) (t : Text) : Option Text :=
  (p.search? t).bind (Groups.text? group)

/-- The text of the first match. -/
def first? (p : Pattern) (t : Text) : Option Text :=
  (group 0 p).find? 0 t

end LogShift.Pattern
