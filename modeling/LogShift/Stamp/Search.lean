import LogShift.Stamp.Reader

/-! Stamps inside a text, located by the byte at which they start. -/
namespace LogShift

structure Located where
  start : Nat
  stamp : Stamp
deriving DecidableEq

namespace Located

/-- The byte behind the stamp. -/
def stop (m : Located) : Nat :=
  m.start + m.stamp.text.width

/-- Stamps of `t` in order of their start, with the bytes counted from `offset`. -/
def allFrom (surface : Surface) (offset : Nat) : Text → List Located
  | [] => []
  | c :: t =>
    let later := allFrom surface (offset + c.utf8Size) t
    match Stamp.read? surface (c :: t) with
    | some (stamp, _) => ⟨offset, stamp⟩ :: later
    | none => later

/-- The stamps at every place where one can be read. -/
def candidates (surface : Surface) (t : Text) : List Located :=
  allFrom surface 0 t

/-- The stamp that starts at byte `n`. -/
def at? (surface : Surface) (n : Nat) (t : Text) : Option Located := do
  let rest ← t.dropBytes? n
  let (stamp, _) ← Stamp.read? surface rest
  return ⟨n, stamp⟩

def first? (surface : Surface) (t : Text) : Option Located :=
  (candidates surface t).head?

/-- From left to right, those that start at byte `n` or later and behind the one taken before. -/
def disjointFrom (n : Nat) : List Located → List Located
  | [] => []
  | m :: ms => if n ≤ m.start then m :: disjointFrom m.stop ms else disjointFrom n ms

def all (surface : Surface) (t : Text) : List Located :=
  disjointFrom 0 (candidates surface t)

def overlaps (a b : Located) : Bool :=
  a.start < b.stop && b.start < a.stop

end Located

end LogShift
