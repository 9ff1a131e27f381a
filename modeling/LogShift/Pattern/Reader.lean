import LogShift.Pattern.Basic

/-! Reading patterns from their written form. -/
namespace LogShift.Pattern

def isMeta (c : Char) : Bool :=
  "\\.+*?()|[]\x7b\x7d^$".toList.contains c

/-- The class behind a backslash. -/
def escaped? : Char → Option CharClass
  | 's' => some (.whiteSpace false)
  | 'S' => some (.whiteSpace true)
  | 'w' => some (.word false)
  | 'W' => some (.word true)
  | 'd' => some (.digit false)
  | 'D' => some (.digit true)
  | 'n' => some (.literal '\n')
  | 't' => some (.literal '\t')
  | 'r' => some (.literal '\r')
  | c => if isMeta c || c == '-' || c == '/' then some (.literal c) else none

/-- A level of brackets in hand: the alternatives closed before, and the sequence that grows,
its last part apart as it may still be repeated. -/
structure Level where
  closed : Option Pattern
  before : Pattern
  last : Option Pattern

namespace Level

def start : Level := ⟨none, .empty, none⟩

def settled (l : Level) : Pattern :=
  match l.last with
  | none => l.before
  | some p => if l.before = .empty then p else .seq l.before p

def push (l : Level) (p : Pattern) : Level :=
  ⟨l.closed, l.settled, some p⟩

def finish (l : Level) : Pattern :=
  match l.closed with
  | none => l.settled
  | some p => .alt p l.settled

/-- Changes the last part; there must be one. -/
def repeatLast? (f : Pattern → Pattern) (l : Level) : Option Level :=
  l.last.map fun p => { l with last := some (f p) }

end Level

/-- Reads on with the levels of open groups in hand, the innermost first, each with the number of
its group; `count` groups have been opened. -/
def parse? (count : Nat) (inner : Level) (outer : List (Nat × Level)) : Text → Option Pattern
  | [] => if outer.isEmpty then some inner.finish else none
  | '\\' :: c :: t => do
    let cls ← escaped? c
    parse? count (inner.push (.char cls)) outer t
  | '+' :: t => do
    let inner ← inner.repeatLast? fun p => .seq p (.many p)
    parse? count inner outer t
  | '*' :: t => do
    let inner ← inner.repeatLast? .many
    parse? count inner outer t
  | '?' :: t => do
    let inner ← inner.repeatLast? fun p => .alt p .empty
    parse? count inner outer t
  | '|' :: t => parse? count ⟨some inner.finish, .empty, none⟩ outer t
  | '(' :: t =>
    if t.head? = some '?' then none
    else parse? (count + 1) .start ((count + 1, inner) :: outer) t
  | ')' :: t =>
    match outer with
    | [] => none
    | (i, level) :: outer => parse? count (level.push (.group i inner.finish)) outer t
  | '.' :: t => parse? count (inner.push (.char .any)) outer t
  | c :: t =>
    if isMeta c && c != ']' && c != '\x7d' then none
    else parse? count (inner.push (.char (.literal c))) outer t

/-- The pattern that a text writes; `none` if it writes none. -/
def ofText? (t : Text) : Option Pattern :=
  parse? 0 .start [] t

end LogShift.Pattern
