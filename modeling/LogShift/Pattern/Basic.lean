import LogShift.Text.Blank
import LogShift.Text.Classes

/-! Search patterns with groups. -/
namespace LogShift

/-- A set of characters. -/
inductive CharClass where
  | literal (c : Char)
  | range (first last : Char)
  /-- All but the line feed. -/
  | any
  | whiteSpace (negated : Bool)
  | word (negated : Bool)
  | digit (negated : Bool)
deriving DecidableEq, Repr

def CharClass.holds : CharClass → Char → Bool
  | literal a, c => a == c
  | range first last, c => first ≤ c && c ≤ last
  | any, c => c != '\n'
  | whiteSpace negated, c => isWhiteSpace c != negated
  | word negated, c => isWordChar c != negated
  | digit negated, c => isDecimalDigit c != negated

inductive Pattern where
  | empty
  | char (cls : CharClass)
  /-- The edge of a word; takes no character. -/
  | boundary
  | seq (first second : Pattern)
  /-- The first is preferred. -/
  | alt (first second : Pattern)
  /-- As many times as possible, also never; each time takes a character. -/
  | many (body : Pattern)
  | group (index : Nat) (body : Pattern)
deriving DecidableEq, Repr

/-- A word character stands on one side only of the place between `prev` and `next`. -/
def isBoundary (prev next : Option Char) : Bool :=
  prev.any isWordChar != next.any isWordChar

end LogShift
