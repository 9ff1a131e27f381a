import LogShift.Text.Basic

/-! Blanks (space and tab) and the white space of Unicode. -/
namespace LogShift

/-- The separators inside a log line. -/
def isBlank (c : Char) : Bool :=
  c == ' ' || c == '\t'

/-- The Unicode property White_Space. -/
def isWhiteSpace (c : Char) : Bool :=
  let n := c.toNat
  (0x09 ≤ n && n ≤ 0x0D) || n == 0x20 || n == 0x85 || n == 0xA0 || n == 0x1680 ||
    (0x2000 ≤ n && n ≤ 0x200A) || n == 0x2028 || n == 0x2029 || n == 0x202F || n == 0x205F ||
    n == 0x3000

theorem isWhiteSpace_of_isBlank {c : Char} (h : isBlank c) : isWhiteSpace c := by
  simp only [isBlank, Bool.or_eq_true, beq_iff_eq] at h
  rcases h with rfl | rfl <;> decide

namespace Text

def trimStart (t : Text) : Text :=
  t.dropWhile isWhiteSpace

def trimEnd (t : Text) : Text :=
  (t.reverse.dropWhile isWhiteSpace).reverse

/-- Without white space at either end. -/
def trim (t : Text) : Text :=
  trimEnd (trimStart t)

/-- The text behind a run of one or more blanks. -/
def afterBlanks? (t : Text) : Option Text :=
  match t with
  | [] => none
  | c :: _ => if isBlank c then some (t.dropWhile isBlank) else none

/-- The maximal runs without white space; `word` is the run in hand. -/
def wordsFrom (word : Text) : Text → List Text
  | [] => if word.isEmpty then [] else [word]
  | c :: t =>
    if isWhiteSpace c then
      if word.isEmpty then wordsFrom [] t else word :: wordsFrom [] t
    else wordsFrom (word ++ [c]) t

/-- The words between white space, none of them empty. -/
def words (t : Text) : List Text :=
  wordsFrom [] t

end Text

end LogShift
