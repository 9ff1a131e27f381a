/-! Text as its list of characters, measured in the bytes of its UTF-8 form. -/
namespace LogShift

/-- Every grammar of this library is a recursion on the characters of a text. -/
abbrev Text := List Char

namespace Text

/-- Bytes of the UTF-8 form. -/
def width : Text → Nat
  | [] => 0
  | c :: t => c.utf8Size + width t

/-- The characters from byte `n` on, if a character or the end stands there. -/
def dropBytes? : Nat → Text → Option Text
  | 0, t => some t
  | _ + 1, [] => none
  | n + 1, c :: t => if c.utf8Size ≤ n + 1 then dropBytes? (n + 1 - c.utf8Size) t else none

/-- The character that starts at byte `n`. -/
def charAt? (n : Nat) (t : Text) : Option Char :=
  (dropBytes? n t).bind List.head?

/-- The longest initial part of at most `n` bytes. -/
def takeBytes (n : Nat) : Text → Text
  | [] => []
  | c :: t => if c.utf8Size ≤ n then c :: takeBytes (n - c.utf8Size) t else []

/-- What `takeBytes` leaves. -/
def dropBytes (n : Nat) : Text → Text
  | [] => []
  | c :: t => if c.utf8Size ≤ n then dropBytes (n - c.utf8Size) t else c :: t

/-- The rest of `t` behind `lead`. -/
def after? : Text → Text → Option Text
  | [], t => some t
  | _ :: _, [] => none
  | a :: lead, c :: t => if a = c then after? lead t else none

/-- The part before the first `c`, and the part behind it. -/
def cutAt? (c : Char) : Text → Option (Text × Text)
  | [] => none
  | a :: t => if a = c then some ([], t) else (cutAt? c t).map fun (l, r) => (a :: l, r)

/-- The pieces between the separators `c`; one more than there are separators. -/
def splitOn (c : Char) : Text → List Text
  | [] => [[]]
  | a :: t =>
    match splitOn c t with
    | [] => [[a]]
    | piece :: pieces => if a = c then [] :: piece :: pieces else (a :: piece) :: pieces

theorem takeBytes_append_dropBytes (n : Nat) (t : Text) :
    takeBytes n t ++ dropBytes n t = t := by
  induction t generalizing n with
  | nil => rfl
  | cons c t ih =>
    simp only [takeBytes, dropBytes]
    split
    · simp [ih]
    · rfl

theorem width_append (s t : Text) : width (s ++ t) = width s + width t := by
  induction s with
  | nil => simp [width]
  | cons c s ih => simp [width, ih, Nat.add_assoc]

theorem after?_eq_some_iff {lead t rest : Text} :
    after? lead t = some rest ↔ t = lead ++ rest := by
  induction lead generalizing t with
  | nil => simp [after?]
  | cons a lead ih =>
    cases t with
    | nil => simp [after?]
    | cons c t =>
      by_cases h : a = c
      · simp [after?, h, ih]
      · simp [after?, h, Ne.symm h]

end Text

end LogShift
