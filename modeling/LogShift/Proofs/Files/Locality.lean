import LogShift.Proofs.Files.Lines
import LogShift.Proofs.Text.Lossy

/-! Lines are read one by one, and yet as if the whole file had been made a text before. What is
broken in one line stays in it, and only the ends of lines are lost. -/
namespace LogShift.Lines

open Utf8

section Between

variable {α : Type} [DecidableEq α] {sep : α}

/-- The pieces of a list between separators, but not an empty one behind the last separator. -/
def between (sep : α) (l : List α) : List (List α) :=
  if (l.splitOn sep).getLast? = some [] then (l.splitOn sep).dropLast else l.splitOn sep

/-- Without one `mark` at the end. -/
def dropMark (mark : α) (l : List α) : List α :=
  if l.getLast? = some mark then l.dropLast else l

@[simp] theorem between_nil : between sep [] = [] := by
  simp [between]

theorem between_of_not_mem {piece : List α} (h : sep ∉ piece) (hne : piece ≠ []) :
    between sep piece = [piece] := by
  unfold between
  rw [List.splitOn_eq_singleton h, List.getLast?_singleton, if_neg (by simpa using hne)]

theorem between_append {piece : List α} (h : sep ∉ piece) (rest : List α) :
    between sep (piece ++ sep :: rest) = piece :: between sep rest := by
  have hne := List.splitOn_ne_nil sep rest
  unfold between
  rw [List.splitOn_append_cons_self_of_not_mem h, List.getLast?_cons,
    List.dropLast_cons_of_ne_nil hne, List.getLast?_eq_some_getLast hne, Option.getD_some]
  split <;> rfl

/-- Every list is a piece without separators, or such a piece before a separator and a rest. -/
theorem piecewise {motive : List α → Prop} (sep : α)
    (last : ∀ piece, sep ∉ piece → motive piece)
    (line : ∀ piece rest, sep ∉ piece → motive rest → motive (piece ++ sep :: rest)) (l : List α) :
    motive l := by
  by_cases h : sep ∈ l
  · obtain ⟨piece, rest, rfl, hpiece⟩ := List.eq_append_cons_of_mem h
    exact line piece rest hpiece (piecewise sep last line rest)
  · exact last l h
termination_by l.length
decreasing_by grind

theorem exists_append_dropMark (mark : α) (l : List α) :
    ∃ e, (e = [] ∨ e = [mark]) ∧ l = dropMark mark l ++ e := by
  unfold dropMark
  split
  case isTrue h =>
    obtain ⟨front, rfl⟩ := List.getLast?_eq_some_iff.mp h
    exact ⟨[mark], .inr rfl, by rw [List.dropLast_concat]⟩
  case isFalse h => exact ⟨[], .inl rfl, (List.append_nil l).symm⟩

end Between

theorem split_of_not_mem {piece : Bytes} (h : lineFeed ∉ piece) (hne : piece ≠ []) :
    split piece = [piece] := by
  induction piece with
  | nil => exact absurd rfl hne
  | cons b piece ih =>
    have hb : b ≠ lineFeed := fun heq => h (by simp [heq])
    rw [split, if_neg hb]
    by_cases hpiece : piece = []
    · rw [hpiece]
      rfl
    · rw [ih (fun hmem => h (List.mem_cons_of_mem b hmem)) hpiece]

theorem split_eq_between (bs : Bytes) : split bs = between lineFeed bs := by
  induction bs using piecewise lineFeed with
  | last piece h =>
    by_cases hne : piece = []
    · rw [hne]
      rfl
    · rw [split_of_not_mem h hne, between_of_not_mem h hne]
  | line piece rest h ih => rw [split_append h, between_append h, ih]

section Decoding

theorem lineFeed_mem {bs : Bytes} (h : '\n' ∈ decodeLossy bs) : lineFeed ∈ bs := by
  obtain ⟨b, hb, hcode⟩ := mem_of_mem_decodeLossy (by decide) h
  obtain rfl : b = lineFeed := UInt8.toNat_inj.mp hcode
  exact hb

theorem decodeLossy_append_lineFeed (front rest : Bytes) :
    decodeLossy (front ++ lineFeed :: rest) = decodeLossy front ++ '\n' :: decodeLossy rest :=
  decodeLossy_append_ascii (by decide) front rest

theorem decodeLossy_append_return (front rest : Bytes) :
    decodeLossy (front ++ carriageReturn :: rest) = decodeLossy front ++ '\r' :: decodeLossy rest :=
  decodeLossy_append_ascii (by decide) front rest

/-- The last character is a carriage return just where the last byte is one. -/
theorem getLast?_decodeLossy (bs : Bytes) :
    (decodeLossy bs).getLast? = some '\r' ↔ bs.getLast? = some carriageReturn := by
  induction bs using piecewise carriageReturn with
  | last piece h =>
    refine iff_of_false ?_ ?_
    · intro hlast
      obtain ⟨b, hb, hcode⟩ := mem_of_mem_decodeLossy (by decide) (List.mem_of_getLast? hlast)
      obtain rfl : b = carriageReturn := UInt8.toNat_inj.mp hcode
      exact h hb
    · exact fun hlast => h (List.mem_of_getLast? hlast)
  | line piece rest h ih =>
    rw [decodeLossy_append_return]
    by_cases hrest : rest = []
    · simp [hrest]
    · rw [List.getLast?_append, List.getLast?_append, List.getLast?_cons, List.getLast?_cons,
        List.getLast?_eq_some_getLast hrest,
        List.getLast?_eq_some_getLast (decodeLossy_ne_nil hrest)]
      rw [List.getLast?_eq_some_getLast hrest,
        List.getLast?_eq_some_getLast (decodeLossy_ne_nil hrest)] at ih
      exact ih

theorem decodeLossy_stripReturn (piece : Bytes) :
    decodeLossy (stripReturn piece) = dropMark '\r' (decodeLossy piece) := by
  unfold stripReturn dropMark
  by_cases h : piece.getLast? = some carriageReturn
  · rw [if_pos h, if_pos ((getLast?_decodeLossy piece).mpr h)]
    obtain ⟨front, rfl⟩ := List.getLast?_eq_some_iff.mp h
    rw [decodeLossy_append_return, decodeLossy_nil, List.dropLast_concat, List.dropLast_concat]
  · rw [if_neg h, if_neg (mt (getLast?_decodeLossy piece).mp h)]

end Decoding

section Read

@[simp] theorem read_nil : read [] = [] := rfl

theorem read_of_not_mem {piece : Bytes} (h : lineFeed ∉ piece) (hne : piece ≠ []) :
    read piece = [dropMark '\r' (decodeLossy piece)] := by
  unfold read
  rw [split_of_not_mem h hne, List.map_singleton, decodeLossy_stripReturn]

theorem read_append {piece : Bytes} (h : lineFeed ∉ piece) (rest : Bytes) :
    read (piece ++ lineFeed :: rest) = dropMark '\r' (decodeLossy piece) :: read rest := by
  unfold read
  rw [split_append h, List.map_cons, decodeLossy_stripReturn]

theorem read_eq_between_decodeLossy (bs : Bytes) :
    read bs = (between '\n' (decodeLossy bs)).map (dropMark '\r') := by
  induction bs using piecewise lineFeed with
  | last piece h =>
    by_cases hne : piece = []
    · simp [hne]
    · rw [read_of_not_mem h hne, between_of_not_mem (mt lineFeed_mem h) (decodeLossy_ne_nil hne),
        List.map_singleton]
  | line piece rest h ih =>
    rw [read_append h, decodeLossy_append_lineFeed, between_append (mt lineFeed_mem h), ih,
      List.map_cons]

theorem read_append_lineFeed (front rest : Bytes) :
    read (front ++ lineFeed :: rest) = read (front ++ [lineFeed]) ++ read rest := by
  induction front using piecewise lineFeed with
  | last piece h => rw [read_append h, read_append h, read_nil, List.singleton_append]
  | line piece front h ih =>
    rw [List.append_assoc, List.cons_append, read_append h, ih, List.append_assoc,
      List.cons_append, read_append h, List.cons_append]

/-- What ends the lines: a line feed, or a carriage return before it. The last line may have no
line feed. -/
structure Terminators (ends : List Text) : Prop where
  inner : ∀ e ∈ ends.dropLast, e = ['\n'] ∨ e = ['\r', '\n']
  last : ∀ e ∈ ends.getLast?, e = [] ∨ e = ['\r'] ∨ e = ['\n'] ∨ e = ['\r', '\n']

theorem Terminators.cons {e : Text} {ends : List Text} (he : e = ['\n'] ∨ e = ['\r', '\n'])
    (h : Terminators ends) : Terminators (e :: ends) := by
  cases ends with
  | nil => exact ⟨by simp, by simpa using .inr (.inr he)⟩
  | cons e' ends =>
    refine ⟨?_, by simpa using h.last⟩
    intro x hx
    rw [List.dropLast_cons_cons, List.mem_cons] at hx
    obtain rfl | hx := hx
    · exact he
    · exact h.inner x hx

/-- Lines with what ends them. -/
def rejoin (lines ends : List Text) : Text :=
  (List.zipWith (· ++ ·) lines ends).flatten

theorem exists_terminators (bs : Bytes) :
    ∃ ends, Terminators ends ∧ ends.length = (read bs).length ∧
      decodeLossy bs = rejoin (read bs) ends := by
  induction bs using piecewise lineFeed with
  | last piece h =>
    by_cases hne : piece = []
    · exact ⟨[], ⟨by simp, by simp⟩, by simp [hne], by simp [hne, rejoin]⟩
    · obtain ⟨e, he, hline⟩ := exists_append_dropMark '\r' (decodeLossy piece)
      refine ⟨[e], ⟨by simp, ?_⟩, ?_, ?_⟩
      · rintro e' ⟨⟩
        exact he.elim .inl (.inr ∘ .inl)
      · rw [read_of_not_mem h hne]
        rfl
      · rw [read_of_not_mem h hne]
        simpa [rejoin] using hline
  | line piece rest h ih =>
    obtain ⟨ends, hends, hlength, hrest⟩ := ih
    obtain ⟨e, he, hline⟩ := exists_append_dropMark '\r' (decodeLossy piece)
    refine ⟨(e ++ ['\n']) :: ends, hends.cons ?_, ?_, ?_⟩
    · obtain rfl | rfl := he
      · exact .inl rfl
      · exact .inr rfl
    · rw [read_append h, List.length_cons, List.length_cons, hlength]
    · rw [read_append h, decodeLossy_append_lineFeed, hrest]
      unfold rejoin
      rw [List.zipWith_cons_cons, List.flatten_cons, ← List.append_assoc, ← hline,
        List.append_assoc, List.singleton_append]

/-- The lines of a file are its pieces between line feeds, each read by itself, and also the lines
of the whole file's text. A line feed keeps what stands before it apart from what follows, and with
the ends of the lines the text is whole again. -/
theorem read_lossless (bs : Bytes) :
    read bs = (between lineFeed bs).map (fun piece => decodeLossy (dropMark carriageReturn piece)) ∧
      read bs = (between '\n' (decodeLossy bs)).map (dropMark '\r') ∧
      (∀ front rest, bs = front ++ lineFeed :: rest →
        read bs = read (front ++ [lineFeed]) ++ read rest) ∧
      ∃ ends, Terminators ends ∧ ends.length = (read bs).length ∧
        decodeLossy bs = rejoin (read bs) ends ∧
        ∀ t, bs = encode t → t = rejoin (read bs) ends := by
  refine ⟨?_, read_eq_between_decodeLossy bs, ?_, ?_⟩
  · rw [← split_eq_between]
    rfl
  · rintro front rest rfl
    exact read_append_lineFeed front rest
  · obtain ⟨ends, hends, hlength, hwhole⟩ := exists_terminators bs
    refine ⟨ends, hends, hlength, hwhole, ?_⟩
    intro t ht
    rw [← hwhole, ht, decodeLossy_encode]

/-- A character cut off before a line feed is broken in its own line only. -/
example : read [0x61, 0xE2, 0x82, 0x0D, 0x0A, 0xAC, 0x0A, 0x62, 0x0D] =
    [['a', replacement], [replacement], ['b']] := by decide

end Read

end LogShift.Lines
