import LogShift.Files.Content
import LogShift.Proofs.Text.Utf8

/-! Lines that hold no ends of lines themselves are read back from the bytes of their text. -/
namespace LogShift.Lines

theorem split_append {piece : Bytes} (h : lineFeed ∉ piece) (rest : Bytes) :
    split (piece ++ lineFeed :: rest) = piece :: split rest := by
  induction piece with
  | nil => simp [split]
  | cons b piece ih =>
    have hb : b ≠ lineFeed := by
      intro heq
      exact h (by simp [heq])
    have hpiece : lineFeed ∉ piece := fun hmem => h (List.mem_cons_of_mem b hmem)
    rw [List.cons_append, split, if_neg hb, ih hpiece]

theorem stripReturn_of_not_mem {piece : Bytes} (h : carriageReturn ∉ piece) :
    stripReturn piece = piece := by
  unfold stripReturn
  rw [if_neg]
  intro hlast
  exact h (List.mem_of_getLast? hlast)

/-- Each text of the list is a line of its own. -/
theorem read_encode {lines : List Text} (h : ∀ t ∈ lines, '\n' ∉ t ∧ '\r' ∉ t) :
    read (Utf8.encode (lines.flatMap (· ++ ['\n']))) = lines := by
  induction lines with
  | nil => rfl
  | cons t lines ih =>
    have hrest := ih fun u hu => h u (List.mem_cons_of_mem t hu)
    obtain ⟨hfeed, hreturn⟩ := h t List.mem_cons_self
    have hfeed : lineFeed ∉ Utf8.encode t := fun hmem =>
      hfeed (Utf8.mem_of_mem_encode (by decide) hmem)
    have hreturn : carriageReturn ∉ Utf8.encode t := fun hmem =>
      hreturn (Utf8.mem_of_mem_encode (by decide) hmem)
    have hbytes : Utf8.encode ((t :: lines).flatMap (· ++ ['\n'])) =
        Utf8.encode t ++ lineFeed :: Utf8.encode (lines.flatMap (· ++ ['\n'])) := by
      simp [Utf8.encode, lineFeed, String.utf8EncodeChar]
    unfold read at hrest ⊢
    rw [hbytes, split_append hfeed, List.map_cons, stripReturn_of_not_mem hreturn,
      Utf8.decodeLossy_encode, hrest]

end LogShift.Lines
