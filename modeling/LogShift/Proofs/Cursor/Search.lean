import LogShift.Proofs.Cursor.Stamp
import Mathlib.Data.List.Sort

/-! Stamps searched by the bytes of a text. The search by bytes tries every byte that can start a
stamp, inside characters too, and finds the stamps that are located by characters. -/
namespace LogShift

/-- A character that can start a stamp. -/
def Surface.leads : Surface → Char → Bool
  | ctime | syslog => Char.isUpper
  | iso => Char.isDigit

namespace Cursor

def isUpperByte (b : UInt8) : Bool :=
  0x41 ≤ b && b ≤ 0x5A

def leadsByte : Surface → UInt8 → Bool
  | .ctime | .syslog => isUpperByte
  | .iso => isDigitByte

/-- The stamps at all bytes where one can start. -/
def candidates (k : Surface) (t : Text) : Option (List Found) := do
  let starts := (Utf8.encode t).zipIdx.filter fun (b, _) => leadsByte k b
  return (← starts.mapM fun (_, n) => matchAt k t n).filterMap id

/-- From left to right, those that start behind the one taken before. -/
def apartFrom (n : Nat) : List Found → List Found
  | [] => []
  | m :: ms => if n ≤ m.start then m :: apartFrom m.stop ms else apartFrom n ms

def findAll (k : Surface) (t : Text) : Option (List Found) :=
  (candidates k t).map (apartFrom 0)

end Cursor

theorem Stamp.head_text {s : Stamp} (h : s.Shaped) :
    ∃ c r, s.text = c :: r ∧ s.surface.leads c = true := by
  cases s with
  | ctime w =>
    obtain ⟨a, b, c, hw, ha, -⟩ := w.name_eq
    exact ⟨a, _, by rw [text, hw]; rfl, ha⟩
  | syslog m =>
    obtain ⟨a, b, c, hm, ha, -⟩ := monthName_eq h.1
    exact ⟨a, _, by rw [text, hm]; rfl, ha⟩
  | iso year =>
    obtain ⟨⟨h0, h9⟩, -⟩ := h
    obtain ⟨year, rfl⟩ := Int.eq_ofNat_of_zero_le h0
    obtain ⟨c, ds, hyear, hc⟩ :=
      Decimal.padded_eq_cons (show 0 < 4 by decide) (show year < 10 ^ 4 by omega)
    exact ⟨c, _, by rw [text, Decimal.paddedInteger_natCast, hyear]; rfl, hc⟩

namespace Cursor

variable {k : Surface} {t r : Text} {n : Nat} {m : Located}

theorem isUpperByte_mirrors : Utf8.Mirrors isUpperByte Char.isUpper := by
  refine .range 0x41 0x5A (by decide) (fun b => ?_) fun c => ?_
  · simp [isUpperByte, UInt8.le_iff_toNat_le]
  · show decide (65 ≤ c.val ∧ c.val ≤ 90) = true ↔ _
    rw [decide_eq_true_eq, UInt32.le_iff_toNat_le, UInt32.le_iff_toNat_le]
    rfl

theorem leadsByte_mirrors (k : Surface) : Utf8.Mirrors (leadsByte k) k.leads := by
  cases k with
  | ctime => exact isUpperByte_mirrors
  | syslog => exact isUpperByte_mirrors
  | iso => exact isDigitByte_mirrors

theorem stamp_agrees (k : Surface) (h : t.dropBytes? n = some r) :
    Agrees (fun a n' b => a = Located.found ⟨n, b.1⟩ ∧ t.dropBytes? n' = some b.2)
      ((stamp k).run t n) (orRefuse () (Stamp.read? k r)) := by
  cases k with
  | ctime => exact ctime_agrees h
  | syslog => exact syslog_agrees h
  | iso => exact iso_agrees h

/-- A stamp starts at an ASCII byte. -/
theorem exists_lead (h : Located.at? k n t = some m) :
    ∃ b, t.byteAt? n = some b ∧ leadsByte k b = true ∧ b.toNat < 0x80 := by
  obtain ⟨rfl, lead, rest, rfl, hlead, hread⟩ := Located.at?_eq_some_iff.mp h
  obtain ⟨hk, hs, -⟩ := Stamp.read?_eq_some_iff.mp hread
  obtain ⟨c, r, htext, hc⟩ := Stamp.head_text hs
  have hmirrors := leadsByte_mirrors m.stamp.surface
  have hlt := hmirrors.lt hc
  subst hk
  refine ⟨UInt8.ofNat c.toNat, ?_, (hmirrors.ascii_char hlt).trans hc, ?_⟩
  · rw [← hlead, Text.byteAt?_of_dropBytes? (Text.dropBytes?_width_append lead _), htext,
      List.cons_append, Utf8.encode_cons_of_lt hlt]
    rfl
  · rwa [Utf8.toNat_byte_of_lt hlt]

/-- The cursor finds at any byte, be it inside a character, what is located there. -/
theorem matchAt_eq (k : Surface) (t : Text) (n : Nat) :
    matchAt k t n = some ((Located.at? k n t).map Located.found) := by
  have hnone (h : ∀ b, t.byteAt? n = some b → ¬b.toNat < 0x80) : Located.at? k n t = none := by
    refine Option.eq_none_iff_forall_ne_some.mpr fun m hm => ?_
    obtain ⟨b, hb, -, hlt⟩ := exists_lead hm
    exact h b hb hlt
  unfold matchAt
  by_cases hn : t.width ≤ n
  · have hbyte : t.byteAt? n = none := by
      rw [Text.byteAt?, List.getElem?_eq_none_iff, Utf8.length_encode]
      exact hn
    rw [if_pos hn, hnone (by simp [hbyte])]
    rfl
  · obtain ⟨b, hb, hascii⟩ := Text.exists_byteAt? (Nat.lt_of_not_le hn)
    rw [if_neg hn, hb]
    by_cases hhigh : 0x80 ≤ b
    · have hle : 0x80 ≤ b.toNat := UInt8.le_iff_toNat_le.mp hhigh
      rw [hnone (by simpa [hb] using hle)]
      exact if_pos hhigh
    · obtain ⟨r, hr⟩ := hascii (Nat.lt_of_not_le fun hle => hhigh (UInt8.le_iff_toNat_le.mpr hle))
      have hstamp := stamp_agrees k hr
      rw [Located.at?, hr]
      refine (if_neg hhigh).trans ?_
      rw [bind_of_ok (seek_eq hr)]
      cases hread : Stamp.read? k (Char.ofNat b.toNat :: r) with
      | none =>
        rw [hread] at hstamp
        rw [hstamp.eq_error]
        simp [hread]
      | some found =>
        rw [hread] at hstamp
        obtain ⟨a, n', hrun, rfl, -⟩ := hstamp.eq_ok
        rw [hrun]
        simp [hread]

/-- The bytes that can start a stamp, each with its number. -/
theorem mem_starts_iff {b : UInt8} :
    (b, n) ∈ (Utf8.encode t).zipIdx.filter (fun (b, _) => leadsByte k b) ↔
      t.byteAt? n = some b ∧ leadsByte k b = true := by
  rw [List.mem_filter, List.mem_zipIdx_iff_getElem?]
  rfl

theorem filterMap_starts (k : Surface) (t : Text) :
    ((Utf8.encode t).zipIdx.filter fun (b, _) => leadsByte k b).filterMap
      (fun (_, n) => Located.at? k n t) = Located.candidates k t := by
  have : Std.Antisymm fun a b : Located => a.start < b.start :=
    ⟨fun _ _ h h' => absurd h (Nat.lt_asymm h')⟩
  have : Std.Irrefl fun a b : Located => a.start < b.start := ⟨fun _ => Nat.lt_irrefl _⟩
  -- Both lists are sorted by the starts, so that it is enough to compare their members.
  refine List.Pairwise.eq_of_mem_iff ?_ (Located.candidates_sorted k t) ?_
  · have hstarts : (Utf8.encode t).zipIdx.Pairwise fun p q => p.2 < q.2 := by
      rw [← List.pairwise_map, List.zipIdx_map_snd]
      exact List.pairwise_lt_range'
    refine (hstarts.filter _).filterMap _ ?_
    rintro ⟨b, n⟩ ⟨b', n'⟩ hlt a ha a' ha'
    rw [(Located.at?_eq_some_iff.mp ha).1, (Located.at?_eq_some_iff.mp ha').1]
    exact hlt
  · intro m
    rw [List.mem_filterMap, Located.mem_candidates_iff_at?]
    constructor
    · rintro ⟨⟨b, n⟩, -, hm⟩
      rwa [(Located.at?_eq_some_iff.mp hm).1]
    · intro hm
      obtain ⟨b, hb, hlead, -⟩ := exists_lead hm
      exact ⟨(b, m.start), mem_starts_iff.mpr ⟨hb, hlead⟩, hm⟩

theorem candidates_eq (k : Surface) (t : Text) :
    candidates k t = some ((Located.candidates k t).map Located.found) := by
  unfold candidates
  simp only [matchAt_eq]
  rw [← filterMap_starts, List.map_filterMap]
  show (List.mapM (fun p => pure _) _ >>= fun found => pure (found.filterMap id)) = _
  rw [List.mapM_pure]
  show some _ = _
  rw [List.filterMap_map]
  rfl

theorem apartFrom_map (n : Nat) (ms : List Located) :
    apartFrom n (ms.map Located.found) = (Located.disjointFrom n ms).map Located.found := by
  induction ms generalizing n with
  | nil => rfl
  | cons m ms ih =>
    rw [List.map_cons, apartFrom, Located.disjointFrom, ih, ih]
    show (if n ≤ m.start then _ else _) = _
    split
    case isTrue => rfl
    case isFalse => rfl

theorem findAll_eq (k : Surface) (t : Text) :
    findAll k t = some ((Located.all k t).map Located.found) := by
  rw [findAll, candidates_eq, Option.map_some, apartFrom_map, Located.all]

end Cursor

end LogShift
