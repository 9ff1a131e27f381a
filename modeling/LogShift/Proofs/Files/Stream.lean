import LogShift.Proofs.Files.Sink
import LogShift.Proofs.Gzip

/-! Files of records read as a stream of values: plain or compressed, on one line each or indented,
they hold the records that were written, in their order. -/
namespace LogShift

namespace Json

/-- The values that stand behind each other in a text, fewer than `n` of them. -/
def values? : Nat → Text → Option (List Json)
  | 0, _ => none
  | n + 1, t =>
    if (skipSpace t).isEmpty then some []
    else do
      let (v, rest) ← value? (t.length + 1) t
      let vs ← values? n rest
      return v :: vs

/-- Values with an end of line behind each. -/
def stream (l : Layout) (vs : List Json) : Text :=
  vs.flatMap fun v => v.write l 0 ++ ['\n']

theorem stream_cons (l : Layout) (v : Json) (vs : List Json) :
    stream l (v :: vs) = v.write l 0 ++ (['\n'] ++ stream l vs) := by
  simp [stream]

theorem length_le_stream (l : Layout) (vs : List Json) : vs.length ≤ (stream l vs).length := by
  induction vs with
  | nil => exact Nat.zero_le _
  | cons v vs ih =>
    simp only [stream_cons, List.length_cons, List.length_append]
    omega

theorem skipSpace_write_ne_nil {v : Json} (hv : v.Exact) (l : Layout) {w : Text}
    (hw : ∀ c ∈ w, isSpace c = true) (rest : Text) :
    (skipSpace (w ++ (v.write l 0 ++ rest))).isEmpty = false := by
  obtain ⟨c, r, htext, hc, -⟩ := opens_write hv l 0
  rw [skipSpace_append hw, htext, List.cons_append, skipSpace_cons hc]
  rfl

/-- A stream is read back. The white space before it is the end of line of the value before. -/
theorem values?_stream (l : Layout) {vs : List Json} (hvs : ∀ v ∈ vs, v.Exact) {n : Nat}
    (hn : vs.length < n) {w : Text} (hw : ∀ c ∈ w, isSpace c = true) :
    values? n (w ++ stream l vs) = some vs := by
  induction vs generalizing n w with
  | nil =>
    obtain ⟨n, rfl⟩ : ∃ k, n = k + 1 := ⟨n - 1, by omega⟩
    have hend : skipSpace (w ++ stream l []) = [] := skipSpace_append hw []
    rw [values?, hend]
    rfl
  | cons v vs ih =>
    obtain ⟨n, rfl⟩ : ∃ k, n = k + 1 := ⟨n - 1, by omega⟩
    have hv : v.Exact := hvs v (by simp)
    have hrest : values? n (['\n'] ++ stream l vs) = some vs :=
      ih (fun u hu => hvs u (by simp [hu])) (Nat.lt_of_succ_lt_succ hn) (by simp [isSpace])
    have hvalue := value?_write l v hv 0 ((w ++ stream l (v :: vs)).length + 1)
      (['\n'] ++ stream l vs)
      (by simp only [stream_cons, List.length_append]; omega) (by simp [Ends, isSpace])
    rw [stream_cons] at hvalue ⊢
    rw [values?, skipSpace_write_ne_nil hv l hw, value?_space hw, hvalue]
    dsimp only [bind, Option.bind]
    rw [hrest]
    rfl

end Json

namespace Sink

/-- The bytes of a file before it was compressed, which its name tells. -/
def plain? (path : Text) (content : Bytes) : Option Bytes :=
  if Path.isGzip path then (Gzip.decode content).toOption else some content

/-- The records that a file holds. -/
def records? (path : Text) (content : Bytes) : Option (List Record) := do
  let text ← Utf8.decode? (← plain? path content)
  let values ← Json.values? (text.length + 1) text
  values.mapM Record.ofJson?

/-- How a file is compressed does not count as long as the data can be read back. -/
theorem plain?_bytes (s : Sink) {compress : Bytes → Bytes}
    (hcompress : ∀ bs, Gzip.decode (compress bs) = .ok bs) :
    plain? s.path (s.bytes compress) = some (Utf8.encode s.texts.reverse.flatten) := by
  unfold plain? bytes
  cases Path.isGzip s.path with
  | false => rfl
  | true => simp [hcompress, Except.toOption]

theorem mapM_ofJson?_toJson {records : List Record} (h : ∀ r ∈ records, r.Sized) :
    (records.map Record.toJson).mapM Record.ofJson? = some (records.map Record.stored) := by
  induction records with
  | nil => rfl
  | cons r records ih =>
    have hr := Record.ofJson?_toJson (h r (by simp))
    have hrest := ih fun u hu => h u (by simp [hu])
    simp [List.mapM_cons, hr, hrest]

/-- What was written is read back, with the timestamps as they are stored. -/
theorem records?_writeAll (path : Text) (pretty : Bool) {records : List Record}
    (h : ∀ r ∈ records, r.Sized) {compress : Bytes → Bytes}
    (hcompress : ∀ bs, Gzip.decode (compress bs) = .ok bs) :
    records? path (((create path pretty).writeAll records).bytes compress) =
      some (records.map Record.stored) := by
  obtain ⟨l, hl⟩ : ∃ l, ∀ r : Record, r.jsonText pretty = r.toJson.write l 0 := by
    cases pretty
    · exact ⟨.tight, fun _ => rfl⟩
    · exact ⟨.indented, fun _ => rfl⟩
  have htext : ((create path pretty).writeAll records).texts.reverse.flatten =
      Json.stream l (records.map Record.toJson) := by
    rw [writeAll_eq]
    simp [create, hl, Json.stream, List.flatMap_def, Function.comp_def]
  have hexact : ∀ v ∈ records.map Record.toJson, v.Exact := by
    intro v hv
    obtain ⟨r, hr, rfl⟩ := List.mem_map.mp hv
    exact Record.exact_toJson (h r hr)
  have hvalues := Json.values?_stream l hexact
    (Nat.lt_succ_of_le (Json.length_le_stream l _)) (w := []) (by simp)
  have hplain := plain?_bytes ((create path pretty).writeAll records) hcompress
  have hpath : ((create path pretty).writeAll records).path = path := by
    rw [writeAll_eq]
    rfl
  rw [hpath, htext] at hplain
  rw [List.nil_append] at hvalues
  calc records? path (((create path pretty).writeAll records).bytes compress)
    _ = (Json.values? ((Json.stream l (records.map Record.toJson)).length + 1)
          (Json.stream l (records.map Record.toJson))).bind (List.mapM Record.ofJson?) := by
      unfold records?
      rw [hplain]
      simp
    _ = some (records.map Record.stored) := by
      rw [hvalues, Option.bind_some, mapM_ofJson?_toJson h]

end Sink

end LogShift
