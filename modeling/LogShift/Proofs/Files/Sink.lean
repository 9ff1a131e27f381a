import LogShift.Command.Run
import LogShift.Proofs.Files.Basic
import LogShift.Proofs.Files.Lines
import LogShift.Proofs.Record.Json

/-! Files of records: every record is on a line of its own, and each line is read back as its
record. -/
namespace LogShift

theorem Record.printable_jsonText {r : Record} (h : r.Sized) : Json.Printable (r.jsonText false) :=
  Json.printable_write r.toJson (exact_toJson h) 0

namespace Sink

theorem writeAll_eq (s : Sink) (records : List Record) :
    s.writeAll records =
      ⟨s.path, s.pretty,
        (records.map fun r => r.jsonText s.pretty ++ ['\n']).reverse ++ s.texts,
        s.written + records.length⟩ := by
  induction records generalizing s with
  | nil => rfl
  | cons r records ih =>
    have hstep : s.writeAll (r :: records) = (s.write r).writeAll records := rfl
    rw [hstep, ih]
    simp [write, Nat.add_comm, Nat.add_left_comm]

/-- A plain file on one line for each record holds their texts, each with an end of line. -/
theorem bytes_writeAll {path : Text} (hpath : Path.isGzip path = false) (records : List Record)
    (compress : Bytes → Bytes) :
    ((create path false).writeAll records).bytes compress =
      Utf8.encode ((records.map (Record.jsonText false)).flatMap (· ++ ['\n'])) := by
  rw [writeAll_eq]
  simp [bytes, create, hpath, List.flatMap_def, Function.comp_def]

theorem read_bytes_writeAll {path : Text} (hpath : Path.isGzip path = false)
    {records : List Record} (h : ∀ r ∈ records, r.Sized) (compress : Bytes → Bytes) :
    Lines.read (((create path false).writeAll records).bytes compress) =
      records.map (Record.jsonText false) := by
  rw [bytes_writeAll hpath]
  apply Lines.read_encode
  intro t ht
  obtain ⟨r, hr, rfl⟩ := List.mem_map.mp ht
  have hprintable := Record.printable_jsonText (h r hr)
  constructor
  · intro hmem
    exact absurd (hprintable _ hmem) (by decide)
  · intro hmem
    exact absurd (hprintable _ hmem) (by decide)

/-- Records written to a plain file, each on one line, are all counted. The bytes of the file, and
the file as a job finds it at its path, hold one line for each record, in their order: its text,
which denotes the record with its timestamp as it is stored. -/
theorem writeAll_readBack {path : Text} (hpath : Path.isGzip path = false) {records : List Record}
    (h : ∀ r ∈ records, r.Sized) (compress : Bytes → Bytes) :
    let sink := (create path false).writeAll records
    sink.written = records.length ∧
    Lines.read (sink.bytes compress) = records.map (Record.jsonText false) ∧
    (∀ fs fs' : Files, fs.write path (sink.bytes compress) = .ok fs' →
      ∀ job : Job, job.input = path →
        job.lines (fs'.read path) = .ok (records.map (Record.jsonText false))) ∧
    (Lines.read (sink.bytes compress)).map Record.ofText? =
      records.map fun r => some r.stored := by
  intro sink
  have hwritten : sink.written = records.length := by
    show ((create path false).writeAll records).written = records.length
    rw [writeAll_eq]
    exact Nat.zero_add records.length
  have hlines : Lines.read (sink.bytes compress) = records.map (Record.jsonText false) :=
    read_bytes_writeAll hpath h compress
  refine ⟨hwritten, hlines, ?_, ?_⟩
  · intro fs fs' hwrite job hinput
    rw [Files.read_write hwrite, ← hlines]
    unfold Job.lines
    rw [hinput, hpath]
    rfl
  · rw [hlines, List.map_map]
    apply List.map_congr_left
    intro r hr
    exact Record.ofText?_jsonText (h r hr) false

/-- Two records with ends of lines, quotes and separators in their texts, and a leap second. -/
theorem writeAll_readBack_lineEnds :
    let path : Text := "out.jsonl".toList
    let t : Moment := ⟨⟨2016, 12, 31, by decide, by decide, by decide⟩,
      ⟨86399, 1999999999, by decide, by decide, by decide⟩⟩
    let records : List Record := [
      .linux ⟨0, t, "a\nb".toList, "\u2028".toList, some 7, "\"x\"\r\n".toList, "\r".toList⟩,
      .openssh ⟨18446744073709551615, t, [], "\t\\".toList, 4294967295, "\u0000é".toList,
        "\n\n".toList, none, some "\r".toList⟩]
    let sink := (create path false).writeAll records
    let content := sink.bytes Gzip.encode
    sink.written = 2 ∧ (Lines.read content).length = 2 ∧
      (Lines.read content).map Record.ofText? = records.map (fun r => some r.stored) ∧
      ∃ fs', (⟨[], []⟩ : Files).write path content = .ok fs' ∧
        (⟨.linux, path, [], none⟩ : Job).lines (fs'.read path) =
          .ok (records.map (Record.jsonText false)) := by
  intro path t records sink content
  have hpath : Path.isGzip path = false := by decide
  have hsized : ∀ r ∈ records, r.Sized := by
    intro r hr
    simp only [records, List.mem_cons, List.not_mem_nil, or_false] at hr
    rcases hr with rfl | rfl
    · exact ⟨by decide, by simp [Record.pid?]⟩
    · exact ⟨by decide, by simp [Record.pid?]⟩
  obtain ⟨hwritten, hlines, hfile, hrecords⟩ := writeAll_readBack hpath hsized Gzip.encode
  have hlength : (Lines.read content).length = 2 := by
    rw [hlines, List.length_map]
    rfl
  have hplace : (⟨[], []⟩ : Files).creationPlace path = .ok [path] := by decide
  have hwrite : (⟨[], []⟩ : Files).write path content =
      .ok ((⟨[], []⟩ : Files).set [path] (.file content)) := by
    unfold Files.write
    rw [hplace]
    rfl
  exact ⟨hwritten, hlength, hrecords, _, hwrite, hfile _ _ hwrite _ rfl⟩

end Sink

end LogShift
