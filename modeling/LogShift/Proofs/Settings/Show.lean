import LogShift.Proofs.Calendar.Iso
import LogShift.Proofs.Settings.Load
import LogShift.Proofs.Toml.Document

/-! Shown settings are read back: the document of all settings writes these settings. -/
namespace LogShift.Settings

open Toml (Bare Plain Scalar Value entryValues sectionValues)

/-- The tables of the document. -/
def sections (s : Settings) : List (String × List (String × Scalar)) :=
  [("general", generalEntries s.general), ("batch", batchEntries s.batch),
    ("output", outputEntries s.output)]

/-- The keys that a table may have. -/
def sectionKeys : List (List String) :=
  [["log_level", "log_format"], ["start_year", "now", "max_line_length"], ["pretty_json"]]

theorem keys_batchEntries (b : BatchSettings) :
    ((batchEntries b).map Prod.fst).Sublist ["start_year", "now", "max_line_length"] := by
  obtain ⟨startYear, now, maxLineLength⟩ := b
  cases startYear <;> cases now <;> simp [batchEntries]

/-- Settings that are not there leave their keys out. -/
theorem keys_sections (s : Settings) :
    ∀ part ∈ s.sections, ∃ keys ∈ sectionKeys, (part.2.map Prod.fst).Sublist keys := by
  intro part hpart
  simp only [sections, List.mem_cons, List.not_mem_nil, or_false] at hpart
  rcases hpart with rfl | rfl | rfl
  · exact ⟨["log_level", "log_format"], by simp [sectionKeys], List.Sublist.refl _⟩
  · exact ⟨["start_year", "now", "max_line_length"], by simp [sectionKeys],
      keys_batchEntries s.batch⟩
  · exact ⟨["pretty_json"], by simp [sectionKeys], List.Sublist.refl _⟩

theorem plain_sections (s : Settings) : Plain s.sections where
  names := by simp [sections]
  name_bare := by
    intro part hpart
    have hall : ∀ name ∈ ["general", "batch", "output"],
        name.toList ≠ [] ∧ name.toList.all Toml.isBareKeyChar = true := by decide
    have hname : part.1 ∈ s.sections.map Prod.fst := List.mem_map_of_mem hpart
    obtain ⟨hne, hchars⟩ := hall part.1 hname
    exact ⟨hne, List.all_eq_true.mp hchars⟩
  keys := by
    intro part hpart
    have hall : ∀ keys ∈ sectionKeys, (keys.map String.toList).Nodup := by decide
    obtain ⟨keys, hkeys, hsub⟩ := s.keys_sections part hpart
    have hnodup := (hsub.map String.toList).nodup (hall keys hkeys)
    rw [List.map_map] at hnodup
    exact hnodup
  key_bare := by
    intro part hpart e he
    have hall : ∀ keys ∈ sectionKeys, ∀ key ∈ keys,
        key.toList ≠ [] ∧ key.toList.all Toml.isBareKeyChar = true := by decide
    obtain ⟨keys, hkeys, hsub⟩ := s.keys_sections part hpart
    obtain ⟨hne, hchars⟩ := hall keys hkeys e.1 (hsub.subset (List.mem_map_of_mem he))
    exact ⟨hne, List.all_eq_true.mp hchars⟩

/-! ### Tables as settings -/

/-- A table can hold the fields that its entries have. -/
theorem isSection_of_subset {keys : List String} {entries : Toml.Entries}
    (h : ∀ e ∈ entries, String.ofList e.1 ∈ keys) :
    isSection keys (.table .header entries) = true := by
  simp only [isSection, Value.isCompound, Value.othersFit]
  rw [List.filter_eq_nil_iff.mpr fun e he => by simpa using h e he]
  rfl

theorem general?_entryValues (g : GeneralSettings) :
    general? (.table .header (entryValues (generalEntries g))) = some g := by
  have hsection : isSection ["log_level", "log_format"]
      (.table .header (entryValues (generalEntries g))) = true :=
    isSection_of_subset (by simp [entryValues, generalEntries])
  rw [general?, if_pos hsection]
  rfl

/-- A field that is left out where there is no value is read back as none. -/
theorem field?_option {α : Type} {v : Value} {key : String} {place : Nat} {write : α → Value}
    {read : Value → Option (Option α)} {o : Option α}
    (hmember : v.member? key place = o.map write)
    (hread : ∀ a ∈ o, read (write a) = some (some a)) :
    field? v key place read none = some o := by
  unfold field?
  rw [hmember]
  cases o with
  | none => rfl
  | some a => exact hread a rfl

theorem member?_batchEntries (b : BatchSettings) :
    let v := Value.table .header (entryValues (batchEntries b))
    v.member? "start_year" 0 = b.startYear.map Value.integer ∧
    v.member? "now" 1 = b.now.map (fun t => Value.string t.iso) ∧
    v.member? "max_line_length" 2 = some (.integer b.maxLineLength) := by
  obtain ⟨startYear, now, maxLineLength⟩ := b
  cases startYear <;> cases now <;> exact ⟨rfl, rfl, rfl⟩

/-- The year has 32 bits with a sign, the length of lines 64 without one. -/
theorem batch?_entryValues {b : BatchSettings}
    (hyear : ∀ y ∈ b.startYear, -2 ^ 31 ≤ y ∧ y < 2 ^ 31) (hlength : b.maxLineLength < 2 ^ 64) :
    batch? (.table .header (entryValues (batchEntries b))) = some b := by
  have hsection : isSection ["start_year", "now", "max_line_length"]
      (.table .header (entryValues (batchEntries b))) = true := by
    apply isSection_of_subset
    intro e he
    obtain ⟨entry, hentry, rfl⟩ := List.mem_map.mp he
    rw [String.ofList_toList]
    exact (keys_batchEntries b).subset (List.mem_map_of_mem hentry)
  obtain ⟨hstart, hnow, hmax⟩ := member?_batchEntries b
  have hlt : b.maxLineLength < Nat.pow 2 64 := hlength
  have hinteger : (Value.integer b.maxLineLength).integer? 0 (Nat.pow 2 64) =
      some (b.maxLineLength : Int) := by
    rw [Value.integer?, if_pos ⟨Int.natCast_nonneg _, Int.ofNat_lt.mpr hlt⟩]
  have hlengths : field? (.table .header (entryValues (batchEntries b))) "max_line_length" 2
      (fun v => (v.integer? 0 (Nat.pow 2 64)).map Int.toNat) defaults.batch.maxLineLength =
      some b.maxLineLength := by
    unfold field?
    rw [hmax]
    exact congrArg (Option.map Int.toNat) hinteger
  rw [batch?, if_pos hsection, field?_option hstart, field?_option hnow, hlengths]
  · rfl
  · intro t _
    simp [Value.text?, Moment.ofIso?_iso]
  · intro y hy
    simpa [Value.integer?] using hyear y hy

theorem output?_entryValues (o : OutputSettings) :
    output? (.table .header (entryValues (outputEntries o))) = some o := by
  have hsection : isSection ["pretty_json"]
      (.table .header (entryValues (outputEntries o))) = true :=
    isSection_of_subset (by simp [entryValues, outputEntries])
  rw [output?, if_pos hsection]
  rfl

/-- The tables of settings denote them. -/
theorem ofToml?_sectionValues {s : Settings}
    (hyear : ∀ y ∈ s.batch.startYear, -2 ^ 31 ≤ y ∧ y < 2 ^ 31)
    (hlength : s.batch.maxLineLength < 2 ^ 64) :
    ofToml? (.table .header (sectionValues s.sections)) = some s := by
  have hsection : isSection ["general", "batch", "output"]
      (.table .header (sectionValues s.sections)) = true :=
    isSection_of_subset (by simp [sectionValues, sections])
  have hgeneral : field? (.table .header (sectionValues s.sections)) "general" 0 general?
      defaults.general = some s.general := general?_entryValues s.general
  have hbatch : field? (.table .header (sectionValues s.sections)) "batch" 1 batch?
      defaults.batch = some s.batch := batch?_entryValues hyear hlength
  have houtput : field? (.table .header (sectionValues s.sections)) "output" 2 output?
      defaults.output = some s.output := output?_entryValues s.output
  rw [ofToml?, if_pos hsection, hgeneral, hbatch, houtput]
  rfl

/-- Settings of any texts and moments are read back, as long as their numbers fit. -/
theorem parse_toToml {s : Settings} (hyear : ∀ y ∈ s.batch.startYear, -2 ^ 31 ≤ y ∧ y < 2 ^ 31)
    (hlength : s.batch.maxLineLength < 2 ^ 64) : parse s.toToml = .ok s := by
  rw [parse_eq_ok_iff]
  show (Toml.read? (Toml.sectionLines s.sections)).bind ofToml? = some s
  rw [Toml.read?_sectionLines s.plain_sections, Option.bind_some,
    ofToml?_sectionValues hyear hlength]

/-- Valid settings with a length of lines of at most 63 bits, shown without a section, are read back
in all their fields. -/
theorem parse_showToml {s : Settings} (hvalid : s.validate = .ok ())
    (hlength : s.batch.maxLineLength ≤ 2 ^ 63 - 1) :
    ∃ t, s.showToml none = .ok t ∧ parse t = .ok s := by
  have hyear : ∀ y ∈ s.batch.startYear, -2 ^ 31 ≤ y ∧ y < 2 ^ 31 := by
    intro y hy
    have hfour := (validate_eq_ok_iff.mp hvalid).startYear y hy
    simp only [BatchConfig.isFourDigitYear, Bool.and_eq_true, decide_eq_true_eq] at hfour
    omega
  exact ⟨s.toToml, rfl, parse_toToml hyear (by omega)⟩

/-- The first year, a leap second of nine digits, and the longest lines. -/
theorem parse_showToml_leapSecond :
    let t : Moment := ⟨⟨2016, 12, 31, by decide, by decide, by decide⟩,
      ⟨86399, 1999999999, by decide, by decide, by decide⟩⟩
    let s : Settings :=
      ⟨⟨"trace".toList, "json".toList⟩, ⟨some 1, some t, 9223372036854775807⟩, ⟨true⟩⟩
    s.validate = .ok () ∧ ∃ text, s.showToml none = .ok text ∧ parse text = .ok s := by
  intro t s
  have hvalid : s.validate = .ok () := by decide
  exact ⟨hvalid, parse_showToml hvalid (by decide)⟩

end LogShift.Settings
