import LogShift.Proofs.Calendar.Iso
import LogShift.Proofs.Json
import LogShift.Proofs.Record
import LogShift.Record.Json

/-! Records are read back from their JSON text, with the timestamp cut down to what it stores. -/
namespace LogShift

namespace Json

theorem field?_object (key : String) (fields : List (String × Json)) :
    field? key (object fields) = (fields.reverse.find? fun f => f.1 = key).map (·.2) := by
  simp only [field?, object, ← List.map_reverse, List.find?_map, Option.map_map]
  congr 1
  congr 1
  funext f
  simp [String.toList_inj]

theorem exactFields_of_forall {fs : List (Text × Json)} (h : ∀ f ∈ fs, f.2.Exact) :
    ExactFields fs := by
  induction fs with
  | nil => trivial
  | cons f fs ih => exact ⟨h f (by simp), ih fun g hg => h g (by simp [hg])⟩

theorem exact_object {fields : List (String × Json)} (h : ∀ f ∈ fields, f.2.Exact) :
    (object fields).Exact := by
  apply exactFields_of_forall
  intro f hf
  obtain ⟨g, hg, rfl⟩ := List.mem_map.mp hf
  exact h g hg

theorem exact_str (t : Text) : (Json.str t).Exact := trivial

theorem exact_nat {n : Nat} (h : n < 2 ^ 64) : (nat n).Exact := by
  unfold nat Exact
  omega

theorem exact_option {α : Type} {write : α → Json} {o : Option α} (h : ∀ a ∈ o, (write a).Exact) :
    (option write o).Exact := by
  cases o with
  | none => trivial
  | some a => exact h a rfl

theorem nat?_nat {bits n : Nat} (h : n < 2 ^ bits) : nat? bits (nat n) = some n := by
  have hn : n < Nat.pow 2 bits := h
  unfold nat? nat
  simp only [Int.natCast_nonneg, Int.toNat_natCast, true_and, if_pos hn]

end Json

namespace Record

def pid? : Record → Option Nat
  | apache _ | hadoop _ => none
  | linux r => r.pid
  | openssh r => some r.pid

/-- The numbers fit: 64 bits for the number of the line, 32 for that of a process. -/
structure Sized (r : Record) : Prop where
  seq_lt : r.seq < 2 ^ 64
  pid_lt : ∀ n ∈ r.pid?, n < 2 ^ 32

/-- The record that its JSON text keeps. -/
def stored (r : Record) : Record :=
  r.withTimestamp (r.format.precision.cut r.timestamp)

theorem isLeap_stored (r : Record) : r.stored.timestamp.isLeap = r.timestamp.isLeap := by
  unfold stored
  rw [timestamp_withTimestamp]
  exact Precision.isLeap_cut _ _

/-- A timestamp that a line of the format can show is stored as it is. -/
theorem stored_eq_self {r : Record} (h : r.format.Shows r.timestamp) : r.stored = r := by
  unfold stored
  rw [Precision.cut_eq_self h, withTimestamp_timestamp]

theorem exact_of_mem_fieldValues {r : Record} (h : r.Sized) : ∀ v ∈ r.fieldValues, v.Exact := by
  have hseq := Json.exact_nat h.seq_lt
  have hpid : ∀ n ∈ r.pid?, (Json.nat n).Exact := fun n hn =>
    Json.exact_nat (Nat.lt_trans (h.pid_lt n hn) (by decide))
  have htext : ∀ o : Option Text, (Json.option Json.str o).Exact := fun o =>
    Json.exact_option fun t _ => Json.exact_str t
  cases r with
  | apache r => simpa [fieldValues, Json.exact_str, htext, seq] using hseq
  | hadoop r => simpa [fieldValues, Json.exact_str, seq] using hseq
  | linux r => simpa [fieldValues, Json.exact_str] using ⟨hseq, Json.exact_option hpid⟩
  | openssh r => simpa [fieldValues, Json.exact_str, htext] using ⟨hseq, hpid r.pid rfl⟩

theorem exact_toJson {r : Record} (h : r.Sized) : r.toJson.Exact := by
  apply Json.exact_object
  intro f hf
  rcases List.mem_cons.mp hf with rfl | hf
  · exact Json.exact_str _
  · exact exact_of_mem_fieldValues h _ (List.of_mem_zip hf).2

theorem field?_toJson (r : Record) (key : String) :
    r.toJson.field? key = ((("format", .string r.format.name) ::
      (fieldNames r.format).zip r.fieldValues).reverse.find? fun f => f.1 = key).map (·.2) :=
  Json.field?_object _ _

theorem optionalField?_text {j : Json} {key : String} {o : Option Text}
    (h : j.field? key = some (.option .str o)) : optionalField? Json.text? j key = some o := by
  unfold optionalField?
  rw [h]
  cases o <;> rfl

theorem optionalField?_nat {bits : Nat} {j : Json} {key : String} {o : Option Nat}
    (h : j.field? key = some (.option .nat o)) (ho : ∀ n ∈ o, n < 2 ^ bits) :
    optionalField? (Json.nat? bits) j key = some o := by
  unfold optionalField?
  rw [h]
  cases o with
  | none => rfl
  | some n => exact congrArg (Option.map some) (Json.nat?_nat (ho n rfl))

theorem ofFields?_toJson {r : Record} (h : r.Sized) :
    ofFields? r.format r.toJson = some r.stored := by
  have hseq : Json.nat? 64 (.nat r.seq) = some r.seq := Json.nat?_nat h.seq_lt
  have hpid : ∀ n ∈ r.pid?, Json.nat? 32 (.nat n) = some n := fun n hn =>
    Json.nat?_nat (h.pid_lt n hn)
  have htime : Moment.ofIso? r.timestampText = some (r.format.precision.cut r.timestamp) :=
    Precision.ofIso?_render _ _
  have hfield := field?_toJson r
  cases r with
  | apache r =>
    simp only [format, fieldNames, fieldValues] at hfield
    have hclient := optionalField?_text (o := r.client) ((hfield "client").trans (by simp))
    have hfunction := optionalField?_text (o := r.function) ((hfield "function").trans (by simp))
    have hpath := optionalField?_text (o := r.path) ((hfield "path").trans (by simp))
    simp only [seq, stored, format] at hseq htime ⊢
    simp [ofFields?, natField?, textField?, momentField?, hclient, hfunction, hpath, hfield, hseq,
      htime, Json.text?, withTimestamp]
  | hadoop r =>
    simp only [format, fieldNames, fieldValues] at hfield
    simp only [seq, stored, format] at hseq htime ⊢
    simp [ofFields?, natField?, textField?, momentField?, hfield, hseq, htime, Json.text?,
      withTimestamp]
  | linux r =>
    simp only [format, fieldNames, fieldValues] at hfield
    have hpid := optionalField?_nat (o := r.pid) ((hfield "pid").trans (by simp)) h.pid_lt
    simp only [seq, stored, format] at hseq htime ⊢
    simp [ofFields?, natField?, textField?, momentField?, hpid, hfield, hseq, htime, Json.text?,
      withTimestamp]
  | openssh r =>
    simp only [format, fieldNames, fieldValues] at hfield
    have hip := optionalField?_text (o := r.ip) ((hfield "ip").trans (by simp))
    have huser := optionalField?_text (o := r.user) ((hfield "user").trans (by simp))
    have hpid := hpid r.pid rfl
    simp only [seq, stored, format] at hseq htime ⊢
    simp [ofFields?, natField?, textField?, momentField?, hip, huser, hpid, hfield, hseq, htime,
      Json.text?, withTimestamp]

theorem ofName?_name (f : LogFormat) : LogFormat.ofName? f.name.toList = some f := by
  cases f <;> decide

theorem ofJson?_toJson {r : Record} (h : r.Sized) : ofJson? r.toJson = some r.stored := by
  have hformat : textField? r.toJson "format" = some r.format.name.toList := by
    unfold textField?
    rw [field?_toJson]
    cases r <;> simp [format, fieldNames, fieldValues, Json.string, Json.text?]
  calc ofJson? r.toJson
    _ = (textField? r.toJson "format").bind fun t =>
        (LogFormat.ofName? t).bind fun f => ofFields? f r.toJson := rfl
    _ = ofFields? r.format r.toJson := by
      rw [hformat, Option.bind_some, ofName?_name, Option.bind_some]
    _ = some r.stored := ofFields?_toJson h

/-- The text of a record in either form denotes it. -/
theorem ofText?_jsonText {r : Record} (h : r.Sized) (pretty : Bool) :
    ofText? (r.jsonText pretty) = some r.stored := by
  have hread : Json.read? (r.jsonText pretty) = some r.toJson := by
    cases pretty
    · exact Json.read?_write .tight (exact_toJson h)
    · exact Json.read?_write .indented (exact_toJson h)
  unfold ofText?
  rw [hread, Option.bind_some, ofJson?_toJson h]

end Record

end LogShift
