import LogShift.Enrichment

/-! Records with a field replaced, and what the enrichers leave alone. -/
namespace LogShift

namespace Record

@[simp] theorem timestamp_withTimestamp (r : Record) (t : Moment) :
    (r.withTimestamp t).timestamp = t := by cases r <;> rfl

@[simp] theorem seq_withTimestamp (r : Record) (t : Moment) : (r.withTimestamp t).seq = r.seq := by
  cases r <;> rfl

@[simp] theorem logline_withTimestamp (r : Record) (t : Moment) :
    (r.withTimestamp t).logline = r.logline := by cases r <;> rfl

@[simp] theorem msg_withTimestamp (r : Record) (t : Moment) : (r.withTimestamp t).msg = r.msg := by
  cases r <;> rfl

@[simp] theorem timestamp_withLogline (r : Record) (t : Text) :
    (r.withLogline t).timestamp = r.timestamp := by cases r <;> rfl

@[simp] theorem seq_withLogline (r : Record) (t : Text) : (r.withLogline t).seq = r.seq := by
  cases r <;> rfl

@[simp] theorem logline_withLogline (r : Record) (t : Text) : (r.withLogline t).logline = t := by
  cases r <;> rfl

@[simp] theorem msg_withLogline (r : Record) (t : Text) : (r.withLogline t).msg = r.msg := by
  cases r <;> rfl

@[simp] theorem timestamp_withMsg (r : Record) (t : Text) :
    (r.withMsg t).timestamp = r.timestamp := by cases r <;> rfl

@[simp] theorem seq_withMsg (r : Record) (t : Text) : (r.withMsg t).seq = r.seq := by
  cases r <;> rfl

@[simp] theorem logline_withMsg (r : Record) (t : Text) : (r.withMsg t).logline = r.logline := by
  cases r <;> rfl

@[simp] theorem msg_withMsg (r : Record) (t : Text) : (r.withMsg t).msg = t := by cases r <;> rfl

theorem withTimestamp_timestamp (r : Record) : r.withTimestamp r.timestamp = r := by
  cases r <;> rfl

theorem withLogline_logline (r : Record) : r.withLogline r.logline = r := by cases r <;> rfl

theorem withMsg_msg (r : Record) : r.withMsg r.msg = r := by cases r <;> rfl

/-- The same record under another number. -/
def withSeq (n : Nat) : Record → Record
  | apache r => apache { r with seq := n }
  | hadoop r => hadoop { r with seq := n }
  | linux r => linux { r with seq := n }
  | openssh r => openssh { r with seq := n }

@[simp] theorem timestamp_withSeq (r : Record) (n : Nat) : (r.withSeq n).timestamp = r.timestamp := by
  cases r <;> rfl

@[simp] theorem logline_withSeq (r : Record) (n : Nat) : (r.withSeq n).logline = r.logline := by
  cases r <;> rfl

@[simp] theorem msg_withSeq (r : Record) (n : Nat) : (r.withSeq n).msg = r.msg := by
  cases r <;> rfl

theorem withSeq_comm (r : Record) (n : Nat) (line msg : Text) (t : Moment) :
    (((r.withLogline line).withMsg msg).withTimestamp t).withSeq n =
      (((r.withSeq n).withLogline line).withMsg msg).withTimestamp t := by cases r <;> rfl

/-- The records numbered from 0 in their order. -/
def renumber (rs : List Record) : List Record :=
  rs.mapIdx fun i r => r.withSeq i

theorem mem_renumber {rs : List Record} {r : Record} (h : r ∈ renumber rs) :
    ∃ r₀ ∈ rs, ∃ n, r = r₀.withSeq n := by
  obtain ⟨n, hn, rfl⟩ := List.mem_mapIdx.mp h
  exact ⟨_, List.getElem_mem hn, n, rfl⟩

theorem map_timestamp_renumber (rs : List Record) :
    (renumber rs).map Record.timestamp = rs.map Record.timestamp := by
  apply List.ext_getElem?
  intro i
  simp [renumber, Function.comp_def]

theorem withTimestamp_comm (r : Record) (t : Moment) (line msg : Text) :
    ((r.withLogline line).withMsg msg).withTimestamp t =
      ((r.withTimestamp t).withLogline line).withMsg msg := by cases r <;> rfl

end Record

namespace Enricher

/-- The fields of a record with those that the message gives; the others stay. -/
def fill (e : Enricher) (r : OpenSshRecord) : OpenSshRecord :=
  match e with
  | address => { r with ip := (Address.find? r.msg).or r.ip }
  | user patterns => { r with user := (UserName.find? patterns r.msg).or r.user }

theorem apply_openssh (e : Enricher) (r : OpenSshRecord) :
    e.apply (.openssh r) = .openssh (e.fill r) := by
  cases e with
  | address =>
    simp only [apply, enrich?, fill]
    cases Address.find? r.msg <;> rfl
  | user patterns =>
    simp only [apply, enrich?, fill]
    cases UserName.find? patterns r.msg <;> rfl

theorem apply_of_format_ne (e : Enricher) {r : Record} (h : r.format ≠ .openssh) :
    e.apply r = r := by
  cases r with
  | openssh => exact absurd rfl h
  | _ => cases e <;> rfl

theorem apply_withTimestamp (e : Enricher) (t : Moment) (r : Record) :
    e.apply (r.withTimestamp t) = (e.apply r).withTimestamp t := by
  cases r with
  | openssh r =>
    rw [apply_openssh, Record.withTimestamp, apply_openssh]
    cases e <;> rfl
  | _ => cases e <;> rfl

theorem apply_withLogline (e : Enricher) (t : Text) (r : Record) :
    e.apply (r.withLogline t) = (e.apply r).withLogline t := by
  cases r with
  | openssh r =>
    rw [apply_openssh, Record.withLogline, apply_openssh]
    cases e <;> rfl
  | _ => cases e <;> rfl

theorem apply_withSeq (e : Enricher) (n : Nat) (r : Record) :
    e.apply (r.withSeq n) = (e.apply r).withSeq n := by
  cases r with
  | openssh r =>
    rw [apply_openssh, Record.withSeq, apply_openssh]
    cases e <;> rfl
  | _ => cases e <;> rfl

/-- An enricher fills fields that the line itself does not give. -/
theorem apply_frame (e : Enricher) (r : Record) :
    (e.apply r).format = r.format ∧ (e.apply r).seq = r.seq ∧
      (e.apply r).timestamp = r.timestamp ∧ (e.apply r).logline = r.logline := by
  cases r with
  | openssh r =>
    rw [apply_openssh]
    cases e <;> exact ⟨rfl, rfl, rfl, rfl⟩
  | _ => cases e <;> exact ⟨rfl, rfl, rfl, rfl⟩

theorem applyAll_frame (es : List Enricher) (r : Record) :
    (applyAll es r).format = r.format ∧ (applyAll es r).seq = r.seq ∧
      (applyAll es r).timestamp = r.timestamp ∧ (applyAll es r).logline = r.logline := by
  induction es generalizing r with
  | nil => exact ⟨rfl, rfl, rfl, rfl⟩
  | cons e es ih =>
    obtain ⟨hf, hs, ht, hl⟩ := ih (e.apply r)
    obtain ⟨hf', hs', ht', hl'⟩ := e.apply_frame r
    exact ⟨hf.trans hf', hs.trans hs', ht.trans ht', hl.trans hl'⟩

theorem msg_applyAll (es : List Enricher) (r : Record) : (applyAll es r).msg = r.msg := by
  induction es generalizing r with
  | nil => rfl
  | cons e es ih =>
    have happly : (e.apply r).msg = r.msg := by
      cases r with
      | openssh r =>
        rw [apply_openssh]
        cases e <;> rfl
      | _ => cases e <;> rfl
    exact (ih (e.apply r)).trans happly

theorem timestamp_applyAll (es : List Enricher) (r : Record) :
    (applyAll es r).timestamp = r.timestamp :=
  (applyAll_frame es r).2.2.1

theorem applyAll_withTimestamp (es : List Enricher) (t : Moment) (r : Record) :
    applyAll es (r.withTimestamp t) = (applyAll es r).withTimestamp t := by
  induction es generalizing r with
  | nil => rfl
  | cons e es ih =>
    show applyAll es (e.apply (r.withTimestamp t)) = (applyAll es (e.apply r)).withTimestamp t
    rw [apply_withTimestamp, ih]

theorem applyAll_withLogline (es : List Enricher) (t : Text) (r : Record) :
    applyAll es (r.withLogline t) = (applyAll es r).withLogline t := by
  induction es generalizing r with
  | nil => rfl
  | cons e es ih =>
    show applyAll es (e.apply (r.withLogline t)) = (applyAll es (e.apply r)).withLogline t
    rw [apply_withLogline, ih]

theorem applyAll_withSeq (es : List Enricher) (n : Nat) (r : Record) :
    applyAll es (r.withSeq n) = (applyAll es r).withSeq n := by
  induction es generalizing r with
  | nil => rfl
  | cons e es ih =>
    show applyAll es (e.apply (r.withSeq n)) = (applyAll es (e.apply r)).withSeq n
    rw [apply_withSeq, ih]

theorem applyAll_of_format_ne (es : List Enricher) {r : Record} (h : r.format ≠ .openssh) :
    applyAll es r = r := by
  induction es with
  | nil => rfl
  | cons e es ih =>
    show applyAll es (e.apply r) = r
    rw [e.apply_of_format_ne h, ih]

end Enricher

end LogShift
