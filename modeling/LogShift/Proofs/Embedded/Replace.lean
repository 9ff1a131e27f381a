import LogShift.Proofs.Embedded.Frame

/-! Edits of a text. Those that keep its places can be taken apart and done again, and a part of the
text that none of them touches stays where it was. -/
namespace LogShift.Edit

/-- The new text takes as many bytes as the old one. -/
def Keeps (e : Edit) : Prop :=
  e.start + e.text.width = e.stop

namespace Replaces

variable {offset : Nat} {t u : Text} {es : List Edit}

theorem eq_splice (h : Replaces offset t es u) : u = splice offset t es := by
  induction h with
  | done => rfl
  | next hstart hstop h ih => rw [splice_next hstart hstop, ← ih]

theorem prepend {l : Text} (h : Replaces (offset + l.width) t es u) :
    Replaces offset (l ++ t) es (l ++ u) := by
  cases h with
  | done => exact Replaces.done offset (l ++ t)
  | @next _ kept old t u e es hstart hstop h =>
    have hstart' : offset + (l ++ kept).width = e.start := by
      rw [Text.width_append]
      omega
    have hnext := Replaces.next hstart' hstop h
    rwa [List.append_assoc, List.append_assoc] at hnext

theorem append {t' u' : Text} {es' : List Edit} (h : Replaces offset t es u)
    (h' : Replaces (offset + t.width) t' es' u') :
    Replaces offset (t ++ t') (es ++ es') (u ++ u') := by
  induction h with
  | done => exact h'.prepend
  | @next offset kept old t u e es hstart hstop h ih =>
    have hwidth : offset + (kept ++ (old ++ t)).width = e.stop + t.width := by
      rw [Text.width_append, Text.width_append]
      omega
    rw [hwidth] at h'
    have hnext := Replaces.next hstart hstop (ih h')
    simpa only [List.append_assoc, List.cons_append] using hnext

/-- Edits stay the same when each of them is taken apart into edits of the text that it takes
out. -/
theorem refine {α : Type} {f : α → List Edit} {ds : List α} (h : Replaces offset t es u)
    (hr : List.Forall₂ (fun d e => ∀ kept old rest, t = kept ++ (old ++ rest) →
      offset + kept.width = e.start → e.start + old.width = e.stop →
        Replaces e.start old (f d) e.text) ds es) :
    Replaces offset t (ds.flatMap f) u := by
  induction h generalizing ds with
  | done =>
    cases hr
    exact Replaces.done _ _
  | @next offset kept old t u e es hstart hstop h ih =>
    cases hr with
    | @cons d _ ds _ hd hds =>
      have hhead : Replaces e.start old (f d) e.text := hd kept old t rfl hstart hstop
      have htail : Replaces e.stop t (ds.flatMap f) u := by
        apply ih
        refine hds.imp ?_
        intro d' e' hd' kept' old' rest' ht hstart' hstop'
        subst ht
        refine hd' (kept ++ (old ++ kept')) old' rest' (by simp) ?_ hstop'
        rw [Text.width_append, Text.width_append]
        omega
      rw [← hstop] at htail
      have hboth := hhead.append htail
      rw [← hstart] at hboth
      rw [List.flatMap_cons]
      exact hboth.prepend

theorem width_eq (h : Replaces offset t es u) (hkeep : ∀ e ∈ es, e.Keeps) : u.width = t.width := by
  induction h with
  | done => rfl
  | @next offset kept old t u e es hstart hstop h ih =>
    have hwidth : e.start + e.text.width = e.stop := hkeep e List.mem_cons_self
    have hrest := ih fun e' he' => hkeep e' (List.mem_cons_of_mem _ he')
    simp only [Text.width_append]
    omega

/-- Every new text stands where its edit starts. -/
theorem stands (h : Replaces offset t es u) (hkeep : ∀ e ∈ es, e.Keeps) {e : Edit} (he : e ∈ es) :
    ∃ l r, u = l ++ (e.text ++ r) ∧ offset + l.width = e.start := by
  induction h with
  | done => cases he
  | @next offset kept old t u e' es hstart hstop h ih =>
    rcases List.mem_cons.mp he with rfl | he
    · exact ⟨kept, u, rfl, hstart⟩
    · have hwidth : e'.start + e'.text.width = e'.stop := hkeep e' List.mem_cons_self
      obtain ⟨l, r, rfl, hl⟩ := ih (fun e he => hkeep e (List.mem_cons_of_mem _ he)) he
      refine ⟨kept ++ (e'.text ++ l), r, by simp, ?_⟩
      rw [Text.width_append, Text.width_append]
      omega

/-- A part of the new text outside all edits stands at the same byte of the old one. -/
theorem part (h : Replaces offset t es u) (hkeep : ∀ e ∈ es, e.Keeps) {l x r : Text}
    (hu : u = l ++ (x ++ r))
    (hout : ∀ e ∈ es, offset + (l ++ x).width ≤ e.start ∨ e.stop ≤ offset + l.width) :
    ∃ l' r', t = l' ++ (x ++ r') ∧ l'.width = l.width := by
  induction h generalizing l with
  | done => exact ⟨l, r, hu, rfl⟩
  | @next offset kept old t u e es hstart hstop h ih =>
    have hwidth : e.start + e.text.width = e.stop := hkeep e List.mem_cons_self
    rcases hout e List.mem_cons_self with hbefore | hbehind
    · rw [← List.append_assoc l] at hu
      obtain ⟨k, rfl, -⟩ := Text.append_eq_append_of_width_le hu.symm (by omega)
      exact ⟨l, k ++ (old ++ t), by simp, rfl⟩
    · rw [← List.append_assoc] at hu
      obtain ⟨l₀, rfl, hrest⟩ := Text.append_eq_append_of_width_le hu (by
        rw [Text.width_append]
        omega)
      have hlater : ∀ e' ∈ es, e.stop + (l₀ ++ x).width ≤ e'.start ∨ e'.stop ≤ e.stop + l₀.width := by
        intro e' he'
        have := hout e' (List.mem_cons_of_mem _ he')
        simp only [Text.width_append] at this ⊢
        omega
      obtain ⟨l', r', rfl, hl'⟩ :=
        ih (fun e he => hkeep e (List.mem_cons_of_mem _ he)) hrest hlater
      refine ⟨kept ++ (old ++ l'), r', by simp, ?_⟩
      simp only [Text.width_append]
      omega

/-- Edits of the same places give the same text before and after others there. -/
theorem again {es' : List Edit} {w : Text} (h : Replaces offset t es u)
    (hkeep : ∀ e ∈ es, e.Keeps)
    (hspan : List.Forall₂ (fun e e' => e'.start = e.start ∧ e'.stop = e.stop) es es')
    (h' : Replaces offset t es' w) : Replaces offset u es' w := by
  induction h generalizing es' w with
  | done =>
    cases hspan
    exact h'
  | @next offset kept old t u e es hstart hstop h ih =>
    cases hspan with
    | @cons _ e' _ es' hhead htail =>
      obtain ⟨hstart', hstop'⟩ := hhead
      have hwidth : e.start + e.text.width = e.stop := hkeep e List.mem_cons_self
      generalize ht : kept ++ (old ++ t) = t₀ at h'
      cases h' with
      | @next _ kept' old' t' w' _ _ hs hp h' =>
        obtain ⟨rfl, hrest⟩ := Text.append_inj_of_width ht (by omega)
        obtain ⟨rfl, rfl⟩ := Text.append_inj_of_width hrest (by omega)
        have hnew := ih (fun e he => hkeep e (List.mem_cons_of_mem _ he)) htail (hstop' ▸ h')
        exact Replaces.next hs (by omega) (hstop' ▸ hnew)

end Replaces

end LogShift.Edit
