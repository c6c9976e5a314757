import Mathlib.Data.List.Basic
import Mathlib.Data.List.Forall2
import Mathlib.Tactic.Common

/-!
# Edits of a list

An edit visits the elements of a list in order and replaces each of them by one element or by none. All
stages of a migration are edits of a list of statements in this sense, up to the few statements they add.
-/

namespace RouteMigration.Proofs

/-- The second list comes from the first when every element is replaced as the relation permits. -/
inductive Edited {α : Type} (R : α → Option α → Prop) : List α → List α → Prop where
  | nil : Edited R [] []
  | keep {a b : α} {l l' : List α} : R a (some b) → Edited R l l' → Edited R (a :: l) (b :: l')
  | drop {a : α} {l l' : List α} : R a none → Edited R l l' → Edited R (a :: l) l'

variable {α β : Type} {R S : α → Option α → Prop}

lemma edited_filterMap (f : α → Option α) (l : List α) (h : ∀ a ∈ l, R a (f a)) :
    Edited R l (l.filterMap f) := by
  induction l with
  | nil => exact .nil
  | cons a l ih =>
    have hl := ih fun b hb => h b (by simp [hb])
    have ha := h a (by simp)
    cases hf : f a with
    | none =>
      rw [List.filterMap_cons_none hf]
      exact .drop (hf ▸ ha) hl
    | some b =>
      rw [List.filterMap_cons_some hf]
      exact .keep (hf ▸ ha) hl

lemma edited_map (f : α → α) (l : List α) (h : ∀ a ∈ l, R a (some (f a))) : Edited R l (l.map f) := by
  rw [← List.filterMap_eq_map]
  exact edited_filterMap (some ∘ f) l h

lemma edited_refl (l : List α) (h : ∀ a ∈ l, R a (some a)) : Edited R l l := by
  simpa using edited_map id l h

lemma edited_filter (p : α → Bool) (l : List α) (hkeep : ∀ a ∈ l, p a = true → R a (some a))
    (hdrop : ∀ a ∈ l, p a = false → R a none) : Edited R l (l.filter p) := by
  rw [← List.filterMap_eq_filter]
  refine edited_filterMap (Option.guard p) l fun a ha => ?_
  cases hp : p a with
  | true => simpa [Option.guard, hp] using hkeep a ha hp
  | false => simpa [Option.guard, hp] using hdrop a ha hp

lemma edited_of_forall₂ {l : List α} {places : List (Option α)} (h : List.Forall₂ R l places) :
    Edited R l (places.filterMap id) := by
  induction h with
  | nil => exact .nil
  | @cons a place l places hR _ ih =>
    cases place with
    | none => exact .drop hR ih
    | some b => exact .keep hR ih

lemma Edited.mono {l l' : List α} (h : Edited R l l') (hRS : ∀ a o, a ∈ l → R a o → S a o) :
    Edited S l l' := by
  induction h with
  | nil => exact .nil
  | keep hR _ ih => exact .keep (hRS _ _ (by simp) hR) (ih fun a o ha => hRS a o (by simp [ha]))
  | drop hR _ ih => exact .drop (hRS _ _ (by simp) hR) (ih fun a o ha => hRS a o (by simp [ha]))

/-- Edits after one another are one edit when the relation is closed under composition. -/
lemma Edited.trans {l m n : List α} (h : Edited R l m) (h' : Edited R m n)
    (hnone : ∀ a b, R a (some b) → R b none → R a none)
    (hsome : ∀ a b c, R a (some b) → R b (some c) → R a (some c)) : Edited R l n := by
  induction h generalizing n with
  | nil => cases h'; exact .nil
  | keep hR _ ih =>
    cases h' with
    | keep hS h'' => exact .keep (hsome _ _ _ hR hS) (ih h'')
    | drop hS h'' => exact .drop (hnone _ _ hR hS) (ih h'')
  | drop hR _ ih => exact .drop hR (ih h')

/-- Every element of the result stands for one of the list. -/
lemma Edited.origin {l l' : List α} (h : Edited R l l') {b : α} (hb : b ∈ l') :
    ∃ a ∈ l, R a (some b) := by
  induction h with
  | nil => simp at hb
  | @keep a c l l' hR _ ih =>
    rcases List.mem_cons.mp hb with rfl | hb
    · exact ⟨a, by simp, hR⟩
    · obtain ⟨a', ha', hR'⟩ := ih hb
      exact ⟨a', by simp [ha'], hR'⟩
  | drop _ _ ih =>
    obtain ⟨a', ha', hR'⟩ := ih hb
    exact ⟨a', by simp [ha'], hR'⟩

/-- Every element of the list is replaced in the result or dropped. -/
lemma Edited.fate {l l' : List α} (h : Edited R l l') {a : α} (ha : a ∈ l) :
    R a none ∨ ∃ b ∈ l', R a (some b) := by
  induction h with
  | nil => simp at ha
  | @keep a' b l l' hR _ ih =>
    rcases List.mem_cons.mp ha with rfl | ha
    · exact .inr ⟨b, by simp, hR⟩
    · exact (ih ha).imp_right fun ⟨b', hb', hR'⟩ => ⟨b', by simp [hb'], hR'⟩
  | drop hR _ ih =>
    rcases List.mem_cons.mp ha with rfl | ha
    · exact .inl hR
    · exact ih ha

/-- If each replacement shows in one view what it replaces shows in another, so does the result of the edit. -/
lemma Edited.flatMap_eq_flatMap {l l' : List α} (h : Edited R l l') (view view' : α → List β)
    (hview : ∀ a o, a ∈ l → R a o → o.elim [] view' = view a) : l'.flatMap view' = l.flatMap view := by
  induction h with
  | nil => rfl
  | keep hR _ ih =>
    rw [List.flatMap_cons, List.flatMap_cons, ih fun a o ha => hview a o (by simp [ha])]
    congr 1
    exact hview _ _ (by simp) hR
  | drop hR _ ih =>
    have hnil := hview _ _ (by simp) hR
    rw [List.flatMap_cons, ih fun a o ha => hview a o (by simp [ha]), ← hnil]
    rfl

/-- A view that each replacement keeps is a view that the edit keeps. -/
lemma Edited.flatMap_eq {l l' : List α} (h : Edited R l l') (view : α → List β)
    (hview : ∀ a o, a ∈ l → R a o → o.elim [] view = view a) : l'.flatMap view = l.flatMap view :=
  h.flatMap_eq_flatMap view view hview

/-- If each replacement shows in one view at least what it replaces shows in another, so does the result. -/
lemma Edited.sublist_flatMap {l l' : List α} (h : Edited R l l') (view view' : α → List β)
    (hview : ∀ a o, a ∈ l → R a o → (view a).Sublist (o.elim [] view')) :
    (l.flatMap view).Sublist (l'.flatMap view') := by
  induction h with
  | nil => exact List.Sublist.refl _
  | keep hR _ ih =>
    rw [List.flatMap_cons, List.flatMap_cons]
    exact (hview _ _ (by simp) hR).append (ih fun a o ha => hview a o (by simp [ha]))
  | drop hR _ ih =>
    rw [List.flatMap_cons, List.sublist_nil.mp (hview _ _ (by simp) hR), List.nil_append]
    exact ih fun a o ha => hview a o (by simp [ha])

/-- A view of which each replacement shows a part shows a part of it in the end. -/
lemma Edited.flatMap_sublist {l l' : List α} (h : Edited R l l') (view : α → List β)
    (hview : ∀ a o, a ∈ l → R a o → (o.elim [] view).Sublist (view a)) :
    (l'.flatMap view).Sublist (l.flatMap view) := by
  induction h with
  | nil => exact List.Sublist.refl _
  | keep hR _ ih =>
    rw [List.flatMap_cons, List.flatMap_cons]
    exact (hview _ _ (by simp) hR).append (ih fun a o ha => hview a o (by simp [ha]))
  | drop _ _ ih =>
    rw [List.flatMap_cons]
    exact (ih fun a o ha => hview a o (by simp [ha])).trans (List.sublist_append_right ..)

/-- A key that each replacement keeps occurs in the order it had. -/
lemma Edited.sublist {l l' : List α} (h : Edited R l l') (key : α → β)
    (hkey : ∀ a b, R a (some b) → key b = key a) : (l'.map key).Sublist (l.map key) := by
  induction h with
  | nil => exact .slnil
  | keep hR _ ih =>
    rw [List.map_cons, List.map_cons, hkey _ _ hR]
    exact ih.cons_cons _
  | drop _ _ ih => exact ih.cons _

lemma edited_append {l₁ l₂ l₁' l₂' : List α} (h₁ : Edited R l₁ l₁') (h₂ : Edited R l₂ l₂') :
    Edited R (l₁ ++ l₂) (l₁' ++ l₂') := by
  induction h₁ with
  | nil => exact h₂
  | keep hR _ ih => exact .keep hR ih
  | drop hR _ ih => exact .drop hR ih

lemma Edited.append {l₁ l₂ l' : List α} (h : Edited R (l₁ ++ l₂) l') :
    ∃ l₁' l₂', l' = l₁' ++ l₂' ∧ Edited R l₁ l₁' ∧ Edited R l₂ l₂' := by
  induction l₁ generalizing l' with
  | nil => exact ⟨[], l', rfl, .nil, h⟩
  | cons a l₁ ih =>
    cases h with
    | @keep _ b _ l'' hR h =>
      obtain ⟨l₁', l₂', rfl, h₁, h₂⟩ := ih h
      exact ⟨b :: l₁', l₂', rfl, .keep hR h₁, h₂⟩
    | drop hR h =>
      obtain ⟨l₁', l₂', rfl, h₁, h₂⟩ := ih h
      exact ⟨l₁', l₂', rfl, .drop hR h₁, h₂⟩

end RouteMigration.Proofs
