import RouteMigration.Proofs.Bystanders

/-!
# Statements on either side

The end of a migration edits the statements before and after any statement that it leaves alone, each side
on its own: only an import that is added comes in from outside, and it stands before. What passes such an
edit is the same statement again, or it is an import or a list of exports that may change or go.
-/

namespace RouteMigration.Proofs
open Syntax Route

/-! ### Edits of parts -/

section Edits

variable {α β : Type} {R : α → Option α → Prop} {S T : α → Option α → Prop}

/-- Edits after one another are one edit by what both of them do. -/
lemma Edited.comp {l m n : List α} (h : Edited R l m) (h' : Edited S m n) (hgone : ∀ a, R a none → T a none)
    (hcomp : ∀ a b place, R a (some b) → S b place → T a place) : Edited T l n := by
  induction h generalizing n with
  | nil => cases h'; exact .nil
  | keep hR _ ih =>
    cases h' with
    | keep hS h'' => exact .keep (hcomp _ _ _ hR hS) (ih h'')
    | drop hS h'' => exact .drop (hcomp _ _ _ hR hS) (ih h'')
  | drop hR _ ih => exact .drop (hgone _ hR) (ih h')

lemma Edited.image {R : α → Option α → Prop} {S : β → Option β → Prop} {l l' : List α} (h : Edited R l l')
    (f : α → β) (hf : ∀ a ∈ l, ∀ place, R a place → S (f a) (place.map f)) : Edited S (l.map f) (l'.map f) := by
  induction h with
  | nil => exact .nil
  | keep hR _ ih => exact .keep (hf _ (List.mem_cons_self ..) _ hR) (ih fun a ha => hf a (List.mem_cons_of_mem _ ha))
  | drop hR _ ih => exact .drop (hf _ (List.mem_cons_self ..) _ hR) (ih fun a ha => hf a (List.mem_cons_of_mem _ ha))

/-- An edit that leaves an element alone edits what stands before and after it. -/
lemma Edited.around {before after l : List α} {a : α} (h : Edited R (before ++ a :: after) l)
    (ha : ∀ place, R a place → place = some a) :
    ∃ before' after', l = before' ++ a :: after' ∧ Edited R before before' ∧ Edited R after after' := by
  obtain ⟨before', rest, rfl, hbefore, hrest⟩ := h.append
  cases hrest with
  | keep hR hafter =>
    cases ha _ hR
    exact ⟨before', _, rfl, hbefore, hafter⟩
  | drop hR _ => cases ha _ hR

end Edits

/-! ### What passes -/

/-- What a migration makes of a statement that it is not about: an import may change or go, and so may a list of
exports; every other statement stays as it is. -/
inductive Passed (statement : Node) : Option Node → Prop where
  | same : Passed statement (some statement)
  | mover {place : Option Node} : isBystander statement = false → (∀ node ∈ place, isBystander node = false) →
      Passed statement place

lemma Passed.eq_of_bystander {statement : Node} {place : Option Node} (h : Passed statement place)
    (hstays : isBystander statement = true) : place = some statement := by
  cases h with
  | same => rfl
  | mover hmoves _ => cases hstays.symm.trans hmoves

lemma Passed.trans {a b : Node} {place : Option Node} (h : Passed a (some b)) (h' : Passed b place) :
    Passed a place := by
  cases h with
  | same => exact h'
  | mover ha hb =>
    cases h' with
    | same => exact .mover ha hb
    | mover _ hplace => exact .mover ha hplace

lemma ImportEdit.eq_of_other {statement : Node} {place : Option Node} (hother : import? statement = none)
    (h : ImportEdit statement place) : place = some statement := by
  cases h with
  | other _ => rfl
  | changed hsome _ => simp [hother] at hsome

lemma ImportEdit.passed {statement : Node} {place : Option Node} (h : ImportEdit statement place) :
    Passed statement place := by
  cases h with
  | other _ => exact .same
  | changed hsome hplace => exact .mover (isBystander_of_import hsome) fun node hnode => isBystander_of_import (hplace node hnode).1

lemma passed_trans {l m n : List Node} (h : Edited Passed l m) (h' : Edited Passed m n) : Edited Passed l n :=
  h.comp h' (fun _ hgone => hgone) fun _ _ _ => Passed.trans

lemma pruneExports_passed (body : List Node) : Edited Passed body (pruneExports body) := by
  refine edited_filter _ _ (fun _ _ _ => .same) fun statement _ hemptied => ?_
  exact .mover (isBystander_of_isEmptied (by simpa using hemptied)) nofun

/-- A bystander is still there when the statements around it have passed. -/
lemma mem_of_passed {l l' : List Node} (h : Edited Passed l l') {statement : Node} (hmem : statement ∈ l)
    (hstays : isBystander statement = true) : statement ∈ l' := by
  rcases h.fate hmem with hgone | ⟨node, hnode, hpassed⟩
  · cases hgone.eq_of_bystander hstays
  · cases hpassed.eq_of_bystander hstays
    exact hnode

/-- A bystander that is there when the statements have passed was there before. -/
lemma mem_before_passed {l l' : List Node} (h : Edited Passed l l') {statement : Node} (hmem : statement ∈ l')
    (hstays : isBystander statement = true) : statement ∈ l := by
  obtain ⟨source, hsource, hpassed⟩ := h.origin hmem
  cases hpassed with
  | same => exact hsource
  | mover _ hmoves => cases hstays.symm.trans (hmoves statement rfl)

/-! ### Finishing around a statement -/

/-- The result has the statements of the body that passed, and imports that were added among them. -/
def WithImports (body result : List Node) : Prop :=
  ∃ first added second, result = first ++ added ++ second ∧ Edited Passed body (first ++ second) ∧
    ∀ node ∈ added, (import? node).isSome

lemma WithImports.prune {body result : List Node} (h : WithImports body result) :
    WithImports body (pruneExports result) := by
  obtain ⟨first, added, second, rfl, hpassed, hadded⟩ := h
  refine ⟨pruneExports first, pruneExports added, pruneExports second, ?_, ?_, fun node hnode => ?_⟩
  · simp only [pruneExports, List.filter_append]
  · have hpruned := pruneExports_passed (first ++ second)
    rw [pruneExports, List.filter_append] at hpruned
    exact passed_trans hpassed hpruned
  · exact hadded node (List.mem_of_mem_filter hnode)

lemma WithImports.after {body middle result : List Node} (h : Edited Passed body middle)
    (h' : WithImports middle result) : WithImports body result := by
  obtain ⟨first, added, second, hresult, hpassed, hadded⟩ := h'
  exact ⟨first, added, second, hresult, passed_trans h hpassed, hadded⟩

lemma WithImports.mem {body result : List Node} (h : WithImports body result) {statement : Node}
    (hmem : statement ∈ body) (hstays : isBystander statement = true) : statement ∈ result := by
  obtain ⟨first, added, second, rfl, hpassed, -⟩ := h
  have hstill := mem_of_passed hpassed hmem hstays
  simp only [List.mem_append] at hstill ⊢
  tauto

/-- An added import is no bystander. -/
lemma WithImports.mem_before {body result : List Node} (h : WithImports body result) {statement : Node}
    (hmem : statement ∈ result) (hstays : isBystander statement = true) : statement ∈ body := by
  obtain ⟨first, added, second, rfl, hpassed, hadded⟩ := h
  have hnot : statement ∉ added := fun hmem => by
    cases hstays.symm.trans (isBystander_of_import (hadded statement hmem))
  refine mem_before_passed hpassed ?_ hstays
  simp only [List.mem_append] at hmem ⊢
  tauto

variable {before after : List Node} {statement : Node}

/-- New imports come in before every statement that is no directive. -/
lemma applyImports_around (hother : import? statement = none) (hdirective : isDirective statement = false)
    (pending : PendingImports) : ∃ before' after',
      applyImports (before ++ statement :: after) pending = before' ++ statement :: after' ∧
        WithImports before before' ∧ Edited Passed after after' := by
  obtain ⟨prologue, rest, hedited, hprologue, -, happly⟩ := applyImports_eq (before ++ statement :: after) pending
  obtain ⟨before', after', hsplit, hbefore, hafter⟩ := hedited.around fun _ => ImportEdit.eq_of_other hother
  have hadded : ∀ node ∈ freshImports ((missingImports (before ++ statement :: after) pending).filter
      fun request => !(before ++ statement :: after).any (takesNamesFrom request.1)), (import? node).isSome := by
    intro node hnode
    obtain ⟨request, -, rfl⟩ := List.mem_map.mp hnode
    rfl
  have hpassed := hbefore.mono fun _ _ _ => ImportEdit.passed
  have hnot : statement ∉ prologue := fun hmem => by simp [hprologue _ hmem] at hdirective
  rw [happly]
  rcases List.append_eq_append_iff.mp hsplit with ⟨middle, rfl, rfl⟩ | ⟨middle, hmiddle, hrest⟩
  · exact ⟨_, after', (List.append_assoc ..).symm, ⟨prologue, _, middle, rfl, hpassed, hadded⟩,
      hafter.mono fun _ _ _ => ImportEdit.passed⟩
  · -- the statement would be a directive if the prologue went beyond what is before it
    cases middle with
    | nil =>
      rw [List.append_nil] at hmiddle
      rw [List.nil_append] at hrest
      refine ⟨_, after', by rw [hrest], ⟨prologue, _, [], (List.append_nil _).symm, ?_, hadded⟩,
        hafter.mono fun _ _ _ => ImportEdit.passed⟩
      rwa [List.append_nil, hmiddle]
    | cons head middle =>
      rw [List.cons_append, List.cons.injEq] at hrest
      rw [hmiddle, ← hrest.1] at hnot
      exact absurd (List.mem_append_right _ (List.mem_cons_self ..)) hnot

/-- Finishing a draft edits what stands on either side of a statement that it leaves alone. -/
theorem finish_around (hother : import? statement = none) (hdirective : isDirective statement = false)
    (hemptied : isEmptied statement = false) (settings : Settings) (kind : Kind) (used : List String) :
    ∃ before' after', finish settings kind used (before ++ statement :: after) = before' ++ statement :: after' ∧
      WithImports before before' ∧ Edited Passed after after' := by
  obtain ⟨before₁, after₁, hdrop, hbefore₁, hafter₁⟩ :=
    (dropLegacy_edited settings used (before ++ statement :: after)).around
      fun _ => ImportEdit.eq_of_other hother
  obtain ⟨before₂, after₂, happly, hbefore₂, hafter₂⟩ :=
    @applyImports_around before₁ after₁ statement hother hdirective (pendingImports settings kind)
  refine ⟨pruneExports before₂, pruneExports after₂, ?_, ?_, ?_⟩
  · rw [finish, hdrop, happly, pruneExports, List.filter_append, List.filter_cons_of_pos (by simp [hemptied])]
    rfl
  · exact (WithImports.after (hbefore₁.mono fun _ _ _ => ImportEdit.passed) hbefore₂).prune
  · exact passed_trans (passed_trans (hafter₁.mono fun _ _ _ => ImportEdit.passed) hafter₂) (pruneExports_passed _)

end RouteMigration.Proofs
