import RouteMigration.Proofs.Migrations

/-!
# Finishing drafts

The end of a migration edits imports and prunes lists of exports that have become empty. Whatever imports
and empty lists have no part in is the same in the finished body as in that of the draft.
-/

namespace RouteMigration.Proofs
open Syntax Route

lemma dropLegacy_eq (settings : Settings) (used : List String) (body : List Node) :
    dropLegacy settings used body = (remapSources settings.isLegacy settings.sourceRemap
      (removeAll settings.isLegacy settings.sourceRemap
        (staleImports settings.isLegacy (some (settings.envelope :: used)) body) body)).1 :=
  rfl

lemma dropLegacy_edited (settings : Settings) (used : List String) (body : List Node) :
    Edited ImportEdit body (dropLegacy settings used body) := by
  rw [dropLegacy_eq]
  exact importEdited_trans (removeAll_edited _ body) (remapSources_edited _ _ _)

/-! ### Views without imports -/

section Views

variable {β : Type} (view : Node → List β)

lemma importEdited_flatMap (himport : ∀ statement, (import? statement).isSome → view statement = [])
    {body body' : List Node} (h : Edited ImportEdit body body') : body'.flatMap view = body.flatMap view := by
  refine h.flatMap_eq view fun statement place _ hedit => ?_
  cases hedit with
  | other _ => rfl
  | changed hsome hplace =>
    rw [himport statement hsome]
    cases place with
    | none => rfl
    | some node => exact himport node (hplace node rfl).1

lemma applyImports_flatMap (himport : ∀ statement, (import? statement).isSome → view statement = [])
    (body : List Node) (pending : PendingImports) : (applyImports body pending).flatMap view = body.flatMap view := by
  obtain ⟨prologue, rest, hedited, -, -, happly⟩ := applyImports_eq body pending
  have hfresh (requests : List (String × List String)) : (freshImports requests).flatMap view = [] := by
    rw [List.flatMap_eq_nil_iff]
    intro statement hstatement
    obtain ⟨request, -, rfl⟩ := List.mem_map.mp hstatement
    exact himport _ rfl
  rw [happly, List.flatMap_append, List.flatMap_append, hfresh, List.append_nil, ← List.flatMap_append]
  exact importEdited_flatMap view himport hedited

lemma pruneExports_flatMap (hemptied : ∀ statement, isEmptied statement = true → view statement = [])
    (body : List Node) : (pruneExports body).flatMap view = body.flatMap view := by
  refine (edited_filter (R := fun statement place => place = some statement ∨
    (place = none ∧ isEmptied statement = true)) _ body (fun _ _ _ => .inl rfl)
    fun statement _ hp => .inr ⟨rfl, by simpa using hp⟩).flatMap_eq view fun statement place _ hplace => ?_
  rcases hplace with rfl | ⟨rfl, hempty⟩
  · rfl
  · exact (hemptied statement hempty).symm

/-- What imports and emptied lists of exports do not show is the same in the finished body. -/
theorem finish_flatMap (himport : ∀ statement, (import? statement).isSome → view statement = [])
    (hemptied : ∀ statement, isEmptied statement = true → view statement = [])
    (settings : Settings) (kind : Kind) (used : List String) (body : List Node) :
    (finish settings kind used body).flatMap view = body.flatMap view := by
  rw [finish, pruneExports_flatMap view hemptied, applyImports_flatMap view himport]
  exact importEdited_flatMap view himport (dropLegacy_edited settings used body)

end Views

lemma referencedNames_of_import {statement : Node} (h : (import? statement).isSome) :
    statement.referencedNames = [] := by
  obtain ⟨form, hform⟩ := import?_isSome h
  rw [referencedNames_eq, Node.children, hform]
  rfl

lemma referencedNames_of_isEmptied {statement : Node} (h : isEmptied statement = true) :
    statement.referencedNames = [] := by
  obtain ⟨form, hform, hdeclaration, hspecifiers⟩ := isEmptied_eq_true h
  rw [referencedNames_eq, Node.children, hform]
  simp [Form.ownNames, Form.children, hdeclaration, hspecifiers]

/-- Finishing a draft changes none of the names that its statements refer to. -/
lemma finish_referencedNames (settings : Settings) (kind : Kind) (used : List String) (body : List Node) :
    (finish settings kind used body).flatMap Node.referencedNames = body.flatMap Node.referencedNames :=
  finish_flatMap Node.referencedNames (fun _ => referencedNames_of_import) (fun _ => referencedNames_of_isEmptied) settings kind used
    body

end RouteMigration.Proofs
