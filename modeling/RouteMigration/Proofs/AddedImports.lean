import Mathlib.Data.List.TakeDrop
import Mathlib.Data.List.TakeWhile
import RouteMigration.Proofs.Rebinding

/-!
# Added imports

Imports that are added join a statement of their source or stand in statements of their own below the
directives of the module. Either way the body gets exactly the bindings that were missing, and the other
statements keep their order.
-/

namespace RouteMigration.Proofs
open Syntax Route

/-- The bindings that stand for requests of names. -/
def requestedBindings (requests : List (String × List String)) : List Binding :=
  requests.flatMap fun (source, names) => namedBindings source (specifiersOf names)

lemma mapImport_of_import {statement : Node} {form : ImportForm} (h : import? statement = some form)
    (f : ImportForm → ImportForm) : import? (mapImport f statement) = some (f form) := by
  obtain ⟨info, nodeForm⟩ := statement
  cases nodeForm <;> simp_all [import?, mapImport, Node.form, Node.withForm]

lemma info_mapImport (f : ImportForm → ImportForm) (statement : Node) : (mapImport f statement).info = statement.info := by
  unfold mapImport
  split <;> rfl

lemma mergeNames_cases (body : List Node) (request : String × List String) :
    (∃ before statement after form, body = before ++ statement :: after ∧ import? statement = some form ∧
      form.source = request.1 ∧ isMergeable form = true ∧
      mergeNames body request =
        before ++ mapImport (addSpecifiers (specifiersOf request.2)) statement :: after) ∨
    (body.any (takesNamesFrom request.1) = false ∧ mergeNames body request = body) := by
  cases h : body.findIdx? (takesNamesFrom request.1) with
  | none =>
    rw [List.findIdx?_eq_none_iff] at h
    exact .inr ⟨by simpa using h, by simp [mergeNames, List.findIdx?_eq_none_iff.mpr h]⟩
  | some index =>
    obtain ⟨hlt, htakes, -⟩ := List.findIdx?_eq_some_iff_getElem.mp h
    obtain ⟨form, himport, hsource, hmerge⟩ := takesNamesFrom_iff.mp htakes
    refine .inl ⟨body.take index, body[index], body.drop (index + 1), form, ?_, himport, hsource, hmerge, ?_⟩
    · rw [List.getElem_cons_drop, List.take_append_drop]
    · rw [mergeNames, h]
      exact List.modify_eq_take_cons_drop hlt

lemma mergeNames_edited (body : List Node) (request : String × List String) :
    Edited ImportEdit body (mergeNames body request) := by
  have hrefl (l : List Node) := edited_refl (R := ImportEdit) l fun statement _ => importEdit_self statement
  rcases mergeNames_cases body request with ⟨before, statement, after, form, rfl, himport, -, -, hmerged⟩ | ⟨-, hmerged⟩
  · rw [hmerged]
    refine edited_append (hrefl before) (.keep (.changed (by simp [himport]) ?_) (hrefl after))
    simp [mapImport_of_import himport, info_mapImport]
  · rw [hmerged]
    exact hrefl body

/-- Merging names changes no statement's readiness to take names. -/
lemma any_mergeNames (body : List Node) (request : String × List String) (source : String) :
    (mergeNames body request).any (takesNamesFrom source) = body.any (takesNamesFrom source) := by
  rcases mergeNames_cases body request with ⟨before, statement, after, form, rfl, himport, -, -, hmerged⟩ | ⟨-, hmerged⟩
  · have htakes : takesNamesFrom source (mapImport (addSpecifiers (specifiersOf request.2)) statement) =
        takesNamesFrom source statement := by
      simp only [takesNamesFrom, mapImport_of_import himport, himport]
      rfl
    rw [hmerged]
    simp [htakes]
  · rw [hmerged]

lemma importBindings_mergeNames {body : List Node} {request : String × List String}
    (h : body.any (takesNamesFrom request.1) = true) :
    (importBindings (mergeNames body request)).Perm
      (importBindings body ++ namedBindings request.1 (specifiersOf request.2)) := by
  rcases mergeNames_cases body request with
    ⟨before, statement, after, form, rfl, himport, hsource, hmerge, hmerged⟩ | ⟨hnone, -⟩
  · rw [hmerged, ← hsource]
    simp only [importBindings, List.flatMap_append, List.flatMap_cons,
      statementBindings_of_import (mapImport_of_import himport _), statementBindings_of_import himport]
    have hadd := bindingsOf_addSpecifiers hmerge (specifiersOf request.2)
    calc before.flatMap statementBindings ++ (bindingsOf (addSpecifiers (specifiersOf request.2) form) ++
          after.flatMap statementBindings)
      _ |>.Perm (before.flatMap statementBindings ++ ((bindingsOf form ++
          namedBindings form.source (specifiersOf request.2)) ++ after.flatMap statementBindings)) :=
        (hadd.append_right _).append_left _
      _ |>.Perm (before.flatMap statementBindings ++ ((bindingsOf form ++
          after.flatMap statementBindings) ++ namedBindings form.source (specifiersOf request.2))) := by
        rw [List.append_assoc, List.append_assoc]
        exact (List.perm_append_comm.append_left _).append_left _
      _ |>.Perm (before.flatMap statementBindings ++ (bindingsOf form ++ after.flatMap statementBindings) ++
          namedBindings form.source (specifiersOf request.2)) := by
        rw [← List.append_assoc]
  · rw [hnone] at h
    cases h

lemma foldl_mergeNames_edited (requests : List (String × List String)) (body : List Node) :
    Edited ImportEdit body (requests.foldl mergeNames body) := by
  induction requests generalizing body with
  | nil => exact edited_refl body fun statement _ => importEdit_self statement
  | cons request requests ih => exact importEdited_trans (mergeNames_edited body request) (ih _)

lemma importBindings_foldl_mergeNames (requests : List (String × List String)) (body : List Node) :
    (importBindings (requests.foldl mergeNames body)).Perm (importBindings body ++
      requestedBindings (requests.filter fun request => body.any (takesNamesFrom request.1))) := by
  induction requests generalizing body with
  | nil => simp [requestedBindings]
  | cons request requests ih =>
    have hrest := ih (mergeNames body request)
    simp only [any_mergeNames] at hrest
    rw [List.foldl_cons]
    by_cases h : body.any (takesNamesFrom request.1) = true
    · simp only [List.filter_cons, h, if_true]
      refine hrest.trans (((importBindings_mergeNames h).append_right _).trans ?_)
      rw [List.append_assoc]
      rfl
    · have hsame : mergeNames body request = body := by
        rcases mergeNames_cases body request with ⟨_, statement, _, form, rfl, himport, hsource, hmerge, -⟩ | hnone
        · refine absurd ?_ h
          rw [List.any_append, List.any_cons, takesNamesFrom_iff.mpr ⟨form, himport, hsource, hmerge⟩]
          simp
        · exact hnone.2
      simp only [List.filter_cons, h]
      rwa [hsame] at hrest ⊢

/-- The statements of their own that requests get. -/
def freshImports (requests : List (String × List String)) : List Node :=
  requests.map fun (source, names) =>
    Node.make (.importDeclaration { source, specifiers := specifiersOf names })

lemma importBindings_freshImports (requests : List (String × List String)) :
    importBindings (freshImports requests) = requestedBindings requests := by
  rw [importBindings, freshImports, List.flatMap_map, requestedBindings]
  congr 1
  funext request
  obtain ⟨source, names⟩ := request
  simp [statementBindings, import?, Node.make, Node.form, bindingsOf, clausesOf, namedBindings]

/-- Added imports stand between the directives and the other statements of a body that differs from the
given one in its imports only. -/
lemma applyImports_eq (body : List Node) (pending : PendingImports) :
    ∃ prologue rest, Edited ImportEdit body (prologue ++ rest) ∧ (∀ s ∈ prologue, isDirective s = true) ∧
      (importBindings (prologue ++ rest)).Perm (importBindings body ++ requestedBindings
        ((missingImports body pending).filter fun request => body.any (takesNamesFrom request.1))) ∧
      applyImports body pending = prologue ++ freshImports
        ((missingImports body pending).filter fun request => !body.any (takesNamesFrom request.1)) ++ rest := by
  let merged := (missingImports body pending).foldl mergeNames body
  have hspan : merged.span isDirective = (merged.takeWhile isDirective, merged.dropWhile isDirective) :=
    List.span_eq_takeWhile_dropWhile isDirective merged
  refine ⟨merged.takeWhile isDirective, merged.dropWhile isDirective, ?_,
    fun s hs => List.mem_takeWhile_imp hs, ?_, ?_⟩
  · rw [List.takeWhile_append_dropWhile]
    exact foldl_mergeNames_edited _ body
  · rw [List.takeWhile_append_dropWhile]
    exact importBindings_foldl_mergeNames _ body
  · rw [applyImports, hspan]
    rfl

/-- The added imports make the missing bindings and no others. -/
theorem importBindings_applyImports (body : List Node) (pending : PendingImports) :
    (importBindings (applyImports body pending)).Perm
      (importBindings body ++ requestedBindings (missingImports body pending)) := by
  obtain ⟨prologue, rest, -, -, hperm, happly⟩ := applyImports_eq body pending
  let taken := fun request : String × List String => body.any (takesNamesFrom request.1)
  have hsplit : (requestedBindings ((missingImports body pending).filter taken) ++
      requestedBindings ((missingImports body pending).filter fun request => !taken request)).Perm
      (requestedBindings (missingImports body pending)) := by
    rw [requestedBindings, requestedBindings, ← List.flatMap_append]
    exact (List.filter_append_perm taken _).flatMap_right _
  rw [happly]
  simp only [importBindings, List.flatMap_append] at hperm ⊢
  have hfresh := importBindings_freshImports ((missingImports body pending).filter fun request => !taken request)
  rw [importBindings] at hfresh
  rw [hfresh]
  refine (List.perm_append_comm.append_right _).trans ?_
  rw [List.append_assoc]
  refine (hperm.append_left _).trans (List.perm_append_comm.trans ?_)
  rw [List.append_assoc]
  exact hsplit.append_left _

end RouteMigration.Proofs
