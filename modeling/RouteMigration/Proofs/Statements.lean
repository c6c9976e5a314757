import Mathlib.Data.List.Basic
import Mathlib.Tactic.Common
import RouteMigration.Proofs.Trees
import RouteMigration.Route.Migrated

/-!
# Rewritten statements

What the rewriting of a single statement does to what it declares. Most rewritings keep the form of the
declaration that a statement is or exports, and with it all that depends on this form alone.
-/

namespace RouteMigration.Proofs
open Syntax Route

@[simp] lemma form_withForm (node : Node) (form : Form Node) : (node.withForm form).form = form := rfl

@[simp] lemma form_withComment (comment : String) (node : Node) :
    (withComment comment node).form = node.form := rfl

@[simp] lemma form_withGap (gap : Option String) (node : Node) : (withGap gap node).form = node.form := rfl

/-- The form of the declaration that a statement is or exports. -/
def declared? (statement : Node) : Option (Form Node) :=
  statement.exportedDeclaration?.map Node.form

lemma declared?_exportNamed {statement : Node} {form : ExportForm Node}
    (h : statement.form = .exportNamed form) : declared? statement = form.declaration.map Node.form := by
  rw [declared?, Node.exportedDeclaration?, h]

lemma declared?_other {statement : Node} (h : ∀ form, statement.form ≠ .exportNamed form) :
    declared? statement = some statement.form := by
  rw [declared?, Node.exportedDeclaration?]
  split
  · next form hform => exact absurd hform (h form)
  · rfl

lemma exportNamed_or_other (statement : Node) :
    (∃ form, statement.form = .exportNamed form) ∨ ∀ form, statement.form ≠ .exportNamed form := by
  cases h : statement.form <;> simp

lemma declared?_congr {a b : Node} (h : a.form = b.form) : declared? a = declared? b := by
  rcases exportNamed_or_other b with ⟨form, hb⟩ | hb
  · rw [declared?_exportNamed hb, declared?_exportNamed (h.trans hb)]
  · rw [declared?_other hb, declared?_other (by rwa [h]), h]

lemma variableNames_congr {a b : Node} (h : declared? a = declared? b) : variableNames a = variableNames b := by
  unfold declared? at h
  rw [variableNames, variableNames, h]

lemma import?_congr {a b : Node} (h : a.form = b.form) : import? a = import? b := by
  rw [import?, import?, h]

/-! ### Lists of exports -/

lemma localExport?_eq_some {statement : Node} {form : ExportForm Node}
    (h : localExport? statement = some form) :
    statement.form = .exportNamed form ∧ form.declaration = none ∧ form.source = none := by
  rw [localExport?] at h
  split at h
  · next hform =>
    split at h
    · next hc =>
      cases h
      simp only [Bool.and_eq_true, Option.isNone_iff_eq_none] at hc
      exact ⟨hform, hc⟩
    · cases h
  · cases h

/-- Names are taken out of lists of local exports only. -/
lemma unlist_cases (names : List String) (statement : Node) : unlist names statement = statement ∨
    ∃ form, statement.form = .exportNamed form ∧ form.declaration = none ∧ form.source = none ∧
      unlist names statement = statement.withForm (.exportNamed (withoutExports names form)) := by
  cases h : localExport? statement with
  | none => exact .inl (by simp [unlist, h])
  | some form =>
    obtain ⟨hform, hdeclaration, hsource⟩ := localExport?_eq_some h
    by_cases hl : listsExport names statement = true
    · exact .inr ⟨form, hform, hdeclaration, hsource, by simp [unlist, h, hl]⟩
    · exact .inl (by simp [unlist, h, hl])

@[simp] lemma declared?_unlist (names : List String) (statement : Node) :
    declared? (unlist names statement) = declared? statement := by
  rcases unlist_cases names statement with hsame | ⟨form, hform, hnone, -, hunlist⟩
  · rw [hsame]
  · rw [hunlist, declared?_exportNamed hform, declared?_exportNamed (form_withForm ..)]
    rfl

lemma eraseSpecifier_cases (index : Nat) (statement : Node) : eraseSpecifier index statement = statement ∨
    ∃ form, statement.form = .exportNamed form ∧ eraseSpecifier index statement =
      statement.withForm (.exportNamed { form with specifiers := form.specifiers.eraseIdx index }) := by
  rcases exportNamed_or_other statement with ⟨form, h⟩ | h
  · exact .inr ⟨form, h, by simp [eraseSpecifier, h]⟩
  · refine .inl ?_
    rw [eraseSpecifier]
    split
    · next form hform => exact absurd hform (h form)
    · rfl

@[simp] lemma declared?_eraseSpecifier (index : Nat) (statement : Node) :
    declared? (eraseSpecifier index statement) = declared? statement := by
  rcases eraseSpecifier_cases index statement with hsame | ⟨form, hform, herase⟩
  · rw [hsame]
  · rw [herase, declared?_exportNamed hform, declared?_exportNamed (form_withForm ..)]

/-! ### Declarations -/

/-- A declaration without one of its declarators. -/
def trimmed (index : Nat) : Form Node → Form Node
  | .variableDeclaration kind declarators => .variableDeclaration kind (declarators.eraseIdx index)
  | form => form

lemma trimmed_ne_exportNamed (index : Nat) {form : Form Node} (h : ∀ f, form ≠ .exportNamed f)
    (f : ExportForm Node) : trimmed index form ≠ .exportNamed f := by
  cases form <;> simp_all [trimmed]

lemma eraseDeclarator_exportNamed (index : Nat) {statement : Node} {form : ExportForm Node}
    (h : statement.form = .exportNamed form) : ∃ declaration,
      (Draft.eraseDeclarator index statement).form = .exportNamed { form with declaration } ∧
      declaration.map Node.form = (form.declaration.map Node.form).map (trimmed index) := by
  rw [Draft.eraseDeclarator, Draft.mapDeclaration, h]
  refine ⟨_, rfl, ?_⟩
  rw [Option.map_map, Option.map_map]
  congr 1
  funext declaration
  simp only [Function.comp, trimmed]
  split <;> simp_all

lemma form_eraseDeclarator_other (index : Nat) {statement : Node}
    (h : ∀ form, statement.form ≠ .exportNamed form) :
    (Draft.eraseDeclarator index statement).form = trimmed index statement.form := by
  rw [Draft.eraseDeclarator, Draft.mapDeclaration]
  split
  · next form hform => exact absurd hform (h form)
  · simp only [trimmed]
    split <;> simp_all

lemma declared?_eraseDeclarator (index : Nat) (statement : Node) :
    declared? (Draft.eraseDeclarator index statement) = (declared? statement).map (trimmed index) := by
  rcases exportNamed_or_other statement with ⟨form, h⟩ | h
  · obtain ⟨declaration, hform, hdeclaration⟩ := eraseDeclarator_exportNamed index h
    rw [declared?_exportNamed hform, declared?_exportNamed h]
    exact hdeclaration
  · have hform := form_eraseDeclarator_other index h
    have hother : ∀ f, (Draft.eraseDeclarator index statement).form ≠ .exportNamed f := by
      rw [hform]
      exact trimmed_ne_exportNamed index h
    rw [declared?_other hother, hform, declared?_other h]
    rfl

/-- A declaration of a function or of variables. -/
def isValueDeclaration : Form Node → Bool
  | .functionDeclaration _ | .variableDeclaration _ _ => true
  | _ => false

/-- The statement is, or exports, a declaration of a function or of variables. -/
def DeclaresValues (statement : Node) : Prop :=
  ∃ form, declared? statement = some form ∧ isValueDeclaration form = true

lemma declaresValues_congr {a b : Node} (h : declared? a = declared? b) :
    DeclaresValues a ↔ DeclaresValues b := by
  rw [DeclaresValues, DeclaresValues, h]

lemma declaresValues_eraseDeclarator (index : Nat) {statement : Node} (h : DeclaresValues statement) :
    DeclaresValues (Draft.eraseDeclarator index statement) := by
  obtain ⟨form, hform, hvalue⟩ := h
  refine ⟨trimmed index form, by rw [declared?_eraseDeclarator, hform]; rfl, ?_⟩
  cases form <;> simp_all [isValueDeclaration, trimmed]

/-- Without its export, a statement declares what it declared. -/
lemma unexported_eq_some {statement declaration : Node} (h : Draft.unexported statement = some declaration) :
    ∃ form inner, statement.form = .exportNamed form ∧ form.declaration = some inner ∧
      declaration.form = inner.form := by
  rw [Draft.unexported] at h
  split at h
  · next form hform =>
    obtain ⟨inner, hinner, rfl⟩ := Option.map_eq_some_iff.mp h
    exact ⟨form, inner, hform, hinner, rfl⟩
  · cases h

lemma declared?_unexported {statement declaration : Node}
    (h : Draft.unexported statement = some declaration) (hv : DeclaresValues statement) :
    declared? declaration = declared? statement := by
  obtain ⟨form, inner, hform, hinner, hsame⟩ := unexported_eq_some h
  obtain ⟨f, hf, hvalue⟩ := hv
  rw [declared?_exportNamed hform, hinner] at hf ⊢
  obtain rfl : inner.form = f := by simpa using hf
  rw [declared?_other, hsame]
  · rfl
  · intro e he
    rw [hsame] at he
    simp [he, isValueDeclaration] at hvalue

lemma DeclaresValues.not_import {statement : Node} (h : DeclaresValues statement) : import? statement = none := by
  obtain ⟨form, hform, hvalue⟩ := h
  rcases exportNamed_or_other statement with ⟨e, he⟩ | he
  · rw [import?, he]
  · rw [declared?_other he] at hform
    obtain rfl : statement.form = form := by simpa using hform
    rw [import?]
    split
    · next hi => simp [hi, isValueDeclaration] at hvalue
    · rfl

lemma variableNames_eraseDeclarator (index : Nat) (statement : Node) :
    variableNames (Draft.eraseDeclarator index statement) ⊆ variableNames statement := by
  have h := declared?_eraseDeclarator index statement
  unfold declared? at h
  rw [variableNames, variableNames, h]
  cases hd : statement.exportedDeclaration? with
  | none => simp
  | some declaration =>
    cases hform : declaration.form with
    | variableDeclaration kind declarators =>
      simp only [Option.map_some, hform, trimmed]
      exact ((List.eraseIdx_sublist ..).filterMap _).subset
    | _ => simp [hform, trimmed]

/-! ### Statements that declare no variables -/

lemma import?_isSome {statement : Node} (h : (import? statement).isSome) :
    ∃ form, statement.form = .importDeclaration form := by
  rw [import?] at h
  split at h
  · next form hform => exact ⟨form, hform⟩
  · cases h

lemma isEmptied_eq_true {statement : Node} (h : isEmptied statement = true) :
    ∃ form, statement.form = .exportNamed form ∧ form.declaration = none ∧ form.specifiers = [] := by
  rw [isEmptied] at h
  split at h
  · next form hform =>
    simp only [Bool.and_eq_true, Option.isNone_iff_eq_none, List.isEmpty_iff] at h
    exact ⟨form, hform, h.1.1, h.1.2⟩
  · cases h

lemma variableNames_eq_nil {statement : Node}
    (h : ∀ kind declarators, declared? statement ≠ some (.variableDeclaration kind declarators)) :
    variableNames statement = [] := by
  rw [variableNames]
  split
  · next kind declarators hform => exact absurd hform (h kind declarators)
  · rfl

lemma variableNames_of_import {statement : Node} (h : (import? statement).isSome) :
    variableNames statement = [] := by
  obtain ⟨form, hform⟩ := import?_isSome h
  refine variableNames_eq_nil fun kind declarators => ?_
  rw [declared?_other (by simp [hform]), hform]
  simp

lemma variableNames_of_isEmptied {statement : Node} (h : isEmptied statement = true) :
    variableNames statement = [] := by
  obtain ⟨form, hform, hdeclaration, -⟩ := isEmptied_eq_true h
  refine variableNames_eq_nil fun kind declarators => ?_
  rw [declared?_exportNamed hform, hdeclaration]
  simp

end RouteMigration.Proofs
