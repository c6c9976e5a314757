import Mathlib.Data.List.Flatten
import RouteMigration.Proofs.Detaching

/-!
# Names of rewritten statements

What the rewriting of a statement does to the names that it declares and to those that it needs when the
program runs. Taking something out of a statement adds no use. A name that a statement declared goes only
with a declarator, or with a default export that holds no function and no class.
-/

namespace RouteMigration.Proofs
open Syntax Route

/-! ### Uses -/

lemma referencedValues_exportNamed {statement : Node} {form : ExportForm Node}
    (h : statement.form = .exportNamed form) : statement.referencedValues =
      (if form.source.isNone && !form.typeOnly then form.specifiers.map (·.localName) else []) ++
        form.declaration.toList.flatMap Node.referencedValues := by
  rw [referencedValues_eq, Node.children, h]
  rfl

lemma referencedValues_unlist (names : List String) (statement : Node) :
    (unlist names statement).referencedValues ⊆ statement.referencedValues := by
  rcases unlist_cases names statement with hsame | ⟨form, hform, -, -, hunlist⟩
  · rw [hsame]
    exact List.Subset.refl _
  · have hspecifiers : (withoutExports names form).specifiers.map (·.localName) ⊆
        form.specifiers.map (·.localName) := (List.filter_sublist.map _).subset
    rw [hunlist, referencedValues_exportNamed (form_withForm ..), referencedValues_exportNamed hform]
    refine List.append_subset.mpr ⟨?_, List.subset_append_of_subset_right _ (List.Subset.refl _)⟩
    refine List.subset_append_of_subset_left _ ?_
    by_cases hc : (form.source.isNone && !form.typeOnly) = true
    · rw [if_pos hc, if_pos (show ((withoutExports names form).source.isNone &&
        !(withoutExports names form).typeOnly) = true from hc)]
      exact hspecifiers
    · rw [if_neg (show ¬ ((withoutExports names form).source.isNone &&
        !(withoutExports names form).typeOnly) = true from hc)]
      exact List.nil_subset _

lemma referencedValues_withoutExport (statement : Node) :
    (withoutExport statement).referencedValues ⊆ statement.referencedValues := by
  cases h : Draft.unexported statement with
  | none =>
    rw [withoutExport, h]
    exact List.Subset.refl _
  | some declaration =>
    obtain ⟨form, inner, hform, hinner, hsame⟩ := unexported_eq_some h
    rw [withoutExport, h, Option.getD_some, referencedValues_congr hsame, referencedValues_exportNamed hform, hinner]
    intro name hname
    exact List.mem_append_right _ (by simpa using hname)

lemma referencedValues_trimmed (index : Nat) {a b : Node} (h : a.form = trimmed index b.form) :
    a.referencedValues ⊆ b.referencedValues := by
  cases hform : b.form with
  | variableDeclaration kind declarators =>
    rw [hform, trimmed] at h
    rw [referencedValues_eq a, referencedValues_eq b, Node.children, Node.children, h, hform]
    exact ((List.eraseIdx_sublist ..).flatMap _).subset
  | _ =>
    rw [hform, trimmed, ← hform] at h
    · rw [referencedValues_congr h]
      exact List.Subset.refl _
    · simp

lemma referencedValues_eraseDeclarator (index : Nat) (statement : Node) :
    (Draft.eraseDeclarator index statement).referencedValues ⊆ statement.referencedValues := by
  rcases exportNamed_or_other statement with ⟨form, hform⟩ | hform
  · obtain ⟨declaration, herased, hdeclaration⟩ := eraseDeclarator_exportNamed index hform
    rw [referencedValues_exportNamed herased, referencedValues_exportNamed hform]
    refine List.append_subset.mpr ⟨List.subset_append_of_subset_left _ (List.Subset.refl _),
      List.subset_append_of_subset_right _ ?_⟩
    cases hinner : form.declaration with
    | none =>
      rw [hinner, Option.map_none, Option.map_none, Option.map_eq_none_iff] at hdeclaration
      rw [hdeclaration]
      exact List.Subset.refl _
    | some inner =>
      rw [hinner, Option.map_some, Option.map_some, Option.map_eq_some_iff] at hdeclaration
      obtain ⟨erased, rfl, hsame⟩ := hdeclaration
      simpa using referencedValues_trimmed index hsame
  · exact referencedValues_trimmed index (form_eraseDeclarator_other index hform)

/-! ### Declarations -/

lemma boundByDeclaration_congr {a b : Node} (h : a.form = b.form) : a.boundByDeclaration = b.boundByDeclaration := by
  rw [Node.boundByDeclaration, Node.boundByDeclaration, h]

lemma declaredNames_of_form {a b : Node} (h : a.form = b.form) : a.declaredNames = b.declaredNames := by
  rw [Node.declaredNames, Node.declaredNames, boundByDeclaration_congr h, h]

lemma declaredNames_exportNamed {statement : Node} {form : ExportForm Node} (h : statement.form = .exportNamed form) :
    statement.declaredNames = form.declaration.elim [] Node.boundByDeclaration := by
  rw [Node.declaredNames, h]

/-- What a statement declares is what the declaration of a function or of variables binds. -/
lemma declaredNames_of_declared {statement : Node} {form : Form Node} (h : declared? statement = some form)
    (hvalue : isValueDeclaration form = true) : statement.declaredNames = (Node.make form).boundByDeclaration := by
  rcases exportNamed_or_other statement with ⟨e, he⟩ | he
  · rw [declared?_exportNamed he] at h
    obtain ⟨declaration, hdeclaration, hform⟩ := Option.map_eq_some_iff.mp h
    rw [declaredNames_exportNamed he, hdeclaration]
    exact boundByDeclaration_congr hform
  · rw [declared?_other he, Option.some.injEq] at h
    have hbound := @boundByDeclaration_congr statement (Node.make form) h
    rw [← hbound, Node.declaredNames]
    split
    · next e hform => exact absurd hform (he e)
    · next declaration hform =>
      rw [← h, hform] at hvalue
      cases hvalue
    · rfl

lemma declaredNames_congr {a b : Node} (h : declared? a = declared? b) (hvalues : DeclaresValues b) :
    a.declaredNames = b.declaredNames := by
  obtain ⟨form, hform, hvalue⟩ := hvalues
  rw [declaredNames_of_declared (h.trans hform) hvalue, declaredNames_of_declared hform hvalue]

lemma declaredNames_unlist (names : List String) (statement : Node) :
    (unlist names statement).declaredNames = statement.declaredNames := by
  rcases unlist_cases names statement with hsame | ⟨form, hform, -, -, hunlist⟩
  · rw [hsame]
  · rw [hunlist, declaredNames_exportNamed (form_withForm ..), declaredNames_exportNamed hform]
    rfl

lemma declaredNames_eraseSpecifier (index : Nat) (statement : Node) :
    (eraseSpecifier index statement).declaredNames = statement.declaredNames := by
  rcases eraseSpecifier_cases index statement with hsame | ⟨form, hform, herase⟩
  · rw [hsame]
  · rw [herase, declaredNames_exportNamed (form_withForm ..), declaredNames_exportNamed hform]

lemma declaredNames_withoutExport {statement : Node} (h : DeclaresValues statement) :
    (withoutExport statement).declaredNames = statement.declaredNames :=
  declaredNames_congr (declaresValues_withoutExport h).2 h

/-- The declarator binds a plain name. -/
structure NamedDeclarator (name : String) (declarator : Node) : Prop where
  form : ∃ target init declaredType, declarator.form = .declarator target init declaredType ∧
    target.identifier? = some name

lemma NamedDeclarator.declaratorNames {name : String} {declarator : Node} (h : NamedDeclarator name declarator) :
    declarator.declaratorNames = [name] := by
  obtain ⟨target, init, declaredType, hform, htarget⟩ := h.form
  rw [Node.declaratorNames, hform]
  obtain ⟨info, form⟩ := target
  cases form with
  | identifier n isType =>
    obtain rfl : n = name := Option.some.inj htarget
    rfl
  | _ => cases htarget

/-- Without one of its declarators, a declaration binds all but the name of that declarator. -/
lemma mem_trimmed {kind : String} {declarators : List Node} {index : Nat} {declarator : Node} {name other : String}
    (hget : declarators[index]? = some declarator) (hnamed : NamedDeclarator name declarator)
    (hother : other ∈ (Node.make (.variableDeclaration kind declarators)).boundByDeclaration) :
    other = name ∨
      other ∈ (Node.make (trimmed index (.variableDeclaration kind declarators))).boundByDeclaration := by
  obtain ⟨hlt, rfl⟩ := List.getElem?_eq_some_iff.mp hget
  have hperm := (List.getElem_cons_eraseIdx_perm hlt).flatMap_right Node.declaratorNames
  have hmem := hperm.symm.subset hother
  rw [List.flatMap_cons, hnamed.declaratorNames] at hmem
  exact (List.mem_append.mp hmem).imp_left List.mem_singleton.mp

lemma declaredNames_eraseDeclarator (index : Nat) {statement : Node} (h : DeclaresValues statement) :
    (Draft.eraseDeclarator index statement).declaredNames ⊆ statement.declaredNames := by
  obtain ⟨form, hform, hvalue⟩ := h
  have herased := declared?_eraseDeclarator index statement
  rw [hform, Option.map_some] at herased
  cases form with
  | variableDeclaration kind declarators =>
    rw [declaredNames_of_declared herased rfl, declaredNames_of_declared hform hvalue]
    exact ((List.eraseIdx_sublist ..).flatMap _).subset
  | functionDeclaration form =>
    rw [declaredNames_of_declared herased rfl, declaredNames_of_declared hform hvalue]
    exact List.Subset.refl _
  | _ => cases hvalue

/-- The form declares no variables and imports nothing. -/
def IsPlain (form : Form Node) : Prop :=
  (∀ kind declarators, form ≠ .variableDeclaration kind declarators) ∧ ∀ f, form ≠ .importDeclaration f

/-- A default export that declares no variables and imports nothing, as no default export can. -/
def PlainDefault (statement : Node) : Prop :=
  ∀ declaration, statement.form = .exportDefault declaration → IsPlain declaration.form

lemma declaredNames_inlineStatement (fresh : String) {statement : Node} (h : PlainDefault statement) :
    statement.declaredNames ⊆ (inlineStatement fresh statement).1.declaredNames := by
  rcases exportDefault_or_other statement with ⟨declaration, hform⟩ | hform
  · obtain ⟨hinline, -⟩ := inlineStatement_default fresh hform
    obtain ⟨hvariable, himport⟩ := h declaration hform
    have hdeclared : statement.declaredNames = declaration.boundByDeclaration := by
      rw [Node.declaredNames, hform]
    rw [hdeclared]
    intro name hname
    rcases inlineComponent_cases fresh declaration with ⟨form, hfunction, hcomponent, -⟩ |
      ⟨own, tail, hclass, hcomponent, -⟩ | ⟨hfunction, hclass, hcomponent⟩
    · rw [Node.boundByDeclaration, hfunction] at hname
      have hgiven := Option.mem_toList.mp hname
      obtain ⟨hown, hne⟩ := Option.filter_eq_some_iff.mp hgiven
      rw [Node.declaredNames, hinline, hcomponent, Node.boundByDeclaration, hinline, hcomponent, hown]
      exact Option.mem_toList.mpr (Option.filter_eq_some_iff.mpr ⟨rfl, hne⟩)
    · rw [Node.boundByDeclaration, hclass] at hname
      have hgiven := Option.mem_toList.mp hname
      obtain ⟨hown, hne⟩ := Option.filter_eq_some_iff.mp hgiven
      rw [Node.declaredNames, hinline, hcomponent, Node.boundByDeclaration, hinline, hcomponent, hown]
      exact Option.mem_toList.mpr (Option.filter_eq_some_iff.mpr ⟨rfl, hne⟩)
    · -- any other default export declares nothing
      rw [Node.boundByDeclaration] at hname
      split at hname
      · next form hform => exact absurd hform (himport form)
      · next form hform => exact absurd hform (hfunction form)
      · next own tail hform => exact absurd hform (hclass own tail)
      · next kind declarators hform => exact absurd hform (hvariable kind declarators)
      · cases hname
  · rw [inlineStatement_other fresh hform]
    exact List.Subset.refl _

end RouteMigration.Proofs
