import Mathlib.Data.List.Perm.Subperm
import RouteMigration.Proofs.KeptNames

/-!
# Names at the top level

The names that statements bind, each as often as it is bound. What becomes of a statement in a migration binds
some of the names that the statement bound. New are the name of the descriptor and, on a page, the name of a
component that has none of its own, which no statement of the module binds.
-/

namespace RouteMigration.Proofs
open Syntax Route

/-! ### Names of statements -/

/-- The names that a declarator binds; what a default value mentions is not bound. -/
def namesOfDeclarator (declarator : Node) : List String :=
  match declarator.form with
  | .declarator name _ _ => bindingNames name
  | _ => []

/-- The names that a declaration of functions, classes or variables binds. -/
def namesOfDeclaration : Form Node → List String
  | .functionDeclaration form => (given form.name).toList
  | .classDeclaration name _ => (given name).toList
  | .variableDeclaration _ declarators => declarators.flatMap namesOfDeclarator
  | _ => []

/-- The names that a statement binds by a declaration, which it is or exports. -/
def declarationNames (statement : Node) : List String :=
  match statement.form with
  | .exportDefault declaration => namesOfDeclaration declaration.form
  | _ => (declared? statement).elim [] namesOfDeclaration

/-- The names that a statement binds, by imports or by a declaration. -/
def boundNamesOf (statement : Node) : List String :=
  localNames (statementBindings statement) ++ declarationNames statement

/-- The names that a body binds, each as often as it does. -/
def topLevelNames (body : List Node) : List String :=
  body.flatMap boundNamesOf

/-- A body binds no name twice. -/
structure NamesDistinct (body : List Node) : Prop where
  nodup : (topLevelNames body).Nodup
  named : "" ∉ topLevelNames body

section Statements

variable {statement : Node}

lemma declarationNames_congr {a b : Node} (h : a.form = b.form) : declarationNames a = declarationNames b := by
  rw [declarationNames, declarationNames, h, declared?_congr h]

lemma statementBindings_congr {a b : Node} (h : import? a = import? b) :
    statementBindings a = statementBindings b := by
  rw [statementBindings, statementBindings, h]

lemma boundNamesOf_congr {a b : Node} (h : a.form = b.form) : boundNamesOf a = boundNamesOf b := by
  rw [boundNamesOf, boundNamesOf, statementBindings_congr (import?_congr h), declarationNames_congr h]

lemma declarationNames_exportNamed {form : ExportForm Node} (h : statement.form = .exportNamed form) :
    declarationNames statement = (form.declaration.map Node.form).elim [] namesOfDeclaration := by
  rw [declarationNames, h, declared?_exportNamed h]

lemma declarationNames_exportDefault {declaration : Node} (h : statement.form = .exportDefault declaration) :
    declarationNames statement = namesOfDeclaration declaration.form := by
  rw [declarationNames, h]

lemma declarationNames_of_import (h : (import? statement).isSome) : declarationNames statement = [] := by
  obtain ⟨form, hform⟩ := import?_isSome h
  rw [declarationNames, declared?_other (by simp [hform]), hform]
  rfl

lemma declarationNames_of_isEmptied (h : isEmptied statement = true) : declarationNames statement = [] := by
  obtain ⟨form, hform, hdeclaration, -⟩ := isEmptied_eq_true h
  rw [declarationNames_exportNamed hform, hdeclaration]
  rfl

/-- A statement that declares values binds the names of its declaration. -/
lemma declarationNames_of_declared {form : Form Node} (h : declared? statement = some form)
    (hvalue : isValueDeclaration form = true) : declarationNames statement = namesOfDeclaration form := by
  rw [declarationNames]
  split
  · next declaration hform =>
    rw [declared?_other (by simp [hform]), hform, Option.some.injEq] at h
    rw [← h] at hvalue
    cases hvalue
  · rw [h]
    rfl

lemma boundNamesOf_of_declared {form : Form Node} (h : declared? statement = some form)
    (hvalue : isValueDeclaration form = true) : boundNamesOf statement = namesOfDeclaration form := by
  have hvalues : DeclaresValues statement := ⟨form, h, hvalue⟩
  rw [boundNamesOf, statementBindings_of_none hvalues.not_import, declarationNames_of_declared h hvalue]
  rfl

lemma isValueDeclaration_trimmed (index : Nat) {form : Form Node} (h : isValueDeclaration form = true) :
    isValueDeclaration (trimmed index form) = true := by
  cases form <;> simp_all [isValueDeclaration, trimmed]

/-! ### Names of rewritten statements -/

lemma declarationNames_unlist (names : List String) (statement : Node) :
    declarationNames (unlist names statement) = declarationNames statement := by
  rcases unlist_cases names statement with hsame | ⟨form, hform, -, -, hunlist⟩
  · rw [hsame]
  · rw [hunlist, declarationNames_exportNamed (form_withForm ..), declarationNames_exportNamed hform]
    rfl

lemma boundNamesOf_unlist (names : List String) (statement : Node) :
    boundNamesOf (unlist names statement) = boundNamesOf statement := by
  rw [boundNamesOf, boundNamesOf, statementBindings_congr (import?_unlist ..), declarationNames_unlist]

lemma boundNamesOf_eraseSpecifier (index : Nat) (statement : Node) :
    boundNamesOf (eraseSpecifier index statement) = boundNamesOf statement := by
  rw [boundNamesOf, boundNamesOf, statementBindings_congr (import?_eraseSpecifier ..)]
  rcases eraseSpecifier_cases index statement with hsame | ⟨form, hform, herase⟩
  · rw [hsame]
  · rw [herase, declarationNames_exportNamed (form_withForm ..), declarationNames_exportNamed hform]

lemma boundNamesOf_withoutExport (h : DeclaresValues statement) :
    boundNamesOf (withoutExport statement) = boundNamesOf statement := by
  have hsame := (declaresValues_withoutExport h).2
  obtain ⟨form, hform, hvalue⟩ := h
  rw [boundNamesOf_of_declared (hsame.trans hform) hvalue, boundNamesOf_of_declared hform hvalue]

lemma namesOfDeclaration_trimmed (index : Nat) (form : Form Node) :
    (namesOfDeclaration (trimmed index form)).Sublist (namesOfDeclaration form) := by
  cases form with
  | variableDeclaration kind declarators => exact (List.eraseIdx_sublist ..).flatMap _
  | _ => exact List.Sublist.refl _

lemma boundNamesOf_eraseDeclarator (index : Nat) (h : DeclaresValues statement) :
    (boundNamesOf (Draft.eraseDeclarator index statement)).Sublist (boundNamesOf statement) := by
  have herased := declared?_eraseDeclarator index statement
  obtain ⟨form, hform, hvalue⟩ := h
  rw [hform, Option.map_some] at herased
  rw [boundNamesOf_of_declared herased (isValueDeclaration_trimmed index hvalue),
    boundNamesOf_of_declared hform hvalue]
  exact namesOfDeclaration_trimmed index form

/-- A declaration keeps its name, or it gets the fresh one. -/
lemma given_getD (fresh : String) (name : Option String) :
    (given (some (name.getD fresh))).toList.Sublist (given name).toList ∨
      ((given (some (name.getD fresh))).toList.Sublist [fresh] ∧ name.getD fresh = fresh) := by
  cases name with
  | none =>
    refine .inr ⟨?_, rfl⟩
    rw [Option.getD_none, given, Option.filter_some]
    split
    · exact List.Sublist.refl _
    · exact List.nil_sublist _
  | some name => exact .inl (List.Sublist.refl _)

/-- An inlined default export binds what it bound, or it gets a name for the component. -/
lemma boundNamesOf_inlineStatement (fresh : String) (statement : Node) :
    (boundNamesOf (inlineStatement fresh statement).1).Sublist (boundNamesOf statement) ∨
      ((boundNamesOf (inlineStatement fresh statement).1).Sublist [fresh] ∧
        (inlineStatement fresh statement).2 = fresh) := by
  rcases exportDefault_or_other statement with ⟨declaration, hform⟩ | hother
  · obtain ⟨hinline, hname⟩ := inlineStatement_default fresh hform
    have hnone : import? statement = none := by rw [import?, hform]
    have hbefore : boundNamesOf statement = namesOfDeclaration declaration.form := by
      rw [boundNamesOf, statementBindings_of_none hnone, declarationNames_exportDefault hform]
      rfl
    rcases inlineComponent_cases fresh declaration with ⟨form, hfunction, hcomponent, hcomponentName⟩ |
      ⟨own, tail, hclass, hcomponent, hcomponentName⟩ | ⟨-, -, hcomponent⟩
    · have hafter : boundNamesOf (inlineStatement fresh statement).1 =
          (given (some (form.name.getD fresh))).toList := by
        rw [boundNamesOf_of_declared (declared?_other (by simp [hinline, hcomponent])) (by rw [hinline, hcomponent]; rfl),
          hinline, hcomponent]
        rfl
      rw [hafter, hbefore, hfunction, hname, hcomponentName]
      exact given_getD fresh form.name
    · have hdeclared : declared? (inlineStatement fresh statement).1 =
          some (.classDeclaration (some (own.getD fresh)) tail) := by
        rw [declared?_other (by simp [hinline, hcomponent]), hinline, hcomponent]
      have hafter : boundNamesOf (inlineStatement fresh statement).1 = (given (some (own.getD fresh))).toList := by
        have hnone : import? (inlineStatement fresh statement).1 = none := by rw [import?, hinline, hcomponent]
        rw [boundNamesOf, statementBindings_of_none hnone, declarationNames, hinline, hcomponent, hdeclared]
        rfl
      rw [hafter, hbefore, hclass, hname, hcomponentName]
      exact given_getD fresh own
    · refine .inr ⟨?_, by rw [hname, hcomponent]⟩
      have hsame : (inlineStatement fresh statement).1.form = (constant fresh declaration).form := by
        rw [hinline, hcomponent]
      rw [boundNamesOf_congr hsame]
      exact List.Sublist.refl _
  · rw [inlineStatement_other fresh hother]
    exact .inl (List.Sublist.refl _)

end Statements

/-! ### Bound and declared names -/

lemma identifierNames_eq (node : Node) : node.identifierNames =
    (match node.form with
      | .identifier name _ => [name]
      | _ => []) ++ node.children.flatMap Node.identifierNames := by
  obtain ⟨info, form⟩ := node
  rw [Node.identifierNames, Node.fold_mk, Form.children_map, map_snd_map_pair, ← List.flatMap_def]
  cases form <;> rfl

/-- A pattern binds identifiers in it. -/
lemma bindingNames_subset (node : Node) : bindingNames node ⊆ node.identifierNames := by
  induction node using node_induction with
  | h info form ih =>
    intro name hname
    rw [identifierNames_eq]
    rw [bindingNames, Node.fold_mk, ← bindingNames] at hname
    cases form with
    | identifier own isType =>
      cases isType with
      | true => cases hname
      | false => exact List.mem_append_left _ hname
    | verbatim kind parts literal =>
      simp only [Form.map, List.mem_flatten, List.mem_map] at hname
      obtain ⟨_, ⟨⟨child, names⟩, hbinding, rfl⟩, hname⟩ := hname
      have hsublist : (bindingParts kind (parts.map (·.map fun n => (n, bindingNames n)))).Sublist
          (parts.map (·.map fun n => (n, bindingNames n))) := by
        unfold bindingParts
        split
        · exact List.nil_sublist _
        · split
          · exact List.takeWhile_sublist _
          · exact List.Sublist.refl _
      have hmem := (hsublist.filterMap Piece.node?).subset hbinding
      have hmem : (child, names) ∈ (nodesOf parts).map fun n => (n, bindingNames n) := by
        rw [← nodesOf_map]
        exact hmem
      obtain ⟨part, hpart, hpair⟩ := List.mem_map.mp hmem
      cases hpair
      exact List.mem_append_right _ (List.mem_flatMap.mpr ⟨child, hpart, ih child hpart hname⟩)
    | _ => cases hname

lemma namesOfDeclarator_subset (declarator : Node) : namesOfDeclarator declarator ⊆ declarator.declaratorNames := by
  unfold namesOfDeclarator Node.declaratorNames
  cases declarator.form with
  | declarator pattern init declaredType => exact fun _ hname => bindingNames_subset pattern hname
  | _ => exact List.nil_subset _

lemma namesOfDeclaration_subset (declaration : Node) :
    namesOfDeclaration declaration.form ⊆ declaration.boundByDeclaration := by
  intro name hname
  rw [Node.boundByDeclaration]
  cases hform : declaration.form with
  | functionDeclaration form =>
    rw [hform] at hname
    exact hname
  | classDeclaration own tail =>
    rw [hform] at hname
    exact hname
  | variableDeclaration kind declarators =>
    rw [hform] at hname
    obtain ⟨declarator, hdeclarator, hname⟩ := List.mem_flatMap.mp hname
    refine List.mem_flatMap.mpr ⟨declarator, hdeclarator, ?_⟩
    exact namesOfDeclarator_subset declarator hname
  | _ =>
    rw [hform] at hname
    cases hname

lemma declarationNames_subset (statement : Node) : declarationNames statement ⊆ statement.declaredNames := by
  intro name hname
  rcases exportNamed_or_other statement with ⟨form, hform⟩ | hother
  · rw [declarationNames_exportNamed hform] at hname
    rw [declaredNames_exportNamed hform]
    cases hdeclaration : form.declaration with
    | none =>
      rw [hdeclaration] at hname
      cases hname
    | some declaration =>
      rw [hdeclaration] at hname
      exact namesOfDeclaration_subset declaration hname
  · rcases exportDefault_or_other statement with ⟨declaration, hform⟩ | hdefault
    · rw [declarationNames_exportDefault hform] at hname
      rw [Node.declaredNames, hform]
      exact namesOfDeclaration_subset declaration hname
    · have hown : name ∈ namesOfDeclaration statement.form := by
        unfold declarationNames at hname
        split at hname
        · next declaration hform => exact absurd hform (hdefault declaration)
        · rwa [declared?_other hother] at hname
      unfold Node.declaredNames
      split
      · next form hform => exact absurd hform (hother form)
      · next declaration hform => exact absurd hform (hdefault declaration)
      · exact namesOfDeclaration_subset statement hown

/-- A name that is taken for no other purpose is bound nowhere. -/
lemma not_mem_topLevelNames {body : List Node} {name : String} (hfresh : name ∉ takenNames body)
    (hnamed : "" ∉ topLevelNames body) : name ∉ topLevelNames body := by
  intro hname
  have hne : name ≠ "" := fun hempty => hnamed (hempty ▸ hname)
  obtain ⟨statement, hstatement, hbound⟩ := List.mem_flatMap.mp hname
  refine hfresh (List.mem_append_left _ ?_)
  rcases List.mem_append.mp hbound with himported | hdeclared
  · refine localNames_subset hne ?_
    obtain ⟨binding, hbinding, rfl⟩ := List.mem_map.mp himported
    exact List.mem_map_of_mem (List.mem_flatMap.mpr ⟨statement, hstatement, hbinding⟩)
  · exact List.mem_flatMap.mpr ⟨statement, hstatement, declarationNames_subset statement hdeclared⟩

end RouteMigration.Proofs
