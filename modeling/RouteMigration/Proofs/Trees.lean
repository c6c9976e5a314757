import Mathlib.Data.List.Basic
import Mathlib.Tactic.Common
import RouteMigration.Syntax.Names

/-!
# Trees and the names in them

Induction over a syntax tree, and the names of a tree from its own form and its parts. All of these names
depend on the form alone, so a change of the record beside the form is invisible to them.
-/

namespace RouteMigration.Proofs
open Syntax

/-! ### Induction over the parts -/

lemma sizeOf_piece_lt {parts : List (Piece Node)} {n : Node} (h : n ∈ nodesOf parts) :
    sizeOf n < sizeOf parts := by
  obtain ⟨part, hpart, hn⟩ := List.mem_filterMap.mp h
  have hlt := List.sizeOf_lt_of_mem hpart
  cases part with
  | text s => simp [Piece.node?] at hn
  | node m =>
    obtain rfl : m = n := by simpa [Piece.node?] using hn
    simp only [Piece.node.sizeOf_spec] at hlt
    omega

lemma sizeOf_option_lt {o : Option Node} {n : Node} (h : n ∈ o.toList) : sizeOf n < sizeOf o := by
  obtain rfl : o = some n := by simpa using h
  simp

lemma sizeOf_child_lt {form : Form Node} {child : Node} (h : child ∈ form.children) :
    sizeOf child < sizeOf form := by
  cases form with
  | bare | bareStatement | identifier | stringLiteral | objectPattern | importSpecifier
  | exportSpecifier | importDeclaration => simp [Form.children] at h
  | verbatim kind parts literal =>
    have := sizeOf_piece_lt h
    simp only [Form.verbatim.sizeOf_spec]
    omega
  | parameters items layout =>
    have := sizeOf_piece_lt h
    simp only [Form.parameters.sizeOf_spec]
    omega
  | arrowFunction arrow =>
    obtain ⟨params, body, isAsync, typeParameters, returnType⟩ := arrow
    simp only [Form.children, ArrowForm.children, List.mem_cons, List.mem_append] at h
    simp only [Form.arrowFunction.sizeOf_spec, ArrowForm.mk.sizeOf_spec]
    rcases h with rfl | rfl | h | h
    · omega
    · omega
    · have := sizeOf_option_lt h; omega
    · have := sizeOf_option_lt h; omega
  | functionExpression function | functionDeclaration function =>
    obtain ⟨name, params, body, isAsync, isGenerator, typeParameters, returnType⟩ := function
    simp only [Form.children, FunctionForm.children, List.cons_append, List.mem_cons,
      List.mem_append] at h
    simp only [Form.functionExpression.sizeOf_spec, Form.functionDeclaration.sizeOf_spec,
      FunctionForm.mk.sizeOf_spec]
    rcases h with rfl | (h | h) | h
    · omega
    · have := sizeOf_option_lt h; omega
    · have := sizeOf_option_lt h; omega
    · have := sizeOf_option_lt h; omega
  | call callee arguments typeArguments =>
    simp only [Form.children, List.mem_cons] at h
    simp only [Form.call.sizeOf_spec]
    rcases h with rfl | rfl | h
    · omega
    · omega
    · have := sizeOf_option_lt h; omega
  | declarator name init declaredType =>
    simp only [Form.children, List.mem_cons, List.mem_append] at h
    simp only [Form.declarator.sizeOf_spec]
    rcases h with rfl | h | h
    · omega
    · have := sizeOf_option_lt h; omega
    · have := sizeOf_option_lt h; omega
  | member _ _ | property _ _ | otherStatement _ | classDeclaration _ _ | exportDefault _ =>
    obtain rfl := List.mem_singleton.mp h
    simp only [Form.member.sizeOf_spec, Form.property.sizeOf_spec, Form.otherStatement.sizeOf_spec,
      Form.classDeclaration.sizeOf_spec, Form.exportDefault.sizeOf_spec]
    omega
  | objectExpression nodes | block nodes | variableDeclaration _ nodes =>
    have := List.sizeOf_lt_of_mem (show child ∈ nodes from h)
    simp only [Form.objectExpression.sizeOf_spec, Form.block.sizeOf_spec,
      Form.variableDeclaration.sizeOf_spec]
    omega
  | returnStatement argument =>
    have := sizeOf_option_lt h
    simp only [Form.returnStatement.sizeOf_spec]
    omega
  | exportNamed declaration =>
    have := sizeOf_option_lt h
    obtain ⟨declaration, specifiers, source, typeOnly⟩ := declaration
    simp only [Form.exportNamed.sizeOf_spec, ExportForm.mk.sizeOf_spec]
    dsimp only at this
    omega

/-- A property of nodes holds throughout when it passes from the parts of a node to the node. -/
theorem node_induction {P : Node → Prop}
    (h : ∀ info form, (∀ child ∈ Form.children form, P child) → P ⟨info, form⟩) : ∀ node, P node
  | ⟨info, form⟩ => h info form fun child hchild =>
    have := sizeOf_child_lt hchild
    node_induction h child
  termination_by node => sizeOf node
  decreasing_by
    simp only [Node.mk.sizeOf_spec]
    omega

/-! ### Names from the form -/

lemma map_snd_map_pair {β : Type} (f : Node → β) (nodes : List Node) :
    ((nodes.map fun n => (n, f n)).map Prod.snd) = nodes.map f := by
  simp

lemma ownNames_map {α β : Type} (f : α → β) (form : Form α) : (form.map f).ownNames = form.ownNames := by
  cases form <;> rfl

lemma ownValues_map {α β : Type} (f : α → β) (form : Form α) :
    (form.map f).ownValues = form.ownValues := by
  cases form <;> rfl

lemma isTypeOnly_map {α β : Type} (f : α → β) (form : Form α) :
    (form.map f).isTypeOnly = form.isTypeOnly := by
  cases form <;> rfl

theorem referencedNames_eq (node : Node) :
    node.referencedNames = node.form.ownNames ++ node.children.flatMap Node.referencedNames := by
  obtain ⟨info, form⟩ := node
  rw [Node.referencedNames, Node.fold_mk, ownNames_map, Form.children_map, map_snd_map_pair,
    ← List.flatMap_def]
  rfl

theorem referencedValues_eq (node : Node) :
    node.referencedValues = if node.form.isTypeOnly then []
      else node.form.ownValues ++ node.children.flatMap Node.referencedValues := by
  obtain ⟨info, form⟩ := node
  rw [Node.referencedValues, Node.fold_mk, isTypeOnly_map, ownValues_map, Form.children_map,
    map_snd_map_pair, ← List.flatMap_def]
  rfl

lemma referencedValues_congr {a b : Node} (h : a.form = b.form) :
    a.referencedValues = b.referencedValues := by
  rw [referencedValues_eq, referencedValues_eq b, Node.children, Node.children, h]

lemma ownValues_subset {α : Type} (form : Form α) : form.ownValues ⊆ form.ownNames := by
  cases form with
  | identifier name isType => cases isType <;> simp [Form.ownValues, Form.ownNames]
  | exportNamed declaration =>
    cases hs : declaration.source <;> cases ht : declaration.typeOnly <;>
      simp [Form.ownValues, Form.ownNames, hs, ht]
  | _ => simp [Form.ownValues]

/-- What is needed when the program runs is also referred to. -/
theorem referencedValues_subset (node : Node) : node.referencedValues ⊆ node.referencedNames := by
  induction node using node_induction with
  | h info form ih =>
    rw [referencedValues_eq, referencedNames_eq]
    by_cases ht : form.isTypeOnly
    · simp [Node.form, ht]
    · intro name hname
      simp only [Node.form, ht, Bool.false_eq_true, if_false, List.mem_append, List.mem_flatMap]
        at hname ⊢
      rcases hname with hname | ⟨child, hchild, hname⟩
      · exact .inl (ownValues_subset form hname)
      · exact .inr ⟨child, hchild, ih child hchild hname⟩

end RouteMigration.Proofs
