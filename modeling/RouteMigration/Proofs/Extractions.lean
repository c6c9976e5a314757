import RouteMigration.Proofs.Attachments
import RouteMigration.Proofs.Printing
import RouteMigration.Route.Handler

/-!
# Handlers that can be taken out

A handler that has been located is a function with a body, so it can be taken out of its declaration. What is left
behind is a function with a body again: the same declaration can serve a second handler. What the parts of a tree
inherit, a function inherits from the statement that declares it.
-/

namespace RouteMigration.Proofs
open Syntax Route

/-- A function with a body. -/
def HasBody (node : Node) : Prop :=
  ∃ signature body, Signature.ofNode? node = some signature ∧ signature.body = some body

lemma hasBody_of_isCallable {node : Node} (h : isCallable node = true) : HasBody node := by
  obtain ⟨info, form⟩ := node
  cases form with
  | arrowFunction arrow => exact ⟨_, arrow.body, rfl, rfl⟩
  | functionExpression form =>
    obtain ⟨body, hbody⟩ := Option.isSome_iff_exists.mp h
    exact ⟨_, body, rfl, hbody⟩
  | _ => cases h

/-- An initial value is the function itself or a wrapper around it. -/
lemma callable?_cases {node function : Node} (h : callable? node = some function) :
    (function = node ∧ isCallable node = true) ∨ ∃ kind parts literal, node.form = .verbatim kind parts literal ∧
      ∃ inner ∈ nodesOf parts, callable? inner = some function := by
  obtain ⟨info, form⟩ := node
  rw [callable?, Node.fold_mk, ← callable?] at h
  have hsame : (⟨info, (form.map fun n => (n, callable? n)).map Prod.fst⟩ : Node) = ⟨info, form⟩ := by
    rw [map_fst_map_pair]
  cases form with
  | verbatim kind parts literal =>
    dsimp only [Form.map] at h
    rw [nodesOf_map] at h
    split at h
    · obtain ⟨found, hfound, hcallable⟩ := Option.bind_eq_some_iff.mp h
      obtain ⟨inner, hinner, rfl⟩ := List.mem_map.mp (List.mem_of_head? hfound)
      exact .inr ⟨kind, parts, literal, rfl, inner, hinner, hcallable⟩
    · cases h
  | _ =>
    dsimp only [Form.map] at hsame h
    rw [hsame] at h
    split at h
    · next hcallable =>
      cases h
      exact .inl ⟨rfl, hcallable⟩
    · cases h

/-- The function inside of an initial value has a body. -/
lemma hasBody_of_callable {node function : Node} (h : callable? node = some function) : HasBody function := by
  induction node using node_induction with
  | h info form ih =>
    rcases callable?_cases h with ⟨rfl, hcallable⟩ | ⟨kind, parts, literal, hform, inner, hinner, hfound⟩
    · exact hasBody_of_isCallable hcallable
    · obtain rfl : form = .verbatim kind parts literal := hform
      exact ih inner hinner hfound

lemma DeclaredBy.hasBody {located : Located} {form : Form Node} (h : DeclaredBy located form) :
    HasBody located.function := by
  rcases h with ⟨-, hform, -, hbody, hfunction⟩ | ⟨-, -, -, -, hcallable⟩
  · obtain ⟨body, hbody⟩ := Option.isSome_iff_exists.mp hbody
    rw [hfunction]
    exact ⟨_, body, by rw [Signature.ofNode?, hform], hbody⟩
  · obtain ⟨value, -, hcallable⟩ := Option.bind_eq_some_iff.mp hcallable
    exact hasBody_of_callable hcallable

lemma hasBody_replace {node : Node} (h : HasBody node) (params body : Node) :
    HasBody (Signature.replace params (some body) node) := by
  obtain ⟨signature, -, hsignature, -⟩ := h
  obtain ⟨info, form⟩ := node
  cases form with
  | arrowFunction _ => exact ⟨_, body, rfl, rfl⟩
  | functionExpression _ => exact ⟨_, body, rfl, rfl⟩
  | functionDeclaration _ => exact ⟨_, body, rfl, rfl⟩
  | _ => cases hsignature

/-- A function with a body can be taken out, and leaves such a function behind. -/
theorem exists_extract {located : Located} (h : HasBody located.function) (settings : Settings) (kind : Kind) :
    ∃ handler, extract? settings kind located = some handler ∧ HasBody handler.source := by
  have hbody := h
  obtain ⟨signature, body, hsignature, hbody'⟩ := h
  rw [extract?, hsignature, Option.bind_eq_bind, Option.bind_some, hbody', Option.bind_eq_bind, Option.bind_some]
  exact ⟨_, rfl, hasBody_replace hbody _ _⟩

/-! ### What located functions inherit -/

/-- A property of trees by their forms that is inherited by their parts. -/
structure Hereditary (P : Node → Prop) : Prop where
  part {node part : Node} : P node → part ∈ freeParts node.form → P part
  congr {a b : Node} : a.form = b.form → P a → P b

lemma hereditary_throughout (P : Form Node → Prop) : Hereditary (Throughout fun n => P n.form) where
  part h hpart := h.child (freeParts_subset hpart)
  congr h := (throughout_congr h).mp

lemma stripParentheses_cases (node : Node) : stripParentheses node = node ∨
    ∃ inner, node.isVerbatim "parenthesized_expression" = true ∧ node.verbatimNodes = [inner] ∧
      stripParentheses node = stripParentheses inner := by
  obtain ⟨info, form⟩ := node
  have hsame : (⟨info, (form.map fun n => (n, stripParentheses n)).map Prod.fst⟩ : Node) = ⟨info, form⟩ := by
    rw [map_fst_map_pair]
  rw [stripParentheses, Node.fold_mk, ← stripParentheses]
  cases form with
  | verbatim kind parts literal =>
    have hnodes : nodesOf (parts.map (·.map fun n => (n, stripParentheses n))) =
        (nodesOf parts).map fun n => (n, stripParentheses n) := nodesOf_map ..
    dsimp only [Form.map] at hsame ⊢
    rw [hnodes]
    split
    · next inner hkind heq =>
      obtain ⟨n, hn, heq⟩ := List.map_eq_singleton_iff.mp heq
      cases heq
      exact .inr ⟨_, decide_eq_true (congrArg some (of_decide_eq_true hkind)), hn, rfl⟩
    · exact .inl hsame
  | _ => exact .inl hsame

namespace Hereditary

variable {P : Node → Prop} (hP : Hereditary P)
include hP

lemma stripParentheses {node : Node} (h : P node) : P (stripParentheses node) := by
  induction node using node_induction with
  | h info form ih =>
    rcases stripParentheses_cases ⟨info, form⟩ with hsame | ⟨inner, -, hinner, hstrip⟩
    · rwa [hsame]
    · have hpart : inner ∈ freeParts (Node.form ⟨info, form⟩) := by
        refine mem_freeParts_of_verbatimNodes ?_
        rw [hinner]
        exact List.mem_singleton_self inner
      rw [hstrip]
      exact ih inner (freeParts_subset hpart) (hP.part h hpart)

/-- The function inside of an initial value. -/
lemma callable {node function : Node} (h : P node) (hcallable : callable? node = some function) : P function := by
  induction node using node_induction with
  | h info form ih =>
    rcases callable?_cases hcallable with ⟨rfl, -⟩ | ⟨kind, parts, literal, hform, inner, hinner, hfound⟩
    · exact h
    · obtain rfl : form = .verbatim kind parts literal := hform
      exact ih inner hinner (hP.part h hinner) hfound

/-- What a statement declares. -/
lemma declared {statement node : Node} (h : P statement) (hdeclared : declared? statement = some node.form) :
    P node := by
  rcases exportNamed_or_other statement with ⟨exported, hexport⟩ | hother
  · rw [declared?_exportNamed hexport] at hdeclared
    obtain ⟨declaration, hdeclaration, hform⟩ := Option.map_eq_some_iff.mp hdeclared
    refine hP.congr hform (hP.part h ?_)
    rw [hexport]
    exact Option.mem_toList.mpr hdeclaration
  · rw [declared?_other hother, Option.some.injEq] at hdeclared
    exact hP.congr hdeclared h

/-- A function that is located among statements. -/
theorem locate {body : List Node} {name : String} {located : Located} (hbody : ∀ statement ∈ body, P statement)
    (h : locate body name = some located) : P located.function := by
  obtain ⟨-, -, statement, form, hget, hdeclared, hby⟩ := locate_eq_some h
  have hstatement := hbody statement (List.mem_of_getElem? hget)
  rcases hby with ⟨-, hform, -, -, hfunction⟩ | ⟨-, hget, hform, -, hcallable⟩
  · rw [hfunction]
    exact hP.declared hstatement (hform ▸ hdeclared)
  · next kind declarators index declarator name init declaredType =>
    have hdeclaration : P (.make (.variableDeclaration kind declarators)) := hP.declared hstatement hdeclared
    have hdeclarator : P declarator := hP.part hdeclaration (List.mem_of_getElem? hget)
    obtain ⟨value, rfl, hfunction⟩ := Option.bind_eq_some_iff.mp hcallable
    refine hP.callable (hP.part hdeclarator ?_) hfunction
    rw [hform]
    exact List.mem_cons_of_mem _ (List.mem_cons_self ..)

end Hereditary

end RouteMigration.Proofs
