import RouteMigration.Proofs.UnwrappedHandlers

/-!
# What handlers inherit

A handler is taken out of a function by putting other parts into the places of a node's parts, and by making nodes
around parts that are there. A property that stays in both passes from the parts of the function to the handler.
-/

namespace RouteMigration.Proofs
open Syntax Route Unwrapping

/-- A form without its parts. -/
def outline (form : Form Node) : Form Unit :=
  form.map fun _ => ()

lemma outline_map (f : Node → Node) (form : Form Node) : outline (form.map f) = outline form :=
  form_map_map ..

lemma outline_guardBody (form : Form Node) : outline (guardBody form) = outline form := by
  cases form with
  | arrowFunction arrow =>
    rw [guardBody]
    split <;> rfl
  | _ => rfl

/-- A property of trees that stays with a node that gets other parts, and that a node has which is made of parts with
the property. A list of parameters with a layout is not made. -/
structure Reworkable (P : Node → Prop) : Prop where
  part {node part : Node} : P node → part ∈ node.children → P part
  rework {node : Node} {form : Form Node} : P node → outline form = outline node.form →
    (∀ part ∈ form.children, P part) → P (node.withForm form)
  make {form : Form Node} : (∀ items layout, form ≠ .parameters items (some layout)) →
    (∀ part ∈ form.children, P part) → P (.make form)

namespace Reworkable

variable {P : Node → Prop} (hP : Reworkable P)
include hP

lemma stripParentheses {node : Node} (h : P node) : P (Route.stripParentheses node) := by
  induction node using node_induction with
  | h info form ih =>
    rcases stripParentheses_cases ⟨info, form⟩ with hsame | ⟨inner, -, hinner, hstrip⟩
    · rwa [hsame]
    · have hpart : inner ∈ Form.children form := by
        refine freeParts_subset (@mem_freeParts_of_verbatimNodes ⟨info, form⟩ inner ?_)
        rw [hinner]
        exact List.mem_singleton_self inner
      rw [hstrip]
      exact ih inner hpart (hP.part h hpart)

lemma asBlock {body : Node} (h : P body) : P (Route.asBlock body) := by
  unfold Route.asBlock
  split
  · exact h
  · refine hP.make nofun fun part hpart => ?_
    obtain rfl := List.mem_singleton.mp hpart
    refine hP.make nofun fun part hpart => ?_
    obtain rfl := List.mem_singleton.mp hpart
    exact hP.stripParentheses h

lemma parenthesized {node : Node} (h : P node) : P (Unwrapping.parenthesized node) := by
  refine hP.make nofun fun part hpart => ?_
  obtain rfl := List.mem_singleton.mp hpart
  exact h

theorem unwrap (envelope : String) {node : Node} (h : P node) : P (Route.unwrap envelope node).node := by
  induction node using node_induction with
  | h info form ih =>
    rw [unwrap_eq]
    dsimp only
    have houtline : outline (guardBody (form.map fun n => (Route.unwrap envelope n).node)) = outline form := by
      rw [outline_guardBody, outline_map]
    generalize hbared : guardBody (form.map fun n => (Route.unwrap envelope n).node) = bared at houtline
    have hparts (part : Node) (hpart : part ∈ bared.children) : P part := by
      subst hbared
      have hmapped (n : Node) (hn : n ∈ (form.map fun n => (Route.unwrap envelope n).node).children) : P n := by
        rw [Form.children_map] at hn
        obtain ⟨child, hchild, rfl⟩ := List.mem_map.mp hn
        exact ih child hchild (hP.part h hchild)
      rcases mem_children_guardBody hpart with hpart | ⟨body, hbody, rfl⟩
      · exact hmapped part hpart
      · exact hP.parenthesized (hmapped body hbody)
    have hbare : P ⟨info, bared⟩ := hP.rework h houtline hparts
    cases hpayload : payload? envelope bared with
    | none => exact hbare
    | some payload =>
      obtain ⟨callee, list, _, rfl, -, hlist, -⟩ := (payload?_iff envelope).mp hpayload
      have hlisted : P list := hparts list (List.mem_cons_of_mem _ (List.mem_cons_self ..))
      refine hP.part hlisted (freeParts_subset (mem_freeParts_of_verbatimNodes ?_))
      rw [hlist]
      exact List.mem_singleton_self payload

lemma anonymous {params body : Node} (hparams : P params) (hbody : P body) (isAsync isGenerator : Bool) :
    P (Route.anonymous params body isAsync isGenerator) := by
  have hparts : ∀ part ∈ [params, body], P part := by
    intro part hpart
    rcases List.mem_pair.mp hpart with rfl | rfl
    · exact hparams
    · exact hbody
  cases isGenerator with
  | true => exact hP.make nofun hparts
  | false => exact hP.make nofun hparts

/-- What the parts of a node have depends on its form alone, and its parts have it as well. -/
lemma hereditary : Hereditary fun node => ∀ part ∈ node.children, P part where
  part h hpart _ hinner := hP.part (h _ (freeParts_subset hpart)) hinner
  congr hform h := by
    rw [Node.children, ← hform]
    exact h

/-- A handler has what the parts of the function have that it is taken out of. -/
theorem extract {settings : Settings} {kind : Kind} {located : Located} {handler : Handler}
    (h : extract? settings kind located = some handler) (hfunction : ∀ part ∈ located.function.children, P part) :
    P handler.value := by
  obtain ⟨signature, hsignature, hrest⟩ := Option.bind_eq_some_iff.mp h
  obtain ⟨body, hbody, -⟩ := Option.bind_eq_some_iff.mp hrest
  obtain ⟨hparamsPart, hbodyPart⟩ := signature_parts hsignature
  have hparams := hfunction _ (freeParts_subset hparamsPart)
  have hreceived : P (received settings kind signature.params) := by
    cases kind with
    | page =>
      refine hP.make nofun fun part hpart => ?_
      obtain rfl := List.mem_singleton.mp hpart
      exact hP.make nofun (List.forall_mem_nil _)
    | resource => exact hparams
  rw [extract?_value h hsignature hbody]
  exact hP.anonymous (hP.unwrap _ hreceived)
    (hP.unwrap _ (hP.asBlock (hfunction _ (freeParts_subset (hbodyPart body hbody))))) _ _

end Reworkable

end RouteMigration.Proofs
