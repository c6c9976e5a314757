import RouteMigration.Proofs.Conversions
import RouteMigration.Proofs.Unwrapping

/-!
# Readings of trees

A reading gives a tree a meaning, that of a node by its form and the meanings of its parts. Where it takes an
envelope for its payload, and parentheses for what they enclose, the tree without its envelopes means what
the tree means: the payload of an envelope is an operand where the envelope was one, whatever it is and whatever
stands around it. The skeleton of a tree is such a reading, and tells trees apart by all their other nodes.
-/

namespace RouteMigration.Proofs
open Syntax Route Unwrapping

/-- The meaning of a node from its form with the meanings of its parts. -/
abbrev Reading (β : Type) :=
  Form β → β

namespace Reading

variable {β : Type} (reading : Reading β)

/-- The meaning of a tree; where it was read does not matter. -/
def of : Node → β :=
  Node.fold fun _ form => reading (form.map Prod.snd)

lemma of_mk (info : Info) (form : Form Node) : reading.of ⟨info, form⟩ = reading (form.map reading.of) := by
  rw [of, Node.fold_mk, form_map_map]

/-- The reading takes envelopes and parentheses for what stands in them. A spread stands in neither. -/
structure Transparent (envelope : String) : Prop where
  parentheses {node inner : Node} : node.isVerbatim "parenthesized_expression" = true →
    node.verbatimNodes = [inner] → inner.isVerbatim "spread_element" = false → reading.of node = reading.of inner
  envelopes {info : Info} {callee list payload : Node} {typeArguments : Option Node} :
    list.isVerbatim "arguments" = true → payload? envelope (.call callee list typeArguments) = some payload →
    reading.of ⟨info, .call callee list typeArguments⟩ = reading.of payload

end Reading

/-- Trees that mean the same in every reading that takes envelopes and parentheses for what stands in them. -/
def Alike (envelope : String) (a b : Node) : Prop :=
  ∀ (β : Type) (reading : Reading β), reading.Transparent envelope → reading.of a = reading.of b

section

variable {envelope : String}

lemma Alike.refl (node : Node) : Alike envelope node node :=
  fun _ _ _ => rfl

lemma Alike.symm {a b : Node} (h : Alike envelope a b) : Alike envelope b a :=
  fun β reading hreading => (h β reading hreading).symm

lemma Alike.trans {a b c : Node} (h : Alike envelope a b) (h' : Alike envelope b c) : Alike envelope a c :=
  fun β reading hreading => (h β reading hreading).trans (h' β reading hreading)

/-- Nodes are alike if their parts are. -/
lemma alike_map {f : Node → Node} {info info' : Info} {form : Form Node}
    (h : ∀ part ∈ form.children, Alike envelope (f part) part) :
    Alike envelope ⟨info, form.map f⟩ ⟨info', form⟩ := by
  intro β reading hreading
  rw [Reading.of_mk, Reading.of_mk, form_map_map]
  exact congrArg reading (form_map_congr fun part hpart => h part hpart β reading hreading)

/-! ### Parentheses -/

lemma isVerbatim_eq_false {node : Node} {kind other : String} (h : node.isVerbatim kind = true) (hne : kind ≠ other) :
    node.isVerbatim other = false := by
  have hkind : node.kind? = some kind := of_decide_eq_true h
  rw [Node.isVerbatim, hkind]
  exact decide_eq_false fun heq => hne (Option.some.inj heq)

/-- The parentheses that keep an object literal from being a block change nothing. -/
lemma alike_guardBody (info : Info) (form : Form Node) : Alike envelope ⟨info, guardBody form⟩ ⟨info, form⟩ := by
  cases form with
  | arrowFunction arrow =>
    rw [guardBody]
    split
    · next hobject =>
      intro β reading hreading
      have hbody : reading.of (parenthesized arrow.body) = reading.of arrow.body :=
        hreading.parentheses rfl rfl (isVerbatim_eq_false hobject (by decide))
      rw [Reading.of_mk, Reading.of_mk]
      simp only [Form.map, ArrowForm.map, hbody]
    · exact .refl _
  | _ => exact .refl _

/-- An expression in parentheses is alike to the expression. -/
theorem alike_stripParentheses {node : Node} (h : (stripParentheses node).isVerbatim "spread_element" = false) :
    Alike envelope (stripParentheses node) node := by
  induction node using node_induction with
  | h info form ih =>
    rcases stripParentheses_cases ⟨info, form⟩ with hsame | ⟨inner, hparentheses, hinner, hstrip⟩
    · rw [hsame]
      exact .refl _
    · have hpart : inner ∈ freeParts (Node.form ⟨info, form⟩) := by
        refine mem_freeParts_of_verbatimNodes ?_
        rw [hinner]
        exact List.mem_singleton_self inner
      rw [hstrip] at h ⊢
      have hspread : inner.isVerbatim "spread_element" = false := by
        rcases stripParentheses_cases inner with hsame | ⟨_, hagain, -, -⟩
        · rwa [hsame] at h
        · exact isVerbatim_eq_false hagain (by decide)
      refine (ih inner (freeParts_subset hpart) h).trans fun β reading hreading => ?_
      exact (hreading.parentheses hparentheses hinner hspread).symm

/-! ### Envelopes -/

/-- What is no call keeps its kind. -/
lemma isVerbatim_unwrap {node : Node} {kind : String} (h : node.isVerbatim kind = true) :
    (unwrap envelope node).node.isVerbatim kind = true := by
  obtain ⟨info, form⟩ := node
  rw [unwrap_eq]
  cases form with
  | verbatim found parts literal => exact h
  | _ => cases h

/-- Without its envelopes a tree is alike to what it was. -/
theorem alike_unwrap {node : Node} (h : Throughout (fun n => TakesList n.form) node) :
    Alike envelope (unwrap envelope node).node node := by
  induction node using node_induction with
  | h info form ih =>
    have hparts : Alike envelope ⟨info, form.map fun n => (unwrap envelope n).node⟩ ⟨info, form⟩ :=
      alike_map fun part hpart => ih part hpart (h.child hpart)
    have hbared := (alike_guardBody info (form.map fun n => (unwrap envelope n).node)).trans hparts
    rw [unwrap_eq]
    dsimp only
    cases hpayload : payload? envelope (guardBody (form.map fun n => (unwrap envelope n).node)) with
    | none => exact hbared
    | some payload =>
      generalize hform : guardBody (form.map fun n => (unwrap envelope n).node) = bared at hpayload hbared
      obtain ⟨_, _, _, rfl, -⟩ := (payload?_iff envelope).mp hpayload
      have hmap := guardBody_eq_call hform
      cases form with
      | call callee list typeArguments =>
        cases hmap
        have hlist : (unwrap envelope list).node.isVerbatim "arguments" = true :=
          isVerbatim_unwrap (h.root callee list typeArguments rfl)
        refine Alike.trans (fun β reading hreading => ?_) hbared
        exact (hreading.envelopes hlist hpayload).symm
      | _ => cases hmap

end

/-! ### Skeletons -/

/-- The expression that parentheses enclose. -/
def enclosed? : Form Node → Option Node
  | .verbatim kind parts _ =>
    match decide (kind = "parenthesized_expression"), nodesOf parts with
    | true, [content] => if content.isVerbatim "spread_element" then none else some content
    | _, _ => none
  | _ => none

/-- A node without its parentheses or its envelope. -/
def skeleton (envelope : String) : Reading Node :=
  fun form => ((enclosed? form).or (payload? envelope form)).getD (.make form)

lemma enclosed?_eq_some {node inner : Node} (h : enclosed? node.form = some inner) :
    node.isVerbatim "parenthesized_expression" = true ∧ node.verbatimNodes = [inner] ∧
      inner.isVerbatim "spread_element" = false := by
  obtain ⟨info, form⟩ := node
  cases form with
  | verbatim kind parts literal =>
    simp only [Node.form, enclosed?] at h
    split at h
    · next hkind hparts =>
      obtain rfl := of_decide_eq_true hkind
      split at h
      · cases h
      · next hspread =>
        cases h
        exact ⟨rfl, hparts, Bool.eq_false_iff.mpr hspread⟩
    · cases h
  | _ => cases h

lemma enclosed?_of_parts {parts : List (Piece Node)} {inner : Node} (h : nodesOf parts = [inner])
    (hspread : inner.isVerbatim "spread_element" = false) (literal : Bool) :
    enclosed? (.verbatim "parenthesized_expression" parts literal) = some inner := by
  simp only [enclosed?, h, hspread, decide_true]
  rfl

section

variable (envelope : String)

/-- What stands in the place of a node is a spread only where the node is one. -/
lemma isSpread_skeleton (form : Form Node) :
    (skeleton envelope form).isVerbatim "spread_element" = (Node.make form).isVerbatim "spread_element" := by
  unfold skeleton
  cases hinner : (enclosed? form).or (payload? envelope form) with
  | none => rfl
  | some inner =>
    rw [Option.getD_some]
    rcases Option.or_eq_some_iff.mp hinner with hinner | ⟨-, hinner⟩
    · obtain ⟨hkind, -, hspread⟩ := @enclosed?_eq_some (.make form) _ hinner
      rw [hspread, isVerbatim_eq_false hkind (by decide)]
    · obtain ⟨callee, list, typeArguments, rfl, -, -, hspread⟩ := (payload?_iff envelope).mp hinner
      exact hspread

lemma isSpread_of (node : Node) :
    ((skeleton envelope).of node).isVerbatim "spread_element" = node.isVerbatim "spread_element" := by
  obtain ⟨info, form⟩ := node
  rw [Reading.of_mk, isSpread_skeleton]
  cases form <;> rfl

lemma of_arguments {list : Node} (h : list.isVerbatim "arguments" = true) :
    ((skeleton envelope).of list).isVerbatim "arguments" = true ∧
      ((skeleton envelope).of list).verbatimNodes = list.verbatimNodes.map (skeleton envelope).of := by
  obtain ⟨info, form⟩ := list
  cases form with
  | verbatim kind parts literal =>
    obtain rfl : kind = "arguments" := Option.some.inj (of_decide_eq_true h)
    rw [Reading.of_mk]
    exact ⟨rfl, nodesOf_map ..⟩
  | _ => cases h

/-- The skeleton takes envelopes and parentheses for what stands in them. -/
theorem skeleton_transparent : (skeleton envelope).Transparent envelope where
  parentheses := by
    rintro ⟨info, form⟩ inner hkind hinner hspread
    cases form with
    | verbatim kind parts literal =>
      obtain rfl : kind = "parenthesized_expression" := Option.some.inj (of_decide_eq_true hkind)
      have hparts : nodesOf (parts.map (·.map (skeleton envelope).of)) = [(skeleton envelope).of inner] := by
        rw [nodesOf_map, show nodesOf parts = [inner] from hinner, List.map_singleton]
      rw [Reading.of_mk, Form.map, skeleton, enclosed?_of_parts hparts ((isSpread_of ..).trans hspread)]
      rfl
    | _ => cases hkind
  envelopes := by
    intro info callee list payload typeArguments hlist hpayload
    obtain ⟨_, _, _, hform, hcallee, hnodes, hspread⟩ := (payload?_iff envelope).mp hpayload
    cases hform
    have hcalled : ((skeleton envelope).of callee).identifier? = some envelope := by
      obtain ⟨info, form⟩ := callee
      cases form with
      | identifier name isType => exact hcallee
      | _ => cases hcallee
    have hlisted : ((skeleton envelope).of list).verbatimNodes = [(skeleton envelope).of payload] := by
      rw [(of_arguments envelope hlist).2, hnodes, List.map_singleton]
    have hunwrapped : payload? envelope (.call ((skeleton envelope).of callee) ((skeleton envelope).of list)
        (typeArguments.map (skeleton envelope).of)) = some ((skeleton envelope).of payload) :=
      (payload?_iff envelope).mpr ⟨_, _, _, rfl, hcalled, hlisted, (isSpread_of ..).trans hspread⟩
    rw [Reading.of_mk, Form.map, skeleton, hunwrapped]
    rfl

/-- The skeleton of a tree is alike to the tree. -/
lemma alike_skeleton {node : Node} (h : Throughout (fun n => TakesList n.form) node) :
    Alike envelope ((skeleton envelope).of node) node := by
  induction node using node_induction with
  | h info form ih =>
    have hparts : Alike envelope (.make (form.map (skeleton envelope).of)) ⟨info, form⟩ :=
      alike_map fun part hpart => ih part hpart (h.child hpart)
    rw [Reading.of_mk, skeleton]
    cases hinner : (enclosed? (form.map (skeleton envelope).of)).or
        (payload? envelope (form.map (skeleton envelope).of)) with
    | none => exact hparts
    | some inner =>
      rw [Option.getD_some]
      refine Alike.trans (fun β reading hreading => ?_) hparts
      rcases Option.or_eq_some_iff.mp hinner with hinner | ⟨-, hinner⟩
      · obtain ⟨hkind, hnodes, hspread⟩ := @enclosed?_eq_some (.make _) _ hinner
        exact (hreading.parentheses hkind hnodes hspread).symm
      · obtain ⟨_, _, _, hmap, -⟩ := (payload?_iff envelope).mp hinner
        cases form with
        | call callee list typeArguments =>
          have hlist := (of_arguments envelope (h.root callee list typeArguments rfl)).1
          exact (hreading.envelopes hlist hinner).symm
        | _ => cases hmap

/-- Trees are alike if and only if they have the same skeleton. -/
theorem alike_iff {a b : Node} (ha : Throughout (fun n => TakesList n.form) a)
    (hb : Throughout (fun n => TakesList n.form) b) :
    Alike envelope a b ↔ (skeleton envelope).of a = (skeleton envelope).of b := by
  constructor
  · intro h
    exact h Node (skeleton envelope) (skeleton_transparent envelope)
  · intro h
    have hskeleton := alike_skeleton envelope ha
    rw [h] at hskeleton
    exact hskeleton.symm.trans (alike_skeleton envelope hb)

end

end RouteMigration.Proofs
