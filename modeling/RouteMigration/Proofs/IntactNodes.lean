import RouteMigration.Proofs.RecordedConstructs
import RouteMigration.Proofs.UnwrappedHandlers

/-!
# Nodes as the parser leaves them

What the nodes of a parsed module know of themselves: their source text and their indentation, the places of their
parts, and two facts of the grammar. An argument starts after the parenthesis of its list does, and the body of an arrow
function is no literal of an object.
-/

namespace RouteMigration.Proofs
open Syntax Grammar OfTree Route Unwrapping

variable (source : List Char)

/-- A node that is as it was read. -/
structure IsIntact (node : Node) : Prop where
  place : ∃ span, node.info.span = some span ∧ node.info.raw = some (sliceOf source span) ∧
    node.info.indent = some (indentAt source span.start)
  origin : node.info.origin = some node.shape
  parts : PartsWithin node
  list : TakesList node.form
  arguments : node.isVerbatim "arguments" = true → ∀ part ∈ node.verbatimNodes, ∃ span whole, part.span = some span ∧
    node.span = some whole ∧ whole.start < span.start
  body : guardBody node.form = node.form

variable {source}

lemma isPristine_of_intact {node : Node} (h : Throughout (IsIntact source) node) : node.isPristine = true := by
  induction node using node_induction with
  | h info form ih =>
    obtain ⟨span, -, hraw, -⟩ := h.root.place
    rw [isPristine_eq, hraw, h.root.origin, decide_eq_true rfl]
    exact List.all_eq_true.mpr fun child hchild => ih child hchild (h.child hchild)

/-! ### Arguments -/

/-- What stands in the parentheses of arguments starts after the first of them. -/
lemma start_lt_of_arguments {tree child : Tree} (hbuilt : Built source tree) (hnested : tree.isNested = true)
    (hkind : tree.kind = "arguments") (hchild : child ∈ tree.children) (hnamed : child.isNamed = true) :
    tree.start < child.start := by
  have htree := isNamed_of_hasConstruct hbuilt.shape (HasConstruct.root.child hchild) hnamed
  have hopens : OpensWith "(" tree := hbuilt.shape.shaped_of_kind htree hkind
  obtain ⟨opening, rest, hchildren, hopening, hunnamed, hstart⟩ := hopens
  have hmem : opening ∈ tree.children := hchildren ▸ List.mem_cons_self
  have hlt := lt_of_token (hbuilt.child hmem) hunnamed (hopening ▸ by decide)
  have hrest : child ∈ rest := by
    rw [hchildren] at hchild
    refine (List.mem_cons.mp hchild).resolve_left ?_
    rintro rfl
    rw [hnamed] at hunnamed
    cases hunnamed
  have hafter := (isNested_children hnested).2
  rw [hchildren] at hafter
  have hwithin : opening.stop ≤ child.start := (within_of_areNested (areNested_cons hafter).2.2 hrest).1.start
  rw [hstart] at hlt
  exact hlt.trans_le hwithin

variable {tree : Tree} {node : Node}

/-- The nodes among the parts of a verbatim stand for named children of the construct. -/
lemma exists_child_of_made (hmade : MadeOf source tree node) (hkind : node.isVerbatim "arguments" = true) :
    tree.kind = "arguments" ∧ node.span = some tree.span ∧
      ∀ part ∈ node.verbatimNodes, ∃ child ∈ tree.children, child.isNamed = true ∧ part.span = some child.span := by
  have hfound {kind : String} {parts : List (Piece Node)} {literal : Bool} {span : Span}
      (h : (read source span (.verbatim kind parts literal)).isVerbatim "arguments" = true) : kind = "arguments" :=
    Option.some.inj (of_decide_eq_true h)
  cases hmade with
  | text _ => exact ⟨hfound hkind, rfl, List.forall_mem_nil _⟩
  | verbatim _ _ =>
    refine ⟨hfound hkind, rfl, fun part hpart => ?_⟩
    have hpart : part ∈ nodesOf (partsFrom source tree.span.start tree.span.stop (converted (convertAll source tree.children))) :=
      hpart
    rw [nodesOf_partsFrom] at hpart
    obtain ⟨entry, hentry, rfl⟩ := List.mem_map.mp hpart
    have hplace := hentry
    rw [← List.filter_true (convertAll source tree.children)] at hplace
    rw [convertAll_eq_map] at hentry
    obtain ⟨_, hmem, hconverted⟩ := List.mem_filterMap.mp hentry
    obtain ⟨child, hchild, rfl⟩ := List.mem_map.mp hmem
    dsimp only at hconverted
    split at hconverted
    · next hnamed =>
      obtain ⟨other, hother, rfl⟩ := Option.map_eq_some_iff.mp hconverted
      exact ⟨child, hchild, hnamed, place_converted hplace⟩
    · cases hconverted
  | enclosing _ =>
    refine ⟨hfound hkind, rfl, fun part hpart => ?_⟩
    have hpart : part ∈ nodesOf (partsFrom source tree.span.start tree.span.stop
        (enclosed source (convertAll source tree.children))) := hpart
    rw [nodesOf_partsFrom] at hpart
    obtain ⟨entry, hentry, rfl⟩ := List.mem_map.mp hpart
    have hplace := place_enclosed hentry
    rw [convertAll_eq_map] at hentry
    obtain ⟨_, hmem, rfl⟩ := List.mem_map.mp hentry
    obtain ⟨hmem, hentry⟩ := List.mem_filter.mp hmem
    obtain ⟨child, hchild, rfl⟩ := List.mem_map.mp hmem
    exact ⟨child, hchild, (Bool.and_eq_true_iff.mp hentry).1, hplace⟩
  | parameters _ => cases hkind
  | parameter _ _ _ => cases hkind
  | tail _ _ => exact absurd (hfound hkind) (by decide)
  | @other form hform _ =>
    cases form with
    | verbatim => cases hform
    | _ => cases hkind

/-! ### Bodies of arrow functions -/

lemma kind_verbatim? {kind : String} {span : Span} {children : List Child} {node : Node}
    (h : verbatim? source kind span children = some node) : node.kind? = some kind := by
  unfold verbatim? at h
  split at h
  · cases h
  · cases h
    rfl

/-- A construct that stays a verbatim keeps the name of its kind. -/
lemma kind?_nodeOf {kind : String} (h : (nodeOf source (tree, convert source tree)).kind? = some kind) : kind = tree.kind := by
  have hown {other : Node} (hother : other.kind? = some tree.kind) (h : other.kind? = some kind) : kind = tree.kind :=
    Option.some.inj (h.symm.trans hother)
  unfold nodeOf at h
  cases hnode : (convert source tree).node with
  | none =>
    rw [hnode] at h
    exact hown rfl h
  | some node =>
    rw [hnode] at h
    have h : node.kind? = some kind := h
    rw [node_convert] at hnode
    unfold build at hnode
    split_ifs at hnode
    · cases hnode
      cases h
    · rcases Option.or_eq_some_iff.mp hnode with hnode | ⟨-, hnode⟩
      · obtain ⟨_, _, -, -, rfl⟩ := arrow?_eq_some hnode
        cases h
      · exact hown (kind_verbatim? hnode) h
    · rcases Option.or_eq_some_iff.mp hnode with hnode | ⟨-, hnode⟩
      · obtain ⟨form, -, rfl⟩ := Option.map_eq_some_iff.mp hnode
        cases h
      · exact hown (kind_verbatim? hnode) h
    · rcases Option.or_eq_some_iff.mp hnode with hnode | ⟨-, hnode⟩
      · obtain ⟨_, _, _, -, -, -, -, rfl⟩ := call?_eq_some hnode
        cases h
      · exact hown (kind_verbatim? hnode) h
    · cases hnode
      exact hown rfl h
    · cases hnode
      exact hown rfl h
    · exact hown (kind_verbatim? hnode) h

/-- The body of an arrow function is no literal of an object. -/
lemma guardBody_of_made (hbuilt : Built source tree) (hmade : MadeOf source tree node) : guardBody node.form = node.form := by
  cases hmade with
  | text _ | verbatim _ _ | enclosing _ | parameters _ | parameter _ _ _ | tail _ _ => rfl
  | @other form _ hformed =>
    cases form with
    | arrowFunction arrow =>
      obtain ⟨hkind, hbody⟩ := hformed
      obtain ⟨child, hchild, hbody⟩ := Option.map_eq_some_iff.mp hbody
      obtain ⟨hmem, heq, hrole⟩ := mem_of_childAt hchild
      have hpart : IsArrowPart source child.1 := by
        refine hbuilt.shape.of_named (fun hnamed => ?_) child.1 hmem
        exact (hbuilt.shape.arrowShape hnamed hkind).2
      refine if_neg fun hobject => (hpart.body hrole).1 ?_
      rw [heq] at hbody
      rw [← hbody] at hobject
      exact (kind?_nodeOf (of_decide_eq_true hobject)).symm
    | _ => rfl

/-! ### Parsed modules -/

lemma isIntact_made (hbuilt : Built source tree) (hnested : tree.isNested = true) (hmade : MadeOf source tree node)
    (hparts : PartsWithin node) (hlist : TakesList node.form) : IsIntact source node where
  place := by
    cases hmade with
    | text _ | verbatim _ _ | enclosing _ | parameters _ | parameter _ _ _ | tail _ _ | other _ _ => exact ⟨_, rfl, rfl, rfl⟩
  origin := by
    cases hmade with
    | text _ | verbatim _ _ | enclosing _ | parameters _ | parameter _ _ _ | tail _ _ | other _ _ => rfl
  parts := hparts
  list := hlist
  arguments := by
    intro hkind part hpart
    obtain ⟨harguments, hspan, hchildren⟩ := exists_child_of_made hmade hkind
    obtain ⟨child, hchild, hnamed, hplace⟩ := hchildren part hpart
    exact ⟨child.span, tree.span, hplace, hspan, start_lt_of_arguments hbuilt hnested harguments hchild hnamed⟩
  body := guardBody_of_made hbuilt hmade

/-- Everything in the statements of a parsed module is as it was read. -/
theorem isIntact_of_parse {source path : String} {module : Module} (h : Module.parse source path = .ok module) :
    ∀ statement ∈ module.body, ∀ part ∈ statement.children, Throughout (IsIntact source.toList) part := by
  obtain ⟨root, hroot, hmade⟩ := isMade_of_parse h
  intro statement hstatement part hpart n hn
  obtain ⟨⟨tree, htree, hmadeOf⟩, hparts⟩ := hmade statement hstatement part hpart n hn
  have hlist : Throughout (fun n => TakesList n.form) statement := by
    obtain ⟨trees, hbody⟩ := body_of_parse h
    rw [hbody] at hstatement
    obtain ⟨tree, -, hform⟩ := form_of_mem_body hstatement
    exact (throughout_congr hform.symm).mp (readsAs_statement source.toList tree).1.wasRead.takesLists
  exact isIntact_made (htree.built (built_of_parse hroot)) (htree.isNested (grammarParse_eq_ok hroot).1) hmadeOf hparts
    (hlist.child hpart n hn)

end RouteMigration.Proofs
