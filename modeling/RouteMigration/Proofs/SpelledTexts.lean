import RouteMigration.Proofs.KeptTexts

/-!
# What the parts of a node spell

The text and the nodes in a verbatim, one after the other, stand in the source from its start to its end, and so do the
texts around the items of a parameter list with the items between them. So their source texts spell its own.
-/

namespace RouteMigration.Proofs
open Syntax Grammar OfTree

variable {source : List Char}

/-! ### Stretches that follow each other -/

/-- Stretches between two offsets, in order and apart from each other. -/
inductive SpansBetween : Nat → Nat → List Span → Prop where
  | nil {start stop : Nat} : start ≤ stop → SpansBetween start stop []
  | cons {start stop : Nat} {span : Span} {rest : List Span} : start ≤ span.start → span.start ≤ span.stop →
      SpansBetween span.stop stop rest → SpansBetween start stop (span :: rest)

namespace SpansBetween

variable {start stop : Nat} {spans others : List Span}

lemma le (h : SpansBetween start stop spans) : start ≤ stop := by
  induction h with
  | nil hle => exact hle
  | cons hstart hspan _ ih => exact hstart.trans (hspan.trans ih)

lemma of_le {start' : Nat} (h : SpansBetween start stop spans) (hle : start' ≤ start) : SpansBetween start' stop spans := by
  cases h with
  | nil hstop => exact .nil (hle.trans hstop)
  | cons hstart hspan hrest => exact .cons (hle.trans hstart) hspan hrest

/-- Stretches that are left out of the order leave the others in it. -/
lemma sublist (h : SpansBetween start stop spans) (hsublist : others.Sublist spans) : SpansBetween start stop others := by
  induction h generalizing others with
  | nil hle =>
    rw [List.sublist_nil.mp hsublist]
    exact .nil hle
  | cons hstart hspan _ ih =>
    cases hsublist with
    | cons _ hsublist => exact (ih hsublist).of_le (hstart.trans hspan)
    | cons_cons _ hsublist => exact .cons hstart hspan (ih hsublist)

/-- The stretches may start as late as each of them does. -/
lemma starting {start' : Nat} (h : SpansBetween start stop spans) (hle : start' ≤ stop)
    (hspans : ∀ span ∈ spans, start' ≤ span.start) : SpansBetween start' stop spans := by
  cases h with
  | nil _ => exact .nil hle
  | cons _ hspan hrest => exact .cons (hspans _ List.mem_cons_self) hspan hrest

end SpansBetween

lemma spansBetween_of_areNested {start stop : Nat} {trees : List Tree} (h : Tree.areNested start stop trees = true) :
    SpansBetween start stop (trees.map Tree.span) := by
  induction trees generalizing start with
  | nil => exact .nil (of_decide_eq_true h)
  | cons tree rest ih =>
    obtain ⟨hstart, htree, hrest⟩ := areNested_cons h
    exact .cons hstart (isNested_children htree).1 (ih hrest)

lemma spansBetween_children {tree : Tree} (h : tree.isNested = true) :
    SpansBetween tree.start tree.stop (tree.children.map Tree.span) :=
  spansBetween_of_areNested (isNested_children h).2

/-! ### Stretches of text -/

lemma slice_append {start middle stop : Nat} (hfront : start ≤ middle) (hrest : middle ≤ stop) :
    slice source start middle ++ slice source middle stop = slice source start stop := by
  have hmiddle : source.drop middle = (source.drop start).drop (middle - start) := by
    rw [List.drop_drop, Nat.add_sub_cancel' hfront]
  have hstop : stop - start = (middle - start) + (stop - middle) := by omega
  rw [slice, slice, slice, ← String.ofList_append, hmiddle, hstop, List.take_add]

variable (source) in
/-- The node was read from the stretch. -/
structure IsReadFrom (span : Span) (node : Node) : Prop where
  place : node.span = some span
  raw : node.info.raw = some (sliceOf source span)

lemma isReadFrom_nodeOf (tree : Tree) : IsReadFrom source tree.span (nodeOf source (tree, convert source tree)) := by
  obtain ⟨form, hread, -⟩ := reads_nodeOf source tree
  rw [hread]
  exact ⟨rfl, rfl⟩

lemma isReadFrom_node {tree : Tree} {node : Node} (h : (convert source tree).node = some node) :
    IsReadFrom source tree.span node := by
  have hread := @isReadFrom_nodeOf source tree
  rwa [nodeOf, h] at hread

/-! ### Pieces -/

/-- What the pieces spell one after the other: text, and the source text of nodes. -/
def spelled : List (Piece Node) → Option String
  | [] => some ""
  | .text text :: rest => (spelled rest).map (text ++ ·)
  | .node node :: rest => node.info.raw.bind fun raw => (spelled rest).map (raw ++ ·)

/-- Texts with the items between them. -/
def interleaved : List String → List (Piece Node) → List (Piece Node)
  | text :: texts, item :: items => .text text :: item :: interleaved texts items
  | texts, items => texts.map .text ++ items

variable (source) in
/-- The pieces stand in the source one after the other, from an offset to another, with no text between them. A text of
several lines does not end on a blank one. -/
inductive Tiles : Nat → List (Piece Node) → Nat → Prop where
  | nil {offset : Nat} : Tiles offset [] offset
  | skip {start middle stop : Nat} {rest : List (Piece Node)} : start ≤ middle → slice source start middle = "" →
      Tiles middle rest stop → Tiles start rest stop
  | text {start middle stop : Nat} {text : String} {rest : List (Piece Node)} : start ≤ middle →
      text = slice source start middle → ('\n' ∈ text.toList → IsSeam source middle) → Tiles middle rest stop →
      Tiles start (.text text :: rest) stop
  | node {span : Span} {stop : Nat} {node : Node} {rest : List (Piece Node)} : IsReadFrom source span node →
      span.start ≤ span.stop → Tiles span.stop rest stop → Tiles span.start (.node node :: rest) stop

section Tiles

variable {start middle stop : Nat} {pieces : List (Piece Node)}

lemma Tiles.le (h : Tiles source start pieces stop) : start ≤ stop := by
  induction h with
  | nil => exact Nat.le_refl _
  | skip hle _ _ ih | text hle _ _ _ ih | node _ hle _ ih => exact hle.trans ih

/-- Pieces spell the text of the stretch that they stand in. -/
lemma Tiles.spelled (h : Tiles source start pieces stop) : spelled pieces = some (slice source start stop) := by
  induction h with
  | @nil offset =>
    rw [Proofs.spelled, slice, Nat.sub_self, List.take_zero]
  | @skip start middle stop _ hle hempty hrest ih =>
    rw [ih, ← slice_append hle hrest.le, hempty, String.empty_append]
  | text hle htext _ hrest ih => rw [Proofs.spelled, ih, Option.map_some, htext, slice_append hle hrest.le]
  | node hread hle hrest ih =>
    rw [Proofs.spelled, hread.raw, Option.bind_some, ih, Option.map_some, sliceOf, slice_append hle hrest.le]

lemma tiles_textPart (hle : start ≤ middle) (hseam : IsSeam source middle) (hrest : Tiles source middle pieces stop) :
    Tiles source start (textPart source start middle ++ pieces) stop := by
  unfold textPart
  dsimp only
  split
  · next hempty => exact .skip hle hempty hrest
  · exact .text hle rfl (fun _ => hseam) hrest

/-- Nodes with the text between them stand in the whole stretch. -/
lemma tiles_partsFrom {nodes : List (Span × Node)} (h : SpansBetween start stop (nodes.map Prod.fst))
    (hnodes : ∀ entry ∈ nodes, IsSeam source entry.1.start ∧ IsReadFrom source entry.1 entry.2)
    (hstop : IsSeam source stop) : Tiles source start (partsFrom source start stop nodes) stop := by
  induction nodes generalizing start with
  | nil =>
    have htiles := tiles_textPart h.le hstop .nil
    rwa [List.append_nil] at htiles
  | cons entry rest ih =>
    obtain ⟨span, node⟩ := entry
    obtain ⟨⟨hseam, hread⟩, hnodes⟩ := List.forall_mem_cons.mp hnodes
    cases h with
    | cons hstart hspan hrest => exact tiles_textPart hstart hseam (.node hread hspan (ih hrest hnodes))

variable (source) in
/-- The piece stands in the stretch, whatever follows it. -/
def IsPieceAt (span : Span) (piece : Piece Node) : Prop :=
  ∀ rest stop, Tiles source span.stop rest stop → Tiles source span.start (piece :: rest) stop

lemma tiles_layoutFrom {items : List (Span × Piece Node)} (h : SpansBetween start stop (items.map Prod.fst))
    (hitems : ∀ item ∈ items, IsSeam source item.1.start ∧ IsPieceAt source item.1 item.2) (hstop : IsSeam source stop) :
    Tiles source start (interleaved (layoutFrom source start stop (items.map Prod.fst)) (items.map Prod.snd)) stop := by
  induction items generalizing start with
  | nil => exact .text h.le rfl (fun _ => hstop) .nil
  | cons item rest ih =>
    obtain ⟨span, piece⟩ := item
    obtain ⟨⟨hseam, hpiece⟩, hitems⟩ := List.forall_mem_cons.mp hitems
    cases h with
    | cons hstart hspan hrest => exact .text hstart rfl (fun _ => hseam) (hpiece _ _ (ih hrest hitems))

end Tiles

/-! ### What is read -/

variable (source) in
/-- The parts of a verbatim stand in its stretch of the source, and so do the texts around the items of a parameter list
with the items. -/
def IsTiled (node : Node) : Prop :=
  ∃ span, IsReadFrom source span node ∧
    match node.form with
    | .verbatim _ parts _ => Tiles source span.start parts span.stop
    | .parameters items (some layout) =>
      layout.length = items.length + 1 ∧ Tiles source span.start (interleaved layout items) span.stop
    | _ => True

lemma isTiled_partsFrom {kind : String} {span : Span} {nodes : List (Span × Node)} {literal : Bool}
    (h : SpansBetween span.start span.stop (nodes.map Prod.fst))
    (hnodes : ∀ entry ∈ nodes, IsSeam source entry.1.start ∧ IsReadFrom source entry.1 entry.2)
    (hstop : IsSeam source span.stop) :
    IsTiled source (read source span (.verbatim kind (partsFrom source span.start span.stop nodes) literal)) :=
  ⟨span, ⟨rfl, rfl⟩, tiles_partsFrom h hnodes hstop⟩

lemma isTiled_verbatim {kind : String} {span : Span} {trees : List Tree} {literal : Bool}
    (h : SpansBetween span.start span.stop (trees.map Tree.span)) (hbuilt : ∀ tree ∈ trees, Built source tree)
    (hstop : IsSeam source span.stop) :
    IsTiled source (verbatim source kind span (convertAll source trees) literal) := by
  have hentry : ∀ entry ∈ converted (convertAll source trees),
      IsSeam source entry.1.start ∧ IsReadFrom source entry.1 entry.2 := by
    intro entry hentry
    rw [convertAll_eq_map] at hentry
    obtain ⟨_, hmem, hconverted⟩ := List.mem_filterMap.mp hentry
    obtain ⟨tree, htree, rfl⟩ := List.mem_map.mp hmem
    dsimp only at hconverted
    split at hconverted
    · obtain ⟨node, hnode, rfl⟩ := Option.map_eq_some_iff.mp hconverted
      exact ⟨(hbuilt tree htree).shape.start, isReadFrom_node hnode⟩
    · cases hconverted
  have hspans : ((converted (convertAll source trees)).map Prod.fst).Sublist (trees.map Tree.span) := by
    rw [convertAll_eq_map, converted, List.filterMap_map]
    clear h hentry hbuilt
    induction trees with
    | nil => exact List.Sublist.refl _
    | cons tree rest ih =>
      rw [List.filterMap_cons]
      dsimp only [Function.comp_apply]
      split
      · exact ih.cons _
      · next entry hentry =>
        have hspan : entry.1 = tree.span := by
          split at hentry
          · obtain ⟨node, -, rfl⟩ := Option.map_eq_some_iff.mp hentry
            rfl
          · cases hentry
        rw [List.map_cons, List.map_cons, hspan]
        exact ih.cons_cons _
  exact isTiled_partsFrom (h.sublist hspans) hentry hstop

variable {tree : Tree} (hnested : tree.isNested = true) (hbuilt : Built source tree)
include hnested hbuilt

lemma isTiled_enclosing : IsTiled source (enclosing source tree.kind tree.span (convertAll source tree.children)) := by
  rw [convertAll_eq_map]
  refine isTiled_partsFrom ((spansBetween_children hnested).sublist ?_) (fun entry hentry => ?_) hbuilt.shape.stop
  · rw [enclosed, List.filter_map, List.map_map, List.map_map]
    exact List.filter_sublist.map _
  · obtain ⟨_, hmem, rfl⟩ := List.mem_map.mp hentry
    obtain ⟨child, hchild, rfl⟩ := List.mem_map.mp (List.mem_of_mem_filter hmem)
    exact ⟨(hbuilt.child hchild).shape.start, isReadFrom_nodeOf child⟩

lemma isTiled_parameters : IsTiled source (parameters source tree.span (convertAll source tree.children)) := by
  have hentries : (convertAll source tree.children).filter (fun child => isEntry child.1) =
      (tree.children.filter isEntry).map fun tree => (tree, convert source tree) := by
    rw [convertAll_eq_map, List.filter_map]
    rfl
  let piece (tree : Tree) : Piece Node := (convert source tree).node.elim (.text (textOf source tree)) .node
  have hpiece (child : Tree) (hchild : child ∈ tree.children) : IsPieceAt source child.span (piece child) := by
    intro rest stop hrest
    have hspan := (isNested_children (isNested_child hnested hchild)).1
    cases hnode : (convert source child).node with
    | none =>
      rw [show piece child = .text (textOf source child) by simp only [piece, hnode, Option.elim_none]]
      exact .text hspan rfl (fun _ => (hbuilt.child hchild).shape.stop) hrest
    | some node =>
      rw [show piece child = .node node by simp only [piece, hnode, Option.elim_some]]
      exact .node (isReadFrom_node hnode) hspan hrest
  have hspans : SpansBetween tree.start tree.stop ((tree.children.filter isEntry).map Tree.span) :=
    (spansBetween_children hnested).sublist (List.filter_sublist.map _)
  have htiles := @tiles_layoutFrom source tree.start tree.stop
    ((tree.children.filter isEntry).map fun tree => (tree.span, piece tree))
    (by rw [List.map_map]; exact hspans)
    (by
      intro item hitem
      obtain ⟨child, hchild, rfl⟩ := List.mem_map.mp hitem
      have hmem := List.mem_of_mem_filter hchild
      exact ⟨(hbuilt.child hmem).shape.start, hpiece child hmem⟩)
    hbuilt.shape.stop
  rw [List.map_map, List.map_map] at htiles
  rw [parameters, hentries, List.map_map, List.map_map]
  refine ⟨tree.span, ⟨rfl, rfl⟩, ?_, htiles⟩
  rw [length_layoutFrom, List.length_map, List.length_map]

omit hnested hbuilt in
variable (source) in
lemma filter_convertAll (trees : List Tree) (p : Tree → Bool) :
    (convertAll source trees).filter (fun child => p child.1) = convertAll source (trees.filter p) := by
  rw [convertAll_eq_map, convertAll_eq_map, List.filter_map]
  rfl

/-- The rest of a class after its name. -/
lemma isTiled_tail {name : Tree} (hname : name ∈ tree.children) :
    IsTiled source (verbatim source "class_tail" ⟨name.stop, tree.stop⟩
      ((convertAll source tree.children).filter fun child => name.stop ≤ child.1.start) false) := by
  rw [filter_convertAll source tree.children fun child => decide (name.stop ≤ child.start)]
  have hsublist : (tree.children.filter fun child => decide (name.stop ≤ child.start)).Sublist tree.children :=
    List.filter_sublist
  refine isTiled_verbatim ?_ (fun child hchild => hbuilt.child (hsublist.subset hchild)) hbuilt.shape.stop
  have hspans := (spansBetween_children hnested).sublist (hsublist.map Tree.span)
  refine hspans.starting (within_child hnested hname).stop fun span hspan => ?_
  obtain ⟨child, hchild, rfl⟩ := List.mem_map.mp hspan
  exact of_decide_eq_true (List.mem_filter.mp hchild).2

/-- The parts of a node that was made of a construct stand in its stretch of the source. -/
theorem isTiled_made {node : Node} (hmade : MadeOf source tree node) : IsTiled source node := by
  cases hmade with
  | text _ =>
    have hspan := (isNested_children hnested).1
    exact ⟨tree.span, ⟨rfl, rfl⟩, .text hspan rfl (fun _ => hbuilt.shape.stop) .nil⟩
  | verbatim _ _ =>
    exact isTiled_verbatim (spansBetween_children hnested) (fun child hchild => hbuilt.child hchild) hbuilt.shape.stop
  | enclosing _ => exact isTiled_enclosing hnested hbuilt
  | parameters _ => exact isTiled_parameters hnested hbuilt
  | parameter _ _ _ => exact ⟨_, ⟨rfl, rfl⟩, trivial⟩
  | tail _ hname => exact isTiled_tail hnested hbuilt hname
  | @other form hform _ =>
    refine ⟨tree.span, ⟨rfl, rfl⟩, ?_⟩
    cases form with
    | verbatim | parameters => cases hform
    | _ => trivial

/-! ### Spelling -/

omit hnested hbuilt in
/-- The parts of a verbatim spell its source text, and the texts around the items of a parameter list do with the items.
A single parameter without parentheses has no text around it. -/
def IsSpelled (node : Node) : Prop :=
  match node.form with
  | .verbatim _ parts _ => spelled parts = node.info.raw
  | .parameters items (some layout) => layout.length = items.length + 1 ∧ spelled (interleaved layout items) = node.info.raw
  | .parameters items none => ∃ item, items = [.node item] ∧ item.identifier?.isSome = true ∧ node.info.raw = item.info.raw
  | _ => True

omit hnested hbuilt in
lemma isSpelled_of_hasText {node : Node} (h : hasText node.form = false) : IsSpelled node := by
  unfold IsSpelled
  split
  all_goals first
    | trivial
    | next hform =>
      rw [hform] at h
      cases h

omit hnested hbuilt in
/-- A name that is a part of its own. -/
lemma node_of_identifier {tree : Tree} (hkind : tree.kind ∈ identifierKinds) : (convert source tree).node =
    some (read source tree.span (.identifier (textOf source tree) (tree.kind = "type_identifier"))) := by
  rw [node_convert, build, if_pos hkind]
  rfl

omit hnested in
/-- The single parameter of an arrow function is a name. -/
lemma isSpelled_parameter {child : Tree} (hkind : tree.kind = "arrow_function") (hchild : child ∈ tree.children)
    (hfield : child.field = some "parameter") :
    IsSpelled (read source child.span (.parameters [.node (nodeOf source (child, convert source child))] none)) := by
  have hname : child.kind ∈ identifierKinds := by
    rw [hbuilt.shape.arrow hkind child hchild hfield]
    decide
  refine ⟨_, rfl, ?_, isReadFrom_nodeOf child |>.raw.symm⟩
  rw [nodeOf, node_of_identifier hname]
  rfl

/-- A node that was made of a construct is spelled by its parts. -/
theorem isSpelled_made {node : Node} (hmade : MadeOf source tree node) : IsSpelled node := by
  obtain ⟨span, hread, htiles⟩ := isTiled_made hnested hbuilt hmade
  cases hmade with
  | text _ | verbatim _ _ | enclosing _ | tail _ _ => exact (Tiles.spelled htiles).trans hread.raw.symm
  | parameters _ => exact ⟨htiles.1, (Tiles.spelled htiles.2).trans hread.raw.symm⟩
  | parameter hkind hchild hfield => exact isSpelled_parameter hbuilt hkind hchild hfield
  | other hform _ => exact isSpelled_of_hasText hform

end RouteMigration.Proofs
