import RouteMigration.Proofs.DeepenedTexts
import RouteMigration.Proofs.IntactNodes
import RouteMigration.Proofs.WrittenPieces

/-!
# Bodies at a greater depth

A body that is printed on a deeper line than the one it was read on comes out as its source text with spaces in front of
its lines. Every node in it shifts its texts by what the line tells that it starts on, as it was read and as it has been
printed so far. These lines differ by the same number of columns wherever a node starts.
-/

namespace RouteMigration.Proofs
open Syntax Grammar OfTree Printer

variable {source : List Char} {style : Style}

/-! ### Nodes at a greater depth -/

variable (source style) in
/-- A node that is as it was read and that is written, piece by piece, where it stands in the source. -/
structure IsMovable (node : Node) : Prop where
  intact : IsIntact source node
  writable : IsWritable node.form
  stretch : ∃ span, IsReadFrom source span node ∧ IsStretch source span ∧
    Tiles source span.start (piecesOf style node.form) span.stop

section Moved

variable {depth start : Nat} {before : String}

/-- Pieces are written at a greater depth if the nodes among them are. -/
lemma all_pieces (htabs : '\t' ∉ source) {offset stop : Nat} {parts : List (Piece Node)}
    (h : Tiles source offset parts stop) (hstart : start ≤ offset)
    (hnodes : ∀ node span, .node node ∈ parts → node.span = some span → start ≤ span.start →
      writeNode style node (before ++ deepenedSlice depth source start span.start) =
        .ok (before ++ deepenedSlice depth source start span.stop)) :
    Writer.all (parts.map (writtenPiece style depth)) (before ++ deepenedSlice depth source start offset) =
      .ok (before ++ deepenedSlice depth source start stop) := by
  induction h with
  | nil => rfl
  | @skip offset middle stop rest hle hempty hrest ih =>
    have hnothing : deepenedSlice depth source offset middle = "" := by
      rw [deepenedSlice_of_line (by rw [hempty]; exact List.not_mem_nil), hempty]
    rw [← String.append_empty (s := deepenedSlice depth source start offset), ← hnothing, deepenedSlice_append hstart hle]
    exact ih (hstart.trans hle) hnodes
  | @text offset middle stop text rest hle htext hseam hrest ih =>
    have hshift : Layout.shiftText depth text = deepenedSlice depth source offset middle := by
      by_cases hbreak : '\n' ∈ text.toList
      · rw [htext, shiftText_slice htabs hle (hseam hbreak)]
      · rw [shiftText_of_line _ hbreak, htext, deepenedSlice_of_line (htext ▸ hbreak)]
    rw [List.map_cons, all_cons, writtenPiece, Piece.map, shiftedPart, hshift]
    change Writer.all _ _ = _
    rw [String.append_assoc, deepenedSlice_append hstart hle]
    exact ih (hstart.trans hle) fun node span hnode => hnodes node span (List.mem_cons_of_mem _ hnode)
  | @node span stop node rest hread hle hrest ih =>
    have hwrite := hnodes node span List.mem_cons_self hread.place hstart
    rw [List.map_cons, all_cons]
    change writeNode style node _ >>= _ = _
    rw [hwrite]
    exact ih (hstart.trans hle) fun node span hnode => hnodes node span (List.mem_cons_of_mem _ hnode)

/-- A node that was read with another indentation than it is printed with is printed by its form. -/
lemma writeNode_byForm {node : Node} {indent : Nat} (horigin : node.info.origin = some node.shape)
    (hindent : node.info.indent = some indent) (hcolumn : Layout.column before = indent + depth) (hdepth : depth ≠ 0) :
    writeNode style node before = byForm style depth true (node.form.map (printed style)) before := by
  obtain ⟨info, form⟩ := node
  have hsame : (⟨info, (form.map (printed style)).map Prod.fst⟩ : Node) = ⟨info, form⟩ := by
    rw [map_fst_map_pair]
  have hindent : info.indent = some indent := hindent
  have horigin : info.origin = some (Node.shape ⟨info, form⟩) := horigin
  have hshift : ((Layout.column before : Int) - indent) = depth := by omega
  have hchanged : ¬ (Node.isPristine ⟨info, form⟩ = true ∧ (depth : Int) = 0) := by omega
  rw [writeNode, writersOf_mk]
  simp only [writers, Writer.after, hsame, hindent, Option.elim_some, hshift, horigin, decide_true, if_neg hchanged]
  cases info.raw <;> rfl

/-- By induction on the node: on a line that is deeper than in the source, it is written as its source text at a greater
depth, and so the line in front of each of its parts is deeper by as much. -/
theorem writeNode_movable (htabs : '\t' ∉ source) (hvisible : IsVisibleAt source start)
    (hcolumn : Layout.column before = indentAt source start + depth) {node : Node}
    (h : Throughout (IsMovable source style) node) {span : Span} (hspan : node.span = some span)
    (hstart : start ≤ span.start) :
    writeNode style node (before ++ deepenedSlice depth source start span.start) =
      .ok (before ++ deepenedSlice depth source start span.stop) := by
  induction node using node_induction generalizing span with
  | h info form ih =>
    obtain ⟨span', hread, hstretch, htiles⟩ := h.root.stretch
    obtain rfl : span = span' := Option.some.inj (hspan.symm.trans hread.place)
    have hline := column_deepenedSlice hstart hvisible hstretch.start hcolumn
    obtain ⟨span', hplace, -, hindent⟩ := h.root.intact.place
    obtain rfl : span = span' := Option.some.inj (hspan.symm.trans hplace)
    by_cases hdepth : depth = 0
    · subst hdepth
      have hpristine : Node.isPristine ⟨info, form⟩ = true := isPristine_of_intact fun n hn => (h n hn).intact
      rw [writeNode_pristine style hpristine hread.raw (by rw [hline]; exact hindent), deepenedSlice_zero,
        deepenedSlice_zero, String.append_assoc, sliceOf, slice_append hstart htiles.le]
    · rw [writeNode_byForm h.root.intact.origin hindent hline hdepth, byForm_pieces h.root.writable]
      refine all_pieces htabs htiles hstart fun child span' hchild hspan' hstart' => ?_
      have hmem : child ∈ form.children := mem_children_of_pieces hchild
      exact ih child hmem (h.child hmem) hspan' hstart'

end Moved

/-! ### The format of the printer -/

variable (source) in
/-- Where pieces end that stand in the source one after the other, with nothing between them. -/
def endOfPieces : Nat → List (Piece Node) → Option Nat
  | offset, [] => some offset
  | offset, .text text :: rest =>
    if slice source offset (offset + text.length) = text then endOfPieces (offset + text.length) rest else none
  | offset, .node node :: rest =>
    (node.span.filter fun span => span.start = offset).bind fun span => endOfPieces span.stop rest

variable (source style) in
/-- A node in the format of the printer: what the printer writes for a call, a function or a parameter without parentheses
stands in the source as it is written. Texts that are never shifted, those of template literals and parameters that
are only text, are on one line. -/
structure InFormat (node : Node) : Prop where
  pieces : isFixed node.form = true →
    ∀ span ∈ node.span, endOfPieces source span.start (piecesOf style node.form) = some span.stop
  literals : ∀ text ∈ literalTexts node.form, '\n' ∉ text.toList
  items : ∀ text ∈ itemTexts node.form, '\n' ∉ text.toList

instance (node : Node) : Decidable (InFormat source style node) :=
  decidable_of_iff ((isFixed node.form = true →
      ∀ span ∈ node.span, endOfPieces source span.start (piecesOf style node.form) = some span.stop) ∧
    (∀ text ∈ literalTexts node.form, '\n' ∉ text.toList) ∧ ∀ text ∈ itemTexts node.form, '\n' ∉ text.toList)
    ⟨fun h => ⟨h.1, h.2.1, h.2.2⟩, fun h => ⟨h.pieces, h.literals, h.items⟩⟩

/-- Texts on one line and nodes that were read from their stretches. -/
lemma tiles_of_endOfPieces {start stop : Nat} {parts : List (Piece Node)} (h : endOfPieces source start parts = some stop)
    (hlines : ∀ text, .text text ∈ parts → '\n' ∉ text.toList)
    (hnodes : ∀ node, .node node ∈ parts → ∃ span, IsReadFrom source span node ∧ span.start ≤ span.stop) :
    Tiles source start parts stop := by
  induction parts generalizing start with
  | nil =>
    obtain rfl := Option.some.inj h
    exact .nil
  | cons part rest ih =>
    have hlines' : ∀ text, .text text ∈ rest → '\n' ∉ text.toList := fun text htext =>
      hlines text (List.mem_cons_of_mem _ htext)
    have hnodes' : ∀ node, .node node ∈ rest → ∃ span, IsReadFrom source span node ∧ span.start ≤ span.stop :=
      fun node hnode => hnodes node (List.mem_cons_of_mem _ hnode)
    cases part with
    | text text =>
      rw [endOfPieces] at h
      split at h
      · next hslice =>
        exact .text (Nat.le_add_right _ _) hslice.symm (fun hbreak => absurd hbreak (hlines text List.mem_cons_self))
          (ih h hlines' hnodes')
      · cases h
    | node node =>
      obtain ⟨span, hread, hle⟩ := hnodes node List.mem_cons_self
      rw [endOfPieces] at h
      obtain ⟨span', hfound, hrest⟩ := Option.bind_eq_some_iff.mp h
      obtain ⟨hspan, hstart⟩ := Option.filter_eq_some_iff.mp hfound
      obtain rfl : span = span' := Option.some.inj (hread.place.symm.trans hspan)
      obtain rfl : span.start = start := of_decide_eq_true hstart
      exact .node hread hle (ih hrest hlines' hnodes')

/-! ### Nodes of constructs -/

section Made

variable {tree : Tree} (hbuilt : Built source tree) (hnested : tree.isNested = true) {node : Node}
  (hmade : MadeOf source tree node)
include hbuilt hnested hmade

/-- Where a node that was made of a construct was read from. -/
lemma stretch_made : ∃ span, IsReadFrom source span node ∧ span.start ≤ span.stop ∧ IsStretch source span := by
  have hle := (isNested_children hnested).1
  cases hmade with
  | text _ | verbatim _ _ | enclosing _ | parameters _ | other _ _ =>
    exact ⟨tree.span, ⟨rfl, rfl⟩, hle, hbuilt.shape.start, hbuilt.shape.stop⟩
  | @parameter child _ hchild _ =>
    have hshape := (hbuilt.child hchild).shape
    exact ⟨child.span, ⟨rfl, rfl⟩, (isNested_children (isNested_child hnested hchild)).1, hshape.start, hshape.stop⟩
  | @tail name _ hname =>
    exact ⟨_, ⟨rfl, rfl⟩, (within_child hnested hname).stop, (hbuilt.child hname).shape.stop, hbuilt.shape.stop⟩

omit hnested in
/-- Names are on one line. -/
lemma names_made : ∀ text ∈ nameTexts node.form, '\n' ∉ text.toList := by
  cases hmade with
  | text _ | verbatim _ _ | enclosing _ | parameters _ | parameter _ _ _ | tail _ _ => exact List.forall_mem_nil _
  | @other form _ hformed =>
    cases form with
    | identifier name isType =>
      obtain ⟨hkind, hname⟩ := hformed
      refine List.forall_mem_singleton.mpr ?_
      rw [hname]
      exact (hbuilt.shape.name hkind).2
    | functionExpression form =>
      obtain ⟨hkind, hname, -⟩ := hformed
      intro text htext
      rw [show form.name = some text from Option.mem_toList.mp htext] at hname
      obtain ⟨child, hchild, rfl⟩ := Option.map_eq_some_iff.mp hname.symm
      obtain ⟨hmem, -, hrole⟩ := mem_of_childAt hchild
      have hpart : IsFunctionPart child.1 :=
        hbuilt.shape.of_named (fun hnamed => (hbuilt.shape.functionShape hnamed hkind).2) child.1 hmem
      refine ((hbuilt.child hmem).shape.name ?_).2
      rw [hpart.name hrole]
      decide
    | _ => exact List.forall_mem_nil _

omit hbuilt hnested in
lemma name_made {name : String} {isType : Bool} (h : node.form = .identifier name isType) : node.info.raw = some name := by
  cases hmade with
  | text _ | verbatim _ _ | enclosing _ | parameters _ | parameter _ _ _ | tail _ _ => cases h
  | other _ hformed =>
    cases h
    exact congrArg some hformed.2.symm

/-- A node in a body is written where it stands in the source, if it is in the format of the printer. -/
lemma isMovable_made (hintact : IsIntact source node) (hinner : isInner node.form = true)
    (hformat : InFormat source style node)
    (hparts : ∀ part ∈ node.children, ∃ span, IsReadFrom source span part ∧ span.start ≤ span.stop) :
    IsMovable source style node := by
  obtain ⟨span, hread, hle, hstretch⟩ := stretch_made hbuilt hnested hmade
  obtain ⟨span', hread', htiles⟩ := isTiled_made hnested hbuilt hmade
  obtain rfl : span = span' := Option.some.inj (hread.place.symm.trans hread'.place)
  obtain ⟨info, form⟩ := node
  have hwritable : IsWritable form := by
    refine ⟨hinner, ?_, hformat.literals, hformat.items, names_made hbuilt hmade⟩
    rintro items layout rfl
    exact htiles.1
  refine ⟨hintact, hwritable, span, hread, hstretch, ?_⟩
  cases hfixed : isFixed form with
  | true =>
    refine tiles_of_endOfPieces (hformat.pieces hfixed span hread.place) (fun text => line_of_fixed hwritable hfixed)
      fun part hpart => hparts part (mem_children_of_pieces hpart)
  | false =>
    cases form with
    | verbatim kind parts literal => exact htiles
    | identifier name isType =>
      have hname : name = sliceOf source span := Option.some.inj ((name_made hmade rfl).symm.trans hread.raw)
      have hline := hwritable.names name List.mem_cons_self
      exact .text hle hname (fun hbreak => absurd hbreak hline) .nil
    | parameters items layout =>
      cases layout with
      | none => cases hfixed
      | some layout => exact htiles.2
    | arrowFunction | functionExpression | call => cases hfixed
    | _ => cases hinner

end Made

/-! ### Bodies -/

/-- The body of a function or an arrow function. -/
def bodyOf? : Form Node → Option Node
  | .arrowFunction arrow => some arrow.body
  | .functionExpression function | .functionDeclaration function => function.body
  | _ => none

lemma mem_children_of_bodyOf? {form : Form Node} {body : Node} (h : body ∈ bodyOf? form) : body ∈ form.children := by
  cases form with
  | arrowFunction arrow =>
    cases h
    simp [Form.children, ArrowForm.children]
  | functionExpression function | functionDeclaration function =>
    have h : function.body = some body := h
    simp [Form.children, FunctionForm.children, h]
  | _ => cases h

/-- A body that is found among the children of a construct. -/
lemma body_nodeAt {tree : Tree} {body : Node} (hbody : nodeAt source (convertAll source tree.children) "body" = some body)
    (hvisible : ∀ child ∈ tree.children, child.field = some "body" → IsVisibleAt source child.start) :
    InnerRead source body ∧ ∃ span, body.span = some span ∧ IsVisibleAt source span.start := by
  have hread := innerRead_nodeAt (innerRead_convertAll tree.children) body hbody
  obtain ⟨child, hchild, rfl⟩ := Option.map_eq_some_iff.mp hbody
  obtain ⟨hmem, heq, hrole⟩ := mem_of_childAt hchild
  refine ⟨hread, child.1.span, ?_, hvisible child.1 hmem hrole⟩
  rw [heq]
  exact span_nodeOf source child.1

/-- The block of a function with a keyword starts with its brace. -/
lemma visible_of_block {tree : Tree} (hblock : Built source tree) (hkind : tree.kind = "statement_block") :
    IsVisibleAt source tree.start := by
  have hhead : ∃ c, (source.drop tree.start).head? = some c ∧ IsVisible c := by
    cases hnamed : tree.isNamed with
    | true =>
      have hopens : OpensWith "\x7b" tree := hblock.shape.shaped_of_kind hnamed hkind
      exact ⟨_, hopens.head? hblock rfl, by decide, by decide⟩
    | false =>
      refine ⟨'s', head?_of_textOf ?_, by decide, by decide⟩
      rw [hblock.shape.token hnamed, hkind]
      rfl
  obtain ⟨c, hhead, hvisible⟩ := hhead
  intro d hd
  rw [hhead] at hd
  cases hd
  exact hvisible

/-- The body of a function was read as a construct in it that starts with a visible character. -/
lemma body_made {tree : Tree} {node body : Node} (hbuilt : Built source tree) (hmade : MadeOf source tree node)
    (hbody : body ∈ bodyOf? node.form) :
    InnerRead source body ∧ ∃ span, body.span = some span ∧ IsVisibleAt source span.start := by
  have hkeyword {form : FunctionForm Node} (hformed : IsFormed source tree (.functionExpression form))
      (hbody : form.body = some body) :
      InnerRead source body ∧ ∃ span, body.span = some span ∧ IsVisibleAt source span.start := by
    obtain ⟨hkind, -, hform⟩ := hformed
    refine body_nodeAt (hform.symm.trans hbody) fun child hchild hrole => ?_
    have hpart : IsFunctionPart child :=
      hbuilt.shape.of_named (fun hnamed => (hbuilt.shape.functionShape hnamed hkind).2) child hchild
    exact visible_of_block (hbuilt.child hchild) (hpart.body hrole)
  cases hmade with
  | text _ | verbatim _ _ | enclosing _ | parameters _ | parameter _ _ _ | tail _ _ => cases hbody
  | @other form _ hformed =>
    cases form with
    | arrowFunction arrow =>
      obtain ⟨hkind, hform⟩ := hformed
      cases hbody
      refine body_nodeAt hform fun child hchild hrole => ?_
      have hpart : IsArrowPart source child :=
        hbuilt.shape.of_named (fun hnamed => (hbuilt.shape.arrowShape hnamed hkind).2) child hchild
      exact (hpart.body hrole).2
    | functionExpression form | functionDeclaration form => exact hkeyword hformed hbody
    | _ => cases hbody

/-! ### Parsed modules -/

/-- A body of the form was read as a construct that starts with a visible character. -/
def StartsVisibly (source : List Char) (form : Form Node) : Prop :=
  ∀ body ∈ bodyOf? form, InnerRead source body ∧ ∃ span, body.span = some span ∧ IsVisibleAt source span.start

/-- In a parsed module, a body was read as a construct that starts with a visible character. -/
lemma body_of_parsed {source path : String} {module : Module} (h : Module.parse source path = .ok module)
    {statement function body : Node} (hstatement : statement ∈ module.body) (hfunction : function ∈ statement.descendants)
    (hbody : body ∈ bodyOf? function.form) :
    InnerRead source.toList body ∧ ∃ span, body.span = some span ∧ IsVisibleAt source.toList span.start := by
  obtain ⟨root, hroot, hstatements⟩ := statements_of_parse h
  obtain ⟨tree, htree, hform⟩ := hstatements statement hstatement
  have hnested := (grammarParse_eq_ok hroot).1
  have hmade : IsMade source.toList root (OfTree.statement source.toList tree) := isMade_statement hnested htree
  -- the statement itself has the form of one that was made of a construct, and may be a function
  have hstarts : Throughout (fun n => StartsVisibly source.toList n.form) (OfTree.statement source.toList tree) := by
    intro n hn body hbody
    obtain ⟨⟨inner, hinner, hmadeOf⟩, -⟩ := hmade n hn
    exact body_made (hinner.built (built_of_parse hroot)) hmadeOf hbody
  exact (throughout_congr hform).mpr hstarts function hfunction body hbody

/-- What stands in a body of a parsed module is written where it stands in the source. -/
lemma isMovable_of_parse {source path : String} {module : Module} (h : Module.parse source path = .ok module)
    {statement function body : Node} (hstatement : statement ∈ module.body) (hfunction : function ∈ statement.descendants)
    (hbody : body ∈ bodyOf? function.form) (hformat : ∀ node ∈ body.descendants, InFormat source.toList style node) :
    Throughout (IsMovable source.toList style) body := by
  have hread := (body_of_parsed h hstatement hfunction hbody).1
  obtain ⟨root, hroot, hmade⟩ := isMade_of_parse h
  obtain ⟨part, hpart, hmem⟩ : ∃ part ∈ statement.children, body ∈ part.descendants := by
    have hchild := mem_children_of_bodyOf? hbody
    rcases mem_descendants.mp hfunction with rfl | ⟨part, hpart, hfunction⟩
    · exact ⟨body, hchild, mem_descendants_self body⟩
    · exact ⟨part, hpart, mem_descendants_trans hfunction (mem_descendants_of_child hchild (mem_descendants_self body))⟩
  have hconstruct (n : Node) (hn : n ∈ body.descendants) :
      ∃ tree, Built source.toList tree ∧ tree.isNested = true ∧ MadeOf source.toList tree n := by
    obtain ⟨⟨tree, htree, hmadeOf⟩, -⟩ := hmade statement hstatement part hpart n (mem_descendants_trans hmem hn)
    exact ⟨tree, htree.built (built_of_parse hroot), htree.isNested (grammarParse_eq_ok hroot).1, hmadeOf⟩
  intro n hn
  obtain ⟨tree, hbuilt, hnested, hmadeOf⟩ := hconstruct n hn
  have hintact := isIntact_of_parse h statement hstatement part hpart n (mem_descendants_trans hmem hn)
  refine isMovable_made hbuilt hnested hmadeOf hintact (hread.inner n hn) (hformat n hn) fun inner hinner => ?_
  have hinner : inner ∈ body.descendants :=
    mem_descendants_trans hn (mem_descendants_of_child hinner (mem_descendants_self inner))
  obtain ⟨tree, hbuilt, hnested, hmadeOf⟩ := hconstruct inner hinner
  obtain ⟨span, hread, hle, -⟩ := stretch_made hbuilt hnested hmadeOf
  exact ⟨span, hread, hle⟩

/-- A body of a parsed module without tabs, in which calls and functions are in the format of the printer, is printed on a
line that is deeper by some columns than the one it was read on as its source text with as many spaces in front of its
lines. -/
theorem writeNode_deepened {source path : String} {module : Module} (hparse : Module.parse source path = .ok module)
    (htabs : '\t' ∉ source.toList) (style : Style) {statement function body : Node} (hstatement : statement ∈ module.body)
    (hfunction : function ∈ statement.descendants) (hbody : body ∈ bodyOf? function.form)
    (hformat : ∀ node ∈ body.descendants, InFormat source.toList style node) :
    ∃ span, body.span = some span ∧ ∀ depth before,
      Layout.column before = indentAt source.toList span.start + depth →
        writeNode style body before = .ok (before ++ deepened depth (slice source.toList span.start span.stop)) := by
  obtain ⟨-, span, hspan, hvisible⟩ := body_of_parsed hparse hstatement hfunction hbody
  have hmovable := isMovable_of_parse hparse hstatement hfunction hbody hformat
  refine ⟨span, hspan, fun depth before hcolumn => ?_⟩
  have hwrite := writeNode_movable htabs hvisible hcolumn hmovable hspan (Nat.le_refl _)
  obtain ⟨span', hread, hstretch, htiles⟩ := hmovable.root.stretch
  obtain rfl : span = span' := Option.some.inj (hspan.symm.trans hread.place)
  rw [deepened_slice htabs htiles.le hstretch.stop]
  rwa [deepenedSlice_self, String.append_empty] at hwrite

/-- A handler with a callback, a template literal and an object in its body. -/
def listedPages : String :=
  "export const loader = async () => \x7b\n  const names = pages.map((page) => \x7b\n" ++
    "    return \x60/$\x7bpage\x7d\x60;\n  \x7d);\n\n  return \x7b\n    names,\n  \x7d;\n\x7d;\n"

theorem listedPages_deepened : ∃ module statement function body, Module.parse listedPages "routes/a.ts" = .ok module ∧
    '\t' ∉ listedPages.toList ∧ statement ∈ module.body ∧ function ∈ statement.descendants ∧ body ∈ bodyOf? function.form ∧
    (∀ node ∈ body.descendants, InFormat listedPages.toList {} node) ∧
    writeNode {} body "  loader: async () => " = .ok ("  loader: async () => " ++
      "\x7b\n    const names = pages.map((page) => \x7b\n      return \x60/$\x7bpage\x7d\x60;\n    \x7d);\n\n" ++
      "    return \x7b\n      names,\n    \x7d;\n  \x7d") := by
  have htabs : '\t' ∉ listedPages.toList := by decide +kernel
  have hrun : ((Module.parse listedPages "routes/a.ts").toOption.any fun module =>
      module.body.any fun statement => statement.descendants.any fun function => (bodyOf? function.form).any fun body =>
        body.span = some ⟨34, 132⟩ ∧ ∀ node ∈ body.descendants, InFormat listedPages.toList {} node) = true := by
    decide +kernel
  obtain ⟨module, hparse, hrun⟩ := exists_of_any_toOption hrun
  obtain ⟨statement, hstatement, hrun⟩ := List.any_eq_true.mp hrun
  obtain ⟨function, hfunction, hrun⟩ := List.any_eq_true.mp hrun
  obtain ⟨body, hbody, hrun⟩ := (Option.any_eq_true _ _).mp hrun
  obtain ⟨hplace, hformat⟩ := of_decide_eq_true hrun
  obtain ⟨span, hspan, hwrite⟩ := writeNode_deepened hparse htabs {} hstatement hfunction hbody hformat
  obtain rfl : _ = span := Option.some.inj (hplace.symm.trans hspan)
  have hprinted := hwrite 2 "  loader: async () => " (by decide +kernel)
  refine ⟨module, statement, function, body, hparse, htabs, hstatement, hfunction, hbody, hformat, hprinted.trans ?_⟩
  decide +kernel

end RouteMigration.Proofs
