import RouteMigration.Proofs.ParsedModules
import RouteMigration.Proofs.Readers

/-!
# Constructs behind nodes

Every node of a parsed module was made of a construct of its source, in one of a few ways. What holds of every node
that is made in these ways holds of all nodes of the module.
-/

namespace RouteMigration.Proofs
open Syntax Grammar OfTree

/-! ### Constructs of a source -/

/-- The constructs of a tree: the tree itself and the constructs in it. -/
inductive HasConstruct (root : Tree) : Tree → Prop where
  | root : HasConstruct root root
  | child {tree child : Tree} : HasConstruct root tree → child ∈ tree.children → HasConstruct root child

lemma HasConstruct.isNested {root tree : Tree} (h : HasConstruct root tree) (hroot : root.isNested = true) :
    tree.isNested = true := by
  induction h with
  | root => exact hroot
  | child _ hchild ih => exact isNested_child ih hchild

lemma HasConstruct.built {source : List Char} {root tree : Tree} (h : HasConstruct root tree) (hroot : Built source root) :
    Built source tree := by
  induction h with
  | root => exact hroot
  | child _ hchild ih => exact ih.child hchild

mutual

/-- The constructs of a tree, one after the other. -/
def constructs : Tree → List Tree
  | .mk kind named field span children => .mk kind named field span children :: constructsIn children

def constructsIn : List Tree → List Tree
  | [] => []
  | tree :: rest => constructs tree ++ constructsIn rest

end

lemma constructsIn_eq_flatMap (trees : List Tree) : constructsIn trees = trees.flatMap constructs := by
  induction trees with
  | nil => rfl
  | cons tree rest ih => rw [constructsIn, ih, List.flatMap_cons]

lemma constructs_eq (tree : Tree) : constructs tree = tree :: tree.children.flatMap constructs := by
  obtain ⟨kind, named, field, span, children⟩ := tree
  rw [constructs, constructsIn_eq_flatMap]
  rfl

lemma subset_constructs {root tree : Tree} (h : HasConstruct root tree) : ∀ inner ∈ constructs tree, inner ∈ constructs root := by
  induction h with
  | root => exact fun _ hinner => hinner
  | @child tree child _ hchild ih =>
    intro inner hinner
    refine ih inner ?_
    rw [constructs_eq]
    exact List.mem_cons_of_mem _ (List.mem_flatMap.mpr ⟨child, hchild, hinner⟩)

lemma HasConstruct.mem_constructs {root tree : Tree} (h : HasConstruct root tree) : tree ∈ constructs root := by
  refine subset_constructs h tree ?_
  rw [constructs_eq]
  exact List.mem_cons_self ..

mutual

lemma hasConstruct_of_mem {root inner : Tree} : ∀ tree, HasConstruct root tree → inner ∈ constructs tree →
    HasConstruct root inner
  | .mk kind named field span children, h, hmem => by
    rw [constructs] at hmem
    rcases List.mem_cons.mp hmem with rfl | hmem
    · exact h
    · exact hasConstruct_of_memIn children (fun child hchild => h.child hchild) hmem

lemma hasConstruct_of_memIn {root inner : Tree} : ∀ trees, (∀ tree ∈ trees, HasConstruct root tree) →
    inner ∈ constructsIn trees → HasConstruct root inner
  | [], _, hmem => absurd hmem List.not_mem_nil
  | tree :: rest, h, hmem => by
    rw [constructsIn] at hmem
    obtain ⟨htree, hrest⟩ := List.forall_mem_cons.mp h
    rcases List.mem_append.mp hmem with hmem | hmem
    · exact hasConstruct_of_mem tree htree hmem
    · exact hasConstruct_of_memIn rest hrest hmem

end

/-- The list has all constructs of the tree, and nothing else. -/
lemma mem_constructs {root tree : Tree} : tree ∈ constructs root ↔ HasConstruct root tree :=
  ⟨hasConstruct_of_mem root .root, HasConstruct.mem_constructs⟩

lemma Within.refl (span : Span) : Within span span :=
  ⟨Nat.le_refl _, Nat.le_refl _⟩

lemma Within.trans {inner middle outer : Span} (h : Within inner middle) (h' : Within middle outer) :
    Within inner outer :=
  ⟨Nat.le_trans h'.start h.start, Nat.le_trans h.stop h'.stop⟩

/-! ### Ways to make a node -/

/-- A form with source text of its own between its parts. -/
def hasText {α : Type} : Form α → Bool
  | .verbatim .. | .parameters .. => true
  | _ => false

variable (source : List Char)

lemma convertAll_eq_map (trees : List Tree) : convertAll source trees = trees.map fun tree => (tree, convert source tree) := by
  induction trees with
  | nil => rfl
  | cons tree rest ih => rw [convertAll, ih, List.map_cons]

lemma node_convert (tree : Tree) :
    (convert source tree).node = build source tree.kind tree.span (convertAll source tree.children) := by
  obtain ⟨kind, named, field, span, children⟩ := tree
  rw [convert]
  rfl

/-- Constructs that enclose others in parentheses. -/
def enclosingKinds : List String :=
  ["arguments", "parenthesized_expression"]

def classKinds : List String :=
  ["class_declaration", "class"]

/-- A name has the text of the construct, and a function has the name and the body of the construct for its own. -/
def IsFormed (tree : Tree) : Form Node → Prop
  | .identifier name _ => tree.kind ∈ identifierKinds ∧ name = textOf source tree
  | .arrowFunction arrow =>
    tree.kind = "arrow_function" ∧ nodeAt source (convertAll source tree.children) "body" = some arrow.body
  | .functionExpression form | .functionDeclaration form => tree.kind ∈ functionKinds ++ declarationKinds ∧
    form.name = textAt source (convertAll source tree.children) "name" ∧
    form.body = nodeAt source (convertAll source tree.children) "body"
  | _ => True

/-- A node that was made of the construct, apart from what became of the constructs in it. -/
inductive MadeOf (tree : Tree) : Node → Prop where
  /-- Nothing but text. -/
  | text : (convert source tree).node = none →
      MadeOf tree (read source tree.span (.verbatim tree.kind [.text (textOf source tree)] false))
  | verbatim {literal : Bool} : literal = decide (tree.kind = "template_string") →
      (convert source tree).node = some (verbatim source tree.kind tree.span (convertAll source tree.children) literal) →
      MadeOf tree (verbatim source tree.kind tree.span (convertAll source tree.children) literal)
  | enclosing : tree.kind ∈ enclosingKinds →
      MadeOf tree (enclosing source tree.kind tree.span (convertAll source tree.children))
  | parameters : tree.kind = "formal_parameters" →
      MadeOf tree (parameters source tree.span (convertAll source tree.children))
  /-- The single parameter of an arrow function. -/
  | parameter {child : Tree} : tree.kind = "arrow_function" → child ∈ tree.children → child.field = some "parameter" →
      MadeOf tree (read source child.span (.parameters [.node (nodeOf source (child, convert source child))] none))
  /-- A class after its name. -/
  | tail {name : Tree} : tree.kind ∈ classKinds → name ∈ tree.children →
      MadeOf tree (OfTree.verbatim source "class_tail" ⟨name.stop, tree.stop⟩
        ((convertAll source tree.children).filter fun child => name.stop ≤ child.1.start) false)
  | other {form : Form Node} : hasText form = false → IsFormed source tree form → MadeOf tree (read source tree.span form)

variable {source} {root : Tree}

/-- The parts of the node lie within its stretch of the source. -/
def PartsWithin (node : Node) : Prop :=
  ∃ whole, node.span = some whole ∧ ∀ part ∈ node.children, ∃ span, part.span = some span ∧ Within span whole

variable (source root) in
/-- Throughout the tree of the node, a node was made of a construct of the source. -/
def IsMade (node : Node) : Prop :=
  Throughout (fun n => (∃ tree, HasConstruct root tree ∧ MadeOf source tree n) ∧ PartsWithin n) node

variable (source root) in
/-- A node was made of the construct, and so were the nodes in it of others. -/
lemma isMade_iff {tree : Tree} {node : Node} (htree : HasConstruct root tree) (hmade : MadeOf source tree node)
    (hparts : PartsWithin node) (hchildren : ∀ part ∈ node.children, IsMade source root part) : IsMade source root node :=
  throughout_iff.mpr ⟨⟨⟨tree, htree, hmade⟩, hparts⟩, hchildren⟩

/-! ### What constructs become -/

variable (source root) in
/-- The node stands for a child of the construct. -/
structure IsPart (tree : Tree) (part : Node) : Prop where
  made : IsMade source root part
  child : ∃ child ∈ tree.children, part.span = some child.span

variable (source root) in
/-- What the construct becomes is made of constructs, too. -/
structure MadeConversion (tree : Tree) (conversion : Conversion) : Prop where
  node : ∀ node ∈ conversion.node, IsMade source root node ∧ node.span = some tree.span
  list : ∀ list ∈ conversion.list, IsMade source root list ∧ list.span = some tree.span

section Children

variable {tree : Tree} (hnested : tree.isNested = true) (htree : HasConstruct root tree)
  (h : ∀ child ∈ tree.children, MadeConversion source root child (convert source child))

include hnested in
lemma partsWithin_of_isPart {span : Span} {form : Form Node} (hspan : span = tree.span)
    (hparts : ∀ part ∈ form.children, IsPart source root tree part) : PartsWithin (read source span form) := by
  refine ⟨tree.span, congrArg some hspan, fun part hpart => ?_⟩
  obtain ⟨-, child, hchild, hpartSpan⟩ := hparts part hpart
  exact ⟨child.span, hpartSpan, within_child hnested hchild⟩

include hnested htree in
lemma isMade_read {form : Form Node} (hmade : MadeOf source tree (read source tree.span form))
    (hparts : ∀ part ∈ form.children, IsPart source root tree part) : IsMade source root (read source tree.span form) :=
  isMade_iff source root htree hmade (partsWithin_of_isPart hnested rfl hparts) fun part hpart =>
    (hparts part hpart).made

include hnested htree in
lemma isMade_other {form : Form Node} (hform : hasText form = false) (hformed : IsFormed source tree form)
    (hparts : ∀ part ∈ form.children, IsPart source root tree part) : IsMade source root (read source tree.span form) :=
  isMade_read hnested htree (.other hform hformed) hparts

include htree h

lemma isPart_nodeOf {child : Tree} (hchild : child ∈ tree.children) :
    IsPart source root tree (nodeOf source (child, convert source child)) := by
  unfold nodeOf
  cases hnode : (convert source child).node with
  | none =>
    refine ⟨isMade_iff source root (htree.child hchild) (.text hnode) ?_ (List.forall_mem_nil _), child, hchild, rfl⟩
    exact ⟨child.span, rfl, List.forall_mem_nil _⟩
  | some node =>
    obtain ⟨hmade, hspan⟩ := (h child hchild).node node hnode
    exact ⟨hmade, child, hchild, hspan⟩

omit htree h in
lemma mem_of_childAt {field : String} {child : Child}
    (hchild : childAt (convertAll source tree.children) field = some child) :
    child.1 ∈ tree.children ∧ child = (child.1, convert source child.1) ∧ child.1.field = some field := by
  have hfield : decide (child.1.field = some field) = true := by
    have hfound := List.find?_some hchild
    exact hfound
  have hmem := List.mem_of_find?_eq_some hchild
  rw [convertAll_eq_map] at hmem
  obtain ⟨tree, htree, rfl⟩ := List.mem_map.mp hmem
  exact ⟨htree, rfl, of_decide_eq_true hfield⟩

lemma isPart_nodeAt {field : String} :
    ∀ part ∈ nodeAt source (convertAll source tree.children) field, IsPart source root tree part := by
  intro part hpart
  obtain ⟨child, hchild, rfl⟩ := Option.map_eq_some_iff.mp hpart
  obtain ⟨hmem, heq, -⟩ := mem_of_childAt hchild
  rw [heq]
  exact isPart_nodeOf htree h hmem

omit htree in
lemma isPart_listAt {field : String} :
    ∀ list ∈ listAt (convertAll source tree.children) field, IsPart source root tree list := by
  intro list hlist
  obtain ⟨child, hchild, hlist⟩ := Option.bind_eq_some_iff.mp hlist
  obtain ⟨hmem, heq, -⟩ := mem_of_childAt hchild
  rw [heq] at hlist
  obtain ⟨hmade, hspan⟩ := (h child.1 hmem).list list hlist
  exact ⟨hmade, child.1, hmem, hspan⟩

omit htree in
/-- The nodes that a verbatim takes from its children. -/
lemma isPart_converted {span : Span} {node : Node} (hnode : (span, node) ∈ converted (convertAll source tree.children)) :
    IsPart source root tree node ∧ node.span = some span := by
  rw [convertAll_eq_map] at hnode
  obtain ⟨_, hmem, hconverted⟩ := List.mem_filterMap.mp hnode
  obtain ⟨child, hchild, rfl⟩ := List.mem_map.mp hmem
  dsimp only at hconverted
  split at hconverted
  · obtain ⟨found, hfound, heq⟩ := Option.map_eq_some_iff.mp hconverted
    cases heq
    obtain ⟨hmade, hspan⟩ := (h child hchild).node node hfound
    exact ⟨⟨hmade, child, hchild, hspan⟩, hspan⟩
  · cases hconverted

include hnested

lemma isMade_verbatim {literal : Bool} (hliteral : literal = decide (tree.kind = "template_string"))
    (hconvert : (convert source tree).node =
      some (verbatim source tree.kind tree.span (convertAll source tree.children) literal)) :
    IsMade source root (verbatim source tree.kind tree.span (convertAll source tree.children) literal) := by
  refine isMade_read hnested htree (.verbatim hliteral hconvert) fun part hpart => ?_
  rw [Form.children, nodesOf_partsFrom] at hpart
  obtain ⟨⟨span, _⟩, hmem, rfl⟩ := List.mem_map.mp hpart
  exact (isPart_converted h hmem).1

lemma isMade_verbatim? (hkind : tree.kind ≠ "template_string") {node : Node} (hconvert : (convert source tree).node = some node)
    (hnode : verbatim? source tree.kind tree.span (convertAll source tree.children) = some node) :
    IsMade source root node ∧ node.span = some tree.span := by
  unfold verbatim? at hnode
  split at hnode
  · cases hnode
  · cases hnode
    exact ⟨isMade_verbatim hnested htree h (decide_eq_false hkind).symm hconvert, rfl⟩

lemma isMade_enclosing (hkind : tree.kind ∈ enclosingKinds) :
    IsMade source root (enclosing source tree.kind tree.span (convertAll source tree.children)) := by
  refine isMade_read hnested htree (.enclosing hkind) fun part hpart => ?_
  rw [Form.children, nodesOf_partsFrom, convertAll_eq_map] at hpart
  obtain ⟨_, hmem, rfl⟩ := List.mem_map.mp hpart
  obtain ⟨_, hentry, rfl⟩ := List.mem_map.mp hmem
  obtain ⟨child, hchild, rfl⟩ := List.mem_map.mp (List.mem_of_mem_filter hentry)
  exact isPart_nodeOf htree h hchild

lemma isMade_parameters (hkind : tree.kind = "formal_parameters") :
    IsMade source root (parameters source tree.span (convertAll source tree.children)) := by
  refine isMade_read hnested htree (.parameters hkind) fun part hpart => ?_
  obtain ⟨piece, hpiece, hpart⟩ := List.mem_filterMap.mp hpart
  obtain ⟨_, hentry, rfl⟩ := List.mem_map.mp hpiece
  rw [convertAll_eq_map] at hentry
  obtain ⟨child, hchild, rfl⟩ := List.mem_map.mp (List.mem_of_mem_filter hentry)
  dsimp only at hpart
  cases hnode : (convert source child).node with
  | none =>
    rw [hnode] at hpart
    cases hpart
  | some node =>
    rw [hnode] at hpart
    cases hpart
    obtain ⟨hmade, hspan⟩ := (h child hchild).node _ hnode
    exact ⟨hmade, child, hchild, hspan⟩

omit hnested htree h in
lemma formed_function? {form : FunctionForm Node} (hform : function? source (convertAll source tree.children) = some form) :
    form.name = textAt source (convertAll source tree.children) "name" ∧
      form.body = nodeAt source (convertAll source tree.children) "body" := by
  obtain ⟨params, -, rfl⟩ := Option.map_eq_some_iff.mp hform
  exact ⟨rfl, rfl⟩

omit hnested in
/-- The parts of a function are those of its children. -/
lemma isPart_function? {form : FunctionForm Node} (hform : function? source (convertAll source tree.children) = some form) :
    ∀ part ∈ form.children, IsPart source root tree part := by
  obtain ⟨params, hparams, rfl⟩ := Option.map_eq_some_iff.mp hform
  intro part hpart
  simp only [FunctionForm.children, functionForm, List.cons_append, List.mem_cons, List.mem_append,
    Option.mem_toList] at hpart
  rcases hpart with rfl | (hpart | hpart) | hpart
  · exact isPart_listAt h _ hparams
  · exact isPart_nodeAt htree h part hpart
  · exact isPart_nodeAt htree h part hpart
  · exact isPart_nodeAt htree h part hpart

omit hnested in
/-- A single parameter makes a list of its own. -/
lemma isPart_single (hkind : tree.kind = "arrow_function") {child : Child}
    (hchild : childAt (convertAll source tree.children) "parameter" = some child) :
    IsPart source root tree (read source child.1.span (.parameters [.node (nodeOf source child)] none)) := by
  obtain ⟨hmem, heq, hfield⟩ := mem_of_childAt hchild
  obtain ⟨hmade, -⟩ := isPart_nodeOf htree h hmem
  rw [heq]
  dsimp only
  refine ⟨isMade_iff source root htree (.parameter hkind hmem hfield) ?_ ?_, child.1, hmem, rfl⟩
  · refine ⟨child.1.span, rfl, fun part hpart => ⟨child.1.span, ?_, Within.refl _⟩⟩
    rw [List.mem_singleton.mp hpart]
    exact span_nodeOf source child.1
  · intro part hpart
    rw [List.mem_singleton.mp hpart]
    exact hmade

lemma isMade_arrow? (hkind : tree.kind = "arrow_function") :
    ∀ node ∈ arrow? source tree.span (convertAll source tree.children),
      IsMade source root node ∧ node.span = some tree.span := by
  intro node hnode
  obtain ⟨params, hparams, hnode⟩ := Option.bind_eq_some_iff.mp hnode
  obtain ⟨body, hbody, hnode⟩ := Option.bind_eq_some_iff.mp hnode
  cases hnode
  refine ⟨isMade_other hnested htree rfl ⟨hkind, hbody⟩ fun part hpart => ?_, rfl⟩
  simp only [Form.children, ArrowForm.children, functionForm, List.mem_cons, List.mem_append,
    Option.mem_toList] at hpart
  rcases hpart with rfl | rfl | hpart | hpart
  · rcases Option.or_eq_some_iff.mp hparams with hsingle | ⟨-, hlist⟩
    · obtain ⟨child, hchild, rfl⟩ := Option.map_eq_some_iff.mp hsingle
      exact isPart_single htree h hkind hchild
    · exact isPart_listAt h _ hlist
  · exact isPart_nodeAt htree h _ hbody
  · exact isPart_nodeAt htree h _ hpart
  · exact isPart_nodeAt htree h _ hpart

lemma isMade_call? : ∀ node ∈ call? source tree.span (convertAll source tree.children),
    IsMade source root node ∧ node.span = some tree.span := by
  intro node hnode
  obtain ⟨callee, hcallee, hnode⟩ := Option.bind_eq_some_iff.mp hnode
  obtain ⟨⟨arguments, conversion⟩, harguments, hnode⟩ := Option.bind_eq_some_iff.mp hnode
  dsimp only at hnode
  split at hnode
  · obtain ⟨list, hlist, hnode⟩ := Option.bind_eq_some_iff.mp hnode
    cases hnode
    refine ⟨isMade_other hnested htree rfl trivial fun part hpart => ?_, rfl⟩
    simp only [Form.children, List.mem_cons, Option.mem_toList] at hpart
    rcases hpart with rfl | rfl | hpart
    · obtain ⟨hmem, heq, -⟩ := mem_of_childAt hcallee
      rw [heq]
      exact isPart_nodeOf htree h hmem
    · refine isPart_listAt h _ (Option.bind_eq_some_iff.mpr ⟨_, harguments, hlist⟩)
    · exact isPart_nodeAt htree h _ hpart
  · cases hnode

lemma isMade_build : ∀ node ∈ build source tree.kind tree.span (convertAll source tree.children),
    IsMade source root node ∧ node.span = some tree.span := by
  intro node hnode
  have hconvert : (convert source tree).node = some node := (node_convert source tree).trans hnode
  unfold build at hnode
  split_ifs at hnode with hidentifier harrow hfunction hcall hcomment hparenthesized htemplate
  · cases hnode
    exact ⟨isMade_other hnested htree rfl ⟨hidentifier, rfl⟩ (List.forall_mem_nil _), rfl⟩
  · rcases Option.or_eq_some_iff.mp hnode with hnode | ⟨-, hnode⟩
    · exact isMade_arrow? hnested htree h harrow node hnode
    · exact isMade_verbatim? hnested htree h (by rw [harrow]; decide) hconvert hnode
  · rcases Option.or_eq_some_iff.mp hnode with hnode | ⟨-, hnode⟩
    · obtain ⟨form, hform, rfl⟩ := Option.map_eq_some_iff.mp hnode
      have hformed : IsFormed source tree (.functionExpression form) :=
        ⟨List.mem_append_left _ hfunction, formed_function? hform⟩
      exact ⟨isMade_other hnested htree rfl hformed (isPart_function? htree h hform), rfl⟩
    · refine isMade_verbatim? hnested htree h ?_ hconvert hnode
      intro hkind
      rw [hkind] at hfunction
      exact absurd hfunction (by decide)
  · rcases Option.or_eq_some_iff.mp hnode with hnode | ⟨-, hnode⟩
    · exact isMade_call? hnested htree h node hnode
    · exact isMade_verbatim? hnested htree h (by rw [hcall]; decide) hconvert hnode
  · cases hnode
  · cases hnode
    exact ⟨isMade_enclosing hnested htree h (by rw [hparenthesized]; decide), rfl⟩
  · cases hnode
    exact ⟨isMade_verbatim hnested htree h (decide_eq_true htemplate).symm hconvert, rfl⟩
  · exact isMade_verbatim? hnested htree h htemplate hconvert hnode

lemma isMade_buildList : ∀ list ∈ buildList source tree.kind tree.span (convertAll source tree.children),
    IsMade source root list ∧ list.span = some tree.span := by
  intro list hlist
  unfold buildList at hlist
  split_ifs at hlist with harguments hparameters
  · cases hlist
    exact ⟨isMade_enclosing hnested htree h (by rw [harguments]; decide), rfl⟩
  · cases hlist
    exact ⟨isMade_parameters hnested htree h hparameters, rfl⟩
  · cases hlist

end Children

/-- What a construct becomes was made of the constructs in it. -/
theorem madeConversion (hroot : root.isNested = true) : ∀ tree, HasConstruct root tree →
    MadeConversion source root tree (convert source tree)
  | .mk kind named field span children, htree => by
    have h (child : Tree) (hchild : child ∈ children) : MadeConversion source root child (convert source child) :=
      have := List.sizeOf_lt_of_mem hchild
      madeConversion hroot child (htree.child hchild)
    have hnested := htree.isNested hroot
    exact ⟨isMade_build hnested htree h, isMade_buildList hnested htree h⟩
  termination_by tree => sizeOf tree
  decreasing_by
    simp only [Tree.mk.sizeOf_spec]
    omega

/-! ### Statements -/

section Statements

variable {tree : Tree} (hroot : root.isNested = true) (htree : HasConstruct root tree)
include hroot htree

lemma madeConversion_child : ∀ child ∈ tree.children, MadeConversion source root child (convert source child) :=
  fun child hchild => madeConversion hroot child (htree.child hchild)

lemma isMade_functionDeclaration (hkind : tree.kind ∈ functionKinds ++ declarationKinds) :
    ∀ node ∈ functionDeclaration source tree, IsMade source root node ∧ node.span = some tree.span := by
  intro node hnode
  obtain ⟨form, hform, rfl⟩ := Option.map_eq_some_iff.mp hnode
  have hformed : IsFormed source tree (.functionDeclaration form) := ⟨hkind, formed_function? hform⟩
  have hparts := isPart_function? htree (madeConversion_child hroot htree) hform
  exact ⟨isMade_other (htree.isNested hroot) htree rfl hformed hparts, rfl⟩

lemma isMade_declarator : ∀ node ∈ declarator source tree, IsMade source root node ∧ node.span = some tree.span := by
  intro node hnode
  have hchildren : ∀ child ∈ tree.children, MadeConversion source root child (convert source child) :=
    madeConversion_child hroot htree
  obtain ⟨name, hname, rfl⟩ := Option.map_eq_some_iff.mp hnode
  refine ⟨isMade_other (htree.isNested hroot) htree rfl trivial fun part hpart => ?_, rfl⟩
  simp only [Form.children, List.mem_cons, List.mem_append, Option.mem_toList] at hpart
  rcases hpart with rfl | hpart | hpart
  · exact isPart_nodeAt htree hchildren _ hname
  · exact isPart_nodeAt htree hchildren _ hpart
  · exact isPart_nodeAt htree hchildren _ hpart

lemma isMade_variableDeclaration : ∀ node ∈ variableDeclaration source tree,
    IsMade source root node ∧ node.span = some tree.span := by
  intro node hnode
  obtain ⟨declarators, hdeclarators, hnode⟩ := Option.bind_eq_some_iff.mp hnode
  cases hnode
  refine ⟨isMade_other (htree.isNested hroot) htree rfl trivial fun part hpart => ?_, rfl⟩
  obtain ⟨child, hchild, hdeclarator⟩ := mem_of_mapM_eq_some hdeclarators hpart
  have hmem : child ∈ tree.children := List.mem_of_mem_filter (List.mem_of_mem_filter hchild)
  obtain ⟨hmade, hspan⟩ := isMade_declarator hroot (htree.child hmem) part hdeclarator
  exact ⟨hmade, child, hmem, hspan⟩

/-- The tail of a class stands for the rest of the class after its name. -/
lemma isMade_classTail {name : Tree} (hkind : tree.kind ∈ classKinds) (hname : name ∈ tree.children) :
    IsMade source root (OfTree.verbatim source "class_tail" ⟨name.stop, tree.stop⟩
      ((convertAll source tree.children).filter fun child => name.stop ≤ child.1.start) false) := by
  have hnested := htree.isNested hroot
  have hparts : ∀ part ∈ nodesOf (partsFrom source name.stop tree.stop (converted
      ((convertAll source tree.children).filter fun child => name.stop ≤ child.1.start))),
      IsMade source root part ∧ ∃ span, part.span = some span ∧ Within span ⟨name.stop, tree.stop⟩ := by
    intro part hpart
    rw [nodesOf_partsFrom, convertAll_eq_map] at hpart
    obtain ⟨⟨span, _⟩, hmem, rfl⟩ := List.mem_map.mp hpart
    obtain ⟨_, hfiltered, hconverted⟩ := List.mem_filterMap.mp hmem
    obtain ⟨hmapped, hafter⟩ := List.mem_filter.mp hfiltered
    obtain ⟨child, hchild, rfl⟩ := List.mem_map.mp hmapped
    dsimp only at hconverted hafter
    split at hconverted
    · obtain ⟨_, hnode, heq⟩ := Option.map_eq_some_iff.mp hconverted
      cases heq
      obtain ⟨hmade, hspan⟩ := (madeConversion_child hroot htree child hchild).node _ hnode
      exact ⟨hmade, child.span, hspan, of_decide_eq_true hafter, (within_child hnested hchild).stop⟩
    · cases hconverted
  refine isMade_iff source root htree (.tail hkind hname) ⟨_, rfl, fun part hpart => ?_⟩ fun part hpart => ?_
  · exact (hparts part hpart).2
  · exact (hparts part hpart).1

lemma isMade_classDeclaration (hkind : tree.kind ∈ classKinds) : ∀ node ∈ classDeclaration source tree,
    IsMade source root node ∧ node.span = some tree.span := by
  intro node hnode
  obtain ⟨start, hstart, hnode⟩ := Option.bind_eq_some_iff.mp hnode
  cases hnode
  have hnested := htree.isNested hroot
  obtain ⟨name, hfound, rfl⟩ := Option.map_eq_some_iff.mp hstart
  have hname : name ∈ tree.children := by
    rcases Option.or_eq_some_iff.mp hfound with hfound | ⟨-, hfound⟩
    · exact List.mem_of_find?_eq_some hfound
    · exact List.mem_of_find?_eq_some hfound
  have hstart : tree.start ≤ name.stop := by
    obtain ⟨hwithin, hnameNested⟩ := within_of_areNested (isNested_children hnested).2 hname
    exact Nat.le_trans hwithin.start (isNested_children hnameNested).1
  refine ⟨isMade_iff source root htree (.other rfl trivial) ⟨tree.span, rfl, fun part hpart => ?_⟩ fun part hpart => ?_, rfl⟩
  · rw [List.mem_singleton.mp hpart]
    exact ⟨⟨name.stop, tree.stop⟩, rfl, hstart, Nat.le_refl _⟩
  · rw [List.mem_singleton.mp hpart]
    exact isMade_classTail hroot htree hkind hname

lemma isMade_nodeOf : IsMade source root (nodeOf source (tree, convert source tree)) := by
  cases hnode : (convert source tree).node with
  | none =>
    rw [nodeOf, hnode]
    exact isMade_iff source root htree (.text hnode) ⟨tree.span, rfl, List.forall_mem_nil _⟩ (List.forall_mem_nil _)
  | some node =>
    rw [nodeOf, hnode]
    exact ((madeConversion hroot tree htree).node node hnode).1

lemma isMade_otherStatement : IsMade source root (otherStatement source tree) := by
  refine isMade_iff source root htree (.other rfl trivial) ⟨tree.span, rfl, fun part hpart => ?_⟩ fun part hpart => ?_
  · rw [List.mem_singleton.mp hpart]
    exact ⟨tree.span, span_nodeOf source tree, Within.refl _⟩
  · rw [List.mem_singleton.mp hpart]
    exact isMade_nodeOf hroot htree

lemma isMade_declaration : IsMade source root (declaration source tree) ∧ (declaration source tree).span = some tree.span := by
  rcases declaration_cases source tree with ⟨form, h⟩ | ⟨hkind, h⟩ | h | ⟨hkind, h⟩ | h
  · rw [h]
    exact ⟨isMade_other (htree.isNested hroot) htree rfl trivial (List.forall_mem_nil _), rfl⟩
  · exact isMade_functionDeclaration hroot htree (List.mem_append_right _ hkind) _ h
  · exact isMade_variableDeclaration hroot htree _ h
  · refine isMade_classDeclaration hroot htree ?_ _ h
    rw [hkind]
    exact List.mem_cons_self
  · rw [h]
    exact ⟨isMade_otherStatement hroot htree, rfl⟩

lemma isPart_defaultExport : ∀ node ∈ defaultExport source tree, IsPart source root tree node := by
  intro node hnode
  obtain ⟨target, htarget, hnode⟩ := Option.bind_eq_some_iff.mp hnode
  have hchild : target ∈ tree.children := by
    rcases Option.or_eq_some_iff.mp htarget with htarget | ⟨-, htarget⟩
    · exact List.mem_of_find?_eq_some htarget
    · exact List.mem_of_find?_eq_some htarget
  have htargeted := htree.child hchild
  split_ifs at hnode with hfunction hclass hdeclared
  · have hkind : target.kind ∈ functionKinds ++ declarationKinds := by
      rw [Bool.or_eq_true, decide_eq_true_eq, decide_eq_true_eq] at hfunction
      exact List.mem_append.mpr hfunction.symm
    obtain ⟨hmade, hspan⟩ := isMade_functionDeclaration hroot htargeted hkind node hnode
    exact ⟨hmade, target, hchild, hspan⟩
  · have hkind : target.kind ∈ classKinds := by
      rw [Bool.or_eq_true, decide_eq_true_eq, decide_eq_true_eq] at hclass
      rcases hclass with hclass | hclass <;> rw [hclass] <;> decide
    obtain ⟨hmade, hspan⟩ := isMade_classDeclaration hroot htargeted hkind node hnode
    exact ⟨hmade, target, hchild, hspan⟩
  · cases hnode
    exact ⟨isMade_nodeOf hroot htargeted, target, hchild, span_nodeOf source target⟩

lemma isMade_export {form : Form Node} (hform : exportForm source tree = some form) :
    IsMade source root (read source tree.span form) := by
  have hnested := htree.isNested hroot
  unfold exportForm at hform
  split at hform
  · obtain ⟨node, hnode, rfl⟩ := Option.map_eq_some_iff.mp hform
    refine isMade_other hnested htree rfl trivial fun part hpart => ?_
    rw [List.mem_singleton.mp hpart]
    exact isPart_defaultExport hroot htree node hnode
  · split at hform
    · next target htarget =>
      cases hform
      refine isMade_other hnested htree rfl trivial fun part hpart => ?_
      have hchild := List.mem_of_find?_eq_some htarget
      have hmade : IsMade source root (declaration source target) ∧
          (declaration source target).span = some target.span := isMade_declaration hroot (htree.child hchild)
      have hpart : part = declaration source target := List.mem_singleton.mp hpart
      rw [hpart]
      exact ⟨hmade.1, target, hchild, hmade.2⟩
    · obtain ⟨clause, hclause, rfl⟩ := Option.map_eq_some_iff.mp hform
      refine isMade_other hnested htree rfl trivial fun part hpart => ?_
      obtain ⟨_, -, hclause⟩ := Option.bind_eq_some_iff.mp hclause
      obtain ⟨_, -, hclause⟩ := Option.bind_eq_some_iff.mp hclause
      cases hclause
      cases hpart

lemma isMade_statement : IsMade source root (statement source tree) := by
  unfold statement
  split
  · cases hform : exportForm source tree with
    | none => exact isMade_otherStatement hroot htree
    | some form => exact isMade_export hroot htree hform
  · exact (isMade_declaration hroot htree).1

end Statements

/-- The statements of a parsed module have the forms of those that constructs of its source become. -/
lemma statements_of_parse {source path : String} {module : Module} (h : Module.parse source path = .ok module) :
    ∃ root, Grammar.parse (.ofPath path) source.toList = .ok root ∧
      ∀ node ∈ module.body, ∃ tree, HasConstruct root tree ∧ node.form = (statement source.toList tree).form := by
  unfold Module.parse at h
  cases hparse : Grammar.parse (.ofPath path) source.toList with
  | error offset =>
    rw [hparse] at h
    cases h
  | ok root =>
    rw [hparse] at h
    obtain rfl := Except.ok.inj h
    refine ⟨root, rfl, fun node hnode => ?_⟩
    obtain ⟨tree, htree, hform⟩ := form_of_mem_body hnode
    exact ⟨tree, HasConstruct.root.child (List.mem_of_mem_filter htree), hform⟩

/-- What stands in a statement of a parsed module was made of constructs of its source. -/
theorem isMade_of_parse {source path : String} {module : Module} (h : Module.parse source path = .ok module) :
    ∃ root, Grammar.parse (.ofPath path) source.toList = .ok root ∧
      ∀ statement ∈ module.body, ∀ part ∈ statement.children, IsMade source.toList root part := by
  obtain ⟨root, hroot, hstatements⟩ := statements_of_parse h
  refine ⟨root, hroot, fun node hnode part hpart => ?_⟩
  obtain ⟨tree, htree, hform⟩ := hstatements node hnode
  have hmade : IsMade source.toList root (statement source.toList tree) :=
    isMade_statement (grammarParse_eq_ok hroot).1 htree
  refine (throughout_iff.mp hmade).2 part ?_
  rwa [Node.children, ← hform]

end RouteMigration.Proofs
