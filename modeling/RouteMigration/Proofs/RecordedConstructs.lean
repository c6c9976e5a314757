import Mathlib.Data.List.Pairwise
import RouteMigration.Proofs.GrammarRules
import RouteMigration.Proofs.Roles
import RouteMigration.Proofs.SpelledTexts

/-!
# Constructs behind text

What a migration looks for in a tree is never only text of it: the names, calls, arrow functions and template strings
in a construct are nodes of what the construct becomes, or the name of a function there.
-/

namespace RouteMigration.Proofs
open Syntax Grammar OfTree

variable {source : List Char}

/-! ### Constructs of a construct -/

/-- A construct of a tree is the tree, or one of a child of it. -/
lemma HasConstruct.cases_child {tree inner : Tree} (h : HasConstruct tree inner) :
    inner = tree ∨ ∃ child ∈ tree.children, HasConstruct child inner := by
  induction h with
  | root => exact .inl rfl
  | @child middle inner _ hinner ih =>
    right
    rcases ih with rfl | ⟨child, hchild, hmiddle⟩
    · exact ⟨inner, hinner, .root⟩
    · exact ⟨child, hchild, hmiddle.child hinner⟩

lemma HasConstruct.within {tree inner : Tree} (h : HasConstruct tree inner) (hnested : tree.isNested = true) :
    Within inner.span tree.span := by
  induction h with
  | root => exact Within.refl _
  | child hmiddle hinner ih => exact (within_child (hmiddle.isNested hnested) hinner).trans ih

/-- There are no constructs in tokens, names and comments. -/
lemma HasConstruct.eq_of_bare {tree inner : Tree} (h : HasConstruct tree inner) (hbare : tree.children = []) :
    inner = tree := by
  rcases h.cases_child with rfl | ⟨child, hchild, -⟩
  · rfl
  · rw [hbare] at hchild
    cases hchild

lemma sizeOf_child_lt_tree {tree child : Tree} (h : child ∈ tree.children) : sizeOf child < sizeOf tree := by
  obtain ⟨kind, named, field, span, children⟩ := tree
  have hlt := List.sizeOf_lt_of_mem (show child ∈ children from h)
  simp only [Tree.mk.sizeOf_spec]
  omega

/-! ### Constructs that are told apart -/

/-- A construct that becomes a node of its own: a name, a call with an argument list that takes place in any case, an
arrow function, or a template string. -/
inductive IsTold (tree : Tree) : Prop where
  | name : tree.kind ∈ identifierKinds → IsTold tree
  | call {list : Tree} : tree.kind = "call_expression" → tree.hasToken "?." = false → list ∈ tree.children →
      list.field = some "arguments" → list.kind = "arguments" → IsTold tree
  | arrow : tree.kind = "arrow_function" → IsTold tree
  | template : tree.kind = "template_string" → IsTold tree

def toldKinds : List String :=
  identifierKinds ++ ["call_expression", "arrow_function", "template_string"]

lemma IsTold.mem_kinds {tree : Tree} (h : IsTold tree) : tree.kind ∈ toldKinds := by
  cases h with
  | name hkind => exact List.mem_append_left _ hkind
  | call hkind _ _ _ _ | arrow hkind | template hkind =>
    rw [hkind]
    decide

lemma IsTold.kind_not_mem {tree : Tree} (h : IsTold tree) {kinds : List String} (hkinds : ∀ kind ∈ toldKinds, kind ∉ kinds) :
    tree.kind ∉ kinds :=
  hkinds _ h.mem_kinds

lemma lt_of_token {tree : Tree} (hbuilt : Built source tree) (hnamed : tree.isNamed = false) (hkind : tree.kind ≠ "") :
    tree.start < tree.stop := by
  have htext := hbuilt.shape.token hnamed
  by_contra hempty
  have hlength : tree.stop - tree.start = 0 := by omega
  rw [textOf, slice, hlength, List.take_zero] at htext
  exact hkind htext.symm

lemma lt_of_child {tree child : Tree} (hnested : tree.isNested = true) (hchild : child ∈ tree.children)
    (h : child.start < child.stop) : tree.start < tree.stop := by
  have hwithin := within_child hnested hchild
  exact hwithin.start.trans_lt (h.trans_le hwithin.stop)

/-- A construct that opens with a token is not empty. -/
lemma OpensWith.lt {tree : Tree} {text : String} (h : OpensWith text tree) (hbuilt : Built source tree)
    (hnested : tree.isNested = true) (hne : text ≠ "") : tree.start < tree.stop := by
  obtain ⟨opening, rest, hchildren, hkind, hnamed, -⟩ := h
  have hopening : opening ∈ tree.children := hchildren ▸ List.mem_cons_self
  exact lt_of_child hnested hopening (lt_of_token (hbuilt.child hopening) hnamed (hkind ▸ hne))

/-- Lists in parentheses are not empty. -/
lemma lt_of_list {tree : Tree} (hbuilt : Built source tree) (hnested : tree.isNested = true)
    (hkind : tree.kind ∈ ["arguments", "formal_parameters"]) : tree.start < tree.stop := by
  cases hnamed : tree.isNamed with
  | false =>
    refine lt_of_token hbuilt hnamed ?_
    intro hempty
    rw [hempty] at hkind
    exact absurd hkind (by decide)
  | true =>
    simp only [List.mem_cons, List.not_mem_nil, or_false] at hkind
    rcases hkind with hkind | hkind
    · have hopens : OpensWith "(" tree := hbuilt.shape.shaped_of_kind hnamed hkind
      exact hopens.lt hbuilt hnested (by decide)
    · have hshape : OpensWith "(" tree ∧ ∀ child ∈ tree.children, child.isNamed = true → IsParameter child :=
        hbuilt.shape.shaped_of_kind hnamed hkind
      exact hshape.1.lt hbuilt hnested (by decide)

/-- A construct that is told apart is not empty. -/
lemma IsTold.lt {tree : Tree} (h : IsTold tree) (hnamed : tree.isNamed = true) (hbuilt : Built source tree)
    (hnested : tree.isNested = true) : tree.start < tree.stop := by
  cases h with
  | name hkind => exact (hbuilt.shape.name hkind).1
  | @call list _ _ hlist _ hkind =>
    refine lt_of_child hnested hlist (lt_of_list (hbuilt.child hlist) (isNested_child hnested hlist) ?_)
    rw [hkind]
    exact List.mem_cons_self
  | arrow hkind =>
    obtain ⟨hplays, hparts⟩ := hbuilt.shape.arrowShape hnamed hkind
    have hroles : "parameter" ∈ rolesOf tree.children ∨ "parameters" ∈ rolesOf tree.children :=
      (by decide : ∀ list ∈ arrowRoles, "parameter" ∈ list ∨ "parameters" ∈ list) _ hplays.mem
    rcases hroles with hmem | hmem
    · obtain ⟨part, hpart, hrole⟩ := List.mem_filterMap.mp hmem
      refine lt_of_child hnested hpart ((hbuilt.child hpart).shape.name ?_).1
      rw [(hparts part hpart).parameter hrole]
      decide
    · obtain ⟨part, hpart, hrole⟩ := List.mem_filterMap.mp hmem
      refine lt_of_child hnested hpart (lt_of_list (hbuilt.child hpart) (isNested_child hnested hpart) ?_)
      rw [(hparts part hpart).parameters hrole]
      decide
  | template hkind =>
    have hopens : OpensWith "\x60" tree := hbuilt.shape.shaped_of_kind hnamed hkind
    exact hopens.lt hbuilt hnested (by decide)

/-! ### Records -/

variable (source) in
/-- The form of a node for the construct. -/
def IsFormOf (tree : Tree) : Form Node → Prop
  | .identifier name isType =>
    tree.kind ∈ identifierKinds ∧ name = textOf source tree ∧ isType = decide (tree.kind = "type_identifier")
  | .call _ _ _ => tree.kind = "call_expression"
  | .arrowFunction _ => tree.kind = "arrow_function"
  | .verbatim kind _ literal => tree.kind = "template_string" ∧ kind = "template_string" ∧ literal = true
  | _ => False

variable (source) in
/-- The construct is told apart in the tree of the node: it is a node of its own, or the name of a function. -/
inductive Records (inner : Tree) (node : Node) : Prop where
  | node {form : Form Node} : read source inner.span form ∈ node.descendants → IsFormOf source inner form → Records inner node
  | name {function : Tree} {form : FunctionForm Node} : inner ∈ function.children → inner.field = some "name" →
      read source function.span (.functionExpression form) ∈ node.descendants →
      form.name = some (textOf source inner) → Records inner node

lemma Records.of_child {inner : Tree} {node child : Node} (h : Records source inner child) (hchild : child ∈ node.children) :
    Records source inner node := by
  cases h with
  | node hmem hform => exact .node (mem_descendants_of_child hchild hmem) hform
  | name hinner hrole hmem hname => exact .name hinner hrole (mem_descendants_of_child hchild hmem) hname

lemma Records.of_part {inner : Tree} {span : Span} {form : Form Node} {part : Node} (h : Records source inner part)
    (hpart : part ∈ form.children) : Records source inner (read source span form) :=
  h.of_child hpart

variable (source) in
/-- What a construct becomes tells the inner one apart. -/
structure RecordsIn (inner tree : Tree) : Prop where
  node : ∃ node, (convert source tree).node = some node ∧ Records source inner node
  list : tree.kind ∈ ["arguments", "formal_parameters"] → ∃ list, (convert source tree).list = some list ∧ Records source inner list

lemma RecordsIn.nodeOf {inner tree : Tree} (h : RecordsIn source inner tree) :
    Records source inner (nodeOf source (tree, convert source tree)) := by
  obtain ⟨node, hnode, hrecords⟩ := h.node
  rw [OfTree.nodeOf, hnode]
  exact hrecords

/-! ### The construct itself -/

/-- A construct that is told apart becomes a node of its own. -/
lemma IsTold.recordsIn {tree : Tree} (h : HasShape source tree) (hnamed : tree.isNamed = true) (htold : IsTold tree) :
    RecordsIn source tree tree := by
  have hnode : ∃ form, (convert source tree).node = some (read source tree.span form) ∧ IsFormOf source tree form := by
    cases htold with
    | name hkind => exact ⟨_, node_of_identifier hkind, hkind, rfl, rfl⟩
    | call hkind hoptional hlist hrole harguments =>
      obtain ⟨node, hnode⟩ := Option.isSome_iff_exists.mp
        (call?_isSome h hnamed hkind hoptional hlist hrole harguments)
      obtain ⟨_, _, _, -, -, -, -, rfl⟩ := call?_eq_some hnode
      exact ⟨.call _ _ _, by rw [node_of_call hkind, hnode, Option.some_or], hkind⟩
    | arrow hkind =>
      obtain ⟨node, hnode⟩ := Option.isSome_iff_exists.mp (arrow?_isSome h hnamed hkind)
      obtain ⟨_, _, -, -, rfl⟩ := arrow?_eq_some hnode
      exact ⟨.arrowFunction _, by rw [node_of_arrow hkind, hnode, Option.some_or], hkind⟩
    | template hkind => exact ⟨_, node_of_template hkind, hkind, hkind, rfl⟩
  obtain ⟨form, hconvert, hform⟩ := hnode
  refine ⟨⟨_, hconvert, .node (mem_descendants_self _) hform⟩, fun hlist => ?_⟩
  exact absurd hlist (htold.kind_not_mem (by decide))

/-! ### Constructs in others -/

section Children

variable {tree child inner : Tree} (hchild : child ∈ tree.children) (hnamed : child.isNamed = true)
  (h : RecordsIn source inner child)
include hchild hnamed h

omit hchild in
/-- A verbatim around children tells apart what they do. -/
lemma records_verbatim {trees : List Tree} (hmem : child ∈ trees) {kind : String} {span : Span} {literal : Bool} :
    converted (convertAll source trees) ≠ [] ∧
      Records source inner (verbatim source kind span (convertAll source trees) literal) := by
  obtain ⟨node, hnode, hrecords⟩ := h.node
  have hentry : (child.span, node) ∈ converted (convertAll source trees) := by
    rw [convertAll_eq_map]
    refine List.mem_filterMap.mpr ⟨(child, convert source child), List.mem_map.mpr ⟨child, hmem, rfl⟩, ?_⟩
    dsimp only
    rw [if_pos hnamed, hnode]
    rfl
  refine ⟨List.ne_nil_of_mem hentry, hrecords.of_child ?_⟩
  change node ∈ nodesOf (partsFrom ..)
  rw [nodesOf_partsFrom]
  exact List.mem_map.mpr ⟨_, hentry, rfl⟩

lemma records_verbatim? {kind : String} {span : Span} :
    ∃ node, verbatim? source kind span (convertAll source tree.children) = some node ∧ Records source inner node := by
  obtain ⟨hne, hrecords⟩ := @records_verbatim _ _ _ hnamed h _ hchild kind span false
  refine ⟨_, ?_, hrecords⟩
  rw [verbatim?, if_neg (by rw [List.isEmpty_iff]; exact hne)]

lemma records_enclosing (hkind : child.kind ≠ "comment") {kind : String} {span : Span} :
    Records source inner (enclosing source kind span (convertAll source tree.children)) := by
  refine h.nodeOf.of_child ?_
  change _ ∈ nodesOf (partsFrom ..)
  rw [nodesOf_partsFrom, convertAll_eq_map]
  refine List.mem_map.mpr ⟨(child.span, _), List.mem_map.mpr ⟨(child, convert source child), ?_, rfl⟩, rfl⟩
  refine List.mem_filter.mpr ⟨List.mem_map.mpr ⟨child, hchild, rfl⟩, ?_⟩
  rw [isEntry, hnamed, Bool.true_and, decide_eq_true_eq]
  exact hkind

lemma records_parameters (hkind : child.kind ≠ "comment") {span : Span} :
    Records source inner (parameters source span (convertAll source tree.children)) := by
  obtain ⟨node, hnode, hrecords⟩ := h.node
  refine hrecords.of_child ?_
  refine List.mem_filterMap.mpr ⟨.node node, List.mem_map.mpr ⟨(child, convert source child), ?_, ?_⟩, rfl⟩
  · rw [convertAll_eq_map]
    refine List.mem_filter.mpr ⟨List.mem_map.mpr ⟨child, hchild, rfl⟩, ?_⟩
    rw [isEntry, hnamed, Bool.true_and, decide_eq_true_eq]
    exact hkind
  · dsimp only
    rw [hnode]
    rfl

/-- An arrow function tells apart what its parts do. -/
lemma records_arrow {node : Node} (hplays : PlaysRoles arrowRoles tree.children)
    (hparts : ∀ part ∈ tree.children, IsArrowPart source part)
    (hnode : arrow? source tree.span (convertAll source tree.children) = some node) : Records source inner node := by
  obtain ⟨params, body, hparams, hbody, rfl⟩ := arrow?_eq_some hnode
  obtain ⟨role, hmem, hrole⟩ := hplays.role_mem hchild hnamed
  have hnodeAt := hplays.nodeAt source (by decide) hchild hrole
  have hlistAt := hplays.listAt source (by decide) hchild hrole
  have hroles : role ∈ ["type_parameters", "parameters", "return_type", "body", "parameter"] :=
    (by decide : arrowRoles.flatten ⊆ ["type_parameters", "parameters", "return_type", "body", "parameter"]) hmem
  simp only [List.mem_cons, List.not_mem_nil, or_false] at hroles
  rcases hroles with rfl | rfl | rfl | rfl | rfl
  · refine h.nodeOf.of_part ?_
    simp [Form.children, ArrowForm.children, hnodeAt]
  · have hkind := (hparts child hchild).parameters hrole
    obtain ⟨list, hlist, hrecords⟩ := h.list (by rw [hkind]; decide)
    have hsingle := hplays.childAt_eq_none source "parameter" (by decide) hchild hrole
    rw [hsingle, hlistAt, hlist] at hparams
    obtain rfl := Option.some.inj hparams
    refine hrecords.of_child ?_
    exact List.mem_cons_self
  · refine h.nodeOf.of_part ?_
    simp [Form.children, ArrowForm.children, hnodeAt]
  · obtain rfl := Option.some.inj (hnodeAt.symm.trans hbody)
    refine h.nodeOf.of_part ?_
    simp [Form.children, ArrowForm.children]
  · rw [hplays.childAt source (by decide) hchild hrole] at hparams
    obtain rfl := Option.some.inj hparams
    have hsingle : Records source inner
        (read source child.span (.parameters [.node (nodeOf source (child, convert source child))] none)) :=
      h.nodeOf.of_child (List.mem_singleton_self _)
    refine hsingle.of_child ?_
    exact List.mem_cons_self

/-- A call tells apart what its parts do. -/
lemma records_call {node : Node} (hplays : PlaysRoles callRoles tree.children)
    (hnode : call? source tree.span (convertAll source tree.children) = some node) : Records source inner node := by
  obtain ⟨callee, arguments, list, hcallee, harguments, hkind, hlist, rfl⟩ := call?_eq_some hnode
  obtain ⟨role, hmem, hrole⟩ := hplays.role_mem hchild hnamed
  have hchildAt := hplays.childAt source (by decide) hchild hrole
  have hroles : role ∈ ["function", "type_arguments", "arguments"] :=
    (by decide : callRoles.flatten ⊆ ["function", "type_arguments", "arguments"]) hmem
  simp only [List.mem_cons, List.not_mem_nil, or_false] at hroles
  rcases hroles with rfl | rfl | rfl
  · obtain rfl := Option.some.inj (hchildAt.symm.trans hcallee)
    exact h.nodeOf.of_child List.mem_cons_self
  · refine h.nodeOf.of_part ?_
    simp [Form.children, nodeAt, hchildAt]
  · obtain rfl := Option.some.inj (hchildAt.symm.trans harguments)
    have hkind : child.kind = "arguments" := hkind
    obtain ⟨other, hother, hrecords⟩ := h.list (by rw [hkind]; decide)
    obtain rfl := Option.some.inj (hother.symm.trans hlist)
    refine hrecords.of_child ?_
    exact List.mem_cons_of_mem _ List.mem_cons_self

/-- A function with a keyword tells apart what its parts do, and its name. -/
lemma records_function {form : FunctionForm Node} (hinner : HasConstruct child inner) (hbuilt : Built source child)
    (hplays : PlaysRoles functionRoles tree.children) (hparts : ∀ part ∈ tree.children, IsFunctionPart part)
    (hform : function? source (convertAll source tree.children) = some form) :
    Records source inner (read source tree.span (.functionExpression form)) := by
  obtain ⟨params, hparams, rfl⟩ := Option.map_eq_some_iff.mp hform
  obtain ⟨role, hmem, hrole⟩ := hplays.role_mem hchild hnamed
  have hchildAt := hplays.childAt source (by decide) hchild hrole
  have hnodeAt := hplays.nodeAt source (by decide) hchild hrole
  have hlistAt := hplays.listAt source (by decide) hchild hrole
  have hroles : role ∈ ["name", "type_parameters", "parameters", "return_type", "body"] :=
    (by decide : functionRoles.flatten ⊆ ["name", "type_parameters", "parameters", "return_type", "body"]) hmem
  simp only [List.mem_cons, List.not_mem_nil, or_false] at hroles
  rcases hroles with rfl | rfl | rfl | rfl | rfl
  · have hbare : child.children = [] := by
      refine hbuilt.shape.bare (.inr ?_)
      rw [(hparts child hchild).name hrole]
      decide
    obtain rfl := hinner.eq_of_bare hbare
    refine .name hchild hrole (mem_descendants_self _) ?_
    rw [functionForm, textAt, hchildAt]
    rfl
  · refine h.nodeOf.of_part ?_
    simp [Form.children, FunctionForm.children, functionForm, hnodeAt]
  · have hkind := (hparts child hchild).parameters hrole
    obtain ⟨list, hlist, hrecords⟩ := h.list (by rw [hkind]; decide)
    obtain rfl := Option.some.inj (hlist.symm.trans (hlistAt.symm.trans hparams))
    refine hrecords.of_child ?_
    exact List.mem_cons_self
  · refine h.nodeOf.of_part ?_
    simp [Form.children, FunctionForm.children, functionForm, hnodeAt]
  · refine h.nodeOf.of_part ?_
    simp [Form.children, FunctionForm.children, functionForm, hnodeAt]

end Children

lemma isNamed_of_hasConstruct {tree inner : Tree} (hshape : HasShape source tree) (hinner : HasConstruct tree inner)
    (hnamed : inner.isNamed = true) : tree.isNamed = true := by
  by_contra hunnamed
  rw [hinner.eq_of_bare (hshape.bare (.inl (eq_false_of_ne_true hunnamed)))] at hnamed
  exact hunnamed hnamed

/-- A child with a construct in it that is told apart is no token and no comment. -/
lemma isEntry_of_told {child inner : Tree} (hbuilt : Built source child) (hinner : HasConstruct child inner)
    (hnamed : inner.isNamed = true) (htold : IsTold inner) : child.isNamed = true ∧ child.kind ≠ "comment" := by
  refine ⟨isNamed_of_hasConstruct hbuilt.shape hinner hnamed, fun hkind => ?_⟩
  rw [← hinner.eq_of_bare (hbuilt.shape.bare (.inr (by rw [hkind]; decide)))] at hkind
  have hkinds : inner.kind ∉ ["comment"] := htold.kind_not_mem (by decide)
  exact hkinds (hkind ▸ List.mem_cons_self)

/-- What a construct becomes tells apart what its children do. -/
lemma recordsIn_of_child {tree child inner : Tree} (hbuilt : Built source tree) (hchild : child ∈ tree.children)
    (hinner : HasConstruct child inner) (hnamed : inner.isNamed = true) (htold : IsTold inner)
    (h : RecordsIn source inner child) : RecordsIn source inner tree := by
  obtain ⟨hchildNamed, hcomment⟩ := isEntry_of_told (hbuilt.child hchild) hinner hnamed htold
  have hwhole : tree.isNamed = true ∧ tree.kind ∉ bareKinds := by
    refine ⟨isNamed_of_hasConstruct hbuilt.shape (HasConstruct.root.child hchild) hchildNamed, fun hkind => ?_⟩
    rw [hbuilt.shape.bare (.inr hkind)] at hchild
    cases hchild
  obtain ⟨htree, hkinds⟩ := hwhole
  refine ⟨?_, fun hlist => ?_⟩
  · obtain ⟨other, hverbatim, hother⟩ := @records_verbatim? _ _ _ _ hchild hchildNamed h tree.kind tree.span
    rw [node_convert]
    unfold build
    split_ifs with hidentifier harrow hfunction hcall hnone hparenthesized htemplate
    · exact absurd (List.mem_cons_of_mem _ hidentifier) hkinds
    · obtain ⟨hplays, hparts⟩ := hbuilt.shape.arrowShape htree harrow
      obtain ⟨node, hnode⟩ := Option.isSome_iff_exists.mp (arrow?_isSome hbuilt.shape htree harrow)
      exact ⟨node, by rw [hnode, Option.some_or], records_arrow hchild hchildNamed h hplays hparts hnode⟩
    · have hkeyword := List.mem_append_left declarationKinds hfunction
      obtain ⟨hplays, hparts⟩ := hbuilt.shape.functionShape htree hkeyword
      obtain ⟨form, hform⟩ := Option.isSome_iff_exists.mp (function?_isSome hbuilt.shape htree hkeyword)
      refine ⟨_, by rw [hform, Option.map_some, Option.some_or], ?_⟩
      exact records_function hchild hchildNamed h hinner (hbuilt.child hchild) hplays hparts hform
    · cases hnode : call? source tree.span (convertAll source tree.children) with
      | none => exact ⟨other, hverbatim, hother⟩
      | some node => exact ⟨node, rfl, records_call hchild hchildNamed h (hbuilt.shape.callShape htree hcall) hnode⟩
    · exact absurd (hnone ▸ List.mem_cons_self) hkinds
    · exact ⟨_, rfl, records_enclosing hchild hchildNamed h hcomment⟩
    · exact ⟨_, rfl, (records_verbatim hchildNamed h hchild).2⟩
    · exact ⟨other, hverbatim, hother⟩
  · simp only [List.mem_cons, List.not_mem_nil, or_false] at hlist
    rcases hlist with hkind | hkind
    · exact ⟨_, list_of_arguments hkind, records_enclosing hchild hchildNamed h hcomment⟩
    · exact ⟨_, list_of_parameters hkind, records_parameters hchild hchildNamed h hcomment⟩

/-- What a construct becomes tells apart every construct in it that has to be. -/
theorem recordsIn {inner : Tree} (hnamed : inner.isNamed = true) (htold : IsTold inner) :
    ∀ tree, Built source tree → HasConstruct tree inner → RecordsIn source inner tree
  | tree, hbuilt, hinner => by
    rcases hinner.cases_child with rfl | ⟨child, hchild, hinner⟩
    · exact htold.recordsIn hbuilt.shape hnamed
    · have hlt := sizeOf_child_lt_tree hchild
      exact recordsIn_of_child hbuilt hchild hinner hnamed htold
        (recordsIn hnamed htold child (hbuilt.child hchild) hinner)
  termination_by tree => sizeOf tree

/-! ### Constructs in a verbatim -/

/-- Of two children of a construct, one ends before the other starts, if they are not the same. -/
lemma apart_children {tree child other : Tree} (hnested : tree.isNested = true) (hchild : child ∈ tree.children)
    (hother : other ∈ tree.children) : child = other ∨ child.stop ≤ other.start ∨ other.stop ≤ child.start := by
  have hspans : ∀ part ∈ tree.children, part.start ≤ part.stop := fun part hpart =>
    (isNested_children (isNested_child hnested hpart)).1
  have hapart := List.pairwise_map.mp ((inOrder_of_areNested (isNested_children hnested).2).pairwise hspans)
  have hsides : tree.children.Pairwise fun part next : Tree => part.stop ≤ next.start ∨ next.stop ≤ part.start :=
    hapart.imp fun h => .inl h
  have : Std.Symm fun part next : Tree => part.stop ≤ next.start ∨ next.stop ≤ part.start := ⟨fun _ _ h => h.symm⟩
  by_cases heq : child = other
  · exact .inl heq
  · exact .inr (hsides.forall hchild hother heq)

/-- A node with all of its source text around its parts: a verbatim, or a list of parameters in parentheses. -/
def isLaidOut (node : Node) : Bool :=
  match node.form with
  | .verbatim _ _ _ => true
  | .parameters _ layout => layout.isSome
  | _ => false

lemma isLaidOut_of_kind {node : Node} (h : node.kind?.isSome = true) : isLaidOut node = true := by
  obtain ⟨info, form⟩ := node
  cases form with
  | verbatim kind parts literal => rfl
  | _ => cases h

lemma hasText_of_isLaidOut {node : Node} (h : isLaidOut node = true) : hasText node.form = true := by
  obtain ⟨info, form⟩ := node
  cases form with
  | verbatim | parameters => rfl
  | _ => cases h

/-- A node that was made of a construct with all of its text tells apart what lies in its stretch of the source. -/
theorem records_made {tree inner : Tree} {node : Node} {whole : Span} (hbuilt : Built source tree)
    (hnested : tree.isNested = true) (hmade : MadeOf source tree node) (hlaidOut : isLaidOut node = true)
    (hplace : node.span = some whole) (hinner : HasConstruct tree inner) (hwithin : Within inner.span whole)
    (hnamed : inner.isNamed = true) (htold : IsTold inner) : Records source inner node := by
  have hrecords := recordsIn hnamed htold tree hbuilt hinner
  cases hmade with
  | text hnone =>
    obtain ⟨other, hother, -⟩ := hrecords.node
    rw [hnone] at hother
    cases hother
  | verbatim _ hconvert =>
    obtain ⟨other, hother, hfound⟩ := hrecords.node
    obtain rfl := Option.some.inj (hother.symm.trans hconvert)
    exact hfound
  | enclosing henclosing =>
    rcases hinner.cases_child with rfl | ⟨child, hchild, hinner⟩
    · exact absurd henclosing (htold.kind_not_mem (by decide))
    · obtain ⟨hchildNamed, hcomment⟩ := isEntry_of_told (hbuilt.child hchild) hinner hnamed htold
      exact records_enclosing hchild hchildNamed (recordsIn hnamed htold child (hbuilt.child hchild) hinner) hcomment
  | parameters hkind =>
    rcases hinner.cases_child with rfl | ⟨child, hchild, hinner⟩
    · have hkinds : inner.kind ∉ ["formal_parameters"] := htold.kind_not_mem (by decide)
      exact absurd (hkind ▸ List.mem_cons_self) hkinds
    · obtain ⟨hchildNamed, hcomment⟩ := isEntry_of_told (hbuilt.child hchild) hinner hnamed htold
      exact records_parameters hchild hchildNamed (recordsIn hnamed htold child (hbuilt.child hchild) hinner) hcomment
  | parameter _ _ _ => cases hlaidOut
  | @tail name hclass hname =>
    rcases hinner.cases_child with rfl | ⟨child, hchild, hinner⟩
    · exact absurd hclass (htold.kind_not_mem (by decide))
    · obtain ⟨hchildNamed, -⟩ := isEntry_of_told (hbuilt.child hchild) hinner hnamed htold
      have hafter : name.stop ≤ child.start := by
        cases hplace
        have hstart : name.stop ≤ inner.start := hwithin.start
        have hlt := htold.lt hnamed (hinner.built (hbuilt.child hchild)) (hinner.isNested (isNested_child hnested hchild))
        have hstop : inner.stop ≤ child.stop := (hinner.within (isNested_child hnested hchild)).stop
        have hspan : name.start ≤ name.stop := (isNested_children (isNested_child hnested hname)).1
        rcases apart_children hnested hchild hname with rfl | hbefore | hafter
        · omega
        · omega
        · exact hafter
      rw [filter_convertAll source tree.children fun child => decide (name.stop ≤ child.start)]
      refine (records_verbatim hchildNamed (recordsIn hnamed htold child (hbuilt.child hchild) hinner) ?_).2
      exact List.mem_filter.mpr ⟨hchild, decide_eq_true hafter⟩
  | @other form hform _ =>
    cases form with
    | verbatim | parameters => cases hform
    | _ => cases hlaidOut

/-! ### Parsed modules -/

variable (source) in
/-- The node is the text of a stretch of the construct that it was made of, and it tells apart every construct in the
stretch that has to be. -/
structure TellsApart (root tree : Tree) (whole : Span) (node : Node) : Prop where
  construct : HasConstruct root tree
  made : MadeOf source tree node
  place : node.span = some whole
  within : Within whole tree.span
  raw : node.info.raw = some (sliceOf source whole)
  records : ∀ inner, HasConstruct tree inner → Within inner.span whole → inner.isNamed = true → IsTold inner →
    Records source inner node

lemma tellsApart_made {root tree : Tree} {node : Node} (hbuilt : Built source tree) (hnested : tree.isNested = true)
    (htree : HasConstruct root tree) (hmade : MadeOf source tree node) (hlaidOut : isLaidOut node = true) :
    ∃ whole, TellsApart source root tree whole node := by
  have hplace : ∃ whole, node.span = some whole ∧ Within whole tree.span ∧ node.info.raw = some (sliceOf source whole) := by
    cases hmade with
    | text _ | verbatim _ _ | enclosing _ | parameters _ | other _ _ => exact ⟨tree.span, rfl, Within.refl _, rfl⟩
    | parameter _ _ _ => cases hlaidOut
    | @tail name _ hname =>
      have hspan : name.start ≤ name.stop := (isNested_children (isNested_child hnested hname)).1
      exact ⟨⟨name.stop, tree.stop⟩, rfl, ⟨(within_child hnested hname).start.trans hspan, Nat.le_refl _⟩, rfl⟩
  obtain ⟨whole, hplace, hwithin, hraw⟩ := hplace
  exact ⟨whole, htree, hmade, hplace, hwithin, hraw, fun inner hinner hinside hnamed htold =>
    records_made hbuilt hnested hmade hlaidOut hplace hinner hinside hnamed htold⟩

lemma hasText_of_isStatement {α : Type} {form : Form α} (h : form.isStatement = true) : hasText form = false := by
  cases form with
  | verbatim | parameters => cases h
  | _ => rfl

/-- Every node below the statements of a parsed module was made of a construct of its source; the statements have no text of
their own. -/
lemma madeOf_of_parse {source path : String} {module : Module} (h : Module.parse source path = .ok module) :
    ∃ root, Grammar.parse (.ofPath path) source.toList = .ok root ∧
      ∀ statement ∈ module.body, ∀ node ∈ statement.descendants, hasText node.form = false ∨
        ∃ tree, HasConstruct root tree ∧ MadeOf source.toList tree node := by
  obtain ⟨root, hroot, hmade⟩ := isMade_of_parse h
  refine ⟨root, hroot, fun statement hstatement node hnode => ?_⟩
  rcases mem_descendants.mp hnode with rfl | ⟨part, hpart, hnode⟩
  · obtain ⟨spans, hread, -⟩ := parse_eq_ok h
    obtain ⟨span, hstatement⟩ := hread.of_mem hstatement
    exact .inl (hasText_of_isStatement hstatement.isStatement)
  · obtain ⟨htree, -⟩ := hmade statement hstatement part hpart node hnode
    exact .inr htree

/-- In a parsed module, a node with all of its source text tells apart what has to be. -/
lemma tellsApart_of_parse {source path : String} {module : Module} (h : Module.parse source path = .ok module) :
    ∃ root, Grammar.parse (.ofPath path) source.toList = .ok root ∧
      ∀ statement ∈ module.body, ∀ node ∈ statement.descendants, isLaidOut node = true →
        ∃ tree whole, TellsApart source.toList root tree whole node := by
  obtain ⟨root, hroot, hmade⟩ := madeOf_of_parse h
  refine ⟨root, hroot, fun statement hstatement node hnode hlaidOut => ?_⟩
  rcases hmade statement hstatement node hnode with hplain | ⟨tree, htree, hmadeOf⟩
  · rw [hasText_of_isLaidOut hlaidOut] at hplain
    cases hplain
  · have hnested := htree.isNested (grammarParse_eq_ok hroot).1
    have hbuilt := htree.built (built_of_parse hroot)
    exact ⟨tree, tellsApart_made hbuilt hnested htree hmadeOf hlaidOut⟩

/-- Throughout a parsed module, the parts of a verbatim spell its source text, and so do the texts around the items of a
list of parameters in parentheses with the items; a single parameter without parentheses is the one item of its list. No
name, call, arrow function or template string of the grammar is only text of a verbatim. -/
theorem parse_lossless {source path : String} {module : Module} (h : Module.parse source path = .ok module) :
    ∃ root, Grammar.parse (.ofPath path) source.toList = .ok root ∧
      ∀ statement ∈ module.body, ∀ node ∈ statement.descendants, IsSpelled node ∧
        (node.kind?.isSome = true → ∃ tree whole, TellsApart source.toList root tree whole node) := by
  obtain ⟨root, hroot, hmade⟩ := madeOf_of_parse h
  obtain ⟨root', hroot', htells⟩ := tellsApart_of_parse h
  obtain rfl := Except.ok.inj (hroot.symm.trans hroot')
  refine ⟨root, hroot, fun statement hstatement node hnode => ⟨?_, fun hkind =>
    htells statement hstatement node hnode (isLaidOut_of_kind hkind)⟩⟩
  rcases hmade statement hstatement node hnode with hplain | ⟨tree, htree, hmadeOf⟩
  · exact isSpelled_of_hasText hplain
  · exact isSpelled_made (htree.isNested (grammarParse_eq_ok hroot).1) (htree.built (built_of_parse hroot)) hmadeOf

def loadedList : String :=
  "export const loader = async (\x7b params \x7d, x /* last */) => [load(params.id), \x60a\x60, function f() \x7b\x7d];\n"

theorem loadedList_lossless : ∃ module root statement node,
    Module.parse loadedList "routes/a.ts" = .ok module ∧
    Grammar.parse (.ofPath "routes/a.ts") loadedList.toList = .ok root ∧ statement ∈ module.body ∧
    node ∈ statement.descendants ∧ node.kind? = some "array" ∧ IsSpelled node ∧
    ∃ tree whole, TellsApart loadedList.toList root tree whole node := by
  have hrun : ((Module.parse loadedList "routes/a.ts").toOption.any fun module =>
      module.body.any fun statement => statement.descendants.any fun node => node.kind? = some "array") = true := by
    decide +kernel
  obtain ⟨module, hparse, hrun⟩ := exists_of_any_toOption hrun
  obtain ⟨statement, hstatement, hrun⟩ := List.any_eq_true.mp hrun
  obtain ⟨node, hnode, hkind⟩ := List.any_eq_true.mp hrun
  have hkind : node.kind? = some "array" := of_decide_eq_true hkind
  obtain ⟨root, hroot, hnodes⟩ := parse_lossless hparse
  obtain ⟨hspelled, htells⟩ := hnodes statement hstatement node hnode
  exact ⟨module, root, statement, node, hparse, hroot, hstatement, hnode, hkind, hspelled,
    htells (Option.isSome_iff_exists.mpr ⟨_, hkind⟩)⟩

/-! ### A parameter without parentheses -/

def loneParameter : String :=
  "  export const loader = x => x;\n"

/-- There is no text around a parameter that stands without parentheses, so its list is not laid out by one text more than
it has items. -/
theorem loneParameter_bare : ¬ ∀ module, Module.parse loneParameter "routes/a.tsx" = .ok module →
    ∀ statement ∈ module.body, ∀ node ∈ statement.descendants, ∀ items layout, node.form = .parameters items layout →
      ∃ texts, layout = some texts ∧ texts.length = items.length + 1 ∧ spelled (interleaved texts items) = node.info.raw := by
  intro hall
  have hrun : ((Module.parse loneParameter "routes/a.tsx").toOption.any fun module =>
      module.body.any fun statement => statement.descendants.any fun node =>
        hasText node.form && !isLaidOut node) = true := by decide +kernel
  obtain ⟨module, hparse, hrun⟩ := exists_of_any_toOption hrun
  obtain ⟨statement, hstatement, hrun⟩ := List.any_eq_true.mp hrun
  obtain ⟨⟨info, form⟩, hnode, hrun⟩ := List.any_eq_true.mp hrun
  cases form with
  | parameters items layout =>
    cases layout with
    | some layout => cases hrun
    | none =>
      obtain ⟨texts, hlayout, -⟩ := hall module hparse statement hstatement _ hnode items none rfl
      cases hlayout
  | _ => cases hrun

end RouteMigration.Proofs
