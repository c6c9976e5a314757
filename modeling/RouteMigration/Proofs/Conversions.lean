import RouteMigration.Proofs.Printing
import RouteMigration.Syntax.OfTree

/-!
# Nodes of grammar trees

Every node of a tree that is made of a grammar tree was read from the source text, its parts in their
places. Such a tree can be printed, by its form or from the text, whatever tree the grammar gave the source,
and its calls have lists of arguments.
-/

namespace RouteMigration.Proofs
open Syntax Grammar OfTree

variable (source : List Char)

/-! ### Nodes as they were read -/

theorem isPristine_eq (node : Node) : node.isPristine =
    (node.info.raw.isSome && node.info.origin = some node.shape && node.children.all Node.isPristine) := by
  obtain ⟨info, form⟩ := node
  have hshape : ((form.map fun n => (n, n.isPristine)).map fun p => p.1.span) = form.map Node.span :=
    form_map_map ..
  have hall : ((form.map fun n => (n, n.isPristine)).children.map Prod.snd).all id =
      form.children.all Node.isPristine := by
    rw [Form.children_map, map_snd_map_pair, List.all_map]
    rfl
  calc (⟨info, form⟩ : Node).isPristine
    _ = (info.raw.isSome && info.origin = some ((form.map fun n => (n, n.isPristine)).map fun p => p.1.span) &&
          ((form.map fun n => (n, n.isPristine)).children.map Prod.snd).all id) := Node.fold_mk ..
    _ = (info.raw.isSome && info.origin = some (form.map Node.span) && form.children.all Node.isPristine) := by
      rw [hshape, hall]

/-- A printable tree that is as it was read. -/
structure Faithful (node : Node) : Prop where
  printable : Printable node
  pristine : node.isPristine = true

/-- A call has a list for its arguments. -/
def TakesList (form : Form Node) : Prop :=
  ∀ callee list typeArguments, form = .call callee list typeArguments → list.isVerbatim "arguments" = true

/-- The form of a construct with its parts in their places. -/
structure Readable (form : Form Node) : Prop where
  construct : isConstruct form = true
  free : isProperty form = false
  statements : ∀ part ∈ statementParts form, part.form.isStatement = true
  list : TakesList form

/-- A tree of nodes that were read from the source. -/
inductive WasRead : Node → Prop where
  | read (span : Span) {form : Form Node} : Readable form → (∀ part ∈ form.children, WasRead part) →
      WasRead (read source span form)

variable {source}

lemma wasRead_ordinary (span : Span) {form : Form Node} (hordinary : isOrdinary form = true) (hlist : TakesList form)
    (hparts : ∀ part ∈ form.children, WasRead source part) : WasRead source (read source span form) := by
  obtain ⟨hconstruct, hproperty, hstatements⟩ := isOrdinary_eq_true hordinary
  refine .read span ⟨hconstruct, hproperty, ?_, hlist⟩ hparts
  rw [hstatements]
  exact List.forall_mem_nil _

lemma faithful_read (span : Span) {form : Form Node} (hform : Readable form)
    (hparts : ∀ part ∈ form.children, Faithful part) : Faithful (read source span form) where
  printable :=
    { free := hform.free
      fits := throughout_iff.mpr ⟨
        { construct := hform.construct
          statements := hform.statements
          free := fun part hpart => (hparts part (freeParts_subset hpart)).printable.free },
        fun part hpart => (hparts part hpart).printable.fits⟩ }
  pristine := by
    rw [isPristine_eq]
    simp only [Bool.and_eq_true, List.all_eq_true]
    exact ⟨⟨rfl, decide_eq_true rfl⟩, fun part hpart => (hparts part hpart).pristine⟩

theorem WasRead.faithful {node : Node} (h : WasRead source node) : Faithful node := by
  induction h with
  | read span hform _ ih => exact faithful_read span hform ih

theorem WasRead.takesLists {node : Node} (h : WasRead source node) : Throughout (fun n => TakesList n.form) node := by
  induction h with
  | read span hform _ ih => exact throughout_iff.mpr ⟨hform.list, ih⟩

/-- A form that a construct in a declaration is read in. -/
def isInner : Form Node → Bool
  | .verbatim .. | .identifier .. | .parameters .. | .arrowFunction _ | .functionExpression _ | .call .. => true
  | _ => false

variable (source) in
/-- A tree of nodes that a construct in a declaration was read as. -/
inductive InnerRead : Node → Prop where
  | read (span : Span) {form : Form Node} : isInner form = true → TakesList form →
      (∀ part ∈ form.children, InnerRead part) → InnerRead (read source span form)

lemma isOrdinary_of_isInner {form : Form Node} (h : isInner form = true) : isOrdinary form = true := by
  cases form <;> first | rfl | cases h

lemma InnerRead.wasRead {node : Node} (h : InnerRead source node) : WasRead source node := by
  induction h with
  | read span hinner hlist _ ih => exact wasRead_ordinary span (isOrdinary_of_isInner hinner) hlist ih

theorem InnerRead.inner {node : Node} (h : InnerRead source node) : Throughout (fun n => isInner n.form = true) node := by
  induction h with
  | read span hinner _ _ ih => exact throughout_iff.mpr ⟨hinner, ih⟩

/-! ### Conversions -/

variable (source) in
/-- What a construct of the kind became was read; what arguments became is the list of them. -/
structure ReadConversion (kind : String) (conversion : Conversion) : Prop where
  node : ∀ node ∈ conversion.node, InnerRead source node
  list : ∀ list ∈ conversion.list, InnerRead source list
  arguments : kind = "arguments" → ∀ list ∈ conversion.list, list.isVerbatim "arguments" = true

variable (source) in
/-- What each of the children became was read. -/
def ReadChildren (children : List Child) : Prop :=
  ∀ child ∈ children, ReadConversion source child.1.kind child.2

section Children

variable {children : List Child} (h : ReadChildren source children)
include h

lemma ReadChildren.filter (p : Child → Bool) : ReadChildren source (children.filter p) :=
  fun child hchild => h child (List.mem_of_mem_filter hchild)

lemma innerRead_nodeOf {child : Child} (hchild : child ∈ children) : InnerRead source (nodeOf source child) := by
  unfold nodeOf
  cases hnode : child.2.node with
  | none => exact InnerRead.read _ rfl nofun (List.forall_mem_nil _)
  | some node => exact (h child hchild).node node hnode

lemma innerRead_nodeAt {field : String} : ∀ node ∈ nodeAt source children field, InnerRead source node := by
  intro node hnode
  obtain ⟨child, hchild, rfl⟩ := Option.map_eq_some_iff.mp hnode
  exact innerRead_nodeOf h (List.mem_of_find?_eq_some hchild)

lemma innerRead_listAt {field : String} : ∀ list ∈ listAt children field, InnerRead source list := by
  intro list hlist
  obtain ⟨child, hchild, hlist⟩ := Option.bind_eq_some_iff.mp hlist
  exact (h child (List.mem_of_find?_eq_some hchild)).list list hlist

omit h in
lemma nodesOf_textPart (start stop : Nat) : nodesOf (textPart source start stop) = [] := by
  unfold textPart
  dsimp only
  split <;> rfl

omit h in
lemma nodesOf_partsFrom (start stop : Nat) (nodes : List (Span × Node)) :
    nodesOf (partsFrom source start stop nodes) = nodes.map Prod.snd := by
  induction nodes generalizing start with
  | nil => exact nodesOf_textPart start stop
  | cons node nodes ih =>
    rw [partsFrom, nodesOf, List.filterMap_append, ← nodesOf, nodesOf_textPart, List.nil_append,
      List.filterMap_cons_some (by rfl), ← nodesOf, ih]
    rfl

lemma innerRead_converted : ∀ node ∈ (converted children).map Prod.snd, InnerRead source node := by
  intro node hnode
  obtain ⟨⟨span, _⟩, hmem, rfl⟩ := List.mem_map.mp hnode
  obtain ⟨⟨tree, conversion⟩, hchild, hconverted⟩ := List.mem_filterMap.mp hmem
  dsimp only at hconverted
  split at hconverted
  · obtain ⟨found, hfound, heq⟩ := Option.map_eq_some_iff.mp hconverted
    cases heq
    exact (h _ hchild).node _ hfound
  · cases hconverted

lemma innerRead_enclosed : ∀ node ∈ (enclosed source children).map Prod.snd, InnerRead source node := by
  intro node hnode
  obtain ⟨_, hmem, rfl⟩ := List.mem_map.mp hnode
  obtain ⟨child, hchild, rfl⟩ := List.mem_map.mp hmem
  exact innerRead_nodeOf h (List.mem_of_mem_filter hchild)

lemma innerRead_verbatim (kind : String) (span : Span) (literal : Bool) :
    InnerRead source (verbatim source kind span children literal) := by
  refine InnerRead.read span rfl nofun ?_
  rw [Form.children, nodesOf_partsFrom]
  exact innerRead_converted h

lemma innerRead_enclosing (kind : String) (span : Span) : InnerRead source (enclosing source kind span children) := by
  refine InnerRead.read span rfl nofun ?_
  rw [Form.children, nodesOf_partsFrom]
  exact innerRead_enclosed h

lemma innerRead_verbatim? {kind : String} {span : Span} :
    ∀ node ∈ verbatim? source kind span children, InnerRead source node := by
  intro node hnode
  unfold verbatim? at hnode
  split at hnode
  · cases hnode
  · cases hnode
    exact innerRead_verbatim h kind span false

lemma innerRead_parameters (span : Span) : InnerRead source (parameters source span children) := by
  refine InnerRead.read span rfl nofun (fun node hnode => ?_)
  obtain ⟨piece, hpiece, hnode⟩ := List.mem_filterMap.mp hnode
  obtain ⟨child, hchild, rfl⟩ := List.mem_map.mp hpiece
  dsimp only at hnode
  cases hconversion : child.2.node with
  | none =>
    rw [hconversion] at hnode
    cases hnode
  | some found =>
    rw [hconversion] at hnode
    cases hnode
    exact (h child (List.mem_of_mem_filter hchild)).node _ hconversion

/-- The parts of a function are those of its children. -/
lemma innerRead_functionForm {params : Node} (hparams : InnerRead source params) :
    ∀ part ∈ (functionForm source params children).children, InnerRead source part := by
  intro part hpart
  simp only [FunctionForm.children, functionForm, List.cons_append, List.mem_cons, List.mem_append,
    Option.mem_toList] at hpart
  rcases hpart with rfl | (hpart | hpart) | hpart
  · exact hparams
  · exact innerRead_nodeAt h part hpart
  · exact innerRead_nodeAt h part hpart
  · exact innerRead_nodeAt h part hpart

lemma innerRead_function? {form : FunctionForm Node} (hform : function? source children = some form) :
    ∀ part ∈ form.children, InnerRead source part := by
  obtain ⟨params, hparams, rfl⟩ := Option.map_eq_some_iff.mp hform
  exact innerRead_functionForm h (innerRead_listAt h params hparams)

lemma innerRead_arrow? {span : Span} : ∀ node ∈ arrow? source span children, InnerRead source node := by
  intro node hnode
  obtain ⟨params, hparams, hnode⟩ := Option.bind_eq_some_iff.mp hnode
  obtain ⟨body, hbody, hnode⟩ := Option.bind_eq_some_iff.mp hnode
  cases hnode
  have hlist : InnerRead source params := by
    rcases Option.or_eq_some_iff.mp hparams with hsingle | ⟨-, hlist⟩
    · obtain ⟨child, hchild, rfl⟩ := Option.map_eq_some_iff.mp hsingle
      refine InnerRead.read _ rfl nofun (fun part hpart => ?_)
      rw [List.mem_singleton.mp hpart]
      exact innerRead_nodeOf h (List.mem_of_find?_eq_some hchild)
    · exact innerRead_listAt h params hlist
  refine InnerRead.read span rfl nofun (fun part hpart => ?_)
  simp only [Form.children, ArrowForm.children, functionForm, List.mem_cons, List.mem_append,
    Option.mem_toList] at hpart
  rcases hpart with rfl | rfl | hpart | hpart
  · exact hlist
  · exact innerRead_nodeAt h _ hbody
  · exact innerRead_nodeAt h _ hpart
  · exact innerRead_nodeAt h _ hpart

lemma innerRead_call? {span : Span} : ∀ node ∈ call? source span children, InnerRead source node := by
  intro node hnode
  obtain ⟨callee, hcallee, hnode⟩ := Option.bind_eq_some_iff.mp hnode
  obtain ⟨⟨arguments, conversion⟩, harguments, hnode⟩ := Option.bind_eq_some_iff.mp hnode
  have hconversion := h _ (List.mem_of_find?_eq_some harguments)
  dsimp only at hnode hconversion
  split at hnode
  · next hkind =>
    obtain ⟨list, hlist, hnode⟩ := Option.bind_eq_some_iff.mp hnode
    cases hnode
    have hlisted : list.isVerbatim "arguments" = true :=
      hconversion.arguments (of_decide_eq_true (Bool.and_eq_true_iff.mp hkind).1) list hlist
    refine InnerRead.read span rfl (fun _ _ _ hcall => ?_) (fun part hpart => ?_)
    · cases hcall
      exact hlisted
    · simp only [Form.children, List.mem_cons, Option.mem_toList] at hpart
      rcases hpart with rfl | rfl | hpart
      · exact innerRead_nodeOf h (List.mem_of_find?_eq_some hcallee)
      · exact hconversion.list _ hlist
      · exact innerRead_nodeAt h _ hpart
  · cases hnode

lemma innerRead_build {kind : String} {span : Span} :
    ∀ node ∈ build source kind span children, InnerRead source node := by
  intro node hnode
  unfold build at hnode
  split_ifs at hnode with hidentifier harrow hfunction hcall hcomment hparenthesized htemplate
  · cases hnode
    exact InnerRead.read span rfl nofun (List.forall_mem_nil _)
  · rcases Option.or_eq_some_iff.mp hnode with hnode | ⟨-, hnode⟩
    · exact innerRead_arrow? h node hnode
    · exact innerRead_verbatim? h node hnode
  · rcases Option.or_eq_some_iff.mp hnode with hnode | ⟨-, hnode⟩
    · obtain ⟨form, hform, rfl⟩ := Option.map_eq_some_iff.mp hnode
      exact InnerRead.read span rfl nofun (innerRead_function? h hform)
    · exact innerRead_verbatim? h node hnode
  · rcases Option.or_eq_some_iff.mp hnode with hnode | ⟨-, hnode⟩
    · exact innerRead_call? h node hnode
    · exact innerRead_verbatim? h node hnode
  · cases hnode
  · cases hnode
    exact innerRead_enclosing h kind span
  · cases hnode
    exact innerRead_verbatim h kind span true
  · exact innerRead_verbatim? h node hnode

lemma innerRead_buildList {kind : String} {span : Span} :
    ∀ list ∈ buildList source kind span children, InnerRead source list := by
  intro list hlist
  unfold buildList at hlist
  split_ifs at hlist with harguments hparameters
  · cases hlist
    exact innerRead_enclosing h kind span
  · cases hlist
    exact innerRead_parameters h span
  · cases hlist

omit h in
lemma isVerbatim_buildList {span : Span} :
    ∀ list ∈ buildList source "arguments" span children, list.isVerbatim "arguments" = true := by
  intro list hlist
  cases hlist
  rfl

end Children

mutual

theorem innerRead_convert : ∀ tree : Tree, ReadConversion source tree.kind (convert source tree)
  | .mk _ _ _ _ children =>
    have h := innerRead_convertAll children
    ⟨innerRead_build h, innerRead_buildList h, fun hkind => hkind ▸ isVerbatim_buildList⟩

theorem innerRead_convertAll : ∀ trees : List Tree, ReadChildren source (convertAll source trees)
  | [] => nofun
  | tree :: rest => by
    intro child hchild
    rcases List.mem_cons.mp hchild with rfl | hchild
    · exact innerRead_convert tree
    · exact innerRead_convertAll rest child hchild

end

/-! ### Statements -/

lemma mem_of_mapM_eq_some {α β : Type} {f : α → Option β} {l : List α} {bs : List β} (h : l.mapM f = some bs)
    {b : β} (hb : b ∈ bs) : ∃ a ∈ l, f a = some b := by
  induction l generalizing bs with
  | nil =>
    rw [List.mapM_nil] at h
    cases h
    cases hb
  | cons a l ih =>
    rw [List.mapM_cons] at h
    obtain ⟨first, hfirst, h⟩ := Option.bind_eq_some_iff.mp h
    obtain ⟨rest, hrest, h⟩ := Option.bind_eq_some_iff.mp h
    cases h
    rcases List.mem_cons.mp hb with rfl | hb
    · exact ⟨a, List.mem_cons_self .., hfirst⟩
    · obtain ⟨c, hc, hfc⟩ := ih hrest hb
      exact ⟨c, List.mem_cons_of_mem _ hc, hfc⟩

/-- The declaration that a statement exports, under a name or by default. -/
def exportedPart? : Form Node → Option Node
  | .exportNamed form => form.declaration
  | .exportDefault declaration => some declaration
  | _ => none

variable (source) in
/-- A statement that was read from the stretch of the source. -/
structure ReadsAs (span : Span) (node : Node) : Prop where
  read : ∃ form, node = OfTree.read source span form
  statement : node.form.isStatement = true
  wasRead : WasRead source node

lemma ReadsAs.faithful {span : Span} {node : Node} (h : ReadsAs source span node) : Faithful node :=
  h.wasRead.faithful

variable (source) in
lemma readsAs_otherStatement (tree : Tree) : ReadsAs source tree.span (otherStatement source tree) where
  read := ⟨_, rfl⟩
  statement := rfl
  wasRead := by
    have hchildren : ReadChildren source [(tree, convert source tree)] := by
      intro child hchild
      rw [List.mem_singleton.mp hchild]
      exact innerRead_convert tree
    refine wasRead_ordinary tree.span rfl nofun (fun part hpart => ?_)
    rw [List.mem_singleton.mp hpart]
    exact (innerRead_nodeOf hchildren (List.mem_singleton_self _)).wasRead

lemma readsAs_functionDeclaration {tree : Tree} {node : Node} (h : functionDeclaration source tree = some node) :
    ReadsAs source tree.span node ∧ ∃ form, node.form = .functionDeclaration form := by
  obtain ⟨form, hform, rfl⟩ := Option.map_eq_some_iff.mp h
  have hparts := innerRead_function? (innerRead_convertAll tree.children) hform
  have hread : WasRead source (read source tree.span (.functionDeclaration form)) :=
    wasRead_ordinary tree.span rfl nofun fun part hpart => (hparts part hpart).wasRead
  exact ⟨⟨⟨_, rfl⟩, rfl, hread⟩, form, rfl⟩

lemma wasRead_declarator {tree : Tree} {node : Node} (h : declarator source tree = some node) :
    WasRead source node := by
  obtain ⟨name, hname, rfl⟩ := Option.map_eq_some_iff.mp h
  have hchildren : ReadChildren source (convertAll source tree.children) := innerRead_convertAll tree.children
  refine wasRead_ordinary tree.span rfl nofun (fun part hpart => ?_)
  simp only [Form.children, List.mem_cons, List.mem_append, Option.mem_toList] at hpart
  rcases hpart with rfl | hpart | hpart
  · exact (innerRead_nodeAt hchildren _ hname).wasRead
  · exact (innerRead_nodeAt hchildren _ hpart).wasRead
  · exact (innerRead_nodeAt hchildren _ hpart).wasRead

lemma readsAs_variableDeclaration {tree : Tree} {node : Node} (h : variableDeclaration source tree = some node) :
    ReadsAs source tree.span node ∧
      ∃ kind declarators, node.form = .variableDeclaration kind declarators := by
  obtain ⟨declarators, hdeclarators, h⟩ := Option.bind_eq_some_iff.mp h
  cases h
  refine ⟨⟨⟨_, rfl⟩, rfl, wasRead_ordinary tree.span rfl nofun (fun part hpart => ?_)⟩, _, _, rfl⟩
  obtain ⟨child, -, hchild⟩ := mem_of_mapM_eq_some hdeclarators hpart
  exact wasRead_declarator hchild

lemma readsAs_classDeclaration {tree : Tree} {node : Node} (h : classDeclaration source tree = some node) :
    ReadsAs source tree.span node ∧ ∃ name tail, node.form = .classDeclaration name tail := by
  obtain ⟨start, -, h⟩ := Option.bind_eq_some_iff.mp h
  cases h
  refine ⟨⟨⟨_, rfl⟩, rfl, wasRead_ordinary tree.span rfl nofun (fun part hpart => ?_)⟩, _, _, rfl⟩
  rw [List.mem_singleton.mp hpart]
  exact (innerRead_verbatim ((innerRead_convertAll tree.children).filter _) "class_tail" _ false).wasRead

variable (source) in
/-- A statement that is no export is an import, a function, variables, a class or text. -/
lemma declaration_cases (tree : Tree) :
    (∃ form, declaration source tree = read source tree.span (.importDeclaration form)) ∨
    (tree.kind ∈ declarationKinds ∧ functionDeclaration source tree = some (declaration source tree)) ∨
    variableDeclaration source tree = some (declaration source tree) ∨
    (tree.kind = "class_declaration" ∧ classDeclaration source tree = some (declaration source tree)) ∨
    declaration source tree = otherStatement source tree := by
  have hgetD {node? : Option Node} {node : Node} : node? = some (node?.getD node) ∨ node?.getD node = node := by
    cases node? with
    | none => exact .inr rfl
    | some _ => exact .inl rfl
  unfold declaration
  split_ifs with himport hfunction hvariable hclass
  · cases importForm source tree with
    | none => exact .inr (.inr (.inr (.inr rfl)))
    | some form => exact .inl ⟨form, rfl⟩
  · exact hgetD.elim (fun h => .inr (.inl ⟨hfunction, h⟩)) fun h => .inr (.inr (.inr (.inr h)))
  · exact hgetD.elim (fun h => .inr (.inr (.inl h))) fun h => .inr (.inr (.inr (.inr h)))
  · exact hgetD.elim (fun h => .inr (.inr (.inr (.inl ⟨hclass, h⟩)))) fun h => .inr (.inr (.inr (.inr h)))
  · exact .inr (.inr (.inr (.inr rfl)))

variable (source) in
lemma readsAs_declaration (tree : Tree) : ReadsAs source tree.span (declaration source tree) ∧
    exportedPart? (declaration source tree).form = none := by
  rcases declaration_cases source tree with ⟨form, h⟩ | ⟨-, h⟩ | h | ⟨-, h⟩ | h
  · rw [h]
    exact ⟨⟨⟨_, rfl⟩, rfl, wasRead_ordinary tree.span rfl nofun (List.forall_mem_nil _)⟩, rfl⟩
  · obtain ⟨hreads, form, hform⟩ := readsAs_functionDeclaration h
    exact ⟨hreads, by rw [hform]; rfl⟩
  · obtain ⟨hreads, kind, declarators, hform⟩ := readsAs_variableDeclaration h
    exact ⟨hreads, by rw [hform]; rfl⟩
  · obtain ⟨hreads, name, tail, hform⟩ := readsAs_classDeclaration h
    exact ⟨hreads, by rw [hform]; rfl⟩
  · rw [h]
    exact ⟨readsAs_otherStatement source tree, rfl⟩

/-! ### Exports -/

lemma reads_verbatim? {kind : String} {span : Span} {children : List Child} {node : Node}
    (h : verbatim? source kind span children = some node) :
    ∃ form, node = read source span form ∧ form.isStatement = false := by
  unfold verbatim? at h
  split at h
  · cases h
  · cases h
    exact ⟨_, rfl, rfl⟩

lemma reads_build {kind : String} {span : Span} {children : List Child} {node : Node}
    (h : build source kind span children = some node) :
    ∃ form, node = read source span form ∧ form.isStatement = false := by
  unfold build at h
  split_ifs at h with hidentifier harrow hfunction hcall hcomment hparenthesized htemplate
  · cases h
    exact ⟨_, rfl, rfl⟩
  · rcases Option.or_eq_some_iff.mp h with h | ⟨-, h⟩
    · obtain ⟨params, -, h⟩ := Option.bind_eq_some_iff.mp h
      obtain ⟨body, -, h⟩ := Option.bind_eq_some_iff.mp h
      cases h
      exact ⟨_, rfl, rfl⟩
    · exact reads_verbatim? h
  · rcases Option.or_eq_some_iff.mp h with h | ⟨-, h⟩
    · obtain ⟨form, -, rfl⟩ := Option.map_eq_some_iff.mp h
      exact ⟨_, rfl, rfl⟩
    · exact reads_verbatim? h
  · rcases Option.or_eq_some_iff.mp h with h | ⟨-, h⟩
    · obtain ⟨callee, -, h⟩ := Option.bind_eq_some_iff.mp h
      obtain ⟨⟨arguments, conversion⟩, -, h⟩ := Option.bind_eq_some_iff.mp h
      dsimp only at h
      split at h
      · obtain ⟨list, -, h⟩ := Option.bind_eq_some_iff.mp h
        cases h
        exact ⟨_, rfl, rfl⟩
      · cases h
    · exact reads_verbatim? h
  · cases h
    exact ⟨_, rfl, rfl⟩
  · cases h
    exact ⟨_, rfl, rfl⟩
  · exact reads_verbatim? h

variable (source) in
/-- A child is read from its own stretch of the source, and it is no statement. -/
lemma reads_nodeOf (tree : Tree) :
    ∃ form, nodeOf source (tree, convert source tree) = read source tree.span form ∧ form.isStatement = false := by
  obtain ⟨kind, named, field, span, children⟩ := tree
  rw [nodeOf, convert]
  dsimp only
  cases h : build source kind span (convertAll source children) with
  | none => exact ⟨_, rfl, rfl⟩
  | some node => exact reads_build h

variable (source) in
lemma span_nodeOf (tree : Tree) : (nodeOf source (tree, convert source tree)).span = some tree.span := by
  obtain ⟨form, hread, -⟩ := reads_nodeOf source tree
  rw [hread]
  rfl

lemma ReadsAs.span {span : Span} {node : Node} (h : ReadsAs source span node) :
    node.span = some span := by
  obtain ⟨form, rfl⟩ := h.read
  rfl

lemma defaultExport_eq_some {tree : Tree} {node : Node} (h : defaultExport source tree = some node) :
    WasRead source node ∧ ∃ child ∈ tree.children, node.span = some child.span := by
  obtain ⟨target, htarget, h⟩ := Option.bind_eq_some_iff.mp h
  have hchild : target ∈ tree.children := by
    rcases Option.or_eq_some_iff.mp htarget with htarget | ⟨-, htarget⟩
    · exact List.mem_of_find?_eq_some htarget
    · exact List.mem_of_find?_eq_some htarget
  split_ifs at h with hfunction hclass hdeclared
  · have hreads := (readsAs_functionDeclaration h).1
    exact ⟨hreads.wasRead, target, hchild, hreads.span⟩
  · have hreads := (readsAs_classDeclaration h).1
    exact ⟨hreads.wasRead, target, hchild, hreads.span⟩
  · cases h
    have hchildren : ReadChildren source [(target, convert source target)] := by
      intro child hmem
      rw [List.mem_singleton.mp hmem]
      exact innerRead_convert target
    exact ⟨(innerRead_nodeOf hchildren (List.mem_singleton_self _)).wasRead, target, hchild, span_nodeOf source target⟩

lemma exportForm_eq_some {tree : Tree} {form : Form Node} (h : exportForm source tree = some form) :
    ReadsAs source tree.span (read source tree.span form) ∧
      ∀ part ∈ exportedPart? form, ∃ child ∈ tree.children, part.span = some child.span := by
  unfold exportForm at h
  split at h
  · obtain ⟨node, hnode, rfl⟩ := Option.map_eq_some_iff.mp h
    obtain ⟨hread, hspan⟩ := defaultExport_eq_some hnode
    refine ⟨⟨⟨_, rfl⟩, rfl, wasRead_ordinary tree.span rfl nofun (fun part hpart => ?_)⟩, ?_⟩
    · rw [List.mem_singleton.mp hpart]
      exact hread
    · rintro part hpart
      cases hpart
      exact hspan
  · split at h
    · next target htarget =>
      cases h
      obtain ⟨hreads, -⟩ := readsAs_declaration source target
      have hsingle {part : Node} (hpart : part ∈ [declaration source target]) : part = declaration source target :=
        List.mem_singleton.mp hpart
      refine ⟨⟨⟨_, rfl⟩, rfl, .read tree.span ⟨rfl, rfl, fun part hpart => ?_, nofun⟩ fun part hpart => ?_⟩, ?_⟩
      · rw [hsingle hpart]
        exact hreads.statement
      · rw [hsingle hpart]
        exact hreads.wasRead
      · rintro part hpart
        cases hpart
        exact ⟨target, List.mem_of_find?_eq_some htarget, hreads.span⟩
    · obtain ⟨clause, hclause, rfl⟩ := Option.map_eq_some_iff.mp h
      have hnone : clause.declaration = none := by
        obtain ⟨tree, -, hclause⟩ := Option.bind_eq_some_iff.mp hclause
        obtain ⟨specifiers, -, hclause⟩ := Option.bind_eq_some_iff.mp hclause
        cases hclause
        rfl
      refine ⟨⟨⟨_, rfl⟩, rfl, .read tree.span ⟨rfl, rfl, ?_, nofun⟩ ?_⟩, ?_⟩
      · simp [statementParts, hnone]
      · simp [Form.children, hnone]
      · simp [exportedPart?, hnone]

variable (source) in
/-- A statement is read from its own stretch of the source, and the declaration in an export from a part of that. -/
theorem readsAs_statement (tree : Tree) : ReadsAs source tree.span (statement source tree) ∧
    ∀ part ∈ exportedPart? (statement source tree).form, ∃ child ∈ tree.children, part.span = some child.span := by
  unfold statement
  split
  · cases h : exportForm source tree with
    | none => exact ⟨readsAs_otherStatement source tree, nofun⟩
    | some form => exact exportForm_eq_some h
  · obtain ⟨hreads, hinner⟩ := readsAs_declaration source tree
    refine ⟨hreads, fun part hpart => ?_⟩
    rw [hinner] at hpart
    cases hpart

/-- The statements of a module have the forms that were read. -/
lemma form_of_mem_body {trees : List Tree} {node : Node} (h : node ∈ OfTree.body source trees) :
    ∃ tree ∈ trees, node.form = (statement source tree).form := by
  have hfrom {stop : Nat} {trees : List Tree} (h : node ∈ statementsFrom source stop trees) :
      ∃ tree ∈ trees, node.form = (statement source tree).form := by
    induction trees generalizing stop with
    | nil => cases h
    | cons tree rest ih =>
      rcases List.mem_cons.mp h with rfl | h
      · exact ⟨tree, List.mem_cons_self .., rfl⟩
      · obtain ⟨other, hother, hform⟩ := ih h
        exact ⟨other, List.mem_cons_of_mem _ hother, hform⟩
  cases trees with
  | nil => cases h
  | cons tree rest =>
    rcases List.mem_cons.mp h with rfl | h
    · exact ⟨tree, List.mem_cons_self .., rfl⟩
    · obtain ⟨other, hother, hform⟩ := hfrom h
      exact ⟨other, List.mem_cons_of_mem _ hother, hform⟩

end RouteMigration.Proofs
