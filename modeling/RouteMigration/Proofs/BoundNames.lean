import RouteMigration.Proofs.ConvertedTrees
import RouteMigration.Proofs.PatternNames
import RouteMigration.Proofs.RequestedImports

/-!
# Names bound by parameter lists

What is listed for a parameter list of a parsed module are the names that its patterns mention, each once and in the
order of the source. Without computed keys, decorators and members, these are the names that the patterns bind.
-/

namespace RouteMigration.Proofs
open Syntax Grammar OfTree Route

/-! ### Collecting names -/

lemma foldl_addNew (names : List String) (more : List (List String)) :
    more.foldl addNew names = addNew names more.flatten := by
  induction more generalizing names with
  | nil => rfl
  | cons first rest ih =>
    rw [List.foldl_cons, ih, List.flatten_cons, addNew, addNew, addNew, ← List.foldl_append]

/-- The names that are there once each, in the order in which they came first. -/
lemma addNew_nil (names : List String) : addNew [] names = names.eraseDups := by
  induction names using List.reverseRecOn with
  | nil => rfl
  | append_singleton names name ih =>
    rw [addNew] at ih ⊢
    rw [List.foldl_append, ih, eraseDups_concat]
    simp only [List.foldl_cons, List.foldl_nil, List.contains_iff_mem, List.mem_eraseDups]

/-- A list of items that are patterns as they were read. -/
lemma boundNames_parameters {node : Node} {items : List (Piece Node)} {layout : Option (List String)}
    (hform : node.form = .parameters items layout) (hread : ∀ item ∈ nodesOf items, ∀ names, item.form ≠ .objectPattern names) :
    boundNames node = ((nodesOf items).flatMap bindingNames).eraseDups := by
  have hadd {item : Node} (hitem : item ∈ nodesOf items) (names : List String) :
      addBoundNames names item = addNew names (bindingNames item) := by
    unfold addBoundNames
    split
    · next bound hbound => exact absurd hbound (hread item hitem bound)
    · rfl
  have hfold (names : List String) :
      (nodesOf items).foldl addBoundNames names = ((nodesOf items).map bindingNames).foldl addNew names := by
    rw [List.foldl_map]
    exact List.foldl_ext _ _ names fun names item hitem => hadd hitem names
  rw [boundNames, hform]
  dsimp only
  rw [hfold, foldl_addNew, addNew_nil]
  rfl

/-! ### Lists of parameters -/

/-- The constructs that lists of parameters are made of: lists in parentheses, and the single parameters of arrow
functions. -/
inductive IsParameterList (root : Tree) : Tree → Prop where
  | list {tree : Tree} : HasConstruct root tree → tree.kind = "formal_parameters" → IsParameterList root tree
  | single {arrow tree : Tree} : HasConstruct root arrow → arrow.kind = "arrow_function" → tree ∈ arrow.children →
      tree.field = some "parameter" → IsParameterList root tree

/-- The parameters in a list. -/
def parametersOf (list : Tree) : List Tree :=
  if list.kind = "formal_parameters" then list.children.filter isEntry else [list]

/-- The names in a list of parameters. -/
def listMentions (source : List Char) (list : Tree) : List Mention :=
  (parametersOf list).flatMap (mentions source)

/-- The names that a list of parameters binds. -/
def listBound (source : List Char) (list : Tree) : List String :=
  (parametersOf list).flatMap (namesBound source)

variable {source : List Char} {root : Tree}

/-- Where everything that is mentioned is bound, the mentions are the names that are bound. -/
lemma map_name_listMentions {list : Tree} (h : ∀ mention ∈ listMentions source list, mention.isBound = true) :
    (listMentions source list).map Mention.name = listBound source list := by
  have hbound {trees : List Tree} : boundOf (trees.flatMap (mentions source)) = trees.flatMap (namesBound source) := by
    induction trees with
    | nil => rfl
    | cons tree rest ih => rw [List.flatMap_cons, List.flatMap_cons, boundOf_append, boundOf_mentions, ih]
  rw [listBound, ← hbound, boundOf]
  exact congrArg _ (List.filter_eq_self.mpr h).symm

/-- A construct of text around nodes is a verbatim. -/
lemma form_nodeOf {tree : Tree} (h : tree.kind ∉ specialKinds) :
    ∃ parts literal, (nodeOf source (tree, convert source tree)).form = .verbatim tree.kind parts literal := by
  rw [nodeOf]
  dsimp only
  rw [node_convert, build_plain h, verbatim?]
  split
  · exact ⟨_, _, rfl⟩
  · exact ⟨_, _, rfl⟩

/-- The items of a list are the nodes of its parameters. -/
lemma nodesOf_items (children : List Tree) :
    nodesOf (((convertAll source children).filter fun child => isEntry child.1).map fun (tree, conversion) =>
        conversion.node.elim (Piece.text (textOf source tree)) Piece.node) =
      (children.filter isEntry).filterMap fun tree => (convert source tree).node := by
  rw [convertAll_eq_map, List.filter_map, List.map_map, nodesOf, List.filterMap_map]
  congr 1
  funext tree
  dsimp only [Function.comp_apply]
  cases (convert source tree).node <;> rfl

lemma flatMap_nodes {trees : List Tree} (h : ∀ tree ∈ trees, FindsMentions source tree) :
    (trees.filterMap fun tree => (convert source tree).node).flatMap bindingNames =
      (trees.flatMap (mentions source)).map Mention.name := by
  induction trees with
  | nil => rfl
  | cons tree rest ih =>
    obtain ⟨htree, hrest⟩ := List.forall_mem_cons.mp h
    rw [List.flatMap_cons, List.map_append, ← htree, ← ih hrest, nodeOf, List.filterMap_cons]
    dsimp only
    cases (convert source tree).node with
    | none =>
      rw [Option.getD_none, OfTree.read, bindingNames_text rfl]
      rfl
    | some node => rfl

/-- What is listed for a list in parentheses. -/
lemma boundNames_list {list : Tree} (hkind : list.kind = "formal_parameters") (hwell : IsWell source list) :
    ∃ nodes, boundNames (parameters source list.span (convertAll source list.children)) = nodes.eraseDups ∧
      ((∀ parameter ∈ parametersOf list, HasPlainFront source parameter) →
        nodes = (listMentions source list).map Mention.name) := by
  have hparameters : ∀ tree ∈ list.children.filter isEntry, IsParameter tree := by
    intro tree htree
    obtain ⟨hchild, hentry⟩ := List.mem_filter.mp htree
    exact hwell.shape.parameters hkind tree hchild (Bool.and_eq_true_iff.mp hentry).1
  refine ⟨_, boundNames_parameters rfl fun item hitem names => ?_, fun hplain => ?_⟩
  · rw [nodesOf_items] at hitem
    obtain ⟨tree, htree, hnode⟩ := List.mem_filterMap.mp hitem
    have hspecial : tree.kind ∉ specialKinds := by
      have hspec : ∀ kind ∈ parameterKinds, kind ∉ specialKinds := by decide
      cases hparameters tree htree with
      | mk htreeKind => exact hspec tree.kind htreeKind
    obtain ⟨parts, literal, hform⟩ := @form_nodeOf source tree hspecial
    rw [nodeOf, hnode, Option.getD_some] at hform
    rw [hform]
    intro hpattern
    cases hpattern
  · rw [parametersOf, if_pos hkind] at hplain
    rw [nodesOf_items, listMentions, parametersOf, if_pos hkind]
    refine flatMap_nodes fun tree htree => ?_
    exact findsMentions_parameter (hparameters tree htree) (hwell.child (List.mem_of_mem_filter htree)) (hplain tree htree)

/-- What is listed for a single parameter. -/
lemma boundNames_single {tree : Tree} {span : Span} (hkind : tree.kind = "identifier") :
    boundNames (read source span (.parameters [.node (nodeOf source (tree, convert source tree))] none)) =
      ((listMentions source tree).map Mention.name).eraseDups := by
  have hname : tree.kind ∈ nameKinds := by
    rw [hkind]
    decide
  have hlist : tree.kind ≠ "formal_parameters" := by
    rw [hkind]
    decide
  have hmentions : bindingNames (nodeOf source (tree, convert source tree)) = (mentions source tree).map Mention.name :=
    findsMentions_name hname
  have hread : ∀ names, (nodeOf source (tree, convert source tree)).form ≠ .objectPattern names := by
    rw [nodeOf]
    dsimp only
    rw [node_convert, build, if_pos (by rw [hkind]; decide)]
    intro names hpattern
    cases hpattern
  rw [boundNames_parameters rfl (List.forall_mem_singleton.mpr hread), listMentions, parametersOf, if_neg hlist,
    List.flatMap_singleton, ← hmentions]
  congr 1
  exact List.flatMap_singleton ..

lemma HasConstruct.isWell {tree : Tree} (h : HasConstruct root tree) (hroot : IsWell source root) : IsWell source tree :=
  ⟨h.isNested hroot.nested, h.built hroot.built⟩

/-- The parameter lists among the nodes that were made of constructs. -/
lemma boundNames_made {tree : Tree} {node : Node} {items : List (Piece Node)} {layout : Option (List String)}
    (hroot : IsWell source root) (htree : HasConstruct root tree) (hmade : MadeOf source tree node)
    (hform : node.form = .parameters items layout) :
    ∃ list, IsParameterList root list ∧ node.span = some list.span ∧ (boundNames node).Nodup ∧
      ((∀ parameter ∈ parametersOf list, HasPlainFront source parameter) →
        boundNames node = ((listMentions source list).map Mention.name).eraseDups) := by
  cases hmade with
  | text _ | verbatim _ _ | enclosing _ | tail _ _ => cases hform
  | other hother _ =>
    obtain rfl : _ = Form.parameters items layout := hform
    cases hother
  | parameters hkind =>
    obtain ⟨names, hnames, hplain⟩ := boundNames_list hkind (htree.isWell hroot)
    refine ⟨tree, .list htree hkind, rfl, hnames ▸ nodup_eraseDups names, fun hfront => ?_⟩
    rw [hnames, hplain hfront]
  | @parameter child hkind hchild hfield =>
    have hnames := @boundNames_single source child child.span ((htree.isWell hroot).shape.arrow hkind child hchild hfield)
    exact ⟨child, .single htree hkind hchild hfield, rfl, hnames ▸ nodup_eraseDups _, fun _ => hnames⟩

/-- For every parameter list of a parsed module, each name is listed once. Where no equals sign stands in front of the
pattern of a parameter, the names are those that the patterns mention, in the order of the source; and where they
mention only what they bind, these are the names that the patterns bind. -/
theorem boundNames_exact {source path : String} {module : Module} (h : Module.parse source path = .ok module) :
    ∃ root, Grammar.parse (.ofPath path) source.toList = .ok root ∧
      ∀ statement ∈ module.body, ∀ node ∈ statement.descendants, ∀ items layout, node.form = .parameters items layout →
        ∃ list, IsParameterList root list ∧ node.span = some list.span ∧ (boundNames node).Nodup ∧
          ((∀ parameter ∈ parametersOf list, HasPlainFront source.toList parameter) →
            boundNames node = ((listMentions source.toList list).map Mention.name).eraseDups ∧
            ((∀ mention ∈ listMentions source.toList list, mention.isBound = true) →
              boundNames node = (listBound source.toList list).eraseDups)) := by
  obtain ⟨root, hroot, hmade⟩ := isMade_of_parse h
  refine ⟨root, hroot, fun statement hstatement node hnode items layout hform => ?_⟩
  have hwell : IsWell source.toList root := ⟨(grammarParse_eq_ok hroot).1, built_of_parse hroot⟩
  have hstatementForm : statement.form.isStatement = true := by
    obtain ⟨spans, hread, -⟩ := parse_eq_ok h
    obtain ⟨span, hstatement⟩ := hread.of_mem hstatement
    exact hstatement.isStatement
  have hne : node ≠ statement := by
    rintro rfl
    rw [hform] at hstatementForm
    cases hstatementForm
  obtain ⟨part, hpart, hnode⟩ := (mem_descendants.mp hnode).resolve_left hne
  obtain ⟨⟨tree, htree, hmadeOf⟩, -⟩ := hmade statement hstatement part hpart node hnode
  obtain ⟨list, hlist, hspan, hnodup, hnames⟩ := boundNames_made hwell htree hmadeOf hform
  refine ⟨list, hlist, hspan, hnodup, fun hplain => ⟨hnames hplain, fun hbound => ?_⟩⟩
  rw [hnames hplain, map_name_listMentions hbound]

/-! ### A list with nested patterns -/

lemma IsParameterList.mem_constructs {list : Tree} (h : IsParameterList root list) : list ∈ constructs root := by
  cases h with
  | list htree _ => exact htree.mem_constructs
  | single harrow _ hchild _ => exact (harrow.child hchild).mem_constructs

instance (source : List Char) (parameter : Tree) : Decidable (HasPlainFront source parameter) :=
  inferInstanceAs (Decidable (∀ pattern ∈ parameter.children, pattern.field = some "pattern" →
    '=' ∉ (slice source parameter.start pattern.start).toList))

variable (source root) in
/-- What the patterns of a list mention, they bind, and no equals sign stands in front of the patterns. -/
def areTidy : Bool :=
  (constructs root).all fun list =>
    (list.kind ≠ "formal_parameters" && list.field ≠ some "parameter") ||
      ((parametersOf list).all (fun parameter => HasPlainFront source parameter) &&
        (listMentions source list).all Mention.isBound)

lemma IsParameterList.tidy {list : Tree} (h : IsParameterList root list) (htidy : areTidy source root = true) :
    (∀ parameter ∈ parametersOf list, HasPlainFront source parameter) ∧
      ∀ mention ∈ listMentions source list, mention.isBound = true := by
  have hlist : (list.kind ≠ "formal_parameters" && list.field ≠ some "parameter") = false := by
    cases h with
    | list _ hkind => rw [hkind]; rfl
    | single _ _ _ hfield => rw [hfield, Bool.and_comm]; rfl
  have hchecked := List.all_eq_true.mp htidy list h.mem_constructs
  rw [hlist, Bool.false_or, Bool.and_eq_true, List.all_eq_true, List.all_eq_true] at hchecked
  exact ⟨fun parameter hparameter => of_decide_eq_true (hchecked.1 parameter hparameter), hchecked.2⟩

def nestedParameters : String :=
  "export const loader = (\x7b params, context: ctx, rest: [first, ...others] = none \x7d: Args, extra = fallback) => 1;\n"

theorem nestedParameters_bound : ∃ module statement node items layout root list,
    Module.parse nestedParameters "routes/a.ts" = .ok module ∧ statement ∈ module.body ∧ node ∈ statement.descendants ∧
    node.form = .parameters items layout ∧ boundNames node = ["params", "ctx", "first", "others", "extra"] ∧
    Grammar.parse (.ofPath "routes/a.ts") nestedParameters.toList = .ok root ∧ IsParameterList root list ∧
    node.span = some list.span ∧ boundNames node = (listBound nestedParameters.toList list).eraseDups := by
  have hrun : ((Module.parse nestedParameters "routes/a.ts").toOption.any fun module =>
      module.body.any fun statement => statement.descendants.any fun node =>
        boundNames node = ["params", "ctx", "first", "others", "extra"]) = true := by decide +kernel
  have htidy : ((Grammar.parse (.ofPath "routes/a.ts") nestedParameters.toList).toOption.any fun root =>
      areTidy nestedParameters.toList root) = true := by decide +kernel
  obtain ⟨module, hparse, hrun⟩ := exists_of_any_toOption hrun
  obtain ⟨root, hroot, htidy⟩ := exists_of_any_toOption htidy
  obtain ⟨statement, hstatement, hrun⟩ := List.any_eq_true.mp hrun
  obtain ⟨node, hnode, hrun⟩ := List.any_eq_true.mp hrun
  have hnames : boundNames node = ["params", "ctx", "first", "others", "extra"] := of_decide_eq_true hrun
  obtain ⟨items, layout, hform⟩ : ∃ items layout, node.form = .parameters items layout := by
    have hnames := hnames
    unfold boundNames at hnames
    split at hnames
    · next items layout hform => exact ⟨items, layout, hform⟩
    · cases hnames
  obtain ⟨root', hroot', hlists⟩ := boundNames_exact hparse
  obtain rfl : root = root' := Except.ok.inj (hroot.symm.trans hroot')
  obtain ⟨list, hlist, hspan, -, hbound⟩ := hlists statement hstatement node hnode items layout hform
  obtain ⟨hplain, hmentions⟩ := hlist.tidy htidy
  exact ⟨module, statement, node, items, layout, root, list, hparse, hstatement, hnode, hform, hnames, hroot, hlist, hspan,
    (hbound hplain).2 hmentions⟩

end RouteMigration.Proofs
