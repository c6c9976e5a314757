import RouteMigration.Proofs.ConvertedTrees

/-!
# Parts in their roles

A construct whose parts play each role once has the part that plays a role where the conversion looks for it. So every
arrow function becomes one, and every call with an argument list does that takes place in any case.
-/

namespace RouteMigration.Proofs
open Syntax Grammar OfTree

variable {source : List Char} {roles : List (List String)} {trees : List Tree} {role : String}

/-! ### Finding a part -/

variable (role) in
lemma PlaysRoles.exists_role (h : PlaysRoles roles trees) (hall : ∀ list ∈ roles, role ∈ list) :
    ∃ tree ∈ trees, tree.field = some role :=
  List.mem_filterMap.mp (hall _ h.mem)

/-- A part that plays a role beside others that do not is the first one. -/
lemma find?_role (hnodup : (rolesOf trees).Nodup) {tree : Tree} (htree : tree ∈ trees) (hrole : tree.field = some role) :
    trees.find? (fun part => part.field = some role) = some tree := by
  induction trees with
  | nil => cases htree
  | cons first rest ih =>
    rcases List.mem_cons.mp htree with rfl | htree
    · exact List.find?_cons_of_pos (decide_eq_true hrole)
    · have hmem : role ∈ rolesOf rest := List.mem_filterMap.mpr ⟨tree, htree, hrole⟩
      have hother : first.field ≠ some role := by
        intro hfirst
        rw [rolesOf, List.filterMap_cons_some hfirst] at hnodup
        exact (List.nodup_cons.mp hnodup).1 hmem
      rw [List.find?_cons_of_neg (by rw [decide_eq_true_eq]; exact hother)]
      refine ih ?_ htree
      cases hfield : first.field with
      | none => rwa [rolesOf, List.filterMap_cons_none hfield] at hnodup
      | some other =>
        rw [rolesOf, List.filterMap_cons_some hfield] at hnodup
        exact (List.nodup_cons.mp hnodup).2

/-- No part plays the role. -/
lemma find?_role_eq_none (h : role ∉ rolesOf trees) : trees.find? (fun part => part.field = some role) = none := by
  refine List.find?_eq_none.mpr fun tree htree hfield => h ?_
  exact List.mem_filterMap.mpr ⟨tree, htree, of_decide_eq_true hfield⟩

variable (source) in
lemma childAt_convertAll (trees : List Tree) (role : String) : childAt (convertAll source trees) role =
    (trees.find? fun part => part.field = some role).map fun tree => (tree, convert source tree) := by
  rw [convertAll_eq_map, childAt, List.find?_map]
  rfl

variable (source) in
lemma hasToken_convertAll (tree : Tree) (token : String) :
    OfTree.hasToken (convertAll source tree.children) token = tree.hasToken token := by
  rw [convertAll_eq_map, OfTree.hasToken, List.any_map]
  rfl

section Parts

variable {tree part : Tree}

variable (source) in
lemma PlaysRoles.childAt (h : PlaysRoles roles tree.children) (hnodup : ∀ list ∈ roles, list.Nodup)
    (hpart : part ∈ tree.children) (hrole : part.field = some role) :
    childAt (convertAll source tree.children) role = some (part, convert source part) := by
  rw [childAt_convertAll, find?_role (hnodup _ h.mem) hpart hrole]
  rfl

variable (source) in
lemma PlaysRoles.nodeAt (h : PlaysRoles roles tree.children) (hnodup : ∀ list ∈ roles, list.Nodup)
    (hpart : part ∈ tree.children) (hrole : part.field = some role) :
    nodeAt source (convertAll source tree.children) role = some (nodeOf source (part, convert source part)) := by
  rw [OfTree.nodeAt, h.childAt source hnodup hpart hrole]
  rfl

variable (source) in
lemma PlaysRoles.listAt (h : PlaysRoles roles tree.children) (hnodup : ∀ list ∈ roles, list.Nodup)
    (hpart : part ∈ tree.children) (hrole : part.field = some role) :
    listAt (convertAll source tree.children) role = (convert source part).list := by
  rw [OfTree.listAt, h.childAt source hnodup hpart hrole]
  rfl

variable (source) in
lemma PlaysRoles.childAt_eq_none (h : PlaysRoles roles tree.children) (other : String)
    (hnone : ∀ list ∈ roles, role ∈ list → other ∉ list)
    (hpart : part ∈ tree.children) (hrole : part.field = some role) :
    OfTree.childAt (convertAll source tree.children) other = none := by
  have hmem : role ∈ rolesOf tree.children := List.mem_filterMap.mpr ⟨part, hpart, hrole⟩
  rw [childAt_convertAll, find?_role_eq_none (hnone _ h.mem hmem)]
  rfl

/-- A named part plays one of the roles. -/
lemma PlaysRoles.role_mem (h : PlaysRoles roles tree.children) (hpart : part ∈ tree.children) (hnamed : part.isNamed = true) :
    ∃ role ∈ roles.flatten, part.field = some role := by
  obtain ⟨role, hrole⟩ := Option.isSome_iff_exists.mp (h.named part hpart hnamed)
  exact ⟨role, List.mem_flatten.mpr ⟨_, h.mem, List.mem_filterMap.mpr ⟨part, hpart, hrole⟩⟩, hrole⟩

end Parts

/-! ### Lists -/

variable {tree : Tree}

variable (source) in
lemma list_convert (tree : Tree) :
    (convert source tree).list = buildList source tree.kind tree.span (convertAll source tree.children) := by
  obtain ⟨kind, named, field, span, children⟩ := tree
  rw [convert]
  rfl

lemma list_of_arguments (hkind : tree.kind = "arguments") :
    (convert source tree).list = some (enclosing source tree.kind tree.span (convertAll source tree.children)) := by
  rw [list_convert, buildList, if_pos hkind]

lemma list_of_parameters (hkind : tree.kind = "formal_parameters") :
    (convert source tree).list = some (parameters source tree.span (convertAll source tree.children)) := by
  rw [list_convert, buildList, if_neg (by rw [hkind]; decide), if_pos hkind]

/-! ### Nodes -/

lemma node_of_arrow (hkind : tree.kind = "arrow_function") : (convert source tree).node =
    (arrow? source tree.span (convertAll source tree.children)).or
      (verbatim? source tree.kind tree.span (convertAll source tree.children)) := by
  rw [node_convert, build, if_neg (by rw [hkind]; decide), if_pos hkind]

lemma node_of_call (hkind : tree.kind = "call_expression") : (convert source tree).node =
    (call? source tree.span (convertAll source tree.children)).or
      (verbatim? source tree.kind tree.span (convertAll source tree.children)) := by
  rw [node_convert, build, if_neg (by rw [hkind]; decide), if_neg (by rw [hkind]; decide), if_neg (by rw [hkind]; decide),
    if_pos hkind]

lemma node_of_template (hkind : tree.kind = "template_string") : (convert source tree).node =
    some (verbatim source tree.kind tree.span (convertAll source tree.children) true) := by
  rw [node_convert, build, if_neg (by rw [hkind]; decide), if_neg (by rw [hkind]; decide), if_neg (by rw [hkind]; decide),
    if_neg (by rw [hkind]; decide), if_neg (by rw [hkind]; decide), if_neg (by rw [hkind]; decide), if_pos hkind]

section Found

variable {span : Span} {children : List Child} {node : Node}

lemma arrow?_eq_some (h : arrow? source span children = some node) : ∃ params body,
    ((childAt children "parameter").map fun child =>
      read source child.1.span (.parameters [.node (nodeOf source child)] none)).or
        (listAt children "parameters") = some params ∧
    nodeAt source children "body" = some body ∧
    node = read source span (.arrowFunction {
      params, body
      isAsync := OfTree.hasToken children "async"
      typeParameters := nodeAt source children "type_parameters"
      returnType := nodeAt source children "return_type" }) := by
  obtain ⟨params, hparams, h⟩ := Option.bind_eq_some_iff.mp h
  obtain ⟨body, hbody, h⟩ := Option.bind_eq_some_iff.mp h
  cases h
  exact ⟨params, body, hparams, hbody, rfl⟩

lemma call?_eq_some (h : call? source span children = some node) : ∃ callee arguments list,
    childAt children "function" = some callee ∧ childAt children "arguments" = some arguments ∧
    arguments.1.kind = "arguments" ∧ arguments.2.list = some list ∧
    node = read source span (.call (nodeOf source callee) list (nodeAt source children "type_arguments")) := by
  obtain ⟨callee, hcallee, h⟩ := Option.bind_eq_some_iff.mp h
  obtain ⟨⟨arguments, conversion⟩, harguments, h⟩ := Option.bind_eq_some_iff.mp h
  dsimp only at h
  split at h
  · next hkind =>
    obtain ⟨list, hlist, h⟩ := Option.bind_eq_some_iff.mp h
    cases h
    exact ⟨callee, _, list, hcallee, harguments, of_decide_eq_true (Bool.and_eq_true_iff.mp hkind).1, hlist, rfl⟩
  · cases h

end Found

/-! ### Functions and calls -/

section Shapes

variable (h : HasShape source tree) (hnamed : tree.isNamed = true)
include h hnamed

lemma HasShape.arrowShape (hkind : tree.kind = "arrow_function") :
    PlaysRoles arrowRoles tree.children ∧ ∀ child ∈ tree.children, IsArrowPart source child :=
  h.shaped_of_kind hnamed hkind

lemma HasShape.functionShape (hkind : tree.kind ∈ functionKinds ++ declarationKinds) :
    PlaysRoles functionRoles tree.children ∧ ∀ child ∈ tree.children, IsFunctionPart child := by
  simp only [functionKinds, declarationKinds, List.cons_append, List.nil_append, List.mem_cons, List.not_mem_nil,
    or_false] at hkind
  rcases hkind with hkind | hkind | hkind | hkind | hkind
  all_goals exact h.shaped_of_kind hnamed hkind

lemma HasShape.callShape (hkind : tree.kind = "call_expression") : PlaysRoles callRoles tree.children :=
  h.shaped_of_kind hnamed hkind

/-- An arrow function becomes one. -/
lemma arrow?_isSome (hkind : tree.kind = "arrow_function") :
    (arrow? source tree.span (convertAll source tree.children)).isSome = true := by
  obtain ⟨hplays, hparts⟩ := h.arrowShape hnamed hkind
  obtain ⟨body, hbody, hbodyRole⟩ := hplays.exists_role "body" (by decide)
  have hbodyAt := hplays.nodeAt source (by decide) hbody hbodyRole
  have hparams : ((childAt (convertAll source tree.children) "parameter").isSome ||
      (listAt (convertAll source tree.children) "parameters").isSome) = true := by
    have hroles : "parameter" ∈ rolesOf tree.children ∨ "parameters" ∈ rolesOf tree.children :=
      (by decide : ∀ list ∈ arrowRoles, "parameter" ∈ list ∨ "parameters" ∈ list) _ hplays.mem
    rw [Bool.or_eq_true]
    refine hroles.imp (fun hmem => ?_) fun hmem => ?_
    · obtain ⟨part, hpart, hrole⟩ := List.mem_filterMap.mp hmem
      rw [hplays.childAt source (by decide) hpart hrole]
      rfl
    · obtain ⟨part, hpart, hrole⟩ := List.mem_filterMap.mp hmem
      rw [hplays.listAt source (by decide) hpart hrole, list_of_parameters ((hparts part hpart).parameters hrole)]
      rfl
  unfold arrow?
  cases hsingle : childAt (convertAll source tree.children) "parameter" with
  | some single =>
    rw [hbodyAt]
    rfl
  | none =>
    rw [hsingle, Option.isSome_none, Bool.false_or] at hparams
    obtain ⟨list, hlist⟩ := Option.isSome_iff_exists.mp hparams
    rw [hbodyAt, hlist]
    rfl

/-- A function with a keyword becomes one. -/
lemma function?_isSome (hkind : tree.kind ∈ functionKinds ++ declarationKinds) :
    (function? source (convertAll source tree.children)).isSome = true := by
  obtain ⟨hplays, hparts⟩ := h.functionShape hnamed hkind
  obtain ⟨part, hpart, hrole⟩ := hplays.exists_role "parameters" (by decide)
  rw [function?, hplays.listAt source (by decide) hpart hrole, list_of_parameters ((hparts part hpart).parameters hrole)]
  rfl

/-- A call becomes one if it has a list of arguments and takes place in any case. -/
lemma call?_isSome {list : Tree} (hkind : tree.kind = "call_expression") (hoptional : tree.hasToken "?." = false)
    (hlist : list ∈ tree.children) (hrole : list.field = some "arguments") (harguments : list.kind = "arguments") :
    (call? source tree.span (convertAll source tree.children)).isSome = true := by
  have hplays := h.callShape hnamed hkind
  obtain ⟨callee, hcallee, hcalleeRole⟩ := hplays.exists_role "function" (by decide)
  have hcalleeAt := hplays.childAt source (by decide) hcallee hcalleeRole
  have hlistAt := hplays.childAt source (by decide) hlist hrole
  unfold call?
  rw [hcalleeAt, hlistAt]
  simp only [Option.bind_eq_bind, Option.bind_some]
  rw [if_pos, list_of_arguments harguments]
  · rfl
  · rw [hasToken_convertAll, hoptional, harguments]
    rfl

end Shapes

end RouteMigration.Proofs
