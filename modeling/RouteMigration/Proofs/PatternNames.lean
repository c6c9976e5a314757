import RouteMigration.Proofs.ConvertedTrees
import RouteMigration.Proofs.GrammarRules
import RouteMigration.Route.Parameters

/-!
# Names in patterns

The names in a pattern, by the roles of its constructs: those that it binds, and those that its computed keys,
decorators and members mention. They are the names that are found in the node of the pattern, although the node
does not tell one role from another.
-/

namespace RouteMigration.Proofs
open Syntax Grammar OfTree Route

variable (source : List Char)

/-! ### Mentions -/

/-- A name in a pattern. -/
structure Mention where
  name : String
  /-- The pattern binds it. -/
  isBound : Bool

/-- The child of a construct of the kind is a pattern, not a key or a decorator. -/
def holdsPattern (kind : String) (child : Tree) : Bool :=
  if kind = "pair_pattern" then child.field = some "value"
  else if kind ∈ assignmentKinds then child.field = some "left"
  else if kind ∈ parameterKinds then child.field = some "pattern"
  else true

/-- Nothing that follows the child can bind a name: a type and a default value do not. -/
def isLastPattern (kind : String) (child : Tree) : Bool :=
  kind ∈ defaultedKinds && holdsPattern kind child

/-- The names that are found in a construct that is no pattern. -/
def strays (tree : Tree) : List Mention :=
  (bindingNames (nodeOf source (tree, convert source tree))).map fun name => ⟨name, false⟩

mutual

/-- The names in a pattern, in the order of the source. -/
def mentions : Tree → List Mention
  | .mk kind named field span children =>
    if kind ∈ nameKinds then [⟨slice source span.start span.stop, true⟩]
    else if kind ∈ patternKinds then mentionsIn kind children
    else strays source (.mk kind named field span children)

/-- The names in the children of a construct of the kind. -/
def mentionsIn (kind : String) : List Tree → List Mention
  | [] => []
  | child :: rest =>
    (if child.isNamed then if holdsPattern kind child then mentions child else strays source child else []) ++
      (if isLastPattern kind child then [] else mentionsIn kind rest)

end

mutual

/-- The names that a pattern binds, in the order of the source. -/
def namesBound : Tree → List String
  | .mk kind _ _ span children =>
    if kind ∈ nameKinds then [slice source span.start span.stop]
    else if kind ∈ patternKinds then namesBoundIn kind children
    else []

def namesBoundIn (kind : String) : List Tree → List String
  | [] => []
  | child :: rest =>
    (if child.isNamed && holdsPattern kind child then namesBound child else []) ++
      (if isLastPattern kind child then [] else namesBoundIn kind rest)

end

/-- The names of the mentions that are bound. -/
def boundOf (mentions : List Mention) : List String :=
  (mentions.filter Mention.isBound).map Mention.name

lemma boundOf_append (a b : List Mention) : boundOf (a ++ b) = boundOf a ++ boundOf b := by
  rw [boundOf, List.filter_append, List.map_append]
  rfl

lemma boundOf_strays (tree : Tree) : boundOf (strays source tree) = [] := by
  rw [boundOf, strays, List.filter_map, List.map_eq_nil_iff, List.map_eq_nil_iff, List.filter_eq_nil_iff]
  exact fun _ _ (h : false = true) => nomatch h

lemma map_name_strays (tree : Tree) :
    (strays source tree).map Mention.name = bindingNames (nodeOf source (tree, convert source tree)) := by
  rw [strays, List.map_map]
  exact List.map_id _

mutual

/-- The mentions that are bound are the names that the roles make the pattern bind. -/
theorem boundOf_mentions : ∀ tree, boundOf (mentions source tree) = namesBound source tree
  | .mk kind named field span children => by
    rw [mentions, namesBound]
    split
    · rfl
    · split
      · exact boundOf_mentionsIn kind children
      · exact boundOf_strays source _

theorem boundOf_mentionsIn (kind : String) : ∀ trees,
    boundOf (mentionsIn source kind trees) = namesBoundIn source kind trees
  | [] => rfl
  | child :: rest => by
    have hchild : boundOf (if child.isNamed then
        if holdsPattern kind child then mentions source child else strays source child else []) =
        if child.isNamed && holdsPattern kind child then namesBound source child else [] := by
      cases child.isNamed with
      | false => rfl
      | true =>
        cases holdsPattern kind child with
        | false => exact boundOf_strays source child
        | true => exact boundOf_mentions child
    have hrest : boundOf (if isLastPattern kind child then [] else mentionsIn source kind rest) =
        if isLastPattern kind child then [] else namesBoundIn source kind rest := by
      cases isLastPattern kind child with
      | false => exact boundOf_mentionsIn kind rest
      | true => rfl
    rw [mentionsIn, namesBoundIn, boundOf_append, hchild, hrest]

end

/-! ### Text between nodes -/

variable {source}

lemma mem_slice {c : Char} {start stop : Nat} :
    c ∈ (slice source start stop).toList ↔ ∃ i, start ≤ i ∧ i < stop ∧ source[i]? = some c := by
  rw [slice, String.toList_ofList, List.mem_iff_getElem?]
  constructor
  · rintro ⟨i, hi⟩
    rw [List.getElem?_take] at hi
    split at hi
    · rw [List.getElem?_drop] at hi
      exact ⟨start + i, by omega, by omega, hi⟩
    · cases hi
  · rintro ⟨i, hstart, hstop, hi⟩
    refine ⟨i - start, ?_⟩
    rw [List.getElem?_take_of_lt (by omega), List.getElem?_drop, show start + (i - start) = i by omega]
    exact hi

/-- What a stretch of the source holds is in every stretch around it. -/
lemma mem_slice_of_within {c : Char} {start stop start' stop' : Nat} (h : c ∈ (slice source start stop).toList)
    (hstart : start' ≤ start) (hstop : stop ≤ stop') : c ∈ (slice source start' stop').toList := by
  obtain ⟨i, hi, hi', hc⟩ := mem_slice.mp h
  exact mem_slice.mpr ⟨i, by omega, by omega, hc⟩

variable (source) in
/-- The names in the nodes as far as the text between them has no equals sign. -/
def namesBefore (start stop : Nat) (nodes : List (Span × Node)) : List String :=
  ((nodesOf ((partsFrom source start stop nodes).takeWhile isBeforeDefault)).map bindingNames).flatten

lemma nodesOf_takeWhile_textPart (start stop : Nat) :
    nodesOf ((textPart source start stop).takeWhile isBeforeDefault) = [] := by
  unfold textPart
  dsimp only
  split
  · rfl
  · rw [List.takeWhile_cons]
    split <;> rfl

lemma namesBefore_nil (start stop : Nat) : namesBefore source start stop [] = [] := by
  rw [namesBefore, partsFrom, nodesOf_takeWhile_textPart]
  rfl

lemma namesBefore_hidden {start stop : Nat} {span : Span} {node : Node} {rest : List (Span × Node)}
    (h : '=' ∈ (slice source start span.start).toList) :
    namesBefore source start stop ((span, node) :: rest) = [] := by
  have htext : textPart source start span.start = [.text (slice source start span.start)] := by
    unfold textPart
    refine if_neg fun hempty => ?_
    rw [hempty] at h
    cases h
  have hbefore : isBeforeDefault (Piece.text (slice source start span.start) : Piece Node) = false := by
    rw [isBeforeDefault, List.contains_iff_mem.mpr h]
    rfl
  rw [namesBefore, partsFrom, htext, List.cons_append, List.takeWhile_cons_of_neg (by rw [hbefore]; exact Bool.false_ne_true)]
  rfl

lemma namesBefore_cons {start stop : Nat} {span : Span} {node : Node} {rest : List (Span × Node)}
    (h : '=' ∉ (slice source start span.start).toList) :
    namesBefore source start stop ((span, node) :: rest) =
      bindingNames node ++ namesBefore source span.stop stop rest := by
  have htext : ∀ part ∈ textPart source start span.start, isBeforeDefault part = true := by
    intro part hpart
    unfold textPart at hpart
    dsimp only at hpart
    split at hpart
    · cases hpart
    · rw [List.mem_singleton.mp hpart, isBeforeDefault, Bool.not_eq_true', Bool.eq_false_iff]
      exact fun hcontains => h (List.contains_iff_mem.mp hcontains)
  rw [namesBefore, partsFrom, List.takeWhile_append_of_pos htext, List.takeWhile_cons_of_pos rfl, nodesOf,
    List.filterMap_append, ← nodesOf, nodesOf_textPart, List.nil_append, List.filterMap_cons_some (by rfl)]
  rfl

/-! ### Names of children -/

lemma bindingParts_map {α β : Type} (f : α → β) (kind : String) (parts : List (Piece α)) :
    bindingParts kind (parts.map (·.map f)) = (bindingParts kind parts).map (·.map f) := by
  have hbefore : (isBeforeDefault ∘ (·.map f) : Piece α → Bool) = isBeforeDefault := by
    funext part
    cases part <;> rfl
  unfold bindingParts
  split
  · rfl
  · split
    · rw [List.takeWhile_map, hbefore]
    · rfl

lemma bindingNames_verbatim (info : Info) (kind : String) (parts : List (Piece Node)) (literal : Bool) :
    bindingNames ⟨info, .verbatim kind parts literal⟩ =
      ((nodesOf (bindingParts kind parts)).map bindingNames).flatten := by
  rw [bindingNames, Node.fold_mk, Form.map]
  dsimp only
  rw [bindingParts_map, nodesOf_map, List.map_map]
  rfl

lemma bindingParts_sublist {α : Type} (kind : String) (parts : List (Piece α)) : (bindingParts kind parts).Sublist parts := by
  unfold bindingParts
  split
  · exact List.nil_sublist parts
  · split
    · exact List.takeWhile_sublist _
    · exact List.Sublist.refl parts

/-- Plain text mentions nothing. -/
lemma bindingNames_text {info : Info} {kind : String} {parts : List (Piece Node)} {literal : Bool} (h : nodesOf parts = []) :
    bindingNames ⟨info, .verbatim kind parts literal⟩ = [] := by
  have hnodes : nodesOf (bindingParts kind parts) = [] := by
    have hsublist : (nodesOf (bindingParts kind parts)).Sublist (nodesOf parts) :=
      (bindingParts_sublist kind parts).filterMap Piece.node?
    rw [h] at hsublist
    exact List.eq_nil_of_sublist_nil hsublist
  rw [bindingNames_verbatim, hnodes]
  rfl

variable (source) in
/-- The names in a child, if it is a construct. -/
def childNames (child : Tree) : List String :=
  if child.isNamed then bindingNames (nodeOf source (child, convert source child)) else []

variable (source) in
/-- A child either is text without names, or it becomes a node. -/
lemma converted_cons (child : Tree) (rest : List Tree) :
    (converted (convertAll source (child :: rest)) = converted (convertAll source rest) ∧ childNames source child = []) ∨
    ∃ node, child.isNamed = true ∧ childNames source child = bindingNames node ∧
      converted (convertAll source (child :: rest)) = (child.span, node) :: converted (convertAll source rest) := by
  have hstep : converted (convertAll source (child :: rest)) =
      (if child.isNamed then (convert source child).node.map (child.span, ·) else none).toList ++
        converted (convertAll source rest) := by
    rw [convertAll, converted, List.filterMap_cons]
    dsimp only
    generalize (if child.isNamed then (convert source child).node.map (child.span, ·) else none) = found
    cases found <;> rfl
  rw [hstep, childNames, nodeOf]
  cases hnamed : child.isNamed with
  | false => exact .inl ⟨rfl, rfl⟩
  | true =>
    cases (convert source child).node with
    | none => exact .inl ⟨rfl, bindingNames_text rfl⟩
    | some node => exact .inr ⟨node, rfl, rfl, rfl⟩

variable (source) in
lemma names_converted (children : List Tree) :
    ((converted (convertAll source children)).map fun entry => bindingNames entry.2).flatten =
      children.flatMap (childNames source) := by
  induction children with
  | nil => rfl
  | cons child rest ih =>
    rw [List.flatMap_cons, ← ih]
    rcases converted_cons source child rest with ⟨hrest, hnames⟩ | ⟨node, -, hnames, hrest⟩
    · rw [hrest, hnames, List.nil_append]
    · rw [hrest, hnames, List.map_cons, List.flatten_cons]

/-! ### Constructs of text and nodes -/

/-- Constructs that become more than text around nodes. -/
def specialKinds : List String :=
  identifierKinds ++ functionKinds ++
    ["arrow_function", "call_expression", "comment", "parenthesized_expression", "template_string"]

lemma build_plain {kind : String} (h : kind ∉ specialKinds) (span : Span) (children : List Child) :
    build source kind span children = verbatim? source kind span children := by
  simp only [specialKinds, List.mem_append, List.mem_cons, List.not_mem_nil, or_false, not_or] at h
  obtain ⟨⟨hidentifier, hfunction⟩, harrow, hcall, hcomment, hparenthesized, htemplate⟩ := h
  rw [build, if_neg hidentifier, if_neg harrow, if_neg hfunction, if_neg hcall, if_neg hcomment,
    if_neg hparenthesized, if_neg htemplate]

variable (source) in
/-- The names in such a construct are those in the nodes that can bind any. -/
lemma bindingNames_construct {tree : Tree} (h : tree.kind ∉ specialKinds) :
    bindingNames (nodeOf source (tree, convert source tree)) =
      ((nodesOf (bindingParts tree.kind (partsFrom source tree.start tree.stop
        (converted (convertAll source tree.children))))).map bindingNames).flatten := by
  obtain ⟨kind, named, field, span, children⟩ := tree
  have hbuild : build source kind span (convertAll source children) = verbatim? source kind span (convertAll source children) :=
    build_plain h span (convertAll source children)
  rw [nodeOf, convert]
  dsimp only
  rw [hbuild, verbatim?]
  split
  · next hempty =>
    have hparts : nodesOf (partsFrom source span.start span.stop (converted (convertAll source children))) = [] := by
      rw [nodesOf_partsFrom, List.isEmpty_iff.mp hempty]
      rfl
    have hnames := @bindingNames_text {} kind _ false hparts
    rw [bindingNames_verbatim] at hnames
    exact (bindingNames_text rfl).trans hnames.symm
  · exact bindingNames_verbatim ..

/-- The names in a construct that has neither type nor default value. -/
lemma bindingNames_group {tree : Tree} (h : tree.kind ∉ specialKinds) (htype : tree.kind ∉ typeAnnotationKinds)
    (hdefault : tree.kind ∉ defaultedKinds) :
    bindingNames (nodeOf source (tree, convert source tree)) = tree.children.flatMap (childNames source) := by
  rw [bindingNames_construct source h, bindingParts, if_neg htype, if_neg hdefault, nodesOf_partsFrom, List.map_map]
  exact names_converted source tree.children

/-- Types have no names. -/
lemma childNames_type {tree : Tree} (h : tree.kind = "type_annotation") : childNames source tree = [] := by
  have hkind : tree.kind ∉ specialKinds := by
    rw [h]
    decide
  unfold childNames
  split
  · rw [bindingNames_construct source hkind, bindingParts, if_pos (by rw [h]; decide)]
    rfl
  · rfl

/-! ### Default values -/

/-- The equals sign between an offset and the default value. -/
lemma mem_slice_equals {start stop stop' : Nat} {equals child : Tree} {right : List Tree}
    (hnested : Tree.areNested start stop (equals :: right) = true) (htext : textOf source equals = "=")
    (hchild : child ∈ right) (hstart : stop' ≤ start) : '=' ∈ (slice source stop' child.start).toList := by
  obtain ⟨hequals, -, hrest⟩ := areNested_cons hnested
  have hafter : equals.stop ≤ child.span.start := (within_of_areNested hrest hchild).1.start
  have hsign : '=' ∈ (slice source equals.start equals.stop).toList := by
    rw [show slice source equals.start equals.stop = "=" from htext]
    decide
  exact mem_slice_of_within hsign (by omega) hafter

lemma mem_converted {children : List Tree} {span : Span} {node : Node}
    (h : (span, node) ∈ converted (convertAll source children)) : ∃ child ∈ children, span = child.span := by
  induction children with
  | nil => cases h
  | cons child rest ih =>
    have hlater (h : (span, node) ∈ converted (convertAll source rest)) : ∃ tree ∈ child :: rest, span = tree.span := by
      obtain ⟨tree, htree, hspan⟩ := ih h
      exact ⟨tree, List.mem_cons_of_mem _ htree, hspan⟩
    rcases converted_cons source child rest with ⟨hrest, -⟩ | ⟨_, -, -, hrest⟩
    · exact hlater (hrest ▸ h)
    · rw [hrest] at h
      rcases List.mem_cons.mp h with heq | h
      · cases heq
        exact ⟨child, List.mem_cons_self .., rfl⟩
      · exact hlater h

/-- Types have no names, and an equals sign hides the default value. -/
lemma namesBefore_rest {start start' stop : Nat} {types value : List Tree}
    (hnested : Tree.areNested start' stop (types ++ value) = true) (hstart : start ≤ start')
    (htext : ∀ child ∈ value, child.isNamed = false → textOf source child = child.kind)
    (htypes : ∀ child ∈ types, child.isNamed = false ∨ child.kind = "type_annotation")
    (hvalue : value = [] ∨ StartsWithEquals value) :
    namesBefore source start stop (converted (convertAll source (types ++ value))) = [] := by
  induction types generalizing start start' with
  | nil =>
    rw [List.nil_append] at hnested ⊢
    rcases hvalue with rfl | ⟨equals, right, rfl, hequals, hunnamed⟩
    · exact namesBefore_nil start stop
    · have hsign : textOf source equals = "=" := (htext equals (List.mem_cons_self ..) hunnamed).trans hequals
      rcases converted_cons source equals right with ⟨hskip, -⟩ | ⟨node, hnamed, -, -⟩
      · rw [hskip]
        cases hconverted : converted (convertAll source right) with
        | nil => exact namesBefore_nil start stop
        | cons entry rest =>
          obtain ⟨span, node⟩ := entry
          obtain ⟨child, hchild, rfl⟩ : ∃ child ∈ right, span = child.span :=
            mem_converted (hconverted ▸ List.mem_cons_self ..)
          exact namesBefore_hidden (mem_slice_equals hnested hsign hchild hstart)
      · rw [hunnamed] at hnamed
        cases hnamed
  | cons child types ih =>
    obtain ⟨hchild, hchildNested, hrest⟩ := areNested_cons hnested
    obtain ⟨htype, htypes⟩ := List.forall_mem_cons.mp htypes
    have hspan := (isNested_children hchildNested).1
    rcases converted_cons source child (types ++ value) with ⟨hskip, -⟩ | ⟨node, -, hnames, hskip⟩
    · rw [List.cons_append, hskip]
      exact ih hrest (by omega) htypes
    · have hnone : childNames source child = [] := by
        rcases htype with hunnamed | htype
        · rw [childNames, hunnamed]
          rfl
        · exact childNames_type htype
      rw [List.cons_append, hskip]
      by_cases hsign : '=' ∈ (slice source start child.span.start).toList
      · exact namesBefore_hidden hsign
      · rw [namesBefore_cons hsign, ← hnames, hnone, List.nil_append]
        exact ih hrest (Nat.le_refl _) htypes

/-- In front of a default value stand the names of the pattern and of what is before it, unless there is an equals sign
in front of the pattern. -/
lemma namesBefore_front {start start' stop : Nat} {front right : List Tree} {pattern : Tree}
    (hnested : Tree.areNested start' stop (front ++ pattern :: right) = true) (hstart : start ≤ start')
    (hplain : '=' ∉ (slice source start pattern.start).toList)
    (hright : ∀ before ≤ pattern.stop, namesBefore source before stop (converted (convertAll source right)) = []) :
    namesBefore source start stop (converted (convertAll source (front ++ pattern :: right))) =
      (front ++ [pattern]).flatMap (childNames source) := by
  induction front generalizing start start' with
  | nil =>
    obtain ⟨hpattern, hpatternNested, -⟩ := areNested_cons hnested
    have hspan := (isNested_children hpatternNested).1
    rw [List.nil_append, List.nil_append, List.flatMap_singleton]
    rcases converted_cons source pattern right with ⟨hskip, hnames⟩ | ⟨node, -, hnames, hskip⟩
    · rw [hskip, hnames]
      exact hright start (by omega)
    · have hnone := hright pattern.span.stop (Nat.le_refl _)
      rw [hskip, hnames, namesBefore_cons hplain, hnone, List.append_nil]
  | cons child front ih =>
    obtain ⟨hchild, hchildNested, hrest⟩ := areNested_cons hnested
    have hspan : child.span.start ≤ child.span.stop := (isNested_children hchildNested).1
    have hafter : start ≤ child.span.start := Nat.le_trans hstart hchild
    have hbefore : child.span.stop ≤ pattern.start :=
      (within_of_areNested hrest (List.mem_append_right _ (List.mem_cons_self ..))).1.start
    rw [List.cons_append, List.cons_append, List.flatMap_cons]
    rcases converted_cons source child (front ++ pattern :: right) with ⟨hskip, hnames⟩ | ⟨node, -, hnames, hskip⟩
    · rw [hskip, hnames, List.nil_append]
      exact ih hrest (Nat.le_trans hafter hspan) hplain
    · have hgap : '=' ∉ (slice source start child.span.start).toList := fun h =>
        hplain (mem_slice_of_within h (Nat.le_refl _) (Nat.le_trans hspan hbefore))
      have hlater : '=' ∉ (slice source child.span.stop pattern.start).toList := fun h =>
        hplain (mem_slice_of_within h (Nat.le_trans hafter hspan) (Nat.le_refl _))
      have hrestNames : namesBefore source child.span.stop stop (converted (convertAll source (front ++ pattern :: right))) =
          (front ++ [pattern]).flatMap (childNames source) := ih hrest (Nat.le_refl _) hlater
      rw [hskip, hnames, namesBefore_cons hgap, hrestNames]

lemma areNested_append_right {start stop : Nat} {front right : List Tree}
    (h : Tree.areNested start stop (front ++ right) = true) : ∃ middle, Tree.areNested middle stop right = true := by
  induction front generalizing start with
  | nil => exact ⟨start, h⟩
  | cons tree front ih => exact ih (areNested_cons h).2.2

/-- The names in a construct with a type or a default value. -/
lemma bindingNames_defaulted {tree pattern : Tree} {front types value : List Tree} (hkind : tree.kind ∈ defaultedKinds)
    (hnested : tree.isNested = true)
    (htext : ∀ child ∈ tree.children, child.isNamed = false → textOf source child = child.kind)
    (hchildren : tree.children = front ++ pattern :: (types ++ value))
    (hplain : '=' ∉ (slice source tree.start pattern.start).toList)
    (htypes : ∀ child ∈ types, child.isNamed = false ∨ child.kind = "type_annotation")
    (hvalue : value = [] ∨ StartsWithEquals value) :
    bindingNames (nodeOf source (tree, convert source tree)) = (front ++ [pattern]).flatMap (childNames source) := by
  have hspecial : ∀ kind ∈ defaultedKinds, kind ∉ specialKinds ∧ kind ∉ typeAnnotationKinds := by decide
  have hareNested : Tree.areNested tree.start tree.stop (front ++ pattern :: (types ++ value)) = true :=
    hchildren ▸ (isNested_children hnested).2
  obtain ⟨middle, hpattern⟩ := areNested_append_right hareNested
  have hright : Tree.areNested pattern.stop tree.stop (types ++ value) = true := (areNested_cons hpattern).2.2
  have htokens : ∀ child ∈ value, child.isNamed = false → textOf source child = child.kind := by
    intro child hchild
    refine htext child ?_
    rw [hchildren]
    exact List.mem_append_right _ (List.mem_cons_of_mem _ (List.mem_append_right _ hchild))
  rw [bindingNames_construct source (hspecial _ hkind).1, bindingParts, if_neg (hspecial _ hkind).2, if_pos hkind, hchildren]
  exact namesBefore_front hareNested (Nat.le_refl _) hplain fun start hstart =>
    namesBefore_rest hright hstart htokens htypes hvalue

/-! ### Patterns -/

variable (source) in
/-- The names that are found in the node of a pattern are the mentions in the pattern. -/
def FindsMentions (tree : Tree) : Prop :=
  bindingNames (nodeOf source (tree, convert source tree)) = (mentions source tree).map Mention.name

lemma map_name_child {kind : String} {child : Tree}
    (h : child.isNamed = true → holdsPattern kind child = true → FindsMentions source child) :
    (if child.isNamed then if holdsPattern kind child then mentions source child else strays source child else []).map
      Mention.name = childNames source child := by
  unfold childNames
  cases hnamed : child.isNamed with
  | false => rfl
  | true =>
    cases hholds : holdsPattern kind child with
    | false => exact map_name_strays source child
    | true => exact (h hnamed hholds).symm

/-- A construct without a default value mentions the names in all of its children. -/
lemma map_name_group {kind : String} {children : List Tree} (hkind : kind ∉ defaultedKinds)
    (h : ∀ child ∈ children, child.isNamed = true → holdsPattern kind child = true → FindsMentions source child) :
    (mentionsIn source kind children).map Mention.name = children.flatMap (childNames source) := by
  have hlast (child : Tree) : isLastPattern kind child = false := by
    rw [isLastPattern, decide_eq_false hkind]
    rfl
  induction children with
  | nil => rfl
  | cons child rest ih =>
    obtain ⟨hchild, hrest⟩ := List.forall_mem_cons.mp h
    rw [mentionsIn, hlast, List.map_append, map_name_child hchild, List.flatMap_cons, ← ih hrest]
    rfl

/-- Any other mentions the names in its children up to the pattern. -/
lemma map_name_defaulted {kind : String} {front right : List Tree} {pattern : Tree} (hkind : kind ∈ defaultedKinds)
    (hfront : ∀ child ∈ front, holdsPattern kind child = false) (hholds : holdsPattern kind pattern = true)
    (h : FindsMentions source pattern) :
    (mentionsIn source kind (front ++ pattern :: right)).map Mention.name =
      (front ++ [pattern]).flatMap (childNames source) := by
  have hlast (child : Tree) : isLastPattern kind child = holdsPattern kind child := by
    rw [isLastPattern, decide_eq_true hkind]
    rfl
  induction front with
  | nil =>
    have hnames := @map_name_child source kind pattern fun _ _ => h
    rw [hholds] at hnames
    rw [List.nil_append, List.nil_append, List.flatMap_singleton, mentionsIn, hlast, hholds, List.map_append, hnames]
    exact List.append_nil _
  | cons child front ih =>
    obtain ⟨hchild, hfront⟩ := List.forall_mem_cons.mp hfront
    have hnames := @map_name_child source kind child fun _ hholds => absurd hholds (by rw [hchild]; nofun)
    rw [hchild] at hnames
    rw [List.cons_append, List.cons_append, List.flatMap_cons, mentionsIn, hlast, hchild, List.map_append, hnames, ← ih hfront]
    rfl

/-- The constructs that hold patterns. -/
lemma patternKinds_spec : ∀ kind ∈ patternKinds, kind ∉ nameKinds →
    kind ∉ specialKinds ∧ kind ∉ typeAnnotationKinds := by
  decide

variable (source) in
lemma mentions_eq (tree : Tree) : mentions source tree =
    if tree.kind ∈ nameKinds then [⟨textOf source tree, true⟩]
    else if tree.kind ∈ patternKinds then mentionsIn source tree.kind tree.children
    else strays source tree := by
  obtain ⟨kind, named, field, span, children⟩ := tree
  rw [mentions]
  rfl

lemma mentions_construct {tree : Tree} (hkind : tree.kind ∈ patternKinds) (hname : tree.kind ∉ nameKinds) :
    mentions source tree = mentionsIn source tree.kind tree.children := by
  rw [mentions_eq, if_neg hname, if_pos hkind]

lemma findsMentions_name {tree : Tree} (h : tree.kind ∈ nameKinds) : FindsMentions source tree := by
  have hspec : ∀ kind ∈ nameKinds, kind ∈ identifierKinds ∧ kind ≠ "type_identifier" := by decide
  obtain ⟨hidentifier, htype⟩ := hspec tree.kind h
  rw [FindsMentions, mentions_eq, if_pos h, nodeOf]
  dsimp only
  rw [node_convert, build, if_pos hidentifier, decide_eq_false htype, Option.getD_some, OfTree.read, bindingNames,
    Node.fold_mk]
  rfl

lemma findsMentions_target {tree : Tree} (h : tree.kind ∉ patternKinds) : FindsMentions source tree := by
  have hname : tree.kind ∉ nameKinds := fun hname =>
    h (List.mem_append_left _ (List.mem_append_left _ (List.mem_append_left _ (List.mem_append_left _ hname))))
  rw [FindsMentions, mentions_eq, if_neg hname, if_neg h, map_name_strays]

lemma findsMentions_group {tree : Tree} (hkind : tree.kind ∈ patternKinds) (hname : tree.kind ∉ nameKinds)
    (hdefault : tree.kind ∉ defaultedKinds)
    (h : ∀ child ∈ tree.children, child.isNamed = true → holdsPattern tree.kind child = true →
      FindsMentions source child) : FindsMentions source tree := by
  obtain ⟨hspecial, htype⟩ := patternKinds_spec tree.kind hkind hname
  rw [FindsMentions, bindingNames_group hspecial htype hdefault, mentions_construct hkind hname, map_name_group hdefault h]

variable (source) in
/-- What holds of every construct of a source, for the construct and those in it. -/
structure IsWell (tree : Tree) : Prop where
  nested : tree.isNested = true
  built : Built source tree

lemma IsWell.child {tree child : Tree} (h : IsWell source tree) (hchild : child ∈ tree.children) : IsWell source child where
  nested := isNested_child h.nested hchild
  built := h.built.child hchild

lemma IsWell.shape {tree : Tree} (h : IsWell source tree) : HasShape source tree :=
  h.built.shape

/-- The node of a pattern has the names that the pattern mentions. -/
theorem findsMentions_pattern {tree : Tree} (h : IsPattern tree) (hwell : IsWell source tree) : FindsMentions source tree := by
  induction h with
  | name hkind => exact findsMentions_name hkind
  | target hkind => exact findsMentions_target hkind
  | @group tree hkind _ ih =>
    have hspec : ∀ kind ∈ groupKinds, kind ∈ patternKinds ∧ kind ∉ nameKinds ∧ kind ∉ defaultedKinds := by decide
    obtain ⟨hpattern, hname, hdefault⟩ := hspec tree.kind hkind
    exact findsMentions_group hpattern hname hdefault fun child hchild hnamed _ =>
      ih child hchild hnamed (hwell.child hchild)
  | @pair tree hkind _ ih =>
    refine findsMentions_group (by rw [hkind]; decide) (by rw [hkind]; decide) (by rw [hkind]; decide)
      fun child hchild hnamed hholds => ih child hchild ?_ (hwell.child hchild)
    rw [hkind, holdsPattern, if_pos rfl] at hholds
    exact of_decide_eq_true hholds
  | @assignment tree left right hkind hchildren hstart _ hfield hright ih =>
    have hspec : ∀ kind ∈ assignmentKinds, kind ∈ patternKinds ∧ kind ∉ nameKinds ∧ kind ∈ defaultedKinds ∧
      kind ≠ "pair_pattern" := by decide
    obtain ⟨hpattern, hname, hdefault, hpair⟩ := hspec tree.kind hkind
    have hleft : left ∈ tree.children := by
      rw [hchildren]
      exact List.mem_cons_self ..
    have hplain : '=' ∉ (slice source tree.start left.start).toList := by
      intro hsign
      obtain ⟨i, hi, hi', -⟩ := mem_slice.mp hsign
      omega
    have hholds : holdsPattern tree.kind left = true := by
      rw [holdsPattern, if_neg hpair, if_pos hkind]
      exact decide_eq_true hfield
    have hnames : bindingNames (nodeOf source (tree, convert source tree)) = ([] ++ [left]).flatMap (childNames source) :=
      @bindingNames_defaulted source tree left [] [] right hdefault hwell.nested
        (fun child hchild => (hwell.child hchild).shape.token) hchildren hplain (List.forall_mem_nil _) (.inr hright)
    have hmentions : (mentionsIn source tree.kind ([] ++ left :: right)).map Mention.name =
        ([] ++ [left]).flatMap (childNames source) :=
      map_name_defaulted hdefault (List.forall_mem_nil _) hholds (ih (hwell.child hleft))
    rw [FindsMentions, mentions_construct hpattern hname, hchildren, hnames]
    exact hmentions.symm

/-- No equals sign is in front of the pattern of the parameter, as in a comment. -/
def HasPlainFront (source : List Char) (parameter : Tree) : Prop :=
  ∀ pattern ∈ parameter.children, pattern.field = some "pattern" →
    '=' ∉ (slice source parameter.start pattern.start).toList

/-- The node of a parameter has the names that the parameter mentions. -/
theorem findsMentions_parameter {tree : Tree} (h : IsParameter tree) (hwell : IsWell source tree)
    (hplain : HasPlainFront source tree) : FindsMentions source tree := by
  cases h with
  | @mk pattern front types value hkind hchildren hfront hpattern hfield htypes hvalue =>
    have hspec : ∀ kind ∈ parameterKinds, kind ∈ patternKinds ∧ kind ∉ nameKinds ∧ kind ∈ defaultedKinds ∧
      kind ≠ "pair_pattern" ∧ kind ∉ assignmentKinds := by decide
    obtain ⟨hpatternKind, hname, hdefault, hpair, hassignment⟩ := hspec tree.kind hkind
    have hholds (child : Tree) : holdsPattern tree.kind child = decide (child.field = some "pattern") := by
      rw [holdsPattern, if_neg hpair, if_neg hassignment, if_pos hkind]
    have hmem : pattern ∈ tree.children := by
      rw [hchildren]
      exact List.mem_append_right _ (List.mem_cons_self ..)
    rw [FindsMentions, mentions_construct hpatternKind hname]
    refine (bindingNames_defaulted hdefault hwell.nested (fun child hchild => (hwell.child hchild).shape.token) hchildren
      (hplain pattern hmem hfield) htypes hvalue).trans ?_
    rw [hchildren]
    refine (map_name_defaulted hdefault (fun child hchild => ?_) ?_ ?_).symm
    · rw [hholds]
      exact decide_eq_false (hfront child hchild)
    · rw [hholds]
      exact decide_eq_true hfield
    · exact findsMentions_pattern hpattern (hwell.child hmem)

end RouteMigration.Proofs
