import RouteMigration.Proofs.Openings

/-!
# Readers

What holds of the trees that the parts of a reader yield holds of those that it yields itself. So a property of all
constructs of a source is proved rule by rule: here for the readers that the rules are made of.
-/

namespace RouteMigration.Proofs
open Syntax Grammar OfTree

/-! ### Trees -/

/-- Names that a pattern binds. -/
def nameKinds : List String :=
  ["identifier", "shorthand_property_identifier_pattern"]

/-- Patterns that hold other patterns. -/
def groupKinds : List String :=
  ["object_pattern", "array_pattern", "rest_pattern"]

/-- A pattern with a default value. -/
def assignmentKinds : List String :=
  ["assignment_pattern", "object_assignment_pattern"]

def parameterKinds : List String :=
  ["required_parameter", "optional_parameter"]

def patternKinds : List String :=
  nameKinds ++ groupKinds ++ assignmentKinds ++ parameterKinds ++ ["pair_pattern"]

/-- The sign that sets a default value apart, and what follows it. -/
def StartsWithEquals (trees : List Tree) : Prop :=
  ∃ equals right, trees = equals :: right ∧ equals.kind = "=" ∧ equals.isNamed = false

/-- The shape of a pattern: a name, a target that binds nothing, or a construct around patterns. -/
inductive IsPattern : Tree → Prop where
  | name {tree : Tree} : tree.kind ∈ nameKinds → IsPattern tree
  | target {tree : Tree} : tree.kind ∉ patternKinds → IsPattern tree
  | group {tree : Tree} : tree.kind ∈ groupKinds →
      (∀ child ∈ tree.children, child.isNamed = true → IsPattern child) → IsPattern tree
  | pair {tree : Tree} : tree.kind = "pair_pattern" →
      (∀ child ∈ tree.children, child.field = some "value" → IsPattern child) → IsPattern tree
  | assignment {tree left : Tree} {right : List Tree} : tree.kind ∈ assignmentKinds → tree.children = left :: right →
      left.start = tree.start → IsPattern left → left.field = some "left" → StartsWithEquals right → IsPattern tree

/-- The shape of a parameter: a pattern below decorators and modifiers, with a type and a default value. -/
inductive IsParameter : Tree → Prop where
  | mk {tree pattern : Tree} {front types value : List Tree} : tree.kind ∈ parameterKinds →
      tree.children = front ++ pattern :: (types ++ value) → (∀ child ∈ front, child.field ≠ some "pattern") →
      IsPattern pattern → pattern.field = some "pattern" →
      (∀ child ∈ types, child.isNamed = false ∨ child.kind = "type_annotation") →
      (value = [] ∨ StartsWithEquals value) → IsParameter tree

/-- Neither spaces nor line breaks are at its ends. -/
structure IsSolid (text : List Char) : Prop where
  head : ∃ c ∈ text.head?, c ≠ '\n' ∧ Text.isIndentation c = false
  last : ∃ c ∈ text.getLast?, c ≠ '\n' ∧ Text.isIndentation c = false

/-- Names and comments, which have no constructs in them. -/
def bareKinds : List String :=
  "comment" :: identifierKinds

/-- What the parts of a function with a keyword are. -/
structure IsFunctionPart (child : Tree) : Prop where
  name : child.field = some "name" → child.kind = "identifier"
  parameters : child.field = some "parameters" → child.kind = "formal_parameters"
  body : child.field = some "body" → child.kind = "statement_block"

/-- A visible character is at the offset, or the end of the source. -/
def IsVisibleAt (source : List Char) (offset : Nat) : Prop :=
  ∀ c ∈ (source.drop offset).head?, IsVisible c

/-- What the parts of an arrow function are. -/
structure IsArrowPart (source : List Char) (child : Tree) : Prop where
  parameter : child.field = some "parameter" → child.kind = "identifier"
  parameters : child.field = some "parameters" → child.kind = "formal_parameters"
  body : child.field = some "body" → child.kind ≠ "object" ∧ IsVisibleAt source child.start

/-- The construct starts with the token. -/
def OpensWith (text : String) (tree : Tree) : Prop :=
  ∃ opening rest, tree.children = opening :: rest ∧ opening.kind = text ∧ opening.isNamed = false ∧
    opening.start = tree.start

/-- What the kind of a construct tells about it. -/
def KindShape (source : List Char) (tree : Tree) : Prop :=
  match tree.kind with
  | "string" => IsSolid (textOf source tree).toList
  | "regex" => IsSolid (textOf source tree).toList ∧ '\n' ∉ (textOf source tree).toList
  | "formal_parameters" =>
    OpensWith "(" tree ∧ ∀ child ∈ tree.children, child.isNamed = true → IsParameter child
  | "arrow_function" => PlaysRoles arrowRoles tree.children ∧ ∀ child ∈ tree.children, IsArrowPart source child
  | "function_expression" | "function" | "generator_function" | "function_declaration" |
      "generator_function_declaration" =>
    PlaysRoles functionRoles tree.children ∧ ∀ child ∈ tree.children, IsFunctionPart child
  | "call_expression" => PlaysRoles callRoles tree.children
  | "arguments" => OpensWith "(" tree
  | "object" | "statement_block" => OpensWith "\x7b" tree
  | "template_string" => OpensWith "\x60" tree
  | _ => True

/-- Kinds that tell something. -/
def shapedKinds : List String :=
  ["string", "regex", "formal_parameters", "arrow_function", "function_expression", "function", "generator_function",
    "function_declaration", "generator_function_declaration", "call_expression", "arguments", "object",
    "statement_block", "template_string"]

lemma kindShape_of_not_mem {source : List Char} {tree : Tree} (h : tree.kind ∉ shapedKinds) : KindShape source tree := by
  unfold KindShape
  split
  all_goals first
    | trivial
    | exact absurd (by decide) (‹tree.kind = _› ▸ h)

/-- What is known of a construct. -/
structure HasShape (source : List Char) (tree : Tree) : Prop where
  start : IsSeam source tree.start
  stop : IsSeam source tree.stop
  token : tree.isNamed = false → textOf source tree = tree.kind
  bare : tree.isNamed = false ∨ tree.kind ∈ bareKinds → tree.children = []
  name : tree.kind ∈ identifierKinds → tree.start < tree.stop ∧ '\n' ∉ (textOf source tree).toList
  shaped : tree.isNamed = true → KindShape source tree

namespace HasShape

variable {source : List Char} {tree : Tree} (h : HasShape source tree)
include h

lemma shaped_of_kind {kind : String} (hnamed : tree.isNamed = true) (hkind : tree.kind = kind) :
    KindShape source (.mk kind tree.isNamed tree.field tree.span tree.children) := by
  have hshape := h.shaped hnamed
  obtain ⟨own, named, field, span, children⟩ := tree
  cases hkind
  exact hshape

lemma string (hnamed : tree.isNamed = true) (hkind : tree.kind = "string") : IsSolid (textOf source tree).toList :=
  h.shaped_of_kind hnamed hkind

lemma regex (hnamed : tree.isNamed = true) (hkind : tree.kind = "regex") :
    IsSolid (textOf source tree).toList ∧ '\n' ∉ (textOf source tree).toList :=
  h.shaped_of_kind hnamed hkind

/-- A token has no children of which anything could be known. -/
lemma of_named {p : Tree → Prop} (hnamed : tree.isNamed = true → ∀ child ∈ tree.children, p child) :
    ∀ child ∈ tree.children, p child := by
  cases hnamed' : tree.isNamed with
  | true => exact hnamed hnamed'
  | false =>
    rw [h.bare (.inl hnamed')]
    exact List.forall_mem_nil _

lemma parameters (hkind : tree.kind = "formal_parameters") :
    ∀ child ∈ tree.children, child.isNamed = true → IsParameter child := by
  refine h.of_named fun hnamed => ?_
  have hshape : OpensWith "(" tree ∧ ∀ child ∈ tree.children, child.isNamed = true → IsParameter child :=
    h.shaped_of_kind hnamed hkind
  exact hshape.2

lemma arrow (hkind : tree.kind = "arrow_function") : ∀ child ∈ tree.children, child.field = some "parameter" →
    child.kind = "identifier" := by
  refine h.of_named fun hnamed child hchild => ?_
  have hshape : _ ∧ ∀ child ∈ tree.children, IsArrowPart source child := h.shaped_of_kind hnamed hkind
  exact (hshape.2 child hchild).parameter

end HasShape

/-- Every construct in the tree has its shape. -/
inductive Built (source : List Char) : Tree → Prop where
  | mk {tree : Tree} : HasShape source tree → (∀ child ∈ tree.children, Built source child) → Built source tree

lemma Built.shape {source : List Char} {tree : Tree} (h : Built source tree) : HasShape source tree := by
  cases h with
  | mk hshape _ => exact hshape

lemma Built.child {source : List Char} {tree child : Tree} (h : Built source tree) (hchild : child ∈ tree.children) :
    Built source child := by
  cases h with
  | mk _ hchildren => exact hchildren child hchild

/-! ### Values that are read -/

variable {source : List Char} {α β : Type}

variable (source) in
/-- From a place in the source, the reader comes to another one with a value of which the property holds. -/
def Yields (reader : Read α) (P : α → Prop) : Prop :=
  ∀ around cursor value after, IsPlace source cursor → reader around cursor = .ok (value, after) →
    IsPlace source after ∧ P value

lemma Yields.mono {reader : Read α} {P Q : α → Prop} (h : Yields source reader P) (hPQ : ∀ value, P value → Q value) :
    Yields source reader Q := by
  intro around cursor value after hplace hread
  obtain ⟨hafter, hvalue⟩ := h around cursor value after hplace hread
  exact ⟨hafter, hPQ value hvalue⟩

lemma Yields.and {reader : Read α} {P Q : α → Prop} (hP : Yields source reader P) (hQ : Yields source reader Q) :
    Yields source reader fun value => P value ∧ Q value := by
  intro around cursor value after hplace hread
  obtain ⟨hafter, hvalue⟩ := hP around cursor value after hplace hread
  exact ⟨hafter, hvalue, (hQ around cursor value after hplace hread).2⟩

lemma yields_pure {value : α} {P : α → Prop} (h : P value) : Yields source (pure value : Read α) P := by
  intro around cursor value' after hplace hread
  cases hread
  exact ⟨hplace, h⟩

lemma yields_bind {first : Read α} {next : α → Read β} {P : α → Prop} {Q : β → Prop} (hfirst : Yields source first P)
    (hnext : ∀ value, P value → Yields source (next value) Q) : Yields source (first >>= next) Q := by
  intro around cursor value after hplace hread
  obtain ⟨middle, between, hmiddle, hrest⟩ := bind_eq_ok hread
  obtain ⟨hbetween, hvalue⟩ := hfirst around cursor middle between hplace hmiddle
  exact hnext middle hvalue around between value after hbetween hrest

lemma yields_orElse {first second : Read α} {P : α → Prop} (hfirst : Yields source first P)
    (hsecond : Yields source second P) : Yields source (first <|> second) P := by
  intro around cursor value after hplace hread
  rcases orElse_eq_ok hread with hread | hread
  · exact hfirst around cursor value after hplace hread
  · exact hsecond around cursor value after hplace hread

lemma yields_fail {P : α → Prop} : Yields source (Read.fail : Read α) P := by
  intro _ _ _ _ _ hread
  cases hread

lemma yields_place : Yields source Read.place (IsPlace source) := by
  intro around cursor value after hplace hread
  cases hread
  exact ⟨hplace, hplace⟩

lemma yields_token : Yields source Read.token fun cursor => IsPlace source cursor ∧ IsAhead cursor := by
  intro around cursor value after hplace hread
  cases hread
  have hahead := isAhead_toToken cursor
  exact ⟨hplace, (isAfter_toToken cursor).isPlace hplace hahead, hahead⟩

lemma yields_moveTo {cursor : Cursor} (h : IsPlace source cursor) : Yields source (Read.moveTo cursor) fun _ => True := by
  intro _ _ _ _ _ hread
  cases hread
  exact ⟨h, trivial⟩

lemma yields_surroundings : Yields source Read.surroundings fun _ => True := by
  intro around cursor value after hplace hread
  cases hread
  exact ⟨hplace, trivial⟩

lemma yields_within {change : Surroundings → Surroundings} {reader : Read α} {P : α → Prop} (h : Yields source reader P) :
    Yields source (Read.within change reader) P :=
  fun around cursor value after hplace hread => h (change around) cursor value after hplace hread

lemma yields_ite {condition : Prop} [Decidable condition] {first second : Read α} {P : α → Prop}
    (hfirst : Yields source first P) (hsecond : Yields source second P) :
    Yields source (if condition then first else second) P := by
  split
  · exact hfirst
  · exact hsecond

/-! ### Trees that are read -/

variable (source) in
/-- The property holds of each of the trees that are read. -/
def YieldsEach (p : Tree → Prop) (reader : Reader) : Prop :=
  Yields source reader fun trees => ∀ tree ∈ trees, p tree

variable {p : Tree → Prop}

lemma yieldsEach_none : YieldsEach source p Reader.none :=
  yields_pure (List.forall_mem_nil _)

lemma yieldsEach_bind {first : Reader} {next : List Tree → Reader} (hfirst : YieldsEach source p first)
    (hnext : ∀ trees, (∀ tree ∈ trees, p tree) → YieldsEach source p (next trees)) :
    YieldsEach source p (first >>= next) :=
  yields_bind hfirst hnext

lemma yieldsEach_all_nil : YieldsEach source p (Reader.all []) :=
  yieldsEach_none

lemma yields_all_cons {P Q : List Tree → Prop} {first : Reader} {rest : List Reader} (hfirst : Yields source first P)
    (hrest : Yields source (Reader.all rest) Q) :
    Yields source (Reader.all (first :: rest)) fun trees => ∃ front more, trees = front ++ more ∧ P front ∧ Q more :=
  yields_bind hfirst fun front hfront => yields_bind hrest fun more hmore =>
    yields_pure ⟨front, more, rfl, hfront, hmore⟩

lemma yields_all_singleton {P : List Tree → Prop} {reader : Reader} (h : Yields source reader P) :
    Yields source (Reader.all [reader]) P := by
  refine yields_bind h fun trees htrees => ?_
  have hnone : Yields source (Reader.all []) (· = []) := yields_pure rfl
  refine yields_bind hnone fun more hmore => yields_pure ?_
  rw [hmore, List.append_nil]
  exact htrees

lemma yieldsEach_all_cons {first : Reader} {rest : List Reader} (hfirst : YieldsEach source p first)
    (hrest : YieldsEach source p (Reader.all rest)) : YieldsEach source p (Reader.all (first :: rest)) := by
  refine (yields_all_cons hfirst hrest).mono ?_
  rintro _ ⟨front, more, rfl, hfront, hmore⟩
  exact List.forall_mem_append.mpr ⟨hfront, hmore⟩

lemma yieldsEach_optional {reader : Reader} (h : YieldsEach source p reader) :
    YieldsEach source p (Reader.optional reader) :=
  yields_orElse h yieldsEach_none

lemma yieldsEach_many {reader : Reader} (h : YieldsEach source p reader) : YieldsEach source p (Reader.many reader) := by
  have hupTo (n : Nat) : YieldsEach source p (Reader.manyUpTo reader n) := by
    induction n with
    | zero => exact yieldsEach_none
    | succ n ih =>
      intro around cursor value after hplace hread
      unfold Reader.manyUpTo at hread
      split at hread
      · cases hread
        exact ⟨hplace, List.forall_mem_nil _⟩
      · next trees between htrees =>
        obtain ⟨hbetween, hfirst⟩ := h around cursor trees between hplace htrees
        split at hread
        · cases hread
          exact ⟨hbetween, hfirst⟩
        · split at hread
          · cases hread
          · next more last hmore =>
            cases hread
            obtain ⟨hlast, hrest⟩ := ih around between more _ hbetween hmore
            exact ⟨hlast, List.forall_mem_append.mpr ⟨hfirst, hrest⟩⟩
  exact fun around cursor => hupTo _ around cursor

lemma yieldsEach_separated {reader separator : Reader} (h : YieldsEach source p reader)
    (hseparator : YieldsEach source p separator) : YieldsEach source p (Reader.separated reader separator) :=
  yieldsEach_all_cons h (yieldsEach_all_cons
    (yieldsEach_many (yieldsEach_all_cons hseparator (yieldsEach_all_cons h yieldsEach_all_nil))) yieldsEach_all_nil)

lemma yieldsEach_sparse {reader comma : Reader} (h : YieldsEach source p reader) (hcomma : YieldsEach source p comma) :
    YieldsEach source p (Reader.sparse reader comma) :=
  yieldsEach_all_cons (yieldsEach_optional h) (yieldsEach_all_cons
    (yieldsEach_many (yieldsEach_all_cons hcomma (yieldsEach_all_cons (yieldsEach_optional h) yieldsEach_all_nil)))
    yieldsEach_all_nil)

/-- What is wrapped again and again keeps a property that each wrapping keeps. -/
lemma yields_extend {P : List Tree → Prop} {step : List Tree → Reader} {trees : List Tree} (htrees : P trees)
    (hstep : ∀ trees, P trees → Yields source (step trees) P) : Yields source (Reader.extend step trees) P := by
  have hupTo (n : Nat) (trees : List Tree) (htrees : P trees) : Yields source (Reader.extendUpTo step n trees) P := by
    induction n generalizing trees with
    | zero => exact yields_pure htrees
    | succ n ih =>
      intro around cursor value after hplace hread
      unfold Reader.extendUpTo at hread
      split at hread
      · cases hread
        exact ⟨hplace, htrees⟩
      · next more between hmore =>
        obtain ⟨hbetween, hnext⟩ := hstep trees htrees around cursor more between hplace hmore
        exact ih more hnext around between value after hbetween hread
  exact fun around cursor => hupTo _ trees htrees around cursor

lemma yields_whenAhead {P : List Tree → Prop} {condition : List Char → Bool} {reader : Reader}
    (h : Yields source reader P) : Yields source (Reader.whenAhead condition reader) P :=
  yields_bind yields_token fun _ _ => yields_ite h yields_fail

lemma yields_followedBy {P : List Tree → Prop} {condition : List Char → Bool} {reader : Reader}
    (h : Yields source reader P) : Yields source (Reader.followedBy reader condition) P :=
  yields_bind h fun _ htrees => yields_bind yields_token fun _ _ => yields_ite (yields_pure htrees) yields_fail

lemma yields_onSameLine {P : List Tree → Prop} {reader : Reader} (h : Yields source reader P) :
    Yields source (Reader.onSameLine reader) P :=
  yields_bind yields_place fun _ _ => yields_ite yields_fail h

lemma yields_unbroken {P : List Tree → Prop} {reader : Reader} (h : Yields source reader P) :
    Yields source (Reader.unbroken reader) P :=
  yields_bind yields_surroundings fun _ _ => yields_ite h (yields_onSameLine h)

lemma yields_enclosed {P : List Tree → Prop} {reader : Reader} (h : Yields source reader P) :
    Yields source (Reader.enclosed reader) P :=
  yields_within h

lemma yields_exposed {P : List Tree → Prop} {reader : Reader} (h : Yields source reader P) :
    Yields source (Reader.exposed reader) P :=
  yields_within h

lemma yields_forDialect {P : List Tree → Prop} {dialect : Dialect} {reader : Reader} (h : Yields source reader P) :
    Yields source (Reader.forDialect dialect reader) P :=
  yields_bind yields_surroundings fun _ _ => yields_ite h yields_fail

lemma yields_field {P Q : List Tree → Prop} {name : String} {reader : Reader} (h : Yields source reader P)
    (hPQ : ∀ trees, P trees → Q (trees.map (·.withField name))) : Yields source (Reader.field name reader) Q :=
  yields_bind h fun trees htrees => yields_pure (hPQ trees htrees)

/-- What is read in a role plays it. -/
lemma yieldsEach_field {role : String} {reader : Reader} (h : YieldsEach source p reader) :
    YieldsEach source (fun tree => ∃ inner, p inner ∧ tree = inner.withField role) (Reader.field role reader) :=
  yields_field h fun _ htrees => List.forall_mem_map.mpr fun tree htree => ⟨tree, htrees tree htree, rfl⟩

variable (source) in
/-- The stretch neither starts nor stops on a blank line. -/
structure IsStretch (span : Span) : Prop where
  start : IsSeam source span.start
  stop : IsSeam source span.stop

lemma yields_node {P Q : List Tree → Prop} {kind : String} {reader : Reader} (h : Yields source reader P)
    (hPQ : ∀ span children, IsStretch source span → P children → Q [.mk kind true .none span children]) :
    Yields source (Reader.node kind reader) Q :=
  yields_bind yields_token fun _ hstart => yields_bind h fun children hchildren =>
    yields_bind yields_place fun _ hstop => yields_pure (hPQ _ children ⟨hstart.1.seam, hstop.seam⟩ hchildren)

lemma yields_nodeAfter {P Q : List Tree → Prop} {kind : String} {first : List Tree} {reader : Reader}
    (h : Yields source reader P)
    (hPQ : ∀ stop rest, IsSeam source stop → P rest →
      Q [.mk kind true .none ⟨(first.head?.map Tree.start).getD stop, stop⟩ (first ++ rest)]) :
    Yields source (Reader.nodeAfter kind first reader) Q :=
  yields_bind h fun rest hrest => yields_bind yields_place fun _ hstop => yields_pure (hPQ _ rest hstop.seam hrest)

/-- The text of a token, of which nothing has to be said if it is empty. -/
def IsTokenText (text : List Char) : Prop :=
  text = [] ∨ EndsVisible text

lemma isPlace_of_movesPast {text : List Char} {start stop : Cursor} (h : MovesPast text start stop) (htext : IsTokenText text)
    (hstart : IsPlace source start) : IsPlace source stop := by
  rcases htext with rfl | hvisible
  · obtain ⟨rest, offset⟩ := start
    obtain ⟨hrest, hoffset⟩ := h
    obtain ⟨rest', offset'⟩ := stop
    obtain rfl : rest = rest' := hrest
    obtain rfl : offset' = offset := hoffset
    exact hstart
  · exact h.isPlace hstart hvisible

lemma yields_leaf {Q : List Tree → Prop} {kind : String} {named : Bool} {find : Cursor → Option Cursor}
    (h : ∀ start stop, IsPlace source start → IsAhead start → find start = some stop →
      ∃ text, MovesPast text start stop ∧ IsTokenText text ∧
        (IsStretch source ⟨start.offset, stop.offset⟩ → Q [.mk kind named .none ⟨start.offset, stop.offset⟩ []])) :
    Yields source (Reader.leaf kind named find) Q := by
  refine yields_bind yields_token fun start ⟨hstart, hahead⟩ => ?_
  split
  · next stop hfound =>
    obtain ⟨text, hpast, htext, htree⟩ := h start stop hstart hahead hfound
    have hstop := isPlace_of_movesPast hpast htext hstart
    exact yields_bind (yields_moveTo hstop) fun _ _ => yields_pure (htree ⟨hstart.seam, hstop.seam⟩)
  · exact yields_fail

/-- A single tree of which the property holds. -/
def IsSingle (p : Tree → Prop) (trees : List Tree) : Prop :=
  ∃ tree, trees = [tree] ∧ p tree

lemma yields_leaf_single {q : Tree → Prop} {kind : String} {named : Bool} {find : Cursor → Option Cursor}
    (hleaf : YieldsEach source p (Reader.leaf kind named find)) (hq : ∀ span, q (.mk kind named .none span [])) :
    Yields source (Reader.leaf kind named find) (IsSingle q) := by
  intro around cursor value after hplace hread
  obtain rfl := leaf_eq_ok hread
  exact ⟨(hleaf around cursor _ after hplace hread).1, _, rfl, hq _⟩

lemma IsSingle.forall {q : Tree → Prop} {trees : List Tree} (h : IsSingle q trees) : ∀ tree ∈ trees, q tree := by
  obtain ⟨tree, rfl, htree⟩ := h
  exact List.forall_mem_singleton.mpr htree

/-- A construct that starts with a token starts where the token does. -/
lemma yields_node_leaf {P Q : List Tree → Prop} {kind role tokenKind : String} {named : Bool}
    {find : Cursor → Option Cursor} {rest : List Reader}
    (hleaf : YieldsEach source p (Reader.leaf tokenKind named find)) (hrest : Yields source (Reader.all rest) P)
    (hPQ : ∀ start stop middle more, P more →
      Q [.mk kind true .none ⟨start, stop⟩ (.mk tokenKind named (some role) ⟨start, middle⟩ [] :: more)]) :
    Yields source (Reader.node kind (Reader.all (Reader.field role (Reader.leaf tokenKind named find) :: rest))) Q := by
  intro around cursor value after hplace hread
  obtain ⟨start, _, hstart, hread⟩ := bind_eq_ok hread
  cases hstart
  obtain ⟨children, _, hchildren, hread⟩ := bind_eq_ok hread
  obtain ⟨stop, _, hstop, hread⟩ := bind_eq_ok hread
  cases hstop
  cases hread
  obtain ⟨fields, between, hfields, hchildren⟩ := bind_eq_ok hchildren
  obtain ⟨leaves, _, hleaves, hfields⟩ := bind_eq_ok hfields
  cases hfields
  obtain ⟨more, _, hmore, hchildren⟩ := bind_eq_ok hchildren
  cases hchildren
  obtain rfl := leaf_eq_ok hleaves
  obtain ⟨hbetween, -⟩ := hleaf around cursor _ between hplace hleaves
  obtain ⟨hafter, hP⟩ := hrest around between more after hbetween hmore
  exact ⟨hafter, hPQ _ _ _ _ hP⟩

/-! ### Constructs with their shapes -/

variable (source) in
/-- The trees that are read have their shapes, all the way down. -/
def Good (reader : Reader) : Prop :=
  YieldsEach source (Built source) reader

/-- What a reader makes itself, beside what it leaves to others: a construct, a leaf, or a token of punctuation. -/
inductive Making where
  | construct (kind : String)
  | leaf (kind : String)
  | mark (text : String)

/-- Nothing has to be known of what is made. -/
def IsFree : Making → Prop
  | .construct kind => kind ∉ shapedKinds ∧ kind ∉ bareKinds
  | .leaf kind => kind ∉ shapedKinds
  | .mark text => text ≠ "" ∧ '\n' ∉ text.toList

instance : DecidablePred IsFree
  | .construct _ => inferInstanceAs (Decidable (_ ∧ _))
  | .leaf _ => inferInstanceAs (Decidable (_ ∉ _))
  | .mark _ => inferInstanceAs (Decidable (_ ∧ _))

lemma built_withField {field : String} {tree : Tree} (h : Built source tree) : Built source (tree.withField field) := by
  obtain ⟨kind, named, role, span, children⟩ := tree
  obtain ⟨⟨hstart, hstop, htoken, hbare, hname, hshaped⟩, hchildren⟩ := h
  exact ⟨⟨hstart, hstop, htoken, hbare, hname, hshaped⟩, hchildren⟩

section Trees

variable {kind : String} {named : Bool} {span : Span} {field : Option String} {children : List Tree}

/-- A construct around others has its shape if it is what its kind tells. -/
lemma built_construct (hspan : IsStretch source span) (hkind : kind ∉ bareKinds)
    (hshaped : KindShape source (.mk kind true field span children)) (h : ∀ child ∈ children, Built source child) :
    Built source (.mk kind true field span children) := by
  refine ⟨⟨hspan.start, hspan.stop, nofun, ?_, fun hname => absurd (List.mem_cons_of_mem _ hname) hkind,
    fun _ => hshaped⟩, h⟩
  rintro (hnamed | hbare)
  · cases hnamed
  · exact absurd hbare hkind

lemma built_of_isFree (hspan : IsStretch source span) (hkind : IsFree (.construct kind))
    (h : ∀ child ∈ children, Built source child) : Built source (.mk kind true field span children) :=
  built_construct hspan hkind.2 (kindShape_of_not_mem hkind.1) h

lemma built_leaf (hspan : IsStretch source span)
    (htoken : named = false → textOf source (.mk kind named field span []) = kind)
    (hname : kind ∈ identifierKinds →
      span.start < span.stop ∧ '\n' ∉ (textOf source (.mk kind named field span [])).toList)
    (hshaped : named = true → KindShape source (.mk kind named field span [])) :
    Built source (.mk kind named field span []) :=
  ⟨⟨hspan.start, hspan.stop, htoken, fun _ => rfl, hname, hshaped⟩, List.forall_mem_nil _⟩

/-- A construct around trees that have been read starts where the first of them does. -/
lemma isStretch_after {trees : List Tree} {stop : Nat} (htrees : ∀ tree ∈ trees, Built source tree)
    (hstop : IsSeam source stop) : IsStretch source ⟨(trees.head?.map Tree.start).getD stop, stop⟩ := by
  refine ⟨?_, hstop⟩
  cases trees with
  | nil => exact hstop
  | cons tree rest => exact (htrees tree List.mem_cons_self).shape.start

end Trees

variable (source) in
/-- The trees have their shapes. -/
class AreBuilt (trees : List Tree) : Prop where
  built : ∀ tree ∈ trees, Built source tree

variable (source) in
/-- Trees that have been read already. What comes next is a reader for all of them: a hypothesis about trees would be
lost on the way to an instance. -/
abbrev BuiltTrees : Type :=
  { trees : List Tree // AreBuilt source trees }

instance (trees : BuiltTrees source) : AreBuilt source trees.val :=
  trees.property

variable (source) in
/-- A tree that has been read already. -/
abbrev BuiltTree : Type :=
  { tree : Tree // Built source tree }

instance (tree : BuiltTree source) : AreBuilt source [tree.val] :=
  ⟨List.forall_mem_singleton.mpr tree.property⟩

instance : AreBuilt source [] :=
  ⟨List.forall_mem_nil _⟩

instance {first rest : List Tree} [AreBuilt source first] [AreBuilt source rest] : AreBuilt source (first ++ rest) :=
  ⟨List.forall_mem_append.mpr ⟨AreBuilt.built, AreBuilt.built⟩⟩

instance {field : String} {trees : List Tree} [AreBuilt source trees] :
    AreBuilt source (trees.map (·.withField field)) :=
  ⟨List.forall_mem_map.mpr fun tree htree => built_withField (AreBuilt.built tree htree)⟩

variable (source) in
/-- The trees that are read have their shapes if nothing has to be known of what the reader makes itself. That is found
together with the instance. -/
class Builds (reader : Reader) (makings : outParam (List Making)) : Prop where
  good : (∀ making ∈ makings, IsFree making) → Good source reader

variable {reader first second separator : Reader} {readers : List Reader} {trees : List Tree} {makings others : List Making}

lemma Good.builds (h : Good source reader) : Builds source reader [] :=
  ⟨fun _ => h⟩

/-- One look at what is made closes the account of a rule. -/
lemma Builds.closed [h : Builds source reader makings] (hfree : ∀ making ∈ makings, IsFree making := by decide) :
    Builds source reader [] :=
  (h.good hfree).builds

lemma Builds.good' (h : Builds source reader []) : Good source reader :=
  h.good (List.forall_mem_nil _)

/-- What is made of one reader makes the same. -/
lemma Builds.map {wrapped : Reader} (h : Builds source reader makings) (hgood : Good source reader → Good source wrapped) :
    Builds source wrapped makings :=
  ⟨fun hfree => hgood (h.good hfree)⟩

lemma Builds.map₂ {wrapped : Reader} (h : Builds source first makings) (h' : Builds source second others)
    (hgood : Good source first → Good source second → Good source wrapped) : Builds source wrapped (makings ++ others) :=
  ⟨fun hfree => hgood (h.good (List.forall_mem_append.mp hfree).1) (h'.good (List.forall_mem_append.mp hfree).2)⟩

instance : Builds source Reader.none [] :=
  Good.builds yieldsEach_none

instance : Builds source Read.fail [] :=
  Good.builds yields_fail

instance [AreBuilt source trees] : Builds source (pure trees) [] :=
  Good.builds (yields_pure AreBuilt.built)

instance [AreBuilt source trees] : Builds source (Read.pure trees) [] :=
  Good.builds (yields_pure AreBuilt.built)

instance {next : List Tree → Reader} [h : Builds source first makings]
    [hnext : ∀ trees : BuiltTrees source, Builds source (next trees.val) others] :
    Builds source (first >>= next) (makings ++ others) where
  good hfree := by
    obtain ⟨hfirst, hothers⟩ := List.forall_mem_append.mp hfree
    exact yieldsEach_bind (h.good hfirst) fun trees htrees => (hnext ⟨trees, ⟨htrees⟩⟩).good hothers

instance {next : Cursor → Reader} [hnext : ∀ cursor, Builds source (next cursor) makings] :
    Builds source (Read.token >>= next) makings where
  good hfree := yields_bind yields_token fun cursor _ => (hnext cursor).good hfree

instance {next : Cursor → Reader} [hnext : ∀ cursor, Builds source (next cursor) makings] :
    Builds source (Read.place >>= next) makings where
  good hfree := yields_bind yields_place fun cursor _ => (hnext cursor).good hfree

instance {condition : Prop} [Decidable condition] [h : Builds source first makings] [h' : Builds source second others] :
    Builds source (if condition then first else second) (makings ++ others) :=
  h.map₂ h' yields_ite

instance [h : Builds source first makings] [h' : Builds source second others] :
    Builds source (first <|> second) (makings ++ others) :=
  h.map₂ h' yields_orElse

instance : Builds source (Reader.all []) [] :=
  Good.builds yieldsEach_all_nil

instance [h : Builds source first makings] [h' : Builds source (Reader.all readers) others] :
    Builds source (Reader.all (first :: readers)) (makings ++ others) :=
  h.map₂ h' yieldsEach_all_cons

instance [h : Builds source reader makings] : Builds source (Reader.optional reader) makings :=
  h.map yieldsEach_optional

instance [h : Builds source reader makings] : Builds source (Reader.many reader) makings :=
  h.map yieldsEach_many

instance [h : Builds source reader makings] [h' : Builds source separator others] :
    Builds source (Reader.separated reader separator) (makings ++ others) :=
  h.map₂ h' yieldsEach_separated

instance [h : Builds source reader makings] [h' : Builds source separator others] :
    Builds source (Reader.sparse reader separator) (makings ++ others) :=
  h.map₂ h' yieldsEach_sparse

instance {step : List Tree → Reader} [htrees : AreBuilt source trees]
    [hstep : ∀ trees : BuiltTrees source, Builds source (step trees.val) makings] :
    Builds source (Reader.extend step trees) makings where
  good hfree := yields_extend htrees.built fun trees htrees => (hstep ⟨trees, ⟨htrees⟩⟩).good hfree

instance {condition : List Char → Bool} [h : Builds source reader makings] :
    Builds source (Reader.whenAhead condition reader) makings :=
  h.map yields_whenAhead

instance {condition : List Char → Bool} [h : Builds source reader makings] :
    Builds source (Reader.followedBy reader condition) makings :=
  h.map yields_followedBy

instance [h : Builds source reader makings] : Builds source (Reader.onSameLine reader) makings :=
  h.map yields_onSameLine

instance [h : Builds source reader makings] : Builds source (Reader.unbroken reader) makings :=
  h.map yields_unbroken

instance [h : Builds source reader makings] : Builds source (Reader.enclosed reader) makings :=
  h.map yields_enclosed

instance [h : Builds source reader makings] : Builds source (Reader.exposed reader) makings :=
  h.map yields_exposed

instance {dialect : Dialect} [h : Builds source reader makings] : Builds source (Reader.forDialect dialect reader) makings :=
  h.map yields_forDialect

lemma good_field {name : String} (h : Good source reader) : Good source (Reader.field name reader) := by
  refine yields_field h fun trees htrees => ?_
  have : AreBuilt source trees := ⟨htrees⟩
  exact AreBuilt.built

instance {name : String} [h : Builds source reader makings] : Builds source (Reader.field name reader) makings :=
  h.map good_field

lemma good_node {kind : String} (hkind : IsFree (.construct kind)) (h : Good source reader) :
    Good source (Reader.node kind reader) :=
  yields_node h fun _ _ hspan hchildren => List.forall_mem_singleton.mpr (built_of_isFree hspan hkind hchildren)

instance {kind : String} [h : Builds source reader makings] :
    Builds source (Reader.node kind reader) (.construct kind :: makings) where
  good hfree := good_node (hfree _ List.mem_cons_self) (h.good (List.forall_mem_of_forall_mem_cons hfree))

lemma good_nodeAfter {kind : String} (hkind : IsFree (.construct kind)) [AreBuilt source trees] (h : Good source reader) :
    Good source (Reader.nodeAfter kind trees reader) := by
  refine yields_nodeAfter h fun stop rest hstop hrest => List.forall_mem_singleton.mpr ?_
  refine built_of_isFree (isStretch_after AreBuilt.built hstop) hkind ?_
  exact List.forall_mem_append.mpr ⟨AreBuilt.built, hrest⟩

instance {kind : String} [AreBuilt source trees] [h : Builds source reader makings] :
    Builds source (Reader.nodeAfter kind trees reader) (.construct kind :: makings) where
  good hfree := good_nodeAfter (hfree _ List.mem_cons_self) (h.good (List.forall_mem_of_forall_mem_cons hfree))

/-- The kind of a construct may depend on what was read before. -/
instance {condition : Bool} {kind other : String} [AreBuilt source trees] [h : Builds source reader makings] :
    Builds source (Reader.nodeAfter (if condition then kind else other) trees reader)
      (.construct kind :: .construct other :: makings) where
  good hfree := by
    obtain ⟨hkind, hfree⟩ := List.forall_mem_cons.mp hfree
    obtain ⟨hother, hfree⟩ := List.forall_mem_cons.mp hfree
    refine good_nodeAfter ?_ (h.good hfree)
    split
    · exact hkind
    · exact hother

/-- A construct that opens with a token. -/
lemma yields_opening {P Q : List Tree → Prop} {kind text : String} (hmark : ReadsMark text reader) (h : Yields source reader P)
    (hPQ : ∀ span children, IsStretch source span → OpensWith text (.mk kind true .none span children) → P children →
      Q [.mk kind true .none span children]) : Yields source (Reader.node kind reader) Q := by
  intro around cursor trees after hplace hread
  obtain ⟨children, hchildren, rfl⟩ := node_eq_ok hread
  obtain ⟨opening, rest, rfl, hopening, hnamed, hstart⟩ := hmark hchildren
  obtain ⟨hafter, hP⟩ := h around cursor _ after hplace hchildren
  have htoken := (isAfter_toToken cursor).isPlace hplace (isAhead_toToken cursor)
  refine ⟨hafter, hPQ _ _ ⟨htoken.seam, hafter.seam⟩ ?_ hP⟩
  exact ⟨opening, rest, rfl, hopening, hnamed, hstart⟩

/-- A construct of a kind that tells how it opens. -/
lemma good_opening {kind text : String} (hkind : kind ∉ bareKinds)
    (hshaped : ∀ tree : Tree, tree.kind = kind → OpensWith text tree → KindShape source tree)
    (hmark : ReadsMark text reader) (h : Good source reader) : Good source (Reader.node kind reader) :=
  yields_opening hmark h fun _ _ hspan hopens hbuilt => List.forall_mem_singleton.mpr
    (built_construct hspan hkind (hshaped _ rfl hopens) hbuilt)

/-- The trees have their shapes and play their roles. -/
lemma Good.plays {roles : List (List String)} (h : Good source reader) (hroles : Plays reader roles) :
    Yields source reader fun trees => (∀ tree ∈ trees, Built source tree) ∧ PlaysRoles roles trees := by
  intro around cursor trees after hplace hread
  obtain ⟨hafter, hbuilt⟩ := h around cursor trees after hplace hread
  exact ⟨hafter, hbuilt, hroles.plays hread⟩

/-- What is read after a single tree is read with it. -/
lemma good_bind_single {next : List Tree → Reader}
    (hsingle : ∀ {around : Surroundings} {cursor after : Cursor} {trees : List Tree},
      first around cursor = .ok (trees, after) → ∃ tree, trees = [tree])
    (hfirst : Good source first) (hnext : ∀ tree : BuiltTree source, Good source (next [tree.val])) :
    Good source (first >>= next) := by
  intro around cursor trees after hplace hread
  obtain ⟨middle, between, hmiddle, hrest⟩ := bind_eq_ok hread
  obtain ⟨hbetween, hbuilt⟩ := hfirst around cursor middle between hplace hmiddle
  obtain ⟨tree, rfl⟩ := hsingle hmiddle
  exact hnext ⟨tree, List.forall_mem_singleton.mp hbuilt⟩ around between trees after hbetween hrest

lemma good_bind_one {next : List Tree → Reader} [hone : ReadsOne first] (hfirst : Good source first)
    (hnext : ∀ tree : BuiltTree source, Good source (next [tree.val])) : Good source (first >>= next) :=
  good_bind_single (fun h => (hone.one h).imp fun _ => And.left) hfirst hnext

lemma good_bind_goesOn {next : List Tree → Reader} {tree : Tree} [hone : GoesOn tree first] (hfirst : Good source first)
    (hnext : ∀ tree : BuiltTree source, Good source (next [tree.val])) : Good source (first >>= next) :=
  good_bind_single (fun h => (hone.one h).imp fun _ => And.left) hfirst hnext

/-- Each step goes on with a single tree. -/
lemma good_extend_one {step : List Tree → Reader} [hone : ∀ tree, GoesOn tree (step [tree])]
    (hstep : ∀ tree : BuiltTree source, Good source (step [tree.val])) (tree : BuiltTree source) :
    Good source (Reader.extend step [tree.val]) := by
  have hsteps : Yields source (Reader.extend step [tree.val]) (IsSingle (Built source)) := by
    refine yields_extend ⟨tree.val, rfl, tree.property⟩ ?_
    rintro _ ⟨inner, rfl, hinner⟩ around cursor trees after hplace hread
    obtain ⟨hafter, hbuilt⟩ := hstep ⟨inner, hinner⟩ around cursor trees after hplace hread
    obtain ⟨next, rfl, -⟩ := (hone inner).one hread
    exact ⟨hafter, next, rfl, List.forall_mem_singleton.mp hbuilt⟩
  exact hsteps.mono fun _ => IsSingle.forall

/-! ### Tokens -/

lemma textOf_leaf {start stop : Cursor} (hstart : IsPlace source start) {kind : String} {named : Bool}
    {field : Option String} {children : List Tree} :
    textOf source (.mk kind named field ⟨start.offset, stop.offset⟩ children) = textBetween start stop := by
  rw [textBetween, hstart.rest]
  rfl

lemma MovesPast.textBetween {text : List Char} {start stop : Cursor} (h : MovesPast text start stop) :
    textBetween start stop = String.ofList text := by
  rw [Grammar.textBetween, h.rest, h.offset, Nat.add_sub_cancel_left, List.take_left]

/-- A text on one line is fit for a token. -/
lemma isTokenText_of_line {text : List Char} {start stop : Cursor} (h : MovesPast text start stop) (hahead : IsAhead start)
    (hline : '\n' ∉ text) : IsTokenText text := by
  cases text with
  | nil => exact .inl rfl
  | cons c text =>
    have hc : IsVisible c := hahead c (by rw [h.rest]; rfl)
    exact .inr (endsVisible_of_line hc fun hbreak => hline (List.mem_cons_of_mem _ hbreak))

/-- A leaf whose text is as its kind demands. -/
lemma good_leaf {kind : String} {named : Bool} {find : Cursor → Option Cursor}
    (h : ∀ start stop, IsAhead start → find start = some stop → ∃ text, MovesPast text start stop ∧ IsTokenText text ∧
      (named = false → String.ofList text = kind) ∧ (kind ∈ identifierKinds → text ≠ [] ∧ '\n' ∉ text) ∧
      (named = true → ∀ tree : Tree, tree.kind = kind → textOf source tree = String.ofList text → KindShape source tree)) :
    Good source (Reader.leaf kind named find) := by
  refine yields_leaf fun start stop hstart hahead hstop => ?_
  obtain ⟨text, hpast, htext, htoken, hname, hshaped⟩ := h start stop hahead hstop
  have htextOf : textOf source (.mk kind named .none ⟨start.offset, stop.offset⟩ []) = String.ofList text := by
    rw [textOf_leaf hstart, hpast.textBetween]
  refine ⟨text, hpast, htext, fun hspan => List.forall_mem_singleton.mpr (built_leaf hspan ?_ ?_ ?_)⟩
  · exact fun hnamed => htextOf.trans (htoken hnamed)
  · intro hkind
    obtain ⟨hne, hline⟩ := hname hkind
    have hlength := List.length_pos_of_ne_nil hne
    have hoffset := hpast.offset
    dsimp only
    rw [htextOf, String.toList_ofList]
    exact ⟨by omega, hline⟩
  · exact fun hnamed => hshaped hnamed _ rfl htextOf

lemma good_freeLeaf {kind : String} (hkind : IsFree (.leaf kind)) {find : Cursor → Option Cursor}
    (hfind : ∀ start stop, find start = some stop → IsInline stop start ∧
      (kind ∈ identifierKinds → start.offset < stop.offset)) : Good source (Reader.leaf kind true find) := by
  refine good_leaf fun start stop hahead hstop => ?_
  obtain ⟨⟨text, hpast, hline⟩, hname⟩ := hfind start stop hstop
  refine ⟨text, hpast, isTokenText_of_line hpast hahead hline, nofun, ?_, ?_⟩
  · refine fun hidentifier => ⟨?_, hline⟩
    rintro rfl
    have hoffset := hpast.offset
    exact absurd (hname hidentifier) (by rw [hoffset]; exact Nat.lt_irrefl _)
  · rintro - tree rfl -
    exact kindShape_of_not_mem hkind

instance {kind : String} {allowed : String → Bool} : Builds source (namedLeaf kind allowed) [.leaf kind] where
  good hfree := by
    refine good_freeLeaf (hfree _ List.mem_cons_self) fun start stop hstop => ?_
    split at hstop
    · next hname =>
      split at hstop
      · cases hstop
        exact ⟨(inline_name hname).1, fun _ => (inline_name hname).2⟩
      · cases hstop
    · cases hstop

/-- Names are spelled otherwise than tokens. -/
lemma good_tokenLeaf {text : String} {find : Cursor → Option Cursor} (hkind : text ∈ identifierKinds → text ≠ "")
    (hfind : ∀ start stop, find start = some stop → IsInline stop start ∧ textBetween start stop = text) :
    Good source (Reader.leaf text false find) := by
  refine good_leaf fun start stop hahead hstop => ?_
  obtain ⟨⟨front, hpast, hline⟩, htext⟩ := hfind start stop hstop
  rw [hpast.textBetween] at htext
  refine ⟨front, hpast, isTokenText_of_line hpast hahead hline, fun _ => htext, ?_, nofun⟩
  refine fun hidentifier => ⟨?_, hline⟩
  rintro rfl
  exact hkind hidentifier htext.symm

lemma ne_empty_of_mem_identifierKinds {text : String} (h : text ∈ identifierKinds) : text ≠ "" := by
  rintro rfl
  exact absurd h (by decide)

instance {text : String} : Builds source (word text) [] := by
  refine Good.builds (good_tokenLeaf ne_empty_of_mem_identifierKinds fun start stop hstop => ?_)
  split at hstop
  · next hname =>
    split at hstop
    · next htext =>
      cases hstop
      exact ⟨(inline_name hname).1, htext⟩
    · cases hstop
  · cases hstop

/-- Past punctuation. -/
lemma movesPast_advance {text : String} {cursor : Cursor} (h : text.toList.isPrefixOf cursor.rest) :
    MovesPast text.toList cursor (cursor.advance text.length) := by
  obtain ⟨rest, hrest⟩ := List.isPrefixOf_iff_prefix.mp h
  refine ⟨?_, ?_⟩
  · rw [Cursor.advance, ← hrest, ← String.length_toList, List.drop_left]
  · rw [Cursor.advance, String.length_toList]

lemma inline_mark {text : String} {cursor : Cursor} (hline : '\n' ∉ text.toList)
    (h : text.toList.isPrefixOf cursor.rest) :
    IsInline (cursor.advance text.length) cursor ∧ textBetween cursor (cursor.advance text.length) = text := by
  have hpast := movesPast_advance h
  refine ⟨⟨text.toList, hpast, hline⟩, ?_⟩
  rw [hpast.textBetween, String.ofList_toList]

instance {text : String} : Builds source (punctuation text) [.mark text] where
  good hfree := by
    have hmark := hfree _ List.mem_cons_self
    refine good_tokenLeaf (fun _ => hmark.1) fun start stop hstop => ?_
    split at hstop
    · next hahead =>
      cases hstop
      exact inline_mark hmark.2 hahead
    · cases hstop

instance {text : String} {others : List Char} : Builds source (punctuationNot text others) [.mark text] where
  good hfree := by
    have hmark := hfree _ List.mem_cons_self
    refine good_tokenLeaf (fun _ => hmark.1) fun start stop hstop => ?_
    split at hstop
    · next hahead =>
      dsimp only at hstop
      split at hstop
      · cases hstop
      · cases hstop
        exact inline_mark hmark.2 hahead
    · cases hstop

lemma isSolid_quoted {first last : Char} {inner : List Char} (hfirst : IsVisible first) (hlast : IsVisible last) :
    IsSolid (first :: (inner ++ [last])) where
  head := ⟨first, rfl, hfirst⟩
  last := ⟨last, by rw [← List.cons_append, List.getLast?_concat]; rfl, hlast⟩

/-- A string between quotes. -/
lemma good_quoted {find : Cursor → Option Cursor}
    (hfind : ∀ start stop, find start = some stop → ∃ quote inner, (quote = '"' ∨ quote = '\'') ∧
      MovesPast (quote :: (inner ++ [quote])) start stop) : Good source (Reader.leaf "string" true find) := by
  refine good_leaf fun start stop _ hstop => ?_
  obtain ⟨quote, inner, hquote, hpast⟩ := hfind start stop hstop
  have hvisible : IsVisible quote := by
    rcases hquote with rfl | rfl <;> exact ⟨by decide, by decide⟩
  refine ⟨_, hpast, .inr ?_, nofun, fun hkind => absurd hkind (by decide), ?_⟩
  · exact endsVisible_concat hvisible (quote :: inner)
  · rintro - ⟨kind, named, field, span, children⟩ rfl htext
    have hsolid : IsSolid (textOf source (.mk "string" named field span children)).toList := by
      rw [htext, String.toList_ofList]
      exact isSolid_quoted hvisible hvisible
    exact hsolid

instance : Builds source Grammar.string [] := by
  refine Good.builds (good_quoted fun start stop hstop => ?_)
  have hquoted (quote : Char) (hquote : quote = '"' ∨ quote = '\'') (rest : List Char) (hrest : start.rest = quote :: rest)
      (hend : stringEnd? quote (start.offset + 1) false rest = some stop) :
      ∃ quote inner, (quote = '"' ∨ quote = '\'') ∧ MovesPast (quote :: (inner ++ [quote])) start stop := by
    obtain ⟨inner, more, rfl, rfl⟩ := stringEnd_eq_some hend
    refine ⟨quote, inner, hquote, ?_, ?_⟩
    · rw [hrest, List.cons_append, List.append_assoc, List.singleton_append]
    · rw [List.length_cons, List.length_append, List.length_singleton]
      dsimp only
      omega
  split at hstop
  · next hrest => exact hquoted _ (.inl rfl) _ hrest hstop
  · next hrest => exact hquoted _ (.inr rfl) _ hrest hstop
  · cases hstop

instance : Builds source number [] :=
  Good.builds (good_freeLeaf (by decide) fun _ _ hstop => ⟨inline_number hstop, fun h => absurd h (by decide)⟩)

instance : Builds source regex [] := by
  refine Good.builds (good_leaf fun start stop _ hstop => ?_)
  split at hstop
  · next c rest hrest =>
    split at hstop
    · cases hstop
    · obtain ⟨after, hafter, rfl⟩ := Option.map_eq_some_iff.mp hstop
      obtain ⟨inner, more, hinner, rfl, hbreak⟩ := regexEnd_eq_some hafter
      -- the letters after the slash belong to the expression
      have hflags : ∀ c ∈ more.takeWhile Char.isAlpha, IsVisible c := by
        intro c hc
        have halpha : c.isAlpha = true := List.all_eq_true.mp List.all_takeWhile c hc
        refine ⟨?_, ?_⟩
        · rintro rfl
          exact absurd halpha (by decide)
        · rw [Text.isIndentation, Bool.or_eq_false_iff, decide_eq_false_iff_not, decide_eq_false_iff_not]
          refine ⟨?_, ?_⟩
          all_goals
            rintro rfl
            exact absurd halpha (by decide)
      have hslash : IsVisible '/' := ⟨by decide, by decide⟩
      have hpast : MovesPast ('/' :: (inner ++ '/' :: more.takeWhile Char.isAlpha)) start
          (Cursor.dropWhile Char.isAlpha ⟨more, start.offset + 1 + inner.length + 1⟩) := by
        rw [dropWhile_eq]
        refine ⟨?_, ?_⟩
        · rw [hrest, hinner, List.cons_append, List.append_assoc, List.cons_append, List.takeWhile_append_dropWhile]
        · rw [List.length_cons, List.length_append, List.length_cons]
          dsimp only
          omega
      have hline : '\n' ∉ inner ++ '/' :: more.takeWhile Char.isAlpha := by
        simp only [List.mem_cons, List.mem_append, not_or]
        exact ⟨hbreak, by decide, fun h => (hflags _ h).1 rfl⟩
      have hsolid : IsSolid ('/' :: (inner ++ '/' :: more.takeWhile Char.isAlpha)) := by
        refine ⟨⟨'/', rfl, hslash⟩, ?_⟩
        rw [← List.cons_append, List.getLast?_append_of_ne_nil _ (List.cons_ne_nil _ _)]
        refine ⟨_, List.getLast?_eq_some_getLast (List.cons_ne_nil _ _), ?_⟩
        rcases List.mem_cons.mp (List.getLast_mem (List.cons_ne_nil '/' (more.takeWhile Char.isAlpha))) with h | h
        · rw [h]
          exact hslash
        · exact hflags _ h
      refine ⟨_, hpast, .inr (endsVisible_of_line hslash hline), nofun, fun hkind => absurd hkind (by decide), ?_⟩
      rintro - ⟨kind, named, field, span, children⟩ rfl htext
      have hshape : IsSolid (textOf source (.mk "regex" named field span children)).toList ∧
          '\n' ∉ (textOf source (.mk "regex" named field span children)).toList := by
        rw [htext, String.toList_ofList]
        exact ⟨hsolid, List.mem_cons.not.mpr (not_or.mpr ⟨by decide, hline⟩)⟩
      exact hshape
  · cases hstop

end RouteMigration.Proofs
