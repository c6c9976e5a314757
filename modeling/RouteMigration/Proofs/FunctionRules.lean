import RouteMigration.Proofs.PatternRules

/-!
# Rules of functions and calls

The parts of a function and of a call stand in their roles, each of them once: a list of parameters is what it is called,
and so is the block that is the body of a function with a keyword. The body of an arrow function is no literal of an
object, for what starts with a brace there is a block.
-/

namespace RouteMigration.Proofs
open Syntax Grammar

variable {source : List Char}

-- the instances for a long rule are many
set_option synthInstance.maxSize 1024

variable {rules : Rules} [GoodRules source rules] {reader : Reader} {p : Tree → Prop}

/-! ### Parts in their roles -/

lemma PlaysRoles.mem_role {roles : List (List String)} {trees : List Tree} (h : PlaysRoles roles trees) {tree : Tree}
    (htree : tree ∈ trees) {role : String} (hrole : tree.field = some role) : ∃ list ∈ roles, role ∈ list :=
  ⟨_, h.mem, List.mem_filterMap.mpr ⟨tree, htree, hrole⟩⟩

variable (source) in
/-- The trees that are read have their shapes and the property, and they play their roles. -/
def YieldsParts (p : Tree → Prop) (roles : List (List String)) (reader : Reader) : Prop :=
  Yields source reader fun trees => (∀ tree ∈ trees, Built source tree ∧ p tree) ∧ PlaysRoles roles trees

lemma Good.parts {found roles : List (List String)} (h : Good source reader) (hp : YieldsEach source p reader)
    (hfound : Plays reader found) (hsubset : found ⊆ roles) : YieldsParts source p roles reader :=
  ((h.plays hfound).and hp).mono fun _ ⟨⟨hbuilt, hplays⟩, hp⟩ =>
    ⟨fun tree htree => ⟨hbuilt tree htree, hp tree htree⟩, hplays.mono hsubset⟩

/-- Where no tree plays one of the roles that matter, the property holds of all. -/
lemma yieldsEach_of_plays {roles : List (List String)} (special : List String)
    (hp : ∀ tree : Tree, (∀ role ∈ tree.field, role ∉ special) → p tree) (h : Good source reader)
    (hplays : Plays reader roles) (hplain : ∀ list ∈ roles, ∀ role ∈ list, role ∉ special) :
    YieldsEach source p reader := by
  refine (h.plays hplays).mono fun trees ⟨_, hroles⟩ tree htree => hp tree fun role hrole => ?_
  obtain ⟨list, hlist, hmem⟩ := hroles.mem_role htree hrole
  exact hplain list hlist role hmem

/-! ### Functions with a keyword -/

lemma isFunctionPart_of_field {tree : Tree} (h : ∀ role ∈ tree.field, role ∉ ["name", "parameters", "body"]) :
    IsFunctionPart tree where
  name hfield := absurd (by decide) (h _ hfield)
  parameters hfield := absurd (by decide) (h _ hfield)
  body hfield := absurd (by decide) (h _ hfield)

lemma yieldsEach_functionPart {roles : List (List String)} [hplays : Plays reader roles] (h : Good source reader)
    (hplain : ∀ list ∈ roles, ∀ role ∈ list, role ∉ ["name", "parameters", "body"] := by decide) :
    YieldsEach source IsFunctionPart reader :=
  yieldsEach_of_plays _ (fun _ => isFunctionPart_of_field) h hplays hplain

/-- The parts of a function that are of one kind each. -/
def partKinds : List (String × String) :=
  [("name", "identifier"), ("parameters", "formal_parameters"), ("body", "statement_block")]

omit [GoodRules source rules] in
lemma yieldsEach_rolePart {role kind : String} (hrole : (role, kind) ∈ partKinds)
    (h : YieldsEach source (·.kind = kind) reader) : YieldsEach source IsFunctionPart (Reader.field role reader) := by
  refine (yieldsEach_field h).mono fun trees htrees tree htree => ?_
  obtain ⟨inner, hinner, rfl⟩ := htrees tree htree
  have hkind : (inner.withField role).kind = kind := (kind_withField ..).trans hinner
  simp only [partKinds, List.mem_cons, Prod.mk.injEq, List.not_mem_nil, or_false] at hrole
  constructor
  all_goals
    intro hfield
    rw [field_withField] at hfield
    rcases hrole with ⟨rfl, rfl⟩ | ⟨rfl, rfl⟩ | ⟨rfl, rfl⟩
    all_goals first
      | exact hkind
      | exact absurd hfield (by decide)

omit [GoodRules source rules] in
lemma yieldsEach_identifier : YieldsEach source (·.kind = "identifier") identifier :=
  (yields_leaf_single (Builds.good' (inferInstanceAs (Builds source identifier []))) fun _ => rfl).mono
    fun _ => IsSingle.forall

omit [GoodRules source rules] in
lemma yieldsEach_functionName : YieldsEach source IsFunctionPart (Reader.field "name" identifier) :=
  yieldsEach_rolePart (by decide) yieldsEach_identifier

lemma yieldsEach_signature : YieldsEach source IsFunctionPart (Types.callSignature rules) :=
  yieldsEach_all_cons (yieldsEach_functionPart (Builds.good' .closed)) (yieldsEach_all_cons
    (yieldsEach_rolePart (by decide) GoodRules.parameters) (yieldsEach_all_cons
      (yieldsEach_functionPart (Builds.good' .closed)) yieldsEach_all_nil))

lemma yieldsEach_functionBody : YieldsEach source IsFunctionPart (Reader.field "body" (rules .block)) :=
  yieldsEach_rolePart (by decide) GoodRules.block

/-- Functions with a keyword, as expressions and as declarations. -/
def keywordKinds : List String :=
  OfTree.functionKinds ++ OfTree.declarationKinds

omit [GoodRules source rules] in
lemma good_functionNode {kind : String} (hkind : kind ∈ keywordKinds) {first : List Tree} {roles others : List (List String)}
    (hfirst : (∀ tree ∈ first, Built source tree ∧ IsFunctionPart tree) ∧ PlaysRoles roles first)
    (hrest : YieldsParts source IsFunctionPart others reader) (hsubset : inTurn roles others ⊆ functionRoles) :
    Good source (Reader.nodeAfter kind first reader) := by
  refine yields_nodeAfter hrest fun stop rest hstop ⟨hrest, hplays⟩ => List.forall_mem_singleton.mpr ?_
  have hparts := List.forall_mem_append.mpr ⟨hfirst.1, hrest⟩
  have hshape : PlaysRoles functionRoles (first ++ rest) ∧ ∀ child ∈ first ++ rest, IsFunctionPart child :=
    ⟨(hfirst.2.append hplays).mono hsubset, fun child hchild => (hparts child hchild).2⟩
  have hspan := isStretch_after (fun tree htree => (hfirst.1 tree htree).1) hstop
  have hbuilt : ∀ child ∈ first ++ rest, Built source child := fun child hchild => (hparts child hchild).1
  simp only [keywordKinds, OfTree.functionKinds, OfTree.declarationKinds, List.cons_append, List.nil_append,
    List.mem_cons, List.not_mem_nil, or_false] at hkind
  rcases hkind with rfl | rfl | rfl | rfl | rfl
  all_goals exact built_construct hspan (by decide) hshape hbuilt

variable [OneRules rules]

/-- Words and signs play no role. -/
lemma parts_plain {roles : List (List String)} [hplays : Plays reader roles] (h : Good source reader)
    (hplain : roles ⊆ [[]] := by decide) : YieldsParts source IsFunctionPart [[]] reader := by
  refine h.parts (yieldsEach_functionPart h fun list hlist role hrole => ?_) hplays hplain
  rw [List.mem_singleton.mp (hplain hlist)] at hrole
  cases hrole

instance : Builds source (Expressions.function rules) [] := by
  have hhead : YieldsParts source IsFunctionPart [[]]
      (Reader.all [word "async", Reader.unbroken (word "function")] <|> word "function") :=
    parts_plain (Builds.good' .closed)
  have hstar : YieldsParts source IsFunctionPart [[]] (Reader.optional (punctuation "*")) :=
    parts_plain (Builds.good' .closed)
  have hrest : YieldsParts source IsFunctionPart functionRoles (Reader.all [Reader.optional (Reader.field "name" identifier),
      Reader.enclosed (Types.callSignature rules), Reader.field "body" (rules .block)]) := by
    refine Good.parts (Builds.good' .closed) ?_ inferInstance (by decide)
    exact yieldsEach_all_cons (yieldsEach_optional yieldsEach_functionName) (yieldsEach_all_cons
      (yields_enclosed yieldsEach_signature) (yieldsEach_all_cons yieldsEach_functionBody yieldsEach_all_nil))
  refine Good.builds (yields_bind hhead fun head hhead => yields_bind hstar fun star hstar => ?_)
  refine good_functionNode ?_ ⟨List.forall_mem_append.mpr ⟨hhead.1, hstar.1⟩, hhead.2.append hstar.2⟩ hrest (by decide)
  split <;> decide

lemma plays_place {next : Cursor → Reader} {roles : List (List String)} (hnext : ∀ cursor, Plays (next cursor) roles) :
    Plays (Read.place >>= next) roles where
  plays h := by
    obtain ⟨place, _, hplace, h⟩ := bind_eq_ok h
    cases hplace
    exact (hnext _).plays h

instance {pending : Pending} {n : Nat} : Plays (automaticEnd pending n) [[]] := by
  have hfail : Plays Read.fail [[]] := ⟨fun h => by cases h⟩
  induction n with
  | zero => exact hfail
  | succ n ih =>
    refine plays_place fun cursor => ?_
    split
    · exact inferInstanceAs (Plays Reader.none _)
    · split
      · refine ⟨fun h => ?_⟩
        obtain ⟨⟨⟩, _, -, h⟩ := bind_eq_ok h
        exact ih.plays h
      · exact hfail

instance : Plays optionalEnd [[]] :=
  plays_place fun _ => Plays.mono inferInstance (by decide)

instance {alone : Bool} {reader : Reader} {roles : List (List String)} [h : Plays reader roles] :
    Plays (Statements.afterWord alone reader) roles where
  plays hread := by
    unfold Statements.afterWord at hread
    split at hread
    · obtain ⟨place, _, hplace, hread⟩ := bind_eq_ok hread
      cases hplace
      split at hread
      · cases hread
      · exact h.plays hread
    · exact h.plays hread

instance {alone : Bool} {reader : Reader} {makings : List Making} [Builds source reader makings] :
    Builds source (Statements.afterWord alone reader) makings :=
  Builds.map inferInstance fun hreader => yields_ite (yields_onSameLine hreader) hreader

instance {alone : Bool} : Builds source (Statements.function rules alone) [] := by
  have hhead : YieldsParts source IsFunctionPart [[]]
      (Reader.all [word "async", Statements.afterWord alone (word "function")] <|> word "function") :=
    parts_plain (Builds.good' .closed)
  have hstar : YieldsParts source IsFunctionPart [[]] (Reader.optional (punctuation "*")) :=
    parts_plain (Builds.good' .closed)
  have hsignature : YieldsParts source IsFunctionPart (inTurn [["name"]] signatureRoles)
      (Reader.all [Reader.field "name" identifier, Types.callSignature rules]) := by
    refine Good.parts (Builds.good' .closed) ?_ inferInstance (by decide)
    exact yieldsEach_all_cons yieldsEach_functionName
      (yieldsEach_all_cons yieldsEach_signature yieldsEach_all_nil)
  have hbody : YieldsParts source IsFunctionPart [["body"]]
      (Reader.all [Reader.field "body" (rules .block), optionalEnd]) := by
    refine Good.parts (Builds.good' .closed) ?_ inferInstance (by decide)
    exact yieldsEach_all_cons yieldsEach_functionBody
      (yieldsEach_all_cons (yieldsEach_functionPart (Builds.good' .closed)) yieldsEach_all_nil)
  refine Good.builds (yields_bind hhead fun head hhead => yields_bind hstar fun star hstar =>
    yields_bind hsignature fun signature hsignature => yields_bind yields_token fun cursor _ => yields_ite ?_ ?_)
  · refine good_functionNode ?_ ⟨List.forall_mem_append.mpr ⟨List.forall_mem_append.mpr ⟨hhead.1, hstar.1⟩, hsignature.1⟩,
      (hhead.2.append hstar.2).append hsignature.2⟩ hbody (by decide)
    split <;> decide
  · have hbuilt {trees : List Tree} (h : ∀ tree ∈ trees, Built source tree ∧ IsFunctionPart tree) : AreBuilt source trees :=
      ⟨fun tree htree => (h tree htree).1⟩
    have := hbuilt hhead.1
    have := hbuilt hstar.1
    have := hbuilt hsignature.1
    exact Builds.good' .closed

/-! ### Calls -/

/-- A tree that plays a role. -/
lemma playsRoles_withField (role : String) (tree : Tree) : PlaysRoles [[role]] ([tree].map (·.withField role)) := by
  refine ⟨List.forall_mem_singleton.mpr fun _ => ?_, List.mem_singleton.mpr ?_⟩
  · rw [field_withField]
    rfl
  · rw [rolesOf, List.map_singleton, List.filterMap_cons, field_withField]
    rfl

omit [GoodRules source rules] [OneRules rules] in
/-- A call with its parts in their roles. -/
lemma good_call {roles : List (List String)} [hroles : Plays reader roles] (h : Good source reader)
    (tree : BuiltTree source) (hsubset : inTurn [["function"]] roles ⊆ callRoles := by decide) :
    Good source (Reader.nodeAfter "call_expression" ([tree.val].map (·.withField "function")) reader) := by
  refine yields_nodeAfter (h.plays hroles) fun stop rest hstop ⟨hrest, hplays⟩ => List.forall_mem_singleton.mpr ?_
  have hbuilt : ∀ first ∈ [tree.val].map (·.withField "function"), Built source first := AreBuilt.built
  refine built_construct (isStretch_after hbuilt hstop) (by decide) ?_ (List.forall_mem_append.mpr ⟨hbuilt, hrest⟩)
  exact ((playsRoles_withField "function" tree.val).append hplays).mono hsubset

/-! ### Arrow functions -/

lemma isArrowPart_of_field {tree : Tree} (h : ∀ role ∈ tree.field, role ∉ ["parameter", "parameters", "body"]) :
    IsArrowPart source tree where
  parameter hfield := absurd (by decide) (h _ hfield)
  parameters hfield := absurd (by decide) (h _ hfield)
  body hfield := absurd (by decide) (h _ hfield)

lemma yieldsEach_arrowPart {roles : List (List String)} [hplays : Plays reader roles] (h : Good source reader)
    (hplain : ∀ list ∈ roles, ∀ role ∈ list, role ∉ ["parameter", "parameters", "body"] := by decide) :
    YieldsEach source (IsArrowPart source) reader :=
  yieldsEach_of_plays _ (fun _ => isArrowPart_of_field) h hplays hplain

omit [OneRules rules] in
lemma yieldsEach_arrowHead {returnTypes : Bool} :
    YieldsEach source (IsArrowPart source) (Expressions.arrowHead rules returnTypes) := by
  have hparameters : YieldsEach source (IsArrowPart source) (Reader.field "parameters" (rules .parameters)) := by
    refine (yieldsEach_field GoodRules.parameters).mono fun trees htrees tree htree => ?_
    obtain ⟨inner, hinner, rfl⟩ := htrees tree htree
    refine ⟨fun hfield => ?_, fun _ => (kind_withField ..).trans hinner, fun hfield => ?_⟩
    all_goals
      rw [field_withField] at hfield
      exact absurd hfield (by decide)
  have hparameter : YieldsEach source (IsArrowPart source) (Reader.field "parameter" identifier) := by
    refine (yieldsEach_field yieldsEach_identifier).mono fun trees htrees tree htree => ?_
    obtain ⟨inner, hinner, rfl⟩ := htrees tree htree
    refine ⟨fun _ => (kind_withField ..).trans hinner, fun hfield => ?_, fun hfield => ?_⟩
    all_goals
      rw [field_withField] at hfield
      exact absurd hfield (by decide)
  refine yields_orElse (yields_whenAhead (yields_followedBy (yieldsEach_all_cons
    (yieldsEach_arrowPart (Builds.good' .closed)) (yieldsEach_all_cons ?_ yieldsEach_all_nil)))) ?_
  · exact yieldsEach_all_cons (yieldsEach_arrowPart (Builds.good' .closed)) (yieldsEach_all_cons hparameters
      (yieldsEach_all_cons (yieldsEach_arrowPart (Builds.good' .closed)) yieldsEach_all_nil))
  · exact yields_orElse (yields_followedBy (yieldsEach_all_cons (yieldsEach_arrowPart (Builds.good' .closed))
      (yieldsEach_all_cons (yields_unbroken hparameter) yieldsEach_all_nil))) (yields_followedBy hparameter)

omit [GoodRules source rules] [OneRules rules] in
/-- A reader of one construct gives one that starts with a visible character. -/
lemma yieldsEach_visible [hone : ReadsOne reader] (h : Good source reader) :
    YieldsEach source (fun tree => IsVisibleAt source tree.start) reader := by
  intro around cursor trees after hplace hread
  have hafter := (h around cursor trees after hplace hread).1
  obtain ⟨tree, rfl, hstart, -⟩ := hone.one hread
  have hahead := isAhead_toToken cursor
  have htoken := (isAfter_toToken cursor).isPlace hplace hahead
  refine ⟨hafter, List.forall_mem_singleton.mpr ?_⟩
  rw [hstart, IsVisibleAt, ← htoken.rest]
  exact hahead

omit [GoodRules source rules] [OneRules rules] in
/-- The text of a construct is found where the construct starts. -/
lemma head?_of_textOf {tree : Tree} {c : Char} (h : c ∈ (OfTree.textOf source tree).toList.head?) :
    (source.drop tree.start).head? = some c := by
  rw [OfTree.textOf, slice, String.toList_ofList, Option.mem_def, List.head?_take] at h
  split at h
  · cases h
  · exact h

omit [GoodRules source rules] [OneRules rules] in
/-- The character that an opening token begins with is where the construct starts. -/
lemma OpensWith.head? {tree : Tree} {text : String} (h : OpensWith text tree) (hbuilt : Built source tree) {c : Char}
    (hc : c ∈ text.toList.head?) : (source.drop tree.start).head? = some c := by
  obtain ⟨opening, rest, hchildren, rfl, hnamed, hstart⟩ := h
  rw [← (hbuilt.child (hchildren ▸ List.mem_cons_self)).shape.token hnamed] at hc
  rw [← hstart, head?_of_textOf hc]

omit [GoodRules source rules] [OneRules rules] in
/-- The literal of an object starts with a brace. -/
lemma startsWith_of_object {cursor : Cursor} (hplace : IsPlace source cursor) {tree : Tree} (h : Built source tree)
    (htree : OpensAt cursor.offset tree) (hkind : tree.kind = "object") : startsWith "\x7b" cursor.rest = true := by
  have hopens : OpensWith "\x7b" tree := h.shape.shaped_of_kind htree.named hkind
  have hhead := hopens.head? h (c := '\x7b') rfl
  rw [htree.start, ← hplace.rest] at hhead
  obtain ⟨rest, hrest⟩ := List.head?_eq_some_iff.mp hhead
  rw [hrest]
  rfl

/-- The parts of an arrow function in front of its body. -/
lemma parts_arrowHead {returnTypes : Bool} : YieldsParts source (IsArrowPart source) (signatureRoles ++ [["parameter"]])
    (Reader.all [Expressions.arrowHead rules returnTypes, punctuation "=>"]) := by
  have hhead : Good source (Expressions.arrowHead rules returnTypes) := by
    unfold Expressions.arrowHead
    exact Builds.good' .closed
  have harrow : Good source (punctuation "=>") := Builds.good' .closed
  refine Good.parts (yieldsEach_all_cons hhead (yieldsEach_all_cons harrow yieldsEach_all_nil)) ?_ inferInstance
    (by decide)
  exact yieldsEach_all_cons yieldsEach_arrowHead
    (yieldsEach_all_cons (yieldsEach_arrowPart harrow) yieldsEach_all_nil)

omit [GoodRules source rules] [OneRules rules] in
lemma built_arrowFunction {head : List Tree} {stop : Nat} (hstop : IsSeam source stop)
    (hhead : (∀ tree ∈ head, Built source tree ∧ IsArrowPart source tree) ∧
      PlaysRoles (signatureRoles ++ [["parameter"]]) head)
    {body : Tree} (hbody : Built source body) (hobject : body.kind ≠ "object")
    (hvisible : IsVisibleAt source body.start) :
    Built source (.mk "arrow_function" true none ⟨(head.head?.map Tree.start).getD stop, stop⟩
      (head ++ [body].map (·.withField "body"))) := by
  have hpart : IsArrowPart source (body.withField "body") := by
    refine ⟨fun hfield => ?_, fun hfield => ?_, fun _ => ?_⟩
    · rw [field_withField] at hfield
      exact absurd hfield (by decide)
    · rw [field_withField] at hfield
      exact absurd hfield (by decide)
    · rw [kind_withField, start_withField]
      exact ⟨hobject, hvisible⟩
  have hparts := List.forall_mem_append.mpr
    ⟨hhead.1, List.forall_mem_singleton.mpr ⟨built_withField hbody, hpart⟩⟩
  have hshape : PlaysRoles arrowRoles (head ++ [body].map (·.withField "body")) ∧
      ∀ child ∈ head ++ [body].map (·.withField "body"), IsArrowPart source child :=
    ⟨hhead.2.append (playsRoles_withField "body" body), fun child hchild => (hparts child hchild).2⟩
  exact built_construct (isStretch_after (fun tree htree => (hhead.1 tree htree).1) hstop) (by decide) hshape
    fun child hchild => (hparts child hchild).1

end RouteMigration.Proofs
