import RouteMigration.Proofs.FunctionRules

/-!
# Rules of the grammar

Whatever construct a rule reads has its shape, as long as the constructs inside of it have theirs. So by induction on
the depth of nesting every construct of a source has its shape.
-/

namespace RouteMigration.Proofs
open Syntax Grammar

variable {source : List Char}

-- the instances for a long rule are many
set_option synthInstance.maxSize 1024

variable {rules : Rules} [OneRules rules] [GoodRules source rules] {trees : List Tree} {makings : List Making}

/-! ### Expressions -/

section Expressions
open Grammar.Expressions

instance : Builds source (spread rules) [] := by
  unfold spread
  exact .closed

instance : Builds source (arguments rules) [] :=
  Good.builds (good_opening (by decide) (by rintro ⟨⟩ rfl h; exact h) readsMark_all.enclosed (Builds.good' .closed))

instance [AreBuilt source trees] : Builds source (sequenceAfter rules trees) [] := by
  unfold sequenceAfter
  exact .closed

instance : Builds source (parenthesized rules) [] := by
  unfold parenthesized
  exact .closed

instance : Builds source (array rules) [] := by
  unfold array
  exact .closed

instance : Builds source (objectMember rules) [] := by
  unfold objectMember
  exact .closed

instance : Builds source (object rules) [] :=
  Good.builds (good_opening (by decide) (by rintro ⟨⟩ rfl h; exact h) readsMark_all.enclosed (Builds.good' .closed))

/-- What a decorator names may be called, again and again. -/
instance : Builds source (decorator rules) [] := by
  have hnamed : Good source (do
      let first ← identifier
      let chain ← Reader.extend (fun trees => Reader.nodeAfter "member_expression" (trees.map (·.withField "object"))
        (Types.dotted "property_identifier" "property")) first
      Reader.extend (fun trees => Reader.nodeAfter "call_expression" (trees.map (·.withField "function")) (Reader.all [
        Reader.optional (Reader.field "type_arguments" (Types.typeArguments rules)),
        Reader.field "arguments" (rules .arguments)])) chain) :=
    good_bind_one (Builds.good' .closed) fun first => @good_bind_goesOn _ _ _ first.val inferInstance
      (Builds.good' .closed) (good_extend_one fun tree => good_call (Builds.good' .closed) tree)
  have := hnamed.builds
  unfold decorator
  exact .closed

instance : Builds source (heritage rules) [] := by
  unfold heritage
  exact .closed

instance : Builds source (classTail rules) [] := by
  unfold classTail
  exact .closed

instance : Builds source className [] := by
  unfold className
  exact .closed

instance : Builds source (classExpression rules) [] := by
  unfold classExpression
  exact .closed

instance : Builds source (primary rules) [] := by
  refine Good.builds (yields_bind yields_token fun cursor _ => ?_)
  split
  all_goals exact Builds.good' .closed

instance [AreBuilt source trees] : Builds source (memberStep rules trees) [] := by
  unfold memberStep
  exact .closed

lemma good_callStep (tree : BuiltTree source) : Good source (callStep rules [tree.val]) := by
  refine yields_orElse (good_call (Builds.good' .closed) tree) (yields_orElse (good_call (Builds.good' .closed) tree)
    (yields_orElse (good_call (Builds.good' .closed) tree) (yields_orElse (good_call (Builds.good' .closed) tree) ?_)))
  exact Builds.good' .closed

lemma good_step (tree : BuiltTree source) :
    Good source ((fun trees => memberStep rules trees <|> callStep rules trees) [tree.val]) :=
  yields_orElse (Builds.good' inferInstance) (good_callStep tree)

instance : Builds source (construct rules) [] := by
  unfold construct
  exact .closed

instance : Builds source (constructible rules) [] := by
  unfold constructible
  exact .closed

instance : Builds source (chain rules) [] :=
  Good.builds (good_bind_one (Builds.good' inferInstance) (good_extend_one good_step))

instance : Builds source (heritageValue rules) [] := by
  refine Good.builds (good_bind_one (Builds.good' inferInstance) (good_extend_one fun tree => ?_))
  exact yields_orElse (Builds.good' inferInstance) (good_call (Builds.good' .closed) tree)

instance : Builds source (postfixed rules) [] := by
  unfold postfixed
  exact .closed

instance [AreBuilt source trees] : Builds source (typeOperator rules trees) [] := by
  unfold typeOperator
  exact .closed

instance : Builds source (unary rules) [] := by
  unfold unary
  exact .closed

lemma isStretch_combine {left right : List Tree} [AreBuilt source left] [AreBuilt source right] :
    IsStretch source ⟨(left.head?.map Tree.start).getD 0,
      (right.getLast?.map Tree.stop).getD ((left.head?.map Tree.start).getD 0)⟩ := by
  have hstart : IsSeam source ((left.head?.map Tree.start).getD 0) := by
    cases hleft : left.head? with
    | none => exact (isPlace_start source).seam
    | some tree => exact (AreBuilt.built tree (List.mem_of_mem_head? hleft)).shape.start
  refine ⟨hstart, ?_⟩
  cases hright : right.getLast? with
  | none => exact hstart
  | some tree => exact (AreBuilt.built tree (List.mem_of_getLast? hright)).shape.stop

instance {left operator right : List Tree} [AreBuilt source left] [AreBuilt source operator] [AreBuilt source right] :
    AreBuilt source (combine left operator right) :=
  ⟨List.forall_mem_singleton.mpr (built_of_isFree isStretch_combine (by decide) AreBuilt.built)⟩

/-- What an operand waits with has its shape. -/
def AreWaiting (source : List Char) (stack : List Waiting) : Prop :=
  ∀ waiting ∈ stack, AreBuilt source waiting.left ∧ AreBuilt source waiting.token

lemma reduce_built {level : Nat} {right : Bool} {stack : List Waiting} {operand : List Tree}
    (hstack : AreWaiting source stack) (hoperand : AreBuilt source operand) :
    AreWaiting source (reduce level right stack operand).1 ∧ AreBuilt source (reduce level right stack operand).2 := by
  induction stack generalizing operand with
  | nil => exact ⟨hstack, hoperand⟩
  | cons waiting stack ih =>
    obtain ⟨⟨hleft, htoken⟩, hrest⟩ := List.forall_mem_cons.mp hstack
    unfold reduce
    split
    · exact ih hrest inferInstance
    · exact ⟨hstack, hoperand⟩

/-- An operator that comes next is one of those that are known. -/
lemma isFree_operatorAhead {rest : List Char} {operator : Operator} (h : operatorAhead rest = some operator) :
    IsFree (.mark operator.text) := by
  have hall : ∀ operator ∈ operators, IsFree (.mark operator.text) := by decide
  unfold operatorAhead at h
  split at h
  · exact hall operator (List.mem_of_find?_eq_some h)
  · exact hall operator (List.mem_of_find?_eq_some h)

lemma yields_binaryOperator : Yields source binaryOperator fun result => AreBuilt source result.2 := by
  refine yields_bind yields_token fun cursor _ => ?_
  split
  · next operator hoperator =>
    have htoken (reader : Reader) (h : Good source reader) : Yields source
        (do let tree ← reader; return (operator, tree.map (·.withField "operator")))
        fun result => AreBuilt source result.2 := by
      refine yields_bind h fun trees htrees => yields_pure ?_
      have : AreBuilt source trees := ⟨htrees⟩
      exact inferInstanceAs (AreBuilt source (trees.map (·.withField "operator")))
    exact yields_ite yields_fail
      (yields_ite (htoken _ (Builds.good' inferInstance))
        (htoken _ (Builds.good (List.forall_mem_singleton.mpr (isFree_operatorAhead hoperator)))))
  · exact yields_fail

omit [OneRules rules] in
lemma good_binaryUpTo (n : Nat) (stack : List Waiting) (operand : List Tree) (hstack : AreWaiting source stack)
    (hoperand : AreBuilt source operand) : Good source (binaryUpTo rules n stack operand) := by
  induction n generalizing stack operand with
  | zero => exact yields_fail
  | succ n ih =>
    have hwhole : AreBuilt source (reduce 0 false stack operand).2 := (reduce_built hstack hoperand).2
    refine yields_orElse ?_ (yields_orElse ?_ (yields_pure hwhole.built))
    · refine yieldsEach_bind (Builds.good' inferInstance) fun trees htrees => ?_
      exact ih [] trees (List.forall_mem_nil _) ⟨htrees⟩
    · refine yields_bind yields_binaryOperator fun result hresult => ?_
      obtain ⟨hwaiting, hleft⟩ := reduce_built hstack hoperand
      refine yieldsEach_bind (Builds.good' inferInstance) fun trees htrees => ?_
      exact ih _ trees (List.forall_mem_cons.mpr ⟨⟨hleft, hresult⟩, hwaiting⟩) ⟨htrees⟩

instance {n : Nat} [AreBuilt source trees] : Builds source (binaryUpTo rules n [] trees) [] :=
  Good.builds (good_binaryUpTo n [] trees (List.forall_mem_nil _) inferInstance)

instance : Builds source (binary rules) [] := by
  unfold binary
  exact .closed

instance [AreBuilt source trees] : Builds source (ternary rules trees) [] := by
  unfold ternary
  exact .closed

lemma good_afterBlock (tree : BuiltTree source) : Good source (afterBlock rules [tree.val]) :=
  @good_bind_goesOn _ _ _ tree.val inferInstance (good_extend_one good_step tree) fun _ => Builds.good' .closed

omit [OneRules rules] in
/-- An arrow function has its shape if the body that is read is no literal of an object. -/
lemma good_arrowBody {kind : Rule} [ReadsOne (rules kind)] {head : List Tree} {around : Surroundings}
    {cursor after : Cursor}
    (hhead : (∀ tree ∈ head, Built source tree ∧ IsArrowPart source tree) ∧
      PlaysRoles (signatureRoles ++ [["parameter"]]) head)
    (hplace : IsPlace source cursor)
    (hread : Reader.nodeAfter "arrow_function" head (Reader.field "body" (rules kind)) around cursor = .ok (trees, after))
    (hobject : ∀ body, rules kind around cursor = .ok ([body], after) → Built source body →
      OpensAt cursor.toToken.offset body → body.kind ≠ "object") :
    IsPlace source after ∧ ∀ tree ∈ trees, Built source tree := by
  obtain ⟨rest, hrest, rfl⟩ := nodeAfter_eq_ok hread
  obtain ⟨bodies, _, hbodies, hrest⟩ := bind_eq_ok hrest
  cases hrest
  obtain ⟨body, rfl, hopens⟩ := ReadsOne.one hbodies
  obtain ⟨hafter, hbuilt⟩ := GoodRules.good kind around cursor _ after hplace hbodies
  have hbuilt := List.forall_mem_singleton.mp hbuilt
  have hvisible := (yieldsEach_visible (GoodRules.good kind) around cursor _ after hplace hbodies).2 body List.mem_cons_self
  exact ⟨hafter, List.forall_mem_singleton.mpr
    (built_arrowFunction hafter.seam hhead hbuilt (hobject body hbodies hbuilt hopens) hvisible)⟩

/-- The body of an arrow function is a block, or it does not start with a brace. -/
instance {returnTypes : Bool} : Builds source (arrow rules returnTypes) [] := by
  refine Good.builds (yields_bind parts_arrowHead fun head hhead => ?_)
  intro around cursor trees after hplace hread
  obtain ⟨token, _, htoken, hread⟩ := bind_eq_ok hread
  cases htoken
  split at hread
  · have hfunction : Good source (Reader.nodeAfter "arrow_function" head (Reader.field "body" (rules .block))) := by
      intro around cursor trees after hplace hread
      refine good_arrowBody hhead hplace hread fun body hbody _ _ => ?_
      have hkind := (GoodRules.block around cursor _ after hplace hbody).2 body List.mem_cons_self
      rw [hkind]
      decide
    refine good_bind_single (fun h => ?_) hfunction good_afterBlock around cursor trees after hplace hread
    obtain ⟨rest, -, rfl⟩ := nodeAfter_eq_ok h
    exact ⟨_, rfl⟩
  · next hbrace =>
    refine good_arrowBody hhead hplace hread fun body _ hbuilt hopens hobject => ?_
    have htoken := (isAfter_toToken cursor).isPlace hplace (isAhead_toToken cursor)
    exact hbrace (startsWith_of_object htoken hbuilt hopens hobject)

instance : Builds source (yielding rules) [] := by
  unfold yielding
  exact .closed

instance : Builds source (Expressions.destructuring rules) [] := by
  unfold Expressions.destructuring
  exact .closed

instance : Builds source augmented [] := by
  have hall : ∀ text ∈ augmentedOperators, IsFree (.mark text) := by decide
  refine Good.builds (yields_bind yields_token fun cursor _ => ?_)
  dsimp only
  split
  · next hoperator =>
    exact Builds.good (List.forall_mem_singleton.mpr (hall _ (List.mem_of_find?_eq_some hoperator)))
  · exact yields_fail

instance : Builds source (assignment rules) [] := by
  unfold assignment
  exact .closed

instance {returnTypes : Bool} : Builds source (expression rules returnTypes) [] := by
  unfold expression
  exact .closed

instance : Builds source (expressions rules) [] := by
  unfold expressions
  exact .closed

end Expressions

/-! ### Classes -/

section Classes
open Grammar.Classes

instance : Builds source memberModifier [] := by
  unfold memberModifier
  exact .closed

instance {pending : Pending} : Builds source (memberEnd pending) [] := by
  unfold memberEnd
  exact .closed

instance [AreBuilt source trees] : Builds source (method rules trees) [] := by
  unfold method
  exact .closed

instance [AreBuilt source trees] : Builds source (property rules trees) [] := by
  unfold property
  exact .closed

instance : Builds source (staticBlock rules) [] := by
  unfold staticBlock
  exact .closed

instance : Builds source (member rules) [] := by
  unfold member
  exact .closed

instance : Builds source (body rules) [] := by
  unfold body
  exact .closed

end Classes

/-! ### Statements -/

section Statements
open Grammar.Statements

instance : Builds source (block rules) [] :=
  Good.builds (good_opening (by decide) (by rintro ⟨⟩ rfl h; exact h) readsMark_all (Builds.good' .closed))

instance : Builds source (declarator rules) [] := by
  unfold declarator
  exact .closed

instance {kind : String} {keyword : Reader} [h : Builds source keyword makings] :
    Builds source (declarations rules kind keyword) (.construct kind :: makings) where
  good hfree := by
    obtain ⟨hkind, hfree⟩ := List.forall_mem_cons.mp hfree
    have hkeyword : Builds source keyword [] := (h.good hfree).builds
    exact good_node hkind (Builds.good' .closed)

instance : Builds source (lexical rules) [] := by
  unfold lexical
  exact .closed

instance : Builds source (variableDeclaration rules) [] := by
  unfold variableDeclaration
  exact .closed

instance [AreBuilt source trees] : Builds source (classAfter rules trees) [] := by
  unfold classAfter
  exact .closed

instance : Builds source (decorators rules) [] := by
  unfold decorators
  exact .closed

instance : Builds source (interface rules) [] := by
  unfold interface
  exact .closed

instance : Builds source (enum rules) [] := by
  unfold enum
  exact .closed

instance {alone : Bool} : Builds source (typeAlias rules alone) [] := by
  unfold typeAlias
  exact .closed

instance : Builds source nestedName [] := by
  unfold nestedName
  exact .closed

instance {alone : Bool} : Builds source (moduleRest rules alone) [] := by
  unfold moduleRest
  exact .closed

instance {alone : Bool} : Builds source (internalModule rules alone) [] := by
  unfold internalModule
  exact .closed

instance {alone : Bool} : Builds source (module rules alone) [] := by
  unfold module
  exact .closed

instance : Builds source importAlias [] := by
  unfold importAlias
  exact .closed

instance {alone : Bool} {n : Nat} : Builds source (declarationUpTo rules alone n) [] := by
  refine Good.builds ?_
  induction n generalizing alone with
  | zero => exact yields_fail
  | succ n ih =>
    have : Builds source (declarationUpTo rules false n) [] := ih.builds
    refine yields_bind yields_token fun cursor _ => ?_
    dsimp only
    split
    all_goals exact Builds.good' .closed

instance {alone : Bool} : Builds source (declaration rules alone) [] := by
  unfold declaration
  exact .closed

instance : Builds source (condition rules) [] := by
  unfold condition
  exact .closed

instance : Builds source (body rules) [] := by
  unfold body
  exact .closed

instance : Builds source (ifStatement rules) [] := by
  unfold ifStatement
  exact .closed

instance : Builds source (switchStatement rules) [] := by
  unfold switchStatement
  exact .closed

instance : Builds source emptyStatement [] := by
  unfold emptyStatement
  exact .closed

instance : Builds source (forInHeader rules) [] := by
  unfold forInHeader
  exact .closed

instance : Builds source (forStatement rules) [] := by
  unfold forStatement
  exact .closed

instance : Builds source (whileStatement rules) [] := by
  unfold whileStatement
  exact .closed

instance : Builds source (doStatement rules) [] := by
  unfold doStatement
  exact .closed

instance : Builds source (tryStatement rules) [] := by
  unfold tryStatement
  exact .closed

instance : Builds source (withStatement rules) [] := by
  unfold withStatement
  exact .closed

instance {kind keyword : String} : Builds source (jump kind keyword) [.construct kind] where
  good hfree := good_node (hfree _ List.mem_cons_self) (Builds.good' .closed)

instance : Builds source (returnStatement rules) [] := by
  unfold returnStatement
  exact .closed

instance : Builds source (throwStatement rules) [] := by
  unfold throwStatement
  exact .closed

instance : Builds source debuggerStatement [] := by
  unfold debuggerStatement
  exact .closed

instance : Builds source (expressionStatement rules) [] := by
  unfold expressionStatement
  exact .closed

instance : Builds source (namespaceStatement rules) [] := by
  unfold namespaceStatement
  exact .closed

instance : Builds source (labeled rules) [] := by
  unfold labeled
  exact .closed

instance {exporting importing : Reader} [Builds source exporting []] [Builds source importing []] {name : String} :
    Builds source (byWord rules exporting importing name) [] := by
  unfold byWord
  refine Good.builds ?_
  dsimp only
  split
  all_goals exact Builds.good' .closed

instance {exporting importing : Reader} [Builds source exporting []] [Builds source importing []] :
    Builds source (statement rules exporting importing) [] := by
  refine Good.builds (yields_bind yields_token fun cursor _ => ?_)
  dsimp only
  split
  · exact Builds.good' .closed
  · exact Builds.good' .closed
  · exact Builds.good' .closed
  · split
    all_goals exact Builds.good' .closed

end Statements

/-! ### Markup -/

section Markup
open Grammar.Markup

instance {kind : String} : Builds source (name kind) [.leaf kind] where
  good hfree := by
    refine good_freeLeaf (hfree _ List.mem_cons_self) fun start stop hstop => ?_
    split at hstop
    · cases hstop
    · next c rest hrest =>
      split at hstop
      · next hname =>
        cases hstop
        refine ⟨inline_dropWhile (by decide) start, fun _ => ?_⟩
        have hpart : (fun d => isNamePart d || d = '-') c = true :=
          Bool.or_eq_true_iff.mpr (.inl (Bool.and_eq_true_iff.mp hname).1)
        have hpos : 0 < ((c :: rest).takeWhile fun d => isNamePart d || d = '-').length := by
          rw [List.takeWhile_cons, if_pos hpart]
          exact Nat.succ_pos _
        rw [dropWhile_eq, hrest]
        dsimp only
        omega
      · cases hstop

instance : Builds source namespaced [] := by
  unfold namespaced
  exact .closed

instance : Builds source elementName [] := by
  unfold elementName
  exact .closed

instance : Builds source (Markup.expression rules) [] := by
  unfold Markup.expression
  exact .closed

lemma quoted_of_ne_nil {quote : Char} {rest : List Char} (h : rest.dropWhile (· ≠ quote) ≠ []) :
    ∃ inner more, rest = inner ++ quote :: more ∧ rest.dropWhile (· ≠ quote) = quote :: more ∧
      rest.takeWhile (· ≠ quote) = inner := by
  obtain ⟨last, more, hmore⟩ := List.exists_cons_of_ne_nil h
  have hlast : last = quote := by
    have hhead := List.head?_dropWhile_not (· ≠ quote) rest
    rw [hmore] at hhead
    simpa using hhead
  rw [hlast] at hmore
  refine ⟨rest.takeWhile (· ≠ quote), more, ?_, hmore, rfl⟩
  rw [← hmore, List.takeWhile_append_dropWhile]

instance : Builds source attributeString [] := by
  refine Good.builds (good_quoted fun start stop hstop => ?_)
  have hquoted (quote : Char) (hquote : quote = '"' ∨ quote = '\'') (rest : List Char) (hrest : start.rest = quote :: rest)
      (hend : (if ((start.advance 1).dropWhile (· ≠ quote)).rest = [] then none
        else some (((start.advance 1).dropWhile (· ≠ quote)).advance 1)) = some stop) :
      ∃ quote inner, (quote = '"' ∨ quote = '\'') ∧ MovesPast (quote :: (inner ++ [quote])) start stop := by
    have hadvance : start.advance 1 = ⟨rest, start.offset + 1⟩ := by
      rw [Cursor.advance, hrest]
      rfl
    rw [hadvance, dropWhile_eq] at hend
    dsimp only at hend
    split at hend
    · cases hend
    · next hnonempty =>
      obtain ⟨inner, more, hsplit, hdrop, htake⟩ := quoted_of_ne_nil hnonempty
      cases hend
      rw [hdrop, htake]
      refine ⟨quote, inner, hquote, ?_, ?_⟩
      · rw [hrest, hsplit, Cursor.advance, List.cons_append, List.append_assoc, List.singleton_append,
          List.drop_succ_cons, List.drop_zero]
      · rw [Cursor.advance, List.length_cons, List.length_append, List.length_singleton]
        dsimp only
        omega
  split at hstop
  · next hrest => exact hquoted _ (.inl rfl) _ hrest hstop
  · next hrest => exact hquoted _ (.inr rfl) _ hrest hstop
  · cases hstop

instance : Builds source (markupAttribute rules) [] := by
  unfold markupAttribute
  exact .closed

instance : Builds source closing [] := by
  unfold closing
  exact .closed

/-- Text between tags stops in front of a bracket. -/
lemma isAhead_textEnd (cursor : Cursor) : IsAhead (textEnd cursor) := by
  have hbrackets : ∀ c ∈ "<>\x7b\x7d".toList, IsVisible c := by
    intro c hc
    have hall : c ∈ ['<', '>', '\x7b', '\x7d'] := hc
    simp only [List.mem_cons, List.not_mem_nil, or_false] at hall
    rcases hall with rfl | rfl | rfl | rfl <;> exact ⟨by decide, by decide⟩
  intro c hc
  rw [textEnd, dropWhile_eq] at hc
  have hnot := List.head?_dropWhile_not (fun c => !"<>\x7b\x7d".toList.contains c) cursor.rest
  rw [Option.mem_def.mp hc] at hnot
  have hnot : (!"<>\x7b\x7d".toList.contains c) = false := hnot
  rw [Bool.not_eq_false'] at hnot
  exact hbrackets c (List.contains_iff_mem.mp hnot)

instance {n : Nat} : Builds source (content rules n) [] := by
  refine Good.builds ?_
  induction n with
  | zero => exact yields_fail
  | succ n ih =>
    refine yields_bind yields_place fun cursor hcursor => ?_
    refine yields_bind (yields_moveTo ((isAfter_dropWhile _ _).isPlace hcursor (isAhead_textEnd cursor))) fun _ _ => ?_
    have : Builds source (content rules n) [] := ih.builds
    split
    all_goals exact Builds.good' .closed

instance : Builds source (element rules) [] := by
  unfold element
  exact .closed

end Markup

/-! ### Imports and exports -/

section Modules
open Grammar.Modules

instance : Builds source externalName [] := by
  unfold externalName
  exact .closed

instance : Builds source fromClause [] := by
  unfold fromClause
  exact .closed

instance : Builds source typeMark [] := by
  unfold typeMark
  exact .closed

instance : Builds source importSpecifier [] := by
  unfold importSpecifier
  exact .closed

instance : Builds source namedImports [] := by
  unfold namedImports
  exact .closed

instance : Builds source importClause [] := by
  unfold importClause
  exact .closed

instance : Builds source (importAttributes rules) [] := by
  unfold importAttributes
  exact .closed

instance : Builds source (importStatement rules) [] := by
  unfold importStatement
  exact .closed

instance : Builds source exportSpecifier [] := by
  unfold exportSpecifier
  exact .closed

instance : Builds source exportClause [] := by
  unfold exportClause
  exact .closed

instance : Builds source (defaultExport rules) [] := by
  unfold defaultExport
  exact .closed

instance : Builds source (exportStatement rules) [] := by
  unfold exportStatement
  exact .closed

end Modules

/-! ### Programs -/

/-- However deep the rules are applied inside each other, what they read has its shape. -/
instance goodRules (depth : Nat) : GoodRules source (Grammar.rules depth) := by
  induction depth with
  | zero => exact ⟨fun _ => yields_fail, yields_fail, yields_fail, yields_fail⟩
  | succ depth ih =>
    have htemplate : Good source (Types.template "template_string" "template_substitution" (Grammar.rules depth .expressions)) := by
      refine good_template (by decide) (fun hmark hparts => ?_) (GoodRules.good _)
      exact good_opening (by decide) (by rintro ⟨⟩ rfl h; exact h) hmark hparts
    have := htemplate.builds
    have hgood (rule : Rule) : Good source (Grammar.rules (depth + 1) rule) := by
      cases rule
      all_goals
        simp only [Grammar.rules]
        exact Builds.good' .closed
    refine ⟨hgood, yields_pattern, ?_, ?_⟩
    · intro around cursor trees after hplace hread
      obtain ⟨children, -, rfl⟩ := node_eq_ok hread
      exact ⟨(hgood .parameters around cursor _ after hplace hread).1, List.forall_mem_singleton.mpr rfl⟩
    · intro around cursor trees after hplace hread
      obtain ⟨children, -, rfl⟩ := node_eq_ok hread
      exact ⟨(hgood .block around cursor _ after hplace hread).1, List.forall_mem_singleton.mpr rfl⟩

instance : Builds source Grammar.comment [] := by
  refine Good.builds (yields_bind yields_place fun cursor hcursor => ?_)
  dsimp only
  split
  · next stop hstop =>
    have hplace := isPlace_comment hstop hcursor
    have hstart : IsPlace source (cursor.dropWhile isSpace) := by
      refine (isAfter_dropWhile _ _).isPlace hcursor fun c hc => ?_
      rw [dropWhile_eq] at hc
      have hnot := List.head?_dropWhile_not isSpace cursor.rest
      rw [Option.mem_def.mp hc] at hnot
      exact isVisible_of_not_isSpace hnot
    refine yields_bind (yields_moveTo hplace) fun _ _ => yields_pure (List.forall_mem_singleton.mpr ?_)
    have hkind : "comment" ∉ shapedKinds ∧ "comment" ∉ OfTree.identifierKinds := by decide
    exact built_leaf ⟨hstart.seam, hplace.seam⟩ nofun (fun h => absurd h hkind.2)
      fun _ => kindShape_of_not_mem hkind.1
  · exact yields_fail

instance : Builds source hashBang [] := by
  refine Good.builds (good_freeLeaf (by decide) fun start stop hstop => ⟨?_, fun h => absurd h (by decide)⟩)
  split at hstop
  · cases hstop
    exact inline_dropWhile (by decide) start
  · cases hstop

instance : Builds source (program rules) [] := by
  unfold program
  exact .closed

/-- Every construct of a source has its shape. -/
theorem built_of_parse {dialect : Dialect} {root : Tree} (h : Grammar.parse dialect source = .ok root) :
    Built source root := by
  have hprogram : Good source (program (Grammar.rules (8 * (source.length + 1)))) := Builds.good' inferInstance
  cases hread : program (Grammar.rules (8 * (source.length + 1))) ⟨dialect, false⟩ ⟨source, 0⟩ with
  | error offset =>
    rw [Grammar.parse, hread] at h
    cases h
  | ok result =>
    obtain ⟨trees, rest⟩ := result
    have htrees : ∀ tree ∈ trees, Built source tree := (hprogram _ _ _ _ (isPlace_start source) hread).2
    have hspan : IsStretch source ⟨0, source.length⟩ := by
      refine ⟨(isPlace_start source).seam, fun _ => .inr ?_⟩
      rw [List.drop_length]
      nofun
    rw [Grammar.parse, hread] at h
    dsimp only [bind, Except.bind] at h
    split at h
    · cases h
      exact built_of_isFree hspan (by decide) htrees
    · cases h

end RouteMigration.Proofs
