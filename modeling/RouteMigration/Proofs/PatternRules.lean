import RouteMigration.Proofs.TypeRules

/-!
# Rules of patterns

Patterns and parameters have the shapes that tell what they bind.
-/

namespace RouteMigration.Proofs
open Syntax Grammar OfTree

variable {source : List Char}

-- the instances for a long rule are many
set_option synthInstance.maxSize 1024

variable {rules : Rules} [GoodRules source rules] {trees : List Tree}

/-! ### Constructs in patterns -/

section Patterns
open Grammar.Patterns

instance [AreBuilt source trees] : Builds source (memberStep rules trees) [] := by
  unfold memberStep
  exact .closed

instance : Builds source (target rules) [] := by
  unfold target
  exact .closed

instance : Builds source (rest rules) [] := by
  unfold rest
  exact .closed

instance : Builds source (withDefault rules) [] := by
  unfold withDefault
  exact .closed

instance : Builds source (objectEntry rules) [] := by
  unfold objectEntry
  exact .closed

instance : Builds source (object rules) [] := by
  unfold object
  exact .closed

instance : Builds source (array rules) [] := by
  unfold array
  exact .closed

instance : Builds source (destructuring rules) [] := by
  unfold destructuring
  exact .closed

instance : Builds source (pattern rules) [] := by
  unfold pattern
  exact .closed

instance : Builds source (binding rules) [] := by
  unfold binding
  exact .closed

instance : Builds source parameterModifier [] := by
  unfold parameterModifier
  exact .closed

instance {decorator : Reader} [Builds source decorator []] : Builds source (parameter rules decorator) [] := by
  unfold parameter
  exact .closed

/-! ### Shapes of patterns -/

lemma isPattern_withField {field : String} {tree : Tree} (h : IsPattern tree) : IsPattern (tree.withField field) := by
  obtain ⟨kind, named, role, span, children⟩ := tree
  cases h with
  | name hkind => exact .name hkind
  | target hkind => exact .target hkind
  | group hkind hchildren => exact .group hkind hchildren
  | pair hkind hchildren => exact .pair hkind hchildren
  | assignment hkind hchildren hstart hleft hfield hequals =>
    exact .assignment hkind hchildren hstart hleft hfield hequals

lemma yields_initializer {role : String} : Yields source (initializer rules role) StartsWithEquals := by
  have hequals : Yields source equals (IsSingle fun tree => tree.kind = "=" ∧ tree.isNamed = false) :=
    yields_leaf_single (Builds.good' (inferInstanceAs (Builds source equals _))) fun _ => ⟨rfl, rfl⟩
  have hvalue : Good source (Reader.all [Reader.field role (rules .value)]) := Builds.good' inferInstance
  refine (yields_all_cons hequals hvalue).mono ?_
  rintro _ ⟨_, more, rfl, ⟨equals, rfl, hequals⟩, -⟩
  exact ⟨equals, more, rfl, hequals⟩

/-- Tokens in a group bind nothing. -/
lemma yields_token_group {reader : Reader} (h : Yields source reader (IsSingle fun tree => tree.isNamed = false)) :
    YieldsEach source (fun tree => tree.isNamed = true → IsPattern tree) reader := by
  refine h.mono fun _ htrees tree htree hnamed => ?_
  rw [htrees.forall tree htree] at hnamed
  cases hnamed

lemma yields_punctuation {text : String} (h : IsFree (.mark text) := by decide) :
    Yields source (punctuation text) (IsSingle fun tree => tree.isNamed = false) := by
  have hgood : Good source (punctuation text) := Builds.good (List.forall_mem_singleton.mpr h)
  exact yields_leaf_single hgood fun _ => rfl

lemma yields_entry {reader : Reader} (h : Yields source reader (IsSingle IsPattern)) :
    YieldsEach source (fun tree => tree.isNamed = true → IsPattern tree) reader :=
  h.mono fun _ htrees tree htree _ => htrees.forall tree htree

lemma yields_rest : Yields source (rest rules) (IsSingle IsPattern) := by
  refine yields_node (yieldsEach_all_cons (yields_token_group yields_punctuation)
    (yieldsEach_all_cons (yields_entry GoodRules.pattern) yieldsEach_all_nil)) fun span children _ hchildren => ?_
  have hkind : "rest_pattern" ∈ groupKinds := by decide
  exact ⟨_, rfl, .group hkind hchildren⟩

lemma yields_withDefault : Yields source (withDefault rules) (IsSingle IsPattern) := by
  refine yields_bind GoodRules.pattern ?_
  rintro _ ⟨left, rfl, hleft⟩
  refine yields_orElse (yields_nodeAfter yields_initializer ?_) (yields_pure ⟨left, rfl, hleft⟩)
  intro stop right _ hequals
  have hkind : "assignment_pattern" ∈ assignmentKinds := by decide
  obtain ⟨kind, named, role, span, children⟩ := left
  exact ⟨_, rfl, .assignment hkind rfl rfl (isPattern_withField hleft) rfl hequals⟩

lemma yields_pair : Yields source (Reader.node "pair_pattern" (Reader.all
    [Reader.field "key" (propertyName rules), punctuation ":", Reader.field "value" (withDefault rules)]))
    (IsSingle IsPattern) := by
  have hkey : YieldsEach source (fun tree => tree.field = some "value" → IsPattern tree)
      (Reader.field "key" (propertyName rules)) := by
    have hname : Good source (propertyName rules) := Builds.good' inferInstance
    refine (yieldsEach_field hname).mono fun trees htrees tree htree hfield => ?_
    obtain ⟨inner, -, rfl⟩ := htrees tree htree
    rw [field_withField] at hfield
    exact absurd hfield (by decide)
  have hcolon : YieldsEach source (fun tree => tree.field = some "value" → IsPattern tree) (punctuation ":") := by
    have hgood : Good source (punctuation ":") := Builds.good' .closed
    exact (yields_leaf_single hgood fun _ => nofun).mono fun _ => IsSingle.forall
  have hvalue : YieldsEach source (fun tree => tree.field = some "value" → IsPattern tree)
      (Reader.field "value" (withDefault rules)) := by
    refine (yieldsEach_field (yields_withDefault.mono fun _ => IsSingle.forall)).mono fun trees htrees tree htree _ => ?_
    obtain ⟨inner, hinner, rfl⟩ := htrees tree htree
    exact isPattern_withField hinner
  refine yields_node (yieldsEach_all_cons hkey (yieldsEach_all_cons hcolon (yieldsEach_all_cons hvalue
    yieldsEach_all_nil))) fun span children _ hchildren => ?_
  have hkind : "pair_pattern" = "pair_pattern" := rfl
  exact ⟨_, rfl, .pair hkind hchildren⟩

lemma yields_objectEntry : Yields source (objectEntry rules) (IsSingle IsPattern) := by
  have hname : "shorthand_property_identifier_pattern" ∈ nameKinds := by decide
  have hshorthand : YieldsEach source (Built source) (nameOf "shorthand_property_identifier_pattern") :=
    Builds.good' .closed
  refine yields_orElse yields_pair (yields_orElse yields_rest (yields_orElse ?_ ?_))
  · refine yields_node_leaf hshorthand (yields_all_singleton yields_initializer) ?_
    intro start stop middle right hequals
    have hkind : "object_assignment_pattern" ∈ assignmentKinds := by decide
    exact ⟨_, rfl, .assignment hkind rfl rfl (.name hname) rfl hequals⟩
  · exact yields_leaf_single hshorthand fun _ => .name hname

/-- Patterns between brackets. -/
lemma yields_group {kind opening closing : String} {entry : Reader} (hkind : kind ∈ groupKinds)
    (hopening : IsFree (.mark opening)) (hclosing : IsFree (.mark closing)) (hentry : Yields source entry (IsSingle IsPattern)) :
    Yields source (Reader.node kind (Reader.enclosed (Reader.all
      [punctuation opening, Reader.sparse entry comma, punctuation closing]))) (IsSingle IsPattern) := by
  refine yields_node (yields_enclosed (yieldsEach_all_cons (yields_token_group (yields_punctuation hopening))
    (yieldsEach_all_cons (yieldsEach_sparse (yields_entry hentry) (yields_token_group yields_punctuation))
      (yieldsEach_all_cons (yields_token_group (yields_punctuation hclosing)) yieldsEach_all_nil)))) ?_
  intro span children _ hchildren
  exact ⟨_, rfl, .group hkind hchildren⟩

lemma yields_destructuring : Yields source (destructuring rules) (IsSingle IsPattern) :=
  yields_orElse (yields_group (by decide) (by decide) (by decide) yields_objectEntry)
    (yields_group (by decide) (by decide) (by decide) (yields_orElse yields_rest yields_withDefault))

lemma yields_target : Yields source (target rules) (IsSingle IsPattern) := by
  have hname : Yields source identifier (IsSingle IsPattern) := by
    have hkind : "identifier" ∈ nameKinds := by decide
    have hgood : Good source identifier := Builds.good' inferInstance
    exact yields_leaf_single hgood fun _ => .name hkind
  have hword {text : String} (hfree : IsFree (.leaf text)) (htext : text ∉ patternKinds) :
      Yields source (wordNode text) (IsSingle IsPattern) := by
    have hbuilds : Builds source (wordNode text) [.leaf text] := inferInstance
    exact yields_leaf_single (hbuilds.good (List.forall_mem_singleton.mpr hfree)) fun _ => .target htext
  have hstep (trees : List Tree) : Yields source (memberStep rules trees) (IsSingle IsPattern) := by
    have hmember : "member_expression" ∉ patternKinds := by decide
    have hsubscript : "subscript_expression" ∉ patternKinds := by decide
    refine yields_orElse (yields_nodeAfter (Builds.good' .closed) ?_) (yields_nodeAfter (Builds.good' .closed) ?_)
    · exact fun stop rest _ _ => ⟨_, rfl, .target hmember⟩
    · exact fun stop rest _ _ => ⟨_, rfl, .target hsubscript⟩
  refine yields_bind (yields_orElse hname (yields_orElse (hword (by decide) (by decide))
    (yields_orElse (hword (by decide) (by decide)) (hword (by decide) (by decide))))) fun trees htrees => ?_
  exact yields_extend htrees fun trees _ => hstep trees

lemma yields_pattern : Yields source (pattern rules) (IsSingle IsPattern) :=
  yields_orElse yields_destructuring yields_target

/-! ### Shapes of parameters -/

lemma yields_parameterName {decorator : Reader} (hdecorator : Good source decorator) :
    Yields source (Reader.all [Reader.many (Reader.field "decorator" decorator), Reader.many parameterModifier,
        Reader.field "pattern" (wordNode "this" <|> rest rules <|> rules .pattern)])
      fun trees => ∃ front pattern, trees = front ++ [pattern] ∧ (∀ child ∈ front, child.field ≠ some "pattern") ∧
        IsPattern pattern ∧ pattern.field = some "pattern" := by
  have hdecorators : YieldsEach source (fun tree => tree.field ≠ some "pattern")
      (Reader.many (Reader.field "decorator" decorator)) := by
    refine yieldsEach_many ((yieldsEach_field hdecorator).mono fun trees htrees tree htree => ?_)
    obtain ⟨inner, -, rfl⟩ := htrees tree htree
    rw [field_withField]
    decide
  have hmodifiers : YieldsEach source (fun tree => tree.field ≠ some "pattern") (Reader.many parameterModifier) := by
    have hmodifier {allowed : String → Bool} : Good source (namedLeaf "modifier" allowed) := Builds.good' .closed
    exact yieldsEach_many (yields_followedBy
      ((yields_leaf_single hmodifier fun _ => nofun).mono fun _ => IsSingle.forall))
  have hpattern : Yields source (Reader.field "pattern" (wordNode "this" <|> rest rules <|> rules .pattern))
      (IsSingle fun tree => IsPattern tree ∧ tree.field = some "pattern") := by
    have hthis : "this" ∉ patternKinds := by decide
    have hword : Good source (wordNode "this") := Builds.good' .closed
    refine yields_field (yields_orElse (yields_leaf_single hword fun _ => .target hthis)
      (yields_orElse yields_rest GoodRules.pattern)) ?_
    rintro _ ⟨tree, rfl, htree⟩
    exact ⟨tree.withField "pattern", rfl, isPattern_withField htree, field_withField ..⟩
  refine (yields_all_cons hdecorators (yields_all_cons hmodifiers (yields_all_singleton hpattern))).mono ?_
  rintro _ ⟨decorators, _, rfl, hdecorators, modifiers, _, rfl, hmodifiers, pattern, rfl, hpattern⟩
  refine ⟨decorators ++ modifiers, pattern, (List.append_assoc ..).symm, ?_, hpattern⟩
  exact List.forall_mem_append.mpr ⟨hdecorators, hmodifiers⟩

/-- The type and the default value of a parameter. -/
lemma yields_parameterTail : Yields source
    (Reader.all [Reader.optional (Reader.field "type" (Types.typeClause rules)),
      Reader.optional (initializer rules "value")])
    fun trees => ∃ types value, trees = types ++ value ∧
      (∀ child ∈ types, child.isNamed = false ∨ child.kind = "type_annotation") ∧
      (value = [] ∨ StartsWithEquals value) := by
  have htype : YieldsEach source (fun tree => tree.isNamed = false ∨ tree.kind = "type_annotation")
      (Reader.optional (Reader.field "type" (Types.typeClause rules))) := by
    have hclause : YieldsEach source (fun tree => tree.kind = "type_annotation") (Types.typeClause rules) :=
      yields_node (Builds.good' .closed) fun _ _ _ _ => List.forall_mem_singleton.mpr rfl
    refine yieldsEach_optional ((yieldsEach_field hclause).mono fun trees htrees tree htree => ?_)
    obtain ⟨inner, hinner, rfl⟩ := htrees tree htree
    exact .inr ((kind_withField ..).trans hinner)
  have hvalue : Yields source (Reader.optional (initializer rules "value"))
      fun trees => trees = [] ∨ StartsWithEquals trees :=
    yields_orElse (yields_initializer.mono fun _ => .inr) (yields_pure (.inl rfl))
  exact (yields_all_cons htype (yields_all_singleton hvalue)).mono fun _ h => h

lemma yields_parameter {decorator : Reader} (hdecorator : Good source decorator) :
    Yields source (parameter rules decorator) (IsSingle IsParameter) := by
  have hoptional : "optional_parameter" ∈ parameterKinds := by decide
  have hrequired : "required_parameter" ∈ parameterKinds := by decide
  have hname := @yields_parameterName source rules _ decorator hdecorator
  refine yields_orElse (yields_node (yields_all_cons hname (yields_all_cons yields_punctuation
    (yields_all_singleton yields_parameterTail))) ?_) (yields_node (yields_all_cons hname
      (yields_all_singleton yields_parameterTail)) ?_)
  · rintro span _ - ⟨_, _, rfl, ⟨front, pattern, rfl, hfront, hpattern, hfield⟩, _, _, rfl, ⟨mark, rfl, hmark⟩,
      types, value, rfl, htypes, hvalue⟩
    have hsplit : front ++ [pattern] ++ ([mark] ++ (types ++ value)) = front ++ pattern :: (mark :: types ++ value) := by
      rw [List.append_assoc]
      rfl
    exact ⟨_, rfl, .mk hoptional hsplit hfront hpattern hfield
      (List.forall_mem_cons.mpr ⟨.inl hmark, htypes⟩) hvalue⟩
  · rintro span _ - ⟨_, _, rfl, ⟨front, pattern, rfl, hfront, hpattern, hfield⟩, types, value, rfl, htypes, hvalue⟩
    have hsplit : front ++ [pattern] ++ (types ++ value) = front ++ pattern :: (types ++ value) :=
      List.append_assoc ..
    exact ⟨_, rfl, .mk hrequired hsplit hfront hpattern hfield htypes hvalue⟩

/-- A list of parameters has its shape. -/
instance {decorator : Reader} [h : Builds source decorator []] : Builds source (parameters rules decorator) [] := by
  have hentry : YieldsEach source (fun tree => Built source tree ∧ (tree.isNamed = true → IsParameter tree))
      (parameter rules decorator) := by
    refine ((Builds.good' (inferInstanceAs (Builds source (parameter rules decorator) []))).and
      (yields_parameter h.good')).mono fun trees ⟨hbuilt, hparameter⟩ tree htree => ?_
    exact ⟨hbuilt tree htree, fun _ => hparameter.forall tree htree⟩
  have htoken {text : String} (h : IsFree (.mark text)) :
      YieldsEach source (fun tree => Built source tree ∧ (tree.isNamed = true → IsParameter tree)) (punctuation text) := by
    have hgood : Good source (punctuation text) := Builds.good (List.forall_mem_singleton.mpr h)
    refine (hgood.and (yields_punctuation h)).mono fun trees ⟨hbuilt, hunnamed⟩ tree htree =>
      ⟨hbuilt tree htree, fun hnamed => ?_⟩
    rw [hunnamed.forall tree htree] at hnamed
    cases hnamed
  refine Good.builds (yields_opening readsMark_all (yieldsEach_all_cons (htoken (by decide)) (yieldsEach_all_cons (yieldsEach_optional
    (yields_enclosed (yieldsEach_all_cons (yieldsEach_separated hentry (htoken (by decide))) (yieldsEach_all_cons
      (yieldsEach_optional (htoken (by decide))) yieldsEach_all_nil)))) (yieldsEach_all_cons (htoken (by decide))
        yieldsEach_all_nil))) ?_)
  intro span children hspan hopens hchildren
  have hshape : OpensWith "(" (.mk "formal_parameters" true .none span children) ∧
      ∀ child ∈ children, child.isNamed = true → IsParameter child :=
    ⟨hopens, fun child hchild => (hchildren child hchild).2⟩
  exact List.forall_mem_singleton.mpr
    (built_construct hspan (by decide) hshape fun child hchild => (hchildren child hchild).1)

end Patterns

end RouteMigration.Proofs
