import RouteMigration.Proofs.OpeningRules
import RouteMigration.Proofs.Readers

/-!
# Rules of names and types

Whatever construct a rule reads has its shape, as long as the constructs inside of it have theirs: here for names, the
ends of statements, and types.
-/

namespace RouteMigration.Proofs
open Syntax Grammar OfTree

variable {source : List Char}

-- the instances for a long rule are many
set_option synthInstance.maxSize 1024

variable (source) in
/-- The constructs that the rules read have their shapes, a pattern is one of the kinds of patterns, and parameters and
blocks are what they are called. -/
class GoodRules (rules : Rules) : Prop where
  good : ∀ rule, Good source (rules rule)
  pattern : Yields source (rules .pattern) (IsSingle IsPattern)
  parameters : YieldsEach source (·.kind = "formal_parameters") (rules .parameters)
  block : YieldsEach source (·.kind = "statement_block") (rules .block)

variable {rules : Rules} [GoodRules source rules] {trees : List Tree} {makings : List Making}

instance {rule : Rule} : Builds source (rules rule) [] :=
  (GoodRules.good rule).builds

/-! ### Names and values -/

instance : Builds source comma [] := by
  unfold comma
  exact .closed

instance : Builds source equals [] := by
  unfold equals
  exact .closed

instance {kind : String} : Builds source (nameOf kind) [.leaf kind] :=
  inferInstanceAs (Builds source (namedLeaf _ _) _)

instance {kind : String} : Builds source (anyName kind) [.leaf kind] :=
  inferInstanceAs (Builds source (namedLeaf _ _) _)

instance {text : String} : Builds source (wordNode text) [.leaf text] :=
  inferInstanceAs (Builds source (namedLeaf _ _) _)

instance {role : String} : Builds source (initializer rules role) [] := by
  unfold initializer
  exact .closed

instance : Builds source identifier [] := by
  unfold identifier
  exact .closed

instance : Builds source typeIdentifier [] := by
  unfold typeIdentifier
  exact .closed

instance : Builds source privateName [] := by
  refine Good.builds (good_freeLeaf (by decide) fun start stop hstop => ⟨?_, fun h => absurd h (by decide)⟩)
  split at hstop
  · next hrest => exact (inline_advance hrest (by decide)).trans (inline_name hstop).1
  · cases hstop

instance : Builds source (propertyName rules) [] := by
  unfold propertyName
  exact .closed

instance {words : List String} : Builds source (modifier words) [] := by
  unfold modifier
  exact .closed

instance {pending : Pending} {n : Nat} : Builds source (automaticEnd pending n) [] := by
  refine Good.builds ?_
  induction n with
  | zero => exact yields_fail
  | succ n ih =>
    refine yields_bind yields_place fun cursor hcursor => ?_
    split
    · exact yieldsEach_none
    · split
      · next after hafter => exact yields_bind (yields_moveTo (isPlace_comment hafter hcursor)) fun _ _ => ih
      · exact yields_fail

instance {pending : Pending} : Builds source (statementEnd pending) [] := by
  unfold statementEnd
  exact .closed

instance : Builds source optionalEnd [] := by
  unfold optionalEnd
  exact .closed

/-! ### Types -/

section Types
open Grammar.Types

instance : Builds source (typeClause rules) [] := by
  unfold typeClause
  exact .closed

instance : Builds source (typeArguments rules) [] := by
  unfold typeArguments
  exact .closed

instance : Builds source (constraint rules) [] := by
  unfold constraint
  exact .closed

instance : Builds source (typeParameter rules) [] := by
  unfold typeParameter
  exact .closed

instance : Builds source (typeParameters rules) [] := by
  unfold typeParameters
  exact .closed

instance : Builds source (predicate rules) [] := by
  unfold predicate
  exact .closed

instance : Builds source (asserts rules) [] := by
  unfold asserts
  exact .closed

instance : Builds source (returned rules) [] := by
  unfold returned
  exact .closed

instance : Builds source (returnType rules) [] := by
  unfold returnType
  exact .closed

instance : Builds source (callSignature rules) [] := by
  unfold callSignature
  exact .closed

instance : Builds source (functionType rules) [] := by
  unfold functionType
  exact .closed

instance : Builds source (constructorType rules) [] := by
  unfold constructorType
  exact .closed

instance {kind role : String} : Builds source (dotted kind role) [.leaf kind] where
  good hfree := by
    have hname : Good source (anyName kind) := Builds.good hfree
    have : Builds source (anyName kind) [] := hname.builds
    unfold dotted
    exact Builds.good' .closed

instance : Builds source qualifiedName [] := by
  unfold qualifiedName
  exact .closed

instance : Builds source (named rules) [] := by
  unfold named
  exact .closed

instance : Builds source (indexSignature rules) [] := by
  unfold indexSignature
  exact .closed

instance : Builds source (member rules) [] := by
  unfold member
  dsimp only
  exact .closed

instance : Builds source memberEnd [] := by
  unfold memberEnd
  exact .closed

instance {kind : String} : Builds source (members rules kind) [.construct kind] where
  good hfree := good_node (hfree _ List.mem_cons_self) (Builds.good' .closed)

instance : Builds source (tupleMember rules) [] := by
  unfold tupleMember
  exact .closed

instance : Builds source (tuple rules) [] := by
  unfold tuple
  exact .closed

/-- A template is read from substitution to substitution. -/
lemma good_templateRest {substitution : Reader} (h : Good source substitution) (n : Nat) :
    Good source (templateRest substitution n) := by
  induction n with
  | zero => exact yields_fail
  | succ n ih =>
    refine yields_bind yields_place fun cursor hcursor => ?_
    split
    · exact yields_fail
    · next stop hstop =>
      obtain ⟨hafter, hahead⟩ := isAfter_templateChunk hstop
      refine yields_bind (yields_moveTo (hafter.isPlace hcursor hahead)) fun _ _ => ?_
      split
      · exact Builds.good' .closed
      · exact yieldsEach_all_cons h (yieldsEach_all_cons ih yieldsEach_all_nil)

lemma good_template {kind inner : String} {reader : Reader} (hinner : IsFree (.construct inner))
    (hnode : ∀ {parts : Reader}, ReadsMark "\x60" parts → Good source parts → Good source (Reader.node kind parts))
    (h : Good source reader) : Good source (template kind inner reader) := by
  have hreader : Builds source reader [] := h.builds
  have hsubstitution : Good source (Reader.node inner
      (Reader.all [punctuation "$\x7b", Reader.enclosed reader, punctuation "\x7d"])) :=
    good_node hinner (Builds.good' .closed)
  refine yields_bind yields_place fun cursor _ => hnode readsMark_all ?_
  exact yieldsEach_all_cons (Builds.good' .closed)
    (yieldsEach_all_cons (good_templateRest hsubstitution _) yieldsEach_all_nil)

instance : Builds source literal [] := by
  unfold literal
  exact .closed

variable [OneRules rules]

instance : Builds source (imported rules) [] := by
  have hparts : Good source (Reader.all [Reader.field "function" (wordNode "import"),
      Reader.field "arguments" (rules .arguments)]) := Builds.good' .closed
  refine Good.builds (yields_node (hparts.plays inferInstance) fun span children hspan ⟨hchildren, hplays⟩ =>
    List.forall_mem_singleton.mpr (built_construct hspan (by decide) ?_ hchildren))
  exact hplays.mono (by decide)

instance [AreBuilt source trees] : Builds source (memberOf trees) [] := by
  unfold memberOf
  exact .closed

instance : Builds source (importType rules) [] := by
  unfold importType
  exact .closed

instance : Builds source (typeQuery rules) [] := by
  unfold typeQuery
  exact .closed

instance : Builds source (primary rules) [] := by
  have : Builds source (Reader.leaf "this_type" true fun cursor =>
      if nameAhead cursor = some "this" then name? cursor else none) [] := by
    refine Good.builds (good_freeLeaf (by decide) fun start stop hstop => ⟨?_, fun h => absurd h (by decide)⟩)
    split at hstop
    · exact (inline_name hstop).1
    · cases hstop
  have : Builds source (template "template_literal_type" "template_type" (rules .type)) [] := by
    refine Good.builds (good_template (by decide) (fun _ hparts => good_node (by decide) hparts) (GoodRules.good _))
  unfold primary
  exact .closed

instance : Builds source (postfixed rules) [] := by
  unfold postfixed
  exact .closed

instance : Builds source (operand rules) [] := by
  unfold operand
  exact .closed

instance : Builds source (intersection rules) [] := by
  unfold intersection
  exact .closed

instance : Builds source (union rules) [] := by
  unfold union
  exact .closed

instance : Builds source (conditional rules) [] := by
  unfold conditional
  exact .closed

instance : Builds source (type rules) [] := by
  unfold type
  exact .closed

end Types

end RouteMigration.Proofs
