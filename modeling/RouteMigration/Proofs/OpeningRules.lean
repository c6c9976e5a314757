import RouteMigration.Proofs.Openings

/-!
# Rules of single constructs

An expression is one tree, which starts with the next token, and so are the lists and blocks around expressions: what
comes after an operand goes on with it.
-/

namespace RouteMigration.Proofs
open Syntax Grammar

-- the instances for a long rule are many
set_option synthInstance.maxSize 1024

/-- Rules that read one construct. -/
def singleRules : List Rule :=
  [.block, .expression true, .expression false, .unary, .parameters, .arguments, .template, .element]

/-- The rules of single constructs read one tree each, which starts with the next token. -/
class OneRules (rules : Rules) : Prop where
  one : ∀ rule ∈ singleRules, ReadsOne (rules rule)

variable {rules : Rules} [OneRules rules] {tree : Tree}

instance : ReadsOne (rules .block) :=
  OneRules.one _ (by decide)

instance (returnTypes : Bool) : ReadsOne (rules (.expression returnTypes)) := by
  cases returnTypes <;> exact OneRules.one _ (by decide)

instance : ReadsOne (rules .unary) :=
  OneRules.one _ (by decide)

instance : ReadsOne (rules .parameters) :=
  OneRules.one _ (by decide)

instance : ReadsOne (rules .arguments) :=
  OneRules.one _ (by decide)

instance : ReadsOne (rules .template) :=
  OneRules.one _ (by decide)

instance : ReadsOne (rules .element) :=
  OneRules.one _ (by decide)

/-! ### Types of functions -/

instance {rules : Rules} : ReadsOne (Types.typeParameters rules) :=
  inferInstanceAs (ReadsOne (Reader.node _ _))

instance {rules : Rules} : ReadsOne (Types.typeArguments rules) :=
  inferInstanceAs (ReadsOne (Reader.node _ _))

instance {rules : Rules} : ReadsOne (Types.typeClause rules) :=
  inferInstanceAs (ReadsOne (Reader.node _ _))

instance {rules : Rules} : ReadsOne (Types.returnType rules) := by
  unfold Types.returnType
  infer_instance

instance : Plays (Types.callSignature rules) signatureRoles := by
  unfold Types.callSignature
  refine Plays.mono inferInstance ?_
  decide

/-! ### Primary expressions -/

section Expressions
open Grammar.Expressions

/-- What stands between a word and a name is passed over, so a function starts with its first word. -/
instance {plain generator : String} {name tail : Reader} {rules : Rules} :
    ReadsOne (functionAs rules plain generator name tail) := by
  unfold functionAs
  refine readsOne_bind fun h => ?_
  obtain ⟨star, _, -, h⟩ := bind_eq_ok h
  exact opensAt_nodeAfter h

instance {rules : Rules} : ReadsOne (Expressions.function rules) :=
  inferInstanceAs (ReadsOne (functionAs _ _ _ _ _))

instance {rules : Rules} : ReadsOne (classExpression rules) :=
  inferInstanceAs (ReadsOne (Reader.node _ _))

instance {rules : Rules} : ReadsOne (parenthesized rules) :=
  inferInstanceAs (ReadsOne (Reader.node _ _))

instance {rules : Rules} : ReadsOne (Expressions.array rules) :=
  inferInstanceAs (ReadsOne (Reader.node _ _))

instance {rules : Rules} : ReadsOne (Expressions.object rules) :=
  inferInstanceAs (ReadsOne (Reader.node _ _))

instance : ReadsOne (primary rules) := by
  unfold primary
  refine readsOne_token fun cursor => ?_
  split
  all_goals infer_instance

instance {rules : Rules} : GoesOn tree (memberStep rules [tree]) := by
  unfold memberStep
  infer_instance

instance {rules : Rules} : GoesOn tree (callStep rules [tree]) := by
  unfold callStep
  infer_instance

instance {rules : Rules} : ReadsOne (construct rules) := by
  unfold construct
  infer_instance

instance : ReadsOne (constructible rules) := by
  unfold constructible
  infer_instance

instance : ReadsOne (chain rules) := by
  unfold chain
  infer_instance

instance : ReadsOne (postfixed rules) := by
  unfold postfixed
  infer_instance

/-! ### Operators -/

instance {rules : Rules} : GoesOn tree (typeOperator rules [tree]) := by
  unfold typeOperator
  infer_instance

instance : ReadsOne (unary rules) := by
  unfold unary
  infer_instance

/-- The first operand of those that wait, or the one that has just been read, continues the tree. -/
def WaitsFor (tree : Tree) (stack : List Waiting) (operand : List Tree) : Prop :=
  ∃ first, (stack.getLast?.map Waiting.left).getD operand = [first] ∧ Continues tree first

lemma waitsFor_reduce {level : Nat} {right : Bool} {stack : List Waiting} {operand : List Tree}
    (h : WaitsFor tree stack operand) :
    WaitsFor tree (reduce level right stack operand).1 (reduce level right stack operand).2 := by
  induction stack generalizing operand with
  | nil => exact h
  | cons waiting stack ih =>
    unfold reduce
    split
    · refine ih ?_
      obtain ⟨first, hfirst, hcontinues⟩ := h
      cases stack with
      | nil =>
        have hleft : waiting.left = [first] := hfirst
        refine ⟨_, rfl, ?_, fun _ => rfl⟩
        rw [hleft]
        exact hcontinues.start
      | cons next stack => exact ⟨first, hfirst, hcontinues⟩
    · exact h

/-- With nothing left to wait for, everything that waits is combined. -/
lemma reduce_zero (stack : List Waiting) (operand : List Tree) : (reduce 0 false stack operand).1 = [] := by
  induction stack generalizing operand with
  | nil => rfl
  | cons waiting stack ih =>
    unfold reduce
    rw [if_pos, ih]
    rw [Bool.not_false, Bool.and_true, Bool.or_eq_true, decide_eq_true_eq, decide_eq_true_eq]
    omega

lemma goesOn_binaryUpTo {rules : Rules} (n : Nat) {stack : List Waiting} {operand : List Tree}
    (h : WaitsFor tree stack operand) : GoesOn tree (binaryUpTo rules n stack operand) := by
  induction n generalizing stack operand with
  | zero => exact ⟨fun h => by cases h⟩
  | succ n ih =>
    have hwhole : WaitsFor tree [] (reduce 0 false stack operand).2 := by
      have hreduced : WaitsFor tree (reduce 0 false stack operand).1 (reduce 0 false stack operand).2 := waitsFor_reduce h
      rwa [reduce_zero] at hreduced
    obtain ⟨whole, heq, hcontinues⟩ := hwhole
    have heq : (reduce 0 false stack operand).2 = [whole] := heq
    refine ⟨fun {around cursor after trees} hread => ?_⟩
    unfold binaryUpTo at hread
    dsimp only at hread
    rw [heq] at hread
    rcases orElse_eq_ok hread with hread | hread
    · obtain ⟨more, _, hmore, hread⟩ := bind_eq_ok hread
      have htype : GoesOn whole (typeOperator rules [whole]) := inferInstance
      obtain ⟨wrapped, rfl, hwrapped⟩ := htype.one hmore
      exact (ih ⟨wrapped, rfl, hcontinues.trans hwrapped⟩).one hread
    · rcases orElse_eq_ok hread with hread | hread
      · obtain ⟨⟨operator, token⟩, _, -, hread⟩ := bind_eq_ok hread
        obtain ⟨next, _, -, hread⟩ := bind_eq_ok hread
        refine (ih ?_).one hread
        obtain ⟨first, hfirst, hfirstContinues⟩ := waitsFor_reduce h
        cases hstack : (reduce operator.level operator.right stack operand).1 with
        | nil =>
          rw [hstack] at hfirst
          exact ⟨first, hfirst, hfirstContinues⟩
        | cons waiting rest =>
          rw [hstack] at hfirst
          exact ⟨first, hfirst, hfirstContinues⟩
      · cases hread
        exact ⟨whole, rfl, hcontinues⟩

instance {n : Nat} : GoesOn tree (binaryUpTo rules n [] [tree]) :=
  goesOn_binaryUpTo n ⟨tree, rfl, .refl tree⟩

instance : ReadsOne (binary rules) := by
  unfold binary
  infer_instance

/-! ### Arrow functions and assignments -/

instance {rules : Rules} : GoesOn tree (ternary rules [tree]) := by
  unfold ternary
  infer_instance

instance : GoesOn tree (afterBlock rules [tree]) := by
  unfold afterBlock
  infer_instance

instance {returnTypes : Bool} : ReadsFirst (arrowHead rules returnTypes) := by
  unfold arrowHead
  infer_instance

instance {returnTypes : Bool} : Plays (arrowHead rules returnTypes) (signatureRoles ++ [["parameter"]]) := by
  unfold arrowHead
  refine Plays.mono inferInstance ?_
  decide

instance {returnTypes : Bool} : ReadsOne (arrow rules returnTypes) := by
  unfold arrow
  refine readsOne_bind fun h => ?_
  obtain ⟨token, _, -, h⟩ := bind_eq_ok h
  split at h
  · exact opensAt_nodeAfter_bind h
  · exact opensAt_nodeAfter h

instance {rules : Rules} : ReadsOne (yielding rules) :=
  inferInstanceAs (ReadsOne (Reader.node _ _))

instance {rules : Rules} : ReadsOne (Expressions.destructuring rules) := by
  unfold Expressions.destructuring
  infer_instance

instance : ReadsOne (assignment rules) := by
  unfold assignment
  infer_instance

instance {returnTypes : Bool} : ReadsOne (expression rules returnTypes) := by
  unfold expression
  infer_instance

end Expressions

/-! ### Other constructs -/

instance {rules : Rules} : ReadsOne (Statements.block rules) :=
  inferInstanceAs (ReadsOne (Reader.node _ _))

instance {rules : Rules} : ReadsOne (Expressions.arguments rules) :=
  inferInstanceAs (ReadsOne (Reader.node _ _))

instance {rules : Rules} {decorator : Reader} : ReadsOne (Patterns.parameters rules decorator) :=
  inferInstanceAs (ReadsOne (Reader.node _ _))

/-- Before a template there is nothing to look at but what follows. -/
instance {kind inner : String} {reader : Reader} : ReadsOne (Types.template kind inner reader) where
  one h := by
    obtain ⟨place, _, hplace, h⟩ := bind_eq_ok h
    cases hplace
    exact ReadsOne.one h

/-- An element starts with its tag. -/
instance {rules : Rules} : ReadsOne (Markup.element rules) := by
  unfold Markup.element
  refine readsOne_bind fun h => ?_
  obtain ⟨token, _, -, h⟩ := bind_eq_ok h
  split at h
  · exact opensAt_nodeAfter h
  · exact opensAt_nodeAfter_bind h

/-- However deep the rules are applied inside each other, those of single constructs read one tree. -/
instance oneRules (depth : Nat) : OneRules (Grammar.rules depth) := by
  induction depth with
  | zero => exact ⟨fun rule _ => ⟨fun h => by cases h⟩⟩
  | succ depth ih =>
    refine ⟨?_⟩
    simp only [singleRules, List.forall_mem_cons]
    refine ⟨?_, ?_, ?_, ?_, ?_, ?_, ?_, ?_, List.forall_mem_nil _⟩
    all_goals
      simp only [Grammar.rules]
      infer_instance

end RouteMigration.Proofs
