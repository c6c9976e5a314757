import RouteMigration.Grammar.Markup
import RouteMigration.Grammar.Modules

/-!
# Programs

Ties the rules of the grammar together. A construct can be nested in another only as deep as the source
is long, which bounds the recursion. The tree that results covers the source in order, each statement
some text of it, or the source is refused.
-/

namespace RouteMigration.Grammar

open Reader Read

/-- The rules, applied inside each other up to the given depth. -/
def rules : Nat → Rules
  | 0, _ => fail
  | depth + 1, rule =>
    let inner := rules depth
    match rule with
    | .statement =>
      Statements.statement inner (Modules.exportStatement inner) (Modules.importStatement inner)
    | .block => Statements.block inner
    | .expression returnTypes => Expressions.expression inner returnTypes
    | .expressions => Expressions.expressions inner
    | .unary => Expressions.unary inner
    | .type => Types.type inner
    | .typeOperand => Types.operand inner
    | .pattern => Patterns.pattern inner
    | .parameters => Patterns.parameters inner (Expressions.decorator inner)
    | .arguments => Expressions.arguments inner
    | .template => Types.template "template_string" "template_substitution" (inner .expressions)
    | .construct => Expressions.constructible inner
    | .heritage => Expressions.heritageValue inner
    | .element => Markup.element inner
    | .classBody => Classes.body inner

/-- A comment at the top level is a node of its own. -/
def comment : Reader := do
  let start := (← place).dropWhile isSpace
  match start.comment? with
  | some stop =>
    moveTo stop
    return [.mk "comment" true Option.none ⟨start.offset, stop.offset⟩ []]
  | Option.none => fail

/-- The line that tells the system how to run the source. -/
def hashBang : Reader :=
  leaf "hash_bang_line" true fun cursor =>
    match cursor.rest with
    | '#' :: '!' :: _ => some (cursor.dropWhile fun c => !isLineBreak c && c ≠ '\r')
    | _ => Option.none

/-- Reads to the end of the source. -/
def program (rules : Rules) : Reader := do
  let trees ← all [many comment, optional hashBang, many (comment <|> rules .statement)]
  if (← token).rest = [] then return trees else fail

/-- The tree of a source, or the offset where reading it failed. -/
def parse (dialect : Dialect) (source : List Char) : Except Nat Tree := do
  let depth := 8 * (source.length + 1)
  let (trees, _) ← program (rules depth) { dialect } ⟨source, 0⟩
  let tree : Tree := .mk "program" true Option.none ⟨0, source.length⟩ trees
  if tree.isNested && trees.all fun statement => statement.start < statement.stop then return tree
  else throw 0

end RouteMigration.Grammar
