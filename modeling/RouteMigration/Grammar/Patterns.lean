import RouteMigration.Grammar.Types

/-!
# Patterns and parameters

What is bound or assigned to: names, members, and patterns that take objects and arrays apart.
-/

namespace RouteMigration.Grammar

open Reader Read

namespace Patterns

/-- `.name` or `[index]` after the target of an assignment. -/
def memberStep (rules : Rules) (trees : List Tree) : Reader :=
  let object := trees.map (·.withField "object")
  nodeAfter "member_expression" object (all [
      punctuation ".",
      field "property" (anyName "property_identifier" <|> privateName)]) <|>
    nodeAfter "subscript_expression" object
      (all [punctuation "[", field "index" (enclosed (rules .expressions)), punctuation "]"])

/-- A variable or a member of one. -/
def target (rules : Rules) : Reader := do
  let first ← identifier <|> wordNode "this" <|> wordNode "super" <|> wordNode "undefined"
  extend (memberStep rules) first

def rest (rules : Rules) : Reader :=
  node "rest_pattern" (all [punctuation "...", rules .pattern])

/-- A pattern, with a default or without. -/
def withDefault (rules : Rules) : Reader := do
  let pattern ← rules .pattern
  nodeAfter "assignment_pattern" (pattern.map (·.withField "left"))
      (initializer rules "right") <|>
    Read.pure pattern

def objectEntry (rules : Rules) : Reader :=
  let shorthand := nameOf "shorthand_property_identifier_pattern"
  node "pair_pattern" (all [
      field "key" (propertyName rules),
      punctuation ":",
      field "value" (withDefault rules)]) <|>
    rest rules <|>
    node "object_assignment_pattern"
      (all [field "left" shorthand, initializer rules "right"]) <|>
    shorthand

def object (rules : Rules) : Reader :=
  node "object_pattern"
    (enclosed (all [punctuation "\x7b", sparse (objectEntry rules) comma, punctuation "\x7d"]))

def array (rules : Rules) : Reader :=
  node "array_pattern"
    (enclosed
      (all [punctuation "[", sparse (rest rules <|> withDefault rules) comma, punctuation "]"]))

def destructuring (rules : Rules) : Reader :=
  object rules <|> array rules

def pattern (rules : Rules) : Reader :=
  destructuring rules <|> target rules

/-- A name or a pattern that a declaration binds. -/
def binding (rules : Rules) : Reader :=
  identifier <|> wordNode "undefined" <|> destructuring rules

/-- One of the words, where it stands in front of a name or a pattern. -/
def parameterModifier : Reader :=
  followedBy
    (namedLeaf "modifier" ["public", "private", "protected", "override", "readonly"].contains)
    fun rest => rest.head?.any fun c => isNameStart c || c = '\x7b' || c = '['

def parameter (rules : Rules) (decorator : Reader) : Reader :=
  let name := all [
    many (field "decorator" decorator),
    many parameterModifier,
    field "pattern" (wordNode "this" <|> rest rules <|> rules .pattern)]
  let tail := all [
    optional (field "type" (Types.typeClause rules)),
    optional (initializer rules "value")]
  node "optional_parameter" (all [name, punctuation "?", tail]) <|>
    node "required_parameter" (all [name, tail])

def parameters (rules : Rules) (decorator : Reader) : Reader :=
  node "formal_parameters" (all [
    punctuation "(",
    optional (enclosed (all [separated (parameter rules decorator) comma, optional comma])),
    punctuation ")"])

end Patterns

end RouteMigration.Grammar
