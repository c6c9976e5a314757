import RouteMigration.Grammar.Token

/-!
# Rules of the grammar

The constructs that contain others of their own kind. Every rule is written with the rules as a
parameter, so that it names the constructs inside of it without being recursive itself.
-/

namespace RouteMigration.Grammar

inductive Rule where
  | statement
  /-- Statements in braces. -/
  | block
  /-- An expression that is no list. With `returnTypes` an arrow function in it may have one. -/
  | expression (returnTypes : Bool)
  /-- Expressions separated by commas. -/
  | expressions
  /-- An operand with the operators in front of it. -/
  | unary
  | type
  /-- A type with the operators in front of it. -/
  | typeOperand
  | pattern
  | parameters
  | arguments
  | template
  /-- What follows `new`, without the members after it. -/
  | construct
  /-- What a class extends. -/
  | heritage
  /-- An element of markup. -/
  | element
  | classBody
  deriving DecidableEq, Repr

abbrev Rules := Rule → Reader

open Reader

/-- An expression in a place where nothing can be mistaken for a return type. -/
def Rule.value : Rule :=
  .expression true

def comma : Reader :=
  punctuation ","

/-- An equals sign by itself. -/
def equals : Reader :=
  punctuationNot "=" ['=', '>']

/-- `= value`, the value playing the given role. -/
def initializer (rules : Rules) (role : String) : Reader :=
  all [equals, field role (rules .value)]

/-- A name that is private to a class. -/
def privateName : Reader :=
  leaf "private_property_identifier" true fun cursor =>
    match cursor.rest with
    | '#' :: _ => name? (cursor.advance 1)
    | _ => Option.none

/-- The name of a property as it is written in a literal, a class or a pattern. -/
def propertyName (rules : Rules) : Reader :=
  anyName "property_identifier" <|> string <|> number <|> privateName <|>
    node "computed_property_name" (all [punctuation "[", enclosed (rules .value), punctuation "]"])

def startsPropertyName (rest : List Char) : Bool :=
  match rest with
  | [] => false
  | c :: _ => isNameStart c || c.isDigit || "\\\"'[#*".toList.contains c

/-- One of the words, where it stands in front of a property name. -/
def modifier (words : List String) : Reader :=
  followedBy (namedLeaf "modifier" words.contains) startsPropertyName

end RouteMigration.Grammar
