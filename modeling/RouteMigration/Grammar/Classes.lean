import RouteMigration.Grammar.Expressions

/-!
# Bodies of classes
-/

namespace RouteMigration.Grammar

open Reader Read

namespace Classes

def memberModifier : Reader :=
  modifier ["public", "private", "protected", "static", "override", "readonly", "abstract", "declare",
    "async", "get", "set", "accessor"]

/-- What ends a member that has no body. -/
def memberEnd (pending : Pending) : Reader :=
  comma <|> statementEnd pending

/-- A method, with a body or without. The decorators in front of it are read already. -/
def method (rules : Rules) (head : List Tree) : Reader := do
  let signature ← Types.callSignature rules
  if startsWith "\x7b" (← token).rest then
    nodeAfter "method_definition" (head ++ signature) (field "body" (rules .block))
  else do
    let kind :=
      if head.any (·.kind = "abstract") then "abstract_method_signature" else "method_signature"
    let member ← nodeAfter kind (head ++ signature) none
    let ending ← memberEnd { operator := false, body := true }
    return member ++ ending

def property (rules : Rules) (head : List Tree) : Reader := do
  let member ← nodeAfter "public_field_definition" head (all [
    optional (field "type" (Types.typeClause rules)),
    optional (initializer rules "value")])
  let ending ← memberEnd { operator := member.any fun tree => (tree.child? "value").isSome }
  return member ++ ending

def staticBlock (rules : Rules) : Reader :=
  node "class_static_block" (all [
    followedBy (word "static") (startsWith "\x7b"),
    field "body" (rules .block)])

def member (rules : Rules) : Reader :=
  let named := do
    let decorators ← many (field "decorator" (Expressions.decorator rules))
    let modifiers ← many memberModifier
    let star ← optional (punctuation "*")
    let name ← field "name" (propertyName rules)
    let mark ← optional (punctuation "?" <|> punctuationNot "!" ['='])
    let head := modifiers ++ star ++ name ++ mark
    if Types.startsSignature (← token).rest then
      return decorators ++ (← method rules head)
    else property rules (decorators ++ head)
  let index := all [many memberModifier, Types.indexSignature rules, memberEnd {}]
  punctuation ";" <|> staticBlock rules <|> index <|> named

def body (rules : Rules) : Reader :=
  node "class_body" (all [punctuation "\x7b", exposed (many (member rules)), punctuation "\x7d"])

end Classes

end RouteMigration.Grammar
