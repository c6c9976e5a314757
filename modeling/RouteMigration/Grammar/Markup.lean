import RouteMigration.Grammar.Expressions

/-!
# Markup

Elements with attributes and children. Between its tags an element holds text as it stands, other
elements, and expressions in braces.
-/

namespace RouteMigration.Grammar

open Reader Read

namespace Markup

/-- A name, which may hold hyphens. -/
def name (kind : String) : Reader :=
  leaf kind true fun cursor =>
    match cursor.rest with
    | [] => Option.none
    | c :: _ => if isNameStart c then some (cursor.dropWhile fun d => isNamePart d || d = '-')
      else Option.none

def namespaced : Reader :=
  node "jsx_namespace_name" (all [name "identifier", punctuation ":", name "identifier"])

def elementName : Reader :=
  let dotted := do
    let first ← name "identifier"
    extend (fun trees => nodeAfter "member_expression" (trees.map (·.withField "object"))
      (Types.dotted "property_identifier" "property")) first
  field "name" (namespaced <|> dotted)

def expression (rules : Rules) : Reader :=
  node "jsx_expression" (all [
    punctuation "\x7b",
    optional (enclosed (Expressions.spread rules <|> rules .expressions)),
    punctuation "\x7d"])

/-- A string without escapes, which may go over several lines. -/
def attributeString : Reader :=
  let quotedBy := fun quote (cursor : Cursor) =>
    let stop := cursor.dropWhile (· ≠ quote)
    if stop.rest = [] then Option.none else some (stop.advance 1)
  leaf "string" true fun cursor =>
    match cursor.rest with
    | '"' :: _ => quotedBy '"' (cursor.advance 1)
    | '\'' :: _ => quotedBy '\'' (cursor.advance 1)
    | _ => Option.none

def markupAttribute (rules : Rules) : Reader :=
  let value := attributeString <|> expression rules <|> rules .element
  node "jsx_attribute" (all [
      namespaced <|> name "property_identifier",
      optional (all [punctuation "=", value])]) <|>
    expression rules

def closing : Reader :=
  node "jsx_closing_element"
    (all [punctuation "<", punctuation "/", optional elementName, punctuation ">"])

/-- The place where text between tags stops. -/
def textEnd (cursor : Cursor) : Cursor :=
  cursor.dropWhile fun c => !"<>\x7b\x7d".toList.contains c

/-- The children of an element and the tag that closes it. -/
def content (rules : Rules) : Nat → Reader
  | 0 => fail
  | n + 1 => do
    let stop := textEnd (← place)
    moveTo stop
    match stop.rest with
    | '\x7b' :: _ => all [expression rules, content rules n]
    | '<' :: rest =>
      if startsWith "/" (Cursor.toToken ⟨rest, 0⟩).rest then field "close_tag" closing
      else all [rules .element, content rules n]
    | _ => fail

def element (rules : Rules) : Reader := do
  let typeArguments := field "type_arguments" (Types.typeArguments rules)
  let head ← all [
    punctuation "<",
    optional (all [elementName, optional typeArguments]),
    many (field "attribute" (markupAttribute rules))]
  if startsWith "/" (← token).rest then
    nodeAfter "jsx_self_closing_element" head (all [punctuation "/", punctuation ">"])
  else do
    let opening ← nodeAfter "jsx_opening_element" head (punctuation ">")
    let cursor ← place
    nodeAfter "jsx_element" (opening.map (·.withField "open_tag"))
      (content rules (cursor.rest.length + 1))

end Markup

end RouteMigration.Grammar
