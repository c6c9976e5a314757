import RouteMigration.Syntax.Node

/-!
# Names bound by parameters

The names that the patterns of a parameter list bind. What a type or a default value mentions is not
bound.
-/

namespace RouteMigration.Route

open Syntax

/-- Patterns that may go on with a default value after an equals sign. -/
def defaultedKinds : List String :=
  ["assignment_pattern", "object_assignment_pattern", "required_parameter", "optional_parameter"]

def typeAnnotationKinds : List String :=
  ["type_annotation", "optional_type"]

/-- Plain text without an equals sign, or a node. -/
def isBeforeDefault {α : Type} : Piece α → Bool
  | .text text => !text.toList.contains '='
  | .node _ => true

/-- The parts of a pattern that can bind names. -/
def bindingParts {α : Type} (kind : String) (parts : List (Piece α)) : List (Piece α) :=
  if kind ∈ typeAnnotationKinds then []
  else if kind ∈ defaultedKinds then parts.takeWhile isBeforeDefault
  else parts

/-- The names that a pattern binds, in source order. -/
def bindingNames : Node → List String :=
  Node.fold fun _ form =>
    match form with
    | .identifier name isType => if isType then [] else [name]
    | .verbatim kind parts _ => ((nodesOf (bindingParts kind parts)).map Prod.snd).flatten
    | _ => []

/-- Adds the names that are not there yet. -/
def addNew (names : List String) (more : List String) : List String :=
  more.foldl (fun names name => if names.contains name then names else names ++ [name]) names

/-- Adds the names that an item of a parameter list binds. -/
def addBoundNames (names : List String) (item : Node) : List String :=
  match item.form with
  | .objectPattern bound => names ++ bound
  | _ => addNew names (bindingNames item)

/-- The names that a parameter list binds, in order. -/
def boundNames (params : Node) : List String :=
  match params.form with
  | .parameters items _ => (nodesOf items).foldl addBoundNames []
  | _ => []

end RouteMigration.Route
