import RouteMigration.Syntax.Module

/-!
# Names in a module

The names that a tree refers to, with those that it needs only for its types or without them, and the
names that the top level of a module declares.
-/

namespace RouteMigration.Syntax

/-- Constructs whose names need no binding when the program runs. -/
def typeKinds : List String :=
  ["type_annotation", "type_arguments", "type_parameters", "type_query", "type_alias_declaration",
    "interface_declaration"]

namespace Form

variable {α : Type}

/-- The names that a form refers to itself. An export of local names refers to them. -/
def ownNames : Form α → List String
  | .identifier name _ => [name]
  | .exportNamed declaration =>
    if declaration.source.isNone then declaration.specifiers.map (·.localName) else []
  | _ => []

/-- The names that a form itself needs when the program runs. -/
def ownValues : Form α → List String
  | .identifier name isType => if isType then [] else [name]
  | .exportNamed declaration =>
    if declaration.source.isNone && !declaration.typeOnly then
      declaration.specifiers.map (·.localName)
    else []
  | _ => []

/-- A form that exists for its types only. -/
def isTypeOnly : Form α → Bool
  | .verbatim kind _ _ => kind ∈ typeKinds
  | _ => false

end Form

namespace Node

/-- Every name that is used in the tree. -/
def referencedNames : Node → List String :=
  fold fun _ form => form.ownNames ++ (form.children.map Prod.snd).flatten

/-- The names that are used in the tree when the program runs. -/
def referencedValues : Node → List String :=
  fold fun _ form =>
    if form.isTypeOnly then [] else form.ownValues ++ (form.children.map Prod.snd).flatten

/-- The names of all identifiers in the tree. -/
def identifierNames : Node → List String :=
  fold fun _ form =>
    (match form with
      | .identifier name _ => [name]
      | _ => []) ++ (form.children.map Prod.snd).flatten

/-- The declaration that an export exports, or the statement itself. -/
def exportedDeclaration? (statement : Node) : Option Node :=
  match statement.form with
  | .exportNamed declaration => declaration.declaration
  | _ => some statement

/-- The names that a declarator binds. -/
def declaratorNames (declarator : Node) : List String :=
  match declarator.form with
  | .declarator name _ _ => name.identifierNames
  | _ => []

/-- The names that a declaration binds. -/
def boundByDeclaration (declaration : Node) : List String :=
  match declaration.form with
  | .importDeclaration form =>
    form.specifiers.map (·.localName) ++ (given form.defaultName).toList ++
      (given form.namespaceName).toList
  | .functionDeclaration form => (given form.name).toList
  | .classDeclaration name _ => (given name).toList
  | .variableDeclaration _ declarators => declarators.flatMap declaratorNames
  | _ => []

/-- The names that a statement declares at the top level of a module. -/
def declaredNames (statement : Node) : List String :=
  match statement.form with
  | .exportNamed declaration => declaration.declaration.elim [] boundByDeclaration
  | .exportDefault declaration => declaration.boundByDeclaration
  | _ => statement.boundByDeclaration

end Node

namespace Module

def referencedNames (module : Module) : List String :=
  module.body.flatMap Node.referencedNames

def referencedValues (module : Module) : List String :=
  module.body.flatMap Node.referencedValues

def declaredNames (module : Module) : List String :=
  module.body.flatMap Node.declaredNames

end Module

end RouteMigration.Syntax
