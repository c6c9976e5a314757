import RouteMigration.Log
import RouteMigration.Syntax.Names

/-!
# Locating handlers

A handler is exported under its name in one of several ways: as a function or as a variable that holds
one, where it is declared or by a list of exports, which may rename it. Of several declarations the last
one counts, and a variable goes before a function.
-/

namespace RouteMigration.Route

open Syntax

/-- Wrappers that leave the value of an expression as it is. -/
def transparentKinds : List String :=
  ["parenthesized_expression", "satisfies_expression", "as_expression"]

/-- A function with a body. -/
def isCallable (node : Node) : Bool :=
  match node.form with
  | .arrowFunction _ => true
  | .functionExpression form => form.body.isSome
  | _ => false

/-- The function that an initial value is, inside of transparent wrappers. -/
def callable? : Node → Option Node :=
  Node.fold fun info form =>
    let node : Node := ⟨info, form.map Prod.fst⟩
    match form with
    | .verbatim kind parts _ =>
      if kind ∈ transparentKinds then (nodesOf parts).head?.bind Prod.snd else none
    | _ => if isCallable node then some node else none

/-- Replaces the function inside of transparent wrappers. -/
def replaceCallable (replacement : Node) : Node → Node :=
  Node.fold fun info form =>
    let node : Node := ⟨info, form.map Prod.fst⟩
    match form with
    | .verbatim kind parts literal =>
      if kind ∈ transparentKinds then
        let rec replaced : List (Piece (Node × Node)) → List (Piece Node)
          | [] => []
          | .text s :: rest => .text s :: replaced rest
          | .node (_, inner) :: rest => .node inner :: rest.map (·.map Prod.fst)
        ⟨info, .verbatim kind (replaced parts) literal⟩
      else node
    | _ => if isCallable node then replacement else node

/-- Where in its statement a handler is declared. -/
inductive Shape where
  | function
  /-- The variable of the declarator with this index. -/
  | variable (declarator : Nat)
  deriving DecidableEq, Repr

structure Located where
  /-- The name under which the handler is exported. -/
  name : String
  /-- The name under which it is declared. -/
  localName : String
  /-- The index of its statement in the module. -/
  statement : Nat
  shape : Shape
  /-- The function itself. -/
  function : Node
  /-- The indexes of the export lists that name it. -/
  reexports : List Nat := []

/-- The export of local names that a statement is. -/
def localExport? (statement : Node) : Option (ExportForm Node) :=
  match statement.form with
  | .exportNamed form => if form.declaration.isNone && form.source.isNone then some form else none
  | _ => none

/-- The local names that a statement exports as `name`. -/
def localNamesOf (name : String) (statement : Node) : List String :=
  match localExport? statement with
  | some form => (form.specifiers.filter (·.exported = name)).map (·.localName)
  | none => []

/-- The local name that the module exports as `name`; the last of them, or the name itself. -/
def localNameOf (body : List Node) (name : String) : String :=
  (body.flatMap (localNamesOf name)).getLast?.getD name

def reexportsOf (body : List Node) (name : String) : List Nat :=
  (body.zipIdx.filter fun (statement, _) => !(localNamesOf name statement).isEmpty).map Prod.snd

/-- The functions that a declaration gives the name, with their places in it. -/
def candidates (localName : String) (declaration : Node) : List (Shape × Option Node) :=
  match declaration.form with
  | .functionDeclaration form =>
    if form.name = some localName then
      [(.function, if form.body.isSome then some declaration else none)]
    else []
  | .variableDeclaration _ declarators =>
    declarators.zipIdx.filterMap fun (declarator, index) =>
      match declarator.form with
      | .declarator name init _ =>
        if name.identifier? = some localName then some (.variable index, init.bind callable?) else none
      | _ => none
  | _ => []

/-- Every declaration of the name at the top level, with the function if it is one. -/
def declarations (body : List Node) (localName : String) : List (Nat × Shape × Option Node) :=
  body.zipIdx.flatMap fun (statement, index) =>
    match statement.exportedDeclaration? with
    | some declaration => (candidates localName declaration).map fun found => (index, found)
    | none => []

def isVariable : Shape → Bool
  | .function => false
  | .variable _ => true

/-- The handler that the module exports as `name`. -/
def locate (body : List Node) (name : String) : Option Located :=
  let localName := localNameOf body name
  let found := (declarations body localName).filterMap fun (index, shape, function) =>
    function.map fun function =>
      ({ name, localName, statement := index, shape, function, reexports := reexportsOf body name } :
        Located)
  (found.filter fun located => isVariable located.shape).getLast?.or
    (found.filter fun located => !isVariable located.shape).getLast?

/-- What there is to say about declarations that are no functions. -/
def locateMessages (module : Module) (name : String) : List Message :=
  let localName := localNameOf module.body name
  (declarations module.body localName).filterMap fun (_, shape, function) =>
    if function.isSome then none
    else if isVariable shape then
      some (.engine module.path s!"{localName} is not initialized with a function")
    else some (.engine module.path s!"{localName}() has no body, ignoring")

end RouteMigration.Route
