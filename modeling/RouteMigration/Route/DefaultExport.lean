import RouteMigration.Route.Locate

/-!
# Default exports

A module with a default export renders a page. The export may hold its value, name a binding of the
module, or pass on what another module exports.
-/

namespace RouteMigration.Route

open Syntax

inductive DefaultExport where
  /-- A declaration or an expression. -/
  | inline (statement : Nat)
  /-- The name of a binding; with a specifier in a list of exports. -/
  | referenced (name : String) (statement : Nat) (specifier : Option Nat) (resolved : Bool)
  /-- A name of another module. -/
  | forwarded (imported source : String) (statement specifier : Nat)
  deriving DecidableEq, Repr

/-- The default exports that a list of exports makes. -/
def listedDefaults (declared : List String) (form : ExportForm Node) (statement : Nat) :
    List DefaultExport :=
  if form.declaration.isSome || form.typeOnly then []
  else form.specifiers.zipIdx.filterMap fun (specifier, index) =>
    if specifier.exported ≠ "default" then none
    else match form.source with
      | some source => some (.forwarded specifier.localName source statement index)
      | none =>
        let resolved := declared.contains specifier.localName
        some (.referenced specifier.localName statement (some index) resolved)

/-- The default exports that a statement makes. -/
def defaultsOf (declared : List String) (statement : Node) (index : Nat) : List DefaultExport :=
  match statement.form with
  | .exportDefault declaration =>
    match declaration.identifier? with
    | some name => [.referenced name index none (declared.contains name)]
    | none => [.inline index]
  | .exportNamed form => listedDefaults declared form index
  | _ => []

/-- The default export of a module, the last one if there are several. -/
def findDefaultExport (module : Module) : Option DefaultExport :=
  let declared := module.declaredNames
  (module.body.zipIdx.flatMap fun (statement, index) => defaultsOf declared statement index).getLast?

def defaultExportMessages (module : Module) : List Message :=
  match findDefaultExport module with
  | some (.referenced name _ _ false) =>
    [.engine module.path s!"default export {name} does not resolve locally"]
  | _ => []

/-- What a route module does. -/
inductive Kind where
  /-- It renders a page, for which it may load data. -/
  | page
  /-- It only answers requests. -/
  | resource
  deriving DecidableEq, Repr

def Kind.name : Kind → String
  | .page => "page"
  | .resource => "resource"

def classify (module : Module) : Kind :=
  if (findDefaultExport module).isSome then .page else .resource

/-- The variables that a statement declares by plain names. -/
def variableNames (statement : Node) : List String :=
  match statement.exportedDeclaration?.map Node.form with
  | some (.variableDeclaration _ declarators) =>
    declarators.filterMap fun declarator =>
      match declarator.form with
      | .declarator name _ _ => name.identifier?
      | _ => none
  | _ => []

/-- Whether a variable at the top level has one of the names. -/
def declaresAny (module : Module) (names : List String) : Bool :=
  module.body.any fun statement => (variableNames statement).any names.contains

end RouteMigration.Route
