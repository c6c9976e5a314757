import RouteMigration.Route.Locate

/-!
# The exports of a module

Taking names out of lists of exports, and removing lists that have become empty.
-/

namespace RouteMigration.Route

open Syntax

/-- The list without the specifiers that export one of the names. -/
def withoutExports (names : List String) (form : ExportForm Node) : ExportForm Node :=
  { form with specifiers := form.specifiers.filter fun specifier => !names.contains specifier.exported }

/-- Whether a statement exports a local name as one of the names in a list of exports. -/
def listsExport (names : List String) (statement : Node) : Bool :=
  match localExport? statement with
  | some form => form.specifiers.any fun specifier => names.contains specifier.exported
  | none => false

/-- Takes the names out of a list of local exports. -/
def unlist (names : List String) (statement : Node) : Node :=
  match localExport? statement with
  | some form =>
    if listsExport names statement then statement.withForm (.exportNamed (withoutExports names form))
    else statement
  | none => statement

/-- A list of exports that lost all its names; one that was written empty is not meant. -/
def isEmptied (statement : Node) : Bool :=
  match statement.form with
  | .exportNamed form =>
    form.declaration.isNone && form.specifiers.isEmpty &&
      (statement.info.raw.isNone || statement.info.origin ≠ some statement.shape)
  | _ => false

def pruneExports (body : List Node) : List Node :=
  body.filter fun statement => !isEmptied statement

end RouteMigration.Route
