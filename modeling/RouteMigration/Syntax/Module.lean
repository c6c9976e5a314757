import RouteMigration.Syntax.Node

/-!
# Modules

A module is a sequence of statements with the source text before the first and after the last of them.
-/

namespace RouteMigration.Syntax

structure Module where
  path : String
  body : List Node := []
  header : String := ""
  trailer : String := "\n"
  /-- Whether the statements of the module end in semicolons. -/
  semicolons : Bool := true

namespace Module

/-- Every node of the module, each before its parts. -/
def descendants (module : Module) : List Node :=
  module.body.flatMap Node.descendants

def withBody (module : Module) (body : List Node) : Module :=
  { module with body }

end Module

end RouteMigration.Syntax
