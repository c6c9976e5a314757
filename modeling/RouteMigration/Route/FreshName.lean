import RouteMigration.Syntax.Names

/-!
# Fresh names

A binding that is added to a module gets a name that the module does not use yet: the name that is asked
for, or else the name with the first number from 2 on that makes it new.
-/

namespace RouteMigration.Route

open Syntax

/-- `base`, `base2`, `base3` and so on. -/
def candidate (base : String) : Nat → String
  | 0 => base
  | n + 1 => base ++ toString (n + 2)

/-- The first candidate that is not taken. One more candidate than there are taken names is enough. -/
def freshName (taken : List String) (base : String) : String :=
  (((List.range (taken.length + 1)).map (candidate base)).find? fun name =>
    !taken.contains name).getD base

/-- Every name that the statements declare or refer to. -/
def takenNames (body : List Node) : List String :=
  body.flatMap Node.declaredNames ++ body.flatMap Node.referencedNames

end RouteMigration.Route
