import RouteMigration.FilePath

/-!
# Dialects

The extension of a file decides whether its source may hold markup or, in its place, type assertions in
angle brackets.
-/

namespace RouteMigration.Grammar

inductive Dialect where
  | typescript
  /-- With markup; this dialect also covers sources without types. -/
  | tsx
  deriving DecidableEq, Repr

namespace Dialect

def name : Dialect → String
  | .typescript => "typescript"
  | .tsx => "tsx"

def ofPath (path : String) : Dialect :=
  if (FilePath.ofString path).suffix.toLower ∈ [".ts", ".mts", ".cts"] then .typescript else .tsx

end Dialect

end RouteMigration.Grammar
