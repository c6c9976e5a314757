import RouteMigration.Grammar.Program
import RouteMigration.Syntax.OfTree

/-!
# Source text

Reading the source of a module, and the fault of a source that is not well formed.
-/

namespace RouteMigration.Syntax

/-- Source text that has no syntax tree. -/
structure SourceFault where
  path : String
  line : Int := 0
  column : Int := 0
  detail : String := "syntax error"
  deriving DecidableEq, Repr

def SourceFault.message (fault : SourceFault) : String :=
  s!"{fault.path}:{fault.line}:{fault.column}: {fault.detail}"

/-- The fault at an offset of the source. -/
def SourceFault.at (path : String) (source : List Char) (offset : Nat) : SourceFault :=
  let before := source.take offset
  { path, line := before.count '\n' + 1, column := (Text.lastLine before).length + 1 }

def Module.parse (source path : String) : Except SourceFault Module :=
  match Grammar.parse (.ofPath path) source.toList with
  | .ok tree => .ok (.ofTree path source.toList tree)
  | .error offset => .error (.at path source.toList offset)

end RouteMigration.Syntax
