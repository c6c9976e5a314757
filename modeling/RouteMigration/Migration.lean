import RouteMigration.Route.Migrated
import RouteMigration.Syntax.Printer
import RouteMigration.Syntax.Source

/-!
# Migrating source text

From the source text of a module to that of the migrated one.
-/

namespace RouteMigration

open Syntax

/-- How generated code is printed. -/
def Settings.style (settings : Settings) : Printer.Style where
  quote := settings.quote.toList.headD '\''
  indent := settings.indent.length

/-- What a migration did to a module. -/
structure Migration where
  outcome : Route.Outcome
  /-- The new source text, if the module changed. -/
  output : Option String := none
  messages : List Message := []
  deriving DecidableEq, Repr

namespace Migration

inductive Fault where
  | source (fault : SourceFault)
  | draft (fault : Route.Draft.Fault)
  | printer (fault : Printer.Fault)
  deriving DecidableEq, Repr

/-- Migrates a module by its source text. The path names it and determines its dialect and its route. -/
def ofSource (settings : Settings) (source path : String) : Except Fault Migration := do
  let module ← (Module.parse source path).mapError .source
  let migrated ← (Route.migrate settings module).mapError .draft
  if migrated.outcome.isChanged then
    let output ← (Printer.printModule settings.style migrated.module).mapError .printer
    pure { outcome := migrated.outcome, output := some output, messages := migrated.messages }
  else pure { outcome := migrated.outcome, messages := migrated.messages }

end Migration

end RouteMigration
