import RouteMigration.Pattern.Parser
import RouteMigration.Text.Identifier
import RouteMigration.Text.Quoted

/-!
# Settings of a migration

`Options` are what a caller may choose. `Settings` are options that have been checked, together with
the pattern that tells legacy import sources from others.
-/

namespace RouteMigration

structure Options where
  /-- The directory that roots the routes. -/
  routesRoot : String := "routes"
  /-- Endings of the names of route modules. -/
  extensions : List String := [".tsx", ".ts", ".jsx", ".js"]
  /-- The wrapper of returned values that is taken off. -/
  envelope : String := "json"
  /-- A regular expression for the import sources of the framework that is left behind. -/
  legacySources : String := "^@remix-run/(node|react|server-runtime|cloudflare|deno)$"
  /-- Replacements of legacy sources; a later one for the same source wins. -/
  sourceRemap : List (String × String) := [("@remix-run/react", "@tanstack/react-router")]
  pageFactory : String := "createFileRoute"
  pageFactorySource : String := "@tanstack/react-router"
  pageDescriptor : String := "Route"
  /-- The name of a component whose default export has none. -/
  componentName : String := "RouteComponent"
  loaderParams : List String := ["params", "search"]
  resourceFactory : String := "createServerFileRoute"
  resourceFactorySource : String := "@tanstack/react-start/server"
  resourceDescriptor : String := "ServerRoute"
  resourceMethod : String := "methods"
  advisoryPrefix : String := "routeshift:"
  quote : String := "'"
  /-- Only the length counts. -/
  indent : String := "  "
  deriving DecidableEq, Repr

namespace Options

inductive Fault where
  | quote (given : String)
  | routesRoot (given : String)
  | envelope (given : String)
  | legacySources (given : String) (fault : Pattern.Fault)
  deriving DecidableEq, Repr

def Fault.message : Fault → String
  | .quote given => s!"quote must be a single or double quote, got {Text.quoted given}"
  | .routesRoot given => s!"routes_root must be a single path segment, got {Text.quoted given}"
  | .envelope given => s!"envelope must be an identifier, got {Text.quoted given}"
  | .legacySources given fault =>
    s!"legacy_sources is not a valid regular expression: {fault.message given}"

def IsQuote (quote : String) : Prop :=
  quote = "'" ∨ quote = "\""

instance (quote : String) : Decidable (IsQuote quote) :=
  inferInstanceAs (Decidable (_ ∨ _))

def IsSegment (name : String) : Prop :=
  name ≠ "" ∧ '/' ∉ name.toList

instance (name : String) : Decidable (IsSegment name) :=
  inferInstanceAs (Decidable (_ ∧ _))

end Options

structure Settings extends Options where
  legacy : Pattern
  isQuote_quote : Options.IsQuote quote
  isSegment_routesRoot : Options.IsSegment routesRoot
  isIdentifier_envelope : Text.isIdentifier envelope = true
  ofExpression_legacySources : (Pattern.ofExpression legacySources).toOption = some legacy

namespace Settings

/-- Checks the options; the first fault counts. -/
def ofOptions (options : Options) : Except Options.Fault Settings :=
  if hquote : Options.IsQuote options.quote then
    if hroot : Options.IsSegment options.routesRoot then
      if henvelope : Text.isIdentifier options.envelope = true then
        match hlegacy : Pattern.ofExpression options.legacySources with
        | .ok legacy => .ok
          { options with
            legacy
            isQuote_quote := hquote
            isSegment_routesRoot := hroot
            isIdentifier_envelope := henvelope
            ofExpression_legacySources := by rw [hlegacy]; rfl }
        | .error fault => .error (.legacySources options.legacySources fault)
      else .error (.envelope options.envelope)
    else .error (.routesRoot options.routesRoot)
  else .error (.quote options.quote)

/-- The replacement of a source. -/
def remap? (remap : List (String × String)) (source : String) : Option String :=
  (remap.reverse.find? fun (old, _) => old = source).map Prod.snd

/-- The variables that a migrated module declares. -/
def descriptorNames (settings : Settings) : List String :=
  [settings.pageDescriptor, settings.resourceDescriptor]

/-- An import source that belongs to the framework that is left behind. -/
def isLegacy (settings : Settings) (source : String) : Bool :=
  settings.legacy.occursIn source

end Settings

end RouteMigration
