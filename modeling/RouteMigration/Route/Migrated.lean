import RouteMigration.Route.Draft
import RouteMigration.Route.Imports
import RouteMigration.Route.Outcome
import RouteMigration.RoutePath

/-!
# Migrated modules

A route module that exports its handlers becomes one that declares a descriptor. On a page, the default
export turns into a plain declaration, and a descriptor with the loader and the component is appended. A
resource route gets a descriptor of its methods in the place of its first handler. In the end, legacy
imports that are no longer used are removed, the others move to their replacements, and the factory that
makes the descriptor is imported.
-/

namespace RouteMigration.Route

open Syntax

/-- A module with what its migration came to. -/
structure Migrated where
  outcome : Outcome
  module : Module
  messages : List Message := []

/-! ### The descriptor -/

/-- A call with the arguments in parentheses. -/
def callOf (callee : Node) (arguments : List Node) : Node :=
  .make (.call callee (.join "arguments" arguments "(" ")") none)

def variableOf (name : String) : Node :=
  .make (.identifier name false)

def factoryCall (factory routePath : String) : Node :=
  callOf (variableOf factory) [.make (.stringLiteral routePath)]

def propertyOf (key : String) (value : Node) : Node :=
  .make (.property key value)

/-- A constant with an initial value. -/
def constant (name : String) (value : Node) : Node :=
  .make (.variableDeclaration "const" [.make (.declarator (variableOf name) (some value) none)])

/-- An exported constant. -/
def exportedConstant (name : String) (value : Node) : Node :=
  .make (.exportNamed { declaration := some (constant name value) })

/-- The descriptor of a page. -/
def pageDescriptor (settings : Settings) (routePath : String) (properties : List Node) : Node :=
  exportedConstant settings.pageDescriptor
    (callOf (factoryCall settings.pageFactory routePath) [.make (.objectExpression properties)])

/-- The descriptor of a resource. -/
def resourceDescriptor (settings : Settings) (routePath : String) (properties : List Node) : Node :=
  let factory := factoryCall settings.resourceFactory routePath
  exportedConstant settings.resourceDescriptor
    (callOf (.make (.member factory settings.resourceMethod)) [.make (.objectExpression properties)])

/-! ### Handlers as properties -/

/-- What there is to say about a handler that stays because other code uses it. -/
def keptAdvisory (settings : Settings) (located : Located) : String :=
  let calls := s!"its {settings.envelope}() calls were not unwrapped"
  if located.localName = located.name then
    s!"{located.localName} is still used elsewhere in this module; {calls}"
  else s!"{located.name} still refers to {located.localName}; {calls}"

/-- What there is to say about a handler that was taken out. -/
def handlerAdvisories (settings : Settings) (handler : Handler) : List String :=
  let dropped := String.intercalate ", " handler.dropped
  (if handler.dropped.isEmpty then []
    else [s!"{handler.name} no longer receives {dropped}; get them from the route context"]) ++
  (if handler.retained = 0 then []
    else [s!"{handler.retained} {settings.envelope}() call(s) with status or headers kept as is"])

/-- A handler that became a property. -/
structure Attached where
  draft : Draft
  property : Node
  /-- The function of the declaration, as it is left behind. -/
  source : Node

/-- Makes a property of a handler. If other code uses the handler, the property refers to it; otherwise
its function moves into the property. -/
def attach (settings : Settings) (module : Module) (kind : Kind) (draft : Draft) (key : String)
    (located : Located) : Except Draft.Fault Attached := do
  let draft := draft.mapNodes (unlist [located.name])
  let handler? := if draft.isUsedElsewhere located.localName (.statement located.statement) then none
    else extract? settings kind located
  match handler? with
  | none =>
    let draft ← draft.keep module located
    let (draft, property) := draft.advise settings [keptAdvisory settings located]
      (propertyOf key (variableOf located.localName))
    pure { draft, property, source := located.function }
  | some handler =>
    let draft ← draft.removeDeclaration located
    let (draft, property) := draft.advise settings (handlerAdvisories settings handler)
      (propertyOf key handler.value)
    pure { draft, property, source := handler.source }

/-! ### Pages -/

/-- The name for a binding that is added to a draft. -/
def Draft.freshName (draft : Draft) (base : String) : String :=
  Route.freshName (takenNames draft.body) base

/-- The statement that imports a component under a name. -/
def componentImport (imported source name : String) : Node :=
  .make <| .importDeclaration <|
    if imported = "default" then { source, defaultName := some name }
    else
      let renamed := if name = imported then none else some name
      { source, specifiers := [{ imported, renamed }] }

def withGap (gap : Option String) (node : Node) : Node :=
  node.withInfo { node.info with gap }

/-- Takes a specifier out of a list of exports. -/
def eraseSpecifier (index : Nat) (statement : Node) : Node :=
  match statement.form with
  | .exportNamed form =>
    statement.withForm (.exportNamed { form with specifiers := form.specifiers.eraseIdx index })
  | _ => statement

/-- The declaration that stands for a default export, and the name it declares. `fresh` is the name for
what has none. -/
def inlineComponent (fresh : String) (declaration : Node) : Node × String :=
  match declaration.form with
  | .functionDeclaration form => named form.name fun name =>
      declaration.withForm (.functionDeclaration { form with name })
  | .classDeclaration name tail => named name fun name =>
      declaration.withForm (.classDeclaration name tail)
  | _ => (constant fresh declaration, fresh)
where
  named (name : Option String) (rename : Option String → Node) : Node × String :=
    match name with
    | some name => (declaration, name)
    | none => (rename (some fresh), fresh)

/-- The plain statement for the default export of a statement. -/
def inlineStatement (fresh : String) (statement : Node) : Node × String :=
  match statement.form with
  | .exportDefault declaration =>
    let (component, name) := inlineComponent fresh declaration
    (component.withInfo
      { component.info with gap := statement.info.gap, comments := statement.info.comments }, name)
  | _ => (statement, fresh)

/-- Turns the default export into a plain declaration, and tells the name of the component. -/
def detachDefault (settings : Settings) (draft : Draft) : DefaultExport → Draft × String
  | .referenced name statement none _ => (draft.erase (.statement statement), name)
  | .referenced name statement (some index) _ =>
    (draft.modify (.statement statement) (eraseSpecifier index), name)
  | .forwarded imported source statement index =>
    let origin := Origin.statement statement
    let draft := draft.modify origin (eraseSpecifier index)
    let base := if imported = "default" then settings.componentName else imported
    let name := draft.freshName base
    let gap := (draft.find? origin).bind (·.info.gap)
    (draft.insertBefore origin ⟨.component, withGap gap (componentImport imported source name)⟩, name)
  | .inline statement =>
    let origin := Origin.statement statement
    let fresh := draft.freshName settings.componentName
    let name := ((draft.find? origin).map fun node => (inlineStatement fresh node).2).getD fresh
    (draft.modify origin fun node => (inlineStatement fresh node).1, name)

def pageActionAdvisory : String :=
  "page routes have no action slot; move this mutation into a server function"

def migratePage (settings : Settings) (module : Module) (routePath : String)
    (default : DefaultExport) (loader : Located) (action : Option Located) :
    Except Draft.Fault Draft := do
  let (draft, component) := detachDefault settings (.ofBody module.body) default
  let attached ← attach settings module .page draft "loader" loader
  let properties := [attached.property, propertyOf "component" (variableOf component)]
  let draft := attached.draft.append ⟨.descriptor, pageDescriptor settings routePath properties⟩
  pure <| match action with
    | some action => draft.adviseAt settings (.statement action.statement) pageActionAdvisory
    | none => draft

/-! ### Resources -/

/-- The handlers with the methods they answer, in the order of the descriptor. -/
def methodsOf (loader action : Option Located) : List (String × Located) :=
  loader.toList.map ("GET", ·) ++ action.toList.map ("POST", ·)

/-- Takes over the function that another handler left behind in the same declaration. -/
def Located.takeOver (located other : Located) (source : Node) : Located :=
  if located.statement = other.statement && located.shape = other.shape then
    { located with function := source }
  else located

/-- Attaches handlers one after the other. The descriptor has the properties made so far. -/
def attachAll (settings : Settings) (module : Module) (routePath : String) (draft : Draft)
    (properties : List Node) : List (String × Located) → Except Draft.Fault Draft
  | [] => pure draft
  | (key, located) :: rest => do
    let attached ← attach settings module .resource draft key located
    let properties := properties ++ [attached.property]
    let gap := (draft.find? .descriptor).bind (·.info.gap)
    let descriptor := withGap gap (resourceDescriptor settings routePath properties)
    let draft := attached.draft.modify .descriptor fun _ => descriptor
    match rest with
    | [] => pure draft
    | (next, other) :: rest =>
      attachAll settings module routePath draft properties
        ((next, other.takeOver located attached.source) :: rest)
  termination_by handlers => handlers.length

/-- Moves the descriptor below every handler that it refers to. -/
def settleDescriptor (draft : Draft) : Draft :=
  let kept := draft.kept.filterMap fun index => draft.position? (.statement index)
  match kept.max?, draft.position? .descriptor, draft.find? .descriptor with
  | some last, some position, some node =>
    if position < last then (draft.erase .descriptor).insertAt last ⟨.descriptor, node⟩ else draft
  | _, _, _ => draft

def migrateResource (settings : Settings) (module : Module) (routePath : String)
    (handlers : List (String × Located)) : Except Draft.Fault Draft := do
  let draft := Draft.ofBody module.body
  match (handlers.map fun (_, located) => located.statement).min? with
  | none => pure draft
  | some first =>
    let gap := (module.body[first]?).bind (·.info.gap)
    let descriptor := withGap gap (resourceDescriptor settings routePath [])
    let draft := draft.insertBefore (.statement first) ⟨.descriptor, descriptor⟩
    settleDescriptor <$> attachAll settings module routePath draft [] handlers

/-! ### Imports and exports -/

/-- The import of the factory that makes the descriptor. -/
def pendingImports (settings : Settings) : Kind → PendingImports
  | .page => PendingImports.add {} settings.pageFactory settings.pageFactorySource
  | .resource => PendingImports.add {} settings.resourceFactory settings.resourceFactorySource

/-- Removes the legacy imports that lost their last use, with the envelope if nothing uses it, and moves
the others. `used` are the names that the module used at first. -/
def dropLegacy (settings : Settings) (used : List String) (body : List Node) : List Node :=
  let stale := staleImports settings.isLegacy (some (settings.envelope :: used)) body
  let body := stale.foldl (fun body name =>
    (removeImport settings.isLegacy settings.sourceRemap name body).1) body
  (remapSources settings.isLegacy settings.sourceRemap body).1

/-! ### Whole modules -/

/-- The draft of a module with its kind, or why there is none. -/
def draftOf (settings : Settings) (module : Module) (routePath : String) :
    Except Draft.Fault (Except (Option Kind × SkipReason) (Kind × Draft)) := do
  if declaresAny module settings.descriptorNames then
    return .error (none, .alreadyMigrated)
  let loader := locate module.body "loader"
  let action := locate module.body "action"
  match findDefaultExport module, loader with
  | some _, none => return .error (some .page, .missingLoader)
  | some default, some loader =>
    return .ok (.page, ← migratePage settings module routePath default loader action)
  | none, _ =>
    let handlers := methodsOf loader action
    if handlers.isEmpty then return .error (some .resource, .notApplicable)
    return .ok (.resource, ← migrateResource settings module routePath handlers)

/-- What there is to say before a module is changed. -/
def inspectionMessages (settings : Settings) (module : Module) : List Message :=
  if declaresAny module settings.descriptorNames then
    [.engine module.path "already declares a route descriptor"]
  else
    let found := defaultExportMessages module
    locateMessages module "loader" ++ locateMessages module "action" ++ found ++ found

/-- Migrates a module. -/
def migrate (settings : Settings) (module : Module) : Except Draft.Fault Migrated := do
  let routePath := RoutePath.ofFile module.path settings.routesRoot
  let inspected := inspectionMessages settings module
  match ← draftOf settings module routePath with
  | .error (kind, reason) =>
    let messages := if reason = .missingLoader then
      inspected ++ [.engine module.path "page route without a loader"] else inspected
    pure { outcome := .skipped kind reason, module, messages }
  | .ok (kind, draft) =>
    let body := dropLegacy settings module.referencedNames draft.body
    let pending := pendingImports settings kind
    let finished := pruneExports (applyImports body pending)
    let summary := s!"rewritten as {kind.name} route {routePath}"
    pure {
      outcome := .finalized kind routePath draft.advisories
      module := module.withBody finished
      messages := inspected ++ importMessages module.path body pending ++
        [.engine module.path summary] }

end RouteMigration.Route
