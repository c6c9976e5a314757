import RouteMigration.Route.Exports
import RouteMigration.Route.FreshName
import RouteMigration.Route.Handler

/-!
# Drafts

A draft is the body of a module while it is being migrated. Statements keep the index they had in the
module, also when they give way to another form of themselves, so that what was located can be found
again.
-/

namespace RouteMigration.Route

open Syntax

/-- What a statement of a draft stands for. -/
inductive Origin where
  /-- The statement of the module with this index. -/
  | statement (index : Nat)
  /-- The import of a component that the default export passed on. -/
  | component
  | descriptor
  deriving DecidableEq, Repr

structure Entry where
  origin : Origin
  node : Node

structure Draft where
  entries : List Entry
  /-- Declarators that were removed: the index of the statement with their own. -/
  removed : List (Nat × Nat) := []
  /-- Statements with handlers that other code refers to. -/
  kept : List Nat := []
  advisories : List String := []

/-- What cannot be done to a draft. -/
inductive Draft.Fault where
  /-- The declarator has been removed before. -/
  | declaratorGone
  /-- The statement has been removed before. -/
  | statementGone
  deriving DecidableEq, Repr

def Draft.Fault.message : Draft.Fault → String
  | .declaratorGone => "list.remove(x): x not in list"
  | .statementGone => "statement is not in list"

namespace Draft

def ofBody (body : List Node) : Draft where
  entries := body.zipIdx.map fun (node, index) => ⟨.statement index, node⟩

def body (draft : Draft) : List Node :=
  draft.entries.map (·.node)

def find? (draft : Draft) (origin : Origin) : Option Node :=
  (draft.entries.find? (·.origin = origin)).map (·.node)

def position? (draft : Draft) (origin : Origin) : Option Nat :=
  draft.entries.findIdx? (·.origin = origin)

/-- Changes the statements of an origin. -/
def modify (draft : Draft) (origin : Origin) (f : Node → Node) : Draft :=
  { draft with entries := draft.entries.map fun entry =>
      if entry.origin = origin then { entry with node := f entry.node } else entry }

def mapNodes (draft : Draft) (f : Node → Node) : Draft :=
  { draft with entries := draft.entries.map fun entry => { entry with node := f entry.node } }

def erase (draft : Draft) (origin : Origin) : Draft :=
  { draft with entries := draft.entries.filter (·.origin ≠ origin) }

def insertAt (draft : Draft) (position : Nat) (entry : Entry) : Draft :=
  { draft with entries := draft.entries.insertIdx position entry }

/-- Puts an entry in front of another one. -/
def insertBefore (draft : Draft) (origin : Origin) (entry : Entry) : Draft :=
  draft.insertAt ((draft.position? origin).getD draft.entries.length) entry

def append (draft : Draft) (entry : Entry) : Draft :=
  { draft with entries := draft.entries ++ [entry] }

end Draft

/-! ### Advisories -/

def advisoryComment (settings : Settings) (text : String) : String :=
  s!"// {settings.advisoryPrefix} {text}"

def withComment (comment : String) (node : Node) : Node :=
  node.withInfo { node.info with comments := node.info.comments ++ [comment] }

namespace Draft

/-- Writes advisories above a property. -/
def advise (settings : Settings) (texts : List String) (draft : Draft) (property : Node) :
    Draft × Node :=
  ({ draft with advisories := draft.advisories ++ texts },
    (texts.map (advisoryComment settings)).foldl (fun node comment => withComment comment node) property)

/-- Writes an advisory above a statement, if it is still there. -/
def adviseAt (settings : Settings) (origin : Origin) (text : String) (draft : Draft) : Draft :=
  { draft.modify origin (withComment (advisoryComment settings text)) with
    advisories := draft.advisories ++ [text] }

/-! ### Taking handlers out -/

/-- The declarators that a statement declares. -/
def declaratorCount (statement : Node) : Nat :=
  match statement.exportedDeclaration?.map Node.form with
  | some (.variableDeclaration _ declarators) => declarators.length
  | _ => 0

/-- Changes the declaration of a statement. -/
def mapDeclaration (f : Node → Node) (statement : Node) : Node :=
  match statement.form with
  | .exportNamed form =>
    statement.withForm (.exportNamed { form with declaration := form.declaration.map f })
  | _ => f statement

def eraseDeclarator (index : Nat) : Node → Node :=
  mapDeclaration fun declaration =>
    match declaration.form with
    | .variableDeclaration kind declarators =>
      declaration.withForm (.variableDeclaration kind (declarators.eraseIdx index))
    | _ => declaration

/-- Removes the declaration of a handler, with its statement unless that declares other variables. -/
def removeDeclaration (draft : Draft) (located : Located) : Except Fault Draft :=
  let origin := Origin.statement located.statement
  match located.shape, draft.find? origin with
  | .variable index, some statement =>
    if declaratorCount statement ≤ 1 then .ok (draft.erase origin)
    else if (located.statement, index) ∈ draft.removed then .error .declaratorGone
    else
      let before := draft.removed.countP fun (key, other) => key = located.statement && other < index
      .ok { draft.modify origin (eraseDeclarator (index - before)) with
            removed := (located.statement, index) :: draft.removed }
  | _, _ => .ok (draft.erase origin)

/-- The declaration that is left when a statement exports nothing anymore. -/
def unexported (statement : Node) : Option Node :=
  match statement.form with
  | .exportNamed form => form.declaration.map fun declaration =>
      declaration.withInfo
        { declaration.info with gap := statement.info.gap, comments := statement.info.comments }
  | _ => none

/-- Whether a handler is exported where it is declared, and nothing else is. -/
def exportsOnly (located : Located) (statement : Node) : Bool :=
  located.localName = located.name && (unexported statement).isSome && declaratorCount statement ≤ 1

/-- Keeps the declaration of a handler, without the export of its own name. -/
def keep (module : Module) (draft : Draft) (located : Located) : Except Fault Draft :=
  let origin := Origin.statement located.statement
  let draft := { draft with kept := draft.kept ++ [located.statement] }
  match draft.find? origin with
  | some statement =>
    if exportsOnly located statement then
      .ok (draft.modify origin fun statement => (unexported statement).getD statement)
    else .ok draft
  | none =>
    if (module.body[located.statement]?).any (exportsOnly located) then .error .statementGone
    else .ok draft

/-- Whether a statement other than the given one uses a name when the program runs. -/
def isUsedElsewhere (draft : Draft) (name : String) (origin : Origin) : Bool :=
  draft.entries.any fun entry => entry.origin ≠ origin && entry.node.referencedValues.contains name

end Draft

end RouteMigration.Route
