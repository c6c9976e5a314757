import RouteMigration.Log
import RouteMigration.Settings
import RouteMigration.Syntax.Names

/-!
# The imports of a module

Adding and removing imported names, and moving imports to the source that replaces theirs. Every edit
keeps the other statements, and applied twice it does what it does once.
-/

namespace RouteMigration.Route

open Syntax

/-- The named import `name` from `source`. -/
structure ImportRecord where
  name : String
  source : String
  deriving DecidableEq, Repr

/-- Imports to be added, without repetition, in the order of the requests. -/
structure PendingImports where
  records : List ImportRecord := []
  deriving DecidableEq, Repr

namespace PendingImports

def add (pending : PendingImports) (name source : String) : PendingImports :=
  if (⟨name, source⟩ : ImportRecord) ∈ pending.records then pending
  else ⟨pending.records ++ [⟨name, source⟩]⟩

def size (pending : PendingImports) : Nat :=
  pending.records.length

/-- The sources in the order of their first requests. -/
def sources (pending : PendingImports) : List String :=
  (pending.records.map (·.source)).eraseDups

/-- The names that are requested from a source. -/
def namesFrom (pending : PendingImports) (source : String) : List String :=
  (pending.records.filter (·.source = source)).map (·.name)

/-- Each source with the names requested from it. -/
def bySource (pending : PendingImports) : List (String × List String) :=
  pending.sources.map fun source => (source, pending.namesFrom source)

end PendingImports

/-- The import that a statement is. -/
def import? (statement : Node) : Option ImportForm :=
  match statement.form with
  | .importDeclaration form => some form
  | _ => none

/-- Whether names can be added: all of the import are types, or the whole module has a name, if not. -/
def isMergeable (form : ImportForm) : Bool :=
  !form.typeOnly && form.namespaceName.isNone

/-- Whether the import binds `name`, or the default export, to `name`. -/
def bindsAs (form : ImportForm) (name : String) : Bool :=
  form.defaultName = some name || form.specifiers.any fun specifier =>
    specifier.imported = name && specifier.renamed.isNone && !specifier.typeOnly

/-! ### Adding imports -/

/-- An expression statement that starts with a quote. -/
def isDirective (statement : Node) : Bool :=
  match statement.form with
  | .otherStatement node =>
    node.isVerbatim "expression_statement" &&
      match ((statement.info.raw).getD "").toList.head? with
      | none => true
      | some c => c = '\'' || c = '"'
  | _ => false

/-- The names of each source that no import of the body provides. -/
def missingImports (body : List Node) (pending : PendingImports) : List (String × List String) :=
  pending.bySource.filterMap fun (source, names) =>
    let existing := (body.filterMap import?).filter (·.source = source)
    let missing := names.filter fun name => !existing.any (bindsAs · name)
    if missing.isEmpty then none else some (source, missing)

/-- Whether names from `source` can be added to a statement. -/
def takesNamesFrom (source : String) (statement : Node) : Bool :=
  match import? statement with
  | some form => form.source = source && isMergeable form
  | none => false

/-- Changes an import; other statements stay as they are. -/
def mapImport (f : ImportForm → ImportForm) (statement : Node) : Node :=
  match statement.form with
  | .importDeclaration form => statement.withForm (.importDeclaration (f form))
  | _ => statement

def addSpecifiers (specifiers : List ImportSpecifier) (form : ImportForm) : ImportForm :=
  { form with specifiers := form.specifiers ++ specifiers }

def specifiersOf (names : List String) : List ImportSpecifier :=
  names.map fun name => { imported := name }

/-- Adds the names to the first statement that takes names from the source. -/
def mergeNames (body : List Node) (request : String × List String) : List Node :=
  match body.findIdx? (takesNamesFrom request.1) with
  | some index => body.modify index (mapImport (addSpecifiers (specifiersOf request.2)))
  | none => body

/-- Adds every import that is not there. Statements for new sources follow the directives at the top. -/
def applyImports (body : List Node) (pending : PendingImports) : List Node :=
  let missing := missingImports body pending
  let merged := missing.foldl mergeNames body
  let fresh := (missing.filter fun request => !body.any (takesNamesFrom request.1)).map
    fun (source, names) =>
      Node.make (.importDeclaration { source, specifiers := specifiersOf names })
  let (prologue, rest) := merged.span isDirective
  prologue ++ fresh ++ rest

/-- How many names are added. -/
def importCount (body : List Node) (pending : PendingImports) : Nat :=
  ((missingImports body pending).flatMap fun (_, names) => names).length

def importMessages (path : String) (body : List Node) (pending : PendingImports) : List Message :=
  (missingImports body pending).flatMap fun (source, names) =>
    names.map fun name => .engine path s!"importing {name} from {source}"

/-! ### Moving imports

An edit works on the places of the statements. A place whose statement is removed stays empty until all
statements have been visited.
-/

abbrev Places := List (Option Node)

def places (body : List Node) : Places :=
  body.map some

def statements (places : Places) : List Node :=
  places.filterMap id

/-- The import at a place. -/
def importAt? (places : Places) (index : Nat) : Option ImportForm :=
  (places[index]?.join).bind import?

/-- Replaces the import at a place. -/
def setImport (places : Places) (index : Nat) (form : ImportForm) : Places :=
  places.modify index (·.map (mapImport fun _ => form))

/-- Adds the specifiers whose names an import does not bind yet. -/
def mergeSpecifiers (form : ImportForm) (specifiers : List ImportSpecifier) : ImportForm :=
  specifiers.foldl (fun form specifier =>
    if form.specifiers.any (·.localName = specifier.localName) then form
    else addSpecifiers [specifier] form) form

/-- Another place with an import that takes names from the source. -/
def mergeTarget? (places : Places) (index : Nat) (source : String) : Option Nat :=
  (places.zipIdx.find? fun (statement, other) =>
    other ≠ index && statement.any (takesNamesFrom source)).map Prod.snd

/-- Moves the import at a place to another source, into a statement that is there if both can be
merged. -/
def moveTo (places : Places) (index : Nat) (form : ImportForm) (source : String) : Places :=
  let target :=
    if isMergeable form && form.defaultName.isNone then mergeTarget? places index source else none
  match target.bind fun other => (importAt? places other).map (other, ·) with
  | some (other, into) =>
    (setImport places other (mergeSpecifiers into form.specifiers)).set index none
  | none => setImport places index { form with source }

/-- Moves the import at a place to the replacement of its source, if there is one. -/
def remapAt (remap : List (String × String)) (places : Places) (index : Nat) (form : ImportForm) :
    Places :=
  match Settings.remap? remap form.source with
  | some source => moveTo places index form source
  | none => places

/-- Edits the imports one after the other, and tells how often an edit applied. -/
def editImports (edit : Places → Nat → ImportForm → Option Places) (body : List Node) :
    List Node × Nat :=
  let (places, count) := (List.range body.length).foldl (fun (places, count) index =>
    match (importAt? places index).bind (edit places index) with
    | some edited => (edited, count + 1)
    | none => (places, count)) (places body, 0)
  (statements places, count)

/-- Moves every legacy import whose source has a replacement, and counts them. -/
def remapSources (isLegacy : String → Bool) (remap : List (String × String)) (body : List Node) :
    List Node × Nat :=
  editImports (fun places index form =>
    if isLegacy form.source && (Settings.remap? remap form.source).isSome then
      some (remapAt remap places index form)
    else none) body

/-! ### Removing imports -/

/-- The import without the binding of a name. -/
def unbind (name : String) (form : ImportForm) : ImportForm :=
  { form with
    specifiers := form.specifiers.filter (·.localName ≠ name)
    defaultName := if form.defaultName = some name then none else form.defaultName
    namespaceName := if form.namespaceName = some name then none else form.namespaceName }

/-- Removes the binding of a name from every legacy import, and tells whether there was one. An import
without bindings goes; one that keeps others moves to the replacement of its source. -/
def removeImport (isLegacy : String → Bool) (remap : List (String × String)) (name : String)
    (body : List Node) : List Node × Bool :=
  let (body, count) := editImports (fun places index form =>
    let kept := unbind name form
    if !isLegacy form.source || kept = form then none
    else if kept.isEmpty then some (places.set index none)
    else some (remapAt remap (setImport places index kept) index kept)) body
  (body, 0 < count)

/-- The names of legacy imports that nothing refers to; with candidates, only those of them. -/
def staleImports (isLegacy : String → Bool) (candidates : Option (List String)) (body : List Node) :
    List String :=
  let used := body.flatMap Node.referencedNames
  let bound := ((body.filterMap import?).filter fun form => isLegacy form.source).flatMap fun form =>
    form.specifiers.map (·.localName) ++ (given form.defaultName).toList ++
      (given form.namespaceName).toList
  (bound.filter fun name => !used.contains name && candidates.all (·.contains name)).eraseDups

end RouteMigration.Route
