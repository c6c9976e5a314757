import RouteMigration.Batch.Discovery
import RouteMigration.Migration
import RouteMigration.Text.Utf8

/-!
# Migrating files

Each file of a batch is migrated by itself; one that cannot be read or written or has no syntax tree fails
without touching the others.
-/

namespace RouteMigration

inductive FileStatus where
  | migrated
  | unchanged
  | failed
  deriving DecidableEq, Repr

def FileStatus.name : FileStatus → String
  | .migrated => "migrated"
  | .unchanged => "unchanged"
  | .failed => "failed"

/-- What became of a file. -/
inductive Fate where
  /-- It cannot be read, or its text is no module. -/
  | failed (error : String)
  /-- Its module is as it was. -/
  | unchanged (outcome : Route.Outcome)
  /-- There is a new text for its module. -/
  | migrated (outcome : Route.Outcome) (output : String)
  /-- There is a new text, which cannot be written. -/
  | unwritten (outcome : Route.Outcome) (output : String) (error : String)
  deriving DecidableEq, Repr

structure FileResult where
  path : FilePath
  /-- The text that was read. -/
  source : String := ""
  fate : Fate
  deriving DecidableEq, Repr

namespace FileResult

def status (result : FileResult) : FileStatus :=
  match result.fate with
  | .failed _ | .unwritten .. => .failed
  | .unchanged _ => .unchanged
  | .migrated .. => .migrated

def error? (result : FileResult) : Option String :=
  match result.fate with
  | .failed error | .unwritten _ _ error => some error
  | _ => none

def outcome? (result : FileResult) : Option Route.Outcome :=
  match result.fate with
  | .failed _ => none
  | .unchanged outcome | .migrated outcome _ | .unwritten outcome _ _ => some outcome

def output? (result : FileResult) : Option String :=
  match result.fate with
  | .migrated _ output | .unwritten _ output _ => some output
  | _ => none

def routePath? (result : FileResult) : Option String :=
  result.outcome?.bind Route.Outcome.routePath?

def advisories (result : FileResult) : List String :=
  result.outcome?.elim [] Route.Outcome.advisories

end FileResult

/-- How an error is shown that should not have happened. -/
def Migration.Fault.message : Migration.Fault → String
  | .source fault => fault.message
  | .draft fault => s!"ValueError: {fault.message}"
  | .printer fault => s!"TypeError: {fault.message}"

namespace Batch

/-- The text of a file. -/
def readText (tree : FileTree) (path : FilePath) : Except String String :=
  match tree.read path with
  | .error fault => .error fault.message
  | .ok bytes =>
    match Text.Utf8.decode bytes with
    | .error fault => .error fault.message
    | .ok text => .ok (String.ofList (Text.unifyLineEnds text))

def faultMessage (path : FilePath) : Migration.Fault → Message
  | .source fault => .driver .warning s!"Skipping {fault.message}"
  | _ => .driver .error s!"Unexpected error migrating {path}"

/-- The result for a file before anything is written, and what there is to say about it. -/
def migrateFile (settings : Settings) (tree : FileTree) (path : FilePath) :
    FileResult × List Message :=
  match readText tree path with
  | .error error =>
    ({ path, fate := .failed error }, [.driver .warning s!"Cannot read {path}: {error}"])
  | .ok source =>
    match Migration.ofSource settings source path.toString with
    | .error fault =>
      ({ path, source, fate := .failed fault.message }, [faultMessage path fault])
    | .ok migration =>
      match migration.output with
      | none => ({ path, source, fate := .unchanged migration.outcome }, migration.messages)
      | some output =>
        ({ path, source, fate := .migrated migration.outcome output }, migration.messages)

/-- Writes the output of a migrated file. -/
def saveResult (tree : FileTree) (result : FileResult) : FileResult × FileTree :=
  match result.fate with
  | .migrated outcome output =>
    match tree.write result.path (Text.Utf8.encode output.toList) with
    | .ok after => (result, after)
    | .error fault => ({ result with fate := .unwritten outcome output fault.message }, tree)
  | _ => (result, tree)

/-- The tree after the output of a migrated file has been written. -/
def writeResult (tree : FileTree) (result : FileResult) : FileTree :=
  (saveResult tree result).2

/-- What there is to say when a file is done. -/
def conclusion (result : FileResult) : List Message :=
  match result.fate with
  | .migrated outcome _ =>
    let route := outcome.routePath?.getD ""
    [.driver .info s!"Migrated {result.path} -> {route}"]
  | .unwritten _ _ error => [.driver .warning s!"Cannot write {result.path}: {error}"]
  | _ => []

/-- Migrates a file; `write` tells whether to write the result. -/
def processFile (settings : Settings) (write : Bool) (tree : FileTree) (path : FilePath) :
    FileResult × List Message × FileTree :=
  let (examined, messages) := migrateFile settings tree path
  let (result, after) := if write then saveResult tree examined else (examined, tree)
  (result, messages ++ conclusion result, after)

/-- Migrates the files one after the other. -/
def migrateFiles (settings : Settings) (write : Bool) (tree : FileTree) :
    List FilePath → List FileResult × List Message × FileTree
  | [] => ([], [], tree)
  | path :: rest =>
    let (result, messages, after) := processFile settings write tree path
    let (results, more, last) := migrateFiles settings write after rest
    (result :: results, messages ++ more, last)

end Batch

/-- The results of a run, in the order of discovery. -/
structure Batch where
  results : List FileResult := []
  deriving DecidableEq, Repr

namespace Batch

def withStatus (batch : Batch) (status : FileStatus) : List FileResult :=
  batch.results.filter (·.status = status)

def isOk (batch : Batch) : Bool :=
  (batch.withStatus .failed).isEmpty

/-- Migrates every route file that the paths stand for. -/
def run (settings : Settings) (write : Bool) (tree : FileTree) (paths : List FilePath) :
    Batch × List Message × FileTree :=
  let (results, messages, after) :=
    migrateFiles settings write tree (discover settings tree paths)
  (⟨results⟩, discoveryMessages settings tree paths ++ messages, after)

end Batch

end RouteMigration
