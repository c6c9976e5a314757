import RouteMigration.Batch.Migrate
import RouteMigration.CommandLine.Request
import RouteMigration.Diff.Unified

/-!
# Running requests

What the program prints for a request, and the files it leaves behind.
-/

namespace RouteMigration.CommandLine

structure Result where
  exitCode : Nat := 0
  output : String := ""
  errors : String := ""
  messages : List Message := []
  tree : FileTree

/-- The messages that a level of detail lets through. -/
def visible (detail : Nat) (messages : List Message) : List Message :=
  messages.filter fun message => message.level.detail ≤ detail

def settingsOf (routesRoot envelope : Option String) : Except Options.Fault Settings :=
  let standard : Options := {}
  Settings.ofOptions { standard with
    routesRoot := routesRoot.getD standard.routesRoot
    envelope := envelope.getD standard.envelope }

def invalidSettings (tree : FileTree) (fault : Options.Fault) : Result :=
  { exitCode := 2, errors := s!"Error: {fault.message}\n", tree }

/-- Fills a text up with spaces. -/
def padded (width : Nat) (text : String) : String :=
  text ++ String.ofList (List.replicate (width - text.length) ' ')

/-! ### Route paths -/

def pathLines (settings : Settings) (files : List String) : List String :=
  let width := (files.map String.length).max?.getD 0
  files.map fun file => s!"{padded width file}  {RoutePath.ofFile file settings.routesRoot}"

def runPath (request : PathRequest) (tree : FileTree) : Result :=
  match settingsOf request.routesRoot none with
  | .error fault => invalidSettings tree fault
  | .ok settings => { output := unlines (pathLines settings request.files), tree }

/-! ### Migrations -/

/-- What is shown beside a file: its route, why it was skipped, or its error. -/
def resultDetail (result : FileResult) : String :=
  match result.fate with
  | .failed error | .unwritten _ _ error => error
  | .unchanged outcome | .migrated outcome _ =>
    (outcome.reason?.map (·.name)).getD (outcome.routePath?.getD "")

def resultLine (result : FileResult) : String :=
  let line := s!"{padded 9 result.status.name}  {result.path}  {resultDetail result}"
  String.ofList (Text.trimEnd line.toList)

def resultText (diff : Bool) (result : FileResult) : String :=
  let notes := result.advisories.map fun text => s!"           ! {text}"
  let changes := match diff, result.output? with
    | true, some output => Diff.unified result.path.toString result.source output
    | _, _ => ""
  unlines (resultLine result :: notes) ++ changes

def summaryLine (batch : Batch) (dryRun : Bool) : String :=
  let verb := if dryRun then "would migrate" else "migrated"
  let count := fun status => (batch.withStatus status).length
  s!"{batch.results.length} file(s): {count .migrated} {verb}, " ++
    s!"{count .unchanged} unchanged, {count .failed} failed"

/-- No renderer for reports comes with the program. -/
def reportFault : String :=
  "Error: routeshift reports require 'kida' for rendering. " ++
    "Install it with: pip install routeshift[report]\n"

def runMigrate (detail : Nat) (request : MigrateRequest) (tree : FileTree) : Result :=
  match settingsOf request.routesRoot request.envelope with
  | .error fault => invalidSettings tree fault
  | .ok settings =>
    let paths := request.paths.map FilePath.ofString
    let (batch, messages, after) := Batch.run settings (!request.dryRun) tree paths
    let messages := visible detail messages
    if batch.results.isEmpty then
      { exitCode := 1, errors := "No route files found.\n", messages, tree := after }
    else
      let output := String.join (batch.results.map (resultText request.diff)) ++
        unlines [summaryLine batch request.dryRun]
      let wantsReport := request.report.any (· ≠ "")
      { exitCode := if wantsReport || !batch.isOk then 1 else 0
        output
        errors := if wantsReport then reportFault else ""
        messages
        tree := after }

def perform (request : Request) (tree : FileTree) : Result :=
  match request with
  | .help text => { output := text, tree }
  | .path _ request => runPath request tree
  | .migrate detail request => runMigrate detail request tree

/-- Runs the program with its arguments on a file tree. -/
def run (arguments : List String) (tree : FileTree) : Result :=
  match readRequest arguments with
  | .error fault => { exitCode := 2, errors := fault.message, tree }
  | .ok request => perform request tree

/-- The paths whose files a request reads. -/
def pathsOf (arguments : List String) : List String :=
  match readRequest arguments with
  | .ok (.migrate _ request) => request.paths
  | _ => []

end RouteMigration.CommandLine
