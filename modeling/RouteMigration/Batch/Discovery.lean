import RouteMigration.FileTree
import RouteMigration.Log
import RouteMigration.Settings

/-!
# Discovering route files

A path to a file stands for the file. A path to a folder stands for the files below it whose names end
like those of route modules, except in folders that are hidden or hold what was installed or built.
-/

namespace RouteMigration.Batch

def skippedFolders : List String :=
  ["node_modules", "build", "dist"]

def isSkippedFolder (name : String) : Bool :=
  name ∈ skippedFolders || name.toList.head? = some '.'

/-- Whether a name ends in one of the extensions. -/
def hasExtension (extensions : List String) (name : String) : Bool :=
  extensions.any fun extension => extension.toList.isSuffixOf name.toList

/-- The route files below a folder, by their places in it: those in the folder itself, and those below the
folders in it that are not skipped, down to the given depth. -/
def routeFilesBelow (settings : Settings) (tree : FileTree) : Nat → Place → List Place
  | 0, _ => []
  | depth + 1, folder =>
    let found := (tree.filesIn folder).filter (hasExtension settings.extensions)
    let entered := (tree.foldersIn folder).filter (!isSkippedFolder ·)
    found.map ([·]) ++ entered.flatMap fun name =>
      (routeFilesBelow settings tree depth (folder ++ [name])).map (name :: ·)

/-- The files that a path stands for; none if it leads nowhere. -/
def filesAt (settings : Settings) (tree : FileTree) (path : FilePath) : Option (List FilePath) :=
  match tree.resolve path with
  | .error _ => none
  | .ok place =>
    if (tree.content? place).isSome then some [path]
    else some ((routeFilesBelow settings tree tree.depth place).map path.descendant)

/-- Sorts paths and leaves out repetitions. -/
def sorted (paths : List FilePath) : List FilePath :=
  (paths.mergeSort fun a b => !decide (b < a)).eraseReps

/-- The files that the paths stand for. -/
def discover (settings : Settings) (tree : FileTree) (paths : List FilePath) : List FilePath :=
  sorted (paths.flatMap fun path => (filesAt settings tree path).getD [])

def discoveryMessages (settings : Settings) (tree : FileTree) (paths : List FilePath) :
    List Message :=
  (paths.filter fun path => (filesAt settings tree path).isNone).map fun path =>
    .driver .warning s!"No such file or directory: {path}"

end RouteMigration.Batch
