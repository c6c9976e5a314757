import RouteMigration.FilePath
import RouteMigration.Text.Quoted

/-!
# File trees

The files and folders that a migration sees. A file is known by its place, the names on the way from the
top of the tree. The folders on the way to a file are there without being listed.
-/

namespace RouteMigration

abbrev Place := List String

structure FileTree where
  files : List (Place × List UInt8) := []
  /-- Folders that may be empty. -/
  folders : List Place := []
  /-- The folder that relative paths start from. -/
  here : Place := []
  /-- Files that cannot be read. -/
  unreadable : List Place := []
  /-- Files that cannot be opened for writing. -/
  unwritable : List Place := []
  deriving DecidableEq, Repr

namespace FileTree

/-- Why a path cannot be opened. -/
inductive Cause where
  | missing
  | notFolder
  | isFolder
  | denied
  deriving DecidableEq, Repr

structure Fault where
  path : FilePath
  cause : Cause
  deriving DecidableEq, Repr

def Cause.message : Cause → String
  | .missing => "[Errno 2] No such file or directory"
  | .notFolder => "[Errno 20] Not a directory"
  | .isFolder => "[Errno 21] Is a directory"
  | .denied => "[Errno 13] Permission denied"

def Fault.message (fault : Fault) : String :=
  s!"{fault.cause.message}: {Text.quoted fault.path.toString}"

/-- The content of the file at a place. -/
def content? (tree : FileTree) (place : Place) : Option (List UInt8) :=
  (tree.files.find? fun file => file.1 = place).map Prod.snd

/-- Whether a place lies on the way to something in the tree. -/
def isFolder (tree : FileTree) (place : Place) : Bool :=
  tree.folders.any (place.isPrefixOf ·) || place.isPrefixOf tree.here ||
    tree.files.any fun (file, _) => place.isPrefixOf file && place ≠ file

/-- Follows the segments of a path from a folder. -/
def follow (tree : FileTree) (place : Place) : List String → Except Cause Place
  | [] => .ok place
  | segment :: rest =>
    if (tree.content? place).isSome then .error .notFolder
    else
      let next := if segment = ".." then place.dropLast else place ++ [segment]
      if (tree.content? next).isSome || tree.isFolder next then tree.follow next rest
      else .error .missing

/-- The place that a path leads to. -/
def resolve (tree : FileTree) (path : FilePath) : Except Cause Place :=
  tree.follow (if path.root = "" then tree.here else []) path.segments

def read (tree : FileTree) (path : FilePath) : Except Fault (List UInt8) :=
  match tree.resolve path with
  | .error cause => .error ⟨path, cause⟩
  | .ok place =>
    match tree.content? place with
    | some bytes => if place ∈ tree.unreadable then .error ⟨path, .denied⟩ else .ok bytes
    | none => .error ⟨path, .isFolder⟩

/-- Replaces the content of the file at a place. -/
def put (tree : FileTree) (place : Place) (bytes : List UInt8) : FileTree :=
  { tree with files := tree.files.map fun file => if file.1 = place then (place, bytes) else file }

/-- Replaces the content of the file that a path leads to. A file that can be opened takes all that is written. -/
def write (tree : FileTree) (path : FilePath) (bytes : List UInt8) : Except Fault FileTree :=
  match tree.resolve path with
  | .error cause => .error ⟨path, cause⟩
  | .ok place =>
    if (tree.content? place).isNone then .error ⟨path, .isFolder⟩
    else if place ∈ tree.unwritable then .error ⟨path, .denied⟩
    else .ok (tree.put place bytes)

/-- The names of the files in a folder. -/
def filesIn (tree : FileTree) (folder : Place) : List String :=
  tree.files.filterMap fun (file, _) => if file.dropLast = folder then file.getLast? else none

/-- The names of the folders in a folder. -/
def foldersIn (tree : FileTree) (folder : Place) : List String :=
  let places := tree.files.map (·.1.dropLast) ++ tree.folders ++ [tree.here]
  (places.filterMap fun place =>
    if folder.isPrefixOf place then place[folder.length]? else none).eraseDups

/-- As many levels of folders and files as the tree has. -/
def depth (tree : FileTree) : Nat :=
  (tree.files.map (·.1.length)).foldr max 0

end FileTree

end RouteMigration
