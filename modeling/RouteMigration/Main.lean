import RouteMigration.CommandLine.Run

/-!
# The program

Reads the files that the arguments name, runs the request on them, prints what it says and writes the
files that changed.
-/

namespace RouteMigration.CommandLine

/-- The place of a path of the system. -/
def placeOf (path : String) : Place :=
  (FilePath.ofString path).segments

/-- Adds the folders on the way to a path to a tree. -/
def loadFolders (tree : FileTree) (path : FilePath) : IO FileTree := do
  let mut tree := tree
  for count in List.range path.segments.length do
    try
      let folder ← IO.FS.realPath { path with segments := path.segments.take count }.toString
      if ← folder.isDir then
        tree := { tree with folders := placeOf folder.toString :: tree.folders }
    catch _ => pure ()
  return tree

/-- Adds a file to a tree. Without its content, it is one that cannot be read. -/
def withFile (tree : FileTree) (place : Place) (bytes? : Option ByteArray) (isWritable : Bool) : FileTree :=
  { tree with
    files := (place, (bytes?.map ByteArray.toList).getD []) :: tree.files
    unreadable := if bytes?.isNone then place :: tree.unreadable else tree.unreadable
    unwritable := if isWritable then tree.unwritable else place :: tree.unwritable }

/-- Adds the file of the system at a path to a tree. -/
def loadFile (tree : FileTree) (path : String) : IO FileTree := do
  let bytes? ← try some <$> IO.FS.readBinFile path catch _ => pure none
  -- appending nothing tells whether the file can be opened for writing
  let isWritable ← try
      let _ ← IO.FS.Handle.mk path .append
      pure true
    catch _ => pure false
  return withFile tree (placeOf path) bytes? isWritable

/-- Adds the file or folder at a path of the system to a tree, with everything below. -/
def loadPath (tree : FileTree) (path : String) : IO FileTree := do
  try
    let start ← IO.FS.realPath path
    if ← start.isDir then
      let mut tree := { tree with folders := placeOf start.toString :: tree.folders }
      for entry in ← start.walkDir do
        if ← entry.isDir then
          tree := { tree with folders := placeOf entry.toString :: tree.folders }
        else
          tree ← loadFile tree entry.toString
      return tree
    else
      if (tree.content? (placeOf start.toString)).isSome then return tree
      loadFile tree start.toString
  catch _ => return tree

/-- Writes the files that differ from those of another tree. -/
def saveChanges (before after : FileTree) : IO Unit := do
  for (place, bytes) in after.files do
    if before.content? place ≠ some bytes then
      IO.FS.writeBinFile ("/" ++ String.intercalate "/" place) ⟨bytes.toArray⟩

end RouteMigration.CommandLine

open RouteMigration CommandLine in
/-- Runs the program and returns its exit code. -/
def main (arguments : List String) : IO UInt32 := do
  let here ← IO.FS.realPath "."
  let mut tree : FileTree := { here := placeOf here.toString }
  for path in pathsOf arguments do
    let path := FilePath.ofString path
    tree ← loadPath (← loadFolders tree path) path.toString
  let result := run arguments tree
  saveChanges tree result.tree
  for message in result.messages do
    IO.eprintln message.line
  IO.eprint result.errors
  IO.print result.output
  return result.exitCode.toUInt32
