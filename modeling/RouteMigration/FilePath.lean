/-!
# File paths

A path is a root followed by segments. Empty segments and the segment `.` say nothing and are left out;
`..` is kept. A path that starts with exactly two slashes keeps both.
-/

namespace RouteMigration

structure FilePath where
  /-- The slashes in front: none, one or two. -/
  root : String := ""
  segments : List String := []
  deriving DecidableEq, Repr

namespace FilePath

/-- The stretches of text between slashes. -/
def split : List Char → List (List Char)
  | [] => [[]]
  | c :: rest =>
    if c = '/' then [] :: split rest
    else match split rest with
      | [] => [[c]]
      | piece :: more => (c :: piece) :: more

/-- The number of slashes that make up the root of a path. -/
def rootLength (text : List Char) : Nat :=
  match (text.takeWhile (· = '/')).length with
  | 0 => 0
  | 2 => 2
  | _ => 1

def ofString (text : String) : FilePath where
  root := String.ofList (List.replicate (rootLength text.toList) '/')
  segments := ((split text.toList).filter fun s => s ≠ [] ∧ s ≠ ['.']).map String.ofList

def toString (path : FilePath) : String :=
  if path.root = "" ∧ path.segments = [] then "."
  else path.root ++ String.intercalate "/" path.segments

instance : ToString FilePath := ⟨toString⟩

/-- The segments, led by the root of an absolute path. Paths are compared by their components. -/
def components (path : FilePath) : List String :=
  if path.root = "" then path.segments else path.root :: path.segments

instance : LT FilePath := ⟨fun a b => a.components < b.components⟩

instance (a b : FilePath) : Decidable (a < b) :=
  inferInstanceAs (Decidable (a.components < b.components))

/-- The path to a place below. -/
def descendant (path : FilePath) (names : List String) : FilePath :=
  { path with segments := path.segments ++ names }

/-- The path as seen from `base`, when `base` leads to it. -/
def relativeTo (path base : FilePath) : Option FilePath :=
  if path.root = base.root && base.segments.isPrefixOf path.segments then
    some { segments := path.segments.drop base.segments.length }
  else none

/-- The last dot of a name and what follows it; a dot at either end of the name does not count. -/
def suffixOf (name : List Char) : List Char :=
  let suffix := (name.reverse.takeWhile (· ≠ '.')).reverse
  if suffix = [] ∨ suffix.length + 1 ≥ name.length then [] else '.' :: suffix

/-- The file name extension with its dot. -/
def suffix (path : FilePath) : String :=
  match path.segments.getLast? with
  | none => ""
  | some name => String.ofList (suffixOf name.toList)

end FilePath

end RouteMigration
