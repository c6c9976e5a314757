/-!
# Matching lines of two texts

Two texts are matched by their longest common stretch of lines, and what lies before and after it in the
same way. In a long text, lines that occur very often do not start a match, but a match extends over
them.
-/

namespace RouteMigration.Diff

/-- A stretch of lines that two texts share: where it starts in each, and how long it is. -/
structure Match where
  old : Nat
  new : Nat
  size : Nat
  deriving DecidableEq, Repr

variable {α : Type} [DecidableEq α]

/-- Whether a line of the new text occurs too often to start a match. -/
def isPopular (new : List α) (line : α) : Bool :=
  200 ≤ new.length && new.length / 100 + 1 < new.count line

/-- How many lines match up to a line of the old text and each line of the new one, from the same counts
for the line before. -/
def extendRow (popular : α → Bool) (line : α) (new : List α) (row : List Nat) : List Nat :=
  List.zipWith (fun other before => if line = other && !popular other then before + 1 else 0)
    new (0 :: row)

/-- The larger count in a row, with its index, if it is larger than what has been found. -/
def bestOf (index : Nat) (row : List Nat) (best : Match) : Match :=
  row.zipIdx.foldl (fun best (size, other) =>
    if best.size < size then ⟨index + 1 - size, other + 1 - size, size⟩ else best) best

/-- The first of the longest common stretches without popular lines. -/
def longestRun (popular : α → Bool) (old new : List α) : Match :=
  (old.zipIdx.foldl (fun (row, best) (line, index) =>
    let row := extendRow popular line new row
    (row, bestOf index row best)) (List.replicate new.length 0, (⟨0, 0, 0⟩ : Match))).2

/-- The number of lines that two texts share at their start. -/
def commonLength : List α → List α → Nat
  | a :: as, b :: bs => if a = b then commonLength as bs + 1 else 0
  | _, _ => 0

/-- The longest common stretch, as far as it extends. -/
def longestMatch (popular : α → Bool) (old new : List α) : Match :=
  let run := longestRun popular old new
  let before := commonLength (old.take run.old).reverse (new.take run.new).reverse
  let after := commonLength (old.drop (run.old + run.size)) (new.drop (run.new + run.size))
  ⟨run.old - before, run.new - before, before + run.size + after⟩

/-- The difference between two texts: lines that they share, and lines of one of them only. -/
inductive Edit (α : Type) where
  | keep (line : α)
  | delete (line : α)
  | insert (line : α)
  deriving DecidableEq, Repr

/-- Every old line goes and every new line comes. -/
def replaceAll (old new : List α) : List (Edit α) :=
  old.map .delete ++ new.map .insert

/-- The edits from one text to another. Each match uses up a line of the old text, so that as many steps
as it has lines are enough. -/
def editsWithin (popular : α → Bool) : Nat → List α → List α → List (Edit α)
  | 0, old, new => replaceAll old new
  | steps + 1, old, new =>
    let found := longestMatch popular old new
    if found.size = 0 then replaceAll old new
    else
      editsWithin popular steps (old.take found.old) (new.take found.new) ++
        ((old.drop found.old).take found.size).map .keep ++
        editsWithin popular steps (old.drop (found.old + found.size))
          (new.drop (found.new + found.size))

def edits (old new : List α) : List (Edit α) :=
  editsWithin (isPopular new) old.length old new

end RouteMigration.Diff
