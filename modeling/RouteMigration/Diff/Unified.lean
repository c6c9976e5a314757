import RouteMigration.Diff.Matching
import RouteMigration.Text.Lines

/-!
# Unified diffs

A diff shows every changed line with three lines of context on either side. Lines that are shown one
after the other make a hunk, which starts with the numbers of its lines in both texts.
-/

namespace RouteMigration.Diff

/-- The lines of context around a change. -/
def context : Nat := 3

namespace Edit

variable {α : Type}

def isChange : Edit α → Bool
  | .keep _ => false
  | _ => true

def isOld : Edit α → Bool
  | .insert _ => false
  | _ => true

def isNew : Edit α → Bool
  | .delete _ => false
  | _ => true

end Edit

/-- Marks the neighbours of what is marked. -/
def spread (marks : List Bool) : List Bool :=
  List.zipWith (· || ·) marks
    (List.zipWith (· || ·) (false :: marks) (marks.drop 1 ++ [false]))

/-- Marks what lies within `n` places of what is marked. -/
def spreadBy : Nat → List Bool → List Bool
  | 0, marks => marks
  | n + 1, marks => spreadBy n (spread marks)

/-- An edit with the numbers of lines before it in either text. -/
structure Numbered where
  edit : Edit String
  old : Nat
  new : Nat
  deriving DecidableEq, Repr

def numberedFrom (old new : Nat) : List (Edit String) → List Numbered
  | [] => []
  | edit :: rest =>
    ⟨edit, old, new⟩ ::
      numberedFrom (old + if edit.isOld then 1 else 0) (new + if edit.isNew then 1 else 0) rest

/-- The stretches of marked items. -/
def stretches {α : Type} : List (α × Bool) → List (List α)
  | [] => []
  | (_, false) :: rest => stretches rest
  | (a, true) :: rest =>
    match rest, stretches rest with
    | (_, true) :: _, stretch :: more => (a :: stretch) :: more
    | _, more => [a] :: more

def hunks (edits : List (Edit String)) : List (List Numbered) :=
  let marks := spreadBy context (edits.map Edit.isChange)
  stretches ((numberedFrom 0 0 edits).zip marks)

/-- The number of the first line and the number of lines; the line before an empty range counts. -/
def range (start length : Nat) : String :=
  if length = 1 then s!"{start + 1}"
  else if length = 0 then s!"{start},0"
  else s!"{start + 1},{length}"

def lineText : Edit String → String
  | .keep line => " " ++ line
  | .delete line => "-" ++ line
  | .insert line => "+" ++ line

def hunkHeader (hunk : List Numbered) : String :=
  match hunk with
  | [] => ""
  | first :: _ =>
    let old := range first.old (hunk.countP (·.edit.isOld))
    let new := range first.new (hunk.countP (·.edit.isNew))
    s!"@@ -{old} +{new} @@\n"

def hunkText (hunk : List Numbered) : String :=
  String.join (hunkHeader hunk :: hunk.map (lineText ·.edit))

def textLines (text : String) : List String :=
  (Text.lines text.toList).map String.ofList

/-- The diff of two versions of a file; nothing if they are the same. -/
def unified (name old new : String) : String :=
  match hunks (edits (textLines old) (textLines new)) with
  | [] => ""
  | found => String.join (s!"--- a/{name}\n+++ b/{name}\n" :: found.map hunkText)

end RouteMigration.Diff
