import RouteMigration.Text.WordCharacter

/-!
# Patterns

A pattern describes stretches of text. `Pattern.ends` lists the places where a stretch that begins at a
given place can end, and a pattern occurs in a text when some place of the text begins such a stretch.
-/

namespace RouteMigration

/-- What a pattern asks of one character. -/
inductive CharacterSet where
  /-- Everything but a line feed. -/
  | any
  | single (c : Char)
  /-- The closed ranges of a bracketed set, or all that lies outside of them. -/
  | ranges (negated : Bool) (items : List (Char × Char))
  deriving DecidableEq, Repr

def CharacterSet.contains (c : Char) : CharacterSet → Bool
  | .any => c ≠ '\n'
  | .single d => c = d
  | .ranges negated items => (items.any fun (low, high) => low ≤ c && c ≤ high) != negated

inductive Pattern where
  | empty
  | character (set : CharacterSet)
  /-- The start of the text. -/
  | start
  /-- The end of the text, or the place before a line feed that ends it. -/
  | finish
  /-- A place where a word starts or ends; with `inside` every other place. -/
  | boundary (inside : Bool)
  | sequence (first second : Pattern)
  | either (left right : Pattern)
  | optional (body : Pattern)
  /-- Any number of stretches of `body` one after the other. -/
  | repeated (body : Pattern)
  deriving DecidableEq, Repr

namespace Pattern

/-- A place in a text: the character before it and what follows. -/
structure Place where
  previous : Option Char
  rest : List Char
  deriving DecidableEq, Repr

def Place.atWordBoundary (place : Place) : Bool :=
  place.previous.any Text.isWordCharacter != place.rest.head?.any Text.isWordCharacter

/-- The first place and all that follow it. -/
def places (previous : Option Char) : List Char → List Place
  | [] => [⟨previous, []⟩]
  | c :: rest => ⟨previous, c :: rest⟩ :: places (some c) rest

/-- The places reached from `frontier` by any number of steps, each of which goes forward. -/
def reach (step : Place → List Place) : Nat → List Place → List Place
  | 0, frontier => frontier
  | n + 1, frontier =>
    let next := frontier.flatMap fun place =>
      (step place).filter fun after => after.rest.length < place.rest.length
    if next.isEmpty then frontier else frontier ++ reach step n next.eraseDups

/-- The places where a stretch of text described by the pattern can end. -/
def ends : Pattern → Place → List Place
  | .empty, place => [place]
  | .character set, place =>
    match place.rest with
    | c :: rest => if set.contains c then [⟨some c, rest⟩] else []
    | [] => []
  | .start, place => if place.previous.isNone then [place] else []
  | .finish, place => if place.rest = [] ∨ place.rest = ['\n'] then [place] else []
  | .boundary inside, place => if place.atWordBoundary != inside then [place] else []
  | .sequence first second, place => (first.ends place).flatMap second.ends
  | .either left right, place => left.ends place ++ right.ends place
  | .optional body, place => place :: body.ends place
  | .repeated body, place => reach body.ends place.rest.length [place]

/-- The pattern describes some stretch of the text. -/
def occursIn (pattern : Pattern) (text : String) : Bool :=
  (places none text.toList).any fun place => !(pattern.ends place).isEmpty

end Pattern

end RouteMigration
