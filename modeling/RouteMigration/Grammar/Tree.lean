import RouteMigration.Syntax.Form

/-!
# Grammar trees

The grammar of the language gives a source text a tree: every node covers a stretch of the text, and its
children cover stretches of that one, in order and apart from each other. Named nodes are constructs,
the others are the tokens between them. What no node covers is white space or a comment.
-/

namespace RouteMigration.Grammar

open Syntax (Span)

inductive Tree where
  | mk (kind : String) (named : Bool) (field : Option String) (span : Span) (children : List Tree)

instance : Inhabited Tree := ⟨.mk "" false none ⟨0, 0⟩ []⟩

namespace Tree

def kind : Tree → String
  | .mk kind .. => kind

/-- Whether the node is a construct rather than a token. -/
def isNamed : Tree → Bool
  | .mk _ named .. => named

/-- The role of the node in its parent. -/
def field : Tree → Option String
  | .mk _ _ field .. => field

def span : Tree → Span
  | .mk _ _ _ span _ => span

def children : Tree → List Tree
  | .mk _ _ _ _ children => children

def start (tree : Tree) : Nat :=
  tree.span.start

def stop (tree : Tree) : Nat :=
  tree.span.stop

def withField (field : String) : Tree → Tree
  | .mk kind named _ span children => .mk kind named (some field) span children

def namedChildren (tree : Tree) : List Tree :=
  tree.children.filter isNamed

/-- The first child in the given role. -/
def child? (tree : Tree) (field : String) : Option Tree :=
  tree.children.find? fun child => child.field = some field

/-- Whether the token is one of the children. -/
def hasToken (tree : Tree) (token : String) : Bool :=
  tree.children.any fun child => child.kind = token && !child.isNamed

mutual

/-- The children of every node lie inside of it, in order and apart from each other. -/
def isNested : Tree → Bool
  | .mk _ _ _ span children => decide (span.start ≤ span.stop) && areNested span.start span.stop children

/-- The trees are nested and follow each other between two offsets. -/
def areNested (start stop : Nat) : List Tree → Bool
  | [] => decide (start ≤ stop)
  | tree :: rest =>
    decide (start ≤ tree.span.start) && isNested tree && areNested tree.span.stop stop rest

end

end Tree

end RouteMigration.Grammar
