import RouteMigration.Grammar.Dialect
import RouteMigration.Grammar.Tree

/-!
# Readers

A reader takes something from the front of a source text, or fails and tells how far it came. Between
tokens lie white space and comments. The rules of the grammar are built from readers of tokens by
sequence, choice and repetition; what they read are the children of the node around them.
-/

namespace RouteMigration.Grammar

/-- A place in the source: what follows, and the number of characters before. -/
structure Cursor where
  rest : List Char
  offset : Nat
  deriving Repr

def isLineBreak (c : Char) : Bool :=
  c = '\n' || c = '\u2028' || c = '\u2029'

/-- White space between tokens. -/
def isSpace (c : Char) : Bool :=
  let n := c.toNat
  (9 ≤ n && n ≤ 13) || n = 32 || n = 0xa0 || n = 0x1680 || (0x2000 ≤ n && n ≤ 0x200b) ||
    n = 0x2028 || n = 0x2029 || n = 0x202f || n = 0x205f || n = 0x2060 || n = 0x3000 || n = 0xfeff

namespace Cursor

def advance (cursor : Cursor) (count : Nat) : Cursor :=
  ⟨cursor.rest.drop count, cursor.offset + count⟩

/-- Past the characters of a class. -/
def dropWhile (p : Char → Bool) (cursor : Cursor) : Cursor :=
  go cursor.offset cursor.rest
where
  go (offset : Nat) : List Char → Cursor
    | [] => ⟨[], offset⟩
    | c :: rest => if p c then go (offset + 1) rest else ⟨c :: rest, offset⟩

/-- Past the end of a block comment, if it ends. -/
def blockCommentEnd? (offset : Nat) : List Char → Option Cursor
  | [] => none
  | '*' :: '/' :: rest => some ⟨rest, offset + 2⟩
  | _ :: rest => blockCommentEnd? (offset + 1) rest

/-- Past the comment that starts here. -/
def comment? (cursor : Cursor) : Option Cursor :=
  match cursor.rest with
  | '/' :: '/' :: rest =>
    some (dropWhile (fun c => !isLineBreak c && c ≠ '\r') ⟨rest, cursor.offset + 2⟩)
  | '/' :: '*' :: rest => blockCommentEnd? (cursor.offset + 2) rest
  | _ => none

/-- How `toToken` reads on. -/
inductive Skipping where
  | space
  | lineComment
  /-- After the slash that starts a block comment. -/
  | blockOpening (start : Cursor)
  /-- In a block comment: where it starts, and whether the last character was an asterisk. -/
  | blockComment (start : Cursor) (asterisk : Bool)

/-- Past white space and comments. A block comment that does not end is no comment. -/
def skip (skipping : Skipping) (offset : Nat) : List Char → Cursor
  | [] =>
    match skipping with
    | .blockComment start _ | .blockOpening start => start
    | _ => ⟨[], offset⟩
  | c :: rest =>
    match skipping with
    | .space =>
      if isSpace c then skip .space (offset + 1) rest
      else if c = '/' then
        match rest with
        | '/' :: _ => skip .lineComment (offset + 1) rest
        | '*' :: _ => skip (.blockOpening ⟨c :: rest, offset⟩) (offset + 1) rest
        | _ => ⟨c :: rest, offset⟩
      else ⟨c :: rest, offset⟩
    | .lineComment =>
      if isLineBreak c || c = '\r' then skip .space (offset + 1) rest
      else skip .lineComment (offset + 1) rest
    | .blockOpening start => skip (.blockComment start false) (offset + 1) rest
    | .blockComment start asterisk =>
      if asterisk && c = '/' then skip .space (offset + 1) rest
      else skip (.blockComment start (c = '*')) (offset + 1) rest

/-- Where the next token starts. -/
def toToken (cursor : Cursor) : Cursor :=
  skip .space cursor.offset cursor.rest

/-- The next token is on another line. -/
def breaksLine (cursor : Cursor) : Bool :=
  let token := cursor.toToken
  (cursor.rest.take (token.offset - cursor.offset)).any isLineBreak

end Cursor

/-- What a reader has to know about the text around it. -/
structure Surroundings where
  dialect : Dialect
  /-- No statement can end before a bracket is closed, so that line breaks do not count. -/
  enclosed : Bool := false
  deriving DecidableEq, Repr

/-- A failing reader tells the offset that it could not get past. -/
def Read (α : Type) : Type :=
  Surroundings → Cursor → Except Nat (α × Cursor)

/-- Reads the children of a node. -/
abbrev Reader := Read (List Tree)

namespace Read

variable {α β : Type}

def pure (value : α) : Read α :=
  fun _ cursor => .ok (value, cursor)

def bind (first : Read α) (next : α → Read β) : Read β :=
  fun around cursor =>
    match first around cursor with
    | .ok (value, after) => next value around after
    | .error offset => .error offset

instance : Monad Read where
  pure := Read.pure
  bind := Read.bind

/-- The second reader starts where the first one did; of two failures the one further on counts. -/
def orElse (first : Read α) (second : Unit → Read α) : Read α :=
  fun around cursor =>
    match first around cursor with
    | .ok result => .ok result
    | .error offset =>
      match second () around cursor with
      | .ok result => .ok result
      | .error other => .error (max offset other)

instance : OrElse (Read α) := ⟨orElse⟩

/-- Fails at the next token. -/
def fail : Read α :=
  fun _ cursor => .error cursor.toToken.offset

def place : Read Cursor :=
  fun _ cursor => .ok (cursor, cursor)

/-- The place of the next token. -/
def token : Read Cursor :=
  fun _ cursor => .ok (cursor.toToken, cursor)

def moveTo (cursor : Cursor) : Read Unit :=
  fun _ _ => .ok ((), cursor)

def surroundings : Read Surroundings :=
  fun around cursor => .ok (around, cursor)

/-- Reads as if in other surroundings. -/
def within (change : Surroundings → Surroundings) (reader : Read α) : Read α :=
  fun around cursor => reader (change around) cursor

end Read

namespace Reader

open Read

def none : Reader :=
  Read.pure []

/-- One reader after the other. -/
def all : List Reader → Reader
  | [] => none
  | first :: rest => do
    let trees ← first
    let more ← all rest
    return trees ++ more

def optional (reader : Reader) : Reader :=
  reader <|> none

def manyUpTo (reader : Reader) : Nat → Reader
  | 0 => none
  | n + 1 => fun around cursor =>
    match reader around cursor with
    | .error _ => .ok ([], cursor)
    | .ok (trees, after) =>
      if after.offset = cursor.offset then .ok (trees, after)
      else match manyUpTo reader n around after with
        | .error offset => .error offset
        | .ok (more, last) => .ok (trees ++ more, last)

/-- As often as possible. -/
def many (reader : Reader) : Reader :=
  fun around cursor => manyUpTo reader (cursor.rest.length + 1) around cursor

/-- One or more, with something between them. -/
def separated (reader separator : Reader) : Reader :=
  all [reader, many (all [separator, reader])]

/-- Entries between commas, any of which may be missing. -/
def sparse (reader comma : Reader) : Reader :=
  all [optional reader, many (all [comma, optional reader])]

def extendUpTo (step : List Tree → Reader) : Nat → List Tree → Reader
  | 0, trees => Read.pure trees
  | n + 1, trees => fun around cursor =>
    match step trees around cursor with
    | .error _ => .ok (trees, cursor)
    | .ok (more, after) => extendUpTo step n more around after

/-- Wraps what has been read as long as it goes on. -/
def extend (step : List Tree → Reader) (trees : List Tree) : Reader :=
  fun around cursor => extendUpTo step (cursor.rest.length + 1) trees around cursor

/-- Reads on only if the condition holds at the place of the next token. -/
def whenAhead (condition : List Char → Bool) (reader : Reader) : Reader := do
  if condition (← token).rest then reader else fail

/-- Fails unless the condition holds after what was read. -/
def followedBy (reader : Reader) (condition : List Char → Bool) : Reader := do
  let trees ← reader
  if condition (← token).rest then return trees else fail

/-- Fails if the next token is on another line. -/
def onSameLine (reader : Reader) : Reader := do
  if (← place).breaksLine then fail else reader

/-- Fails if the next token is on another line and a statement could end there. -/
def unbroken (reader : Reader) : Reader := do
  if (← surroundings).enclosed then reader else onSameLine reader

/-- In a place where no statement can end. -/
def enclosed (reader : Reader) : Reader :=
  within ({ · with enclosed := true }) reader

/-- Where statements, or members that end like statements, stand one after the other. -/
def exposed (reader : Reader) : Reader :=
  within ({ · with enclosed := false }) reader

def forDialect (dialect : Dialect) (reader : Reader) : Reader := do
  if (← surroundings).dialect = dialect then reader else fail

/-- Everything that is read plays the role `name`. -/
def field (name : String) (reader : Reader) : Reader := do
  let trees ← reader
  return trees.map (·.withField name)

/-- A construct with what is read as its children. -/
def node (kind : String) (reader : Reader) : Reader := do
  let start ← token
  let children ← reader
  let stop ← place
  return [.mk kind true Option.none ⟨start.offset, stop.offset⟩ children]

/-- A construct around something that has been read already. -/
def nodeAfter (kind : String) (first : List Tree) (reader : Reader) : Reader := do
  let rest ← reader
  let stop ← place
  let start := (first.head?.map Tree.start).getD stop.offset
  return [.mk kind true Option.none ⟨start, stop.offset⟩ (first ++ rest)]

/-- A single token of the given kind, whose end is known once it has been found. -/
def leaf (kind : String) (named : Bool) (find : Cursor → Option Cursor) : Reader := do
  let start ← token
  match find start with
  | some stop =>
    moveTo stop
    return [.mk kind named Option.none ⟨start.offset, stop.offset⟩ []]
  | Option.none => fail

end Reader

end RouteMigration.Grammar
