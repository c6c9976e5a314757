import RouteMigration.Grammar.Reader

/-!
# Tokens

Names, punctuation, numbers, strings and regular expressions, and the end of a statement, which need not
be written: a line break ends a statement unless the next line goes on with it.
-/

namespace RouteMigration.Grammar

open Reader Read

/-! ### Names -/

/-- Characters that cannot be part of a name. -/
def isPunctuation (c : Char) : Bool :=
  c.toNat < 0x20 || isSpace c || ":;`\"'@#.,|^&<=>+-*/\\%?!~()[]\x7b\x7d".toList.contains c

def isNameStart (c : Char) : Bool :=
  !isPunctuation c && !c.isDigit

def isNamePart (c : Char) : Bool :=
  !isPunctuation c

def isHexDigit (c : Char) : Bool :=
  c.isDigit || ('a' ≤ c && c ≤ 'f') || ('A' ≤ c && c ≤ 'F')

/-- The number of characters after a backslash that spell a character of a name. -/
def nameEscape (rest : List Char) : Option Nat :=
  match rest with
  | 'u' :: '\x7b' :: rest =>
    let digits := rest.takeWhile isHexDigit
    if digits ≠ [] ∧ (rest.drop digits.length).head? = some '\x7d' then some (digits.length + 3)
    else Option.none
  | 'u' :: rest => if (rest.take 4).length = 4 ∧ (rest.take 4).all isHexDigit then some 5 else Option.none
  | _ => Option.none

/-- Past the rest of a name; `pending` characters still belong to an escape. -/
def nameEnd (offset pending : Nat) : List Char → Cursor
  | [] => ⟨[], offset⟩
  | c :: rest =>
    match pending with
    | n + 1 => nameEnd (offset + 1) n rest
    | 0 =>
      if isNamePart c then nameEnd (offset + 1) 0 rest
      else if c = '\\' then
        match nameEscape rest with
        | some n => nameEnd (offset + 1) n rest
        | Option.none => ⟨c :: rest, offset⟩
      else ⟨c :: rest, offset⟩

/-- Past the name that starts here. -/
def name? (cursor : Cursor) : Option Cursor :=
  match cursor.rest with
  | [] => Option.none
  | c :: rest =>
    if isNameStart c || (c = '\\' && (nameEscape rest).isSome) then
      some (nameEnd cursor.offset 0 cursor.rest)
    else Option.none

/-- The text between two places. -/
def textBetween (start stop : Cursor) : String :=
  String.ofList (start.rest.take (stop.offset - start.offset))

/-- The name that the next token is, if it is one. -/
def nameAhead (cursor : Cursor) : Option String :=
  (name? cursor).map (textBetween cursor)

/-- Words that are never the name of a variable. -/
def reservedWords : List String :=
  ["break", "case", "catch", "class", "const", "continue", "debugger", "default", "delete", "do", "else",
    "enum", "export", "extends", "finally", "for", "function", "if", "import", "in", "instanceof", "new",
    "return", "super", "switch", "this", "throw", "try", "typeof", "var", "void", "while", "with", "null",
    "true", "false", "await", "yield", "undefined"]

def namedLeaf (kind : String) (allowed : String → Bool) : Reader :=
  leaf kind true fun cursor =>
    match name? cursor with
    | some stop => if allowed (textBetween cursor stop) then some stop else Option.none
    | Option.none => Option.none

/-- A name that is not reserved, as a node of the given kind. -/
def nameOf (kind : String) : Reader :=
  namedLeaf kind (· ∉ reservedWords)

def identifier : Reader :=
  nameOf "identifier"

def typeIdentifier : Reader :=
  nameOf "type_identifier"

/-- Any name, reserved or not. -/
def anyName (kind : String) : Reader :=
  namedLeaf kind fun _ => true

/-- A word as a token. -/
def word (text : String) : Reader :=
  leaf text false fun cursor =>
    match name? cursor with
    | some stop => if textBetween cursor stop = text then some stop else Option.none
    | Option.none => Option.none

/-- A word that is a construct of its own. -/
def wordNode (text : String) : Reader :=
  namedLeaf text (· = text)

/-- The next token is one of these words. -/
def wordAhead (words : List String) (rest : List Char) : Bool :=
  match nameAhead ⟨rest, 0⟩ with
  | some text => words.contains text
  | Option.none => false

/-! ### Punctuation -/

/-- The characters as a token, whatever follows them. -/
def punctuation (text : String) : Reader :=
  leaf text false fun cursor =>
    if text.toList.isPrefixOf cursor.rest then some (cursor.advance text.length) else Option.none

/-- The characters as a token, unless one of the others follows and makes a longer token of them. -/
def punctuationNot (text : String) (others : List Char) : Reader :=
  leaf text false fun cursor =>
    if text.toList.isPrefixOf cursor.rest then
      let after := cursor.advance text.length
      if after.rest.head?.any others.contains then Option.none else some after
    else Option.none

def startsWith (text : String) (rest : List Char) : Bool :=
  text.toList.isPrefixOf rest

/-! ### Literals -/

/-- Past the end of a string in the given quotes; `escaped` follows a backslash. -/
def stringEnd? (quote : Char) (offset : Nat) (escaped : Bool) : List Char → Option Cursor
  | [] => Option.none
  | c :: rest =>
    if escaped then stringEnd? quote (offset + 1) false rest
    else if c = quote then some ⟨rest, offset + 1⟩
    else if c = '\\' then stringEnd? quote (offset + 1) true rest
    else if c = '\n' || c = '\r' then Option.none
    else stringEnd? quote (offset + 1) false rest

def string : Reader :=
  leaf "string" true fun cursor =>
    match cursor.rest with
    | '"' :: rest => stringEnd? '"' (cursor.offset + 1) false rest
    | '\'' :: rest => stringEnd? '\'' (cursor.offset + 1) false rest
    | _ => Option.none

def isDigitOrSeparator (c : Char) : Bool :=
  c.isDigit || c = '_'

/-- Past the exponent and the mark of a big number, if there are any. -/
def exponentEnd (cursor : Cursor) : Cursor :=
  let digits := fun (after : Cursor) => after.dropWhile isDigitOrSeparator
  let signed := fun (after : Cursor) =>
    match after.rest with
    | c :: d :: _ => if (c = '+' || c = '-') && d.isDigit then some (digits (after.advance 1))
        else if c.isDigit then some (digits after) else Option.none
    | [c] => if c.isDigit then some (digits after) else Option.none
    | [] => Option.none
  match cursor.rest with
  | 'e' :: _ => (signed (cursor.advance 1)).getD cursor
  | 'E' :: _ => (signed (cursor.advance 1)).getD cursor
  | 'n' :: _ => cursor.advance 1
  | _ => cursor

/-- Past the number that starts here. -/
def number? (cursor : Cursor) : Option Cursor :=
  match cursor.rest with
  | '0' :: c :: _ =>
    if "xXoObB".toList.contains c then
      some ((cursor.advance 2).dropWhile fun d => d.isAlphanum || d = '_')
    else decimal
  | _ => decimal
where
  decimal : Option Cursor :=
    match cursor.rest with
    | '.' :: d :: _ =>
      if d.isDigit then some (exponentEnd ((cursor.advance 1).dropWhile isDigitOrSeparator))
      else Option.none
    | d :: _ =>
      if d.isDigit then
        let whole := cursor.dropWhile isDigitOrSeparator
        match whole.rest with
        | '.' :: _ => some (exponentEnd ((whole.advance 1).dropWhile isDigitOrSeparator))
        | _ => some (exponentEnd whole)
      else Option.none
    | [] => Option.none

def number : Reader :=
  leaf "number" true number?

/-- Past the slash that ends a regular expression; slashes in a set do not. -/
def regexEnd? (offset : Nat) (escaped inSet : Bool) : List Char → Option Cursor
  | [] => Option.none
  | c :: rest =>
    if isLineBreak c || c = '\r' then Option.none
    else if escaped then regexEnd? (offset + 1) false inSet rest
    else if c = '\\' then regexEnd? (offset + 1) true inSet rest
    else if c = '[' then regexEnd? (offset + 1) false true rest
    else if c = ']' then regexEnd? (offset + 1) false false rest
    else if c = '/' && !inSet then some ⟨rest, offset + 1⟩
    else regexEnd? (offset + 1) false inSet rest

def regex : Reader :=
  leaf "regex" true fun cursor =>
    match cursor.rest with
    | '/' :: c :: rest =>
      if c = '/' || c = '*' then Option.none
      else (regexEnd? (cursor.offset + 1) false false (c :: rest)).map (·.dropWhile Char.isAlpha)
    | _ => Option.none

/-! ### The end of a statement -/

/-- What the parser could go on with at the end of a statement. -/
structure Pending where
  /-- An operator of an expression. -/
  operator : Bool := true
  /-- The body of a function. -/
  body : Bool := false

/-- Whether the letters continue a name. -/
def continuesName (rest : List Char) : Bool :=
  rest.head?.any Char.isAlpha

/-- Whether a line that starts like this ends the statement before it. -/
def endsBefore (pending : Pending) (rest : List Char) : Bool :=
  match rest with
  | [] => true
  | c :: more =>
    if "`,.;*%><=?^|&/:".toList.contains c then false
    else if c = '\x7b' then !pending.body
    else if c = '(' || c = '[' then !pending.operator
    else if c = '+' || c = '-' then more.head? = some c
    else if c = '!' then more.head? ≠ some '='
    else if startsWith "in" rest then
      if startsWith "instanceof" rest then continuesName (rest.drop 10)
      else continuesName (rest.drop 2)
    else true

/-- Whether the statement ends here although no semicolon follows: at the end of the source, before a
brace that closes a block, or at a line break. A colon after the brace tells that it closes a pattern,
unless the block ends the first branch of a choice. -/
def endsHere (pending : Pending) : List Char → Bool
  | [] => true
  | c :: rest =>
    if c = '\x7d' then pending.operator || (rest.dropWhile isSpace).head? ≠ some ':'
    else if isLineBreak c then
      let next := (Cursor.toToken ⟨rest, 0⟩).rest
      if startsWith "/" next then false else endsBefore pending next
    else if isSpace c then endsHere pending rest
    else false

/-- The end of a statement without a semicolon. Comments before it belong to the statement. -/
def automaticEnd (pending : Pending) : Nat → Reader
  | 0 => fail
  | n + 1 => do
    let cursor ← place
    if endsHere pending cursor.rest then none
    else match (cursor.dropWhile isSpace).comment? with
      | some after => do
        moveTo after
        automaticEnd pending n
      | Option.none => fail

/-- The end of a statement, written or not. -/
def statementEnd (pending : Pending) : Reader := do
  let cursor ← place
  automaticEnd pending (cursor.rest.length + 1) <|> punctuation ";"

/-- After a construct that ends by itself, comments on the last line belong to it if the line then
ends. -/
def optionalEnd : Reader := do
  let cursor ← place
  optional (automaticEnd { operator := false } (cursor.rest.length + 1))

end RouteMigration.Grammar
