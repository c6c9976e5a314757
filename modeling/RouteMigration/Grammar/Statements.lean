import RouteMigration.Grammar.Classes

/-!
# Statements and declarations
-/

namespace RouteMigration.Grammar

open Reader Read

namespace Statements

/-- Statements in braces. -/
def block (rules : Rules) : Reader :=
  node "statement_block" (all [
    punctuation "\x7b",
    exposed (many (rules .statement)),
    punctuation "\x7d",
    optionalEnd])

/-! ### Declarations -/

def declarator (rules : Rules) : Reader :=
  node "variable_declarator" (all [
    field "name" (Patterns.binding rules),
    optional (onSameLine (punctuationNot "!" ['='])),
    optional (field "type" (Types.typeClause rules)),
    optional (initializer rules "value")])

/-- Variables with a keyword. An operator goes on with the value of the last one, if it has one. -/
def declarations (rules : Rules) (kind : String) (keyword : Reader) : Reader :=
  node kind (do
    let head ← all [keyword, separated (declarator rules) comma]
    let operator := (head.getLast?.bind (·.child? "value")).isSome
    return head ++ (← statementEnd { operator }))

def startsBinding (rest : List Char) : Bool :=
  match rest with
  | [] => false
  | c :: _ => c = '[' || c = '\x7b' ||
    (isNameStart c && !wordAhead ["in", "instanceof"] rest) || c = '\\'

def lexical (rules : Rules) : Reader :=
  declarations rules "lexical_declaration"
    (field "kind" (followedBy (word "let") startsBinding <|> word "const"))

def variableDeclaration (rules : Rules) : Reader :=
  declarations rules "variable_declaration" (word "var")

/-- What follows a word that could also be a statement by itself, when nothing stands before it. -/
def afterWord (alone : Bool) (reader : Reader) : Reader :=
  if alone then onSameLine reader else reader

/-- A function with a body, or the signature of one. -/
def function (rules : Rules) (alone : Bool) : Reader := do
  let head ← all [word "async", afterWord alone (word "function")] <|> word "function"
  let star ← optional (punctuation "*")
  let signature ← all [field "name" identifier, Types.callSignature rules]
  if startsWith "\x7b" (← token).rest then
    let kind := if star.isEmpty then "function_declaration" else "generator_function_declaration"
    nodeAfter kind (head ++ star ++ signature) (all [field "body" (rules .block), optionalEnd])
  else
    nodeAfter "function_signature" (head ++ star ++ signature)
      (statementEnd { operator := false, body := true })

/-- A class with a name. The decorators in front of it are read already. -/
def classAfter (rules : Rules) (decorators : List Tree) : Reader :=
  let declared (kind : String) (keywords : Reader) :=
    nodeAfter kind decorators
      (all [keywords, Expressions.className, Expressions.classTail rules, optionalEnd])
  let start (kind : String) (keywords : Reader) :=
    if decorators.isEmpty then
      node kind (all [keywords, Expressions.className, Expressions.classTail rules, optionalEnd])
    else declared kind keywords
  start "abstract_class_declaration" (all [word "abstract", word "class"]) <|>
    start "class_declaration" (word "class")

def decorators (rules : Rules) : Reader :=
  many (field "decorator" (Expressions.decorator rules))

def interface (rules : Rules) : Reader :=
  let extending := node "extends_type_clause"
    (all [word "extends", enclosed (separated (field "type" (Types.named rules)) comma)])
  node "interface_declaration" (all [
    word "interface",
    field "name" typeIdentifier,
    optional (field "type_parameters" (Types.typeParameters rules)),
    optional extending,
    field "body" (Types.members rules "interface_body")])

def enum (rules : Rules) : Reader :=
  let member := do
    let name ← field "name" (propertyName rules)
    nodeAfter "enum_assignment" name (initializer rules "value") <|> Read.pure name
  let body := node "enum_body" (all [
    punctuation "\x7b",
    optional (enclosed (all [separated member comma, optional comma])),
    punctuation "\x7d"])
  node "enum_declaration" (all [
    optional (word "const"),
    word "enum",
    field "name" identifier,
    field "body" body])

def typeAlias (rules : Rules) (alone : Bool) : Reader :=
  node "type_alias_declaration" (all [
    word "type",
    afterWord alone (field "name" typeIdentifier),
    optional (field "type_parameters" (Types.typeParameters rules)),
    equals,
    field "value" (rules .type),
    statementEnd { operator := false }])

/-- A name with members, as modules and import aliases have. -/
def nestedName : Reader := do
  let first ← identifier
  extend (fun trees => nodeAfter "nested_identifier" (trees.map (·.withField "object"))
    (Types.dotted "property_identifier" "property")) first

def moduleRest (rules : Rules) (alone : Bool) : Reader :=
  all [
    field "name" (afterWord alone (string <|> nestedName)),
    optional (field "body" (rules .block))]

def internalModule (rules : Rules) (alone : Bool) : Reader :=
  node "internal_module" (all [word "namespace", moduleRest rules alone])

def module (rules : Rules) (alone : Bool) : Reader :=
  node "module" (all [word "module", moduleRest rules alone])

/-- `import name = other.name`. -/
def importAlias : Reader :=
  node "import_alias" (all [
    word "import",
    identifier,
    equals,
    followedBy nestedName (!startsWith "(" ·),
    statementEnd { operator := false }])

def declarationUpTo (rules : Rules) (alone : Bool) : Nat → Reader
  | 0 => fail
  | n + 1 =>
    let ambient := node "ambient_declaration" (all [
      word "declare",
      afterWord alone (
        all [word "global", rules .block] <|>
        declarationUpTo rules false n)])
    do
      let rest := (← token).rest
      match nameAhead ⟨rest, 0⟩ with
      | some "function" => function rules alone
      | some "async" => function rules alone
      | some "class" => classAfter rules []
      | some "abstract" => classAfter rules []
      | some "const" => enum rules <|> lexical rules
      | some "let" => lexical rules
      | some "var" => variableDeclaration rules
      | some "enum" => enum rules
      | some "interface" => interface rules
      | some "type" => typeAlias rules alone
      | some "namespace" => internalModule rules alone
      | some "module" => module rules alone
      | some "import" => importAlias
      | some "declare" => ambient
      | _ =>
        if startsWith "@" rest then do classAfter rules (← decorators rules) else fail

/-- A declaration, by itself or after `export`. -/
def declaration (rules : Rules) (alone : Bool) : Reader :=
  declarationUpTo rules alone 2

/-! ### Other statements -/

def condition (rules : Rules) : Reader :=
  field "condition" (Expressions.parenthesized rules)

def body (rules : Rules) : Reader :=
  field "body" (rules .statement)

def ifStatement (rules : Rules) : Reader :=
  node "if_statement" (all [
    word "if",
    condition rules,
    field "consequence" (rules .statement),
    optional (field "alternative"
      (node "else_clause" (all [word "else", rules .statement])))])

def switchStatement (rules : Rules) : Reader :=
  let statements := field "body" (many (rules .statement))
  let case_ := node "switch_case" (all [
    word "case", field "value" (enclosed (rules .expressions)), punctuation ":", statements])
  let default_ := node "switch_default" (all [word "default", punctuation ":", statements])
  node "switch_statement" (all [
    word "switch",
    field "value" (Expressions.parenthesized rules),
    field "body" (node "switch_body" (all [
      punctuation "\x7b", many (case_ <|> default_), punctuation "\x7d"]))])

def emptyStatement : Reader :=
  node "empty_statement" (punctuation ";")

/-- `(left in right)` or `(left of right)`. -/
def forInHeader (rules : Rules) : Reader :=
  let left := field "left" (Patterns.binding rules)
  let declared := all [
    field "kind" (word "var" <|> followedBy (word "let") startsBinding <|> word "const"),
    left,
    optional (initializer rules "value")]
  let assigned := field "left" (rules .pattern <|> Expressions.parenthesized rules)
  all [
    punctuation "(",
    enclosed (declared <|> assigned),
    field "operator" (word "in" <|> word "of"),
    field "right" (enclosed (rules .expressions)),
    punctuation ")"]

def forStatement (rules : Rules) : Reader :=
  let initial := field "initializer" (
    emptyStatement <|> lexical rules <|> variableDeclaration rules <|>
      all [enclosed (rules .expressions), punctuation ";"])
  let test := field "condition"
    (emptyStatement <|> all [enclosed (rules .expressions), punctuation ";"])
  node "for_in_statement"
      (all [word "for", optional (word "await"), forInHeader rules, body rules]) <|>
    node "for_statement" (all [
      word "for", punctuation "(", initial, test,
      optional (field "increment" (enclosed (rules .expressions))), punctuation ")", body rules])

def whileStatement (rules : Rules) : Reader :=
  node "while_statement" (all [word "while", condition rules, body rules])

def doStatement (rules : Rules) : Reader :=
  node "do_statement" (all [
    word "do",
    body rules,
    word "while",
    condition rules,
    optional (statementEnd { operator := false })])

def tryStatement (rules : Rules) : Reader :=
  let parameter := all [
    punctuation "(",
    field "parameter" (Patterns.binding rules),
    optional (field "type" (Types.typeClause rules)),
    punctuation ")"]
  let handler := node "catch_clause"
    (all [word "catch", optional parameter, field "body" (rules .block)])
  let finalizer := node "finally_clause" (all [word "finally", field "body" (rules .block)])
  node "try_statement" (all [
    word "try",
    field "body" (rules .block),
    optional (field "handler" handler),
    optional (field "finalizer" finalizer)])

def withStatement (rules : Rules) : Reader :=
  node "with_statement"
    (all [word "with", field "object" (Expressions.parenthesized rules), body rules])

/-- A jump, to a label or not. -/
def jump (kind keyword : String) : Reader :=
  let label := onSameLine (field "label" (nameOf "statement_identifier"))
  node kind (all [word keyword, optional label, statementEnd { operator := false }])

def returnStatement (rules : Rules) : Reader :=
  node "return_statement" (all [
      word "return",
      statementEnd { operator := false }]) <|>
    node "return_statement" (all [word "return", rules .expressions, statementEnd {}])

def throwStatement (rules : Rules) : Reader :=
  node "throw_statement" (all [word "throw", rules .expressions, statementEnd {}])

def debuggerStatement : Reader :=
  node "debugger_statement" (all [word "debugger", statementEnd { operator := false }])

def expressionStatement (rules : Rules) : Reader :=
  node "expression_statement" (all [rules .expressions, statementEnd {}])

def namespaceStatement (rules : Rules) : Reader :=
  node "expression_statement" (all [internalModule rules true, statementEnd { operator := false }])

def labeled (rules : Rules) : Reader :=
  node "labeled_statement" (all [
    field "label" (nameOf "statement_identifier"),
    punctuation ":",
    body rules])

/-- A statement by its first word. -/
def byWord (rules : Rules) (exporting importing : Reader) (name : String) : Reader :=
  let other := labeled rules <|> expressionStatement rules
  match name with
  | "import" => importing <|> importAlias <|> expressionStatement rules
  | "export" => exporting
  | "if" => ifStatement rules
  | "for" => forStatement rules
  | "while" => whileStatement rules
  | "do" => doStatement rules
  | "switch" => switchStatement rules
  | "try" => tryStatement rules
  | "with" => withStatement rules
  | "return" => returnStatement rules
  | "throw" => throwStatement rules
  | "break" => jump "break_statement" "break"
  | "continue" => jump "continue_statement" "continue"
  | "debugger" => debuggerStatement
  | "function" | "class" | "const" | "var" | "interface" | "abstract" => declaration rules true
  | "namespace" => namespaceStatement rules <|> other
  | "async" | "let" | "enum" | "type" | "module" | "declare" => declaration rules true <|> other
  | _ => other

def statement (rules : Rules) (exporting importing : Reader) : Reader := do
  let rest := (← token).rest
  match rest with
  | '\x7b' :: _ => block rules
  | ';' :: _ => emptyStatement
  | '@' :: _ => exporting <|> declaration rules true
  | _ =>
    match nameAhead ⟨rest, 0⟩ with
    | some name => byWord rules exporting importing name
    | Option.none => expressionStatement rules

end Statements

end RouteMigration.Grammar
