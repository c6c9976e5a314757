import RouteMigration.Grammar.Rule

/-!
# Types

Annotations, type arguments and parameters, and the expressions of the type language.
-/

namespace RouteMigration.Grammar

open Reader Read

namespace Types

def predefined : List String :=
  ["any", "number", "boolean", "string", "symbol", "void", "unknown", "never", "object"]

def typeClause (rules : Rules) : Reader :=
  node "type_annotation" (all [punctuation ":", rules .type])

def typeArguments (rules : Rules) : Reader :=
  node "type_arguments"
    (enclosed (all [
      punctuation "<", separated (rules .type) comma, optional comma, punctuation ">"]))

def constraint (rules : Rules) : Reader :=
  node "constraint" (all [word "extends" <|> punctuation ":", rules .type])

def typeParameter (rules : Rules) : Reader :=
  node "type_parameter" (all [
    optional (word "const"),
    field "name" typeIdentifier,
    optional (field "constraint" (constraint rules)),
    optional (field "value" (node "default_type" (all [equals, rules .type])))])

def typeParameters (rules : Rules) : Reader :=
  node "type_parameters"
    (enclosed (all [
      punctuation "<", separated (typeParameter rules) comma, optional comma, punctuation ">"]))

/-- `name is type`. -/
def predicate (rules : Rules) : Reader :=
  node "type_predicate" (all [
    field "name" (wordNode "this" <|> identifier),
    unbroken (word "is"),
    field "type" (rules .type)])

def asserts (rules : Rules) : Reader :=
  node "asserts" (all [
    word "asserts",
    unbroken (predicate rules <|> wordNode "this" <|> identifier)])

/-- What a function returns, after the colon or the arrow. -/
def returned (rules : Rules) : Reader :=
  predicate rules <|> asserts rules <|> rules .type

def returnType (rules : Rules) : Reader :=
  node "type_predicate_annotation" (all [punctuation ":", predicate rules]) <|>
    node "asserts_annotation" (all [punctuation ":", asserts rules]) <|>
    typeClause rules

/-- Type parameters, parameters and the return type of a function. -/
def callSignature (rules : Rules) : Reader :=
  all [
    optional (field "type_parameters" (typeParameters rules)),
    field "parameters" (rules .parameters),
    optional (field "return_type" (returnType rules))]

def functionType (rules : Rules) : Reader :=
  whenAhead (fun rest => startsWith "(" rest || startsWith "<" rest)
    (node "function_type" (all [
      optional (field "type_parameters" (typeParameters rules)),
      field "parameters" (rules .parameters),
      punctuation "=>",
      field "return_type" (returned rules)]))

def constructorType (rules : Rules) : Reader :=
  node "constructor_type" (all [
    optional (word "abstract"),
    word "new",
    optional (field "type_parameters" (typeParameters rules)),
    field "parameters" (rules .parameters),
    punctuation "=>",
    field "type" (rules .type)])

/-! ### Names -/

/-- `.name`, as the end of a longer name. -/
def dotted (kind role : String) : Reader :=
  all [punctuation ".", field role (anyName kind)]

/-- A name with the modules it is in. -/
def qualifiedName : Reader := do
  let first ← followedBy identifier (startsWith ".")
  let module ← extend
    (fun trees => nodeAfter "nested_identifier" (trees.map (·.withField "object"))
      (followedBy (dotted "property_identifier" "property") (startsWith "."))) first
  nodeAfter "nested_type_identifier" (module.map (·.withField "module"))
    (dotted "type_identifier" "name")

def named (rules : Rules) : Reader := do
  let name ← qualifiedName <|> typeIdentifier
  nodeAfter "generic_type" (name.map (·.withField "name"))
      (field "type_arguments" (typeArguments rules)) <|>
    Read.pure name

/-! ### Object types -/

/-- `[key: type]: type`, or the clause of a mapped type in the brackets. -/
def indexSignature (rules : Rules) : Reader :=
  let key := all [field "name" identifier, punctuation ":", field "index_type" (rules .type)]
  let mapped := node "mapped_type_clause" (all [
    field "name" typeIdentifier,
    word "in",
    field "type" (rules .type),
    optional (all [word "as", field "alias" (rules .type)])])
  let adjusted (kind : String) (mark : Reader) := node kind (all [mark, punctuation ":", rules .type])
  node "index_signature" (all [
    optional (all [optional (punctuation "-" <|> punctuation "+"), word "readonly"]),
    punctuation "[",
    enclosed (mapped <|> key),
    punctuation "]",
    optional (field "type" (
      adjusted "omitting_type_annotation" (all [punctuation "-", punctuation "?"]) <|>
      adjusted "adding_type_annotation" (all [punctuation "+", punctuation "?"]) <|>
      adjusted "opting_type_annotation" (punctuation "?") <|>
      typeClause rules))])

def startsSignature (rest : List Char) : Bool :=
  startsWith "(" rest || startsWith "<" rest

def member (rules : Rules) : Reader :=
  let call := whenAhead startsSignature (node "call_signature" (callSignature rules))
  let construct := node "construct_signature" (all [
    optional (word "abstract"),
    followedBy (word "new") startsSignature,
    optional (field "type_parameters" (typeParameters rules)),
    field "parameters" (rules .parameters),
    optional (field "type" (typeClause rules))])
  let property := do
    let modifiers ← many (modifier ["readonly", "get", "set", "static", "async"])
    let name ← field "name" (propertyName rules)
    let mark ← optional (punctuation "?")
    let head := modifiers ++ name ++ mark
    if startsSignature (← token).rest then
      nodeAfter "method_signature" head (callSignature rules)
    else
      nodeAfter "property_signature" head (optional (field "type" (typeClause rules)))
  call <|> construct <|> indexSignature rules <|> property

/-- What separates the members of an object type. Nothing has to follow the last. -/
def memberEnd : Reader :=
  comma <|> statementEnd { operator := false } <|> followedBy none (startsWith "\x7d")

/-- The members of an object type in braces. -/
def members (rules : Rules) (kind : String) : Reader :=
  node kind (all [
    punctuation "\x7b",
    optional (comma <|> punctuation ";"),
    exposed (many (all [member rules, memberEnd])),
    punctuation "\x7d"])

/-! ### Tuples -/

def tupleMember (rules : Rules) : Reader :=
  let rest := node "rest_pattern" (all [punctuation "...", identifier])
  node "required_parameter"
      (all [field "name" (rest <|> identifier), field "type" (typeClause rules)]) <|>
    node "optional_parameter"
      (all [field "name" identifier, punctuation "?", field "type" (typeClause rules)]) <|>
    node "rest_type" (all [punctuation "...", rules .type]) <|>
    do
      let type ← rules .type
      nodeAfter "optional_type" type (punctuation "?") <|> Read.pure type

def tuple (rules : Rules) : Reader :=
  node "tuple_type" (all [
    punctuation "[",
    optional (enclosed (all [separated (tupleMember rules) comma, optional comma])),
    punctuation "]"])

/-! ### Other primary types -/

/-- Past the text of a template up to its end or the next substitution. -/
def templateChunk (offset : Nat) (escaped : Bool) : List Char → Option Cursor
  | [] => Option.none
  | c :: rest =>
    if escaped then templateChunk (offset + 1) false rest
    else if c = '\\' then templateChunk (offset + 1) true rest
    else if c = '\x60' then some ⟨c :: rest, offset⟩
    else if c = '$' && rest.head? = some '\x7b' then some ⟨c :: rest, offset⟩
    else templateChunk (offset + 1) false rest

/-- The rest of a template after its opening quote. -/
def templateRest (substitution : Reader) : Nat → Reader
  | 0 => fail
  | n + 1 => do
    let cursor ← place
    match templateChunk cursor.offset false cursor.rest with
    | Option.none => fail
    | some stop => do
      moveTo stop
      if stop.rest.head? = some '\x60' then punctuation "\x60"
      else all [substitution, templateRest substitution n]

def template (kind substitutionKind : String) (inner : Reader) : Reader := do
  let cursor ← place
  let substitution := node substitutionKind
    (all [punctuation "$\x7b", enclosed inner, punctuation "\x7d"])
  node kind (all [punctuation "\x60", templateRest substitution (cursor.rest.length + 1)])

def literal : Reader :=
  let negative := node "unary_expression"
    (all [field "operator" (punctuation "-" <|> punctuation "+"), field "argument" number])
  node "literal_type" (negative <|> number <|> string <|> wordNode "true" <|> wordNode "false" <|>
    wordNode "null" <|> wordNode "undefined")

/-- `import('source')` in the place of a type. -/
def imported (rules : Rules) : Reader :=
  node "call_expression" (all [
    field "function" (wordNode "import"),
    field "arguments" (rules .arguments)])

def memberOf (trees : List Tree) : Reader :=
  nodeAfter "member_expression" (trees.map (·.withField "object")) (all [
    punctuation ".",
    field "property" (anyName "property_identifier" <|> privateName)])

def importType (rules : Rules) : Reader := do
  let call ← imported rules
  let name ← extend memberOf call
  nodeAfter "generic_type" (name.map (·.withField "name"))
      (field "type_arguments" (typeArguments rules)) <|>
    Read.pure name

/-- `typeof` and a variable with members. -/
def typeQuery (rules : Rules) : Reader :=
  let index := namedLeaf "predefined_type" predefined.contains <|> string <|> number
  let subscript (trees : List Tree) :=
    nodeAfter "subscript_expression" (trees.map (·.withField "object"))
      (all [unbroken (punctuation "["), field "index" index, punctuation "]"])
  let subject := do
    let first ← imported rules <|> wordNode "this" <|> identifier
    let name ← extend (fun trees => memberOf trees <|> subscript trees) first
    nodeAfter "instantiation_expression" name
        (field "type_arguments" (typeArguments rules)) <|>
      Read.pure name
  node "type_query" (all [word "typeof", subject])

def primary (rules : Rules) : Reader :=
  node "parenthesized_type" (all [punctuation "(", enclosed (rules .type), punctuation ")"]) <|>
    members rules "object_type" <|>
    tuple rules <|>
    template "template_literal_type" "template_type" (rules .type) <|>
    literal <|>
    typeQuery rules <|>
    importType rules <|>
    wordNode "const" <|>
    leaf "this_type" true (fun cursor =>
      if nameAhead cursor = some "this" then name? cursor else Option.none) <|>
    node "existential_type" (punctuation "*") <|>
    node "flow_maybe_type" (all [punctuation "?", rules .type]) <|>
    followedBy (namedLeaf "predefined_type" predefined.contains) (fun rest => !startsWith "." rest) <|>
    named rules

/-- A primary type with the brackets that follow it. -/
def postfixed (rules : Rules) : Reader := do
  let first ← primary rules
  extend (fun trees =>
    nodeAfter "array_type" trees (all [unbroken (punctuation "["), punctuation "]"]) <|>
    nodeAfter "lookup_type" trees
      (all [unbroken (punctuation "["), enclosed (rules .type), punctuation "]"])) first

/-- A type with the operators in front of it. -/
def operand (rules : Rules) : Reader :=
  node "index_type_query" (all [word "keyof", rules .typeOperand]) <|>
    node "readonly_type" (all [word "readonly", rules .typeOperand]) <|>
    node "predefined_type" (all [word "unique", word "symbol"]) <|>
    node "infer_type" (all [
      word "infer",
      typeIdentifier,
      optional (all [word "extends", rules .type])]) <|>
    postfixed rules

def intersection (rules : Rules) : Reader := do
  let and := punctuationNot "&" ['&']
  let first ← node "intersection_type" (all [and, rules .typeOperand]) <|> rules .typeOperand
  extend (fun trees => nodeAfter "intersection_type" trees (all [and, rules .typeOperand])) first

def union (rules : Rules) : Reader := do
  let or := punctuationNot "|" ['|', '\x7d']
  let first ← node "union_type" (all [or, intersection rules]) <|> intersection rules
  extend (fun trees => nodeAfter "union_type" trees (all [or, intersection rules])) first

/-- A union, or a choice by a condition on it. -/
def conditional (rules : Rules) : Reader := do
  let left ← union rules
  nodeAfter "conditional_type" (left.map (·.withField "left")) (all [
      unbroken (word "extends"),
      field "right" (enclosed (rules .type)),
      punctuation "?",
      field "consequence" (enclosed (rules .type)),
      punctuation ":",
      field "alternative" (rules .type)]) <|>
    Read.pure left

def type (rules : Rules) : Reader :=
  functionType rules <|> constructorType rules <|> conditional rules

end Types

end RouteMigration.Grammar
