import RouteMigration.Grammar.Patterns

/-!
# Expressions

Operators bind by their level; a chain of operands and operators is turned into a tree once it has been
read. A parenthesis may start an arrow function, which is tried first.
-/

namespace RouteMigration.Grammar

open Reader Read

namespace Expressions

/-! ### Primary expressions -/

def spread (rules : Rules) : Reader :=
  node "spread_element" (all [punctuation "...", rules .value])

def arguments (rules : Rules) : Reader :=
  node "arguments" (enclosed
    (all [punctuation "(", sparse (spread rules <|> rules .value) comma, punctuation ")"]))

/-- The rest of a list of expressions after its first. -/
def sequenceAfter (rules : Rules) (first : List Tree) : Reader := do
  if startsWith "," (← token).rest then
    nodeAfter "sequence_expression" first (many (all [comma, rules .value]))
  else Read.pure first

def parenthesized (rules : Rules) : Reader :=
  let inner := do
    let first ← rules .value
    if startsWith ":" (← token).rest then
      return first ++ (← field "type" (Types.typeClause rules))
    else sequenceAfter rules first
  node "parenthesized_expression" (all [punctuation "(", enclosed inner, punctuation ")"])

def array (rules : Rules) : Reader :=
  node "array" (enclosed
    (all [punctuation "[", sparse (spread rules <|> rules .value) comma, punctuation "]"]))

def startsSignature (rest : List Char) : Bool :=
  startsWith "(" rest || startsWith "<" rest

def objectMember (rules : Rules) : Reader :=
  let endsMember := fun rest => startsWith "," rest || startsWith "\x7d" rest
  let shorthand := followedBy (anyName "shorthand_property_identifier") endsMember
  let keyed := do
    let modifiers ← many (modifier ["async", "get", "set", "static"])
    let star ← optional (punctuation "*")
    let name ← propertyName rules
    if startsSignature (← token).rest then
      nodeAfter "method_definition" (modifiers ++ star ++ name.map (·.withField "name"))
        (all [Types.callSignature rules, field "body" (rules .block)])
    else if modifiers.isEmpty && star.isEmpty then
      nodeAfter "pair" (name.map (·.withField "key"))
        (all [punctuation ":", field "value" (rules .value)])
    else fail
  spread rules <|> shorthand <|> keyed

def object (rules : Rules) : Reader :=
  node "object" (enclosed
    (all [punctuation "\x7b", sparse (objectMember rules) comma, punctuation "\x7d"]))

/-- A function with its keyword; without a star it is of the first kind. -/
def functionAs (rules : Rules) (plain generator : String) (name : Reader) (tail : Reader) : Reader := do
  let head ← all [word "async", unbroken (word "function")] <|> word "function"
  let star ← optional (punctuation "*")
  let kind := if star.isEmpty then plain else generator
  nodeAfter kind (head ++ star) (all [name, enclosed (Types.callSignature rules), tail])

def function (rules : Rules) : Reader :=
  functionAs rules "function_expression" "generator_function" (optional (field "name" identifier))
    (field "body" (rules .block))

/-- A decorator: a name with members that may be called, or an expression in parentheses. -/
def decorator (rules : Rules) : Reader :=
  let named := do
    let first ← identifier
    let chain ← extend (fun trees =>
      nodeAfter "member_expression" (trees.map (·.withField "object"))
        (Types.dotted "property_identifier" "property")) first
    extend (fun trees =>
      nodeAfter "call_expression" (trees.map (·.withField "function")) (all [
        optional (field "type_arguments" (Types.typeArguments rules)),
        field "arguments" (rules .arguments)])) chain
  node "decorator" (all [punctuation "@", parenthesized rules <|> named])

def heritage (rules : Rules) : Reader :=
  let extending := node "extends_clause" (all [
    word "extends",
    field "value" (enclosed (rules .heritage)),
    optional (field "type_arguments" (Types.typeArguments rules))])
  let implementing := node "implements_clause"
    (all [word "implements", enclosed (separated (rules .type) comma)])
  node "class_heritage" (all [extending, optional implementing] <|> implementing)

/-- A class after its keyword and name. -/
def classTail (rules : Rules) : Reader :=
  all [
    optional (field "type_parameters" (Types.typeParameters rules)),
    optional (heritage rules),
    field "body" (rules .classBody)]

def className : Reader :=
  field "name" (namedLeaf "type_identifier" fun name =>
    name ∉ reservedWords && name ≠ "implements")

def classExpression (rules : Rules) : Reader :=
  node "class" (all [
    many (field "decorator" (decorator rules)),
    word "class",
    optional className,
    classTail rules])

def primary (rules : Rules) : Reader := do
  match (← token).rest with
  | '(' :: _ => parenthesized rules
  | '[' :: _ => array rules
  | '\x7b' :: _ => object rules
  | '"' :: _ => string
  | '\'' :: _ => string
  | '\x60' :: _ => rules .template
  | '/' :: _ => regex
  | '#' :: _ => followedBy privateName (wordAhead ["in"])
  | '@' :: _ => classExpression rules
  | '<' :: _ => forDialect .tsx (rules .element)
  | '.' :: _ => number
  | c :: _ =>
    if c.isDigit then number
    else if wordAhead ["function"] (← token).rest then function rules
    else if wordAhead ["async"] (← token).rest then function rules <|> identifier
    else if wordAhead ["class"] (← token).rest then classExpression rules
    else if wordAhead ["import"] (← token).rest then
      node "meta_property" (all [word "import", punctuation ".", word "meta"]) <|>
        followedBy (wordNode "import") (startsWith "(")
    else if wordAhead ["this", "super", "true", "false", "null", "undefined"] (← token).rest then
      wordNode "this" <|> wordNode "super" <|> wordNode "true" <|> wordNode "false" <|>
        wordNode "null" <|> wordNode "undefined"
    else identifier
  | [] => fail

/-! ### Members and calls -/

/-- Whether type arguments without a call may stand here. -/
def endsInstantiation (rest : List Char) : Bool :=
  rest.head?.all fun c => ")],;:\x7d".toList.contains c

/-- One step further: a member, an index, a call, a template or a mark of existence. -/
def memberStep (rules : Rules) (trees : List Tree) : Reader :=
  let object := trees.map (·.withField "object")
  let property := field "property" (anyName "property_identifier" <|> privateName)
  let chain := node "optional_chain" (punctuation "?.")
  let index := all [punctuation "[", field "index" (enclosed (rules .expressions)), punctuation "]"]
  nodeAfter "member_expression" object (all [punctuationNot "." ['.'], property]) <|>
    nodeAfter "subscript_expression" object index <|>
    nodeAfter "member_expression" object (all [chain, property]) <|>
    nodeAfter "subscript_expression" object (all [chain, index]) <|>
    nodeAfter "non_null_expression" trees (unbroken (punctuationNot "!" ['=']))

def callStep (rules : Rules) (trees : List Tree) : Reader :=
  let function := trees.map (·.withField "function")
  let typeArguments := field "type_arguments" (Types.typeArguments rules)
  let arguments := field "arguments" (rules .arguments)
  nodeAfter "call_expression" function arguments <|>
    nodeAfter "call_expression" function
      (all [punctuation "?.", optional typeArguments, arguments]) <|>
    nodeAfter "call_expression" function (field "arguments" (rules .template)) <|>
    nodeAfter "call_expression" function (all [typeArguments, arguments]) <|>
    nodeAfter "instantiation_expression" trees (followedBy typeArguments endsInstantiation)

/-- `new` with what it constructs. -/
def construct (rules : Rules) : Reader :=
  let chain := do
    let first ← rules .construct
    extend (memberStep rules) first
  node "meta_property" (all [word "new", punctuation ".", word "target"]) <|>
    node "new_expression" (all [
      word "new",
      field "constructor" chain,
      optional (field "type_arguments" (followedBy (Types.typeArguments rules) (startsWith "("))),
      optional (field "arguments" (rules .arguments))])

/-- A primary expression, or one that `new` constructs. -/
def constructible (rules : Rules) : Reader := do
  if wordAhead ["new"] (← token).rest then construct rules else primary rules

/-- A chain of members and calls. -/
def chain (rules : Rules) : Reader := do
  let first ← constructible rules
  extend (fun trees => memberStep rules trees <|> callStep rules trees) first

/-- What a class extends, without the type arguments. -/
def heritageValue (rules : Rules) : Reader := do
  let call (trees : List Tree) := nodeAfter "call_expression" (trees.map (·.withField "function")) (all [
    optional (field "type_arguments" (Types.typeArguments rules)),
    field "arguments" (rules .arguments)])
  let first ← constructible rules
  extend (fun trees => memberStep rules trees <|> call trees) first

/-! ### Operators -/

def postfixed (rules : Rules) : Reader := do
  let argument ← chain rules
  nodeAfter "update_expression" (argument.map (·.withField "argument"))
      (unbroken (field "operator" (punctuation "++" <|> punctuation "--"))) <|>
    Read.pure argument

def typeOperator (rules : Rules) (trees : List Tree) : Reader :=
  nodeAfter "as_expression" trees (all [unbroken (word "as"), rules .type]) <|>
    nodeAfter "satisfies_expression" trees (all [unbroken (word "satisfies"), rules .type])

/-- An operand with the operators in front of it. -/
def unary (rules : Rules) : Reader := do
  let rest := (← token).rest
  let operator := field "operator" (
    punctuation "!" <|> punctuation "~" <|> punctuation "-" <|> punctuation "+" <|>
      word "typeof" <|> word "void" <|> word "delete")
  if startsWith "++" rest || startsWith "--" rest then
    node "update_expression" (all [
      field "operator" (punctuation "++" <|> punctuation "--"),
      field "argument" (rules .unary)])
  else if rest.head?.any "!~-+".toList.contains || wordAhead ["typeof", "void", "delete"] rest then
    node "unary_expression" (all [operator, field "argument" (rules .unary)])
  else if wordAhead ["await"] rest then
    node "await_expression" (all [word "await", do extend (typeOperator rules) (← rules .unary)])
  else if startsWith "<" rest then
    forDialect .typescript
        (node "type_assertion" (all [Types.typeArguments rules, rules .unary])) <|>
      postfixed rules
  else postfixed rules

/-- A binary operator: how tightly it binds, and whether it groups to the right. -/
structure Operator where
  text : String
  level : Nat
  right : Bool := false

/-- Every run of operator characters that can follow an operand, the longer ones first. Those that are
no binary operators have no level. -/
def operators : List Operator :=
  [⟨">>>=", 0, false⟩, ⟨"===", 7, false⟩, ⟨"!==", 7, false⟩, ⟨"**=", 0, false⟩, ⟨"<<=", 0, false⟩,
    ⟨">>=", 0, false⟩, ⟨">>>", 9, false⟩, ⟨"&&=", 0, false⟩, ⟨"||=", 0, false⟩, ⟨"??=", 0, false⟩,
    ⟨"==", 7, false⟩, ⟨"!=", 7, false⟩, ⟨"<=", 8, false⟩, ⟨">=", 8, false⟩, ⟨"&&", 3, false⟩,
    ⟨"||", 2, false⟩, ⟨"??", 1, false⟩, ⟨"**", 12, true⟩, ⟨"<<", 9, false⟩, ⟨">>", 9, false⟩,
    ⟨"+=", 0, false⟩, ⟨"-=", 0, false⟩, ⟨"*=", 0, false⟩, ⟨"/=", 0, false⟩, ⟨"%=", 0, false⟩,
    ⟨"&=", 0, false⟩, ⟨"|=", 0, false⟩, ⟨"^=", 0, false⟩, ⟨"=>", 0, false⟩, ⟨"++", 0, false⟩,
    ⟨"--", 0, false⟩, ⟨"+", 10, false⟩, ⟨"-", 10, false⟩, ⟨"*", 11, false⟩, ⟨"/", 11, false⟩,
    ⟨"%", 11, false⟩, ⟨"&", 6, false⟩, ⟨"^", 5, false⟩, ⟨"|", 4, false⟩, ⟨"<", 8, false⟩,
    ⟨">", 8, false⟩, ⟨"instanceof", 8, false⟩, ⟨"in", 8, false⟩]

def operatorAhead (rest : List Char) : Option Operator :=
  match nameAhead ⟨rest, 0⟩ with
  | some name => operators.find? (·.text = name)
  | Option.none => operators.find? fun operator => startsWith operator.text rest

/-- The binary operator that comes next, with its token. -/
def binaryOperator : Read (Operator × List Tree) := do
  match operatorAhead (← token).rest with
  | some operator =>
    if operator.level = 0 then fail
    else
      let tree ← if operator.text.toList.all Char.isAlpha then word operator.text
        else punctuation operator.text
      return (operator, tree.map (·.withField "operator"))
  | Option.none => fail

def combine (left operator right : List Tree) : List Tree :=
  let start := (left.head?.map Tree.start).getD 0
  let stop := (right.getLast?.map Tree.stop).getD start
  [.mk "binary_expression" true Option.none ⟨start, stop⟩
    (left.map (·.withField "left") ++ operator ++ right.map (·.withField "right"))]

/-- An operand and the operator after it, waiting for the other operand. -/
structure Waiting where
  left : List Tree
  operator : Operator
  token : List Tree

/-- Combines what binds more tightly than an operator of the given level. -/
def reduce (level : Nat) (right : Bool) : List Waiting → List Tree → List Waiting × List Tree
  | [], operand => ([], operand)
  | waiting :: stack, operand =>
    if waiting.operator.level > level || (waiting.operator.level = level && !right) then
      reduce level right stack (combine waiting.left waiting.token operand)
    else (waiting :: stack, operand)

/-- Operators and operands in turn. -/
def binaryUpTo (rules : Rules) : Nat → List Waiting → List Tree → Reader
  | 0, _, _ => fail
  | n + 1, stack, operand => do
    let whole := (reduce 0 false stack operand).2
    (do binaryUpTo rules n [] (← typeOperator rules whole)) <|>
      (do
        let (operator, token) ← binaryOperator
        let (stack, left) := reduce operator.level operator.right stack operand
        let right ← rules .unary
        binaryUpTo rules n (⟨left, operator, token⟩ :: stack) right) <|>
      Read.pure whole

def binary (rules : Rules) : Reader := do
  let first ← rules .unary
  binaryUpTo rules ((← place).rest.length + 1) [] first

/-! ### Conditions, arrow functions and assignments -/

def arrowHead (rules : Rules) (returnTypes : Bool) : Reader :=
  let signature := all [
    optional (field "type_parameters" (Types.typeParameters rules)),
    field "parameters" (rules .parameters),
    if returnTypes then optional (field "return_type" (enclosed (Types.returnType rules))) else none]
  let parameter := field "parameter" identifier
  whenAhead (fun rest => startsSignature rest || wordAhead ["async"] rest)
      (followedBy (all [optional (followedBy (word "async") startsSignature), signature])
        (startsWith "=>")) <|>
    followedBy (all [word "async", unbroken parameter]) (startsWith "=>") <|>
    followedBy parameter (startsWith "=>")

/-- A choice. Where a colon in the first branch could belong to a return type or to the choice, both
readings are tried. -/
def ternary (rules : Rules) (condition : List Tree) : Reader :=
  let branches (first : Reader) := nodeAfter "ternary_expression"
    (condition.map (·.withField "condition")) (all [
      punctuationNot "?" ['?'],
      field "consequence" (enclosed first),
      punctuation ":",
      field "alternative" (rules .value)])
  branches (rules .value) <|>
    branches (whenAhead (fun rest => startsSignature rest || wordAhead ["async"] rest)
      (rules (.expression false)))

/-- An arrow function with a block for its body goes on like any operand. -/
def afterBlock (rules : Rules) (function : List Tree) : Reader := do
  let chained ← extend (fun trees => memberStep rules trees <|> callStep rules trees) function
  let whole ← binaryUpTo rules ((← place).rest.length + 1) [] chained
  ternary rules whole <|> Read.pure whole

def arrow (rules : Rules) (returnTypes : Bool) : Reader := do
  let head ← all [arrowHead rules returnTypes, punctuation "=>"]
  if startsWith "\x7b" (← token).rest then
    afterBlock rules (← nodeAfter "arrow_function" head (field "body" (rules .block)))
  else nodeAfter "arrow_function" head (field "body" (rules (.expression returnTypes)))

def yielding (rules : Rules) : Reader :=
  node "yield_expression" (all [
    word "yield",
    all [punctuation "*", rules .value] <|> optional (unbroken (rules .value))])

/-- An assignment to a pattern. -/
def destructuring (rules : Rules) : Reader :=
  whenAhead (fun rest => startsWith "\x7b" rest || startsWith "[" rest)
    (node "assignment_expression" (all [
      field "left" (Patterns.destructuring rules),
      equals,
      field "right" (rules .value)]))

def canBeAssigned (trees : List Tree) : Bool :=
  trees.all fun tree => tree.kind ∈ ["identifier", "member_expression", "subscript_expression",
    "parenthesized_expression", "non_null_expression", "undefined"]

def augmentedOperators : List String :=
  [">>>=", "**=", "<<=", ">>=", "&&=", "||=", "??=", "+=", "-=", "*=", "/=", "%=", "&=", "|=", "^="]

def augmented : Reader := do
  let rest := (← token).rest
  match augmentedOperators.find? (startsWith · rest) with
  | some operator => punctuation operator
  | Option.none => fail

def assignment (rules : Rules) : Reader := do
  let left ← binary rules
  if canBeAssigned left && (startsWith "=" (← token).rest && !startsWith "==" (← token).rest) then
    nodeAfter "assignment_expression" (left.map (·.withField "left"))
        (all [equals, field "right" (rules .value)]) <|>
      Read.pure left
  else
    nodeAfter "augmented_assignment_expression" (left.map (·.withField "left")) (all [
        if canBeAssigned left then field "operator" augmented else fail,
        field "right" (rules .value)]) <|>
      ternary rules left <|>
      Read.pure left

def expression (rules : Rules) (returnTypes : Bool) : Reader := do
  if wordAhead ["yield"] (← token).rest then yielding rules
  else arrow rules returnTypes <|> destructuring rules <|> assignment rules

def expressions (rules : Rules) : Reader := do
  sequenceAfter rules (← rules .value)

end Expressions

end RouteMigration.Grammar
