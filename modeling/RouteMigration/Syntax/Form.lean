/-!
# Forms of syntax

A form is one layer of a syntax tree: a construct of the language with places for its parts, which are
of any type `α`. Only the constructs that a migration has to tell apart have forms of their own. All
other source text is `verbatim`: stretches of text between the parts that matter.
-/

namespace RouteMigration.Syntax

/-- A stretch of source text, as offsets counted in characters. -/
structure Span where
  start : Nat
  stop : Nat
  deriving DecidableEq, Repr

/-- A piece of a verbatim: plain text or a node. -/
inductive Piece (α : Type) where
  | text (text : String)
  | node (node : α)
  deriving DecidableEq, Repr

/-- The binding `imported`, `imported as renamed` or the same marked as a type. -/
structure ImportSpecifier where
  imported : String
  renamed : Option String := none
  typeOnly : Bool := false
  /-- Where it was read; none for a specifier that was made. -/
  span : Option Span := none
  deriving DecidableEq, Repr

structure ExportSpecifier where
  localName : String
  renamed : Option String := none
  span : Option Span := none
  deriving DecidableEq, Repr

/-- A function with a keyword, as a declaration or an expression. -/
structure FunctionForm (α : Type) where
  name : Option String
  params : α
  body : Option α
  isAsync : Bool := false
  isGenerator : Bool := false
  typeParameters : Option α := none
  returnType : Option α := none
  deriving DecidableEq, Repr

structure ArrowForm (α : Type) where
  params : α
  body : α
  isAsync : Bool := false
  typeParameters : Option α := none
  returnType : Option α := none
  deriving DecidableEq, Repr

structure ImportForm where
  source : String
  specifiers : List ImportSpecifier := []
  defaultName : Option String := none
  namespaceName : Option String := none
  typeOnly : Bool := false
  deriving DecidableEq, Repr

/-- `export <declaration>`, or `export { ... }` with or without a source. -/
structure ExportForm (α : Type) where
  declaration : Option α := none
  specifiers : List ExportSpecifier := []
  source : Option String := none
  typeOnly : Bool := false
  deriving DecidableEq, Repr

inductive Form (α : Type) where
  /-- A node of no particular construct. -/
  | bare
  /-- A statement of no particular construct. -/
  | bareStatement
  /-- Source text around the parts in it. `kind` is the construct's name in the grammar, and the text
  of a `literal` is never indented anew. -/
  | verbatim (kind : String) (parts : List (Piece α)) (literal : Bool)
  | identifier (name : String) (isType : Bool)
  | stringLiteral (value : String)
  /-- A parenthesised list of parameters. `layout` is the source text around its items, one piece more
  than there are items. -/
  | parameters (items : List (Piece α)) (layout : Option (List String))
  /-- A pattern of names in braces. -/
  | objectPattern (names : List String)
  | arrowFunction (arrow : ArrowForm α)
  | functionExpression (function : FunctionForm α)
  /-- The arguments are a verbatim with its parentheses. -/
  | call (callee arguments : α) (typeArguments : Option α)
  | member (object : α) (attributeName : String)
  | property (key : String) (value : α)
  | objectExpression (properties : List α)
  | block (statements : List α)
  | declarator (name : α) (init declaredType : Option α)
  | importSpecifier (specifier : ImportSpecifier)
  | exportSpecifier (specifier : ExportSpecifier)
  /-- A statement of any other construct. -/
  | otherStatement (node : α)
  | returnStatement (argument : Option α)
  | functionDeclaration (function : FunctionForm α)
  /-- A class; `tail` is everything after its name. -/
  | classDeclaration (name : Option String) (tail : α)
  | variableDeclaration (kind : String) (declarators : List α)
  | importDeclaration (declaration : ImportForm)
  | exportNamed (declaration : ExportForm α)
  /-- The default export of a declaration or an expression. -/
  | exportDefault (declaration : α)
  deriving DecidableEq, Repr

/-- An empty name counts as none. -/
def given (name : Option String) : Option String :=
  name.filter (· ≠ "")

/-- The name that is bound in the module. -/
def ImportSpecifier.localName (specifier : ImportSpecifier) : String :=
  (given specifier.renamed).getD specifier.imported

/-- The name that other modules see. -/
def ExportSpecifier.exported (specifier : ExportSpecifier) : String :=
  (given specifier.renamed).getD specifier.localName

def ImportForm.isEmpty (declaration : ImportForm) : Bool :=
  declaration.specifiers.isEmpty && declaration.defaultName.isNone && declaration.namespaceName.isNone

variable {α β : Type}

namespace Piece

def map (f : α → β) : Piece α → Piece β
  | .text s => .text s
  | .node n => .node (f n)

def node? : Piece α → Option α
  | .text _ => none
  | .node n => some n

end Piece

/-- The nodes among the parts. -/
def nodesOf (parts : List (Piece α)) : List α :=
  parts.filterMap Piece.node?

def FunctionForm.map (f : α → β) (function : FunctionForm α) : FunctionForm β where
  name := function.name
  params := f function.params
  body := function.body.map f
  isAsync := function.isAsync
  isGenerator := function.isGenerator
  typeParameters := function.typeParameters.map f
  returnType := function.returnType.map f

def ArrowForm.map (f : α → β) (arrow : ArrowForm α) : ArrowForm β where
  params := f arrow.params
  body := f arrow.body
  isAsync := arrow.isAsync
  typeParameters := arrow.typeParameters.map f
  returnType := arrow.returnType.map f

def ExportForm.map (f : α → β) (declaration : ExportForm α) : ExportForm β where
  declaration := declaration.declaration.map f
  specifiers := declaration.specifiers
  source := declaration.source
  typeOnly := declaration.typeOnly

def FunctionForm.children (function : FunctionForm α) : List α :=
  function.params :: function.body.toList ++ function.typeParameters.toList ++
    function.returnType.toList

def ArrowForm.children (arrow : ArrowForm α) : List α :=
  arrow.params :: arrow.body :: (arrow.typeParameters.toList ++ arrow.returnType.toList)

namespace Form

/-- Puts other parts into the same places. -/
def map (f : α → β) : Form α → Form β
  | .bare => .bare
  | .bareStatement => .bareStatement
  | .verbatim kind parts literal => .verbatim kind (parts.map (·.map f)) literal
  | .identifier name isType => .identifier name isType
  | .stringLiteral value => .stringLiteral value
  | .parameters items layout => .parameters (items.map (·.map f)) layout
  | .objectPattern names => .objectPattern names
  | .arrowFunction arrow => .arrowFunction (arrow.map f)
  | .functionExpression function => .functionExpression (function.map f)
  | .call callee arguments typeArguments => .call (f callee) (f arguments) (typeArguments.map f)
  | .member object attributeName => .member (f object) attributeName
  | .property key value => .property key (f value)
  | .objectExpression properties => .objectExpression (properties.map f)
  | .block statements => .block (statements.map f)
  | .declarator name init declaredType => .declarator (f name) (init.map f) (declaredType.map f)
  | .importSpecifier specifier => .importSpecifier specifier
  | .exportSpecifier specifier => .exportSpecifier specifier
  | .otherStatement node => .otherStatement (f node)
  | .returnStatement argument => .returnStatement (argument.map f)
  | .functionDeclaration function => .functionDeclaration (function.map f)
  | .classDeclaration name tail => .classDeclaration name (f tail)
  | .variableDeclaration kind declarators => .variableDeclaration kind (declarators.map f)
  | .importDeclaration declaration => .importDeclaration declaration
  | .exportNamed declaration => .exportNamed (declaration.map f)
  | .exportDefault declaration => .exportDefault (f declaration)

/-- The parts in a fixed order, which need not be that of the source text: a declarator's value stands
before its type, and a function's body before its type parameters. -/
def children : Form α → List α
  | .bare | .bareStatement => []
  | .verbatim _ parts _ => nodesOf parts
  | .identifier _ _ | .stringLiteral _ => []
  | .parameters items _ => nodesOf items
  | .objectPattern _ => []
  | .arrowFunction arrow => arrow.children
  | .functionExpression function => function.children
  | .call callee arguments typeArguments => callee :: arguments :: typeArguments.toList
  | .member object _ => [object]
  | .property _ value => [value]
  | .objectExpression properties => properties
  | .block statements => statements
  | .declarator name init declaredType => name :: (init.toList ++ declaredType.toList)
  | .importSpecifier _ | .exportSpecifier _ => []
  | .otherStatement node => [node]
  | .returnStatement argument => argument.toList
  | .functionDeclaration function => function.children
  | .classDeclaration _ tail => [tail]
  | .variableDeclaration _ declarators => declarators
  | .importDeclaration _ => []
  | .exportNamed declaration => declaration.declaration.toList
  | .exportDefault declaration => [declaration]

/-- The construct's name in messages. -/
def typeName : Form α → String
  | .bare => "Node"
  | .bareStatement => "Statement"
  | .verbatim .. => "Verbatim"
  | .identifier .. => "Identifier"
  | .stringLiteral .. => "StringLiteral"
  | .parameters .. => "Parameters"
  | .objectPattern .. => "ObjectPattern"
  | .arrowFunction .. => "ArrowFunction"
  | .functionExpression .. => "FunctionExpression"
  | .call .. => "Call"
  | .member .. => "Member"
  | .property .. => "Property"
  | .objectExpression .. => "ObjectExpression"
  | .block .. => "Block"
  | .declarator .. => "VariableDeclarator"
  | .importSpecifier .. => "ImportSpecifier"
  | .exportSpecifier .. => "ExportSpecifier"
  | .otherStatement .. => "Opaque"
  | .returnStatement .. => "ReturnStatement"
  | .functionDeclaration .. => "FunctionDeclaration"
  | .classDeclaration .. => "ClassDeclaration"
  | .variableDeclaration .. => "VariableDeclaration"
  | .importDeclaration .. => "ImportDeclaration"
  | .exportNamed .. => "ExportNamed"
  | .exportDefault .. => "ExportDefault"

/-- Whether the construct can stand in the body of a module or a block. -/
def isStatement : Form α → Bool
  | .bareStatement | .otherStatement _ | .returnStatement _ | .functionDeclaration _
  | .classDeclaration _ _ | .variableDeclaration _ _ | .importDeclaration _ | .exportNamed _
  | .exportDefault _ => true
  | _ => false

end Form

@[simp] theorem Piece.node?_map (f : α → β) (part : Piece α) :
    (part.map f).node? = part.node?.map f := by
  cases part <;> rfl

@[simp] theorem nodesOf_map (f : α → β) (parts : List (Piece α)) :
    nodesOf (parts.map (·.map f)) = (nodesOf parts).map f := by
  simp only [nodesOf, List.filterMap_map, List.map_filterMap]
  congr 1
  funext part
  simp

@[simp] theorem Form.children_map (f : α → β) (form : Form α) :
    (form.map f).children = form.children.map f := by
  cases form <;>
    simp [Form.map, Form.children, ArrowForm.map, ArrowForm.children, FunctionForm.map,
      FunctionForm.children, ExportForm.map, Option.toList_map]

end RouteMigration.Syntax
