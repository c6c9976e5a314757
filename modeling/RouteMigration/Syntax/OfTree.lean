import RouteMigration.Grammar.Tree
import RouteMigration.Syntax.Module
import RouteMigration.Text.Blank
import RouteMigration.Text.Lines

/-!
# Syntax trees of grammar trees

A node of the grammar becomes a node of the syntax if a migration has to tell it apart, or if it holds
such a node. Everything else stays text of the verbatim around it, so that the parts of a verbatim,
one after the other, spell its source text.
-/

namespace RouteMigration.Syntax

open Grammar (Tree)

/-- The text of a source from one offset to another. -/
def slice (source : List Char) (start stop : Nat) : String :=
  String.ofList ((source.drop start).take (stop - start))

/-- The indentation of the line that an offset lies on, as far as the offset. -/
def indentAt (source : List Char) (offset : Nat) : Nat :=
  Text.indentation (Text.lastLine (source.take offset))

namespace OfTree

variable (source : List Char)

/-- A node read from a stretch of the source. -/
def read (span : Span) (form : Form Node) : Node :=
  ⟨{ span := some span
     raw := some (slice source span.start span.stop)
     indent := some (indentAt source span.start)
     origin := some (form.map Node.span) }, form⟩

def textOf (tree : Tree) : String :=
  slice source tree.start tree.stop

/-- What a node of the grammar becomes. -/
structure Conversion where
  /-- Nothing if there is only text. -/
  node : Option Node := none
  /-- A list of arguments or parameters, for the call or function that it belongs to. -/
  list : Option Node := none

abbrev Child := Tree × Conversion

/-- The child as a node in any case. -/
def nodeOf (child : Child) : Node :=
  child.2.node.getD (read source child.1.span
    (.verbatim child.1.kind [.text (textOf source child.1)] false))

def childAt (children : List Child) (field : String) : Option Child :=
  children.find? fun (tree, _) => tree.field = some field

/-- The child in the given role as a node. -/
def nodeAt (children : List Child) (field : String) : Option Node :=
  (childAt children field).map (nodeOf source)

def textAt (children : List Child) (field : String) : Option String :=
  (childAt children field).map fun (tree, _) => textOf source tree

def hasToken (children : List Child) (token : String) : Bool :=
  children.any fun (tree, _) => tree.kind = token && !tree.isNamed

/-- A stretch of text, unless it is empty. -/
def textPart (start stop : Nat) : List (Piece Node) :=
  let text := slice source start stop
  if text = "" then [] else [.text text]

/-- Nodes with the text between them, from `start` to `stop`. -/
def partsFrom (start stop : Nat) : List (Span × Node) → List (Piece Node)
  | [] => textPart source start stop
  | (span, node) :: rest =>
    textPart source start span.start ++ .node node :: partsFrom span.stop stop rest

/-- The children that became nodes. -/
def converted (children : List Child) : List (Span × Node) :=
  children.filterMap fun (tree, conversion) =>
    if tree.isNamed then conversion.node.map (tree.span, ·) else none

def isEntry (tree : Tree) : Bool :=
  tree.isNamed && tree.kind ≠ "comment"

/-- Every named child but the comments, each as a node. -/
def enclosed (children : List Child) : List (Span × Node) :=
  (children.filter fun child => isEntry child.1).map fun child => (child.1.span, nodeOf source child)

/-- Arguments and parentheses: everything between them is a node. -/
def enclosing (kind : String) (span : Span) (children : List Child) : Node :=
  read source span
    (.verbatim kind (partsFrom source span.start span.stop (enclosed source children)) false)

def verbatim (kind : String) (span : Span) (children : List Child) (literal : Bool) : Node :=
  read source span
    (.verbatim kind (partsFrom source span.start span.stop (converted children)) literal)

/-- A verbatim, or nothing if there is only text. -/
def verbatim? (kind : String) (span : Span) (children : List Child) : Option Node :=
  if (converted children).isEmpty then none else some (verbatim source kind span children false)

/-- The text before, between and after the given spans. -/
def layoutFrom (start stop : Nat) : List Span → List String
  | [] => [slice source start stop]
  | span :: rest => slice source start span.start :: layoutFrom span.stop stop rest

/-- A list of parameters with the text around them. -/
def parameters (span : Span) (children : List Child) : Node :=
  let entries := children.filter fun child => isEntry child.1
  let items := entries.map fun (tree, conversion) =>
    conversion.node.elim (Piece.text (textOf source tree)) Piece.node
  let layout := layoutFrom source span.start span.stop (entries.map fun child => child.1.span)
  read source span (.parameters items (some layout))

/-- The list of arguments or parameters in the given role. -/
def listAt (children : List Child) (field : String) : Option Node :=
  (childAt children field).bind fun child => child.2.list

def functionForm (params : Node) (children : List Child) : FunctionForm Node where
  name := textAt source children "name"
  params
  body := nodeAt source children "body"
  isAsync := hasToken children "async"
  isGenerator := hasToken children "*"
  typeParameters := nodeAt source children "type_parameters"
  returnType := nodeAt source children "return_type"

/-- A function with a keyword. -/
def function? (children : List Child) : Option (FunctionForm Node) :=
  (listAt children "parameters").map fun params => functionForm source params children

/-- An arrow function. A single parameter without parentheses makes a list of one. -/
def arrow? (span : Span) (children : List Child) : Option Node := do
  let single := (childAt children "parameter").map fun child =>
    read source child.1.span (.parameters [.node (nodeOf source child)] none)
  let params ← single.or (listAt children "parameters")
  let body ← nodeAt source children "body"
  let form := functionForm source params children
  some (read source span (.arrowFunction {
    params
    body
    isAsync := form.isAsync
    typeParameters := form.typeParameters
    returnType := form.returnType }))

/-- A call with arguments in parentheses that takes place in any case. -/
def call? (span : Span) (children : List Child) : Option Node := do
  let callee ← childAt children "function"
  let (arguments, conversion) ← childAt children "arguments"
  if arguments.kind = "arguments" && !hasToken children "?." then
    let list ← conversion.list
    some (read source span
      (.call (nodeOf source callee) list (nodeAt source children "type_arguments")))
  else none

def identifierKinds : List String :=
  ["identifier", "type_identifier", "shorthand_property_identifier",
    "shorthand_property_identifier_pattern"]

def functionKinds : List String :=
  ["function_expression", "function", "generator_function"]

/-- The node that a construct becomes, from what its children became; nothing if it is only text. -/
def build (kind : String) (span : Span) (children : List Child) : Option Node :=
  if kind ∈ identifierKinds then
    some (read source span
      (.identifier (slice source span.start span.stop) (kind = "type_identifier")))
  else if kind = "arrow_function" then
    (arrow? source span children).or (verbatim? source kind span children)
  else if kind ∈ functionKinds then
    ((function? source children).map fun form => read source span (.functionExpression form)).or
      (verbatim? source kind span children)
  else if kind = "call_expression" then
    (call? source span children).or (verbatim? source kind span children)
  else if kind = "comment" then none
  else if kind = "parenthesized_expression" then some (enclosing source kind span children)
  else if kind = "template_string" then some (verbatim source kind span children true)
  else verbatim? source kind span children

/-- Arguments and parameters as lists. -/
def buildList (kind : String) (span : Span) (children : List Child) : Option Node :=
  if kind = "arguments" then some (enclosing source kind span children)
  else if kind = "formal_parameters" then some (parameters source span children)
  else none

mutual

def convert : Tree → Conversion
  | .mk kind _ _ span children =>
    let children := convertAll children
    { node := build source kind span children, list := buildList source kind span children }

def convertAll : List Tree → List Child
  | [] => []
  | tree :: rest => (tree, convert tree) :: convertAll rest

end

/-! ### Statements -/

/-- The inside of a string. -/
def unquoted (tree : Tree) : String :=
  slice source (tree.start + 1) (tree.stop - 1)

def importSpecifier (tree : Tree) : Option ImportSpecifier :=
  (tree.child? "name").map fun name =>
    { imported := textOf source name
      renamed := (tree.child? "alias").map (textOf source)
      typeOnly := tree.hasToken "type"
      span := some tree.span }

/-- Adds one part of an import clause. -/
def addClausePart (declaration : ImportForm) (part : Tree) : Option ImportForm :=
  if part.kind = "identifier" then
    some { declaration with defaultName := some (textOf source part) }
  else if part.kind = "namespace_import" then
    (part.namedChildren.find? (·.kind = "identifier")).map fun name =>
      { declaration with namespaceName := some (textOf source name) }
  else if part.kind = "named_imports" then do
    let specifiers ← (part.namedChildren.filter (·.kind = "import_specifier")).mapM
      (importSpecifier source)
    some { declaration with specifiers := declaration.specifiers ++ specifiers }
  else some declaration

/-- An import from a source; nothing for `import name = require(source)`. -/
def importForm (tree : Tree) : Option ImportForm := do
  let origin ← tree.child? "source"
  if origin.kind ≠ "string" || tree.namedChildren.any (·.kind = "import_require_clause") then none
  else
    let clause := (tree.namedChildren.filter (·.kind = "import_clause")).flatMap Tree.namedChildren
    clause.foldlM (addClausePart source)
      { source := unquoted source origin, typeOnly := tree.hasToken "type" }

def classDeclaration (tree : Tree) : Option Node := do
  let name := tree.child? "name"
  let keyword := tree.children.find? fun child => child.kind = "class" && !child.isNamed
  let start ← (name.or keyword).map Tree.stop
  let children := (convertAll source tree.children).filter fun child => start ≤ child.1.start
  let tail := verbatim source "class_tail" ⟨start, tree.stop⟩ children false
  some (read source tree.span (.classDeclaration (name.map (textOf source)) tail))

def functionDeclaration (tree : Tree) : Option Node :=
  (function? source (convertAll source tree.children)).map fun form =>
    read source tree.span (.functionDeclaration form)

def declarator (tree : Tree) : Option Node :=
  let children := convertAll source tree.children
  (nodeAt source children "name").map fun name =>
    read source tree.span
      (.declarator name (nodeAt source children "value") (nodeAt source children "type"))

def variableDeclaration (tree : Tree) : Option Node := do
  let kind := (tree.children.head?.map (textOf source)).getD ""
  let declarators ← (tree.namedChildren.filter (·.kind = "variable_declarator")).mapM
    (declarator source)
  some (read source tree.span (.variableDeclaration kind declarators))

def otherStatement (tree : Tree) : Node :=
  read source tree.span (.otherStatement (nodeOf source (tree, convert source tree)))

def declarationKinds : List String :=
  ["function_declaration", "generator_function_declaration"]

/-- A statement that is no export. -/
def declaration (tree : Tree) : Node :=
  if tree.kind = "import_statement" then
    (importForm source tree).elim (otherStatement source tree)
      fun form => read source tree.span (.importDeclaration form)
  else if tree.kind ∈ declarationKinds then
    (functionDeclaration source tree).getD (otherStatement source tree)
  else if tree.kind = "lexical_declaration" || tree.kind = "variable_declaration" then
    (variableDeclaration source tree).getD (otherStatement source tree)
  else if tree.kind = "class_declaration" then
    (classDeclaration source tree).getD (otherStatement source tree)
  else otherStatement source tree

/-- What a default export exports; nothing for the declarations of types. -/
def defaultExport (tree : Tree) : Option Node := do
  let declared := tree.child? "declaration"
  let target ← declared.or (tree.child? "value")
  if target.kind ∈ declarationKinds || target.kind ∈ functionKinds then
    functionDeclaration source target
  else if target.kind = "class_declaration" || target.kind = "class" then
    classDeclaration source target
  else if declared.isSome then none
  else some (nodeOf source (target, convert source target))

def exportSpecifier (tree : Tree) : Option ExportSpecifier :=
  (tree.child? "name").map fun name =>
    { localName := textOf source name
      renamed := (tree.child? "alias").map (textOf source)
      span := some tree.span }

/-- The specifiers of an export with their source. -/
def exportClause (tree : Tree) : Option (ExportForm Node) := do
  let clause ← tree.namedChildren.find? (·.kind = "export_clause")
  let specifiers ← (clause.namedChildren.filter (·.kind = "export_specifier")).mapM
    (exportSpecifier source)
  some {
    specifiers
    source := (tree.child? "source").map (unquoted source)
    typeOnly := tree.hasToken "type" }

def exportForm (tree : Tree) : Option (Form Node) :=
  if tree.hasToken "default" then (defaultExport source tree).map .exportDefault
  else match tree.child? "declaration" with
    | some target => some (.exportNamed { declaration := some (declaration source target) })
    | none => (exportClause source tree).map .exportNamed

def statement (tree : Tree) : Node :=
  if tree.kind = "export_statement" then
    (exportForm source tree).elim (otherStatement source tree) (read source tree.span)
  else declaration source tree

/-! ### Modules -/

/-- The statements with the text before each but the first. -/
def statementsFrom (stop : Nat) : List Tree → List Node
  | [] => []
  | tree :: rest =>
    let node := statement source tree
    node.withInfo { node.info with gap := some (slice source stop tree.start) } ::
      statementsFrom tree.stop rest

def body : List Tree → List Node
  | [] => []
  | tree :: rest => statement source tree :: statementsFrom source tree.stop rest

/-- Statements whose text tells whether a module uses semicolons. -/
def semicolonProbes : List String :=
  ["import_statement", "lexical_declaration", "expression_statement"]

def endsInSemicolon (tree : Tree) : Bool :=
  (Text.trimEnd (textOf source tree).toList).getLast? = some ';'

/-- At least half of the statements that can end in a semicolon do. -/
def usesSemicolons (trees : List Tree) : Bool :=
  let probes := trees.filter fun tree => tree.kind ∈ semicolonProbes
  probes.length ≤ 2 * probes.countP (endsInSemicolon source)

end OfTree

/-- The module that a grammar tree of its source describes. -/
def Module.ofTree (path : String) (source : List Char) (root : Tree) : Module :=
  let trees := root.namedChildren
  let start := (trees.head?.map Tree.start).getD source.length
  let stop := (trees.getLast?.map Tree.stop).getD 0
  { path
    body := OfTree.body source trees
    header := if trees.isEmpty then "" else slice source 0 start
    trailer := slice source stop source.length
    semicolons := OfTree.usesSemicolons source trees }

end RouteMigration.Syntax
