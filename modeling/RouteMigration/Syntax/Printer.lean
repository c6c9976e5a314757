import RouteMigration.Syntax.Layout
import RouteMigration.Syntax.Module

/-!
# Printing

A node that is as it was read, on a line with the indentation it had, prints as its source text. Any
other node prints by its form: a verbatim repeats its text with the lines shifted to the indentation of
the line it starts on, and a node that was made follows a fixed style, with two spaces of indentation,
single quotes and one property per line.

Printing a node adds to the text before it; the last line of that text decides on the indentation.
-/

namespace RouteMigration.Syntax.Printer

structure Style where
  quote : Char := '\''
  /-- The columns by which a block is indented. -/
  indent : Nat := 2
  semicolons : Bool := true
  deriving Repr

inductive Fault where
  | node (typeName : String)
  | statement (typeName : String)
  deriving DecidableEq, Repr

def Fault.message : Fault → String
  | .node typeName => s!"Cannot print node of type {typeName}"
  | .statement typeName => s!"Cannot print statement of type {typeName}"

/-- Adds something to a text. -/
abbrev Writer := String → Except Fault String

namespace Writer

def write (text : String) : Writer :=
  fun before => .ok (before ++ text)

def fail (fault : Fault) : Writer :=
  fun _ => .error fault

def all (writers : List Writer) : Writer :=
  fun before => writers.foldlM (fun text writer => writer text) before

/-- A writer that depends on the text before it. -/
def after (writer : String → Writer) : Writer :=
  fun before => writer before before

def optional (writer : Option Writer) : Writer :=
  all writer.toList

def newline (indent : Nat) : Writer :=
  write (String.ofList ('\n' :: List.replicate indent ' '))

def separated (separator : String) (writers : List Writer) : Writer :=
  all (writers.intersperse (write separator))

end Writer

open Writer

/-- The two ways to print a node: by itself, and by its form as an entry of the construct it is part of,
as properties and declarators are. -/
structure Writers where
  alone : Writer
  entry : Writer

/-- A node and how it is printed. -/
abbrev Printed := Node × Writers

def alone (printed : Printed) : Writer :=
  printed.2.alone

def semicolon (style : Style) : String :=
  if style.semicolons then ";" else ""

/-- Text between quotes; the quote and the backslash are escaped. -/
def quotedString (quote : Char) (value : String) : String :=
  let escape := fun c => if c = '\\' ∨ c = quote then ['\\', c] else [c]
  String.ofList (quote :: value.toList.flatMap escape ++ [quote])

def importSpecifierText (specifier : ImportSpecifier) : String :=
  let renamed := (given specifier.renamed).elim "" (" as " ++ ·)
  (if specifier.typeOnly then "type " else "") ++ specifier.imported ++ renamed

def exportSpecifierText (specifier : ExportSpecifier) : String :=
  specifier.localName ++ (given specifier.renamed).elim "" (" as " ++ ·)

def importText (style : Style) (declaration : ImportForm) : String :=
  let names := String.intercalate ", " (declaration.specifiers.map importSpecifierText)
  let specifiers := if declaration.specifiers.isEmpty then [] else ["\x7b " ++ names ++ " \x7d"]
  let clause :=
    (given declaration.defaultName).toList ++
      (given declaration.namespaceName).toList.map ("* as " ++ ·) ++ specifiers
  "import " ++ (if declaration.typeOnly then "type " else "") ++
    (if clause.isEmpty then "" else String.intercalate ", " clause ++ " from ") ++
    quotedString style.quote declaration.source ++ semicolon style

/-- The clause of an export without a declaration. -/
def exportClauseText (style : Style) (declaration : ExportForm Printed) : String :=
  let names := String.intercalate ", " (declaration.specifiers.map exportSpecifierText)
  (if declaration.typeOnly then "type " else "") ++
    (if names = "" then "\x7b\x7d" else "\x7b " ++ names ++ " \x7d") ++
    declaration.source.elim "" (fun source => " from " ++ quotedString style.quote source) ++
    semicolon style

/-- A node in the place of a statement. -/
def statement (printed : Printed) : Writer :=
  if printed.1.form.isStatement then alone printed else fail (.statement printed.1.form.typeName)

def part : Piece Printed → Writer
  | .text text => write text
  | .node printed => alone printed

/-- A part of a verbatim, with plain text shifted. -/
def shiftedPart (shift : Int) : Piece Printed → Writer
  | .text text => write (Layout.shiftText shift text)
  | .node printed => alone printed

/-- The items of a parameter list with their source text around them. -/
def laidOut (shift : Int) : List (Piece Printed) → List String → Writer
  | item :: items, text :: layout =>
    all [write (Layout.shiftText shift text), part item, laidOut shift items layout]
  | _, layout => write (Layout.shiftText shift (layout.getLast?.getD ""))

/-- Entries between braces, each on a line of its own below its comments. -/
def bracedLines (style : Style) (entries : List (List String × Writer)) : Writer :=
  if entries.isEmpty then write "\x7b\x7d"
  else after fun before =>
    let base := Layout.column before
    let inner := base + style.indent
    let lines := entries.map fun (comments, writer) =>
      all (comments.map (fun comment => all [newline inner, write comment]) ++ [newline inner, writer])
    all (write "\x7b" :: lines ++ [newline base, write "\x7d"])

/-- `key: value`, or the key alone when the value is the variable of that name. -/
def property (key : String) (value : Printed) : Writer :=
  if value.1.identifier? = some key then write key else all [write (key ++ ": "), alone value]

def function (style : Style) (form : FunctionForm Printed) : Writer :=
  let body := match form.body with
    | some body => all [write " ", alone body]
    | none => write (semicolon style)
  all [
    write (if form.isAsync then "async " else ""),
    write (if form.isGenerator then "function*" else "function"),
    write ((given form.name).elim "" (" " ++ ·)),
    optional (form.typeParameters.map alone),
    alone form.params,
    optional (form.returnType.map alone),
    body]

def arrow (form : ArrowForm Printed) : Writer :=
  all [
    write (if form.isAsync then "async " else ""),
    optional (form.typeParameters.map alone),
    alone form.params,
    optional (form.returnType.map alone),
    write " => ",
    alone form.body]

def declarator (name : Printed) (init declaredType : Option Printed) : Writer :=
  all [
    alone name,
    optional (declaredType.map alone),
    optional (init.map fun value => all [write " = ", alone value])]

/-- Whether a default export ends like a statement: a function or a class does not. -/
def isDeclaration (node : Node) : Bool :=
  match node.form with
  | .functionDeclaration _ | .classDeclaration _ _ => true
  | _ => false

/-- Prints by form. `isRead` tells that the node has the form that was read. -/
def byForm (style : Style) (shift : Int) (isRead : Bool) : Form Printed → Writer
  | .bare => fail (.node "Node")
  | .bareStatement => fail (.statement "Statement")
  | .verbatim _ parts literal => all (parts.map (shiftedPart (if literal then 0 else shift)))
  | .identifier name _ => write name
  | .stringLiteral value => write (quotedString style.quote value)
  | .parameters items layout =>
    match layout, isRead with
    | some layout, true => laidOut shift items layout
    | _, _ => all [write "(", separated ", " (items.map part), write ")"]
  | .objectPattern names =>
    write (if names.isEmpty then "\x7b\x7d" else "\x7b " ++ String.intercalate ", " names ++ " \x7d")
  | .arrowFunction form => arrow form
  | .functionExpression form => function style form
  | .call callee arguments typeArguments =>
    all [alone callee, optional (typeArguments.map alone), alone arguments]
  | .member object attributeName => all [alone object, write ("." ++ attributeName)]
  | .property _ _ => fail (.node "Property")
  | .objectExpression properties =>
    bracedLines style (properties.map fun (node, writers) =>
      (node.info.comments, all [writers.entry, write ","]))
  | .block statements =>
    bracedLines style (statements.map fun printed => (printed.1.info.comments, statement printed))
  | .declarator name init declaredType => declarator name init declaredType
  | .importSpecifier specifier => write (importSpecifierText specifier)
  | .exportSpecifier specifier => write (exportSpecifierText specifier)
  | .otherStatement node => alone node
  | .returnStatement argument =>
    all [
      write "return",
      optional (argument.map fun value => all [write " ", alone value]),
      write (semicolon style)]
  | .functionDeclaration form => function style form
  | .classDeclaration name tail =>
    all [write "class", write ((given name).elim "" (" " ++ ·)), alone tail]
  | .variableDeclaration kind declarators =>
    all [
      write (kind ++ " "),
      separated ", " (declarators.map fun printed => printed.2.entry),
      write (semicolon style)]
  | .importDeclaration declaration => write (importText style declaration)
  | .exportNamed declaration =>
    all [
      write "export ",
      match declaration.declaration with
      | some printed => statement printed
      | none => write (exportClauseText style declaration)]
  | .exportDefault declaration =>
    all [
      write "export default ",
      alone declaration,
      write (if isDeclaration declaration.1 then "" else semicolon style)]

/-- How a node with this record and these parts is printed. -/
def writers (style : Style) (info : Info) (form : Form Printed) : Writers :=
  let node : Node := ⟨info, form.map Prod.fst⟩
  let isRead := info.origin = some node.shape
  let shiftAt := fun before => info.indent.elim 0 fun indent => (Layout.column before : Int) - indent
  { alone := after fun before =>
      match info.raw with
      | some raw =>
        if node.isPristine ∧ shiftAt before = 0 then write raw
        else byForm style (shiftAt before) isRead form
      | none => byForm style (shiftAt before) isRead form
    entry := match form with
      | .property key value => property key value
      | _ => after fun before => byForm style (shiftAt before) isRead form }

def writersOf (style : Style) : Node → Writers :=
  Node.fold (writers style)

/-- Adds a node to a text. -/
def writeNode (style : Style) (node : Node) : Writer :=
  (writersOf style node).alone

/-- The text of a node that stands alone. -/
def printNode (style : Style) (node : Node) : Except Fault String :=
  writeNode style node ""

def isImport (node : Node) : Bool :=
  match node.form with
  | .importDeclaration _ => true
  | _ => false

/-- The text between two statements. What was there is kept if it breaks the line; otherwise imports
follow each other line by line, and an empty line sets other statements apart. -/
def gapText (previous next : Node) : String :=
  match next.info.gap with
  | some gap => if gap.toList.contains '\n' then gap else standard
  | none => standard
where
  standard := if isImport previous && isImport next then "\n" else "\n\n"

/-- A statement of a module below its comments. -/
def topLevel (style : Style) (node : Node) : Writer :=
  all (node.info.comments.map (fun comment => write (comment ++ "\n")) ++
    [statement (node, writersOf style node)])

/-- The statements that follow `previous`. -/
def following (style : Style) (previous : Node) : List Node → List Writer
  | [] => []
  | node :: rest =>
    write (gapText previous node) :: topLevel style node :: following style node rest

def bodyWriters (style : Style) : List Node → List Writer
  | [] => []
  | node :: rest => topLevel style node :: following style node rest

def printModule (style : Style) (module : Module) : Except Fault String :=
  let style := { style with semicolons := module.semicolons }
  all (write module.header :: bodyWriters style module.body ++ [write module.trailer]) ""

end RouteMigration.Syntax.Printer
