import RouteMigration.Syntax.Form

/-!
# Syntax trees

A node is a form whose parts are nodes, with a record of where it came from. A node that was read from
source text knows the text, and it knows the form it had then, with each part known by its place in the
source. While the form is still the same, and the parts are, too, the text can stand for the node.
-/

namespace RouteMigration.Syntax

structure Info where
  /-- Where the node was read; none for a node that was made. -/
  span : Option Span := none
  /-- The source text of the node. -/
  raw : Option String := none
  /-- The indentation of the line on which the node starts. -/
  indent : Option Nat := none
  /-- The form that was read, with the places of its parts. -/
  origin : Option (Form (Option Span)) := none
  /-- Comments to be printed on lines of their own above a statement or a property. -/
  comments : List String := []
  /-- The source text between a statement and the one before it. -/
  gap : Option String := none
  deriving Repr

inductive Node where
  | mk (info : Info) (form : Form Node)

instance : Inhabited Node := ⟨⟨{}, .bare⟩⟩

namespace Node

def info : Node → Info
  | ⟨info, _⟩ => info

def form : Node → Form Node
  | ⟨_, form⟩ => form

/-- A node that was not read from anywhere. -/
def make (form : Form Node) : Node :=
  ⟨{}, form⟩

def span (node : Node) : Option Span :=
  node.info.span

def children (node : Node) : List Node :=
  node.form.children

def withForm (node : Node) (form : Form Node) : Node :=
  ⟨node.info, form⟩

def withInfo (node : Node) (info : Info) : Node :=
  ⟨info, node.form⟩

/-- The form with each part known by its place only. -/
def shape (node : Node) : Form (Option Span) :=
  node.form.map span

/-! ### Folds -/

section Fold

variable {β : Type} (step : Info → Form (Node × β) → β)

mutual

/-- The value of a node from the values of its parts. -/
def fold : Node → β
  | ⟨info, form⟩ => step info (foldForm form)

def foldForm : Form Node → Form (Node × β)
  | .bare => .bare
  | .bareStatement => .bareStatement
  | .verbatim kind parts literal => .verbatim kind (foldParts parts) literal
  | .identifier name isType => .identifier name isType
  | .stringLiteral value => .stringLiteral value
  | .parameters items layout => .parameters (foldParts items) layout
  | .objectPattern names => .objectPattern names
  | .arrowFunction ⟨params, body, isAsync, typeParameters, returnType⟩ =>
    .arrowFunction ⟨(params, fold params), (body, fold body), isAsync, foldOption typeParameters,
      foldOption returnType⟩
  | .functionExpression ⟨name, params, body, isAsync, isGenerator, typeParameters, returnType⟩ =>
    .functionExpression ⟨name, (params, fold params), foldOption body, isAsync, isGenerator,
      foldOption typeParameters, foldOption returnType⟩
  | .call callee arguments typeArguments =>
    .call (callee, fold callee) (arguments, fold arguments) (foldOption typeArguments)
  | .member object attributeName => .member (object, fold object) attributeName
  | .property key value => .property key (value, fold value)
  | .objectExpression properties => .objectExpression (foldList properties)
  | .block statements => .block (foldList statements)
  | .declarator name init declaredType =>
    .declarator (name, fold name) (foldOption init) (foldOption declaredType)
  | .importSpecifier specifier => .importSpecifier specifier
  | .exportSpecifier specifier => .exportSpecifier specifier
  | .otherStatement node => .otherStatement (node, fold node)
  | .returnStatement argument => .returnStatement (foldOption argument)
  | .functionDeclaration ⟨name, params, body, isAsync, isGenerator, typeParameters, returnType⟩ =>
    .functionDeclaration ⟨name, (params, fold params), foldOption body, isAsync, isGenerator,
      foldOption typeParameters, foldOption returnType⟩
  | .classDeclaration name tail => .classDeclaration name (tail, fold tail)
  | .variableDeclaration kind declarators => .variableDeclaration kind (foldList declarators)
  | .importDeclaration declaration => .importDeclaration declaration
  | .exportNamed ⟨declaration, specifiers, source, typeOnly⟩ =>
    .exportNamed ⟨foldOption declaration, specifiers, source, typeOnly⟩
  | .exportDefault declaration => .exportDefault (declaration, fold declaration)

def foldParts : List (Piece Node) → List (Piece (Node × β))
  | [] => []
  | .text s :: parts => .text s :: foldParts parts
  | .node n :: parts => .node (n, fold n) :: foldParts parts

def foldList : List Node → List (Node × β)
  | [] => []
  | n :: nodes => (n, fold n) :: foldList nodes

def foldOption : Option Node → Option (Node × β)
  | none => none
  | some n => some (n, fold n)

end

theorem foldParts_eq_map (parts : List (Piece Node)) :
    foldParts step parts = parts.map (·.map fun n => (n, fold step n)) := by
  induction parts with
  | nil => rfl
  | cons part parts ih => cases part <;> simp [foldParts, Piece.map, ih]

theorem foldList_eq_map (nodes : List Node) :
    foldList step nodes = nodes.map fun n => (n, fold step n) := by
  induction nodes with
  | nil => rfl
  | cons n nodes ih => simp [foldList, ih]

theorem foldOption_eq_map (node : Option Node) :
    foldOption step node = node.map fun n => (n, fold step n) := by
  cases node <;> rfl

theorem foldForm_eq_map (form : Form Node) :
    foldForm step form = form.map fun n => (n, fold step n) := by
  cases form <;>
    simp [foldForm, Form.map, ArrowForm.map, FunctionForm.map, ExportForm.map, foldParts_eq_map,
      foldList_eq_map, foldOption_eq_map]

theorem fold_mk (info : Info) (form : Form Node) :
    fold step ⟨info, form⟩ = step info (form.map fun n => (n, fold step n)) := by
  rw [fold, foldForm_eq_map]

end Fold

/-! ### Parts all the way down -/

/-- The node and everything below it, each node before its parts. -/
def descendants : Node → List Node :=
  fold fun info form =>
    ⟨info, form.map Prod.fst⟩ :: (form.children.map Prod.snd).flatten

/-- The node can still be printed from its source text. -/
def isPristine : Node → Bool :=
  fold fun info form =>
    info.raw.isSome && info.origin = some (form.map fun (n, _) => n.span) &&
      (form.children.map Prod.snd).all id

/-! ### Views -/

def identifier? : Node → Option String
  | ⟨_, .identifier name _⟩ => some name
  | _ => none

/-- The nodes among the parts of a verbatim. -/
def verbatimNodes : Node → List Node
  | ⟨_, .verbatim _ parts _⟩ => nodesOf parts
  | _ => []

/-- The kind of a verbatim. -/
def kind? : Node → Option String
  | ⟨_, .verbatim kind _ _⟩ => some kind
  | _ => none

def isVerbatim (kind : String) (node : Node) : Bool :=
  node.kind? = some kind

/-- The arguments of a call. -/
def arguments : Node → List Node
  | ⟨_, .call _ arguments _⟩ => arguments.verbatimNodes
  | _ => []

/-- A list of nodes between brackets, separated by commas. -/
def join (kind : String) (nodes : List Node) (opening closing : String) : Node :=
  let separated := (nodes.map Piece.node).intersperse (.text ", ")
  make (.verbatim kind (.text opening :: separated ++ [.text closing]) false)

end Node

end RouteMigration.Syntax
