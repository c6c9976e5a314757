import RouteMigration.Route.DefaultExport
import RouteMigration.Route.Envelope
import RouteMigration.Route.Parameters
import RouteMigration.Settings

/-!
# Handlers

A handler is taken out of its declaration as a function without a name. It has a block for its body, and
envelopes are taken off. On a page, it receives what the route context offers instead of the parameters
it declared.
-/

namespace RouteMigration.Route

open Syntax

structure Handler where
  /-- The name under which the handler was exported. -/
  name : String
  value : Node
  /-- Parameters that the handler uses and no longer receives. -/
  dropped : List String := []
  /-- The number of envelopes that were taken off. -/
  unwrapped : Nat := 0
  /-- The number of calls to the envelope function that stay. -/
  retained : Nat := 0
  /-- The function that was declared, as it is left behind. -/
  source : Node

/-- The expression inside of parentheses. -/
def stripParentheses : Node → Node :=
  Node.fold fun info form =>
    let node : Node := ⟨info, form.map Prod.fst⟩
    match form with
    | .verbatim kind parts _ =>
      match decide (kind = "parenthesized_expression"), nodesOf parts with
      | true, [(_, inner)] => inner
      | _, _ => node
    | _ => node

/-- Changes the expression inside of parentheses. -/
def mapParenthesized (f : Node → Node) : Node → Node :=
  Node.fold fun info form =>
    let node : Node := ⟨info, form.map Prod.fst⟩
    match form with
    | .verbatim kind parts literal =>
      match decide (kind = "parenthesized_expression"), nodesOf parts with
      | true, [_] => ⟨info, .verbatim kind (parts.map (·.map Prod.snd)) literal⟩
      | _, _ => f node
    | _ => f node

/-- A body with statements. -/
def isBlock (body : Node) : Bool :=
  match body.form with
  | .block _ => true
  | _ => body.isVerbatim "statement_block"

/-- The body as a block; an expression is returned. -/
def asBlock (body : Node) : Node :=
  if isBlock body then body
  else .make (.block [.make (.returnStatement (some (stripParentheses body)))])

/-- What is left of a body when the envelopes are taken off the block that was made of it. -/
def leftBody (envelope : String) (body : Node) : Node :=
  if isBlock body then (unwrap envelope body).node
  else mapParenthesized (fun inner => (unwrap envelope inner).inner) body

/-- A function without a name. -/
def anonymous (params body : Node) (isAsync isGenerator : Bool) : Node :=
  .make <|
    if isGenerator then
      .functionExpression { name := none, params, body := some body, isAsync, isGenerator := true }
    else .arrowFunction { params, body, isAsync }

/-- Takes a handler out of its declaration; nothing if there is no function with a body. -/
def extract? (settings : Settings) (kind : Kind) (located : Located) : Option Handler := do
  let signature ← Signature.ofNode? located.function
  let body ← signature.body
  let block := asBlock body
  let offered := settings.loaderParams
  let used := block.referencedNames
  let result := unwrapFunction settings.envelope <|
    match kind with
    | .page =>
      let params := .make (.parameters [.node (.make (.objectPattern offered))] none)
      anonymous params block signature.isAsync signature.isGenerator
    | .resource => anonymous signature.params block signature.isAsync signature.isGenerator
  let dropped := match kind with
    | .page => (boundNames signature.params).filter fun name =>
        !offered.contains name && used.contains name
    | .resource => []
  let params := match kind with
    | .page => signature.params
    | .resource => (unwrap settings.envelope signature.params).node
  some {
    name := located.name
    value := result.node
    dropped
    unwrapped := result.unwrapped
    retained := result.retained
    source := Signature.replace params (some (leftBody settings.envelope body)) located.function }

/-- Puts another function into the statement that declares a handler. -/
def Located.replaceFunction (located : Located) (function : Node) (statement : Node) : Node :=
  match statement.form with
  | .exportNamed form =>
    statement.withForm (.exportNamed { form with declaration := form.declaration.map inDeclaration })
  | _ => inDeclaration statement
where
  inDeclarator (declarator : Node) : Node :=
    match declarator.form with
    | .declarator name init declaredType =>
      declarator.withForm (.declarator name (init.map (replaceCallable function)) declaredType)
    | _ => declarator
  inDeclaration (declaration : Node) : Node :=
    match located.shape, declaration.form with
    | .function, _ => function
    | .variable index, .variableDeclaration kind declarators =>
      declaration.withForm (.variableDeclaration kind (declarators.modify index inDeclarator))
    | _, _ => declaration

end RouteMigration.Route
