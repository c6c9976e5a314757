import RouteMigration.Syntax.Node

/-!
# Envelopes

Handlers wrap the data they return in a call of an envelope function. A call with just the data gives
way to it; a call with more arguments carries more than data and stays. An arrow function whose body
becomes an object literal gets parentheses around it, since braces would make it a block.
-/

namespace RouteMigration.Route

open Syntax

/-- A node with the envelopes taken off. -/
structure Unwrapping where
  /-- The node, with the envelopes below it taken off. -/
  inner : Node
  /-- What stands in the place of the node: its payload if it is an envelope itself. -/
  node : Node
  /-- The number of envelopes that were taken off. -/
  unwrapped : Nat := 0
  /-- The number of calls that stay because they carry more than a payload. -/
  retained : Nat := 0

namespace Unwrapping

def ofNode (node : Node) : Unwrapping :=
  { inner := node, node }

/-- The arguments of a call to the envelope function. -/
def envelopeArguments (envelope : String) : Form Node → List Node
  | .call callee arguments _ =>
    if callee.identifier? = some envelope then arguments.verbatimNodes else []
  | _ => []

/-- The payload of an envelope that carries nothing else. -/
def payload? (envelope : String) (form : Form Node) : Option Node :=
  match envelopeArguments envelope form with
  | [payload] => if payload.isVerbatim "spread_element" then none else some payload
  | _ => none

def carriesMore (envelope : String) (form : Form Node) : Bool :=
  1 < (envelopeArguments envelope form).length

def parenthesized (node : Node) : Node :=
  .make (.verbatim "parenthesized_expression" [.text "(", .node node, .text ")"] false)

/-- Keeps an object literal from reading as the block of an arrow function. -/
def guardBody : Form Node → Form Node
  | .arrowFunction arrow =>
    if arrow.body.isVerbatim "object" then
      .arrowFunction { arrow with body := parenthesized arrow.body }
    else .arrowFunction arrow
  | form => form

/-- The sum of a count over the parts of a node. -/
def total (count : Unwrapping → Nat) (parts : List Unwrapping) : Nat :=
  parts.foldr (fun part sum => count part + sum) 0

/-- The unwrapping of a node from those of its parts. -/
def step (envelope : String) (info : Info) (form : Form (Node × Unwrapping)) : Unwrapping :=
  let parts := form.children.map Prod.snd
  let form := guardBody (form.map fun (_, part) => part.node)
  let inner : Node := ⟨info, form⟩
  let payload := payload? envelope form
  { inner
    node := payload.getD inner
    unwrapped := total unwrapped parts + if payload.isSome then 1 else 0
    retained := total retained parts + if carriesMore envelope form then 1 else 0 }

end Unwrapping

/-- Takes the envelopes off. -/
def unwrap (envelope : String) : Node → Unwrapping :=
  Node.fold (Unwrapping.step envelope)

/-- Parameters and body of a function. -/
structure Signature where
  params : Node
  body : Option Node
  isAsync : Bool
  isGenerator : Bool

namespace Signature

def ofNode? (node : Node) : Option Signature :=
  match node.form with
  | .arrowFunction arrow => some ⟨arrow.params, some arrow.body, arrow.isAsync, false⟩
  | .functionExpression form | .functionDeclaration form =>
    some ⟨form.params, form.body, form.isAsync, form.isGenerator⟩
  | _ => none

/-- Puts other parameters and another body into a function. -/
def replace (params : Node) (body : Option Node) (node : Node) : Node :=
  match node.form with
  | .arrowFunction arrow =>
    node.withForm (.arrowFunction { arrow with params, body := body.getD arrow.body })
  | .functionExpression form => node.withForm (.functionExpression { form with params, body })
  | .functionDeclaration form => node.withForm (.functionDeclaration { form with params, body })
  | _ => node

end Signature

/-- Takes the envelopes off in the parameters and the body of a function. -/
def unwrapFunction (envelope : String) (node : Node) : Unwrapping :=
  match Signature.ofNode? node with
  | none => .ofNode node
  | some signature =>
    let params := unwrap envelope signature.params
    let body := signature.body.map (unwrap envelope)
    let result := Signature.replace params.node (body.map (·.node)) node
    { inner := result
      node := result
      unwrapped := params.unwrapped + body.elim 0 (·.unwrapped)
      retained := params.retained + body.elim 0 (·.retained) }

end RouteMigration.Route
