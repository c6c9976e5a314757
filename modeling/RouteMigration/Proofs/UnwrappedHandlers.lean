import RouteMigration.Proofs.Boundaries
import RouteMigration.Proofs.Readings

/-!
# Handlers without their envelopes

Every handler of a parsed module can be taken out and printed. As a tree, it is the function that was declared, with
every payload where its envelope was. Its text can fail to tell: a payload that binds less tightly than a call stands
in it without parentheses, and two handlers with different trees have the same text.
-/

namespace RouteMigration.Proofs
open Syntax Printer Route Unwrapping

/-! ### Located functions -/

/-- The calls in the functions that are located in a parsed module have lists of arguments. -/
lemma takesLists_locate {source path name : String} {module : Module} {located : Located}
    (hparse : Module.parse source path = .ok module) (hlocate : locate module.body name = some located) :
    Throughout (fun n => TakesList n.form) located.function := by
  refine (hereditary_throughout TakesList).locate (fun statement hstatement => ?_) hlocate
  obtain ⟨trees, hbody⟩ := body_of_parse hparse
  rw [hbody] at hstatement
  obtain ⟨tree, -, hform⟩ := form_of_mem_body hstatement
  exact (throughout_congr hform.symm).mp (readsAs_statement source.toList tree).1.wasRead.takesLists

lemma printable_located {source path name : String} {module : Module} {located : Located}
    (hparse : Module.parse source path = .ok module) (hlocate : locate module.body name = some located) :
    Printable located.function := by
  obtain ⟨spans, hread, -⟩ := parse_eq_ok hparse
  exact printable_locate (printable_of_readStatements hread) hlocate

/-! ### Bodies -/

lemma isBlock_asBlock (body : Node) : isBlock (asBlock body) = true := by
  unfold asBlock
  split
  · assumption
  · rfl

lemma isBlock_unwrap (envelope : String) {body : Node} (h : isBlock body = true) :
    isBlock (unwrap envelope body).node = true := by
  obtain ⟨info, form⟩ := body
  rw [unwrap_eq]
  cases form with
  | block statements => rfl
  | verbatim kind parts literal => exact h
  | _ => cases h

lemma isVerbatim_of_isBlock {body : Node} (h : isBlock body = true) : body.isVerbatim "object" = false := by
  obtain ⟨info, form⟩ := body
  cases form with
  | verbatim kind parts literal => exact isVerbatim_eq_false h (by decide)
  | _ => rfl

lemma takesLists_asBlock {body : Node} (h : Throughout (fun n => TakesList n.form) body) :
    Throughout (fun n => TakesList n.form) (asBlock body) := by
  unfold asBlock
  split
  · exact h
  · refine throughout_iff.mpr ⟨nofun, fun child hchild => ?_⟩
    obtain rfl := List.mem_singleton.mp hchild
    refine throughout_iff.mpr ⟨nofun, fun child hchild => ?_⟩
    obtain rfl := List.mem_singleton.mp hchild
    exact (hereditary_throughout TakesList).stripParentheses h

/-- An expression for a body is returned. -/
lemma alike_asBlock {envelope : String} {body : Node} (hbody : isBlock body = false)
    (hspread : (stripParentheses body).isVerbatim "spread_element" = false) :
    Alike envelope (asBlock body) (.make (.block [.make (.returnStatement (some body))])) := by
  rw [asBlock, if_neg (Bool.eq_false_iff.mp hbody)]
  intro β reading hreading
  simp only [Node.make, Reading.of_mk, Form.map, List.map_cons, List.map_nil, Option.map_some]
  rw [alike_stripParentheses hspread β reading hreading]

/-! ### Handlers -/

/-- The parameters of a handler on a route of the kind: on a page those that the route context offers. -/
def received (settings : Settings) (kind : Kind) (params : Node) : Node :=
  match kind with
  | .page => .make (.parameters [.node (.make (.objectPattern settings.loaderParams))] none)
  | .resource => params

lemma takesLists_received (settings : Settings) (kind : Kind) {params : Node}
    (h : Throughout (fun n => TakesList n.form) params) :
    Throughout (fun n => TakesList n.form) (received settings kind params) := by
  cases kind with
  | page =>
    refine throughout_iff.mpr ⟨nofun, fun child hchild => ?_⟩
    obtain rfl := List.mem_singleton.mp hchild
    exact throughout_iff.mpr ⟨nofun, List.forall_mem_nil _⟩
  | resource => exact h

/-- Taking the envelopes off a function without a name. -/
lemma unwrapFunction_anonymous (envelope : String) (params body : Node) (isAsync isGenerator : Bool) :
    (unwrapFunction envelope (anonymous params body isAsync isGenerator)).node =
      anonymous (unwrap envelope params).node (unwrap envelope body).node isAsync isGenerator := by
  cases isGenerator <;> rfl

lemma extract?_value {settings : Settings} {kind : Kind} {located : Located} {handler : Handler} {signature : Signature}
    {body : Node} (h : extract? settings kind located = some handler)
    (hsignature : Signature.ofNode? located.function = some signature) (hbody : signature.body = some body) :
    handler.value = anonymous (unwrap settings.envelope (received settings kind signature.params)).node
      (unwrap settings.envelope (asBlock body)).node signature.isAsync signature.isGenerator := by
  rw [extract?, hsignature, Option.bind_eq_bind, Option.bind_some, hbody, Option.bind_eq_bind, Option.bind_some] at h
  cases h
  cases kind <;> exact unwrapFunction_anonymous ..

/-- Functions of alike parameters and bodies are alike. -/
lemma alike_anonymous {envelope : String} {params params' body body' : Node} (hparams : Alike envelope params params')
    (hbody : Alike envelope body body') (isAsync isGenerator : Bool) :
    Alike envelope (anonymous params body isAsync isGenerator) (anonymous params' body' isAsync isGenerator) := by
  intro β reading hreading
  have hp := hparams β reading hreading
  have hb := hbody β reading hreading
  cases isGenerator with
  | true => simp [anonymous, Node.make, Reading.of_mk, Form.map, FunctionForm.map, hp, hb]
  | false => simp [anonymous, Node.make, Reading.of_mk, Form.map, ArrowForm.map, hp, hb]

lemma settled_anonymous {envelope : String} {params body : Node} (hparams : Throughout (Settled envelope) params)
    (hbody : Throughout (Settled envelope) body) (hblock : isBlock body = true) (isAsync isGenerator : Bool) :
    Throughout (Settled envelope) (anonymous params body isAsync isGenerator) := by
  have hparts {child : Node} (hchild : child ∈ [params, body]) : Throughout (Settled envelope) child := by
    rcases List.mem_pair.mp hchild with rfl | rfl
    · exact hparams
    · exact hbody
  cases isGenerator with
  | true => exact throughout_iff.mpr ⟨⟨rfl, rfl⟩, fun child hchild => hparts hchild⟩
  | false =>
    refine throughout_iff.mpr ⟨⟨rfl, ?_⟩, fun child hchild => hparts hchild⟩
    exact if_neg (Bool.eq_false_iff.mp (isVerbatim_of_isBlock hblock))

/-- The kinds of the verbatims in a tree, an operator before its operands. -/
def kinds (node : Node) : List String :=
  node.descendants.filterMap Node.kind?

/-- Whether a page is given a loader with this text, of whose skeleton the verbatims have these kinds. -/
def hasLoader (source text : String) (found : List String) : Bool :=
  (Module.parse source "routes/a.tsx").toOption.any fun module =>
    (locate module.body "loader").any fun located =>
      (extract? defaultSettings .page located).any fun handler =>
        (printNode {} handler.value).toOption.any (· = text) && kinds ((skeleton "json").of handler.value) = found

lemma exists_loader {source text : String} {found : List String} (h : hasLoader source text found = true) :
    ∃ module located handler, Module.parse source "routes/a.tsx" = .ok module ∧
      locate module.body "loader" = some located ∧ extract? defaultSettings .page located = some handler ∧
      printNode {} handler.value = .ok text ∧ kinds ((skeleton "json").of handler.value) = found := by
  obtain ⟨module, hparse, h⟩ := exists_of_any_toOption h
  obtain ⟨located, hlocate, h⟩ := (Option.any_eq_true _ _).mp h
  obtain ⟨handler, hextract, h⟩ := (Option.any_eq_true _ _).mp h
  rw [Bool.and_eq_true, decide_eq_true_eq] at h
  obtain ⟨printed, hprint, htext⟩ := exists_of_any_toOption h.1
  obtain rfl := of_decide_eq_true htext
  exact ⟨module, located, handler, hparse, hlocate, hextract, hprint, h.2⟩

/-- A loader of which the payload is the object of a member. -/
def operandPage : String :=
  "export const loader = () => json(a || b).length;\n"

def operandText : String :=
  "(\x7b params, search \x7d) => \x7b\n  return a || b.length;\n\x7d"

/-- The text of a handler does not tell its tree: there is no reader that finds in the text of every handler that is
taken out of a parsed module a tree alike to it. A page with `a || b.length` has the text of the page above. -/
theorem not_exists_reader : ¬ ∃ reader : String → Option Node,
    ∀ source path name module located settings kind style handler text, Module.parse source path = .ok module →
      locate module.body name = some located → extract? settings kind located = some handler →
      printNode style handler.value = .ok text →
      ∃ tree, reader text = some tree ∧ Alike settings.envelope tree handler.value := by
  rintro ⟨reader, hreader⟩
  have hread {source text : String} {found : List String} (h : hasLoader source text found = true) :
      ∃ tree, reader text = some tree ∧ kinds ((skeleton "json").of tree) = found := by
    obtain ⟨module, located, handler, hparse, hlocate, hextract, hprint, hfound⟩ := exists_loader h
    obtain ⟨tree, htree, halike⟩ := hreader _ _ _ _ _ _ _ _ _ _ hparse hlocate hextract hprint
    refine ⟨tree, htree, ?_⟩
    rw [← hfound, halike Node (skeleton "json") (skeleton_transparent "json")]
  have hmember : hasLoader operandPage operandText ["member_expression", "binary_expression"] = true := by
    decide +kernel
  have hbinary : hasLoader "export const loader = () => a || b.length;\n" operandText
      ["binary_expression", "member_expression"] = true := by decide +kernel
  obtain ⟨tree, htree, hkinds⟩ := hread hmember
  obtain ⟨tree', htree', hkinds'⟩ := hread hbinary
  obtain rfl : tree = tree' := Option.some.inj (htree.symm.trans htree')
  rw [hkinds] at hkinds'
  exact absurd hkinds' (by decide)

end RouteMigration.Proofs
