import Mathlib.Algebra.Ring.Nat
import RouteMigration.Proofs.PrintableEdits

/-!
# Taking the envelopes off

Without its envelopes a tree is settled: no node of it can give way to a payload, and no arrow function
has an object literal for its body. A settled tree is what the unwrapping leaves as it is, so a second
unwrapping changes nothing. The calls that the unwrapping counts as retained are those of the tree that
it leaves, unless one of them stands between the type arguments of an envelope and vanishes with it.
-/

namespace RouteMigration.Proofs
open Syntax Route Unwrapping

/-! ### Calls -/

/-- The arguments of a node that calls the function of the name. -/
def argumentsTo? (name : String) (node : Node) : Option (List Node) :=
  match node.form with
  | .call callee arguments _ => if callee.identifier? = some name then some arguments.verbatimNodes else none
  | _ => none

def IsCall (node : Node) : Prop :=
  ∃ callee arguments typeArguments, node.form = .call callee arguments typeArguments

/-- What stands between the angle brackets of a call. -/
def typeArguments? (node : Node) : Option Node :=
  match node.form with
  | .call _ _ typeArguments => typeArguments
  | _ => none

/-- No call stands between the type arguments of the node. -/
def HasPlainTypes (node : Node) : Prop :=
  ∀ types ∈ typeArguments? node, Throughout (fun n => ¬ IsCall n) types

/-- The number of calls of the function below the node, the node included, that have more than one argument. -/
def longCalls (name : String) (node : Node) : Nat :=
  node.descendants.countP fun n => (argumentsTo? name n).any fun arguments => 2 ≤ arguments.length

section

variable (envelope : String)

lemma envelopeArguments_eq (node : Node) : envelopeArguments envelope node.form = (argumentsTo? envelope node).getD [] := by
  obtain ⟨info, form⟩ := node
  cases form with
  | call callee arguments typeArguments =>
    simp only [envelopeArguments, argumentsTo?, Node.form]
    split <;> rfl
  | _ => rfl

lemma carriesMore_eq (node : Node) :
    carriesMore envelope node.form = (argumentsTo? envelope node).any fun arguments => 2 ≤ arguments.length := by
  rw [carriesMore, envelopeArguments_eq]
  cases argumentsTo? envelope node <;> rfl

/-- An envelope is a call of its function with one argument, which is no spread. -/
lemma payload?_eq_some_iff {node payload : Node} : payload? envelope node.form = some payload ↔
    argumentsTo? envelope node = some [payload] ∧ payload.isVerbatim "spread_element" = false := by
  rw [payload?, envelopeArguments_eq]
  constructor
  · intro h
    split at h
    · next found hfound =>
      split at h
      · cases h
      · next hspread =>
        cases h
        cases harguments : argumentsTo? envelope node with
        | none => rw [harguments] at hfound; cases hfound
        | some arguments =>
          rw [harguments, Option.getD_some] at hfound
          exact ⟨congrArg some hfound, Bool.eq_false_iff.mpr hspread⟩
    · cases h
  · rintro ⟨harguments, hspread⟩
    rw [harguments]
    simp [hspread]

lemma argumentsTo?_eq_some_iff {info : Info} {form : Form Node} {arguments : List Node} :
    argumentsTo? envelope ⟨info, form⟩ = some arguments ↔ ∃ callee list typeArguments,
      form = .call callee list typeArguments ∧ callee.identifier? = some envelope ∧ list.verbatimNodes = arguments := by
  constructor
  · intro h
    cases form with
    | call callee list typeArguments =>
      simp only [argumentsTo?, Node.form] at h
      split at h
      · next hcallee => exact ⟨callee, list, typeArguments, rfl, hcallee, Option.some.inj h⟩
      · cases h
    | _ => cases h
  · rintro ⟨callee, list, typeArguments, rfl, hcallee, rfl⟩
    simp [argumentsTo?, Node.form, hcallee]

/-- An envelope by its parts. -/
lemma payload?_iff {form : Form Node} {payload : Node} : payload? envelope form = some payload ↔
    ∃ callee list typeArguments, form = .call callee list typeArguments ∧ callee.identifier? = some envelope ∧
      list.verbatimNodes = [payload] ∧ payload.isVerbatim "spread_element" = false := by
  rw [show form = Node.form (.make form) from rfl, payload?_eq_some_iff, Node.make, argumentsTo?_eq_some_iff]
  constructor
  · rintro ⟨⟨callee, list, typeArguments, hform, hcallee, hlist⟩, hspread⟩
    exact ⟨callee, list, typeArguments, hform, hcallee, hlist, hspread⟩
  · rintro ⟨callee, list, typeArguments, hform, hcallee, hlist, hspread⟩
    exact ⟨⟨callee, list, typeArguments, hform, hcallee, hlist⟩, hspread⟩

/-- The count of the long calls goes over the parts of a node. -/
lemma longCalls_mk (info : Info) (form : Form Node) : longCalls envelope ⟨info, form⟩ =
    (form.children.map (longCalls envelope)).sum + if carriesMore envelope form then 1 else 0 := by
  have hroot := carriesMore_eq envelope ⟨info, form⟩
  rw [Node.form] at hroot
  rw [longCalls, descendants_eq, List.countP_cons, hroot, Node.children, Node.form, List.countP_flatMap]
  rfl

lemma longCalls_of_not_carriesMore {node : Node} (h : carriesMore envelope node.form = false) :
    longCalls envelope node = (node.children.map (longCalls envelope)).sum := by
  obtain ⟨info, form⟩ := node
  rw [longCalls_mk, show carriesMore envelope form = false from h]
  rfl

/-- A list of arguments counts as its nodes do. -/
lemma longCalls_of_verbatimNodes {node only : Node} (h : node.verbatimNodes = [only]) :
    longCalls envelope node = longCalls envelope only := by
  obtain ⟨info, form⟩ := node
  cases form with
  | verbatim kind parts literal =>
    rw [longCalls_of_not_carriesMore envelope rfl]
    have hchildren : nodesOf parts = [only] := h
    rw [Node.children, Node.form, Form.children, hchildren, List.map_singleton, List.sum_singleton]
  | _ => cases h

lemma longCalls_of_identifier {node : Node} {name : String} (h : node.identifier? = some name) :
    longCalls envelope node = 0 := by
  obtain ⟨info, form⟩ := node
  cases form with
  | identifier => rfl
  | _ => cases h

/-! ### Settled trees -/

/-- The unwrapping does not replace the node and puts no parentheses into it. -/
structure Settled (node : Node) : Prop where
  payload : payload? envelope node.form = none
  guarded : guardBody node.form = node.form

lemma guardBody_guardBody (form : Form Node) : guardBody (guardBody form) = guardBody form := by
  cases form with
  | arrowFunction arrow =>
    by_cases hbody : arrow.body.isVerbatim "object" = true
    · simp only [guardBody, if_pos hbody]
      rfl
    · simp only [guardBody, if_neg hbody]
  | _ => rfl

lemma settled_parenthesized {node : Node} (h : Throughout (Settled envelope) node) :
    Throughout (Settled envelope) (parenthesized node) := by
  refine throughout_iff.mpr ⟨⟨rfl, rfl⟩, fun child hchild => ?_⟩
  obtain rfl := List.mem_singleton.mp hchild
  exact h

/-- The parts of a guarded form are those of the form, one of them in parentheses perhaps. -/
lemma mem_children_guardBody {form : Form Node} {part : Node} (h : part ∈ (guardBody form).children) :
    part ∈ form.children ∨ ∃ body ∈ form.children, part = parenthesized body := by
  cases form with
  | arrowFunction arrow =>
    simp only [guardBody] at h
    split at h
    · rcases List.mem_cons.mp h with rfl | h
      · exact .inl (List.mem_cons_self ..)
      · rcases List.mem_cons.mp h with rfl | h
        · exact .inr ⟨arrow.body, List.mem_cons_of_mem _ (List.mem_cons_self ..), rfl⟩
        · exact .inl (List.mem_cons_of_mem _ (List.mem_cons_of_mem _ h))
    · exact .inl h
  | _ => exact .inl h

lemma total_eq_sum (count : Unwrapping → Nat) (parts : List Unwrapping) :
    Unwrapping.total count parts = (parts.map count).sum := by
  induction parts with
  | nil => rfl
  | cons part parts ih => rw [List.map_cons, List.sum_cons, ← ih]; rfl

lemma map_parts (form : Form Node) : (form.map fun n => (n, unwrap envelope n)).children.map Prod.snd =
    form.children.map (unwrap envelope) := by
  rw [Form.children_map, map_snd_map_pair]

/-- The unwrapping of a node from those of its parts. -/
lemma unwrap_eq (info : Info) (form : Form Node) :
    let bared := guardBody (form.map fun n => (unwrap envelope n).node)
    unwrap envelope ⟨info, form⟩ =
      { inner := ⟨info, bared⟩
        node := (payload? envelope bared).getD ⟨info, bared⟩
        unwrapped := (form.children.map fun n => (unwrap envelope n).unwrapped).sum +
          if (payload? envelope bared).isSome then 1 else 0
        retained := (form.children.map fun n => (unwrap envelope n).retained).sum +
          if carriesMore envelope bared then 1 else 0 } := by
  rw [unwrap_mk, step, form_map_map, map_parts, total_eq_sum, total_eq_sum, List.map_map, List.map_map]
  rfl

/-- Without its envelopes a tree is settled. -/
theorem unwrap_settled (node : Node) : Throughout (Settled envelope) (unwrap envelope node).node := by
  induction node using node_induction with
  | h info form ih =>
    rw [unwrap_eq]
    dsimp only
    generalize hbared : guardBody (form.map fun n => (unwrap envelope n).node) = bared
    have hparts (part : Node) (hpart : part ∈ bared.children) : Throughout (Settled envelope) part := by
      subst hbared
      have hmapped (n : Node) (hn : n ∈ (form.map fun n => (unwrap envelope n).node).children) :
          Throughout (Settled envelope) n := by
        rw [Form.children_map] at hn
        obtain ⟨child, hchild, rfl⟩ := List.mem_map.mp hn
        exact ih child hchild
      rcases mem_children_guardBody hpart with hpart | ⟨body, hbody, rfl⟩
      · exact hmapped part hpart
      · exact settled_parenthesized envelope (hmapped body hbody)
    cases hpayload : payload? envelope bared with
    | none =>
      refine throughout_iff.mpr ⟨⟨hpayload, ?_⟩, hparts⟩
      rw [Option.getD_none, Node.form, ← hbared, guardBody_guardBody]
    | some payload =>
      -- the payload is a part of the arguments, which are a part of the call
      obtain ⟨callee, list, typeArguments, rfl, -, hlist, -⟩ := (payload?_iff envelope).mp hpayload
      have hlisted : Throughout (Settled envelope) list := hparts list (by simp [Form.children])
      refine hlisted.child (freeParts_subset (mem_freeParts_of_verbatimNodes ?_))
      rw [hlist]
      exact List.mem_singleton_self payload

lemma form_map_congr {α β : Type} {f g : α → β} {form : Form α} (h : ∀ n ∈ form.children, f n = g n) :
    form.map f = form.map g := by
  have hparts {parts : List (Piece α)} (h : ∀ n ∈ nodesOf parts, f n = g n) :
      parts.map (·.map f) = parts.map (·.map g) := by
    refine List.map_congr_left fun part hpart => ?_
    cases part with
    | text text => rfl
    | node n => exact congrArg Piece.node (h n (List.mem_filterMap.mpr ⟨_, hpart, rfl⟩))
  have hoption (part : Option α) (h : ∀ n, part = some n → f n = g n) : part.map f = part.map g :=
    Option.map_congr h
  cases form with
  | verbatim kind parts literal => exact congrArg (Form.verbatim kind · literal) (hparts h)
  | parameters items layout => exact congrArg (Form.parameters · layout) (hparts h)
  | _ =>
    simp_all [Form.map, Form.children, ArrowForm.map, ArrowForm.children, FunctionForm.map, FunctionForm.children,
      ExportForm.map, or_imp, forall_and]

/-- A settled tree stays as it is, and its long calls are counted. -/
theorem unwrap_of_settled {node : Node} (h : Throughout (Settled envelope) node) :
    unwrap envelope node = { inner := node, node, unwrapped := 0, retained := longCalls envelope node } := by
  induction node using node_induction with
  | h info form ih =>
    have hparts : ∀ n ∈ form.children, unwrap envelope n =
        { inner := n, node := n, unwrapped := 0, retained := longCalls envelope n } :=
      fun n hn => ih n hn (h.child hn)
    have hsame : (form.map fun n => (unwrap envelope n).node) = form := by
      rw [form_map_congr (g := fun n => n) fun n hn => by rw [hparts n hn]]
      exact form_map_id form
    have hguarded : guardBody form = form := h.root.guarded
    have hpayload : payload? envelope form = none := h.root.payload
    have hunwrapped : (form.children.map fun n => (unwrap envelope n).unwrapped) = form.children.map fun _ => 0 :=
      List.map_congr_left fun n hn => by rw [hparts n hn]
    have hretained : (form.children.map fun n => (unwrap envelope n).retained) =
        form.children.map (longCalls envelope) :=
      List.map_congr_left fun n hn => by rw [hparts n hn]
    rw [unwrap_eq, hsame, hguarded, hpayload, hunwrapped, hretained, longCalls_mk]
    simp

/-! ### Retained calls -/

lemma guardBody_eq_call {form : Form Node} {callee arguments : Node} {typeArguments : Option Node}
    (h : guardBody form = .call callee arguments typeArguments) : form = .call callee arguments typeArguments := by
  cases form with
  | arrowFunction arrow =>
    simp only [guardBody] at h
    split at h <;> cases h
  | _ => exact h

/-- The parentheses of an arrow function's body count for nothing. -/
lemma sum_longCalls_guardBody (form : Form Node) :
    ((guardBody form).children.map (longCalls envelope)).sum = (form.children.map (longCalls envelope)).sum := by
  cases form with
  | arrowFunction arrow =>
    have hbody : longCalls envelope (parenthesized arrow.body) = longCalls envelope arrow.body :=
      longCalls_of_verbatimNodes envelope rfl
    simp only [guardBody]
    split
    · simp only [Form.children, ArrowForm.children, List.map_cons, hbody]
    · rfl
  | _ => rfl

/-- Nothing is retained in a tree without calls. -/
lemma unwrap_retained_of_plain {node : Node} (h : Throughout (fun n => ¬ IsCall n) node) :
    (unwrap envelope node).retained = 0 := by
  induction node using node_induction with
  | h info form ih =>
    have hparts : (form.children.map fun n => (unwrap envelope n).retained) = form.children.map fun _ => 0 :=
      List.map_congr_left fun n hn => ih n hn (h.child hn)
    have hmore : carriesMore envelope (guardBody (form.map fun n => (unwrap envelope n).node)) = false := by
      have hroot := h.root
      cases form with
      | call callee arguments typeArguments => exact absurd ⟨callee, arguments, typeArguments, rfl⟩ hroot
      | arrowFunction arrow =>
        simp only [Form.map, guardBody]
        split <;> rfl
      | _ => rfl
    rw [unwrap_eq]
    dsimp only
    rw [hparts, hmore]
    simp

/-- The calls that are counted as retained are the long calls of the tree without its envelopes. -/
theorem unwrap_retained_eq {node : Node} (h : Throughout HasPlainTypes node) :
    (unwrap envelope node).retained = longCalls envelope (unwrap envelope node).node := by
  induction node using node_induction with
  | h info form ih =>
    have hparts (n : Node) (hn : n ∈ form.children) :
        (unwrap envelope n).retained = longCalls envelope (unwrap envelope n).node := ih n hn (h.child hn)
    rw [unwrap_eq]
    dsimp only
    cases hpayload : payload? envelope (guardBody (form.map fun n => (unwrap envelope n).node)) with
    | none =>
      rw [Option.getD_none, longCalls_mk, sum_longCalls_guardBody, Form.children_map, List.map_map]
      rw [List.map_congr_left hparts]
      rfl
    | some payload =>
      generalize hbared : guardBody (form.map fun n => (unwrap envelope n).node) = bared at hpayload ⊢
      have hmore : carriesMore envelope bared = false := by
        obtain ⟨harguments, -⟩ := (@payload?_eq_some_iff envelope ⟨info, bared⟩ _).mp hpayload
        rw [show bared = Node.form ⟨info, bared⟩ from rfl, carriesMore_eq, harguments]
        rfl
      obtain ⟨_, _, _, rfl, hcallee, hlist, -⟩ := (payload?_iff envelope).mp hpayload
      have hmap := guardBody_eq_call hbared
      cases form with
      | call callee list typeArguments =>
        cases hmap
        -- the callee is a name, and the type arguments vanish with the envelope
        have htypes : ∀ types ∈ typeArguments.toList, (unwrap envelope types).retained = 0 := fun types htypes =>
          unwrap_retained_of_plain envelope (h.root types (Option.mem_toList.mp htypes))
        have hsum : (typeArguments.toList.map fun n => (unwrap envelope n).retained) =
            typeArguments.toList.map fun _ => 0 := List.map_congr_left htypes
        rw [Option.getD_some, hmore, Form.children, List.map_cons, List.map_cons, hsum,
          hparts callee (List.mem_cons_self ..), hparts list (List.mem_cons_of_mem _ (List.mem_cons_self ..)),
          longCalls_of_identifier envelope hcallee, longCalls_of_verbatimNodes envelope hlist]
        simp
      | _ => cases hmap

/-! ### Functions -/

/-- The nodes of the parameters and of the body of a function. -/
def nodesIn (signature : Signature) : List Node :=
  signature.params.descendants ++ signature.body.toList.flatMap Node.descendants

lemma forall_mem_nodesIn {P : Node → Prop} {signature : Signature} : (∀ n ∈ nodesIn signature, P n) ↔
    Throughout P signature.params ∧ ∀ body ∈ signature.body, Throughout P body := by
  simp only [nodesIn, List.mem_append, List.mem_flatMap, Option.mem_toList, Throughout]
  constructor
  · exact fun h => ⟨fun n hn => h n (.inl hn), fun body hbody n hn => h n (.inr ⟨body, hbody, hn⟩)⟩
  · rintro ⟨hparams, hbody⟩ n (hn | ⟨body, hmem, hn⟩)
    · exact hparams n hn
    · exact hbody body hmem n hn

/-- A function without its envelopes, part by part. -/
lemma ofNode?_unwrapFunction {function : Node} {signature : Signature}
    (hsignature : Signature.ofNode? function = some signature) :
    Signature.ofNode? (unwrapFunction envelope function).node = some
      { signature with
        params := (unwrap envelope signature.params).node
        body := signature.body.map fun body => (unwrap envelope body).node } := by
  rw [unwrapFunction, hsignature]
  obtain ⟨info, form⟩ := function
  cases form <;> cases hsignature
  · rfl
  · simp [Signature.replace, Signature.ofNode?, Node.form, Node.withForm, Function.comp_def]
  · simp [Signature.replace, Signature.ofNode?, Node.form, Node.withForm, Function.comp_def]

lemma replace_same {function : Node} {signature : Signature} (hsignature : Signature.ofNode? function = some signature) :
    Signature.replace signature.params signature.body function = function := by
  obtain ⟨info, form⟩ := function
  cases form <;> cases hsignature <;> rfl

/-- A function with settled parts stays as it is. -/
lemma unwrapFunction_of_settled {function : Node} {signature : Signature}
    (hsignature : Signature.ofNode? function = some signature) (hsettled : ∀ n ∈ nodesIn signature, Settled envelope n) :
    unwrapFunction envelope function =
      { inner := function
        node := function
        unwrapped := 0
        retained := longCalls envelope signature.params + signature.body.elim 0 (longCalls envelope) } := by
  obtain ⟨hparams, hbody⟩ := forall_mem_nodesIn.mp hsettled
  have hsame := replace_same hsignature
  rw [unwrapFunction, hsignature]
  dsimp only
  rw [unwrap_of_settled envelope hparams]
  cases hpart : signature.body with
  | none =>
    rw [hpart] at hsame
    simp [hsame]
  | some body =>
    rw [hpart] at hsame
    simp [unwrap_of_settled envelope (hbody body hpart), hsame]

/-- Taking the envelopes off a function is complete, counts what it retains and leaves nothing to be done:
every call of the envelope function with a single argument that is left in the parameters or the body has a
spread there, the retained calls are those with more arguments, and a second time nothing changes. -/
theorem unwrapFunction_complete {function : Node} {signature : Signature}
    (hsignature : Signature.ofNode? function = some signature) (htypes : ∀ n ∈ nodesIn signature, HasPlainTypes n) :
    let result := unwrapFunction envelope function
    ∃ after, Signature.ofNode? result.node = some after ∧
      (∀ n ∈ nodesIn after, ∀ argument, argumentsTo? envelope n = some [argument] →
        argument.isVerbatim "spread_element" = true) ∧
      result.retained = (nodesIn after).countP (fun n =>
        (argumentsTo? envelope n).any fun arguments => 2 ≤ arguments.length) ∧
      unwrapFunction envelope result.node =
        { inner := result.node, node := result.node, unwrapped := 0, retained := result.retained } := by
  intro result
  have hafter := ofNode?_unwrapFunction envelope hsignature
  obtain ⟨hparams, hbody⟩ := forall_mem_nodesIn.mp htypes
  generalize hsigned : ({ signature with
    params := (unwrap envelope signature.params).node
    body := signature.body.map fun body => (unwrap envelope body).node } : Signature) = after at hafter
  have hsettled : ∀ n ∈ nodesIn after, Settled envelope n := by
    subst hsigned
    refine forall_mem_nodesIn.mpr ⟨unwrap_settled envelope _, fun body hmem => ?_⟩
    obtain ⟨part, -, rfl⟩ := Option.map_eq_some_iff.mp hmem
    exact unwrap_settled envelope part
  have hretained : result.retained = longCalls envelope after.params + after.body.elim 0 (longCalls envelope) := by
    subst hsigned
    simp only [result, unwrapFunction, hsignature]
    rw [unwrap_retained_eq envelope hparams]
    cases hpart : signature.body with
    | none => rfl
    | some body => exact congrArg _ (unwrap_retained_eq envelope (hbody body hpart))
  refine ⟨after, hafter, fun n hn argument harguments => ?_, ?_, ?_⟩
  · by_contra hspread
    have hpayload := (payload?_eq_some_iff envelope).mpr ⟨harguments, Bool.eq_false_iff.mpr hspread⟩
    rw [(hsettled n hn).payload] at hpayload
    cases hpayload
  · rw [hretained, nodesIn, List.countP_append]
    cases after.body <;> simp [longCalls]
  · rw [unwrapFunction_of_settled envelope hafter hsettled, hretained]

end

/-- The call of a function by name, or of what another call returns. -/
def callOf (callee : Node) (arguments : List Node) : Node :=
  .make (.call callee (.join "arguments" arguments "(" ")") none)

/-- The function `() => [json(json)(data), json(data, init)]`. -/
def nestedFunction : Node :=
  let name (text : String) : Node := .make (.identifier text false)
  .make (.arrowFunction
    { params := .make (.parameters [] none)
      body := .join "array"
        [callOf (callOf (name "json") [name "json"]) [name "data"], callOf (name "json") [name "data", name "init"]]
        "[" "]" })

lemma hasPlainTypes_of_none {node : Node} (h : (typeArguments? node).isNone = true) : HasPlainTypes node := by
  intro types htypes
  rw [Option.isNone_iff_eq_none.mp h] at htypes
  cases htypes

/-- The envelope around the callee makes its call an envelope when it comes off. -/
theorem nestedFunction_complete :
    ∃ signature, Signature.ofNode? nestedFunction = some signature ∧ (∀ n ∈ nodesIn signature, HasPlainTypes n) ∧
      let result := unwrapFunction "json" nestedFunction
      result.unwrapped = 2 ∧ result.retained = 1 ∧
        unwrapFunction "json" result.node =
          { inner := result.node, node := result.node, unwrapped := 0, retained := result.retained } := by
  obtain ⟨signature, hsignature⟩ : ∃ signature, Signature.ofNode? nestedFunction = some signature := ⟨_, rfl⟩
  have htypes : ∀ n ∈ nodesIn signature, HasPlainTypes n := by
    have hnone : ((Signature.ofNode? nestedFunction).all fun signature =>
        (nodesIn signature).all fun n => (typeArguments? n).isNone) = true := by decide +kernel
    rw [hsignature, Option.all_some, List.all_eq_true] at hnone
    exact fun n hn => hasPlainTypes_of_none (hnone n hn)
  obtain ⟨-, -, -, -, hagain⟩ := unwrapFunction_complete "json" hsignature htypes
  exact ⟨signature, hsignature, htypes, by decide +kernel, by decide +kernel, hagain⟩

end RouteMigration.Proofs
