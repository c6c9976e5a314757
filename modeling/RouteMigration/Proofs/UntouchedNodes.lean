import RouteMigration.Proofs.IntactNodes

/-!
# What the unwrapping leaves alone

When the envelopes come off a function, a node that was read stays as it is if no envelope came off inside of it, and
prints from its source text still. The nodes around an envelope that came off do not: each of them has a part that is in
another place than the one that was read, or that has changed itself.
-/

namespace RouteMigration.Proofs
open Syntax Grammar OfTree Route Unwrapping Printer

variable {source : List Char} (envelope : String)

/-- Without the envelopes inside of it the node is an envelope, and comes off. -/
def comesOff (node : Node) : Bool :=
  (payload? envelope (unwrap envelope node).inner.form).isSome

lemma inner_unwrap (info : Info) (form : Form Node) :
    (unwrap envelope ⟨info, form⟩).inner = ⟨info, guardBody (form.map fun n => (unwrap envelope n).node)⟩ := by
  rw [unwrap_eq]

lemma node_unwrap (node : Node) : (unwrap envelope node).node =
    (payload? envelope (unwrap envelope node).inner.form).getD (unwrap envelope node).inner := by
  obtain ⟨info, form⟩ := node
  rw [unwrap_eq]
  rfl

lemma node_of_stays {node : Node} (h : comesOff envelope node = false) :
    (unwrap envelope node).node = (unwrap envelope node).inner := by
  rw [node_unwrap, Option.isNone_iff_eq_none.mp (Option.isSome_eq_false_iff.mp h)]
  rfl

/-- The envelopes that come off are counted. -/
lemma unwrapped_eq_countP (node : Node) :
    (unwrap envelope node).unwrapped = node.descendants.countP (comesOff envelope) := by
  induction node using node_induction with
  | h info form ih =>
    have hparts : (form.children.map fun n => (unwrap envelope n).unwrapped) =
        form.children.map fun n => n.descendants.countP (comesOff envelope) :=
      List.map_congr_left ih
    have hroot : comesOff envelope ⟨info, form⟩ =
        (payload? envelope (guardBody (form.map fun n => (unwrap envelope n).node))).isSome := by
      rw [comesOff, inner_unwrap]
      rfl
    rw [descendants_eq, List.countP_cons, hroot, Node.children, Node.form, List.countP_flatMap, unwrap_eq]
    dsimp only
    rw [hparts]
    rfl

/-! ### Payloads -/

/-- A call that comes off has one argument, and what became of that stands in its place. -/
lemma exists_argument {node : Node} (hlists : Throughout (fun n => TakesList n.form) node)
    (h : comesOff envelope node = true) : ∃ list argument, list ∈ node.children ∧ list.isVerbatim "arguments" = true ∧
      argument ∈ list.verbatimNodes ∧ (unwrap envelope node).node = (unwrap envelope argument).node := by
  obtain ⟨info, form⟩ := node
  obtain ⟨payload, hpayload⟩ := Option.isSome_iff_exists.mp h
  have hnode : (unwrap envelope ⟨info, form⟩).node = payload := by
    rw [node_unwrap, hpayload]
    rfl
  rw [inner_unwrap] at hpayload
  obtain ⟨callee, list, typeArguments, hcall, -, hlist, -⟩ := (payload?_iff envelope).mp hpayload
  have hmap := guardBody_eq_call hcall
  cases form with
  | call callee list typeArguments =>
    cases hmap
    have harguments : list.isVerbatim "arguments" = true := hlists.root callee list typeArguments rfl
    refine ⟨list, ?_⟩
    obtain ⟨listInfo, listForm⟩ := list
    cases listForm with
    | verbatim kind parts literal =>
      have hinner : (unwrap envelope ⟨listInfo, .verbatim kind parts literal⟩).node =
          ⟨listInfo, .verbatim kind (parts.map (·.map fun n => (unwrap envelope n).node)) literal⟩ := by
        rw [unwrap_eq]
        rfl
      dsimp only at hlist
      rw [hinner, Node.verbatimNodes, nodesOf_map] at hlist
      obtain ⟨argument, hargument, rfl⟩ := List.map_eq_singleton_iff.mp hlist
      refine ⟨argument, List.mem_cons_of_mem _ List.mem_cons_self, harguments, ?_, hnode⟩
      rw [Node.verbatimNodes, hargument]
      exact List.mem_singleton_self argument
    | _ => cases harguments
  | _ => cases hmap

lemma takesLists_of_intact {node : Node} (h : Throughout (IsIntact source) node) :
    Throughout (fun n => TakesList n.form) node :=
  fun n hn => (h n hn).list

lemma verbatimNodes_subset_children {node : Node} : node.verbatimNodes ⊆ node.children := by
  obtain ⟨info, form⟩ := node
  cases form with
  | verbatim => exact List.Subset.refl _
  | _ => exact List.nil_subset _

/-- What stands in the place of a node lies in the stretch that the node was read from. A payload starts later. -/
structure Narrows (node : Node) : Prop where
  place : ∀ whole ∈ node.span, ∃ span, (unwrap envelope node).node.span = some span ∧ Within span whole ∧
    (comesOff envelope node = true → whole.start < span.start)

/-- What passes from the parts of a node to the node holds throughout. -/
lemma throughout_of_parts {P Q : Node → Prop}
    (h : ∀ node, Throughout Q node → (∀ child ∈ node.children, Throughout P child) → P node) {node : Node}
    (hnode : Throughout Q node) : Throughout P node := by
  induction node using node_induction with
  | h info form ih =>
    have hchildren : ∀ child ∈ form.children, Throughout P child := fun child hchild =>
      ih child hchild (hnode.child hchild)
    exact throughout_iff.mpr ⟨h _ hnode hchildren, hchildren⟩

lemma narrows_of_intact {node : Node} (h : Throughout (IsIntact source) node) : Throughout (Narrows envelope) node := by
  refine throughout_of_parts (fun node hintact hchildren => ⟨fun whole hwhole => ?_⟩) h
  cases hoff : comesOff envelope node with
  | false =>
    refine ⟨whole, ?_, Within.refl whole, nofun⟩
    rw [node_of_stays envelope hoff]
    obtain ⟨info, form⟩ := node
    rw [inner_unwrap]
    exact hwhole
  | true =>
    obtain ⟨list, argument, hlist, harguments, hargument, hnode⟩ :=
      exists_argument envelope (takesLists_of_intact hintact) hoff
    obtain ⟨span, listSpan, hspan, hlistSpan, hlt⟩ :=
      (hintact.child hlist).root.arguments harguments argument hargument
    have hargumentMem := verbatimNodes_subset_children hargument
    obtain ⟨inner, hinner, hwithin, -⟩ := ((hchildren list hlist).child hargumentMem).root.place span hspan
    obtain ⟨outer, houter, hparts⟩ := hintact.root.parts
    obtain ⟨other, hother, hlistWithin⟩ := hparts list hlist
    obtain rfl := Option.some.inj (hwhole.symm.trans houter)
    obtain rfl := Option.some.inj (hother.symm.trans hlistSpan)
    obtain ⟨place, hplace, hplaces⟩ := (hintact.child hlist).root.parts
    obtain rfl := Option.some.inj (hplace.symm.trans hlistSpan)
    obtain ⟨argumentSpan, hargumentSpan, hargumentWithin⟩ := hplaces argument hargumentMem
    obtain rfl := Option.some.inj (hargumentSpan.symm.trans hspan)
    rw [hnode]
    refine ⟨inner, hinner, hwithin.trans (hargumentWithin.trans hlistWithin), fun _ => ?_⟩
    exact hlistWithin.start.trans_lt (hlt.trans_le hwithin.start)

/-! ### Nodes with envelopes in them -/

/-- No envelope inside of the node comes off. -/
def IsUntouched (node : Node) : Prop :=
  ∀ child ∈ node.children, ∀ n ∈ child.descendants, comesOff envelope n = false

lemma inner_of_untouched {node : Node} (h : Throughout (IsIntact source) node) (huntouched : IsUntouched envelope node) :
    (unwrap envelope node).inner = node := by
  induction node using node_induction with
  | h info form ih =>
    have hsame : (form.map fun n => (unwrap envelope n).node) = form := by
      refine (form_map_congr fun child hchild => ?_).trans (form_map_id form)
      have hstays := huntouched child hchild
      rw [node_of_stays envelope (hstays child (mem_descendants_self child))]
      exact ih child hchild (h.child hchild) fun inner hinner n hn => hstays n (mem_descendants_of_child hinner hn)
    have hguarded : guardBody form = form := h.root.body
    rw [inner_unwrap, hsame, hguarded]

/-- Parentheses around the body of an arrow function were not read. -/
lemma guardBody_cases (form : Form Node) :
    guardBody form = form ∨ ∃ child ∈ (guardBody form).children, child.isPristine = false := by
  cases form with
  | arrowFunction arrow =>
    simp only [guardBody]
    split
    · refine .inr ⟨parenthesized arrow.body, List.mem_cons_of_mem _ List.mem_cons_self, ?_⟩
      rw [isPristine_eq]
      rfl
    · exact .inl rfl
  | _ => exact .inl rfl

/-- A node with an envelope in it that comes off cannot be printed from its source text any more. -/
lemma not_isPristine_of_touched {node : Node} (h : Throughout (IsIntact source) node)
    (htouched : ∃ child ∈ node.children, ∃ n ∈ child.descendants, comesOff envelope n = true) :
    (unwrap envelope node).inner.isPristine = false := by
  induction node using node_induction with
  | h info form ih =>
    obtain ⟨child, hchild, n, hn, hoff⟩ := htouched
    by_contra hpristine
    rw [Bool.not_eq_false, inner_unwrap, isPristine_eq, Bool.and_eq_true, Bool.and_eq_true, List.all_eq_true] at hpristine
    obtain ⟨⟨-, horigin⟩, hparts⟩ := hpristine
    rcases guardBody_cases (form.map fun n => (unwrap envelope n).node) with hguarded | ⟨part, hpart, hchanged⟩
    · -- the places of the parts are those that were read, so the child was not replaced
      have hshape : form.map Node.span = form.map fun n => (unwrap envelope n).node.span := by
        have hread : info.origin = some (form.map Node.span) := h.root.origin
        have hnow : info.origin = some ((guardBody (form.map fun n => (unwrap envelope n).node)).map Node.span) :=
          of_decide_eq_true horigin
        rw [hread, hguarded, Option.some.injEq] at hnow
        exact hnow.trans (form_map_map ..)
      have hchildren := congrArg Form.children hshape
      rw [Form.children_map, Form.children_map] at hchildren
      have hsame : child.span = (unwrap envelope child).node.span := List.map_inj_left.mp hchildren child hchild
      have hstays : comesOff envelope child = false := by
        by_contra hchildOff
        obtain ⟨whole, hwhole, -⟩ := (h.child hchild).root.place
        obtain ⟨span, hspan, -, hlt⟩ := (narrows_of_intact envelope (h.child hchild)).root.place whole hwhole
        obtain rfl := Option.some.inj (hwhole.symm.trans (hsame.trans hspan))
        exact absurd (hlt (eq_true_of_ne_false hchildOff)) (Nat.lt_irrefl _)
      rcases mem_descendants.mp hn with rfl | ⟨inner, hinner, hn⟩
      · rw [hoff] at hstays
        cases hstays
      · have hchanged := ih child hchild (h.child hchild) ⟨inner, hinner, n, hn, hoff⟩
        have hpart : (unwrap envelope child).inner ∈ (guardBody (form.map fun n => (unwrap envelope n).node)).children := by
          rw [hguarded, Form.children_map, ← node_of_stays envelope hstays]
          exact List.mem_map_of_mem hchild
        rw [hparts _ hpart] at hchanged
        cases hchanged
    · rw [hparts part hpart] at hchanged
      cases hchanged

/-! ### Nodes of the result -/

/-- A node of the result is a pair of parentheses, or a node of the tree without the envelopes inside of it. -/
lemma exists_of_mem_unwrap {node n : Node} (hn : n ∈ (unwrap envelope node).node.descendants) :
    (∃ inner, n = parenthesized inner) ∨
      ∃ m ∈ node.descendants, comesOff envelope m = false ∧ n = (unwrap envelope m).inner := by
  induction node using node_induction generalizing n with
  | h info form ih =>
    have hchild {child : Node} (hchild : child ∈ (form.map fun n => (unwrap envelope n).node).children)
        (hn : n ∈ child.descendants) : (∃ inner, n = parenthesized inner) ∨
          ∃ m ∈ (⟨info, form⟩ : Node).descendants, comesOff envelope m = false ∧ n = (unwrap envelope m).inner := by
      rw [Form.children_map] at hchild
      obtain ⟨original, horiginal, rfl⟩ := List.mem_map.mp hchild
      refine (ih original horiginal hn).imp_right ?_
      rintro ⟨m, hm, hstays, heq⟩
      exact ⟨m, mem_descendants_of_child horiginal hm, hstays, heq⟩
    cases hoff : comesOff envelope ⟨info, form⟩ with
    | false =>
      have hsplit := hn
      rw [node_of_stays envelope hoff, inner_unwrap, descendants_eq] at hsplit
      rcases List.mem_cons.mp hsplit with hroot | hsplit
      · exact .inr ⟨⟨info, form⟩, mem_descendants_self _, hoff, by rw [inner_unwrap]; exact hroot⟩
      · obtain ⟨part, hpart, hpartMem⟩ := List.mem_flatMap.mp hsplit
        rcases mem_children_guardBody hpart with hpart | ⟨body, hbody, rfl⟩
        · exact hchild hpart hpartMem
        · rcases mem_descendants.mp hpartMem with rfl | ⟨only, honly, hinside⟩
          · exact .inl ⟨body, rfl⟩
          · obtain rfl : only = body := List.mem_singleton.mp honly
            exact hchild hbody hinside
    | true =>
      obtain ⟨payload, hpayload⟩ := Option.isSome_iff_exists.mp hoff
      rw [node_unwrap, hpayload, Option.getD_some] at hn
      rw [inner_unwrap] at hpayload
      obtain ⟨callee, list, typeArguments, hcall, -, hlist, -⟩ := (payload?_iff envelope).mp hpayload
      have hcall := guardBody_eq_call hcall
      have hmem : list ∈ (form.map fun n => (unwrap envelope n).node).children := by
        rw [hcall]
        exact List.mem_cons_of_mem _ List.mem_cons_self
      have hpart : payload ∈ list.children := by
        refine verbatimNodes_subset_children ?_
        rw [hlist]
        exact List.mem_singleton_self payload
      exact hchild hmem (mem_descendants_of_child hpart hn)

/-- What became of a node of the tree that is left in the result. -/
structure IsLeft (before after : Node) : Prop where
  eq : after = (unwrap envelope before).inner
  stays : comesOff envelope before = false
  untouched : (∀ n ∈ before.descendants, comesOff envelope n = false) → after = before ∧ after.isPristine = true
  touched : (∃ n ∈ before.descendants, comesOff envelope n = true) → after.isPristine = false

lemma isLeft_inner {node : Node} (h : Throughout (IsIntact source) node) (hstays : comesOff envelope node = false) :
    IsLeft envelope node (unwrap envelope node).inner where
  eq := rfl
  stays := hstays
  untouched := by
    intro huntouched
    have hsame := inner_of_untouched envelope h fun child hchild n hn => huntouched n (mem_descendants_of_child hchild hn)
    exact ⟨hsame, hsame.symm ▸ isPristine_of_intact h⟩
  touched := by
    rintro ⟨n, hn, hoff⟩
    rcases mem_descendants.mp hn with rfl | ⟨child, hchild, hn⟩
    · rw [hoff] at hstays
      cases hstays
    · exact not_isPristine_of_touched envelope h ⟨child, hchild, n, hn, hoff⟩

lemma exists_isLeft {node : Node} (h : Throughout (IsIntact source) node) :
    ∀ n ∈ (unwrap envelope node).node.descendants, (∃ inner, n = parenthesized inner) ∨
      ∃ m ∈ node.descendants, IsLeft envelope m n := by
  intro n hn
  refine (exists_of_mem_unwrap envelope hn).imp_right ?_
  rintro ⟨m, hm, hstays, rfl⟩
  exact ⟨m, hm, isLeft_inner envelope (h.below hm) hstays⟩

lemma node_of_untouched {node : Node} (h : Throughout (IsIntact source) node)
    (huntouched : ∀ n ∈ node.descendants, comesOff envelope n = false) : (unwrap envelope node).node = node := by
  rw [node_of_stays envelope (huntouched node (mem_descendants_self node))]
  exact inner_of_untouched envelope h fun child hchild n hn => huntouched n (mem_descendants_of_child hchild hn)

/-! ### Handlers -/

/-- What all parts of a node have throughout, located functions inherit. -/
lemma hereditary_children (P : Node → Prop) : Hereditary fun node => ∀ part ∈ node.children, Throughout P part where
  part h hpart _ hinner := (h _ (freeParts_subset hpart)).child hinner
  congr hform h := by
    rw [Node.children, ← hform]
    exact h

/-- A node that is as it was read prints as its source text after a text that ends in a line of its indentation. -/
lemma writeNode_of_intact {node : Node} (h : Throughout (IsIntact source) node) : ∃ span, node.span = some span ∧
    ∀ style before, Layout.column before = indentAt source span.start →
      writeNode style node before = .ok (before ++ sliceOf source span) := by
  obtain ⟨span, hspan, hraw, hindent⟩ := h.root.place
  refine ⟨span, hspan, fun style before hcolumn => ?_⟩
  exact writeNode_pristine style (isPristine_of_intact h) hraw (hcolumn ▸ hindent)

def wrappedLoader : String :=
  "export const loader = async (\x7b params \x7d) => \x7b\n  const key = keyOf(params.id);\n  return json([key, load(key)]);\n\x7d;\n"

end RouteMigration.Proofs
