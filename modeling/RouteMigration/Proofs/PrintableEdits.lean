import RouteMigration.Proofs.Extractions

/-!
# Rewritings of printable trees

Everything that a migration makes of a printable tree is printable again: taking envelopes off, turning a
function into a property, and all the changes of statements.
-/

namespace RouteMigration.Proofs
open Syntax Route

/-! ### Printable trees from printable parts -/

lemma printable_congr {a b : Node} (h : a.form = b.form) : Printable a ↔ Printable b := by
  constructor
  · rintro ⟨hfits, hfree⟩
    exact ⟨(throughout_congr h).mp hfits, h ▸ hfree⟩
  · rintro ⟨hfits, hfree⟩
    exact ⟨(throughout_congr h).mpr hfits, h ▸ hfree⟩

/-- A form of printable parts makes a printable tree. -/
lemma printable_of_form {node : Node} {form : Form Node} (hform : node.form = form)
    (hconstruct : isConstruct form = true) (hproperty : isProperty form = false)
    (hparts : ∀ part ∈ form.children, Printable part)
    (hstatements : ∀ part ∈ statementParts form, part.form.isStatement = true) : Printable node := by
  subst hform
  refine ⟨throughout_iff.mpr ⟨⟨hconstruct, fun part hpart => ?_, hstatements⟩, fun part hpart => ?_⟩, hproperty⟩
  · exact (hparts part (freeParts_subset hpart)).free
  · exact (hparts part hpart).fits

lemma printable_of_ordinary {node : Node} {form : Form Node} (hform : node.form = form)
    (hordinary : isOrdinary form = true) (hparts : ∀ part ∈ form.children, Printable part) : Printable node := by
  obtain ⟨hconstruct, hproperty, hstatements⟩ := isOrdinary_eq_true hordinary
  refine printable_of_form hform hconstruct hproperty hparts ?_
  rw [hstatements]
  exact List.forall_mem_nil _

lemma Printable.part {node part : Node} (h : Printable node) (hpart : part ∈ freeParts node.form) : Printable part where
  fits := h.fits.child (freeParts_subset hpart)
  free := h.fits.root.free part hpart

lemma hereditary_printable : Hereditary Printable where
  part := Printable.part
  congr h := (printable_congr h).mp

/-! ### Envelopes -/

section Unwrapping

variable (envelope : String)

lemma unwrap_mk (info : Info) (form : Form Node) :
    unwrap envelope ⟨info, form⟩ = Unwrapping.step envelope info (form.map fun n => (n, unwrap envelope n)) := by
  rw [unwrap, Node.fold_mk]

lemma isProperty_map {f : Node → Node} (form : Form Node) : isProperty (form.map f) = isProperty form := by
  cases form <;> rfl

lemma isConstruct_map {f : Node → Node} (form : Form Node) : isConstruct (form.map f) = isConstruct form := by
  cases form <;> rfl

lemma isStatement_map {f : Node → Node} (form : Form Node) : (form.map f).isStatement = form.isStatement := by
  cases form <;> rfl

lemma freeParts_map (f : Node → Node) (form : Form Node) : freeParts (form.map f) = (freeParts form).map f := by
  have hchildren := Form.children_map f form
  cases form <;> first | rfl | exact hchildren

lemma statementParts_map (f : Node → Node) (form : Form Node) :
    statementParts (form.map f) = (statementParts form).map f := by
  cases form with
  | exportNamed form => exact Option.toList_map ..
  | _ => rfl

/-- Other parts fit into the same places when they are statements and no properties where the first ones are. -/
lemma Fits.map {f : Node → Node} {form : Form Node} (h : Fits form)
    (hproperty : ∀ n ∈ form.children, isProperty n.form = false → isProperty (f n).form = false)
    (hstatement : ∀ n ∈ form.children, n.form.isStatement = true → (f n).form.isStatement = true) :
    Fits (form.map f) where
  construct := (isConstruct_map form).trans h.construct
  free := by
    intro part hpart
    rw [freeParts_map] at hpart
    obtain ⟨n, hn, rfl⟩ := List.mem_map.mp hpart
    exact hproperty n (freeParts_subset hn) (h.free n hn)
  statements := by
    intro part hpart
    rw [statementParts_map] at hpart
    obtain ⟨n, hn, rfl⟩ := List.mem_map.mp hpart
    have hchild : n ∈ form.children := by
      cases form <;> first | exact hn | cases hn
    exact hstatement n hchild (h.statements n hn)

/-- A part of a tree may give way to the other one: a property to a property, a statement to a statement. -/
structure Replaces (node result : Node) : Prop where
  fits : Throughout (fun n => Fits n.form) result
  free : isProperty node.form = false → isProperty result.form = false
  statement : node.form.isStatement = true → result.form.isStatement = true

lemma Replaces.printable {node result : Node} (h : Replaces node result) (hnode : Printable node) : Printable result :=
  ⟨h.fits, h.free hnode.free⟩

lemma printable_parenthesized {node : Node} (h : Printable node) : Printable (Unwrapping.parenthesized node) := by
  refine printable_of_ordinary rfl rfl (fun part hpart => ?_)
  rw [List.mem_singleton.mp hpart]
  exact h

/-- Parentheses around the body of an arrow function keep the tree as it should be. -/
lemma replaces_guardBody {info : Info} {form : Form Node} (h : Throughout (fun n => Fits n.form) ⟨info, form⟩) :
    Replaces ⟨info, form⟩ ⟨info, Unwrapping.guardBody form⟩ := by
  have hsame : Replaces ⟨info, form⟩ ⟨info, form⟩ := ⟨h, id, id⟩
  cases form with
  | arrowFunction arrow =>
    rw [Unwrapping.guardBody]
    split
    · have hpart {part : Node} (hpart : part ∈ arrow.children) : Printable part :=
        ⟨h.child hpart, h.root.free part hpart⟩
      have hguarded : Printable ⟨info, .arrowFunction { arrow with body := Unwrapping.parenthesized arrow.body }⟩ := by
        refine printable_of_ordinary rfl rfl (fun part hmem => ?_)
        rcases List.mem_cons.mp hmem with rfl | hmem
        · exact hpart (List.mem_cons_self ..)
        · rcases List.mem_cons.mp hmem with rfl | hmem
          · exact printable_parenthesized (hpart (List.mem_cons_of_mem _ (List.mem_cons_self ..)))
          · exact hpart (List.mem_cons_of_mem _ (List.mem_cons_of_mem _ hmem))
      exact ⟨hguarded.fits, id, id⟩
    · exact hsame
  | _ => exact hsame

lemma printable_of_payload {form : Form Node} {payload : Node} {info : Info}
    (h : Throughout (fun n => Fits n.form) ⟨info, form⟩) (hpayload : Unwrapping.payload? envelope form = some payload) :
    Printable payload := by
  have hmem : payload ∈ Unwrapping.envelopeArguments envelope form := by
    unfold Unwrapping.payload? at hpayload
    split at hpayload
    · next found hfound =>
      split at hpayload
      · cases hpayload
      · cases hpayload
        rw [hfound]
        exact List.mem_singleton_self _
    · cases hpayload
  cases form with
  | call callee arguments typeArguments =>
    by_cases hcallee : callee.identifier? = some envelope
    · rw [Unwrapping.envelopeArguments, if_pos hcallee] at hmem
      have hpart := mem_freeParts_of_verbatimNodes hmem
      have harguments : Throughout (fun n => Fits n.form) arguments :=
        h.child (List.mem_cons_of_mem callee (List.mem_cons_self ..))
      exact ⟨harguments.child (freeParts_subset hpart), harguments.root.free payload hpart⟩
    · rw [Unwrapping.envelopeArguments, if_neg hcallee] at hmem
      cases hmem
  | _ => cases hmem

/-- An envelope is a call and no statement. -/
lemma isStatement_of_payload {form : Form Node} {payload : Node} (h : Unwrapping.payload? envelope form = some payload) :
    form.isStatement = false := by
  cases form <;> first | rfl | cases h

/-- Without the envelopes, a tree is as it should be. -/
theorem replaces_unwrap {node : Node} (h : Throughout (fun n => Fits n.form) node) :
    Replaces node (unwrap envelope node).inner ∧ Replaces node (unwrap envelope node).node := by
  induction node using node_induction with
  | h info form ih =>
    let mapped := form.map fun n => (unwrap envelope n).node
    have hmapped : (form.map fun n => (n, unwrap envelope n)).map (fun p => p.2.node) = mapped := form_map_map ..
    have hparts (n : Node) (hn : n ∈ form.children) : Replaces n (unwrap envelope n).node := (ih n hn (h.child hn)).2
    have hfits : Throughout (fun n => Fits n.form) ⟨info, mapped⟩ := by
      refine throughout_iff.mpr ⟨Fits.map h.root (fun n hn => (hparts n hn).free) fun n hn => (hparts n hn).statement, ?_⟩
      intro part hpart
      rw [Node.children, Node.form, Form.children_map] at hpart
      obtain ⟨n, hn, rfl⟩ := List.mem_map.mp hpart
      exact (hparts n hn).fits
    have hguard := replaces_guardBody hfits
    have hinner : Replaces ⟨info, form⟩ ⟨info, Unwrapping.guardBody mapped⟩ :=
      { fits := hguard.fits
        free := fun hproperty => hguard.free ((isProperty_map form).trans hproperty)
        statement := fun hstatement => hguard.statement ((isStatement_map form).trans hstatement) }
    rw [unwrap_mk]
    unfold Unwrapping.step
    dsimp only
    rw [hmapped]
    refine ⟨hinner, ?_⟩
    cases hpayload : Unwrapping.payload? envelope (Unwrapping.guardBody mapped) with
    | none => exact hinner
    | some payload =>
      have hprintable := printable_of_payload envelope hguard.fits hpayload
      refine ⟨hprintable.fits, fun _ => hprintable.free, fun hstatement => ?_⟩
      have hkept : (Unwrapping.guardBody mapped).isStatement = true := hinner.statement hstatement
      rw [isStatement_of_payload envelope hpayload] at hkept
      cases hkept

lemma printable_unwrap {node : Node} (h : Printable node) :
    Printable (unwrap envelope node).inner ∧ Printable (unwrap envelope node).node :=
  have hreplaces := replaces_unwrap envelope h.fits
  ⟨hreplaces.1.printable h, hreplaces.2.printable h⟩

end Unwrapping

/-! ### Handlers -/

lemma printable_mapParenthesized {f : Node → Node} (hf : ∀ node, Printable node → Printable (f node)) {node : Node}
    (h : Printable node) : Printable (mapParenthesized f node) := by
  induction node using node_induction with
  | h info form ih =>
    have hsame : (⟨info, (form.map fun n => (n, mapParenthesized f n)).map Prod.fst⟩ : Node) = ⟨info, form⟩ := by
      rw [map_fst_map_pair]
    rw [mapParenthesized, Node.fold_mk, ← mapParenthesized]
    cases form with
    | verbatim kind parts literal =>
      dsimp only [Form.map] at hsame ⊢
      split
      · refine printable_of_ordinary rfl rfl (fun part hpart => ?_)
        have hinner : part ∈ (nodesOf parts).map (mapParenthesized f) := by
          have hmap := hpart
          dsimp only [Node.form, Form.children] at hmap
          rwa [nodesOf_map, nodesOf_map, List.map_map] at hmap
        obtain ⟨n, hn, rfl⟩ := List.mem_map.mp hinner
        exact ih n hn (h.part hn)
      · rw [hsame]
        exact hf _ h
    | _ =>
      dsimp only [Form.map] at hsame ⊢
      rw [hsame]
      exact hf _ h

lemma printable_block {statements : List Node} (h : ∀ statement ∈ statements, Printable statement)
    (hstatements : ∀ statement ∈ statements, statement.form.isStatement = true) : Printable (.make (.block statements)) :=
  printable_of_form rfl rfl rfl h hstatements

lemma printable_asBlock {body : Node} (h : Printable body) : Printable (asBlock body) := by
  unfold asBlock
  split
  · exact h
  · have hreturn : Printable (.make (.returnStatement (some (stripParentheses body)))) := by
      refine printable_of_ordinary rfl rfl (fun part hpart => ?_)
      rw [List.mem_singleton.mp hpart]
      exact hereditary_printable.stripParentheses h
    refine printable_block (fun statement hstatement => ?_) fun statement hstatement => ?_
    · rw [List.mem_singleton.mp hstatement]
      exact hreturn
    · rw [List.mem_singleton.mp hstatement]
      rfl

lemma printable_leftBody (envelope : String) {body : Node} (h : Printable body) : Printable (leftBody envelope body) := by
  unfold leftBody
  split
  · exact (printable_unwrap envelope h).2
  · exact printable_mapParenthesized (fun node hnode => (printable_unwrap envelope hnode).1) h

/-- The parameters and the body of a function are parts of it. -/
lemma signature_parts {node : Node} {signature : Signature} (h : Signature.ofNode? node = some signature) :
    signature.params ∈ freeParts node.form ∧ ∀ body ∈ signature.body, body ∈ freeParts node.form := by
  have hfunction (form : FunctionForm Node) : form.params ∈ form.children ∧ ∀ body ∈ form.body, body ∈ form.children :=
    ⟨List.mem_cons_self .., fun body hbody => by simp_all [FunctionForm.children]⟩
  obtain ⟨info, form⟩ := node
  cases form with
  | arrowFunction arrow =>
    cases h
    refine ⟨List.mem_cons_self .., fun body hbody => ?_⟩
    cases hbody
    exact List.mem_cons_of_mem _ (List.mem_cons_self ..)
  | functionExpression form =>
    cases h
    exact hfunction form
  | functionDeclaration form =>
    cases h
    exact hfunction form
  | _ => cases h

/-- The signature of a printable function has printable parts. -/
lemma printable_signature {node : Node} {signature : Signature} (h : Printable node)
    (hsignature : Signature.ofNode? node = some signature) :
    Printable signature.params ∧ ∀ body ∈ signature.body, Printable body :=
  ⟨h.part (signature_parts hsignature).1, fun body hbody => h.part ((signature_parts hsignature).2 body hbody)⟩

lemma printable_replace {node params : Node} {body : Option Node} (h : Printable node) (hparams : Printable params)
    (hbody : ∀ b ∈ body, Printable b) : Printable (Signature.replace params body node) := by
  have hfunction {form : FunctionForm Node} (hparts : ∀ part ∈ form.children, Printable part) :
      ∀ part ∈ FunctionForm.children { form with params, body }, Printable part := by
    intro part hpart
    simp only [FunctionForm.children, List.cons_append, List.mem_cons, List.mem_append, Option.mem_toList] at hpart
    rcases hpart with rfl | (hpart | hpart) | hpart
    · exact hparams
    · exact hbody part hpart
    · exact hparts part (by simp [FunctionForm.children, hpart])
    · exact hparts part (by simp [FunctionForm.children, hpart])
  obtain ⟨info, form⟩ := node
  unfold Signature.replace
  split
  · next arrow hform =>
    cases hform
    refine printable_of_ordinary rfl rfl (fun part hpart => ?_)
    rcases List.mem_cons.mp hpart with rfl | hpart
    · exact hparams
    · rcases List.mem_cons.mp hpart with rfl | hpart
      · cases body with
        | none => exact h.part (List.mem_cons_of_mem _ (List.mem_cons_self ..))
        | some b => exact hbody b rfl
      · exact h.part (List.mem_cons_of_mem _ (List.mem_cons_of_mem _ hpart))
  · next form hform =>
    cases hform
    exact printable_of_ordinary rfl rfl (hfunction fun part hpart => h.part hpart)
  · next form hform =>
    cases hform
    exact printable_of_ordinary rfl rfl (hfunction fun part hpart => h.part hpart)
  · exact h

lemma printable_unwrapFunction (envelope : String) {node : Node} (h : Printable node) :
    Printable (unwrapFunction envelope node).node := by
  unfold unwrapFunction
  split
  · exact h
  · next signature hsignature =>
    obtain ⟨hparams, hbody⟩ := printable_signature h hsignature
    refine printable_replace h (printable_unwrap envelope hparams).2 fun b hb => ?_
    rw [Option.map_map] at hb
    obtain ⟨body, hmem, rfl⟩ := Option.map_eq_some_iff.mp hb
    exact (printable_unwrap envelope (hbody body hmem)).2

lemma printable_anonymous {params body : Node} (hparams : Printable params) (hbody : Printable body)
    (isAsync isGenerator : Bool) : Printable (anonymous params body isAsync isGenerator) := by
  unfold anonymous
  split
  · refine printable_of_ordinary rfl rfl (fun part hpart => ?_)
    rcases List.mem_pair.mp hpart with rfl | rfl
    · exact hparams
    · exact hbody
  · refine printable_of_ordinary rfl rfl (fun part hpart => ?_)
    rcases List.mem_pair.mp hpart with rfl | rfl
    · exact hparams
    · exact hbody

/-- Of a printable function, what moves into a property is printable, and so is what is left behind. -/
theorem printable_extract {settings : Settings} {kind : Kind} {located : Located} {handler : Handler}
    (h : extract? settings kind located = some handler) (hfunction : Printable located.function) :
    Printable handler.value ∧ Printable handler.source := by
  obtain ⟨signature, hsignature, h⟩ := Option.bind_eq_some_iff.mp h
  obtain ⟨body, hbody, h⟩ := Option.bind_eq_some_iff.mp h
  obtain ⟨hparams, hbodies⟩ := printable_signature hfunction hsignature
  have hblock := printable_asBlock (hbodies body hbody)
  have hleft : ∀ b ∈ some (leftBody settings.envelope body), Printable b := by
    intro b hb
    cases hb
    exact printable_leftBody settings.envelope (hbodies body hbody)
  have hoffered : Printable (.make (.parameters [.node (.make (.objectPattern settings.loaderParams))] none)) := by
    refine printable_of_ordinary rfl rfl (fun part hpart => ?_)
    rw [List.mem_singleton.mp hpart]
    exact printable_of_ordinary rfl rfl (List.forall_mem_nil _)
  cases h
  cases kind with
  | page =>
    exact ⟨printable_unwrapFunction _ (printable_anonymous hoffered hblock _ _),
      printable_replace hfunction hparams hleft⟩
  | resource =>
    exact ⟨printable_unwrapFunction _ (printable_anonymous hparams hblock _ _),
      printable_replace hfunction (printable_unwrap _ hparams).2 hleft⟩

end RouteMigration.Proofs
