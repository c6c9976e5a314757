import RouteMigration.Proofs.ReworkedHandlers

/-!
# Comments in trees

The comments that a migration writes are kept beside the nodes that they stand above. What was read from a source
has none, since its own comments are part of its text, and none of the rewritings of a tree brings one in.
-/

namespace RouteMigration.Proofs
open Syntax Route Unwrapping

/-- The comments of a node and of everything below it, in order. -/
def commentsOf (node : Node) : List String :=
  node.descendants.flatMap (·.info.comments)

/-- No comment has been written into the tree. -/
def CommentFree (node : Node) : Prop :=
  commentsOf node = []

theorem commentsOf_eq (node : Node) :
    commentsOf node = node.info.comments ++ node.children.flatMap commentsOf := by
  rw [commentsOf, descendants_eq, List.flatMap_cons, List.flatMap_assoc]
  rfl

theorem commentFree_iff {node : Node} :
    CommentFree node ↔ node.info.comments = [] ∧ ∀ part ∈ node.children, CommentFree part := by
  rw [CommentFree, commentsOf_eq, List.append_eq_nil_iff, List.flatMap_eq_nil_iff]
  rfl

/-- Above parts without comments, the comments are those of the node itself. -/
lemma commentsOf_of_parts {node : Node} (h : ∀ part ∈ node.children, CommentFree part) :
    commentsOf node = node.info.comments := by
  rw [commentsOf_eq, List.flatMap_eq_nil_iff.mpr h, List.append_nil]

lemma CommentFree.part {node part : Node} (h : CommentFree node) (hpart : part ∈ node.children) : CommentFree part :=
  (commentFree_iff.mp h).2 part hpart

lemma commentFree_make {form : Form Node} (h : ∀ part ∈ form.children, CommentFree part) : CommentFree (.make form) :=
  commentFree_iff.mpr ⟨rfl, h⟩

/-- A tree may get other parts and another record, if they bring no comments in. -/
lemma CommentFree.rework {a b : Node} (h : CommentFree a) (hown : b.info.comments = a.info.comments)
    (hparts : ∀ part ∈ b.children, CommentFree part) : CommentFree b :=
  commentFree_iff.mpr ⟨hown.trans (commentFree_iff.mp h).1, hparts⟩

lemma CommentFree.rework_subset {a b : Node} (h : CommentFree a) (hown : b.info.comments = a.info.comments)
    (hparts : b.children ⊆ a.children) : CommentFree b :=
  h.rework hown fun _ hpart => h.part (hparts hpart)

lemma WasRead.commentFree {source : List Char} {node : Node} (h : WasRead source node) : CommentFree node := by
  induction h with
  | read span _ _ ih => exact commentFree_iff.mpr ⟨rfl, ih⟩

/-! ### Functions that were located -/

/-- Giving a node other parts brings no comments in, nor does making one. -/
lemma reworkable_commentFree : Reworkable CommentFree where
  part := CommentFree.part
  rework h _ hparts := h.rework rfl hparts
  make _ hparts := commentFree_make hparts

/-- What is taken out of a function without comments has none. -/
theorem commentFree_extract {settings : Settings} {kind : Kind} {located : Located} {handler : Handler}
    (h : extract? settings kind located = some handler)
    (hfunction : ∀ part ∈ located.function.children, CommentFree part) : CommentFree handler.value :=
  reworkable_commentFree.extract h hfunction

/-! ### Statements -/

lemma commentFree_exportNamed {node : Node} {form : ExportForm Node} (h : CommentFree node)
    (hform : node.form = .exportNamed form) : ∀ declaration ∈ form.declaration, CommentFree declaration := by
  intro declaration hdeclaration
  refine h.part ?_
  rw [Node.children, hform]
  exact Option.mem_toList.mpr hdeclaration

lemma commentFree_unlist (names : List String) {statement : Node} (h : CommentFree statement) :
    CommentFree (unlist names statement) := by
  rcases unlist_cases names statement with hsame | ⟨form, -, hnone, -, hunlist⟩
  · rwa [hsame]
  · rw [hunlist]
    refine h.rework rfl fun part hpart => ?_
    have hmem : part ∈ (withoutExports names form).declaration := Option.mem_toList.mp hpart
    rw [withoutExports, hnone] at hmem
    cases hmem

lemma commentFree_eraseSpecifier (index : Nat) {statement : Node} (h : CommentFree statement) :
    CommentFree (eraseSpecifier index statement) := by
  rcases eraseSpecifier_cases index statement with hsame | ⟨form, hform, herase⟩
  · rwa [hsame]
  · rw [herase]
    exact h.rework rfl fun part hpart => commentFree_exportNamed h hform part (Option.mem_toList.mp hpart)

lemma commentFree_withoutExport {statement : Node} (h : CommentFree statement) :
    CommentFree (withoutExport statement) := by
  unfold withoutExport Draft.unexported
  split
  · next form hform =>
    cases hdeclaration : form.declaration with
    | none => exact h
    | some declaration =>
      have hinner := commentFree_exportNamed h hform declaration hdeclaration
      exact h.rework rfl fun part hpart => hinner.part hpart
  · exact h

lemma commentFree_mapDeclaration {f : Node → Node}
    (hf : ∀ declaration, CommentFree declaration → CommentFree (f declaration)) {statement : Node}
    (h : CommentFree statement) : CommentFree (Draft.mapDeclaration f statement) := by
  unfold Draft.mapDeclaration
  split
  · next form hform =>
    refine h.rework rfl fun part hpart => ?_
    obtain ⟨declaration, hdeclaration, rfl⟩ := Option.map_eq_some_iff.mp (Option.mem_toList.mp hpart)
    exact hf declaration (commentFree_exportNamed h hform declaration hdeclaration)
  · exact hf statement h

lemma commentFree_eraseDeclarator (index : Nat) {statement : Node} (h : CommentFree statement) :
    CommentFree (Draft.eraseDeclarator index statement) := by
  unfold Draft.eraseDeclarator
  refine commentFree_mapDeclaration (fun declaration hdeclaration => ?_) h
  split
  · next kind declarators hform =>
    refine hdeclaration.rework_subset rfl fun part hpart => ?_
    rw [Node.children, hform]
    exact (List.eraseIdx_sublist ..).subset hpart
  · exact hdeclaration

lemma commentFree_variableOf (name : String) : CommentFree (variableOf name) :=
  commentFree_make (List.forall_mem_nil _)

lemma commentFree_constant (name : String) {value : Node} (h : CommentFree value) :
    CommentFree (constant name value) := by
  refine commentFree_make fun part hpart => ?_
  obtain rfl := List.mem_singleton.mp hpart
  refine commentFree_make fun part hpart => ?_
  rcases List.mem_pair.mp hpart with rfl | rfl
  · exact commentFree_variableOf name
  · exact h

lemma commentFree_inlineStatement (fresh : String) {statement : Node} (h : CommentFree statement) :
    CommentFree (inlineStatement fresh statement).1 := by
  rcases exportDefault_or_other statement with ⟨declaration, hform⟩ | hother
  · have hdeclaration : CommentFree declaration := h.part (by
      rw [Node.children, hform]
      exact List.mem_singleton_self declaration)
    obtain ⟨hinline, -⟩ := inlineStatement_default fresh hform
    have hown : (inlineStatement fresh statement).1.info.comments = statement.info.comments := by
      rw [inlineStatement, hform]
      rfl
    refine h.rework hown fun part hpart => ?_
    rw [Node.children, hinline] at hpart
    rcases inlineComponent_cases fresh declaration with ⟨form, hfunction, hcomponent, -⟩ |
      ⟨name, tail, hclass, hcomponent, -⟩ | ⟨-, -, hcomponent⟩
    · rw [hcomponent] at hpart
      refine hdeclaration.part ?_
      rw [Node.children, hfunction]
      exact hpart
    · rw [hcomponent] at hpart
      refine hdeclaration.part ?_
      rw [Node.children, hclass]
      exact hpart
    · rw [hcomponent] at hpart
      exact (commentFree_constant fresh hdeclaration).part hpart
  · rwa [inlineStatement_other fresh hother]

/-! ### Parsed modules -/

variable {source path : String} {module : Module}

/-- The statements of a parsed module have no comments beside them or below. -/
theorem commentFree_of_parse (hparse : Module.parse source path = .ok module) :
    ∀ statement ∈ module.body, CommentFree statement := by
  intro statement hstatement
  obtain ⟨spans, hread, -⟩ := parse_eq_ok hparse
  obtain ⟨span, hstatementRead⟩ := hread.of_mem hstatement
  obtain ⟨trees, hbody⟩ := body_of_parse hparse
  rw [hbody] at hstatement
  obtain ⟨tree, -, hform⟩ := form_of_mem_body hstatement
  refine commentFree_iff.mpr ⟨hstatementRead.comments, fun part hpart => ?_⟩
  rw [Node.children, hform] at hpart
  exact (readsAs_statement source.toList tree).1.wasRead.commentFree.part hpart

lemma commentFree_locate {name : String} {located : Located} (hbody : ∀ statement ∈ module.body, CommentFree statement)
    (h : locate module.body name = some located) : ∀ part ∈ located.function.children, CommentFree part :=
  reworkable_commentFree.hereditary.locate (fun statement hstatement => (commentFree_iff.mp (hbody statement hstatement)).2) h

end RouteMigration.Proofs
