import RouteMigration.Proofs.Attachments
import RouteMigration.Proofs.Conversions
import RouteMigration.Syntax.Source

/-!
# Parsed modules

Every statement of a parsed module stands for a stretch of the source, one after the other, and knows its
text there and the text in front of it.
-/

namespace RouteMigration.Proofs
open Syntax Grammar

variable {source : List Char}

/-! ### Trees in the order of the source -/

/-- A stretch of the source within another one. -/
structure Within (inner outer : Span) : Prop where
  start : outer.start ≤ inner.start
  stop : inner.stop ≤ outer.stop

/-- Trees that follow each other from an offset on. -/
inductive InOrder : Nat → List Tree → Prop where
  | nil {start : Nat} : InOrder start []
  | cons {start : Nat} {tree : Tree} {rest : List Tree} : start ≤ tree.start → InOrder tree.stop rest →
      InOrder start (tree :: rest)

lemma areNested_cons {start stop : Nat} {tree : Tree} {rest : List Tree}
    (h : Tree.areNested start stop (tree :: rest) = true) :
    start ≤ tree.start ∧ tree.isNested = true ∧ Tree.areNested tree.stop stop rest = true := by
  rw [Tree.areNested, Bool.and_eq_true, Bool.and_eq_true, decide_eq_true_eq] at h
  exact ⟨h.1.1, h.1.2, h.2⟩

lemma isNested_children {tree : Tree} (h : tree.isNested = true) :
    tree.start ≤ tree.stop ∧ Tree.areNested tree.start tree.stop tree.children = true := by
  obtain ⟨kind, named, field, span, children⟩ := tree
  rw [Tree.isNested, Bool.and_eq_true, decide_eq_true_eq] at h
  exact h

lemma le_of_areNested {start stop : Nat} {trees : List Tree} (h : Tree.areNested start stop trees = true) :
    start ≤ stop := by
  induction trees generalizing start with
  | nil => exact of_decide_eq_true h
  | cons tree rest ih =>
    obtain ⟨hstart, hnested, hrest⟩ := areNested_cons h
    have htree := (isNested_children hnested).1
    have hstop := ih hrest
    omega

/-- Nested trees lie between the two offsets. -/
lemma within_of_areNested {start stop : Nat} {trees : List Tree} (h : Tree.areNested start stop trees = true)
    {tree : Tree} (htree : tree ∈ trees) : Within tree.span ⟨start, stop⟩ ∧ tree.isNested = true := by
  induction trees generalizing start with
  | nil => cases htree
  | cons first rest ih =>
    obtain ⟨hstart, hnested, hrest⟩ := areNested_cons h
    rcases List.mem_cons.mp htree with rfl | htree
    · exact ⟨⟨hstart, le_of_areNested hrest⟩, hnested⟩
    · obtain ⟨hwithin, htree⟩ := ih hrest htree
      have hfirst := (isNested_children hnested).1
      have hafter : first.stop ≤ tree.span.start := hwithin.start
      exact ⟨⟨show start ≤ tree.span.start by omega, hwithin.stop⟩, htree⟩

lemma within_child {tree child : Tree} (h : tree.isNested = true) (hchild : child ∈ tree.children) :
    Within child.span tree.span :=
  (within_of_areNested (isNested_children h).2 hchild).1

lemma isNested_child {tree child : Tree} (hnested : tree.isNested = true) (hchild : child ∈ tree.children) :
    child.isNested = true :=
  (within_of_areNested (isNested_children hnested).2 hchild).2

lemma inOrder_of_areNested {start stop : Nat} {trees : List Tree} (h : Tree.areNested start stop trees = true) :
    InOrder start trees := by
  induction trees generalizing start with
  | nil => exact .nil
  | cons tree rest ih =>
    obtain ⟨hstart, -, hrest⟩ := areNested_cons h
    exact .cons hstart (ih hrest)

lemma InOrder.mono {start start' : Nat} {trees : List Tree} (h : InOrder start trees) (hle : start' ≤ start) :
    InOrder start' trees := by
  cases h with
  | nil => exact .nil
  | cons hstart hrest => exact .cons (by omega) hrest

/-- Trees that are left out of the order leave the others in it. -/
lemma InOrder.filter {start : Nat} {trees : List Tree} (h : InOrder start trees) (p : Tree → Bool)
    (hspans : ∀ tree ∈ trees, tree.start ≤ tree.stop) : InOrder start (trees.filter p) := by
  induction h with
  | nil => exact .nil
  | @cons start tree rest hstart _ ih =>
    have hrest := ih fun t ht => hspans t (List.mem_cons_of_mem _ ht)
    have htree := hspans tree (List.mem_cons_self ..)
    by_cases hp : p tree = true
    · rw [List.filter_cons_of_pos hp]
      exact .cons hstart hrest
    · rw [List.filter_cons_of_neg hp]
      exact hrest.mono (by omega)

lemma InOrder.le_start {start : Nat} {trees : List Tree} (h : InOrder start trees)
    (hspans : ∀ tree ∈ trees, tree.start ≤ tree.stop) : ∀ tree ∈ trees, start ≤ tree.start := by
  induction h with
  | nil => nofun
  | cons hstart _ ih =>
    intro tree htree
    rcases List.mem_cons.mp htree with rfl | htree
    · exact hstart
    · have hfirst := hspans _ (List.mem_cons_self ..)
      have hrest := ih (fun t ht => hspans t (List.mem_cons_of_mem _ ht)) tree htree
      omega

/-! ### Statements of the source -/

/-- A statement as it was read from a stretch of the source, with the text in front of it. -/
structure ReadStatement (source : List Char) (span : Span) (statement : Node) : Prop where
  place : statement.span = some span
  nonempty : span.start < span.stop
  raw : statement.info.raw = some (slice source span.start span.stop)
  indent : statement.info.indent = some (indentAt source span.start)
  comments : statement.info.comments = []
  gap : ∀ gap ∈ statement.info.gap, ∃ stop ≤ span.start, gap = slice source stop span.start
  isStatement : statement.form.isStatement = true
  faithful : Faithful statement
  part : ∀ part ∈ exportedPart? statement.form, ∃ inner, part.span = some inner ∧ Within inner span

/-- Statements that stand for stretches of the source, one after the other. -/
structure ReadStatements (source : List Char) (spans : List Span) (body : List Node) : Prop where
  statements : List.Forall₂ (ReadStatement source) spans body
  apart : spans.Pairwise fun before after => before.stop ≤ after.start

lemma ReadStatements.get {spans : List Span} {body : List Node} (h : ReadStatements source spans body) {index : Nat}
    {statement : Node} (hget : body[index]? = some statement) :
    ∃ span, spans[index]? = some span ∧ ReadStatement source span statement := by
  obtain ⟨hlength, hstatements⟩ := List.forall₂_iff_get.mp h.statements
  obtain ⟨hlt, rfl⟩ := List.getElem?_eq_some_iff.mp hget
  have hlt' : index < spans.length := by omega
  exact ⟨spans[index], List.getElem?_eq_getElem hlt', hstatements index hlt' hlt⟩

lemma ReadStatements.of_mem {spans : List Span} {body : List Node} (h : ReadStatements source spans body)
    {statement : Node} (hmem : statement ∈ body) : ∃ span, ReadStatement source span statement := by
  obtain ⟨index, hget⟩ := List.mem_iff_getElem?.mp hmem
  obtain ⟨span, -, hstatement⟩ := h.get hget
  exact ⟨span, hstatement⟩

lemma isPristine_withInfo {info : Info} {node : Node} (hraw : info.raw = node.info.raw)
    (horigin : info.origin = node.info.origin) : (node.withInfo info).isPristine = node.isPristine := by
  rw [isPristine_eq, isPristine_eq, Node.withInfo, Node.info, hraw, horigin]
  rfl

lemma faithful_withGap {gap : Option String} {node : Node} (h : Faithful node) :
    Faithful (node.withInfo { node.info with gap }) where
  printable := ⟨throughout_iff.mpr ⟨h.printable.fits.root, fun _ hchild => h.printable.fits.child hchild⟩,
    h.printable.free⟩
  pristine := (isPristine_withInfo rfl rfl).trans h.pristine

lemma readStatement_withGap {tree : Tree} (hnested : tree.isNested = true) (hnonempty : tree.start < tree.stop)
    {gap : Option String} (hgap : ∀ text ∈ gap, ∃ stop ≤ tree.start, text = slice source stop tree.start) :
    ReadStatement source tree.span
      ((OfTree.statement source tree).withInfo { (OfTree.statement source tree).info with gap }) := by
  obtain ⟨hreads, hpart⟩ := readsAs_statement source tree
  obtain ⟨form, hread⟩ := hreads.read
  refine { nonempty := hnonempty, gap := hgap, isStatement := hreads.statement,
           faithful := faithful_withGap hreads.faithful, place := ?_, raw := ?_, indent := ?_, comments := ?_, part := ?_ }
  · rw [hread]
    rfl
  · rw [hread]
    rfl
  · rw [hread]
    rfl
  · rw [hread]
    rfl
  · intro part hmem
    obtain ⟨child, hchild, hspan⟩ := hpart part hmem
    exact ⟨child.span, hspan, within_child hnested hchild⟩

/-- A first statement has no text in front of it that it knows. -/
lemma readStatement_first {tree : Tree} (hnested : tree.isNested = true) (hnonempty : tree.start < tree.stop) :
    ReadStatement source tree.span (OfTree.statement source tree) := by
  have hnone : OfTree.statement source tree =
      (OfTree.statement source tree).withInfo { (OfTree.statement source tree).info with gap := none } := by
    obtain ⟨form, hread⟩ := (readsAs_statement source tree).1.read
    rw [hread]
    rfl
  rw [hnone]
  exact readStatement_withGap hnested hnonempty nofun

lemma readStatements_statementsFrom {stop : Nat} {trees : List Tree} (horder : InOrder stop trees)
    (hnested : ∀ tree ∈ trees, tree.isNested = true) (hnonempty : ∀ tree ∈ trees, tree.start < tree.stop) :
    List.Forall₂ (ReadStatement source) (trees.map Tree.span) (OfTree.statementsFrom source stop trees) := by
  induction horder with
  | nil => exact .nil
  | @cons stop tree rest hstart _ ih =>
    have hgap : ∀ text ∈ some (slice source stop tree.start), ∃ start ≤ tree.start, text = slice source start tree.start := by
      intro text htext
      cases htext
      exact ⟨stop, hstart, rfl⟩
    have htree := readStatement_withGap (hnested tree (List.mem_cons_self ..)) (hnonempty tree (List.mem_cons_self ..)) hgap
    exact .cons htree (ih (fun t ht => hnested t (List.mem_cons_of_mem _ ht))
      fun t ht => hnonempty t (List.mem_cons_of_mem _ ht))

lemma InOrder.pairwise {start : Nat} {trees : List Tree} (h : InOrder start trees)
    (hspans : ∀ tree ∈ trees, tree.start ≤ tree.stop) :
    (trees.map Tree.span).Pairwise fun before after => before.stop ≤ after.start := by
  induction h with
  | nil => exact .nil
  | @cons start tree rest _ horder ih =>
    have hrest : ∀ t ∈ rest, t.start ≤ t.stop := fun t ht => hspans t (List.mem_cons_of_mem _ ht)
    refine List.pairwise_cons.mpr ⟨fun span hspan => ?_, ih hrest⟩
    obtain ⟨other, hother, rfl⟩ := List.mem_map.mp hspan
    exact horder.le_start hrest other hother

lemma readStatements_body {trees : List Tree} (horder : InOrder 0 trees) (hnested : ∀ tree ∈ trees, tree.isNested = true)
    (hnonempty : ∀ tree ∈ trees, tree.start < tree.stop) :
    ReadStatements source (trees.map Tree.span) (OfTree.body source trees) where
  apart := horder.pairwise fun tree htree => Nat.le_of_lt (hnonempty tree htree)
  statements := by
    cases horder with
    | nil => exact .nil
    | @cons _ tree rest _ hrest =>
      have hfirst : ReadStatement source tree.span (OfTree.statement source tree) :=
        readStatement_first (hnested tree (List.mem_cons_self ..)) (hnonempty tree (List.mem_cons_self ..))
      exact .cons hfirst (readStatements_statementsFrom hrest (fun t ht => hnested t (List.mem_cons_of_mem _ ht))
        fun t ht => hnonempty t (List.mem_cons_of_mem _ ht))

/-- The tree of a source has its statements in order, each of them some text. -/
lemma grammarParse_eq_ok {dialect : Dialect} {root : Tree} (h : Grammar.parse dialect source = .ok root) :
    root.isNested = true ∧ ∀ tree ∈ root.children, tree.start < tree.stop := by
  obtain ⟨⟨trees, rest⟩, -, h⟩ := except_bind_eq_ok h
  dsimp only at h
  split at h
  · next hchecked =>
    cases h
    rw [Bool.and_eq_true, List.all_eq_true] at hchecked
    exact ⟨hchecked.1, fun tree htree => of_decide_eq_true (hchecked.2 tree htree)⟩
  · cases h

lemma header_ofTree (path : String) (source : List Char) (root : Tree) :
    ∀ first ∈ (root.namedChildren.map Tree.span).head?, (Module.ofTree path source root).header =
      slice source 0 first.start := by
  intro first hfirst
  cases htrees : root.namedChildren with
  | nil =>
    rw [htrees] at hfirst
    cases hfirst
  | cons tree rest =>
    rw [htrees] at hfirst
    cases hfirst
    rw [Module.ofTree, htrees]
    rfl

/-- What a source that can be parsed becomes: its statements in order, below the text before the first. -/
theorem parse_eq_ok {source path : String} {module : Module} (h : Module.parse source path = .ok module) :
    ∃ spans, ReadStatements source.toList spans module.body ∧
      ∀ first ∈ spans.head?, module.header = slice source.toList 0 first.start := by
  unfold Module.parse at h
  cases hparse : Grammar.parse (.ofPath path) source.toList with
  | error offset =>
    rw [hparse] at h
    cases h
  | ok root =>
    rw [hparse] at h
    obtain rfl := Except.ok.inj h
    obtain ⟨hnested, hnonempty⟩ := grammarParse_eq_ok hparse
    have hchildren : ∀ tree ∈ root.namedChildren, tree ∈ root.children := fun _ htree => List.mem_of_mem_filter htree
    have horder : InOrder 0 root.namedChildren := by
      have hall := (inOrder_of_areNested (isNested_children hnested).2).filter Tree.isNamed fun tree htree =>
        Nat.le_of_lt (hnonempty tree htree)
      exact hall.mono (Nat.zero_le _)
    refine ⟨root.namedChildren.map Tree.span, ?_, header_ofTree path source.toList root⟩
    refine readStatements_body horder (fun tree htree => ?_) fun tree htree => hnonempty tree (hchildren tree htree)
    exact isNested_child hnested (hchildren tree htree)

end RouteMigration.Proofs
