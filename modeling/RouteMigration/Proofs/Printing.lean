import RouteMigration.Proofs.Trees
import RouteMigration.Syntax.Printer

/-!
# Printing

A writer that does not fail leaves the text before it alone and adds to it. Every tree prints in this way
in which each part fits into its place: only the parts of an object literal are properties, and only
statements stand in a block or below an export.
-/

namespace RouteMigration.Proofs
open Syntax Printer

/-! ### All nodes of a tree -/

lemma form_map_map {α β γ : Type} (f : α → β) (g : β → γ) (form : Form α) :
    (form.map f).map g = form.map fun a => g (f a) := by
  have hparts (parts : List (Piece α)) :
      (parts.map (·.map f)).map (·.map g) = parts.map (·.map fun a => g (f a)) := by
    rw [List.map_map]
    refine List.map_congr_left fun part _ => ?_
    cases part <;> rfl
  cases form <;> simp [Form.map, ArrowForm.map, FunctionForm.map, ExportForm.map, hparts, Function.comp_def]

lemma form_map_id (form : Form Node) : (form.map fun n => n) = form := by
  have hparts (parts : List (Piece Node)) : (parts.map (·.map fun n => n)) = parts := by
    rw [List.map_congr_left (g := id), List.map_id]
    intro part _
    cases part <;> rfl
  cases form <;> simp [Form.map, ArrowForm.map, FunctionForm.map, ExportForm.map, hparts]

lemma map_fst_map_pair {β : Type} (f : Node → β) (form : Form Node) :
    (form.map fun n => (n, f n)).map Prod.fst = form := by
  rw [form_map_map]
  exact form_map_id form

theorem descendants_eq (node : Node) : node.descendants = node :: node.children.flatMap Node.descendants := by
  obtain ⟨info, form⟩ := node
  rw [Node.descendants, Node.fold_mk, map_fst_map_pair, Form.children_map, map_snd_map_pair, ← List.flatMap_def]
  rfl

lemma mem_descendants {node n : Node} :
    n ∈ node.descendants ↔ n = node ∨ ∃ child ∈ node.children, n ∈ child.descendants := by
  rw [descendants_eq, List.mem_cons, List.mem_flatMap]

lemma mem_descendants_self (node : Node) : node ∈ node.descendants :=
  mem_descendants.mpr (.inl rfl)

lemma mem_descendants_of_child {node child n : Node} (hchild : child ∈ node.children) (hn : n ∈ child.descendants) :
    n ∈ node.descendants :=
  mem_descendants.mpr (.inr ⟨child, hchild, hn⟩)

lemma mem_descendants_trans {node middle inner : Node} (hmiddle : middle ∈ node.descendants)
    (hinner : inner ∈ middle.descendants) : inner ∈ node.descendants := by
  induction node using node_induction with
  | h info form ih =>
    rcases mem_descendants.mp hmiddle with rfl | ⟨child, hchild, hmiddle⟩
    · exact hinner
    · exact mem_descendants_of_child hchild (ih child hchild hmiddle)

/-- A property of the node and of all nodes below it. -/
def Throughout (P : Node → Prop) (node : Node) : Prop :=
  ∀ n ∈ node.descendants, P n

variable {P : Node → Prop}

theorem throughout_iff {node : Node} :
    Throughout P node ↔ P node ∧ ∀ child ∈ node.children, Throughout P child := by
  unfold Throughout
  rw [descendants_eq]
  simp only [List.mem_cons, List.mem_flatMap, forall_eq_or_imp, forall_exists_index, and_imp]
  exact and_congr_right fun _ => ⟨fun h child hc n hn => h n child hc hn, fun h n child hc hn => h child hc n hn⟩

lemma Throughout.root {node : Node} (h : Throughout P node) : P node :=
  (throughout_iff.mp h).1

lemma Throughout.child {node child : Node} (h : Throughout P node) (hchild : child ∈ node.children) :
    Throughout P child :=
  (throughout_iff.mp h).2 child hchild

/-- A property of forms that holds throughout a tree holds throughout any other of the same form. -/
lemma throughout_congr {P : Form Node → Prop} {a b : Node} (h : a.form = b.form) :
    Throughout (fun n => P n.form) a ↔ Throughout (fun n => P n.form) b := by
  rw [throughout_iff, throughout_iff, Node.children, Node.children, h]

/-! ### Writers that do not fail -/

/-- The writer adds something to every text. -/
def Appends (writer : Writer) : Prop :=
  ∀ before, ∃ added, writer before = .ok (before ++ added)

lemma all_cons (writer : Writer) (writers : List Writer) (before : String) :
    Writer.all (writer :: writers) before = writer before >>= Writer.all writers := by
  rw [Writer.all, List.foldlM_cons]
  rfl

lemma appends_write (text : String) : Appends (Writer.write text) :=
  fun _ => ⟨text, rfl⟩

lemma appends_nil : Appends (Writer.all []) :=
  fun before => ⟨"", by rw [String.append_empty]; rfl⟩

lemma appends_cons {writer : Writer} {writers : List Writer} (h : Appends writer)
    (hs : Appends (Writer.all writers)) : Appends (Writer.all (writer :: writers)) := by
  intro before
  obtain ⟨first, hfirst⟩ := h before
  obtain ⟨rest, hrest⟩ := hs (before ++ first)
  refine ⟨first ++ rest, ?_⟩
  rw [all_cons, hfirst, ← String.append_assoc]
  exact hrest

lemma appends_all {writers : List Writer} (h : ∀ writer ∈ writers, Appends writer) :
    Appends (Writer.all writers) := by
  induction writers with
  | nil => exact appends_nil
  | cons writer writers ih =>
    have hfirst := h writer (List.mem_cons_self ..)
    exact appends_cons hfirst (ih fun w hw => h w (List.mem_cons_of_mem _ hw))

lemma appends_pair {first second : Writer} (h : Appends first) (h' : Appends second) :
    Appends (Writer.all [first, second]) :=
  appends_cons h (appends_cons h' appends_nil)

lemma appends_after {writer : String → Writer} (h : ∀ before, Appends (writer before)) :
    Appends (Writer.after writer) :=
  fun before => h before before

lemma mem_intersperse {α : Type} {separator a : α} {l : List α} (h : a ∈ l.intersperse separator) :
    a ∈ l ∨ a = separator := by
  induction l with
  | nil => exact .inl h
  | cons b l ih =>
    cases l with
    | nil => exact .inl h
    | cons c l =>
      rw [List.intersperse_cons_cons] at h
      simp only [List.mem_cons] at h ih ⊢
      tauto

lemma appends_separated (separator : String) {writers : List Writer} (h : ∀ writer ∈ writers, Appends writer) :
    Appends (Writer.separated separator writers) := by
  refine appends_all fun writer hwriter => ?_
  rcases mem_intersperse hwriter with hmem | rfl
  · exact h writer hmem
  · exact appends_write separator

/-- An entry between braces, on a line of its own below its comments. -/
def entryWriter (indent : Nat) (entry : List String × Writer) : Writer :=
  Writer.all (entry.1.map (fun comment => Writer.all [Writer.newline indent, Writer.write comment]) ++
    [Writer.newline indent, entry.2])

lemma bracedLines_of_ne {style : Style} {entries : List (List String × Writer)} (hne : entries ≠ []) (before : String) :
    bracedLines style entries before = Writer.all (Writer.write "\x7b" ::
      entries.map (entryWriter (Layout.column before + style.indent)) ++
        [Writer.newline (Layout.column before), Writer.write "\x7d"]) before := by
  unfold bracedLines
  rw [if_neg (by simpa using hne)]
  rfl

lemma appends_entryWriter (indent : Nat) {entry : List String × Writer} (h : Appends entry.2) :
    Appends (entryWriter indent entry) := by
  refine appends_all fun writer hwriter => ?_
  rcases List.mem_append.mp hwriter with hcomment | hown
  · obtain ⟨comment, -, rfl⟩ := List.mem_map.mp hcomment
    exact appends_pair (appends_write _) (appends_write _)
  · rcases List.mem_pair.mp hown with rfl | rfl
    · exact appends_write _
    · exact h

lemma appends_bracedLines (style : Style) {entries : List (List String × Writer)}
    (h : ∀ entry ∈ entries, Appends entry.2) : Appends (bracedLines style entries) := by
  by_cases hne : entries = []
  · subst hne
    exact appends_write _
  intro before
  rw [bracedLines_of_ne hne]
  refine appends_all (fun writer hwriter => ?_) before
  rcases List.mem_append.mp hwriter with hline | hend
  · rcases List.mem_cons.mp hline with rfl | hline
    · exact appends_write _
    · obtain ⟨entry, hentry, rfl⟩ := List.mem_map.mp hline
      exact appends_entryWriter _ (h entry hentry)
  · rcases List.mem_pair.mp hend with rfl | rfl
    · exact appends_write _
    · exact appends_write _

/-! ### Nodes that fit into their places -/

/-- An entry of an object literal, which prints in its place only. -/
def isProperty : Form Node → Bool
  | .property _ _ => true
  | _ => false

/-- The parts of a form that print by themselves. -/
def freeParts : Form Node → List Node
  | .objectExpression _ => []
  | form => form.children

lemma freeParts_subset {form : Form Node} : freeParts form ⊆ form.children := by
  intro n hn
  cases form <;> first | exact hn | cases hn

lemma mem_freeParts_of_verbatimNodes {node part : Node} (h : part ∈ node.verbatimNodes) : part ∈ freeParts node.form := by
  obtain ⟨info, form⟩ := node
  cases form <;> first | exact h | cases h

/-- The parts of a form that have to be statements. -/
def statementParts : Form Node → List Node
  | .block statements => statements
  | .exportNamed form => form.declaration.toList
  | _ => []

/-- A form of some construct. -/
def isConstruct : Form Node → Bool
  | .bare | .bareStatement => false
  | _ => true

/-- A construct that prints by itself and has no places for statements. -/
def isOrdinary (form : Form Node) : Bool :=
  isConstruct form && !isProperty form && (statementParts form).isEmpty

lemma isOrdinary_eq_true {form : Form Node} (h : isOrdinary form = true) :
    isConstruct form = true ∧ isProperty form = false ∧ statementParts form = [] := by
  rw [isOrdinary, Bool.and_eq_true, Bool.and_eq_true, Bool.not_eq_true', List.isEmpty_iff] at h
  exact ⟨h.1.1, h.1.2, h.2⟩

/-- A form of some construct whose parts fit into their places. -/
structure Fits (form : Form Node) : Prop where
  construct : isConstruct form = true
  free : ∀ part ∈ freeParts form, isProperty part.form = false
  statements : ∀ part ∈ statementParts form, part.form.isStatement = true

/-- A tree that prints by itself. -/
structure Printable (node : Node) : Prop where
  fits : Throughout (fun n => Fits n.form) node
  free : isProperty node.form = false

lemma writersOf_mk (style : Style) (info : Info) (form : Form Node) :
    writersOf style ⟨info, form⟩ = writers style info (form.map fun n => (n, writersOf style n)) := by
  rw [writersOf, Node.fold_mk]

/-- A part with its writers. -/
abbrev printed (style : Style) (node : Node) : Printed :=
  (node, writersOf style node)

end RouteMigration.Proofs
