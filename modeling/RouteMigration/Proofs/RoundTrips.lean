import Mathlib.Data.List.Chain
import RouteMigration.Proofs.SourceFidelity
import RouteMigration.Proofs.Utf8Texts

/-!
# Round trips

A module that nothing has touched prints as its source. Up to each statement the text is the source up to there, so
the statement starts in the column it had and prints as it was read; before the first statement stands the header
and below the last one the trailer. What stands between two statements is only kept if it breaks the line.
-/

namespace RouteMigration.Proofs
open Syntax Grammar Printer

/-- The text of the source between two places. -/
def textBetween (source : List Char) (previous next : Option Span) : String :=
  slice source ((previous.map Span.stop).getD 0) ((next.map Span.start).getD 0)

/-- Between a statement and the next one, the source breaks the line. -/
def LinesApart (source : List Char) (body : List Node) : Prop :=
  (body.map Node.span).IsChain fun previous next => '\n' ∈ (textBetween source previous next).toList

instance (source : List Char) (body : List Node) : Decidable (LinesApart source body) :=
  inferInstanceAs (Decidable (List.IsChain _ _))

variable {source : List Char} {style : Style}

/-- A statement of a source, with the text in front of it that it knows. -/
def readBelow (source : List Char) (gap : Option String) (tree : Tree) : Node :=
  (OfTree.statement source tree).withInfo { (OfTree.statement source tree).info with gap }

lemma span_readBelow (gap : Option String) (tree : Tree) : (readBelow source gap tree).span = some tree.span :=
  (readsAs_statement source tree).1.span

lemma statementsFrom_cons (stop : Nat) (tree : Tree) (rest : List Tree) :
    OfTree.statementsFrom source stop (tree :: rest) =
      readBelow source (some (slice source stop tree.start)) tree :: OfTree.statementsFrom source tree.stop rest :=
  rfl

lemma body_cons (tree : Tree) (rest : List Tree) :
    OfTree.body source (tree :: rest) = readBelow source none tree :: OfTree.statementsFrom source tree.stop rest := by
  obtain ⟨⟨form, hread⟩, -, -⟩ := (readsAs_statement source tree).1
  rw [OfTree.body, readBelow, hread]
  rfl

/-- The source up to an offset goes on with the text between this and the next one. -/
lemma ofList_take_append {stop start : Nat} (h : stop ≤ start) :
    String.ofList (source.take stop) ++ slice source stop start = String.ofList (source.take start) := by
  rw [take_eq_slice source h, String.ofList_append, String.ofList_toList]

/-- A statement below the source up to it prints as the source up to its end. -/
lemma topLevel_readBelow {tree : Tree} (horder : tree.start ≤ tree.stop) (gap : Option String) :
    topLevel style (readBelow source gap tree) (String.ofList (source.take tree.start)) =
      .ok (String.ofList (source.take tree.stop)) := by
  obtain ⟨⟨form, hread⟩, hstatement, hwasRead⟩ := (readsAs_statement source tree).1
  have hpristine : (readBelow source gap tree).isPristine = true := (faithful_withGap hwasRead.faithful).pristine
  have hcolumn : indentAt source tree.start = Layout.column (String.ofList (source.take tree.start)) := by
    rw [Layout.column, String.toList_ofList, indentAt]
  rw [← ofList_take_append horder]
  apply topLevel_of_pristine hpristine
  · rw [readBelow, hread]
    rfl
  · rw [readBelow, hread]
    exact congrArg some hcolumn
  · rw [readBelow, hread]
    rfl
  · exact hstatement

/-- What stands before a statement is kept if it breaks the line. -/
lemma gapText_readBelow (previous : Node) {gap : String} (tree : Tree) (hbreak : '\n' ∈ gap.toList) :
    gapText previous (readBelow source (some gap) tree) = gap :=
  if_pos (List.contains_iff_mem.mpr hbreak)

/-- Where the last of the trees stops, if there is one. -/
def lastStop (stop : Nat) (trees : List Tree) : Nat :=
  (trees.getLast?.map Tree.stop).getD stop

lemma lastStop_cons (stop : Nat) (tree : Tree) (rest : List Tree) :
    lastStop stop (tree :: rest) = lastStop tree.stop rest := by
  cases rest with
  | nil => rfl
  | cons next rest => rw [lastStop, lastStop, List.getLast?_cons_cons]; rfl

/-- Below the source up to the end of a statement, the statements that follow print as the source up to theirs. -/
lemma all_following {previous : Node} {place : Span} (hplace : previous.span = some place) {trees : List Tree}
    (horder : InOrder place.stop trees) (hspans : ∀ tree ∈ trees, tree.start ≤ tree.stop)
    (hlines : LinesApart source (previous :: OfTree.statementsFrom source place.stop trees)) :
    Writer.all (following style previous (OfTree.statementsFrom source place.stop trees))
      (String.ofList (source.take place.stop)) =
        .ok (String.ofList (source.take (lastStop place.stop trees))) := by
  induction trees generalizing previous place with
  | nil => rfl
  | cons tree rest ih =>
    obtain - | ⟨hstart, horder⟩ := horder
    have htree := hspans tree (List.mem_cons_self ..)
    rw [statementsFrom_cons] at hlines ⊢
    obtain ⟨hbreak, hlines⟩ := List.isChain_cons_cons.mp hlines
    rw [hplace, span_readBelow] at hbreak
    have hgap : gapText previous (readBelow source (some (slice source place.stop tree.start)) tree) =
        slice source place.stop tree.start := gapText_readBelow previous tree hbreak
    have hrest := ih (span_readBelow _ tree) horder (fun t ht => hspans t (List.mem_cons_of_mem _ ht)) hlines
    rw [following, all_cons, Writer.write, hgap, ofList_take_append hstart]
    change Writer.all (topLevel style _ :: _) _ = _
    rw [all_cons, topLevel_readBelow htree, lastStop_cons]
    exact hrest

/-- The statements of a source below the text before the first of them print as the source up to the last. -/
lemma all_body {first : Tree} {rest : List Tree} (horder : InOrder 0 (first :: rest))
    (hspans : ∀ tree ∈ first :: rest, tree.start ≤ tree.stop)
    (hlines : LinesApart source (OfTree.body source (first :: rest))) :
    Writer.all (bodyWriters style (OfTree.body source (first :: rest))) (String.ofList (source.take first.start)) =
      .ok (String.ofList (source.take (lastStop 0 (first :: rest)))) := by
  obtain - | ⟨-, horder⟩ := horder
  rw [body_cons] at hlines ⊢
  rw [bodyWriters, all_cons, topLevel_readBelow (hspans first (List.mem_cons_self ..)), lastStop_cons]
  exact all_following (span_readBelow none first) horder (fun t ht => hspans t (List.mem_cons_of_mem _ ht)) hlines

lemma inOrder_namedChildren {root : Tree} (hnested : root.isNested = true) :
    InOrder 0 root.namedChildren ∧ ∀ tree ∈ root.namedChildren, tree.start ≤ tree.stop := by
  have hchildren := (isNested_children hnested).2
  have hspans : ∀ tree ∈ root.children, tree.start ≤ tree.stop := fun tree htree =>
    (isNested_children (within_of_areNested hchildren htree).2).1
  have horder := (inOrder_of_areNested hchildren).filter Tree.isNamed hspans
  exact ⟨horder.mono (Nat.zero_le _), fun tree htree => hspans tree (List.mem_of_mem_filter htree)⟩

/-- A module prints as its source, whatever trees stand for its statements, if these are nested and a line break
stands between every two of them. -/
theorem printModule_ofTree (path : String) {root : Tree} (hnested : root.isNested = true)
    (hlines : LinesApart source (Module.ofTree path source root).body) :
    printModule style (Module.ofTree path source root) = .ok (String.ofList source) := by
  obtain ⟨horder, hspans⟩ := inOrder_namedChildren hnested
  have hwhole (stop : Nat) : String.ofList (source.take stop) ++ slice source stop source.length =
      String.ofList source := by
    have hall : (source.drop stop).take (source.length - stop) = source.drop stop := by
      rw [← List.length_drop, List.take_length]
    rw [slice, ← String.ofList_append, hall, List.take_append_drop]
  rw [printModule, all_append, all_cons, Module.ofTree]
  rw [Module.ofTree] at hlines
  dsimp only at hlines ⊢
  cases htrees : root.namedChildren with
  | nil => exact congrArg Except.ok (hwhole 0)
  | cons first rest =>
    rw [htrees] at horder hspans hlines
    have hheader : "" ++ slice source 0 first.start = String.ofList (source.take first.start) :=
      ofList_take_append (Nat.zero_le _)
    have hbody {style : Style} : Writer.all (bodyWriters style (OfTree.body source (first :: rest)))
        (String.ofList (source.take first.start)) = _ := all_body horder hspans hlines
    rw [Writer.write, List.isEmpty_cons, if_neg Bool.false_ne_true]
    change (Writer.all _ ("" ++ slice source 0 first.start) >>= _) = _
    rw [hheader, hbody]
    exact congrArg Except.ok (hwhole _)

/-- Printing undoes parsing if a line break stands between every two statements, for a tree of the parser as for any
other one whose nodes are nested. Offsets count characters, and bytes stand for the same texts. -/
theorem printModule_parse (source path : String) (style : Style) :
    (∀ module, Module.parse source path = .ok module → LinesApart source.toList module.body →
      printModule style module = .ok source) ∧
    (∀ root : Tree, root.isNested = true → LinesApart source.toList (Module.ofTree path source.toList root).body →
      printModule style (Module.ofTree path source.toList root) = .ok source) ∧
    ∀ start stop, start ≤ stop →
      Text.Utf8.decode (bytesBetween source.toList start stop) = .ok (slice source.toList start stop).toList := by
  have htree (root : Tree) (hnested : root.isNested = true)
      (hlines : LinesApart source.toList (Module.ofTree path source.toList root).body) :
      printModule style (Module.ofTree path source.toList root) = .ok source := by
    rw [printModule_ofTree path hnested hlines, String.ofList_toList]
  refine ⟨fun module hparse hlines => ?_, htree, fun start stop h => ?_⟩
  · unfold Module.parse at hparse
    split at hparse
    · next root hroot =>
      obtain rfl := Except.ok.inj hparse
      exact htree root (grammarParse_eq_ok hroot).1 hlines
    · cases hparse
  · rw [bytesBetween_eq source.toList h, decode_encode]

/-- A page in more than one script, with tabs, a template and text below the last statement. -/
def umlautPage : String :=
  "\n// Größe\nconst a = 1;\n\n\tfunction f() \x7b\n\t\treturn \x60\n $\x7ba\x7d €\x60;\n\t\x7d\n\n\n"

theorem umlautPage_printed : ∃ module, Module.parse umlautPage "a.tsx" = .ok module ∧ module.body.length = 3 ∧
    LinesApart umlautPage.toList module.body ∧ printModule {} module = .ok umlautPage := by
  have hrun : ((Module.parse umlautPage "a.tsx").toOption.any fun module =>
      decide (module.body.length = 3) && decide (LinesApart umlautPage.toList module.body)) = true := by decide +kernel
  obtain ⟨module, hparse, hrun⟩ := exists_of_any_toOption hrun
  rw [Bool.and_eq_true, decide_eq_true_eq, decide_eq_true_eq] at hrun
  obtain ⟨hlength, hlines⟩ := hrun
  exact ⟨module, hparse, hlength, hlines, (printModule_parse umlautPage "a.tsx" {}).1 module hparse hlines⟩

end RouteMigration.Proofs
