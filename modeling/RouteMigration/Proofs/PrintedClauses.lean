import RouteMigration.Proofs.Boundaries
import RouteMigration.Proofs.ClauseEdits

/-!
# Edited clauses in print

What the text of an edited import or list of exports says, next to what it said in the source. Everything is there but
marks other than `type`, the marks in a list of exports, attributes, and a source with an escape.
-/

namespace RouteMigration.Proofs
open Syntax Route Printer
open Grammar (Tree)

/-! ### Statements and their trees -/

section Trees

variable {source : List Char}

/-- A declaration is no list of exports, and if it is an import, then of the form that its tree has. -/
lemma declaration_clause (tree : Tree) : (∀ form, import? (OfTree.declaration source tree) = some form →
    OfTree.importForm source tree = some form) ∧ localExport? (OfTree.declaration source tree) = none := by
  have hother {node : Node} (himport : import? node = none) (hexport : localExport? node = none) :
      (∀ form, import? node = some form → OfTree.importForm source tree = some form) ∧ localExport? node = none := by
    refine ⟨fun form h => ?_, hexport⟩
    rw [himport] at h
    cases h
  have hread {read? : Option Node} (himport : ∀ node ∈ read?, import? node = none)
      (hexport : ∀ node ∈ read?, localExport? node = none) :
      (∀ form, import? (read?.getD (OfTree.otherStatement source tree)) = some form →
        OfTree.importForm source tree = some form) ∧
        localExport? (read?.getD (OfTree.otherStatement source tree)) = none := by
    cases read? with
    | none => exact hother rfl rfl
    | some node => exact hother (himport node rfl) (hexport node rfl)
  unfold OfTree.declaration
  split_ifs
  · cases himport : OfTree.importForm source tree with
    | none => exact ⟨nofun, rfl⟩
    | some found => exact ⟨fun _ h => h, rfl⟩
  · refine hread (fun node hnode => ?_) fun node hnode => ?_ <;>
      obtain ⟨-, form, hform⟩ := readsAs_functionDeclaration hnode
    · rw [import?, hform]
    · rw [localExport?, hform]
  · refine hread (fun node hnode => ?_) fun node hnode => ?_ <;>
      obtain ⟨-, kind, declarators, hform⟩ := readsAs_variableDeclaration hnode
    · rw [import?, hform]
    · rw [localExport?, hform]
  · refine hread (fun node hnode => ?_) fun node hnode => ?_ <;>
      obtain ⟨-, name, tail, hform⟩ := readsAs_classDeclaration hnode
    · rw [import?, hform]
    · rw [localExport?, hform]
  · exact hother rfl rfl

lemma importForm_of_statement {tree : Tree} {form : ImportForm}
    (h : import? (OfTree.statement source tree) = some form) : OfTree.importForm source tree = some form := by
  unfold OfTree.statement at h
  split at h
  · cases hexport : OfTree.exportForm source tree with
    | none =>
      rw [hexport] at h
      cases h
    | some exported =>
      rw [hexport] at h
      unfold OfTree.exportForm at hexport
      split at hexport
      · obtain ⟨_, -, rfl⟩ := Option.map_eq_some_iff.mp hexport
        cases h
      · split at hexport
        · cases hexport
          cases h
        · obtain ⟨_, -, rfl⟩ := Option.map_eq_some_iff.mp hexport
          cases h
  · exact (declaration_clause tree).1 form h

lemma exportClause_of_statement {tree : Tree} {form : ExportForm Node}
    (h : localExport? (OfTree.statement source tree) = some form) : OfTree.exportClause source tree = some form := by
  obtain ⟨hform, hdeclaration, -⟩ := localExport?_eq_some h
  unfold OfTree.statement at h hform
  split at hform
  · cases hexport : OfTree.exportForm source tree with
    | none =>
      rw [hexport] at hform
      cases hform
    | some exported =>
      rw [hexport] at hform
      unfold OfTree.exportForm at hexport
      split at hexport
      · obtain ⟨_, -, rfl⟩ := Option.map_eq_some_iff.mp hexport
        cases hform
      · split at hexport
        · cases hexport
          cases hform
          cases hdeclaration
        · obtain ⟨_, hclause, rfl⟩ := Option.map_eq_some_iff.mp hexport
          cases hform
          exact hclause
  · next hkind =>
    rw [if_neg hkind, (declaration_clause tree).2] at h
    cases h

/-- A statement of a module was read from one of the trees, and knows the text before it. -/
lemma exists_tree_of_mem_body {trees : List Tree} {statement : Node} (h : statement ∈ OfTree.body source trees) :
    ∃ tree ∈ trees, ∃ gap, statement =
      (OfTree.statement source tree).withInfo { (OfTree.statement source tree).info with gap } := by
  have hfrom {stop : Nat} {trees : List Tree} (h : statement ∈ OfTree.statementsFrom source stop trees) :
      ∃ tree ∈ trees, ∃ gap, statement =
        (OfTree.statement source tree).withInfo { (OfTree.statement source tree).info with gap } := by
    induction trees generalizing stop with
    | nil => cases h
    | cons tree rest ih =>
      rcases List.mem_cons.mp h with rfl | h
      · exact ⟨tree, List.mem_cons_self, _, rfl⟩
      · obtain ⟨other, hother, hsame⟩ := ih h
        exact ⟨other, List.mem_cons_of_mem _ hother, hsame⟩
  cases trees with
  | nil => cases h
  | cons tree rest =>
    rcases List.mem_cons.mp h with rfl | h
    · refine ⟨tree, List.mem_cons_self, none, ?_⟩
      obtain ⟨form, hread⟩ := (readsAs_statement source tree).1.read
      rw [hread]
      rfl
    · obtain ⟨other, hother, hsame⟩ := hfrom h
      exact ⟨other, List.mem_cons_of_mem _ hother, hsame⟩

end Trees

/-! ### Statements printed anew -/

/-- A node that has another form than the one that was read. -/
def IsReshaped (node : Node) : Prop :=
  ∀ raw ∈ node.info.raw, node.info.origin ≠ some node.shape

lemma not_isPristine {node : Node} {raw : String} (h : IsReshaped node) (hraw : node.info.raw = some raw) :
    node.isPristine = false := by
  have horigin := h raw hraw
  rw [isPristine_eq, decide_eq_false horigin, Bool.and_false, Bool.false_and]

/-- A reshaped statement without comments is printed by its form. -/
lemma topLevel_reshaped {style : Style} {info : Info} {form : Form Node} {text : String}
    (hreshaped : IsReshaped ⟨info, form⟩) (hcomments : info.comments = []) (hstatement : form.isStatement = true)
    (hform : ∀ shift isRead before, byForm style shift isRead (form.map (printed style)) before = .ok (before ++ text))
    (before : String) : topLevel style ⟨info, form⟩ before = .ok (before ++ text) := by
  have halone : (writersOf style ⟨info, form⟩).alone before = .ok (before ++ text) := by
    rw [writersOf_mk]
    dsimp only [writers, Writer.after]
    cases hraw : info.raw with
    | none => exact hform _ _ before
    | some raw =>
      have hpristine := not_isPristine hreshaped hraw
      have hnode : (form.map (printed style)).map Prod.fst = form := by
        rw [form_map_map]
        exact form_map_id form
      dsimp only
      rw [hnode, if_neg (by simp [hpristine])]
      exact hform _ _ before
  simp only [topLevel, Node.info, hcomments, List.map_nil, List.nil_append, all_cons, Printer.statement, Node.form,
    hstatement, if_true, Printer.alone, halone]
  rfl

lemma topLevel_import (style : Style) {info : Info} {form : ImportForm}
    (hreshaped : IsReshaped ⟨info, .importDeclaration form⟩) (hcomments : info.comments = []) {written : WrittenImport}
    (hholds : HoldsImport form written) (before : String) : topLevel style ⟨info, .importDeclaration form⟩ before =
      .ok (before ++ (written.printed style.quote).text style) :=
  topLevel_reshaped hreshaped hcomments rfl (fun _ _ _ => by rw [← importText_of_holds style hholds]; rfl) before

lemma topLevel_export (style : Style) {info : Info} {form : ExportForm Node}
    (hreshaped : IsReshaped ⟨info, .exportNamed form⟩) (hcomments : info.comments = []) {written : WrittenExport}
    (hholds : HoldsExport form written) (before : String) : topLevel style ⟨info, .exportNamed form⟩ before =
      .ok (before ++ written.printed.text style) := by
  refine topLevel_reshaped hreshaped hcomments rfl (fun shift isRead before => ?_) before
  have hnone : (form.map (printed style)).declaration = none := by rw [ExportForm.map, hholds.declaration]; rfl
  rw [← exportClauseText_of_holds style hholds, Form.map, byForm, hnone]
  simp [Writer.all, Writer.write, bind, Except.bind, pure, Except.pure, String.append_assoc]

/-! ### What is lost -/

/-- Two imports say the same, from sources that denote the same. -/
structure SaysSame (written other : WrittenImport) : Prop where
  mark : written.mark = other.mark
  defaultName : written.defaultName = other.defaultName
  namespaceName : written.namespaceName = other.namespaceName
  names : written.names = other.names
  attributes : written.attributes = other.attributes
  source : ∀ units, Denotes written.literal.toList units ↔ Denotes other.literal.toList units

lemma typeMark_eq_iff {mark : Option String} : mark = typeMark mark ↔ ∀ text ∈ mark, text = "type" := by
  cases mark with
  | none => exact iff_of_true rfl nofun
  | some text => by_cases h : text = "type" <;> simp [typeMark, Option.filter, h]

/-- An import says the same in print just if it has no mark but `type`, no attributes and no escape in its source. -/
theorem saysSame_printed_iff {quote : Char} (hquote : quote = '\'' ∨ quote = '"') (written : WrittenImport) :
    SaysSame written (written.printed quote) ↔ (∀ mark ∈ written.mark, mark = "type") ∧
      (∀ name ∈ written.names, ∀ mark ∈ name.mark, mark = "type") ∧ written.attributes = none ∧
      '\\' ∉ written.literal.toList := by
  have hnames : written.names = written.names.map (fun name => { name with mark := typeMark name.mark }) ↔
      ∀ name ∈ written.names, ∀ mark ∈ name.mark, mark = "type" := by
    nth_rewrite 1 [← List.map_id written.names]
    rw [List.map_inj_left]
    refine forall₂_congr fun name _ => ?_
    rw [← typeMark_eq_iff]
    exact ⟨congrArg WrittenName.mark, fun h => by rw [← h]; rfl⟩
  have hsource : (∀ units, Denotes written.literal.toList units ↔
      Denotes (written.printed quote).literal.toList units) ↔ '\\' ∉ written.literal.toList := by
    rw [WrittenImport.printed, String.toList_ofList]
    exact denotes_escapedBy_iff hquote
  constructor
  · intro h
    exact ⟨typeMark_eq_iff.mp h.mark, hnames.mp h.names, h.attributes, hsource.mp h.source⟩
  · rintro ⟨hmark, hmarks, hattributes, hescape⟩
    exact ⟨typeMark_eq_iff.mpr hmark, rfl, rfl, hnames.mpr hmarks, hattributes, hsource.mpr hescape⟩

/-- A list of exports says the same in print just if it has no mark but `type`, and that on none of its names. -/
theorem eq_printed_iff (written : WrittenExport) : written = written.printed ↔
    (∀ mark ∈ written.mark, mark = "type") ∧ ∀ name ∈ written.names, name.mark = none := by
  have hnames : written.names = written.names.map (fun name => { name with mark := none }) ↔
      ∀ name ∈ written.names, name.mark = none := by
    nth_rewrite 1 [← List.map_id written.names]
    rw [List.map_inj_left]
    exact forall₂_congr fun name _ => ⟨congrArg WrittenName.mark, fun h => by rw [← h]; rfl⟩
  rw [← hnames, ← typeMark_eq_iff]
  exact ⟨fun h => ⟨congrArg WrittenExport.mark h, congrArg WrittenExport.names h⟩,
    fun h => by rw [WrittenExport.printed, ← h.1, ← h.2]⟩

/-! ### Any number of edits -/

/-- How a statement of an edited body is printed, by what its tree says. -/
inductive PrintedAs (source : List Char) (trees : List Tree) (body : List Node) (edits : List ClauseEdit)
    (style : Style)
    (statement : Node) : Prop where
  | untouched : statement ∈ body → PrintedAs source trees body edits style statement
  | imported {tree : Tree} {written : WrittenImport} : tree ∈ trees → statement.span = some tree.span →
      ImportTraced edits (writtenImport source tree) written →
      (∀ before, topLevel style statement before = .ok (before ++ (written.printed style.quote).text style)) →
      PrintedAs source trees body edits style statement
  | listed {tree : Tree} : tree ∈ trees → statement.span = some tree.span →
      (∀ before, topLevel style statement before =
        .ok (before ++ (edits.foldl WrittenExport.edited (writtenExport source tree)).printed.text style)) →
      PrintedAs source trees body edits style statement
  | made {literal : String} {written : WrittenImport} : statement.info.raw = none →
      ImportTraced edits { literal } written →
      (∀ before, topLevel style statement before = .ok (before ++ (written.printed style.quote).text style)) →
      PrintedAs source trees body edits style statement

lemma HoldsExport.foldl {form : ExportForm Node} {written : WrittenExport} (h : HoldsExport form written)
    (edits : List ClauseEdit) :
    HoldsExport (edits.foldl exportEdited form) (edits.foldl WrittenExport.edited written) := by
  induction edits generalizing form written with
  | nil => exact h
  | cons edit edits ih => exact ih (h.edited edit)

/-- A statement with another form than the one that was read, if the places of the parts tell the two apart. -/
lemma isReshaped_withForm {statement : Node} {form : Form Node} (hpristine : statement.isPristine = true)
    (hshape : form.map Node.span = statement.form.map Node.span → form = statement.form)
    (hne : statement.withForm form ≠ statement) : IsReshaped (statement.withForm form) := by
  intro raw _ horigin
  rw [isPristine_eq, Bool.and_eq_true, Bool.and_eq_true, decide_eq_true_eq] at hpristine
  have hsame : form = statement.form := hshape (Option.some.inj (horigin.symm.trans hpristine.1.2))
  exact hne (by rw [hsame]; cases statement; rfl)

/-- Lists of exports are told apart without their declarations. -/
lemma eq_of_map_span_eq {form old : ExportForm Node} (hform : form.declaration = none) (hold : old.declaration = none)
    (h : form.map Node.span = old.map Node.span) : form = old := by
  obtain ⟨declaration, specifiers, source, typeOnly⟩ := form
  obtain ⟨declaration', specifiers', source', typeOnly'⟩ := old
  obtain rfl : declaration = none := hform
  obtain rfl : declaration' = none := hold
  simpa [ExportForm.map] using h

/-- The statements of an edited module are printed as they were read, or as what is left of what their trees and the
requests say. -/
theorem applyEdits_printed {source path : String} {module : Module} (hparse : Module.parse source path = .ok module)
    {style : Style} (hquote : style.quote = '\'' ∨ style.quote = '"') (edits : List ClauseEdit) :
    ∃ root, Grammar.parse (.ofPath path) source.toList = .ok root ∧
      (∀ statement ∈ applyEdits edits module.body,
        PrintedAs source.toList root.namedChildren module.body edits style statement) ∧
      (∀ written : WrittenImport, SaysSame written (written.printed style.quote) ↔
        (∀ mark ∈ written.mark, mark = "type") ∧ (∀ name ∈ written.names, ∀ mark ∈ name.mark, mark = "type") ∧
          written.attributes = none ∧ '\\' ∉ written.literal.toList) ∧
      ∀ written : WrittenExport, written = written.printed ↔
        (∀ mark ∈ written.mark, mark = "type") ∧ ∀ name ∈ written.names, name.mark = none := by
  obtain ⟨spans, hread, -⟩ := parse_eq_ok hparse
  unfold Module.parse at hparse
  split at hparse
  · next root hroot =>
    obtain rfl := Except.ok.inj hparse
    refine ⟨root, hroot, fun statement hmem => ?_, saysSame_printed_iff hquote, eq_printed_iff⟩
    by_cases huntouched : statement ∈ (Module.ofTree path source.toList root).body
    · exact .untouched huntouched
    rcases nodeTraced_applyEdits hmem with ⟨origin, horigin, htraced⟩ | hmade
    · obtain ⟨tree, htree, gap, hsame⟩ := exists_tree_of_mem_body horigin
      obtain ⟨span, hstatement⟩ := hread.of_mem horigin
      have hform : origin.form = (OfTree.statement source.toList tree).form := by rw [hsame]; rfl
      have hspan : origin.span = some tree.span := by
        rw [hsame]
        exact (readsAs_statement source.toList tree).1.span
      have hne {form : Form Node} (h : statement = origin.withForm form) : origin.withForm form ≠ origin :=
        fun heq => huntouched (by rw [h, heq]; exact horigin)
      cases htraced with
      | @imported form form' himport hholds =>
        have horiginForm : origin.form = .importDeclaration form := by rw [← withForm_of_import himport]; rfl
        have hreading := importForm_of_statement ((import?_congr hform).symm.trans himport)
        obtain ⟨written, hwritten, hholds'⟩ := hholds _ (importForm_holds hreading)
        have hreshaped := isReshaped_withForm hstatement.faithful.pristine
          (fun hshape => by
            rw [horiginForm] at hshape ⊢
            rw [Form.importDeclaration.inj hshape]) (hne rfl)
        exact .imported htree hspan hwritten (topLevel_import style hreshaped hstatement.comments hholds')
      | @exported form hlist =>
        obtain ⟨horiginForm, hdeclaration, hsource⟩ := localExport?_eq_some hlist
        have hlist' : localExport? (OfTree.statement source.toList tree) = some form := by
          rw [← hlist, localExport?, localExport?, hform]
        have hholds := (exportClause_holds (exportClause_of_statement hlist') hsource).foldl edits
        have hreshaped := isReshaped_withForm hstatement.faithful.pristine (fun hshape => by
          rw [horiginForm] at hshape ⊢
          rw [eq_of_map_span_eq hholds.declaration hdeclaration (Form.exportNamed.inj hshape)]) (hne rfl)
        exact .listed htree hspan (topLevel_export style hreshaped hstatement.comments hholds)
      | other => exact absurd horigin huntouched
    · obtain ⟨literal, form, written, rfl, htraced, hholds⟩ := hmade
      exact .made rfl htraced (topLevel_import style (fun _ hraw => by cases hraw) rfl hholds)
  · cases hparse

/-- An import with an escape in its source and an attribute, and a list of exports with a mark on a name. -/
def escapedPage : String :=
  "import \x7b x, type Y \x7d from 'it\\'s' with \x7b type: 'json' \x7d;\n\nexport \x7b type Y, z \x7d;\n"

/-- Removals of one name from each of them. -/
def escapedPageEdits : List ClauseEdit :=
  [.remove (fun _ => true) "x", .unlist ["z"]]

theorem escapedPage_printed : ∃ module root, Module.parse escapedPage "routes/a.tsx" = .ok module ∧
    Grammar.parse (.ofPath "routes/a.tsx") escapedPage.toList = .ok root ∧
    printModule {} (module.withBody (applyEdits escapedPageEdits module.body)) =
      .ok "import \x7b type Y \x7d from 'it\\\\\\'s';\n\nexport \x7b Y \x7d;\n" ∧
    ∀ statement ∈ applyEdits escapedPageEdits module.body,
      PrintedAs escapedPage.toList root.namedChildren module.body escapedPageEdits {} statement := by
  have hrun : ((Module.parse escapedPage "routes/a.tsx").toOption.any fun module =>
      (printModule {} (module.withBody (applyEdits escapedPageEdits module.body))).toOption.any
        (· = "import \x7b type Y \x7d from 'it\\\\\\'s';\n\nexport \x7b Y \x7d;\n")) = true := by decide +kernel
  obtain ⟨module, hparse, hrun⟩ := exists_of_any_toOption hrun
  obtain ⟨text, hprint, htext⟩ := exists_of_any_toOption hrun
  obtain rfl := of_decide_eq_true htext
  obtain ⟨root, hroot, hprinted, -⟩ := @applyEdits_printed _ _ _ hparse {} (.inl rfl) escapedPageEdits
  exact ⟨module, root, hparse, hroot, hprint, hprinted⟩

end RouteMigration.Proofs
