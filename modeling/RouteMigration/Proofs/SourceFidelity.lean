import RouteMigration.Migration
import RouteMigration.Proofs.Places
import RouteMigration.Proofs.PrintedModules

/-!
# Source fidelity

The text of a migrated module repeats every bystander as the source has it, provided that no line of a
statement was indented: the statement is as it was read, and so is the indentation of the line it starts on.
-/

namespace RouteMigration.Proofs
open Syntax Route Printer

/-! ### Lines -/

lemma lastLine_append {first second : List Char} (h : '\n' ∈ second) :
    Text.lastLine (first ++ second) = Text.lastLine second := by
  have hbreak : ¬ (second.reverse.takeWhile (· ≠ '\n')).length = second.reverse.length := by
    intro hlength
    have hall := (List.takeWhile_prefix (p := fun c => decide (c ≠ '\n')) (l := second.reverse)).eq_of_length hlength
    have hmem : '\n' ∈ second.reverse.takeWhile (· ≠ '\n') := by
      rw [hall]
      exact List.mem_reverse.mpr h
    simpa using List.mem_takeWhile_imp hmem
  unfold Text.lastLine
  rw [List.reverse_append, List.takeWhile_append, if_neg hbreak]

lemma column_append {above gap : String} (h : '\n' ∈ gap.toList) :
    Layout.column (above ++ gap) = Text.indentation (Text.lastLine gap.toList) := by
  rw [Layout.column, String.toList_append, lastLine_append h]

lemma take_eq_slice (source : List Char) {stop start : Nat} (h : stop ≤ start) :
    source.take start = source.take stop ++ (slice source stop start).toList := by
  rw [slice, String.toList_ofList, ← List.take_add, Nat.add_sub_of_le h]

/-- After the text in front of it in the source, a statement starts in the column it had. -/
lemma column_slice (source : List Char) {stop start : Nat} (h : stop ≤ start) (above : String)
    (hbreak : '\n' ∈ (slice source stop start).toList) :
    Layout.column (above ++ slice source stop start) = indentAt source start := by
  rw [column_append hbreak, indentAt, take_eq_slice source h, lastLine_append hbreak]

/-! ### Statements as they were read -/

/-- A node that is as it was read prints as its source text, if it starts in the column it had. -/
lemma writeNode_pristine (style : Style) {node : Node} {raw before : String} (hpristine : node.isPristine = true)
    (hraw : node.info.raw = some raw) (hindent : node.info.indent = some (Layout.column before)) :
    writeNode style node before = .ok (before ++ raw) := by
  obtain ⟨info, form⟩ := node
  have hsame : (⟨info, (form.map (printed style)).map Prod.fst⟩ : Node) = ⟨info, form⟩ := by
    rw [map_fst_map_pair]
  have hraw : info.raw = some raw := hraw
  have hindent : info.indent = some (Layout.column before) := hindent
  rw [writeNode, writersOf_mk]
  dsimp only [writers, Writer.after]
  rw [hraw, hindent, hsame]
  split
  · rfl
  · next hchanged => exact absurd ⟨hpristine, Int.sub_self _⟩ hchanged

variable {style : Style}

/-- A statement that is as it was read, without comments of its own, adds its source text. -/
lemma topLevel_of_pristine {statement : Node} {raw before : String} (hpristine : statement.isPristine = true)
    (hraw : statement.info.raw = some raw) (hindent : statement.info.indent = some (Layout.column before))
    (hcomments : statement.info.comments = []) (hstatement : statement.form.isStatement = true) :
    topLevel style statement before = .ok (before ++ raw) := by
  have hwrite := writeNode_pristine style hpristine hraw hindent
  rw [topLevel, hcomments, List.map_nil, List.nil_append, all_cons, Printer.statement, if_pos hstatement]
  rw [writeNode] at hwrite
  rw [alone, hwrite]
  rfl

lemma topLevel_pristine {source : List Char} {span : Span} {statement : Node} {before : String}
    (h : ReadStatement source span statement) (hcolumn : Layout.column before = indentAt source span.start) :
    topLevel style statement before = .ok (before ++ slice source span.start span.stop) :=
  topLevel_of_pristine h.faithful.pristine h.raw (by rw [hcolumn, h.indent]) h.comments h.isStatement

/-! ### Bystanders -/

/-- The statement is printed as the source has it, below the statements before it and on a line of its own: the
text that sets it apart from them has a line break, and it is an empty line or what stands there in the source. -/
def PrintedAsRead (source : String) (style : Style) (module : Module) (text : String) (before : List Node)
    (statement : Node) : Prop :=
  ∃ span above gap below, statement.span = some span ∧
    printModule style { module with body := before, trailer := "" } = .ok above ∧
    text = above ++ gap ++ slice source.toList span.start span.stop ++ below ∧
    (before = [] → gap = "") ∧
    (before ≠ [] → '\n' ∈ gap.toList ∧ (gap = "\n\n" ∨ statement.info.gap = some gap))

/-- No statement starts on a line that is indented. -/
def FlushLeft (source : String) (module : Module) : Prop :=
  ∀ statement ∈ module.body, ∀ span ∈ statement.span, indentAt source.toList span.start = 0

lemma standard_bystander (previous : Node) {statement : Node} (h : isBystander statement = true) :
    gapText.standard previous statement = "\n\n" := by
  have himport : Printer.isImport statement = false := by
    unfold Printer.isImport
    split
    · next form hform =>
      rw [isBystander, hform] at h
      cases h
    · rfl
  rw [gapText.standard, himport, Bool.and_false]
  rfl

lemma gapText_bystander (previous : Node) {statement : Node} (h : isBystander statement = true) :
    gapText previous statement = "\n\n" ∨ statement.info.gap = some (gapText previous statement) := by
  have hstandard := standard_bystander previous h
  unfold gapText
  split
  · next gap hgap =>
    split
    · exact .inr hgap
    · exact .inl hstandard
  · exact .inl hstandard

section Printed

variable {source : String} {module result : Module} {spans : List Span}

/-- What sets a statement apart from the one before it ends in an unindented line, if the statement started one. -/
lemma column_gapText {statement : Node} {span : Span} (hstatement : ReadStatement source.toList span statement)
    (hindent : indentAt source.toList span.start = 0) (previous : Node) (above : String) :
    Layout.column (above ++ gapText previous statement) = 0 := by
  have hstandard : Layout.column (above ++ gapText.standard previous statement) = 0 := by
    unfold gapText.standard
    split
    · rw [column_append (by decide)]
      rfl
    · rw [column_append (by decide)]
      rfl
  unfold gapText
  split
  · next gap hgap =>
    split
    · next hbreak =>
      have hbreak : '\n' ∈ gap.toList := List.contains_iff_mem.mp hbreak
      obtain ⟨stop, hle, rfl⟩ := hstatement.gap gap hgap
      rw [column_slice _ hle _ hbreak, hindent]
    · exact hstandard
  · exact hstandard

/-- The text above a statement that started an unindented line ends in such a line, unless the statement is the first
below a header that does not. -/
lemma column_gapBelow {before : List Node} {statement : Node} {span : Span} {above : String}
    (hstatement : ReadStatement source.toList span statement) (hindent : indentAt source.toList span.start = 0)
    (hfirst : before = [] → Layout.column module.header = 0)
    (habove : printModule style { module with body := before, trailer := "" } = .ok above) :
    Layout.column (above ++ gapBelow before statement) = indentAt source.toList span.start := by
  rw [hindent]
  cases before with
  | nil =>
    have hempty : above ++ gapBelow [] statement = module.header := by
      cases habove
      rw [gapBelow, List.getLast?_nil, Option.map_none, Option.getD_none, String.append_empty, String.append_empty,
        String.empty_append]
    rw [hempty, hfirst rfl]
  | cons other before =>
    have hgap : ∃ previous, gapBelow (other :: before) statement = gapText previous statement :=
      ⟨_, by rw [gapBelow, List.getLast?_cons]; rfl⟩
    obtain ⟨previous, hprevious⟩ := hgap
    rw [hprevious]
    exact column_gapText hstatement hindent previous above

/-- The header of a module that has a statement ends in the line of the first one. -/
lemma column_header (hread : ReadStatements source.toList spans module.body)
    (hheader : ∀ first ∈ spans.head?, module.header = slice source.toList 0 first.start)
    (hflush : FlushLeft source module) {statement : Node} (hmem : statement ∈ module.body) :
    Layout.column module.header = 0 := by
  have hlt : 0 < module.body.length := List.length_pos_of_mem hmem
  obtain ⟨first, hfirst, hat⟩ := hread.get (List.getElem?_eq_getElem hlt)
  have hcolumn := hflush _ (List.getElem_mem hlt) first hat.place
  rw [hheader first (by rw [List.head?_eq_getElem?]; exact hfirst), Layout.column, slice, String.toList_ofList]
  exact hcolumn

/-- A statement that is as it was read, and starts in the column it had, adds its source text. -/
lemma printedApart_slice {result : Module} {text : String}
    (hprintable : ∀ statement ∈ result.body, PrintableStatement statement)
    (htext : printModule style result = .ok text) {before after : List Node} {statement : Node} {span : Span}
    (hbody : result.body = before ++ statement :: after) (hstatement : ReadStatement source.toList span statement)
    (hindent : indentAt source.toList span.start = 0) (hfirst : before = [] → Layout.column result.header = 0) :
    ∃ above below, printModule style { result with body := before, trailer := "" } = .ok above ∧
      printModule style { result with body := before ++ [statement], trailer := "" } =
        .ok (above ++ gapBelow before statement ++ slice source.toList span.start span.stop) ∧
      text = above ++ gapBelow before statement ++ slice source.toList span.start span.stop ++ below := by
  obtain ⟨above, own, below, habove, hown, htext, -⟩ := printedApart hprintable htext hbody
  have hcolumn := column_gapBelow hstatement hindent hfirst habove
  have hslice := printModule_concat habove (topLevel_pristine hstatement hcolumn)
  refine ⟨above, below, habove, hslice, ?_⟩
  rw [htext, Except.ok.inj (hown.symm.trans hslice)]

/-- A bystander in a printable body is printed as it was read. -/
theorem printedAsRead (hread : ReadStatements source.toList spans module.body)
    (hheader : ∀ first ∈ spans.head?, module.header = slice source.toList 0 first.start)
    (hflush : FlushLeft source module) {body : List Node} {text : String}
    (hprintable : ∀ statement ∈ body, PrintableStatement statement)
    (htext : printModule style (module.withBody body) = .ok text) {before after : List Node} {statement : Node}
    (hbody : body = before ++ statement :: after) (hmem : statement ∈ bystanders module) :
    PrintedAsRead source style (module.withBody body) text before statement := by
  obtain ⟨index, hget, hbystander, -⟩ := mem_bystanders.mp hmem
  obtain ⟨span, -, hstatement⟩ := hread.get hget
  have hsource : statement ∈ module.body := List.mem_of_getElem? hget
  have hcolumn : Layout.column module.header = 0 := column_header hread hheader hflush hsource
  obtain ⟨above, below, habove, -, htext⟩ := printedApart_slice hprintable htext hbody hstatement
    (hflush statement hsource span hstatement.place) fun _ => hcolumn
  refine ⟨span, above, gapBelow before statement, below, hstatement.place, habove, htext, ?_,
    fun hne => ⟨gapBelow_breaks hne statement, ?_⟩⟩
  · rintro rfl
    rfl
  · rw [gapBelow, List.getLast?_eq_some_getLast hne]
    exact gapText_bystander _ hbystander

end Printed

/-! ### Migrations -/

lemma printable_of_readStatements {source : List Char} {spans : List Span} {body : List Node}
    (h : ReadStatements source spans body) : ∀ statement ∈ body, PrintableStatement statement := by
  intro statement hstatement
  obtain ⟨span, hread⟩ := h.of_mem hstatement
  exact ⟨hread.faithful.printable, hread.isStatement⟩

lemma printable_migrated {settings : Settings} {source path : String} {module : Module} {migrated : Migrated}
    (hparse : Module.parse source path = .ok module) (h : migrate settings module = .ok migrated) {kind : Kind}
    {routePath : String} {advisories : List String}
    (hfinal : migrated.outcome = .finalized kind routePath advisories) :
    ∀ statement ∈ migrated.module.body, PrintableStatement statement := by
  obtain ⟨spans, hread, -⟩ := parse_eq_ok hparse
  obtain ⟨draft, hdraft, hmodule⟩ := finalized_eq h hfinal
  rw [hmodule]
  exact printable_finish ((draftOf_eq_ok hdraft).printable (printable_of_readStatements hread))

/-- A migration of a parsed module leaves every bystander where it was among the others, once and unchanged, and
the text of the migrated module has it as the source does, on a line of its own. -/
theorem migrate_bystanders {settings : Settings} {source path : String} {module : Module} {migrated : Migrated}
    (hparse : Module.parse source path = .ok module) (hflush : FlushLeft source module)
    (h : migrate settings module = .ok migrated) {kind : Kind} {routePath : String} {advisories : List String}
    (hfinal : migrated.outcome = .finalized kind routePath advisories) (style : Style) :
    ((bystanders module).map Node.span).Nodup ∧
      migrated.module.body.filter (atPlaces ((bystanders module).map Node.span)) = bystanders module ∧
      ∃ text, printModule style migrated.module = .ok text ∧
        ∀ before statement after, migrated.module.body = before ++ statement :: after →
          statement ∈ bystanders module → PrintedAsRead source style migrated.module text before statement := by
  obtain ⟨spans, hread, hheader⟩ := parse_eq_ok hparse
  obtain ⟨draft, hdraft, hmodule⟩ := finalized_eq h hfinal
  have hdrafting := draftOf_eq_ok hdraft
  have hprintable := printable_migrated hparse h hfinal
  obtain ⟨text, htext⟩ := printModule_ok style hprintable
  have hplaces : ((bystanders module).map Node.span).Nodup := hread.nodup.sublist ((bystanders_sublist module).map _)
  refine ⟨hplaces, ?_, text, htext, fun before statement after hbody hmem => ?_⟩
  · rw [hmodule]
    exact filter_finish hread hdrafting module.referencedNames
  · rw [hmodule] at htext hbody hprintable ⊢
    exact printedAsRead hread hheader hflush hprintable htext hbody hmem

instance (source : String) (module : Module) : Decidable (FlushLeft source module) :=
  inferInstanceAs (Decidable (∀ statement ∈ module.body, ∀ span ∈ statement.span,
    indentAt source.toList span.start = 0))

/-- A page with a comment and a constant that its migration is not about. -/
def notesPage : String :=
  "// notes\nconst notes = [];\nexport const loader = () => notes;\nexport default function Page() {}\n"

theorem notesPage_bystanders : ∃ module migrated text,
    Module.parse notesPage "routes/notes.tsx" = .ok module ∧ FlushLeft notesPage module ∧
    migrate defaultSettings module = .ok migrated ∧ migrated.outcome = .finalized .page "/notes" [] ∧
    (bystanders module).length = 2 ∧
    migrated.module.body.filter (atPlaces ((bystanders module).map Node.span)) = bystanders module ∧
    printModule defaultSettings.style migrated.module = .ok text ∧
    ∀ before statement after, migrated.module.body = before ++ statement :: after →
      statement ∈ bystanders module →
      PrintedAsRead notesPage defaultSettings.style migrated.module text before statement := by
  have hrun : (match Module.parse notesPage "routes/notes.tsx" with
      | .ok module => decide (FlushLeft notesPage module) && (bystanders module).length == 2 &&
        match migrate defaultSettings module with
        | .ok migrated => decide (migrated.outcome = .finalized .page "/notes" [])
        | .error _ => false
      | .error _ => false) = true := by decide +kernel
  split at hrun
  · next module hparse =>
    rw [Bool.and_eq_true, Bool.and_eq_true, decide_eq_true_eq, beq_iff_eq] at hrun
    obtain ⟨⟨hflush, hlength⟩, hrun⟩ := hrun
    split at hrun
    · next migrated hmigrated =>
      have hfinal := of_decide_eq_true hrun
      obtain ⟨-, hbody, text, htext, hprinted⟩ :=
        migrate_bystanders hparse hflush hmigrated hfinal defaultSettings.style
      exact ⟨module, migrated, text, hparse, hflush, hmigrated, hfinal, hlength, hbody, htext, hprinted⟩
    · cases hrun
  · cases hrun

end RouteMigration.Proofs
