import RouteMigration.Proofs.Attachments
import RouteMigration.Proofs.BatchRuns
import RouteMigration.Proofs.LineEnds
import RouteMigration.Proofs.SourceFidelity
import RouteMigration.Proofs.UntouchedStatements

/-!
# File fidelity

From the bytes of a file to those that a migration leaves in it: the text is decoded, its line ends are unified, and
the module that it holds is migrated, printed and encoded. An untouched statement comes through all of this with one
change, in its carriage returns, as long as it did not stand in an indented line and does not come to stand in one.
-/

namespace RouteMigration.Proofs
open Syntax Route Printer

/-! ### Parts of a text -/

/-- The parts occur in the whole one after the other. -/
def InSuccession {α : Type} : List (List α) → List α → Prop
  | [], _ => True
  | part :: parts, whole => ∃ before after, whole = before ++ part ++ after ∧ InSuccession parts after

section Parts

variable {α β : Type}

lemma InSuccession.below {parts : List (List α)} {whole : List α} (h : InSuccession parts whole) (above : List α) :
    InSuccession parts (above ++ whole) := by
  cases parts with
  | nil => trivial
  | cons part parts =>
    obtain ⟨before, after, rfl, hparts⟩ := h
    exact ⟨above ++ before, after, by rw [List.append_assoc, List.append_assoc, List.append_assoc], hparts⟩

lemma InSuccession.flatMap {parts : List (List α)} {whole : List α} (h : InSuccession parts whole) (f : α → List β) :
    InSuccession (parts.map (·.flatMap f)) (whole.flatMap f) := by
  induction parts generalizing whole with
  | nil => trivial
  | cons part parts ih =>
    obtain ⟨before, after, rfl, hparts⟩ := h
    exact ⟨before.flatMap f, after.flatMap f, by rw [List.flatMap_append, List.flatMap_append], ih hparts⟩

end Parts

/-! ### Printed statements -/

/-- A statement stood in an unindented line, and it is not the first one below a header that ends in an indented
line. -/
structure StaysFlush (source : String) (result : Module) (statement : Node) : Prop where
  indent : ∀ span ∈ statement.span, indentAt source.toList span.start = 0
  first : result.body.head? = some statement → Layout.column result.header = 0

/-- The text of a statement in the source. -/
def sourceText (source : String) (statement : Node) : List Char :=
  statement.span.elim [] fun span => (slice source.toList span.start span.stop).toList

lemma sourceText_eq {source : String} {span : Span} {statement : Node}
    (h : ReadStatement source.toList span statement) :
    sourceText source statement = (slice source.toList span.start span.stop).toList := by
  rw [sourceText, h.place]
  rfl

section Printed

variable {source : String} {style : Style} {result : Module} {text : String}

/-- The text of a module starts with what is above its statements. -/
lemma printModule_above (hprintable : ∀ statement ∈ result.body, PrintableStatement statement)
    (htext : printModule style result = .ok text) :
    ∃ above tail, printModule style { result with body := [], trailer := "" } = .ok above ∧ text = above ++ tail := by
  cases hbody : result.body with
  | nil =>
    have hempty : printModule style { result with body := [], trailer := "" } = .ok ("" ++ result.header ++ "") := rfl
    refine ⟨_, result.trailer, hempty, ?_⟩
    rw [printModule, hbody] at htext
    cases htext
    rw [String.append_empty]
  | cons statement after =>
    have hfirst : result.body = [] ++ statement :: after := hbody
    obtain ⟨above, own, below, habove, -, htext, -⟩ := printedApart hprintable htext hfirst
    exact ⟨above, _, habove, by rw [htext, String.append_assoc, String.append_assoc]⟩

/-- Below the statements that have been printed, the others follow one after the other. -/
lemma inSuccession_below (hprintable : ∀ statement ∈ result.body, PrintableStatement statement)
    (htext : printModule style result = .ok text) {kept body before : List Node} {above tail : String}
    (hbody : result.body = before ++ body) (hkept : kept.Sublist body)
    (hread : ∀ statement ∈ kept, ∃ span, ReadStatement source.toList span statement)
    (hflush : ∀ statement ∈ kept, StaysFlush source result statement)
    (habove : printModule style { result with body := before, trailer := "" } = .ok above)
    (htail : text = above ++ tail) : InSuccession (kept.map (sourceText source)) tail.toList := by
  induction hkept generalizing before above tail with
  | slnil => trivial
  | @cons kept body statement _ ih =>
    obtain ⟨above', own, below, habove', hown, hsplit, -⟩ := printedApart hprintable htext hbody
    obtain rfl : above' = above := Except.ok.inj (habove'.symm.trans habove)
    have hbelow : result.body = before ++ [statement] ++ body := by rw [hbody, List.append_assoc, List.singleton_append]
    have hrest := ih hbelow hread hflush hown hsplit
    have hfollows : tail = gapBelow before statement ++ own ++ below :=
      (String.append_right_inj above').mp (by rw [← htail, hsplit]; simp only [String.append_assoc])
    rw [hfollows, String.toList_append]
    exact hrest.below _
  | @cons_cons kept body statement _ ih =>
    obtain ⟨span, hstatement⟩ := hread statement (List.mem_cons_self ..)
    have hstays := hflush statement (List.mem_cons_self ..)
    have hfirst : before = [] → Layout.column result.header = 0 := by
      rintro rfl
      exact hstays.first (by rw [hbody]; rfl)
    obtain ⟨above', below, habove', hown, hsplit⟩ := printedApart_slice hprintable htext hbody hstatement
      (hstays.indent span hstatement.place) hfirst
    obtain rfl : above' = above := Except.ok.inj (habove'.symm.trans habove)
    have hbelow : result.body = before ++ [statement] ++ body := by rw [hbody, List.append_assoc, List.singleton_append]
    have hrest := ih hbelow (fun s hs => hread s (List.mem_cons_of_mem _ hs))
      (fun s hs => hflush s (List.mem_cons_of_mem _ hs)) hown hsplit
    have hfollows : tail = gapBelow before statement ++ slice source.toList span.start span.stop ++ below :=
      (String.append_right_inj above').mp (by rw [← htail, hsplit]; simp only [String.append_assoc])
    refine ⟨(gapBelow before statement).toList, below.toList, ?_, hrest⟩
    rw [hfollows, sourceText_eq hstatement, String.toList_append, String.toList_append]

/-- Statements that are as they were read are printed as the source has them, one after the other. -/
theorem inSuccession_printed (hprintable : ∀ statement ∈ result.body, PrintableStatement statement)
    (htext : printModule style result = .ok text) {kept : List Node} (hkept : kept.Sublist result.body)
    (hread : ∀ statement ∈ kept, ∃ span, ReadStatement source.toList span statement)
    (hflush : ∀ statement ∈ kept, StaysFlush source result statement) :
    InSuccession (kept.map (sourceText source)) text.toList := by
  obtain ⟨above, tail, habove, htail⟩ := printModule_above hprintable htext
  have hrest := inSuccession_below hprintable htext (List.nil_append _).symm hkept hread hflush habove htail
  rw [htail, String.toList_append]
  exact hrest.below _

end Printed

/-! ### Statements of a file -/

/-- The text of a statement as a file has it. -/
def givenText (text : List Char) (statement : Node) : List Char :=
  statement.span.elim [] (givenSlice text)

/-- The bytes of a statement in a file. -/
def givenBytes (text : List Char) (statement : Node) : List UInt8 :=
  statement.span.elim [] fun span => bytesBetween text (givenOffset text span.start) (givenOffset text span.stop)

/-- The bytes of a statement once its line ends are unified. -/
def unifiedBytes (text : List Char) (statement : Node) : List UInt8 :=
  Text.Utf8.encode (Text.unifyLineEnds (givenText text statement))

section Given

variable {text : List Char} {span : Span} {statement : Node}

lemma givenOffset_mono (text : List Char) {start stop : Nat} (h : start ≤ stop) :
    givenOffset text start ≤ givenOffset text stop := by
  obtain ⟨length, rfl⟩ := Nat.exists_eq_add_of_le h
  rw [givenOffset_add]
  exact Nat.le_add_right ..

lemma givenBytes_eq (h : ReadStatement (Text.unifyLineEnds text) span statement) :
    givenBytes text statement = Text.Utf8.encode (givenText text statement) := by
  rw [givenBytes, givenText, h.place]
  exact bytesBetween_eq text (givenOffset_mono text h.nonempty.le)

lemma encode_sourceText (h : ReadStatement (Text.unifyLineEnds text) span statement) :
    Text.Utf8.encode (sourceText (String.ofList (Text.unifyLineEnds text)) statement) = unifiedBytes text statement := by
  rw [sourceText_eq (by rwa [String.toList_ofList]), String.toList_ofList, slice_unifyLineEnds text h.nonempty.le,
    unifiedBytes, givenText, h.place]
  rfl

/-- Unifying the line ends of a statement changes its bytes if it has a carriage return. -/
lemma unifiedBytes_eq_iff (h : ReadStatement (Text.unifyLineEnds text) span statement) :
    unifiedBytes text statement = givenBytes text statement ↔ '\r' ∉ givenText text statement := by
  rw [givenBytes_eq h, unifiedBytes, encode_inj]
  exact unifyLineEnds_eq_self_iff _

end Given

/-! ### Files -/

/-- The file that a path leads to has held a text, and the migration of the module in it has left other bytes. -/
structure Rewritten (settings : Settings) (tree : FileTree) (path : FilePath) (text : List Char) (module : Module)
    (migrated : Migrated) (left : List UInt8) : Prop where
  place : ∃ place, tree.resolve path = .ok place ∧ tree.content? place = some (Text.Utf8.encode text) ∧
    (Batch.processFile settings true tree path).2.2.content? place = some left
  parsed : Module.parse (String.ofList (Text.unifyLineEnds text)) path.toString = .ok module
  migrated : migrate settings module = .ok migrated

section Files

variable {settings : Settings} {tree : FileTree} {path : FilePath}

lemma except_mapError_eq_ok {ε ε' α : Type} {x : Except ε α} {f : ε → ε'} {a : α} (h : x.mapError f = .ok a) :
    x = .ok a := by
  cases x with
  | error e => cases h
  | ok b => rw [Except.ok.inj h]

lemma isChanged_eq_true {outcome : Outcome} (h : outcome.isChanged = true) :
    ∃ kind routePath advisories, outcome = .finalized kind routePath advisories := by
  cases outcome with
  | finalized kind routePath advisories => exact ⟨kind, routePath, advisories, rfl⟩
  | _ => cases h

lemma readText_eq_ok {source : String} (h : Batch.readText tree path = .ok source) :
    ∃ place text, tree.resolve path = .ok place ∧ tree.content? place = some (Text.Utf8.encode text) ∧
      source = String.ofList (Text.unifyLineEnds text) := by
  unfold Batch.readText at h
  split at h
  · cases h
  · next bytes hread =>
    split at h
    · cases h
    · next text hdecode =>
      unfold FileTree.read at hread
      split at hread
      · cases hread
      · next place hresolve =>
        refine ⟨place, text, hresolve, ?_, (Except.ok.inj h).symm⟩
        rw [encode_of_decode hdecode]
        split at hread
        · next content hcontent =>
          split at hread
          · cases hread
          · rw [hcontent, Except.ok.inj hread]
        · cases hread

lemma ofSource_output {source path output : String} {migration : RouteMigration.Migration}
    (h : RouteMigration.Migration.ofSource settings source path = .ok migration)
    (houtput : migration.output = some output) :
    ∃ module migrated kind routePath advisories, Module.parse source path = .ok module ∧
      migrate settings module = .ok migrated ∧ migrated.outcome = .finalized kind routePath advisories ∧
      printModule settings.style migrated.module = .ok output := by
  obtain ⟨module, hparse, h⟩ := except_bind_eq_ok h
  obtain ⟨migrated, hmigrated, h⟩ := except_bind_eq_ok h
  split at h
  · next hchanged =>
    obtain ⟨text, htext, h⟩ := except_bind_eq_ok h
    cases h
    obtain rfl : text = output := Option.some.inj houtput
    obtain ⟨kind, routePath, advisories, hfinal⟩ := isChanged_eq_true hchanged
    exact ⟨module, migrated, kind, routePath, advisories, except_mapError_eq_ok hparse, except_mapError_eq_ok hmigrated,
      hfinal, except_mapError_eq_ok htext⟩
  · cases h
    cases houtput

lemma migrateFile_migrated {outcome : Outcome} {output : String}
    (h : (Batch.migrateFile settings tree path).1.fate = .migrated outcome output) :
    ∃ source migration, Batch.readText tree path = .ok source ∧
      RouteMigration.Migration.ofSource settings source path.toString = .ok migration ∧
      migration.output = some output := by
  unfold Batch.migrateFile at h
  split at h
  · cases h
  · next source hread =>
    split at h
    · cases h
    · next migration hsource =>
      split at h
      · cases h
      · next hout =>
        cases h
        exact ⟨source, migration, hread, hsource, hout⟩

lemma processFile_migrated (h : (Batch.processFile settings true tree path).1.status = .migrated) :
    ∃ outcome output, (Batch.migrateFile settings tree path).1.fate = .migrated outcome output ∧
      ∀ place, tree.resolve path = .ok place → (tree.content? place).isSome →
        (Batch.processFile settings true tree path).2.2.content? place = some (Text.Utf8.encode output.toList) := by
  have hsaved := saved_saveResult tree (Batch.migrateFile settings tree path).1
  have hresult : (Batch.processFile settings true tree path).1 =
      (Batch.saveResult tree (Batch.migrateFile settings tree path).1).1 := fst_processFile ..
  rw [hresult] at h
  generalize hsave : Batch.saveResult tree (Batch.migrateFile settings tree path).1 = saved at hsaved
  rw [hsave] at h hresult
  cases hsaved with
  | @written outcome output _ hfate hplace =>
    refine ⟨outcome, output, hfate, fun place hresolve hsome => ?_⟩
    obtain ⟨bytes, hbytes⟩ := Option.isSome_iff_exists.mp hsome
    rw [content?_processFile hresolve, hbytes, Option.map_some, hresult, leftIn_of_migrated hfate]
  | refused _ _ => cases h
  | kept hother =>
    rw [FileResult.status] at h
    split at h
    · cases h
    · cases h
    · cases h
    · next hfate => exact absurd hfate (hother _ _)

/-- The text of a migrated module, encoded, has the untouched statements in order, their line ends unified. -/
lemma inSuccession_encoded {text : List Char} {module : Module} {migrated : Migrated} {path output : String}
    (hparse : Module.parse (String.ofList (Text.unifyLineEnds text)) path = .ok module)
    (hmigrate : migrate settings module = .ok migrated) {kind : Kind} {routePath : String} {advisories : List String}
    (hfinal : migrated.outcome = .finalized kind routePath advisories)
    (hprint : printModule settings.style migrated.module = .ok output) {kept : List Node}
    (hgiven : kept ⊆ module.body) (hkept : kept.Sublist migrated.module.body)
    (hflush : ∀ statement ∈ kept,
      StaysFlush (String.ofList (Text.unifyLineEnds text)) migrated.module statement) :
    InSuccession (kept.map (unifiedBytes text)) (Text.Utf8.encode output.toList) := by
  obtain ⟨spans, hstatements, -⟩ := parse_eq_ok hparse
  have hread : ∀ statement ∈ kept, ∃ span,
      ReadStatement (String.ofList (Text.unifyLineEnds text)).toList span statement := fun statement hmem =>
    hstatements.of_mem (hgiven hmem)
  have hencoded := (inSuccession_printed (printable_migrated hparse hmigrate hfinal) hprint hkept hread hflush).flatMap
    Text.Utf8.encodeChar
  have hsame : ∀ statement ∈ kept, (sourceText (String.ofList (Text.unifyLineEnds text)) statement).flatMap
      Text.Utf8.encodeChar = unifiedBytes text statement := by
    intro statement hmem
    obtain ⟨span, hstatement⟩ := hread statement hmem
    rw [String.toList_ofList] at hstatement
    exact encode_sourceText hstatement
  rwa [List.map_map, Function.comp_def, List.map_congr_left hsame] at hencoded

/-- What a migration of a file leaves in it: every untouched statement, in the order they had and with unified line
ends, unless it was in an indented line or has come to be in one. So the bytes of a statement are those it had if
and only if it has no carriage return. -/
theorem processFile_untouched (h : (Batch.processFile settings true tree path).1.status = .migrated) :
    ∃ text module migrated left statements, Rewritten settings tree path text module migrated left ∧
      Untouched module migrated.module statements ∧
      (∀ statement ∈ statements,
        unifiedBytes text statement = givenBytes text statement ↔ '\r' ∉ givenText text statement) ∧
      ∀ kept : List Node, kept.Sublist statements →
        (∀ statement ∈ kept,
          StaysFlush (String.ofList (Text.unifyLineEnds text)) migrated.module statement) →
        InSuccession (kept.map (unifiedBytes text)) left ∧
        ((∀ statement ∈ kept, '\r' ∉ givenText text statement) → InSuccession (kept.map (givenBytes text)) left) := by
  obtain ⟨outcome, output, hfate, hleft⟩ := processFile_migrated h
  obtain ⟨source, migration, hread, hsource, houtput⟩ := migrateFile_migrated hfate
  obtain ⟨place, text, hresolve, hcontent, rfl⟩ := readText_eq_ok hread
  obtain ⟨module, migrated, kind, routePath, advisories, hparse, hmigrate, hfinal, hprint⟩ :=
    ofSource_output hsource houtput
  obtain ⟨spans, hstatements, -⟩ := parse_eq_ok hparse
  obtain ⟨draft, hdraft, hmodule⟩ := finalized_eq hmigrate hfinal
  have huntouched : ∃ statements, Untouched module migrated.module statements := by
    rw [hmodule]
    exact exists_untouched hstatements (draftOf_eq_ok hdraft) module.referencedNames
  obtain ⟨statements, huntouched⟩ := huntouched
  have hiff : ∀ statement ∈ statements,
      (unifiedBytes text statement = givenBytes text statement ↔ '\r' ∉ givenText text statement) := by
    intro statement hmem
    obtain ⟨span, hstatement⟩ := hstatements.of_mem (huntouched.given.subset hmem)
    rw [String.toList_ofList] at hstatement
    exact unifiedBytes_eq_iff hstatement
  refine ⟨text, module, migrated, Text.Utf8.encode output.toList, statements,
    ⟨⟨place, hresolve, hcontent, hleft place hresolve (by rw [hcontent]; rfl)⟩, hparse, hmigrate⟩, huntouched, hiff,
    fun kept hkept hflush => ?_⟩
  have hunified := inSuccession_encoded hparse hmigrate hfinal hprint (hkept.trans huntouched.given).subset
    (hkept.trans huntouched.kept) hflush
  refine ⟨hunified, fun hplain => ?_⟩
  have hsame : ∀ statement ∈ kept, unifiedBytes text statement = givenBytes text statement := fun statement hmem =>
    (hiff statement (hkept.subset hmem)).mpr (hplain statement hmem)
  rwa [List.map_congr_left hsame] at hunified

end Files

/-- A folder with a page whose lines end in a carriage return and a line feed, one of them within a template. -/
def carriageTree : FileTree where
  files := [(["a.tsx"],
    Text.Utf8.encode "`\r\n`;\r\nexport let loader = () => 1;\r\nexport default x".toList)]

theorem carriageTree_untouched :
    (Batch.processFile defaultSettings true carriageTree ⟨"", ["a.tsx"]⟩).1.status = .migrated ∧
    ∃ text module migrated left statements,
      Rewritten defaultSettings carriageTree ⟨"", ["a.tsx"]⟩ text module migrated left ∧
      Untouched module migrated.module statements ∧
      (∀ statement ∈ statements,
        unifiedBytes text statement = givenBytes text statement ↔ '\r' ∉ givenText text statement) ∧
      ∀ kept : List Node, kept.Sublist statements →
        (∀ statement ∈ kept,
          StaysFlush (String.ofList (Text.unifyLineEnds text)) migrated.module statement) →
        InSuccession (kept.map (unifiedBytes text)) left ∧
        ((∀ statement ∈ kept, '\r' ∉ givenText text statement) → InSuccession (kept.map (givenBytes text)) left) := by
  have hstatus : (Batch.processFile defaultSettings true carriageTree ⟨"", ["a.tsx"]⟩).1.status = .migrated := by
    decide +kernel
  exact ⟨hstatus, processFile_untouched hstatus⟩

end RouteMigration.Proofs
