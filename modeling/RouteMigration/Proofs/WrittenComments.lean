import RouteMigration.Proofs.Boundaries
import RouteMigration.Proofs.SingleDescriptor

/-!
# Comments in the text

The comments of a statement are lines of their own directly above it, and so are those of a property in an object
literal. This is how the text of a module shows them: above each statement, and in the descriptor above each property.
-/

namespace RouteMigration.Proofs
open Syntax Route Printer

/-! ### Writers that add a text -/

/-- Below the text before, the writer adds the other one. -/
def Adds (writer : Writer) (before added : String) : Prop :=
  writer before = .ok (before ++ added)

section Adds

variable {writer : Writer} {writers : List Writer} {before first rest : String}

lemma adds_write (text before : String) : Adds (Writer.write text) before text :=
  rfl

lemma adds_nil (before : String) : Adds (Writer.all []) before "" :=
  congrArg Except.ok (String.append_empty ..).symm

lemma Adds.cons (h : Adds writer before first) (hrest : Adds (Writer.all writers) (before ++ first) rest) :
    Adds (Writer.all (writer :: writers)) before (first ++ rest) := by
  rw [Adds, all_cons, h, ← String.append_assoc]
  exact hrest

lemma Adds.singleton (h : Adds writer before first) : Adds (Writer.all [writer]) before first := by
  have hone := h.cons (adds_nil _)
  rwa [String.append_empty] at hone

lemma Adds.append {more : List Writer} (h : Adds (Writer.all writers) before first)
    (hmore : Adds (Writer.all more) (before ++ first) rest) :
    Adds (Writer.all (writers ++ more)) before (first ++ rest) := by
  rw [Adds, all_append, h, ← String.append_assoc]
  exact hmore

end Adds

/-! ### Statements below their comments -/

/-- Comments, each of them on a line. -/
def commentLines (comments : List String) : String :=
  String.join (comments.map (· ++ "\n"))

lemma adds_commentLines (comments : List String) (before : String) :
    Adds (Writer.all (comments.map fun comment => Writer.write (comment ++ "\n"))) before (commentLines comments) := by
  induction comments generalizing before with
  | nil => exact adds_nil before
  | cons comment comments ih =>
    rw [commentLines, List.map_cons, List.map_cons, String.join_cons]
    exact (adds_write _ before).cons (ih _)

lemma Printable.exists_adds {node : Node} (h : Printable node) (style : Style) (before : String) :
    ∃ own, Adds (writeNode style node) before own :=
  h.appends style before

/-- A printable statement adds its comments and then its own text. -/
lemma adds_topLevel {style : Style} {statement : Node} (h : PrintableStatement statement) (before : String) :
    ∃ own, Adds (writeNode style statement) (before ++ commentLines statement.info.comments) own ∧
      Adds (topLevel style statement) before (commentLines statement.info.comments ++ own) := by
  obtain ⟨own, hown⟩ := h.printable.exists_adds style (before ++ commentLines statement.info.comments)
  have hself : Adds (Printer.statement (statement, writersOf style statement))
      (before ++ commentLines statement.info.comments) own := by
    rw [Printer.statement, if_pos h.statement]
    exact hown
  exact ⟨own, hown, (adds_commentLines _ before).append hself.singleton⟩

/-- The text of a module has the statement directly below its comments, which are lines of their own, and these are set
apart from the statements above. -/
def PrintedBelowComments (style : Style) (module : Module) (text : String) (before : List Node) (statement : Node) :
    Prop :=
  ∃ above own below,
    printModule style { module with body := before, trailer := "" } = .ok above ∧
    Adds (writeNode { style with semicolons := module.semicolons } statement)
      (above ++ gapBelow before statement ++ commentLines statement.info.comments) own ∧
    text = above ++ gapBelow before statement ++ commentLines statement.info.comments ++ own ++ below ∧
    (before ≠ [] → '\n' ∈ (gapBelow before statement).toList)

/-- Printable statements are printed below their comments. -/
theorem printedBelowComments {style : Style} {module : Module} {text : String}
    (hprintable : ∀ statement ∈ module.body, PrintableStatement statement)
    (htext : printModule style module = .ok text) {before after : List Node} {statement : Node}
    (hbody : module.body = before ++ statement :: after) :
    PrintedBelowComments style module text before statement := by
  obtain ⟨above, all, below, habove, hall, htext, hbreak⟩ := printedApart hprintable htext hbody
  have hstatement : PrintableStatement statement :=
    hprintable statement (by rw [hbody]; exact List.mem_append_right _ (List.mem_cons_self ..))
  obtain ⟨own, hown, htop⟩ := @adds_topLevel { style with semicolons := module.semicolons } statement hstatement
    (above ++ gapBelow before statement)
  have hsame := Except.ok.inj (hall.symm.trans (printModule_concat habove htop))
  refine ⟨above, own, below, habove, hown, ?_, hbreak⟩
  rw [htext, hsame, ← String.append_assoc]

/-! ### Properties below their comments -/

/-- A line break with the indentation of the next line. -/
def lineBreak (indent : Nat) : String :=
  String.ofList ('\n' :: List.replicate indent ' ')

/-- Lines with an indentation, below a text. -/
def indentedLines (indent : Nat) (lines : List String) : String :=
  String.join (lines.map (lineBreak indent ++ ·))

/-- What is written of a property: its key, or its key and its value. -/
inductive PropertyText (style : Style) (property : Node) : String → Prop where
  | key {key : String} {value : Node} : property.form = .property key value → value.identifier? = some key →
      PropertyText style property key
  | value {key above own : String} {value : Node} : property.form = .property key value →
      value.identifier? ≠ some key → Adds (writeNode style value) above own →
      PropertyText style property (key ++ ": " ++ own)

/-- The lines of properties in an object literal, each of them directly below its comments. -/
def propertyLines (indent : Nat) (properties : List Node) (texts : List String) : String :=
  String.join (List.zipWith (fun property text => indentedLines indent (property.info.comments ++ [text ++ ","]))
    properties texts)

section Properties

/-- A property as an entry between braces. -/
def entryOf (style : Style) (property : Node) : List String × Writer :=
  (property.info.comments, Writer.all [(writersOf style property).entry, Writer.write ","])

variable {style : Style}

lemma adds_newline (indent : Nat) (before : String) : Adds (Writer.newline indent) before (lineBreak indent) :=
  rfl

lemma adds_commentsOfProperty (indent : Nat) (comments : List String) (before : String) :
    Adds (Writer.all (comments.map fun comment => Writer.all [Writer.newline indent, Writer.write comment])) before
      (indentedLines indent comments) := by
  induction comments generalizing before with
  | nil => exact adds_nil before
  | cons comment comments ih =>
    rw [indentedLines, List.map_cons, List.map_cons, String.join_cons]
    exact ((adds_newline indent before).cons (adds_write comment _).singleton).cons (ih _)

lemma adds_property {property : Node} (h : PrintableProperty property) (before : String) :
    ∃ text, PropertyText style property text ∧ Adds (writersOf style property).entry before text := by
  obtain ⟨info, form⟩ := property
  obtain ⟨key, value, rfl, hvalue⟩ := h
  rw [writersOf_mk]
  change ∃ text, _ ∧ Adds (Printer.property key (value, writersOf style value)) before text
  unfold Printer.property
  by_cases hkey : value.identifier? = some key
  · rw [if_pos hkey]
    exact ⟨key, .key rfl hkey, adds_write key before⟩
  · rw [if_neg hkey]
    obtain ⟨own, hown⟩ := hvalue.exists_adds style (before ++ (key ++ ": "))
    exact ⟨key ++ ": " ++ own, .value rfl hkey hown, (adds_write _ before).cons hown.singleton⟩

/-- A property adds its comments and its own text on lines of their own. -/
lemma adds_propertyLine {property : Node} (h : PrintableProperty property) (indent : Nat) (before : String) :
    ∃ text, PropertyText style property text ∧
      Adds (entryWriter indent (entryOf style property)) before
        (indentedLines indent (property.info.comments ++ [text ++ ","])) := by
  have hcomments := adds_commentsOfProperty indent property.info.comments before
  obtain ⟨text, htext, hentry⟩ := @adds_property style property h
    (before ++ indentedLines indent property.info.comments ++ lineBreak indent)
  have hown := (adds_newline indent _).cons (hentry.cons (adds_write "," _).singleton).singleton
  have hlines : indentedLines indent (property.info.comments ++ [text ++ ","]) =
      indentedLines indent property.info.comments ++ (lineBreak indent ++ (text ++ ",")) := by
    rw [indentedLines, List.map_append, String.join_append, List.map_singleton, String.join_cons, String.join_nil,
      String.append_empty]
    rfl
  exact ⟨text, htext, hlines ▸ hcomments.append hown⟩

lemma adds_propertyLines {properties : List Node} (h : ∀ property ∈ properties, PrintableProperty property)
    (indent : Nat) (before : String) :
    ∃ texts, List.Forall₂ (PropertyText style) properties texts ∧
      Adds (Writer.all ((properties.map (entryOf style)).map (entryWriter indent))) before
        (propertyLines indent properties texts) := by
  induction properties generalizing before with
  | nil => exact ⟨[], .nil, adds_nil before⟩
  | cons property properties ih =>
    obtain ⟨text, htext, hfirst⟩ := adds_propertyLine (h property (List.mem_cons_self ..)) indent before
    obtain ⟨texts, htexts, hrest⟩ := ih (fun p hp => h p (List.mem_cons_of_mem _ hp)) (before ++ _)
    refine ⟨text :: texts, .cons htext htexts, ?_⟩
    rw [propertyLines, List.zipWith_cons_cons, String.join_cons]
    exact hfirst.cons hrest

end Properties

/-! ### Descriptors -/

section Made

variable {style : Style} {before : String}

/-- A node that was made is printed by its form. -/
lemma writeNode_made (gap : Option String) (form : Form Node) :
    writeNode style (withGap gap (.make form)) = byForm style 0 false (form.map (printed style)) := by
  rw [writeNode, withGap, Node.make, Node.withInfo, writersOf_mk]
  rfl

lemma adds_made {form : Form Node} {added : String}
    (h : Adds (byForm style 0 false (form.map (printed style))) before added) :
    Adds (writeNode style (.make form)) before added := by
  have hmade : writeNode style (.make form) = _ := writeNode_made none form
  rwa [Adds, hmade]

lemma adds_variableOf (name before : String) : Adds (writeNode style (variableOf name)) before name :=
  adds_made (adds_write name before)

lemma adds_callOf {callee argument : Node} {called text : String}
    (hcallee : Adds (writeNode style callee) before called)
    (hargument : Adds (writeNode style argument) (before ++ (called ++ "(")) text) :
    Adds (writeNode style (Route.callOf callee [argument])) before (called ++ "(" ++ text ++ ")") := by
  rw [← String.append_assoc] at hargument
  have hlist : Adds (writeNode style (.join "arguments" [argument] "(" ")")) (before ++ called)
      ("(" ++ (text ++ ")")) := by
    refine adds_made ?_
    exact (adds_write "(" _).cons (hargument.cons (adds_write ")" _).singleton)
  have htypes : Adds (Writer.optional none) (before ++ called) "" := adds_nil _
  have hrest : Adds (Writer.all [writeNode style (.join "arguments" [argument] "(" ")")]) (before ++ called ++ "")
      ("(" ++ (text ++ ")")) := by
    rw [String.append_empty]
    exact hlist.singleton
  have hcall := hcallee.cons (htypes.cons hrest)
  rw [String.empty_append, ← String.append_assoc, ← String.append_assoc] at hcall
  exact adds_made hcall

lemma adds_factoryCall (factory routePath before : String) :
    Adds (writeNode style (factoryCall factory routePath)) before
      (factory ++ "(" ++ quotedString style.quote routePath ++ ")") :=
  adds_callOf (adds_variableOf factory before) (adds_made (adds_write _ _))

/-- An object literal has its properties on lines of their own, each of them directly below its comments. -/
lemma adds_objectExpression {properties : List Node} (hne : properties ≠ [])
    (h : ∀ property ∈ properties, PrintableProperty property) (before : String) :
    ∃ texts, List.Forall₂ (PropertyText style) properties texts ∧
      Adds (writeNode style (.make (.objectExpression properties))) before
        ("\x7b" ++ propertyLines (Layout.column before + style.indent) properties texts ++
          lineBreak (Layout.column before) ++ "\x7d") := by
  obtain ⟨texts, htexts, hlines⟩ := adds_propertyLines h (Layout.column before + style.indent) (before ++ "\x7b")
  have hend := (adds_newline (Layout.column before) (before ++ "\x7b" ++
    propertyLines (Layout.column before + style.indent) properties texts)).cons (adds_write "\x7d" _).singleton
  have hall := ((adds_write "\x7b" before).cons hlines).append (by rwa [← String.append_assoc])
  rw [← String.append_assoc] at hall
  refine ⟨texts, htexts, adds_made ?_⟩
  change bracedLines style ((properties.map (printed style)).map _) before = _
  rw [List.map_map]
  have hentries : properties.map (entryOf style) ≠ [] := List.map_eq_nil_iff.not.mpr hne
  exact (bracedLines_of_ne hentries before).trans hall

lemma adds_exportedConstant (name : String) {value : Node} {text : String}
    (h : Adds (writeNode style value) (before ++ ("export const " ++ name ++ " = ")) text) (gap : Option String) :
    Adds (writeNode style (withGap gap (exportedConstant name value))) before
      ("export const " ++ name ++ " = " ++ text ++ semicolon style) := by
  have hopening : "export " ++ "const " = "export const " := by decide
  have hvalue : Adds (Writer.optional (some (Writer.all [Writer.write " = ", writeNode style value])))
      (before ++ "export " ++ "const " ++ name ++ "") (" = " ++ text) := by
    refine ((adds_write " = " _).cons (Adds.singleton ?_)).singleton
    rwa [String.append_empty, @String.append_assoc before, hopening, String.append_assoc, String.append_assoc,
      ← @String.append_assoc _ name]
  have hdeclarator := (@adds_variableOf style name (before ++ "export " ++ "const ")).cons
    ((adds_nil _).cons hvalue.singleton)
  have hconstant : Adds (writeNode style (constant name value)) (before ++ "export ")
      ("const " ++ (name ++ ("" ++ (" = " ++ text)) ++ semicolon style)) := by
    refine adds_made ?_
    exact (adds_write "const " _).cons (hdeclarator.singleton.cons (adds_write (semicolon style) _).singleton)
  have hstatement := (adds_write "export " before).cons hconstant.singleton
  have htext : "export " ++ ("const " ++ (name ++ ("" ++ (" = " ++ text)) ++ semicolon style)) =
      "export const " ++ name ++ " = " ++ text ++ semicolon style := by
    simp only [String.empty_append, ← String.append_assoc, hopening]
  rw [Adds, exportedConstant, writeNode_made, ← htext]
  exact hstatement

/-- What is called to make the descriptor. -/
def descriptorCallee (style : Style) (settings : Settings) (routePath : String) : Kind → String
  | .page => settings.pageFactory ++ "(" ++ quotedString style.quote routePath ++ ")"
  | .resource =>
    settings.resourceFactory ++ "(" ++ quotedString style.quote routePath ++ ")" ++ "." ++ settings.resourceMethod

/-- The text of a descriptor on a line with an indentation: the properties stand on lines of their own, each of them
directly below its comments. -/
def descriptorText (style : Style) (name callee : String) (indent : Nat) (properties : List Node)
    (texts : List String) : String :=
  "export const " ++ name ++ " = " ++
    (callee ++ "(" ++
      ("\x7b" ++ propertyLines (indent + style.indent) properties texts ++ lineBreak indent ++ "\x7d") ++ ")") ++
    semicolon style

lemma adds_calledWithObject {properties : List Node} (hne : properties ≠ [])
    (h : ∀ property ∈ properties, PrintableProperty property) {callee : Node} {called : String}
    (hcallee : ∀ before, Adds (writeNode style callee) before called) (name : String) (gap : Option String)
    (before : String) :
    ∃ indent texts, List.Forall₂ (PropertyText style) properties texts ∧
      Adds (writeNode style (withGap gap (exportedConstant name
        (Route.callOf callee [.make (.objectExpression properties)])))) before
        (descriptorText style name called indent properties texts) := by
  obtain ⟨texts, htexts, hobject⟩ := @adds_objectExpression style properties hne h
    (before ++ ("export const " ++ name ++ " = ") ++ (called ++ "("))
  exact ⟨_, texts, htexts, adds_exportedConstant name (adds_callOf (hcallee _) hobject) gap⟩

/-- The descriptor is written with all comments on its properties. -/
theorem adds_descriptorOf (settings : Settings) (routePath : String) {properties : List Node} (hne : properties ≠ [])
    (h : ∀ property ∈ properties, PrintableProperty property) (kind : Kind) (gap : Option String) (before : String) :
    ∃ indent texts, List.Forall₂ (PropertyText style) properties texts ∧
      Adds (writeNode style (withGap gap (descriptorOf settings routePath properties kind))) before
        (descriptorText style (descriptorName settings kind) (descriptorCallee style settings routePath kind) indent
          properties texts) := by
  cases kind with
  | page => exact adds_calledWithObject hne h (adds_factoryCall settings.pageFactory routePath) _ gap before
  | resource =>
    refine adds_calledWithObject hne h (fun before => ?_) _ gap before
    have hmember := (@adds_factoryCall style settings.resourceFactory routePath before).cons
      (adds_write ("." ++ settings.resourceMethod) _).singleton
    rw [← String.append_assoc] at hmember
    exact adds_made hmember

end Made

end RouteMigration.Proofs
