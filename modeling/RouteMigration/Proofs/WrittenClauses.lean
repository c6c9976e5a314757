import Mathlib.Data.List.Forall2
import RouteMigration.Proofs.Printing
import RouteMigration.Proofs.StringLiterals
import RouteMigration.Route.Exports
import RouteMigration.Syntax.OfTree

/-!
# Imports and lists of exports as they are written

What an import or a list of exports says in its source, with the marks of types, the text of the literal and the
attributes. The syntax tree holds less of it: a mark `typeof`, the marks in a list of exports and the attributes are
not in the forms, and the text of the literal is taken for its value. What is printed anew says the rest.
-/

namespace RouteMigration.Proofs
open Syntax Route Printer
open Grammar (Tree)

/-- A name in braces with its mark and the name that it is renamed to. -/
structure WrittenName where
  mark : Option String
  name : String
  renamed : Option String
  deriving DecidableEq

structure WrittenImport where
  mark : Option String := none
  defaultName : Option String := none
  namespaceName : Option String := none
  names : List WrittenName := []
  /-- The text between the quotes of the source. -/
  literal : String
  attributes : Option String := none
  deriving DecidableEq

/-- A list of names that the module itself declares. -/
structure WrittenExport where
  mark : Option String
  names : List WrittenName
  deriving DecidableEq

/-! ### In the source -/

section Reading

variable (source : List Char)

def markOf (tree : Tree) : Option String :=
  if tree.hasToken "type" then some "type" else if tree.hasToken "typeof" then some "typeof" else none

def writtenName (tree : Tree) : WrittenName where
  mark := markOf tree
  name := (tree.child? "name").elim "" (OfTree.textOf source)
  renamed := given ((tree.child? "alias").map (OfTree.textOf source))

/-- The parts of the clause of an import: a default, a namespace, names in braces. -/
def clauseParts (tree : Tree) : List Tree :=
  (tree.namedChildren.filter (·.kind = "import_clause")).flatMap Tree.namedChildren

def namesIn (parts : List Tree) : List WrittenName :=
  (parts.filter (·.kind = "named_imports")).flatMap fun part =>
    (part.namedChildren.filter (·.kind = "import_specifier")).map (writtenName source)

def defaultIn (parts : List Tree) : Option String :=
  (parts.filter (·.kind = "identifier")).getLast?.map (OfTree.textOf source)

def namespaceIn (parts : List Tree) : Option String :=
  ((parts.filter (·.kind = "namespace_import")).filterMap fun part =>
    part.namedChildren.find? (·.kind = "identifier")).getLast?.map (OfTree.textOf source)

/-- What the tree of an import says. -/
def writtenImport (tree : Tree) : WrittenImport where
  mark := markOf tree
  defaultName := given (defaultIn source (clauseParts tree))
  namespaceName := given (namespaceIn source (clauseParts tree))
  names := namesIn source (clauseParts tree)
  literal := (tree.child? "source").elim "" (OfTree.unquoted source)
  attributes := (tree.namedChildren.find? (·.kind = "import_attribute")).map (OfTree.textOf source)

/-- What the tree of a list of exports says. -/
def writtenExport (tree : Tree) : WrittenExport where
  mark := markOf tree
  names := (tree.namedChildren.find? (·.kind = "export_clause")).elim [] fun clause =>
    (clause.namedChildren.filter (·.kind = "export_specifier")).map (writtenName source)

end Reading

/-! ### In print -/

/-- The text behind its mark. -/
def marked (mark : Option String) (text : String) : String :=
  mark.elim "" (· ++ " ") ++ text

def WrittenName.text (name : WrittenName) : String :=
  marked name.mark (name.name ++ name.renamed.elim "" (" as " ++ ·))

def joined (names : List WrittenName) : String :=
  String.intercalate ", " (names.map WrittenName.text)

/-- Names in braces. -/
def braced (names : List WrittenName) : String :=
  "\x7b " ++ joined names ++ " \x7d"

def WrittenImport.text (style : Style) (written : WrittenImport) : String :=
  let clause := written.defaultName.toList ++ written.namespaceName.toList.map ("* as " ++ ·) ++
    if written.names.isEmpty then [] else [braced written.names]
  "import " ++ marked written.mark ((if clause.isEmpty then "" else String.intercalate ", " clause ++ " from ") ++
    (style.quote.toString ++ written.literal ++ style.quote.toString ++ written.attributes.elim "" (" " ++ ·) ++
      semicolon style))

def WrittenExport.text (style : Style) (written : WrittenExport) : String :=
  "export " ++ marked written.mark ((if joined written.names = "" then "\x7b\x7d" else braced written.names) ++
    semicolon style)

/-- Without a mark other than that of types. -/
def typeMark (mark : Option String) : Option String :=
  mark.filter (· = "type")

/-- What is left of an import when it is printed anew. -/
def WrittenImport.printed (quote : Char) (written : WrittenImport) : WrittenImport :=
  { written with
    mark := typeMark written.mark
    names := written.names.map fun name => { name with mark := typeMark name.mark }
    literal := String.ofList (escapedBy quote written.literal.toList)
    attributes := none }

/-- What is left of a list of exports when it is printed anew. -/
def WrittenExport.printed (written : WrittenExport) : WrittenExport :=
  { mark := typeMark written.mark
    names := written.names.map fun name => { name with mark := none } }

/-! ### What the forms hold -/

structure HoldsName (specifier : ImportSpecifier) (name : WrittenName) : Prop where
  imported : specifier.imported = name.name
  renamed : given specifier.renamed = name.renamed
  typeOnly : specifier.typeOnly = decide (name.mark = some "type")

/-- The form holds what the import says, but for marks of other kinds and attributes. -/
structure HoldsImport (form : ImportForm) (written : WrittenImport) : Prop where
  typeOnly : form.typeOnly = decide (written.mark = some "type")
  defaultName : given form.defaultName = written.defaultName
  namespaceName : given form.namespaceName = written.namespaceName
  names : List.Forall₂ HoldsName form.specifiers written.names
  source : form.source = written.literal

structure HoldsListed (specifier : ExportSpecifier) (name : WrittenName) : Prop where
  localName : specifier.localName = name.name
  renamed : given specifier.renamed = name.renamed

/-- The form holds what the list of exports says, but for the marks of its names. -/
structure HoldsExport (form : ExportForm Node) (written : WrittenExport) : Prop where
  declaration : form.declaration = none
  source : form.source = none
  typeOnly : form.typeOnly = decide (written.mark = some "type")
  names : List.Forall₂ HoldsListed form.specifiers written.names

lemma marked_typeMark (mark : Option String) (text : String) :
    marked (typeMark mark) text = (if mark = some "type" then "type " else "") ++ text := by
  cases mark with
  | none => rfl
  | some mark =>
    by_cases h : mark = "type"
    · subst h
      rfl
    · simp [typeMark, marked, Option.filter, h]

lemma importSpecifierText_of_holds {specifier : ImportSpecifier} {name : WrittenName} (h : HoldsName specifier name) :
    importSpecifierText specifier = ({ name with mark := typeMark name.mark } : WrittenName).text := by
  rw [importSpecifierText, WrittenName.text, marked_typeMark, h.imported, h.renamed, h.typeOnly]
  simp only [decide_eq_true_eq, String.append_assoc]

lemma exportSpecifierText_of_holds {specifier : ExportSpecifier} {name : WrittenName} (h : HoldsListed specifier name) :
    exportSpecifierText specifier = ({ name with mark := none } : WrittenName).text := by
  rw [exportSpecifierText, WrittenName.text, h.localName, h.renamed]
  simp [marked]

lemma map_text_of_forall₂ {α : Type} {R : α → WrittenName → Prop} {f : α → String} {g : WrittenName → WrittenName}
    {specifiers : List α} {names : List WrittenName} (h : List.Forall₂ R specifiers names)
    (htext : ∀ specifier name, R specifier name → f specifier = (g name).text) :
    specifiers.map f = (names.map g).map WrittenName.text := by
  induction h with
  | nil => rfl
  | cons hR _ ih => rw [List.map_cons, List.map_cons, List.map_cons, htext _ _ hR, ih]

lemma isEmpty_of_forall₂ {α β : Type} {R : α → β → Prop} {l : List α} {m : List β} (h : List.Forall₂ R l m) :
    l.isEmpty = m.isEmpty := by
  cases h <;> rfl

lemma quotedString_text (quote : Char) (value : String) : quotedString quote value =
    quote.toString ++ String.ofList (escapedBy quote value.toList) ++ quote.toString := by
  rw [quotedString_eq]
  apply String.ext
  simp

/-- An import is printed from its form as what is left of what it says. -/
theorem importText_of_holds (style : Style) {form : ImportForm} {written : WrittenImport}
    (h : HoldsImport form written) :
    importText style form = (written.printed style.quote).text style := by
  have hnames := map_text_of_forall₂ h.names fun _ _ => importSpecifierText_of_holds
  have hempty := isEmpty_of_forall₂ h.names
  simp only [importText, WrittenImport.text, WrittenImport.printed, braced, joined, marked_typeMark, h.typeOnly,
    h.defaultName, h.namespaceName, h.source, hnames, hempty, List.isEmpty_map, quotedString_text, decide_eq_true_eq,
    String.append_assoc, Option.elim_none, String.empty_append, List.append_assoc]

theorem exportClauseText_of_holds (style : Style) {form : ExportForm Node} {written : WrittenExport}
    (h : HoldsExport form written) : "export " ++ exportClauseText style (form.map (printed style)) =
      written.printed.text style := by
  have hnames := map_text_of_forall₂ h.names fun _ _ => exportSpecifierText_of_holds
  simp only [exportClauseText, ExportForm.map, WrittenExport.text, WrittenExport.printed, braced, joined,
    marked_typeMark, h.typeOnly, h.source, hnames, decide_eq_true_eq, String.append_assoc, Option.elim_none,
    String.empty_append]

/-! ### What the tree says is what the form holds -/

section Reading

variable {source : List Char}

lemma typeOnly_markOf (tree : Tree) : tree.hasToken "type" = decide (markOf tree = some "type") := by
  rw [markOf]
  split
  · next h => simp [h]
  · split <;> simp_all

lemma importSpecifier_holds {tree : Tree} {specifier : ImportSpecifier}
    (h : OfTree.importSpecifier source tree = some specifier) : HoldsName specifier (writtenName source tree) := by
  obtain ⟨name, hname, rfl⟩ := Option.map_eq_some_iff.mp h
  exact ⟨by rw [writtenName, hname, Option.elim_some], rfl, typeOnly_markOf tree⟩

lemma exportSpecifier_holds {tree : Tree} {specifier : ExportSpecifier}
    (h : OfTree.exportSpecifier source tree = some specifier) : HoldsListed specifier (writtenName source tree) := by
  obtain ⟨name, hname, rfl⟩ := Option.map_eq_some_iff.mp h
  exact ⟨by rw [writtenName, hname, Option.elim_some], rfl⟩

lemma forall₂_of_mapM {α β γ : Type} {f : α → Option β} {g : α → γ} {R : β → γ → Prop}
    (hf : ∀ a b, f a = some b → R b (g a)) {l : List α} {result : List β} (h : l.mapM f = some result) :
    List.Forall₂ R result (l.map g) := by
  induction l generalizing result with
  | nil =>
    cases h
    exact .nil
  | cons a l ih =>
    rw [List.mapM_cons] at h
    obtain ⟨b, hb, h⟩ := Option.bind_eq_some_iff.mp h
    obtain ⟨rest, hrest, h⟩ := Option.bind_eq_some_iff.mp h
    cases h
    exact .cons (hf a b hb) (ih hrest)

/-- What the parts of a clause add to an import. -/
structure Extends (source : List Char) (parts : List Tree) (start form : ImportForm) : Prop where
  origin : form.source = start.source
  typeOnly : form.typeOnly = start.typeOnly
  defaultName : form.defaultName = (defaultIn source parts).or start.defaultName
  namespaceName : form.namespaceName = (namespaceIn source parts).or start.namespaceName
  names : ∃ specifiers, form.specifiers = start.specifiers ++ specifiers ∧
    List.Forall₂ HoldsName specifiers (namesIn source parts)

lemma extends_nil (start : ImportForm) : Extends source [] start start :=
  ⟨rfl, rfl, rfl, rfl, [], (List.append_nil _).symm, .nil⟩

lemma Extends.append {parts parts' : List Tree} {start middle form : ImportForm} (h : Extends source parts start middle)
    (h' : Extends source parts' middle form) : Extends source (parts ++ parts') start form := by
  obtain ⟨specifiers, hspecifiers, hnames⟩ := h.names
  obtain ⟨specifiers', hspecifiers', hnames'⟩ := h'.names
  refine ⟨h'.origin.trans h.origin, h'.typeOnly.trans h.typeOnly, ?_, ?_, specifiers ++ specifiers', ?_, ?_⟩
  · rw [h'.defaultName, h.defaultName, ← Option.or_assoc, defaultIn, defaultIn, defaultIn, List.filter_append,
      List.getLast?_append, Option.map_or]
  · rw [h'.namespaceName, h.namespaceName, ← Option.or_assoc, namespaceIn, namespaceIn, namespaceIn,
      List.filter_append, List.filterMap_append, List.getLast?_append, Option.map_or]
  · rw [hspecifiers', hspecifiers, List.append_assoc]
  · rw [namesIn, List.filter_append, List.flatMap_append]
    exact List.rel_append hnames hnames'

lemma extends_part {part : Tree} {start form : ImportForm}
    (h : OfTree.addClausePart source start part = some form) : Extends source [part] start form := by
  unfold OfTree.addClausePart at h
  split at h
  · next hkind =>
    cases h
    exact ⟨rfl, rfl, by simp [defaultIn, hkind], by simp [namespaceIn, hkind], [], by simp, by simp [namesIn, hkind]⟩
  · next hidentifier =>
    split at h
    · next hkind =>
      obtain ⟨name, hname, rfl⟩ := Option.map_eq_some_iff.mp h
      exact ⟨rfl, rfl, by simp [defaultIn, hkind], by simp [namespaceIn, hkind, hname], [], by simp,
        by simp [namesIn, hkind]⟩
    · next hnamespace =>
      split at h
      · next hkind =>
        obtain ⟨specifiers, hspecifiers, h⟩ := Option.bind_eq_some_iff.mp h
        cases h
        refine ⟨rfl, rfl, by simp [defaultIn, hkind], by simp [namespaceIn, hkind], specifiers, rfl, ?_⟩
        have hnames := forall₂_of_mapM (fun _ _ => importSpecifier_holds) hspecifiers
        simpa [namesIn, hkind] using hnames
      · next hnames =>
        cases h
        exact ⟨rfl, rfl, by simp [defaultIn, hidentifier], by simp [namespaceIn, hnamespace], [], by simp,
          by simp [namesIn, hnames]⟩

lemma extends_foldlM {parts : List Tree} {start form : ImportForm}
    (h : parts.foldlM (OfTree.addClausePart source) start = some form) : Extends source parts start form := by
  induction parts generalizing start with
  | nil =>
    cases h
    exact extends_nil form
  | cons part parts ih =>
    rw [List.foldlM_cons] at h
    obtain ⟨middle, hmiddle, hrest⟩ := Option.bind_eq_some_iff.mp h
    exact (extends_part hmiddle).append (ih hrest)

/-- The form of an import holds what its tree says. -/
theorem importForm_holds {tree : Tree} {form : ImportForm} (h : OfTree.importForm source tree = some form) :
    HoldsImport form (writtenImport source tree) := by
  obtain ⟨origin, horigin, h⟩ := Option.bind_eq_some_iff.mp h
  split at h
  · cases h
  · obtain ⟨specifiers, hspecifiers, hnames⟩ := (extends_foldlM h).names
    refine ⟨(extends_foldlM h).typeOnly.trans (typeOnly_markOf tree), ?_, ?_, ?_, ?_⟩
    · rw [(extends_foldlM h).defaultName, Option.or_none]
      rfl
    · rw [(extends_foldlM h).namespaceName, Option.or_none]
      rfl
    · rw [hspecifiers, List.nil_append]
      exact hnames
    · rw [(extends_foldlM h).origin, writtenImport, horigin, Option.elim_some]

/-- The form of a list of local exports holds what its tree says. -/
theorem exportClause_holds {tree : Tree} {form : ExportForm Node} (h : OfTree.exportClause source tree = some form)
    (hlocal : form.source = none) : HoldsExport form (writtenExport source tree) := by
  obtain ⟨clause, hclause, h⟩ := Option.bind_eq_some_iff.mp h
  obtain ⟨specifiers, hspecifiers, h⟩ := Option.bind_eq_some_iff.mp h
  cases h
  refine ⟨rfl, hlocal, typeOnly_markOf tree, ?_⟩
  rw [writtenExport, hclause, Option.elim_some]
  exact forall₂_of_mapM (fun _ _ => exportSpecifier_holds) hspecifiers

end Reading

end RouteMigration.Proofs
