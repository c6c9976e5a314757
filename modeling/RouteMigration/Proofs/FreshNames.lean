import RouteMigration.Proofs.RecordedConstructs
import RouteMigration.Proofs.TopLevelNames

/-!
# Names that come in

A default export that is passed on, or that has no name, brings in a binding. Its name is the first candidate that the
module neither declares nor refers to, in any depth, and a name that the source spells is never only text of a node.
-/

namespace RouteMigration.Proofs
open Syntax Route Grammar OfTree

/-! ### The first free candidate -/

/-- The name is the candidate of a number for the base name, and the first that is not taken. -/
structure IsFirstFree (taken : List String) (base name : String) (number : Nat) : Prop where
  candidate : name = candidate base number
  free : name ∉ taken
  before : ∀ earlier < number, Route.candidate base earlier ∈ taken
  /-- There are not more tries in vain than taken names. -/
  bound : number ≤ taken.length

/-- The search for a name ends, and it ends at the first candidate that is not taken. -/
theorem freshName_isFirstFree (taken : List String) (base : String) :
    ∃ number, IsFirstFree taken base (freshName taken base) number := by
  have hfree := freshName_not_mem taken base
  rw [freshName, List.find?_map] at hfree ⊢
  cases hfind : (List.range (taken.length + 1)).find? ((fun name => !taken.contains name) ∘ candidate base) with
  | some number =>
    obtain ⟨-, hrange, hbefore⟩ := List.find?_range_eq_some.mp hfind
    rw [hfind] at hfree
    refine ⟨number, rfl, hfree, fun earlier hearlier => ?_, Nat.lt_succ_iff.mp (List.mem_range.mp hrange)⟩
    simpa using hbefore earlier hearlier
  | none =>
    rw [hfind] at hfree
    refine ⟨0, rfl, hfree, fun earlier hearlier => absurd hearlier (Nat.not_lt_zero _), Nat.zero_le _⟩

/-! ### What a statement refers to -/

/-- What a tree refers to is what one of its nodes does. -/
lemma mem_referencedNames {node : Node} {name : String} :
    name ∈ node.referencedNames ↔ ∃ inner ∈ node.descendants, name ∈ inner.form.ownNames := by
  induction node using node_induction with
  | h info form ih =>
    rw [referencedNames_eq, descendants_eq, List.mem_append, List.mem_flatMap]
    constructor
    · rintro (hown | ⟨child, hchild, hname⟩)
      · exact ⟨_, List.mem_cons_self, hown⟩
      · obtain ⟨inner, hinner, hname⟩ := (ih child hchild).mp hname
        exact ⟨inner, List.mem_cons_of_mem _ (List.mem_flatMap.mpr ⟨child, hchild, hinner⟩), hname⟩
    · rintro ⟨inner, hinner, hname⟩
      rcases List.mem_cons.mp hinner with rfl | hinner
      · exact .inl hname
      · obtain ⟨child, hchild, hinner⟩ := List.mem_flatMap.mp hinner
        exact .inr ⟨child, hchild, (ih child hchild).mpr ⟨inner, hinner, hname⟩⟩

/-- Statements take the names that each of them declares or refers to. -/
lemma mem_takenNames {body : List Node} {name : String} : name ∈ takenNames body ↔
    ∃ statement ∈ body, name ∈ statement.declaredNames ∨ name ∈ statement.referencedNames := by
  rw [takenNames, List.mem_append, List.mem_flatMap, List.mem_flatMap]
  constructor
  · rintro (⟨statement, hstatement, hname⟩ | ⟨statement, hstatement, hname⟩)
    · exact ⟨statement, hstatement, .inl hname⟩
    · exact ⟨statement, hstatement, .inr hname⟩
  · rintro ⟨statement, hstatement, hname | hname⟩
    · exact .inl ⟨statement, hstatement, hname⟩
    · exact .inr ⟨statement, hstatement, hname⟩

/-- A specifier that passes something on takes no name. -/
lemma names_eraseSpecifier {statement : Node} {form : ExportForm Node} {source : String} (index : Nat)
    (hform : statement.form = .exportNamed form) (hsource : form.source = some source) :
    (eraseSpecifier index statement).declaredNames = statement.declaredNames ∧
      (eraseSpecifier index statement).referencedNames = statement.referencedNames := by
  have herase : (eraseSpecifier index statement).form =
      .exportNamed { form with specifiers := form.specifiers.eraseIdx index } := by
    rw [eraseSpecifier, hform]
    rfl
  constructor
  · rw [declaredNames_exportNamed herase, declaredNames_exportNamed hform]
  · rw [referencedNames_eq, referencedNames_eq statement, Node.children, Node.children, herase, hform, Form.ownNames,
      Form.ownNames, hsource]
    rfl

lemma takenNames_modify {body : List Node} {index : Nat} {f : Node → Node}
    (h : ∀ statement ∈ body[index]?, (f statement).declaredNames = statement.declaredNames ∧
      (f statement).referencedNames = statement.referencedNames) :
    takenNames ((Draft.ofBody body).modify (.statement index) f).body = takenNames body := by
  have hview {view : Node → List String} (hf : ∀ statement ∈ body[index]?, view (f statement) = view statement) :
      ((Draft.ofBody body).modify (.statement index) f).body.flatMap view = body.flatMap view := by
    have hbody : body = (Draft.ofBody body).entries.map (·.node) := (body_ofBody body).symm
    conv_rhs => rw [hbody, List.flatMap_map]
    rw [Draft.body, entries_modify, List.map_map, List.flatMap_map]
    refine List.flatMap_congr fun entry hentry => ?_
    rw [Function.comp_apply]
    split
    · next horigin =>
      obtain ⟨place, hplace, hget⟩ := mem_ofBody.mp hentry
      rw [hplace, Origin.statement.injEq] at horigin
      exact hf _ (horigin ▸ hget)
    · rfl
  rw [takenNames, hview fun statement hstatement => (h statement hstatement).1,
    hview fun statement hstatement => (h statement hstatement).2]
  rfl

/-! ### Bindings that come in -/

/-- The name that a declaration has of its own. -/
def ownName? (declaration : Node) : Option String :=
  match declaration.form with
  | .functionDeclaration form => form.name
  | .classDeclaration name _ => name
  | _ => none

/-- The name that is asked for where a default export brings in a binding: it is passed on, or it has no name. -/
def requestedName (settings : Settings) (module : Module) : DefaultExport → Option String
  | .forwarded imported _ _ _ => some (if imported = "default" then settings.componentName else imported)
  | .inline index =>
    match (module.body[index]?).map Node.form with
    | some (.exportDefault declaration) => if (ownName? declaration).isNone then some settings.componentName else none
    | _ => none
  | .referenced _ _ _ _ => none

/-- The statement declares the name, and no other one. -/
structure DeclaresOnly (name : String) (statement : Node) : Prop where
  declares : name ≠ "" → name ∈ statement.declaredNames
  only : ∀ declared ∈ statement.declaredNames, declared = name

lemma declaresOnly_of_given {name : String} {statement : Node} (h : statement.declaredNames = (given (some name)).toList) :
    DeclaresOnly name statement where
  declares := by
    intro hne
    rw [h, given, Option.filter_some, if_pos (by simpa using hne)]
    exact List.mem_singleton_self _
  only := by
    intro declared hdeclared
    rw [h, Option.mem_toList, given, Option.filter_eq_some_iff] at hdeclared
    exact (Option.some.inj hdeclared.1).symm

lemma declaresOnly_of_singleton {name : String} {statement : Node} (h : statement.declaredNames = [name]) :
    DeclaresOnly name statement where
  declares _ := h ▸ List.mem_singleton_self _
  only _ hdeclared := List.mem_singleton.mp (h ▸ hdeclared)

/-- The import of a component declares the name that was found for it. -/
lemma declaresOnly_componentImport (gap : Option String) {imported source base : String} {number : Nat}
    (h : imported ≠ "default" → base = imported) :
    DeclaresOnly (candidate base number) (withGap gap (componentImport imported source (candidate base number))) := by
  have hlocal := @localName_componentBinding base imported source number h
  rw [Binding.localName, componentBinding] at hlocal
  by_cases hdefault : imported = "default"
  · refine declaresOnly_of_given ?_
    rw [componentImport, if_pos hdefault]
    exact List.append_nil _
  · refine declaresOnly_of_singleton ?_
    rw [if_neg hdefault] at hlocal
    rw [componentImport, if_neg hdefault]
    exact congrArg (fun name => [name]) hlocal

/-- A default export without a name is inlined under the fresh one. -/
lemma inlineStatement_unnamed (fresh : String) {statement declaration : Node}
    (hform : statement.form = .exportDefault declaration) (hname : ownName? declaration = none) :
    (inlineStatement fresh statement).2 = fresh ∧ DeclaresOnly fresh (inlineStatement fresh statement).1 := by
  obtain ⟨hinline, hinlineName⟩ := inlineStatement_default fresh hform
  rcases inlineComponent_cases fresh declaration with ⟨form, hfunction, hcomponent, hcomponentName⟩ |
    ⟨own, tail, hclass, hcomponent, hcomponentName⟩ | ⟨-, -, hcomponent⟩
  · have hnone : form.name = none := by rwa [ownName?, hfunction] at hname
    rw [hnone] at hcomponent hcomponentName
    refine ⟨hinlineName.trans hcomponentName, declaresOnly_of_given ?_⟩
    rw [Node.declaredNames, hinline, hcomponent, Node.boundByDeclaration, hinline, hcomponent]
    rfl
  · have hnone : own = none := by rwa [ownName?, hclass] at hname
    rw [hnone] at hcomponent hcomponentName
    refine ⟨hinlineName.trans hcomponentName, declaresOnly_of_given ?_⟩
    rw [Node.declaredNames, hinline, hcomponent, Node.boundByDeclaration, hinline, hcomponent]
    rfl
  · have hsame : (inlineStatement fresh statement).1.form = (constant fresh declaration).form := by rw [hinline, hcomponent]
    refine ⟨by rw [hinlineName, hcomponent], declaresOnly_of_singleton ?_⟩
    rw [Node.declaredNames, hsame, constant, Node.make, Node.form, Node.boundByDeclaration, hsame]
    rfl

/-- A binding came into a draft: one entry declares it, and no other one declares the name or refers to it. -/
structure Introduced (name : String) (draft : Draft) (before : List Entry) (own : Entry) (after : List Entry) : Prop where
  entries : draft.entries = before ++ own :: after
  declares : DeclaresOnly name own.node
  apart : ∀ entry ∈ before ++ after, name ∉ entry.node.declaredNames ∧ name ∉ entry.node.referencedNames

lemma apart_of_free {name : String} {body : List Node} (hfree : name ∉ takenNames body) {statement : Node}
    (hstatement : statement ∈ body) : name ∉ statement.declaredNames ∧ name ∉ statement.referencedNames :=
  ⟨fun hname => hfree (mem_takenNames.mpr ⟨statement, hstatement, .inl hname⟩),
    fun hname => hfree (mem_takenNames.mpr ⟨statement, hstatement, .inr hname⟩)⟩

section Detached

variable {settings : Settings} {module : Module} {base : String}

/-- A component that is passed on is imported under the first free name. -/
lemma introduced_forwarded {imported source : String} {statement specifier : Nat}
    (hdefault : .forwarded imported source statement specifier ∈ defaultExports module)
    (hbase : requestedName settings module (.forwarded imported source statement specifier) = some base) :
    let result := detachDefault settings (.ofBody module.body) (.forwarded imported source statement specifier)
    result.2 = (Draft.ofBody module.body).freshName base ∧
      ∃ before own after, Introduced result.2 result.1 before own after := by
  intro result
  obtain ⟨exporting, hget, hat⟩ := mem_defaultExports.mp hdefault
  let unlisted := (Draft.ofBody module.body).modify (.statement statement) (eraseSpecifier specifier)
  have htaken : takenNames unlisted.body = takenNames module.body := by
    refine takenNames_modify fun other hother => ?_
    obtain rfl := Option.some.inj (hget.symm.trans hother)
    cases hat with
    | forwarded hform _ _ _ _ hsource => exact names_eraseSpecifier specifier hform hsource
  have hbase : (if imported = "default" then settings.componentName else imported) = base := Option.some.inj hbase
  have hname : result.2 = (Draft.ofBody module.body).freshName base := by
    rw [Draft.freshName, body_ofBody, ← htaken, ← hbase]
    rfl
  refine ⟨hname, ?_⟩
  obtain ⟨number, hfirst⟩ := freshName_isFirstFree (takenNames module.body) base
  rw [Draft.freshName, body_ofBody] at hname
  rw [← hname] at hfirst
  let gap := (unlisted.find? (.statement statement)).bind (·.info.gap)
  obtain ⟨before, after, hsplit, hinsert⟩ := entries_insertBefore unlisted (.statement statement)
    ⟨.component, withGap gap (componentImport imported source result.2)⟩
  refine ⟨before, _, after, hinsert, ?_, fun entry hentry => ?_⟩
  · rw [hfirst.candidate]
    exact declaresOnly_componentImport gap fun hne => hbase.symm.trans (if_neg hne)
  · rw [← hsplit] at hentry
    exact apart_of_free (htaken ▸ hfirst.free) (List.mem_map_of_mem hentry)

/-- A default export without a name is declared under the first free one. -/
lemma introduced_inline {index : Nat} (hdefault : .inline index ∈ defaultExports module)
    (hbase : requestedName settings module (.inline index) = some base) :
    let result := detachDefault settings (.ofBody module.body) (.inline index)
    result.2 = (Draft.ofBody module.body).freshName base ∧
      ∃ before own after, Introduced result.2 result.1 before own after := by
  intro result
  obtain ⟨statement, hget, hat⟩ := mem_defaultExports.mp hdefault
  obtain ⟨declaration, hform⟩ : ∃ declaration, statement.form = .exportDefault declaration := by
    cases hat with
    | inline hform _ => exact ⟨_, hform⟩
  have hget : module.body[index]? = some statement := hget
  rw [requestedName, hget, Option.map_some, hform] at hbase
  dsimp only at hbase
  split at hbase
  · next hown =>
    obtain rfl := Option.some.inj hbase
    let fresh := (Draft.ofBody module.body).freshName settings.componentName
    have hmem : ⟨.statement index, statement⟩ ∈ (Draft.ofBody module.body).entries :=
      mem_ofBody.mpr ⟨index, rfl, hget⟩
    obtain ⟨hinlined, hdeclares⟩ := inlineStatement_unnamed fresh hform (Option.isNone_iff_eq_none.mp hown)
    have hname : result.2 = fresh := by
      rw [← hinlined]
      have hfind := (distinct_ofBody module.body).find? hmem
      change (((Draft.ofBody module.body).find? _).map fun node => (inlineStatement fresh node).2).getD fresh = _
      rw [hfind]
      rfl
    refine ⟨hname, ?_⟩
    obtain ⟨before, after, hentries, hmodify⟩ := (distinct_ofBody module.body).split_modify hmem
      fun node => (inlineStatement fresh node).1
    have hfree : fresh ∉ takenNames module.body := by
      have hfree : fresh ∉ takenNames (Draft.ofBody module.body).body := freshName_not_mem _ _
      rwa [body_ofBody] at hfree
    rw [hname]
    refine ⟨before, _, after, hmodify, hdeclares, fun entry hentry => apart_of_free hfree ?_⟩
    rw [← body_ofBody module.body, Draft.body, hentries]
    refine List.mem_map_of_mem ?_
    rcases List.mem_append.mp hentry with hentry | hentry
    · exact List.mem_append_left _ hentry
    · exact List.mem_append_right _ (List.mem_cons_of_mem _ hentry)
  · cases hbase

end Detached

/-! ### Names in the source -/

variable (source : List Char) in
/-- In the stretch of the source that is the text of the node, every name of the grammar is spelled otherwise, unless it is
the name of a function expression. -/
structure SpelledOtherwise (root tree : Tree) (whole : Span) (node : Node) (name : String) : Prop where
  construct : HasConstruct root tree
  place : node.span = some whole
  within : Within whole tree.span
  otherwise : ∀ inner, HasConstruct tree inner → Within inner.span whole → inner.isNamed = true →
    inner.kind ∈ identifierKinds → textOf source inner ≠ name ∨
      ∃ (function : Tree) (form : FunctionForm Node), inner ∈ function.children ∧ inner.field = some "name" ∧
        read source function.span (.functionExpression form) ∈ node.descendants

/-- What no node refers to is spelled nowhere in the text of the node. -/
lemma TellsApart.spelledOtherwise {source : List Char} {root tree : Tree} {whole : Span} {node : Node} {name : String}
    (h : TellsApart source root tree whole node) (hfree : ∀ inner ∈ node.descendants, name ∉ inner.form.ownNames) :
    SpelledOtherwise source root tree whole node name where
  construct := h.construct
  place := h.place
  within := h.within
  otherwise := by
    intro inner hinner hwithin hnamed hkind
    cases h.records inner hinner hwithin hnamed (.name hkind) with
    | node hmem hform =>
      left
      rintro rfl
      have hown := hfree _ hmem
      rename_i form
      cases form with
      | identifier own isType =>
        obtain ⟨-, hown', -⟩ := hform
        exact hown (hown' ▸ List.mem_singleton_self _)
      | call => exact absurd hkind (by rw [show inner.kind = _ from hform]; decide)
      | arrowFunction => exact absurd hkind (by rw [show inner.kind = _ from hform]; decide)
      | verbatim => exact absurd hkind (by rw [hform.1]; decide)
      | _ => exact hform
    | name hmem hrole hfunction _ => exact .inr ⟨_, _, hmem, hrole, hfunction⟩

/-- The search for a name ends at the first candidate that a module neither declares nor refers to. The binding that comes in
for a default export has that name: one statement declares it, no other one does, no node of the module refers to it in any
depth, and no name in the text of a body, a list of parameters or any other stretch of text is spelled so. -/
theorem detachDefault_fresh {settings : Settings} {module : Module} {default : DefaultExport} {base : String}
    (hdefault : findDefaultExport module = some default) (hbase : requestedName settings module default = some base) :
    (∀ wanted, ∃ number, IsFirstFree (module.declaredNames ++ module.referencedNames) wanted
      ((Draft.ofBody module.body).freshName wanted) number) ∧
    let result := detachDefault settings (.ofBody module.body) default
    result.2 = (Draft.ofBody module.body).freshName base ∧
    (∃ before own after, Introduced result.2 result.1 before own after) ∧
    (∀ statement ∈ module.body, ∀ node ∈ statement.descendants, result.2 ∉ node.form.ownNames) ∧
    ∀ source path, Module.parse source path = .ok module →
      ∃ root, Grammar.parse (.ofPath path) source.toList = .ok root ∧
        ∀ statement ∈ module.body, ∀ node ∈ statement.descendants, isLaidOut node = true →
          ∃ tree whole, SpelledOtherwise source.toList root tree whole node result.2 := by
  have hfirst (wanted : String) : ∃ number, IsFirstFree (module.declaredNames ++ module.referencedNames) wanted
      ((Draft.ofBody module.body).freshName wanted) number := by
    rw [Draft.freshName, body_ofBody]
    exact freshName_isFirstFree (takenNames module.body) wanted
  refine ⟨hfirst, ?_⟩
  intro result
  have hmem := List.mem_of_getLast? hdefault
  obtain ⟨hname, hintroduced⟩ : result.2 = (Draft.ofBody module.body).freshName base ∧
      ∃ before own after, Introduced result.2 result.1 before own after := by
    cases default with
    | inline index => exact introduced_inline hmem hbase
    | forwarded imported source statement specifier => exact introduced_forwarded hmem hbase
    | referenced name statement specifier resolved => cases hbase
  have hfree : ∀ statement ∈ module.body, ∀ node ∈ statement.descendants, result.2 ∉ node.form.ownNames := by
    intro statement hstatement node hnode hown
    obtain ⟨number, hfirst⟩ := hfirst base
    rw [hname] at hown
    exact (apart_of_free hfirst.free hstatement).2 (mem_referencedNames.mpr ⟨node, hnode, hown⟩)
  refine ⟨hname, hintroduced, hfree, fun source path hparse => ?_⟩
  obtain ⟨root, hroot, htells⟩ := tellsApart_of_parse hparse
  refine ⟨root, hroot, fun statement hstatement node hnode hlaidOut => ?_⟩
  obtain ⟨tree, whole, hapart⟩ := htells statement hstatement node hnode hlaidOut
  refine ⟨tree, whole, hapart.spelledOtherwise fun inner hinner => ?_⟩
  exact hfree statement hstatement inner (mem_descendants_trans hnode hinner)

def clashingPage : String :=
  "export const loader = (x = RouteComponent) => x;\n\nexport default () => null;\n"

theorem clashingPage_fresh : ∃ module default, Module.parse clashingPage "routes/a.tsx" = .ok module ∧
    findDefaultExport module = some default ∧ requestedName defaultSettings module default = some "RouteComponent" ∧
    "RouteComponent" ∈ module.referencedNames ∧
    (detachDefault defaultSettings (.ofBody module.body) default).2 = "RouteComponent2" ∧
    ∃ before own after,
      Introduced "RouteComponent2" (detachDefault defaultSettings (.ofBody module.body) default).1 before own after := by
  have hrun : ((Module.parse clashingPage "routes/a.tsx").toOption.any fun module =>
      (findDefaultExport module).any fun default =>
        requestedName defaultSettings module default = some "RouteComponent" ∧
        "RouteComponent" ∈ module.referencedNames ∧
        (detachDefault defaultSettings (.ofBody module.body) default).2 = "RouteComponent2") = true := by decide +kernel
  obtain ⟨module, hparse, hrun⟩ := exists_of_any_toOption hrun
  obtain ⟨default, hdefault, hrun⟩ := (Option.any_eq_true _ _).mp hrun
  obtain ⟨hbase, hreferenced, hname⟩ := of_decide_eq_true hrun
  obtain ⟨-, -, hintroduced, -, -⟩ := detachDefault_fresh hdefault hbase
  rw [hname] at hintroduced
  exact ⟨module, default, hparse, hdefault, hbase, hreferenced, hname, hintroduced⟩

end RouteMigration.Proofs
