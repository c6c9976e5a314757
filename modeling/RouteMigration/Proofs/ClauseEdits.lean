import RouteMigration.Proofs.RequestedImports
import RouteMigration.Proofs.RemovedImports
import RouteMigration.Proofs.WrittenClauses

/-!
# Edits of clauses

Edits that add names to imports, or take names out of imports and lists of exports. Each of them changes statements one
by one, in their forms alone, so that what a statement says can be followed through any sequence of edits.
-/

namespace RouteMigration.Proofs
open Syntax Route

/-- An edit that only adds or removes names. -/
inductive ClauseEdit where
  | add (pending : PendingImports)
  | remove (isLegacy : String → Bool) (name : String)
  | unlist (names : List String)
  | prune

def ClauseEdit.apply (body : List Node) : ClauseEdit → List Node
  | .add pending => applyImports body pending
  | .remove isLegacy name => (removeImport isLegacy [] name body).1
  | .unlist names => body.map (Route.unlist names)
  | .prune => pruneExports body

/-- Edits one after the other. -/
def applyEdits (edits : List ClauseEdit) (body : List Node) : List Node :=
  edits.foldl ClauseEdit.apply body

/-! ### What the edits mean -/

def WrittenName.localName (name : WrittenName) : String :=
  name.renamed.getD name.name

/-- The import with further names. -/
def WrittenImport.including (names : List String) (written : WrittenImport) : WrittenImport :=
  { written with names := written.names ++ names.map fun name => { mark := none, name, renamed := none } }

/-- The import without the binding of a name. -/
def WrittenImport.without (name : String) (written : WrittenImport) : WrittenImport :=
  { written with
    names := written.names.filter (·.localName ≠ name)
    defaultName := if written.defaultName = some name then none else written.defaultName
    namespaceName := if written.namespaceName = some name then none else written.namespaceName }

/-- What an edit makes of an import. -/
inductive ImportEdited : ClauseEdit → WrittenImport → WrittenImport → Prop where
  | added {pending : PendingImports} {written : WrittenImport} {names : List String} :
      (∀ name ∈ names, name ∈ pending.namesFrom written.literal) →
      ImportEdited (.add pending) written (written.including names)
  | removed {isLegacy : String → Bool} {name : String} {written : WrittenImport} :
      ImportEdited (.remove isLegacy name) written
        (if isLegacy written.literal then written.without name else written)
  | unlisted {names : List String} {written : WrittenImport} : ImportEdited (.unlist names) written written
  | pruned {written : WrittenImport} : ImportEdited .prune written written

/-- What edits one after the other make of an import. -/
inductive ImportTraced : List ClauseEdit → WrittenImport → WrittenImport → Prop where
  | nil {written : WrittenImport} : ImportTraced [] written written
  | snoc {edits : List ClauseEdit} {edit : ClauseEdit} {first second third : WrittenImport} :
      ImportTraced edits first second → ImportEdited edit second third → ImportTraced (edits ++ [edit]) first third

/-- What an edit makes of a list of exports. -/
def WrittenExport.edited (written : WrittenExport) : ClauseEdit → WrittenExport
  | .unlist names => { written with names := written.names.filter fun name => !names.contains name.localName }
  | _ => written

/-! ### What the edits do to the forms -/

/-- What an edit makes of the form of an import. -/
inductive FormEdited : ClauseEdit → ImportForm → ImportForm → Prop where
  | added {pending : PendingImports} {form : ImportForm} {names : List String} :
      (∀ name ∈ names, name ∈ pending.namesFrom form.source) →
      FormEdited (.add pending) form (addSpecifiers (specifiersOf names) form)
  | removed {isLegacy : String → Bool} {name : String} {form : ImportForm} :
      FormEdited (.remove isLegacy name) form (if isLegacy form.source then unbind name form else form)
  | unlisted {names : List String} {form : ImportForm} : FormEdited (.unlist names) form form
  | pruned {form : ImportForm} : FormEdited .prune form form

/-- What an edit makes of the form of a list of exports. -/
def exportEdited (form : ExportForm Node) : ClauseEdit → ExportForm Node
  | .unlist names => withoutExports names form
  | _ => form

lemma HoldsName.localName {specifier : ImportSpecifier} {name : WrittenName} (h : HoldsName specifier name) :
    specifier.localName = name.localName := by
  rw [ImportSpecifier.localName, h.renamed, h.imported, WrittenName.localName]

lemma HoldsListed.exported {specifier : ExportSpecifier} {name : WrittenName} (h : HoldsListed specifier name) :
    specifier.exported = name.localName := by
  rw [ExportSpecifier.exported, h.renamed, h.localName, WrittenName.localName]

lemma forall₂_filter {α β : Type} {R : α → β → Prop} {p : α → Bool} {q : β → Bool} {l : List α} {m : List β}
    (h : List.Forall₂ R l m) (hpq : ∀ a b, R a b → p a = q b) : List.Forall₂ R (l.filter p) (m.filter q) := by
  induction h with
  | nil => exact .nil
  | @cons a b l m hab _ ih =>
    rw [List.filter_cons, List.filter_cons, hpq a b hab]
    split
    · exact .cons hab ih
    · exact ih

lemma given_unbind (name : String) (bound : Option String) :
    given (if bound = some name then none else bound) = if given bound = some name then none else given bound := by
  by_cases hname : bound = some name
  · rw [if_pos hname, hname, given, given, Option.filter_some]
    split <;> simp
  · have hgiven : given bound ≠ some name := fun h => hname (Option.filter_eq_some_iff.mp h).1
    rw [if_neg hname, if_neg hgiven]

/-- The form of an edited import holds what the edited import says. -/
lemma HoldsImport.edited {edit : ClauseEdit} {form form' : ImportForm} {written : WrittenImport}
    (h : HoldsImport form written) (hedited : FormEdited edit form form') :
    ∃ written', ImportEdited edit written written' ∧ HoldsImport form' written' := by
  cases hedited with
  | @added pending _ names hnames =>
    refine ⟨written.including names, .added (h.source ▸ hnames), { h with names := ?_ }⟩
    refine List.rel_append h.names ?_
    rw [specifiersOf, List.forall₂_map_left_iff, List.forall₂_map_right_iff, List.forall₂_same]
    exact fun name _ => ⟨rfl, rfl, rfl⟩
  | @removed isLegacy name _ =>
    refine ⟨_, .removed, ?_⟩
    rw [← h.source]
    split
    · have hnames : List.Forall₂ HoldsName (unbind name form).specifiers (written.without name).names :=
        forall₂_filter h.names fun specifier name' hholds => by rw [hholds.localName]
      refine { h with names := hnames, defaultName := ?_, namespaceName := ?_ }
      · rw [unbind, given_unbind, h.defaultName]
        rfl
      · rw [unbind, given_unbind, h.namespaceName]
        rfl
    · exact h
  | unlisted => exact ⟨written, .unlisted, h⟩
  | pruned => exact ⟨written, .pruned, h⟩

/-- The form of an edited list of exports holds what the edited list says. -/
lemma HoldsExport.edited {form : ExportForm Node} {written : WrittenExport} (h : HoldsExport form written)
    (edit : ClauseEdit) : HoldsExport (exportEdited form edit) (written.edited edit) := by
  cases edit with
  | unlist names =>
    exact { h with names := forall₂_filter h.names fun specifier name hholds => by rw [hholds.exported] }
  | add _ | remove _ _ | prune => exact h

/-! ### What the edits do to a body -/

lemma withForm_of_import {statement : Node} {form : ImportForm} (h : import? statement = some form) :
    statement.withForm (.importDeclaration form) = statement := by
  obtain ⟨info, nodeForm⟩ := statement
  cases nodeForm <;> simp_all [import?, Node.form, Node.withForm, Node.info]

lemma withForm_of_export {statement : Node} {form : ExportForm Node} (h : localExport? statement = some form) :
    statement.withForm (.exportNamed form) = statement := by
  obtain ⟨hform, -, -⟩ := localExport?_eq_some h
  obtain ⟨info, nodeForm⟩ := statement
  exact congrArg (Node.mk info) hform.symm

lemma mapImport_eq_withForm {statement : Node} {form : ImportForm} (h : import? statement = some form)
    (f : ImportForm → ImportForm) : mapImport f statement = statement.withForm (.importDeclaration (f form)) := by
  obtain ⟨info, nodeForm⟩ := statement
  cases nodeForm <;> simp_all [import?, mapImport, Node.form]

/-- A legacy import without the binding of a name; nothing if it was the last one. -/
def withoutName (isLegacy : String → Bool) (name : String) (statement : Node) : Option Node :=
  match import? statement with
  | some form =>
    if isLegacy form.source ∧ unbind name form ≠ form then
      if (unbind name form).isEmpty then none
      else some (statement.withForm (.importDeclaration (unbind name form)))
    else some statement
  | none => some statement

lemma unbindAt_of_no_replacement (name : String) (places : Places) (index : Nat) (form : ImportForm) :
    unbindAt [] name places index form =
      if (unbind name form).isEmpty then places.set index none else setImport places index (unbind name form) := by
  rw [unbindAt]
  rfl

/-- What the removal of a name without replacements makes of the places when it comes to one of them. -/
lemma removal_at (isLegacy : String → Bool) (name : String) (before after : Places) (statement : Node) :
    ((importAt? (before ++ some statement :: after) before.length).bind
      (removal isLegacy [] name (before ++ some statement :: after) before.length)).getD
        (before ++ some statement :: after) = before ++ withoutName isLegacy name statement :: after := by
  have himport : importAt? (before ++ some statement :: after) before.length = import? statement := by simp [importAt?]
  rw [himport, withoutName]
  cases hform : import? statement with
  | none => rfl
  | some form =>
    rw [Option.bind_some, removal]
    dsimp only
    split
    · rw [Option.getD_some, unbindAt_of_no_replacement]
      split
      · simp
      · obtain ⟨node, hnode, -, hset⟩ := importAt?_eq_some (himport.trans hform)
        have hsame : node = statement := by simpa using hnode.symm
        rw [hset, hsame]
        simp
    · rw [Option.getD_none]

/-- The places of a body when a removal without replacements has visited the first of them. -/
def reachedPlaces (isLegacy : String → Bool) (name : String) (body : List Node) (visited : Nat) : Places :=
  (body.take visited).map (withoutName isLegacy name) ++ (body.drop visited).map some

/-- From one place to the next, a removal changes the statement that stands there. -/
lemma reachedPlaces_succ (isLegacy : String → Bool) (name : String) (body : List Node) (visited : Nat) :
    reachedPlaces isLegacy name body (visited + 1) =
      ((importAt? (reachedPlaces isLegacy name body visited) visited).bind
        (removal isLegacy [] name (reachedPlaces isLegacy name body visited) visited)).getD
          (reachedPlaces isLegacy name body visited) := by
  by_cases hlt : visited < body.length
  · have hlength : visited = ((body.take visited).map (withoutName isLegacy name)).length := by simp; omega
    have hreached : reachedPlaces isLegacy name body visited = (body.take visited).map (withoutName isLegacy name) ++
        some body[visited] :: (body.drop (visited + 1)).map some := by
      rw [reachedPlaces, List.drop_eq_getElem_cons hlt, List.map_cons]
    have hsucc : reachedPlaces isLegacy name body (visited + 1) =
        (body.take visited).map (withoutName isLegacy name) ++
          withoutName isLegacy name body[visited] :: (body.drop (visited + 1)).map some := by
      rw [reachedPlaces, List.take_succ_eq_append_getElem hlt, List.map_append, List.map_cons, List.map_nil,
        List.append_assoc, List.singleton_append]
    rw [hsucc, hreached, ← removal_at, ← hlength]
  · -- behind the last place there is nothing to change
    have hsame : reachedPlaces isLegacy name body (visited + 1) = reachedPlaces isLegacy name body visited := by
      rw [reachedPlaces, reachedPlaces, List.take_of_length_le (by omega), List.take_of_length_le (by omega),
        List.drop_of_length_le (by omega), List.drop_of_length_le (by omega)]
    have hnone : importAt? (reachedPlaces isLegacy name body visited) visited = none := by
      have hle : (reachedPlaces isLegacy name body visited).length ≤ visited := by simp [reachedPlaces]; omega
      rw [importAt?, List.getElem?_eq_none hle]
      rfl
    rw [hsame, hnone]
    rfl

/-- Without replacements, a removal changes every statement by itself. -/
theorem removeImport_eq_filterMap (isLegacy : String → Bool) (name : String) (body : List Node) :
    (removeImport isLegacy [] name body).1 = body.filterMap (withoutName isLegacy name) := by
  obtain ⟨edited, count, hrun, rfl⟩ := editImports_run (removal isLegacy [] name) body
    (fun visited edited _ => edited = reachedPlaces isLegacy name body visited) rfl
    (fun visited _ _ hplaces hskip => by rw [reachedPlaces_succ, ← hplaces, hskip]; rfl)
    (fun visited _ _ edited hplaces hstep => by rw [reachedPlaces_succ, ← hplaces, hstep]; rfl)
  rw [removeImport_eq, hrun]
  simp only [reachedPlaces, statements, List.take_length, List.drop_length, List.map_nil, List.append_nil,
    List.filterMap_map]
  rfl

/-- What an edit makes of a statement. -/
inductive NodeEdited (edit : ClauseEdit) (statement : Node) : Node → Prop where
  | imported {form form' : ImportForm} : import? statement = some form → FormEdited edit form form' →
      NodeEdited edit statement (statement.withForm (.importDeclaration form'))
  | exported {form : ExportForm Node} : localExport? statement = some form →
      NodeEdited edit statement (statement.withForm (.exportNamed (exportEdited form edit)))
  | other : import? statement = none → localExport? statement = none → NodeEdited edit statement statement

/-- An edit leaves a statement alone if it leaves its form alone. -/
lemma nodeEdited_self {edit : ClauseEdit} {statement : Node}
    (himport : ∀ form, import? statement = some form → FormEdited edit form form)
    (hexport : ∀ form, localExport? statement = some form → exportEdited form edit = form) :
    NodeEdited edit statement statement := by
  cases hform : import? statement with
  | some form =>
    have h := NodeEdited.imported hform (himport form hform)
    rwa [withForm_of_import hform] at h
  | none =>
    cases hlist : localExport? statement with
    | some form =>
      have h := @NodeEdited.exported edit _ _ hlist
      rwa [hexport form hlist, withForm_of_export hlist] at h
    | none => exact .other hform hlist

lemma formEdited_add_self (pending : PendingImports) (form : ImportForm) : FormEdited (.add pending) form form := by
  have h := @FormEdited.added pending form [] (List.forall_mem_nil _)
  rwa [specifiersOf, List.map_nil, addSpecifiers, List.append_nil] at h

lemma nodeEdited_add {body : List Node} {pending : PendingImports} {statement : Node}
    (h : statement ∈ applyImports body pending) : (∃ origin ∈ body, NodeEdited (.add pending) origin statement) ∨
      ∃ source form, statement = Node.make (.importDeclaration form) ∧ FormEdited (.add pending) { source } form := by
  have hself (origin : Node) : NodeEdited (.add pending) origin origin :=
    nodeEdited_self (fun form _ => formEdited_add_self pending form) fun _ _ => rfl
  have hmissing {source : String} : ∀ name ∈ missingNames body pending source, name ∈ pending.namesFrom source :=
    fun _ hname => List.mem_of_mem_filter hname
  rw [applyImports_placed, List.mem_append, List.mem_append] at h
  rcases h with (h | h) | h
  · exact .inl ⟨statement, List.takeWhile_subset _ h, hself statement⟩
  · obtain ⟨source, -, rfl⟩ := List.mem_map.mp h
    exact .inr ⟨source, _, rfl, @FormEdited.added pending { source } _ hmissing⟩
  · obtain ⟨index, hlt, rfl⟩ := List.mem_mapIdx.mp (List.mem_of_mem_drop h)
    refine .inl ⟨body[index], List.getElem_mem hlt, ?_⟩
    cases himport : import? body[index] with
    | none =>
      rw [withNames_of_none himport]
      exact hself _
    | some form =>
      rw [withNames_of_import himport]
      split
      · rw [mapImport_eq_withForm himport]
        exact .imported himport (.added hmissing)
      · exact hself _

lemma nodeEdited_remove {body : List Node} {isLegacy : String → Bool} {name : String} {statement : Node}
    (h : statement ∈ (removeImport isLegacy [] name body).1) :
    ∃ origin ∈ body, NodeEdited (.remove isLegacy name) origin statement := by
  rw [removeImport_eq_filterMap, List.mem_filterMap] at h
  obtain ⟨origin, horigin, hleft⟩ := h
  refine ⟨origin, horigin, ?_⟩
  rw [withoutName] at hleft
  cases himport : import? origin with
  | none =>
    rw [himport] at hleft
    cases hleft
    exact nodeEdited_self (fun form hform => by rw [himport] at hform; cases hform) fun _ _ => rfl
  | some form =>
    rw [himport] at hleft
    dsimp only at hleft
    have hremoved := @FormEdited.removed isLegacy name form
    split at hleft
    · next hbinds =>
      rw [if_pos hbinds.1] at hremoved
      split at hleft
      · cases hleft
      · cases hleft
        exact .imported himport hremoved
    · next hkeeps =>
      cases hleft
      have hsame : (if isLegacy form.source then unbind name form else form) = form := by
        split
        · next hlegacy => exact not_not.mp fun hne => hkeeps ⟨hlegacy, hne⟩
        · rfl
      rw [hsame] at hremoved
      have h := NodeEdited.imported himport hremoved
      rwa [withForm_of_import himport] at h

lemma nodeEdited_unlist (names : List String) (statement : Node) :
    NodeEdited (.unlist names) statement (Route.unlist names statement) := by
  cases hlist : localExport? statement with
  | none =>
    rw [Route.unlist, hlist]
    exact nodeEdited_self (fun _ _ => .unlisted) fun form hform => by rw [hlist] at hform; cases hform
  | some form =>
    have h := @NodeEdited.exported (.unlist names) _ _ hlist
    have hsame : Route.unlist names statement = statement.withForm (.exportNamed (withoutExports names form)) := by
      rw [Route.unlist, hlist]
      dsimp only
      split
      · rfl
      · next hlists =>
        have hkept : withoutExports names form = form := by
          rw [listsExport, hlist, Bool.not_eq_true, List.any_eq_false] at hlists
          have hfilter :
              form.specifiers.filter (fun specifier => !names.contains specifier.exported) = form.specifiers :=
            List.filter_eq_self.mpr fun specifier hspecifier => by simpa using hlists specifier hspecifier
          rw [withoutExports, hfilter]
        rw [hkept, withForm_of_export hlist]
    rwa [hsame]

/-- Every statement of an edited body is one of the body in another form, or has been made from a request. -/
theorem nodeEdited_apply {edit : ClauseEdit} {body : List Node} {statement : Node} (h : statement ∈ edit.apply body) :
    (∃ origin ∈ body, NodeEdited edit origin statement) ∨
      ∃ source form, statement = Node.make (.importDeclaration form) ∧ FormEdited edit { source } form := by
  cases edit with
  | add pending => exact nodeEdited_add h
  | remove isLegacy name => exact .inl (nodeEdited_remove h)
  | unlist names =>
    obtain ⟨origin, horigin, rfl⟩ := List.mem_map.mp h
    exact .inl ⟨origin, horigin, nodeEdited_unlist names origin⟩
  | prune =>
    exact .inl ⟨statement, List.mem_of_mem_filter h, nodeEdited_self (fun _ _ => .pruned) fun _ _ => rfl⟩

/-! ### Any number of edits -/

/-- What edits one after the other make of a statement. -/
inductive NodeTraced (edits : List ClauseEdit) (statement : Node) : Node → Prop where
  | imported {form form' : ImportForm} : import? statement = some form →
      (∀ written, HoldsImport form written →
        ∃ written', ImportTraced edits written written' ∧ HoldsImport form' written') →
      NodeTraced edits statement (statement.withForm (.importDeclaration form'))
  | exported {form : ExportForm Node} : localExport? statement = some form →
      NodeTraced edits statement (statement.withForm (.exportNamed (edits.foldl exportEdited form)))
  | other : import? statement = none → localExport? statement = none → NodeTraced edits statement statement

/-- An import that is made from requests says what was requested. -/
def MadeBy (edits : List ClauseEdit) (statement : Node) : Prop :=
  ∃ source form written, statement = Node.make (.importDeclaration form) ∧
    ImportTraced edits { literal := source } written ∧ HoldsImport form written

lemma holdsImport_blank (source : String) : HoldsImport { source } { literal := source } :=
  ⟨rfl, rfl, rfl, .nil, rfl⟩

/-- Edits leave alone an import that says nothing. -/
lemma importTraced_blank (source : String) (edits : List ClauseEdit) :
    ImportTraced edits { literal := source } { literal := source } := by
  induction edits using List.reverseRecOn with
  | nil => exact .nil
  | append_singleton edits edit ih =>
    refine .snoc ih ?_
    cases edit with
    | add pending => exact @ImportEdited.added pending { literal := source } [] (List.forall_mem_nil _)
    | remove isLegacy name =>
      have h := @ImportEdited.removed isLegacy name { literal := source }
      have hsame : (if isLegacy source then WrittenImport.without name { literal := source }
          else { literal := source }) = ({ literal := source } : WrittenImport) := by
        split <;> rfl
      rwa [hsame] at h
    | unlist names => exact .unlisted
    | prune => exact .pruned

lemma nodeTraced_nil (statement : Node) : NodeTraced [] statement statement := by
  cases himport : import? statement with
  | some form =>
    have h := @NodeTraced.imported [] _ _ _ himport fun written hholds => ⟨written, .nil, hholds⟩
    rwa [withForm_of_import himport] at h
  | none =>
    cases hlist : localExport? statement with
    | some form =>
      have h := @NodeTraced.exported [] _ _ hlist
      rwa [List.foldl_nil, withForm_of_export hlist] at h
    | none => exact .other himport hlist

lemma localExport?_exportEdited {statement : Node} {form : ExportForm Node} (h : localExport? statement = some form)
    (edits : List ClauseEdit) : localExport? (statement.withForm (.exportNamed (edits.foldl exportEdited form))) =
      some (edits.foldl exportEdited form) := by
  obtain ⟨-, hdeclaration, hsource⟩ := localExport?_eq_some h
  have hkept : (edits.foldl exportEdited form).declaration = none ∧ (edits.foldl exportEdited form).source = none := by
    clear h
    induction edits generalizing form with
    | nil => exact ⟨hdeclaration, hsource⟩
    | cons edit edits ih => cases edit <;> exact ih hdeclaration hsource
  rw [localExport?, Node.withForm, Node.form]
  dsimp only
  rw [hkept.1, hkept.2]
  rfl

/-- What one more edit makes of a statement that was followed so far. -/
lemma NodeTraced.step {edits : List ClauseEdit} {edit : ClauseEdit} {first second third : Node}
    (h : NodeTraced edits first second) (hedited : NodeEdited edit second third) :
    NodeTraced (edits ++ [edit]) first third := by
  cases h with
  | @imported form form' himport hholds =>
    cases hedited with
    | @imported middle form'' hmiddle hform =>
      obtain rfl := Option.some.inj ((import?_withForm first form').symm.trans hmiddle)
      refine .imported himport fun written hwritten => ?_
      obtain ⟨written', htraced, hholds'⟩ := hholds written hwritten
      obtain ⟨written'', hedited, hholds''⟩ := hholds'.edited hform
      exact ⟨written'', .snoc htraced hedited, hholds''⟩
    | exported hlist => cases hlist
    | other hnone _ => cases hnone
  | exported hlist =>
    have hedits := localExport?_exportEdited hlist edits
    cases hedited with
    | imported himport _ => cases himport
    | exported hlist' =>
      obtain rfl := Option.some.inj (hedits.symm.trans hlist')
      have h := @NodeTraced.exported (edits ++ [edit]) _ _ hlist
      rwa [List.foldl_append] at h
    | other _ hnone =>
      rw [hedits] at hnone
      cases hnone
  | other himport hlist =>
    cases hedited with
    | imported hsome _ =>
      rw [himport] at hsome
      cases hsome
    | exported hsome =>
      rw [hlist] at hsome
      cases hsome
    | other _ _ => exact .other himport hlist

lemma MadeBy.step {edits : List ClauseEdit} {edit : ClauseEdit} {second third : Node} (h : MadeBy edits second)
    (hedited : NodeEdited edit second third) : MadeBy (edits ++ [edit]) third := by
  obtain ⟨source, form, written, rfl, htraced, hholds⟩ := h
  cases hedited with
  | @imported middle form' hmiddle hform =>
    obtain rfl := Option.some.inj hmiddle
    obtain ⟨written', hedited, hholds'⟩ := hholds.edited hform
    exact ⟨source, form', written', rfl, .snoc htraced hedited, hholds'⟩
  | exported hlist => cases hlist
  | other hnone _ => cases hnone

/-- Every statement after any number of edits is one of the body in the form that the edits gave it, or an import that
says what was requested. -/
theorem nodeTraced_applyEdits {edits : List ClauseEdit} {body : List Node} {statement : Node}
    (h : statement ∈ applyEdits edits body) :
    (∃ origin ∈ body, NodeTraced edits origin statement) ∨ MadeBy edits statement := by
  induction edits using List.reverseRecOn generalizing statement with
  | nil => exact .inl ⟨statement, h, nodeTraced_nil statement⟩
  | append_singleton edits edit ih =>
    rw [applyEdits, List.foldl_append] at h
    rcases nodeEdited_apply h with ⟨middle, hmiddle, hedited⟩ | ⟨source, form, rfl, hform⟩
    · rcases ih hmiddle with ⟨origin, horigin, htraced⟩ | hmade
      · exact .inl ⟨origin, horigin, htraced.step hedited⟩
      · exact .inr (hmade.step hedited)
    · obtain ⟨written, hedited, hholds⟩ := (holdsImport_blank source).edited hform
      exact .inr ⟨source, form, written, rfl, .snoc (importTraced_blank source edits) hedited, hholds⟩

end RouteMigration.Proofs
