import RouteMigration.Proofs.AccountedNames
import RouteMigration.Proofs.ExportedNames

/-!
# Exports that are not migrated

An entry of a draft exports nothing that its statement in the module does not export. Of the names that are
not migrated, an attachment takes those out of the exports that the handler has itself: lists lose no more
than the name of the handler, and a declaration that goes, or loses a declarator, was that of the handler.
-/

namespace RouteMigration.Proofs
open Syntax Route

variable {settings : Settings} {module : Module} {routePath : String}

/-! ### Where exports come from -/

lemma declaratorCount_congr {a b : Node} (h : declared? a = declared? b) :
    Draft.declaratorCount a = Draft.declaratorCount b := by
  unfold declared? at h
  rw [Draft.declaratorCount, Draft.declaratorCount, h]

lemma declaratorCount_eraseDeclarator (index : Nat) (statement : Node) :
    Draft.declaratorCount (Draft.eraseDeclarator index statement) ≤ Draft.declaratorCount statement := by
  have h := declared?_eraseDeclarator index statement
  unfold declared? at h
  rw [Draft.declaratorCount, Draft.declaratorCount, h]
  cases hdeclaration : statement.exportedDeclaration? with
  | none => exact Nat.le_refl _
  | some declaration =>
    cases hform : declaration.form with
    | variableDeclaration kind declarators =>
      simp only [Option.map_some, hform, trimmed]
      exact (List.eraseIdx_sublist ..).length_le
    | _ => simp [hform, trimmed]

/-- What an entry of a draft exports, its statement in the module exports. -/
inductive Descends (module : Module) (entry : Entry) : Prop where
  | descriptor : entry.origin = .descriptor → Descends module entry
  | component : entry.origin = .component → exportsOf entry.node = [] → Descends module entry
  | statement {index : Nat} {statement : Node} : entry.origin = .statement index →
      module.body[index]? = some statement → exportsOf entry.node ⊆ exportsOf statement →
      (DeclaresValues statement → Draft.declaratorCount entry.node ≤ Draft.declaratorCount statement) →
      Descends module entry

/-- An entry that exports and declares no more descends from the same statement. -/
lemma Descends.mono {entry entry' : Entry} (h : Descends module entry) (horigin : entry'.origin = entry.origin)
    (hexports : exportsOf entry'.node ⊆ exportsOf entry.node)
    (hcount : Draft.declaratorCount entry'.node ≤ Draft.declaratorCount entry.node) : Descends module entry' := by
  cases h with
  | descriptor h => exact .descriptor (horigin.trans h)
  | component h hnone => exact .component (horigin.trans h) (List.eq_nil_of_subset_nil (hnone ▸ hexports))
  | statement h hget hsubset hle =>
    exact .statement (horigin.trans h) hget (List.Subset.trans hexports hsubset) fun hvalues => hcount.trans (hle hvalues)

lemma stable_descends (located : Located) : Stable located (Descends module) where
  unlisted entry h := h.mono rfl (exportsOf_unlist_subset ..) (declaratorCount_congr (declared?_unlist ..)).le
  unexported entry _ hvalues h := by
    refine h.mono rfl ?_ (declaratorCount_congr (declaresValues_withoutExport hvalues).2).le
    rw [reworked, exportsOf_withoutExport hvalues]
    exact List.nil_subset _
  trimmed entry index _ hvalues h := by
    refine h.mono rfl (fun export' hexport => ?_) (declaratorCount_eraseDeclarator ..)
    exact ((mem_exportsOf_eraseDeclarator hvalues).mp hexport).1

lemma descends_ofBody : ∀ entry ∈ (Draft.ofBody module.body).entries, Descends module entry := by
  intro entry hentry
  obtain ⟨index, horigin, hget⟩ := mem_ofBody.mp hentry
  exact .statement horigin hget (List.Subset.refl _) fun _ => Nat.le_refl _

lemma Detachment.descends {default : DefaultExport} {result : Draft × String} {before after : List Entry}
    {component? : Option Entry} (h : Detachment settings default (.ofBody module.body) result before after component?) :
    ∀ entry ∈ result.1.entries, Descends module entry := by
  intro entry hentry
  rcases h.mem.mp hentry with hentry | hentry
  · obtain ⟨index, statement, horigin, hget, hstep⟩ := h.origin hentry
    cases hstep with
    | other _ => exact .statement rfl hget (List.Subset.refl _) fun _ => Nat.le_refl _
    | unlisted _ _ =>
      exact .statement rfl hget (exportsOf_eraseSpecifier_sublist ..).subset
        fun _ => (declaratorCount_congr (declared?_eraseSpecifier ..)).le
    | inlined _ _ =>
      refine .statement rfl hget ?_ fun hvalues => ?_
      · rcases exportDefault_or_other statement with ⟨declaration, hform⟩ | hother
        · rw [reworked, exportsOf_inlineStatement _ hform]
          exact List.nil_subset _
        · rw [reworked, inlineStatement_other _ hother]
          exact List.Subset.refl _
      · rw [reworked, inlineStatement_of_declaresValues _ hvalues]
  · obtain ⟨_, _, _, _, _, -, rfl, -⟩ := h.component entry hentry
    exact .component rfl (exportsOf_of_import (import?_componentImport ..))

/-! ### What becomes of an export -/

lemma NamedDeclarator.names_subset {name : String} {declarator : Node} (h : NamedDeclarator name declarator) :
    namesOfDeclarator declarator ⊆ [name] := by
  obtain ⟨target, init, declaredType, hform, htarget⟩ := h.form
  rw [namesOfDeclarator, hform]
  obtain ⟨info, form⟩ := target
  cases form with
  | identifier own isType =>
    obtain rfl : own = name := Option.some.inj htarget
    cases isType with
    | true => exact List.nil_subset _
    | false => exact List.Subset.refl _
  | _ => cases htarget

/-- Without the declarator of a handler, a declaration binds all but the name of the handler. -/
lemma StandsAt.mem_names_trimmed {localName : String} {place : Nat → Nat} {index : Nat} {form : Form Node}
    (h : StandsAt localName place (.variable index) form) {name : String} (hname : name ∈ namesOfDeclaration form) :
    name = localName ∨ name ∈ namesOfDeclaration (trimmed (place index) form) := by
  cases h with
  | declarator hget hnamed =>
    obtain ⟨hlt, rfl⟩ := List.getElem?_eq_some_iff.mp hget
    have hperm := (List.getElem_cons_eraseIdx_perm hlt).flatMap_right namesOfDeclarator
    have hmem := hperm.symm.subset hname
    rw [List.flatMap_cons] at hmem
    refine (List.mem_append.mp hmem).imp_left fun hown => ?_
    exact List.mem_singleton.mp (hnamed.names_subset hown)

/-- What becomes of a name that a statement of the module exports: it is still exported by what is left of the
statement, or it was the local name of a handler and what is left of its statement does not declare it. -/
inductive Fate (module : Module) (draft : Draft) (index : Nat) (way : Way) (name : String) : Prop where
  | exported {entry : Entry} : entry ∈ draft.entries → entry.origin = .statement index →
      (way, name) ∈ exportsOf entry.node → Fate module draft index way name
  | released {located : Located} : way = .declared → located ∈ handlersOf module → located.localName = name →
      (∀ entry ∈ draft.entries, entry.origin = .statement index → name ∉ declarationNames entry.node) →
      Fate module draft index way name

/-- A declaration of values exports its names by the declaration. -/
lemma exports_of_declaresValues {statement : Node} {way : Way} {name : String} (h : DeclaresValues statement)
    (hexport : (way, name) ∈ exportsOf statement) : way = .declared ∧ name ∈ declarationNames statement := by
  obtain ⟨form, hform, hvalue⟩ := h
  rcases exports_cases hexport with ⟨hway, hname, -⟩ | ⟨e, he, hnone, -⟩ | ⟨-, -, declaration, hdefault⟩
  · exact ⟨hway, hname⟩
  · rw [declared?_exportNamed he, hnone] at hform
    cases hform
  · rw [declared?_other (by simp [hdefault]), hdefault, Option.some.injEq] at hform
    rw [← hform] at hvalue
    cases hvalue

lemma AttachStep.declarationNames_subset {located : Located} {entry entry' : Entry}
    (h : AttachStep located entry (some entry')) (hvalues : HoldsValues [.statement located.statement] entry) :
    declarationNames entry'.node ⊆ declarationNames entry.node := by
  have hunlisted := declarationNames_unlist [located.name] entry.node
  cases h with
  | unlisted =>
    rw [reworked, hunlisted]
    exact List.Subset.refl _
  | own horigin hf =>
    have hown := hvalues.unlisted horigin [located.name]
    rw [reworked, reworked, ← hunlisted]
    obtain ⟨form, hform, hvalue⟩ := hown
    rcases hf with rfl | ⟨index, rfl⟩
    · have hsame := (declaresValues_withoutExport ⟨form, hform, hvalue⟩).2
      rw [declarationNames_of_declared (hsame.trans hform) hvalue, declarationNames_of_declared hform hvalue]
      exact List.Subset.refl _
    · have herased := declared?_eraseDeclarator index (unlist [located.name] entry.node)
      rw [hform, Option.map_some] at herased
      rw [declarationNames_of_declared herased (isValueDeclaration_trimmed index hvalue),
        declarationNames_of_declared hform hvalue]
      exact (namesOfDeclaration_trimmed index form).subset

section Attachment

variable {kind : Kind} {draft : Draft} {key : String} {located : Located} {attached : Attached} {name : String}
  {index : Nat} {way : Way}

lemma exportsOnly_iff {statement : Node} : Draft.exportsOnly located statement = true ↔
    located.localName = located.name ∧ (Draft.unexported statement).isSome ∧ Draft.declaratorCount statement ≤ 1 := by
  simp only [Draft.exportsOnly, Bool.and_eq_true, decide_eq_true_eq, and_assoc]

lemma mem_exportsOf_unlist_of_ne {statement : Node} (hother : name ≠ located.name)
    (h : (way, name) ∈ exportsOf statement) : (way, name) ∈ exportsOf (unlist [located.name] statement) :=
  mem_exportsOf_unlist.mpr ⟨h, fun _ => by simpa using hother⟩

/-- The statement of a standing handler that is kept keeps all exports but that of the handler. -/
lemma KeptAs.exported {f : Node → Node} (h : KeptAs located (draft.mapNodes (unlist [located.name])) f)
    (hd : Distinct draft) (hstanding : Standing draft located) {entry : Entry} (hentry : entry ∈ draft.entries)
    (hown : entry.origin = .statement located.statement) (hname : (way, name) ∈ exportsOf entry.node)
    (hother : name ≠ located.name) : (way, name) ∈ exportsOf (f (unlist [located.name] entry.node)) := by
  rcases h with ⟨rfl, -⟩ | ⟨-, found, hfind, honly⟩
  · exact mem_exportsOf_unlist_of_ne hother hname
  · -- a statement that exports nothing but the handler exports it under its name
    exfalso
    obtain rfl := Option.some.inj (hfind.symm.trans (hd.find?_mapNodes hentry hown _))
    obtain ⟨hlocal, -, hcount⟩ := exportsOnly_iff.mp honly
    rw [declaratorCount_congr (declared?_unlist ..)] at hcount
    obtain ⟨form, hform, hstands⟩ := hstanding entry hentry hown
    have hvalue := hstands.isValueDeclaration
    obtain ⟨-, hdeclared⟩ := exports_of_declaresValues ⟨form, hform, hvalue⟩ hname
    rw [declarationNames_of_declared hform hvalue] at hdeclared
    have hsame : name = located.localName := hstands.eq_localName_of_count hform (fun _ _ => hcount)
      (namesOfDeclaration_subset (Node.make form) hdeclared)
    exact hother (hsame.trans hlocal)

/-- The removal of a standing handler takes away no export but that of the handler. -/
lemma Removal.exported {result : Draft} (h : Removal located (draft.mapNodes (unlist [located.name])) result)
    (hd : Distinct draft) (hstanding : Standing draft located) {entry : Entry} (hentry : entry ∈ draft.entries)
    (hown : entry.origin = .statement located.statement) (hname : (way, name) ∈ exportsOf entry.node)
    (hother : name ≠ located.name) :
    (∃ entry' ∈ result.entries, entry'.origin = entry.origin ∧ (way, name) ∈ exportsOf entry'.node) ∨
    (name = located.localName ∧ ∀ entry' ∈ result.entries, entry'.origin = entry.origin →
      name ∉ declarationNames entry'.node) := by
  obtain ⟨form, hform, hstands⟩ := hstanding entry hentry hown
  have hvalue := hstands.isValueDeclaration
  obtain ⟨hway, hdeclared⟩ := exports_of_declaresValues ⟨form, hform, hvalue⟩ hname
  have hunlisted : declared? (unlist [located.name] entry.node) = some form := by rw [declared?_unlist, hform]
  rw [declarationNames_of_declared hform hvalue] at hdeclared
  cases h with
  | erased hresult hcount =>
    right
    constructor
    · have hfind := hd.find?_mapNodes hentry hown (unlist [located.name])
      exact hstands.eq_localName_of_count hunlisted (fun index hshape => hcount index _ hshape hfind)
        (namesOfDeclaration_subset (Node.make form) hdeclared)
    · intro entry' hentry' horigin
      rw [hresult] at hentry'
      obtain ⟨source, -, hsame, hne, -⟩ := mem_erase_unlisted hentry'
      exact absurd (hsame.symm.trans (horigin.trans hown)) hne
  | @trimmed place _ hshape _ _ _ hresult =>
    let left := Draft.eraseDeclarator (placeLeft draft located place)
    have hleft : reworked left (reworked (unlist [located.name]) entry) ∈ result.entries := by
      rw [hresult]
      exact mem_modify (mem_mapNodes hentry (unlist [located.name])) hown left
    have hvalues : DeclaresValues (unlist [located.name] entry.node) := ⟨form, hunlisted, hvalue⟩
    by_cases hstays : name ∈ declarationNames (left (unlist [located.name] entry.node))
    · have hstill := mem_exportsOf_unlist_of_ne hother hname
      exact .inl ⟨_, hleft, rfl, (mem_exportsOf_eraseDeclarator hvalues).mpr ⟨hstill, hstays⟩⟩
    · right
      constructor
      · have herased := declared?_eraseDeclarator (placeLeft draft located place) (unlist [located.name] entry.node)
        rw [hunlisted, Option.map_some] at herased
        rw [declarationNames_of_declared herased (isValueDeclaration_trimmed _ hvalue)] at hstays
        rw [hshape] at hstands
        exact (hstands.mem_names_trimmed hdeclared).resolve_right hstays
      · intro entry' hentry' horigin
        have hdistinct : Distinct result := by
          rw [hresult]
          exact distinct_modify (distinct_mapNodes hd _) _ _
        rw [hdistinct.eq_of_origin hentry' hleft horigin]
        exact hstays

/-- An attachment passes the fate of a name on, unless the handler is exported under that name. -/
theorem Attachment.fate (h : Attachment settings kind draft key located attached)
    (hready : Attachable module draft located) (hother : name ≠ located.name)
    (htwins : way = .declared → ¬ DeclaredWithTwins module name) (hfate : Fate module draft index way name) :
    Fate module attached.draft index way name := by
  cases hfate with
  | released hway hhandler hlocal hgone =>
    refine .released hway hhandler hlocal fun entry' hentry' horigin hname => ?_
    obtain ⟨entry, hentry, hstep⟩ := h.edited.origin hentry'
    exact hgone entry hentry (hstep.origin.symm.trans horigin)
      (hstep.declarationNames_subset (hready.values entry hentry) hname)
  | @exported entry hentry horigin hexport =>
    by_cases hown : entry.origin = .statement located.statement
    · have hvalues : DeclaresValues entry.node := hready.values entry hentry (List.mem_singleton.mpr hown)
      obtain ⟨hway, hdeclared⟩ := exports_of_declaresValues hvalues hexport
      have hstanding : Standing draft located := by
        refine hready.standing.resolve_right fun hall => htwins hway ?_
        exact hall entry hentry hown name (declarationNames_subset entry.node hdeclared)
      cases h with
      | @kept f _ hf hentries _ _ _ _ =>
        have hmem : reworked f (reworked (unlist [located.name]) entry) ∈ attached.draft.entries := by
          rw [hentries]
          exact mem_modify (mem_mapNodes hentry (unlist [located.name])) hown f
        exact .exported hmem horigin (hf.exported hready.distinct hstanding hentry hown hexport hother)
      | moved _ _ hremoval hentries _ _ _ _ =>
        rcases hremoval.exported hready.distinct hstanding hentry hown hexport hother with
          ⟨entry', hentry', horigin', hexport'⟩ | ⟨hlocal, hgone⟩
        · exact .exported (hentries ▸ hentry') (horigin'.trans horigin) hexport'
        · obtain ⟨original, horiginal, -, hsame, -⟩ := hready.handler
          refine .released hway horiginal (hsame.trans hlocal.symm) fun entry' hentry' horigin' => ?_
          exact hgone entry' (hentries ▸ hentry') (horigin'.trans horigin.symm)
    · exact .exported (h.mem_unlisted hentry hown) horigin (mem_exportsOf_unlist_of_ne hother hexport)

end Attachment

/-- A draft with the same entries beside the descriptor passes the fate of names on. -/
lemma Fate.mono {draft draft' : Draft} {index : Nat} {way : Way} {name : String} (h : Fate module draft index way name)
    (hentries : ∀ entry ∈ draft.entries, entry.origin ≠ .descriptor →
      ∃ entry' ∈ draft'.entries, entry'.origin = entry.origin ∧ entry'.node.form = entry.node.form)
    (horigins : ∀ entry' ∈ draft'.entries, entry'.origin ≠ .descriptor →
      ∃ entry ∈ draft.entries, entry'.origin = entry.origin ∧ entry'.node.form = entry.node.form) :
    Fate module draft' index way name := by
  have hne {entry : Entry} (horigin : entry.origin = .statement index) : entry.origin ≠ .descriptor := by
    simp [horigin]
  cases h with
  | exported hentry horigin hexport =>
    obtain ⟨entry', hentry', hsame, hform⟩ := hentries _ hentry (hne horigin)
    exact .exported hentry' (hsame.trans horigin) (exportsOf_congr hform ▸ hexport)
  | released hway hhandler hlocal hgone =>
    refine .released hway hhandler hlocal fun entry' hentry' horigin => ?_
    obtain ⟨entry, hentry, hsame, hform⟩ := horigins entry' hentry' (hne horigin)
    rw [declarationNames_congr hform]
    exact hgone entry hentry (hsame.symm.trans horigin)

/-- The names under which a migration takes exports out of a module. -/
def migratedNames (module : Module) : Kind → List String
  | .page => ["default", "loader"]
  | .resource => (handlersOf module).map (·.name)

/-- A list that makes a default export has its name in the place of the specifier that it loses. -/
lemma DefaultAt.exportsOf_listed {declared : List String} {statement : Node} {index place : Nat} {default : DefaultExport}
    (h : DefaultAt declared statement index default) (hplace : listedAt? default = some place) :
    (∃ way, (exportsOf statement)[place]? = some (way, "default")) ∧
      exportsOf (eraseSpecifier place statement) = (exportsOf statement).eraseIdx place := by
  have hlist {form : ExportForm Node} {specifier : ExportSpecifier} (hform : statement.form = .exportNamed form)
      (hnone : form.declaration = none) (hget : form.specifiers[place]? = some specifier)
      (hspecifier : specifier.exported = "default") :
      (exportsOf statement)[place]? = some (wayOf form, "default") := by
    rw [exportsOf_list hform hnone, List.getElem?_map, hget, ← hspecifier]
    rfl
  cases h with
  | inline _ _ => cases hplace
  | named _ _ => cases hplace
  | listed hform hnone _ hget hspecifier _ =>
    cases hplace
    exact ⟨⟨_, hlist hform hnone hget hspecifier⟩, exportsOf_eraseSpecifier hform hnone place⟩
  | forwarded hform hnone _ hget hspecifier _ =>
    cases hplace
    exact ⟨⟨_, hlist hform hnone hget hspecifier⟩, exportsOf_eraseSpecifier hform hnone _⟩

section Fates

variable {index : Nat} {statement : Node} {way : Way} {name : String}

/-- Detaching the default export takes no other export away. -/
lemma Detachment.fate {default : DefaultExport} {result : Draft × String} {before after : List Entry}
    {component? : Option Entry} (h : Detachment settings default (.ofBody module.body) result before after component?)
    (hdefault : default ∈ defaultExports module) (hget : module.body[index]? = some statement)
    (hexport : (way, name) ∈ exportsOf statement) (hname : name ≠ "default") :
    Fate module result.1 index way name := by
  have hnot (declaration : Node) : statement.form ≠ .exportDefault declaration := by
    intro hform
    rw [exportsOf_default hform, List.mem_singleton] at hexport
    exact hname (congrArg Prod.snd hexport)
  have hat (hindex : index = siteOf default) : DefaultAt module.declaredNames statement index default := by
    obtain ⟨maker, hmaker, hat⟩ := mem_defaultExports.mp hdefault
    rw [← hindex, hget] at hmaker
    rwa [hindex, Option.some.inj hmaker]
  have hmem : ⟨.statement index, statement⟩ ∈ (Draft.ofBody module.body).entries := mem_ofBody.mpr ⟨index, rfl, hget⟩
  rcases h.edited.fate hmem with hgone | ⟨entry, hentry, hstep⟩
  · cases hgone with
    | erased hreferenced horigin =>
      have hown := hat (by rw [hreferenced]; exact Origin.statement.inj horigin)
      rw [hreferenced] at hown
      cases hown with
      | named hform _ => exact absurd hform (hnot _)
  · refine .exported (h.mem.mpr (.inl hentry)) hstep.origin ?_
    cases hstep with
    | other _ => exact hexport
    | unlisted hlisted horigin =>
      obtain ⟨⟨_, hplace⟩, herase⟩ := (hat (Origin.statement.inj horigin)).exportsOf_listed hlisted
      rw [reworked, herase]
      exact mem_eraseIdx_of_ne hplace hexport hname
    | inlined _ _ =>
      rw [reworked, inlineStatement_other _ hnot]
      exact hexport

lemma fate_withDescriptor {draft : Draft} (h : Fate module draft index way name) (gap : Option String)
    (properties : List Node) :
    Fate module (withDescriptor settings routePath gap properties draft) index way name := by
  refine h.mono (fun entry hentry hne => ⟨entry, ?_, rfl, rfl⟩) fun entry' hentry' hne => ?_
  · rw [withDescriptor, entries_modify]
    exact List.mem_map.mpr ⟨entry, hentry, if_neg hne⟩
  · rcases mem_withDescriptor hentry' with rfl | ⟨hentry, -⟩
    · exact absurd rfl hne
    · exact ⟨entry', hentry, rfl, rfl⟩

theorem page_fate {default : DefaultExport} {loader : Located} {action : Option Located} {draft : Draft}
    (hdefault : findDefaultExport module = some default) (hlocate : locate module.body "loader" = some loader)
    (h : migratePage settings module routePath default loader action = .ok draft)
    (hget : module.body[index]? = some statement) (hexport : (way, name) ∈ exportsOf statement)
    (hname : name ∉ migratedNames module .page) (htwins : way = .declared → ¬ DeclaredWithTwins module name) :
    Fate module draft index way name := by
  obtain ⟨attached, entries, hattach, hform, hdraft⟩ := migratePage_eq_ok h
  obtain ⟨before, after, component?, hdetach⟩ := detachDefault_eq settings (.ofBody module.body) default
  simp only [migratedNames, List.mem_cons, List.not_mem_nil, or_false, not_or] at hname
  have hdetached := hdetach.fate (List.mem_of_getLast? hdefault) hget hexport hname.1
  have hother : name ≠ loader.name := by
    rw [(locate_eq_some hlocate).1]
    exact hname.2
  refine (hattach.fate (hdetach.attachable hlocate) hother htwins hdetached).mono (fun entry hentry _ => ?_)
    fun entry' hentry' hne => ?_
  · rcases hform.fate hentry with ⟨_, hnone, -⟩ | ⟨entry', hentry', hsame⟩
    · cases hnone
    · obtain ⟨_, hsome, horigin, hnode⟩ := hsame
      cases hsome
      exact ⟨entry', hdraft ▸ List.mem_append_left _ hentry', horigin, hnode⟩
  · obtain ⟨-, -, hsource⟩ := page_entries hdetach.distinct hdetach.origin_ne hattach hform hdraft
    rcases hsource entry' hentry' with rfl | ⟨entry, hentry, horigin, hnode⟩
    · exact absurd rfl hne
    · exact ⟨entry, hentry, horigin, hnode⟩

theorem resource_fate {draft : Draft}
    (hne : methodsOf (locate module.body "loader") (locate module.body "action") ≠ [])
    (h : migrateResource settings module routePath
      (methodsOf (locate module.body "loader") (locate module.body "action")) = .ok draft)
    (hget : module.body[index]? = some statement) (hexport : (way, name) ∈ exportsOf statement)
    (hname : name ∉ migratedNames module .resource) (htwins : way = .declared → ¬ DeclaredWithTwins module name) :
    Fate module draft index way name := by
  obtain ⟨first, gap, attached, hrun, rfl⟩ := migrateResource_eq_ok hne h
  have hmem : ⟨.statement index, statement⟩ ∈ (Draft.ofBody module.body).entries := mem_ofBody.mpr ⟨index, rfl, hget⟩
  have hfate : Distinct attached ∧ Fate module attached index way name :=
    attachAll_attachable (P := fun draft => Distinct draft ∧ Fate module draft index way name)
      (fun draft key located result gap properties hready hattach ⟨hdistinct, hfate⟩ => by
        obtain ⟨original, horiginal, hsame, -⟩ := hready.handler
        have hother : name ≠ located.name := by
          rintro rfl
          exact hname (List.mem_map.mpr ⟨original, horiginal, hsame⟩)
        exact ⟨distinct_modify (hattach.distinct hdistinct) _ _,
          fate_withDescriptor (hattach.fate hready hother htwins hfate) _ _⟩)
      ⟨distinct_start module.body first _,
        .exported (mem_insertBefore.mpr (.inl hmem)) rfl hexport⟩ hrun
  have hperm := settleDescriptor_perm hfate.1
  exact hfate.2.mono (fun entry hentry _ => ⟨entry, hperm.symm.subset hentry, rfl, rfl⟩)
    fun entry hentry _ => ⟨entry, hperm.subset hentry, rfl, rfl⟩

/-- Every name that is not migrated has its fate in the draft. -/
theorem Drafting.fate {kind : Kind} {draft : Draft} (h : Drafting settings module routePath kind draft)
    (hget : module.body[index]? = some statement) (hexport : (way, name) ∈ exportsOf statement)
    (hname : name ∉ migratedNames module kind) (htwins : way = .declared → ¬ DeclaredWithTwins module name) :
    Fate module draft index way name := by
  cases h with
  | page _ hdefault hloader hpage => exact page_fate hdefault hloader hpage hget hexport hname htwins
  | resource _ _ hhandlers hresource => exact resource_fate hhandlers hresource hget hexport hname htwins

end Fates

end RouteMigration.Proofs
