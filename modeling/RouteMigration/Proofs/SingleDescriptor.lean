import RouteMigration.Proofs.Descriptors
import RouteMigration.Proofs.PassedStatements

/-!
# One descriptor

A finalized migration ends with one descriptor: no other statement of the draft declares a variable of that
name, and finishing the draft keeps the descriptor in its place. Migrating the result again therefore changes
nothing.
-/

namespace RouteMigration.Proofs
open Syntax Route

variable {settings : Settings} {module : Module} {routePath : String}

/-! ### What attachments keep -/

lemma makesDefault_of_declaresValues {statement : Node} (h : DeclaresValues statement) :
    makesDefault statement = false := by
  obtain ⟨form, hdeclared, hvalue⟩ := h
  rcases exportNamed_or_other statement with ⟨exported, hform⟩ | hform
  · rw [declared?_exportNamed hform] at hdeclared
    obtain ⟨declaration, hdeclaration, -⟩ := Option.map_eq_some_iff.mp hdeclared
    rw [makesDefault, hform]
    simp [hdeclaration]
  · rw [declared?_other hform] at hdeclared
    rw [makesDefault, Option.some.inj hdeclared]
    cases form <;> simp_all [isValueDeclaration]

lemma makesDefault_unlist {statement : Node} (names : List String) (h : makesDefault statement = false) :
    makesDefault (unlist names statement) = false := by
  rcases unlist_cases names statement with hsame | ⟨form, hform, hdeclaration, -, hunlist⟩
  · rwa [hsame]
  · rw [makesDefault, hform] at h
    rw [hunlist, makesDefault, form_withForm]
    cases htype : form.typeOnly with
    | true => simp [withoutExports, htype]
    | false =>
      simp only [hdeclaration, htype, Option.isNone_none, Bool.not_false, Bool.true_and, List.any_eq_false] at h
      simp only [withoutExports, hdeclaration, htype, Option.isNone_none, Bool.not_false, Bool.true_and,
        List.any_eq_false]
      exact fun specifier hspecifier => h specifier (List.mem_filter.mp hspecifier).1

/-- An entry that declares no descriptor unless it is it. -/
def Plain (settings : Settings) (entry : Entry) : Prop :=
  entry.origin ≠ .descriptor → ∀ name ∈ variableNames entry.node, name ∉ settings.descriptorNames

lemma plain_of_declared {entry entry' : Entry} (h : Plain settings entry)
    (horigin : entry'.origin = entry.origin) (hdeclared : declared? entry'.node = declared? entry.node) :
    Plain settings entry' := by
  intro hne
  rw [variableNames_congr hdeclared]
  exact h (horigin ▸ hne)

lemma stable_plain (located : Located) : Stable located (Plain settings) where
  unlisted _ hplain := plain_of_declared hplain rfl (declared?_unlist ..)
  unexported _ _ hvalues hplain := plain_of_declared hplain rfl (declaresValues_withoutExport hvalues).2
  trimmed _ index _ _ hplain := fun hne name hname =>
    hplain hne name (variableNames_eraseDeclarator index _ hname)

lemma stable_makesDefault (located : Located) : Stable located fun entry => makesDefault entry.node = false where
  unlisted _ hnone := makesDefault_unlist _ hnone
  unexported _ _ hvalues _ := makesDefault_of_declaresValues (declaresValues_withoutExport hvalues).1
  trimmed _ index _ hvalues _ := makesDefault_of_declaresValues (declaresValues_eraseDeclarator index hvalues)

/-! ### Drafts of pages -/

lemma names_not_descriptor (h : declaresAny module settings.descriptorNames = false) {statement : Node}
    (hstatement : statement ∈ module.body) :
    ∀ name ∈ variableNames statement, name ∉ settings.descriptorNames := by
  intro name hname hdescriptor
  rw [declaresAny, List.any_eq_false] at h
  exact h statement hstatement (List.any_eq_true.mpr ⟨name, hname, by simpa using hdescriptor⟩)

lemma plain_ofBody (hdeclares : declaresAny module settings.descriptorNames = false) :
    ∀ entry ∈ (Draft.ofBody module.body).entries, Plain settings entry := by
  intro entry hentry
  obtain ⟨index, -, hget⟩ := mem_ofBody.mp hentry
  exact fun _ => names_not_descriptor hdeclares (List.mem_of_getElem? hget)

section Page

variable {default : DefaultExport} {result : Draft × String} {before after : List Entry}
  {component? : Option Entry}

lemma Detachment.plain (h : Detachment settings default (.ofBody module.body) result before after component?)
    (hnames : ∀ n, candidate settings.componentName n ∉ settings.descriptorNames)
    (hdeclares : declaresAny module settings.descriptorNames = false) :
    ∀ entry ∈ result.1.entries, Plain settings entry := by
  intro entry hentry
  rcases h.mem.mp hentry with hentry | hentry
  · obtain ⟨source, hsource, hstep⟩ := h.edited.origin hentry
    have hplain := plain_ofBody hdeclares source hsource
    cases hstep with
    | other _ => exact hplain
    | unlisted _ _ => exact plain_of_declared hplain rfl (declared?_eraseSpecifier ..)
    | inlined _ _ =>
      intro hne name hname
      rcases List.mem_cons.mp (variableNames_inlineStatement _ _ hname) with rfl | hname
      · obtain ⟨n, hn⟩ := freshName_eq_candidate (takenNames (Draft.ofBody module.body).body)
          settings.componentName
        rw [Draft.freshName, hn]
        exact hnames n
      · exact hplain hne name hname
  · obtain ⟨imported, source, -, -, gap, -, rfl, -⟩ := h.component entry hentry
    intro _ name hname
    rw [variableNames_of_import (import?_componentImport ..)] at hname
    cases hname

/-- Detaching the only default export leaves none. -/
lemma Detachment.noDefault (h : Detachment settings default (.ofBody module.body) result before after component?)
    (hdefault : ∀ other, other ∈ defaultExports module ↔ other = default) :
    ∀ entry ∈ result.1.entries, makesDefault entry.node = false := by
  have honly {statement : Node} {index : Nat} {other : DefaultExport} (hget : module.body[index]? = some statement)
      (hat : DefaultAt module.declaredNames statement index other) : other = default := by
    refine (hdefault other).mp (mem_defaultExports.mpr ?_)
    rw [hat.site]
    exact ⟨statement, hget, hat⟩
  intro entry hentry
  rcases h.mem.mp hentry with hentry | hentry
  · obtain ⟨index, statement, horigin, hget, hstep⟩ := h.origin hentry
    have hat (hindex : index = siteOf default) : DefaultAt module.declaredNames statement index default := by
      obtain ⟨maker, hmaker, hat⟩ := mem_defaultExports.mp ((hdefault default).mpr rfl)
      rw [← hindex, hget] at hmaker
      rwa [hindex, Option.some.inj hmaker]
    cases hstep with
    | other hne =>
      refine defaultsOf_eq_nil.mp (show defaultsOf module.declaredNames statement index = [] from ?_)
      rw [List.eq_nil_iff_forall_not_mem]
      intro other hother
      have hother' := mem_defaultsOf.mp hother
      rw [honly hget hother'] at hother'
      exact hne (congrArg Origin.statement hother'.site.symm)
    | unlisted hlisted hindex =>
      exact makesDefault_eraseSpecifier (hat (Origin.statement.inj hindex)) hlisted fun other hother =>
        honly hget hother
    | inlined hinline hindex =>
      have hown := hat (by rw [hinline]; exact Origin.statement.inj hindex)
      rw [hinline] at hown
      cases hown with
      | inline hform _ => exact makesDefault_inlineStatement _ hform
  · obtain ⟨imported, source, -, -, gap, -, rfl, -⟩ := h.component entry hentry
    exact makesDefault_of_import (import?_componentImport ..)

end Page

/-! ### Drafts without another descriptor -/

theorem page_plain {default : DefaultExport} {loader : Located} {action : Option Located} {draft : Draft}
    (hdeclares : declaresAny module settings.descriptorNames = false)
    (hnames : ∀ n, candidate settings.componentName n ∉ settings.descriptorNames)
    (hloader : locate module.body "loader" = some loader)
    (h : migratePage settings module routePath default loader action = .ok draft) :
    ∀ entry ∈ draft.entries, Plain settings entry := by
  obtain ⟨attached, entries, hattach, hform, hdraft⟩ := migratePage_eq_ok h
  obtain ⟨before, after, component?, hdetach⟩ := detachDefault_eq settings (.ofBody module.body) default
  have hrunning := hdetach.running "loader" hloader
  have hplain := hattach.forall hrunning.own (stable_plain loader) (hdetach.plain hnames hdeclares)
  obtain ⟨-, -, hentries⟩ := page_entries hdetach.distinct hdetach.origin_ne hattach hform hdraft
  intro entry hentry
  rcases hentries entry hentry with rfl | ⟨source, hsource, horigin, hsame⟩
  · exact fun hne => absurd rfl hne
  · exact plain_of_declared (hplain source hsource) horigin (declared?_congr hsame)

/-- No statement of a page with one default export makes a default export once that is detached. -/
theorem page_noDefault {default : DefaultExport} {loader : Located} {action : Option Located} {draft : Draft}
    (hdefault : ∀ other, other ∈ defaultExports module ↔ other = default)
    (hloader : locate module.body "loader" = some loader)
    (h : migratePage settings module routePath default loader action = .ok draft) :
    ∀ entry ∈ draft.entries, makesDefault entry.node = false := by
  obtain ⟨attached, entries, hattach, hform, hdraft⟩ := migratePage_eq_ok h
  obtain ⟨before, after, component?, hdetach⟩ := detachDefault_eq settings (.ofBody module.body) default
  have hrunning := hdetach.running "loader" hloader
  have hnone := hattach.forall hrunning.own (stable_makesDefault loader) (hdetach.noDefault hdefault)
  obtain ⟨-, -, hentries⟩ := page_entries hdetach.distinct hdetach.origin_ne hattach hform hdraft
  intro entry hentry
  rcases hentries entry hentry with rfl | ⟨source, hsource, -, hsame⟩
  · exact makesDefault_of_declaresValues (declaresValues_exportedConstant rfl)
  · rw [makesDefault_congr hsame]
    exact hnone source hsource

theorem resource_plain {handlers : List (String × Located)} {draft : Draft} (hne : handlers ≠ [])
    (hdeclares : declaresAny module settings.descriptorNames = false)
    (hhandlers : ∀ handler ∈ handlers, ∃ name, locate module.body name = some handler.2)
    (h : migrateResource settings module routePath handlers = .ok draft) :
    ∀ entry ∈ draft.entries, Plain settings entry := by
  obtain ⟨first, gap, attached, hrun, rfl⟩ := migrateResource_eq_ok hne h
  have hstart : ∀ entry ∈ ((Draft.ofBody module.body).insertBefore (.statement first)
      ⟨.descriptor, withGap gap (resourceDescriptor settings routePath [])⟩).entries, Plain settings entry := by
    intro entry hentry
    rcases mem_insertBefore.mp hentry with hentry | rfl
    · exact plain_ofBody hdeclares entry hentry
    · exact fun hne => absurd rfl hne
  obtain ⟨properties, hrunning, hplain⟩ := attachAll_run
    (P := fun draft _ rest => Running (resourceOrigins handlers) draft rest ∧
      ∀ entry ∈ draft.entries, Plain settings entry)
    (fun _ _ _ located _ _ gap ⟨hrunning, hplain⟩ hattach => ⟨hrunning.step hattach gap _, by
      intro entry hentry
      rcases mem_withDescriptor hentry with rfl | ⟨hentry, -⟩
      · exact fun hne => absurd rfl hne
      · exact hattach.forall hrunning.own (stable_plain located) hplain entry hentry⟩)
    ⟨running_start hhandlers first gap, hstart⟩ hrun
  exact fun entry hentry => hplain entry ((settleDescriptor_perm hrunning.distinct).subset hentry)

/-! ### Modules with a descriptor -/

/-- A module declares one descriptor, as an exported constant whose factory has the path of the route and
whose object has properties for the keys; that of a page is its last statement. -/
structure DeclaresDescriptor (settings : Settings) (routePath : String) (keys : List String) (kind : Kind)
    (module : Module) : Prop where
  only : (module.body.flatMap variableNames).filter settings.descriptorNames.contains =
    [descriptorName settings kind]
  place : ∃ before node after properties, module.body = before ++ node :: after ∧
    node.form = (descriptorOf settings routePath properties kind).form ∧
    properties.map keyOf? = keys.map some ∧ (kind = .page → after = [])

lemma declaresAny_of_declaresDescriptor {keys : List String} {kind : Kind}
    (h : DeclaresDescriptor settings routePath keys kind module) :
    declaresAny module settings.descriptorNames = true := by
  have hmem : descriptorName settings kind ∈
      (module.body.flatMap variableNames).filter settings.descriptorNames.contains := by
    rw [h.only]
    exact List.mem_singleton_self _
  obtain ⟨hname, hdescriptor⟩ := List.mem_filter.mp hmem
  obtain ⟨statement, hstatement, hname⟩ := List.mem_flatMap.mp hname
  exact List.any_eq_true.mpr ⟨statement, hstatement, List.any_eq_true.mpr ⟨_, hname, hdescriptor⟩⟩

section HasDescriptor

variable {keys : List String} {kind : Kind} {draft : Draft} {properties : List Node} {node : Node}

lemma filter_variableNames {entries : List Entry}
    (h : ∀ entry ∈ entries, ∀ name ∈ variableNames entry.node, name ∉ settings.descriptorNames) :
    ((entries.map (·.node)).flatMap variableNames).filter settings.descriptorNames.contains = [] := by
  rw [List.filter_eq_nil_iff]
  intro name hname
  obtain ⟨statement, hstatement, hname⟩ := List.mem_flatMap.mp hname
  obtain ⟨entry, hentry, rfl⟩ := List.mem_map.mp hstatement
  simpa using h entry hentry name hname

/-- The descriptor is the only one among the variables of the draft. -/
lemma HasDescriptor.only (h : HasDescriptor settings routePath keys kind draft properties node)
    (hplain : ∀ entry ∈ draft.entries, Plain settings entry) :
    (draft.body.flatMap variableNames).filter settings.descriptorNames.contains =
      [descriptorName settings kind] := by
  obtain ⟨before, after, hentries, herase⟩ := h.distinct.split h.mem
  have hothers : ∀ entry ∈ before ++ after, ∀ name ∈ variableNames entry.node, name ∉ settings.descriptorNames := by
    intro entry hentry
    rw [← herase, Draft.erase, List.mem_filter] at hentry
    exact hplain entry hentry.1 (by simpa using hentry.2)
  obtain ⟨value, hvalue⟩ := descriptorOf_eq settings routePath properties kind
  have hname : variableNames node = [descriptorName settings kind] :=
    variableNames_exportedConstant (h.form.trans (congrArg Node.form hvalue))
  have hdescriptor : settings.descriptorNames.contains (descriptorName settings kind) = true := by
    simpa using descriptorName_mem settings kind
  rw [Draft.body, hentries, List.map_append, List.map_cons, List.flatMap_append, List.flatMap_cons,
    List.filter_append, List.filter_append, hname,
    filter_variableNames fun entry hentry => hothers entry (List.mem_append_left _ hentry),
    filter_variableNames fun entry hentry => hothers entry (List.mem_append_right _ hentry),
    List.filter_cons_of_pos hdescriptor]
  rfl

/-- Finishing the draft keeps its descriptor. -/
theorem HasDescriptor.finish (h : HasDescriptor settings routePath keys kind draft properties node)
    (hplain : ∀ entry ∈ draft.entries, Plain settings entry) (module : Module) (used : List String) :
    DeclaresDescriptor settings routePath keys kind
      (module.withBody (finish settings kind used draft.body)) := by
  obtain ⟨value, hvalue⟩ := descriptorOf_eq settings routePath properties kind
  have hform := h.form.trans (congrArg Node.form hvalue)
  obtain ⟨before, after, hbody, hlast⟩ : ∃ before after, draft.body = before ++ node :: after ∧
      (kind = .page → after = []) := by
    cases kind with
    | page =>
      obtain ⟨entries, hentries⟩ := h.last rfl
      exact ⟨entries.map (·.node), [], by simp [Draft.body, hentries], fun _ => rfl⟩
    | resource =>
      obtain ⟨before, after, hentries, -⟩ := h.distinct.split h.mem
      exact ⟨before.map (·.node), after.map (·.node), by simp [Draft.body, hentries],
        fun hpage => by cases hpage⟩
  obtain ⟨before', after', hfinish, -, hafter⟩ := @finish_around before after node
    (declaresValues_exportedConstant hform).not_import (isDirective_exportedConstant hform)
    (isEmptied_exportedConstant hform) settings kind used
  have hend : after = [] → after' = [] := by
    rintro rfl
    cases hafter
    rfl
  constructor
  · have hviews := finish_flatMap variableNames (fun _ => variableNames_of_import)
      (fun _ => variableNames_of_isEmptied) settings kind used draft.body
    rw [← h.only hplain, ← hviews]
    rfl
  · exact ⟨before', node, after', properties, by rw [← hfinish, ← hbody]; rfl, h.form, h.keys,
      fun hpage => hend (hlast hpage)⟩

end HasDescriptor

/-- Finishing a draft without default exports makes none. -/
lemma findDefaultExport_finish {draft : Draft} (hnone : ∀ entry ∈ draft.entries, makesDefault entry.node = false)
    (module : Module) (kind : Kind) (used : List String) :
    findDefaultExport (module.withBody (finish settings kind used draft.body)) = none := by
  let view := fun statement => if makesDefault statement then [statement] else []
  have hview (statement : Node) (hnone : makesDefault statement = false) : view statement = [] := by
    simp [view, hnone]
  have hfinish : (finish settings kind used draft.body).flatMap view = [] := by
    rw [finish_flatMap view (fun statement hi => hview statement (makesDefault_of_import hi))
      (fun statement he => hview statement (makesDefault_of_isEmptied he)), List.flatMap_eq_nil_iff]
    intro statement hstatement
    obtain ⟨entry, hentry, rfl⟩ := List.mem_map.mp hstatement
    exact hview _ (hnone entry hentry)
  refine findDefaultExport_eq_none fun statement hstatement => ?_
  have hnil := List.flatMap_eq_nil_iff.mp hfinish statement hstatement
  cases hdefault : makesDefault statement with
  | false => rfl
  | true => simp [view, hdefault] at hnil

/-- No statement of a draft but the descriptor declares one, and none of a page makes a default export. -/
theorem Drafting.plain {kind : Kind} {draft : Draft} (h : Drafting settings module routePath kind draft)
    (hdefaults : (defaultExports module).length ≤ 1)
    (hnames : ∀ n, candidate settings.componentName n ∉ settings.descriptorNames) :
    (∀ entry ∈ draft.entries, Plain settings entry) ∧
      (kind = .page → ∀ entry ∈ draft.entries, makesDefault entry.node = false) := by
  cases h with
  | @page default loader _ hdeclares hdefault hloader hpage =>
    have honly : ∀ other, other ∈ defaultExports module ↔ other = default := by
      rw [findDefaultExport_eq] at hdefault
      have hmem := List.mem_of_getLast? hdefault
      obtain ⟨d, hd⟩ : ∃ d, defaultExports module = [d] :=
        List.length_eq_one_iff.mp (by have := List.length_pos_of_mem hmem; omega)
      rw [hd] at hmem ⊢
      intro other
      rw [List.mem_singleton, List.mem_singleton.mp hmem]
    exact ⟨page_plain hdeclares hnames hloader hpage, fun _ => page_noDefault honly hloader hpage⟩
  | resource hdeclares _ hhandlers hresource =>
    exact ⟨resource_plain hhandlers hdeclares (fun _ => exists_locate_of_mem_methodsOf) hresource, nofun⟩

/-- A name that extends a base is not a shorter one. -/
lemma candidate_ne {base name : String} (h : name.length < base.length) (n : Nat) : candidate base n ≠ name := by
  rintro rfl
  cases n with
  | zero => exact absurd h (Nat.lt_irrefl _)
  | succ n =>
    rw [candidate, String.length_append] at h
    omega

/-- A skipped module is as it was. A finalized one declares exactly one descriptor, is no page with a default
export anymore, and stays as it is when it is migrated again. -/
theorem migrate_descriptor {migrated : Migrated} (h : migrate settings module = .ok migrated)
    (hdefaults : (defaultExports module).length ≤ 1) (hpage : settings.pageDescriptor = "Route")
    (hresource : settings.resourceDescriptor = "ServerRoute")
    (hcomponent : settings.componentName = "RouteComponent") :
    (migrated.outcome.isChanged = false → migrated.module = module) ∧
    ∀ kind path advisories, migrated.outcome = .finalized kind path advisories →
      DeclaresDescriptor settings (RoutePath.ofFile module.path settings.routesRoot)
        (descriptorKeys (locate module.body "loader") (locate module.body "action") kind) kind migrated.module ∧
      (kind = .page → findDefaultExport migrated.module = none) ∧
      ∃ again, migrate settings migrated.module = .ok again ∧
        again.outcome = .skipped none .alreadyMigrated ∧ again.module = migrated.module := by
  have hnames : ∀ n, candidate settings.componentName n ∉ settings.descriptorNames := by
    intro n hmem
    rw [Settings.descriptorNames, hpage, hresource, hcomponent, List.mem_pair] at hmem
    rcases hmem with hmem | hmem
    · exact candidate_ne (by decide) n hmem
    · exact candidate_ne (by decide) n hmem
  constructor
  · intro hchanged
    cases migrate_eq_ok h with
    | skipped _ hmodule => exact hmodule
    | finalized _ houtcome _ =>
      rw [houtcome] at hchanged
      cases hchanged
  · intro kind path advisories hfinal
    obtain ⟨draft, hdraft, hmodule⟩ := finalized_eq h hfinal
    have hdrafting := draftOf_eq_ok hdraft
    obtain ⟨properties, node, hdescriptor⟩ := hdrafting.hasDescriptor
    obtain ⟨hplain, hnone⟩ := hdrafting.plain hdefaults hnames
    have hdeclares := hdescriptor.finish hplain module module.referencedNames
    rw [hmodule]
    exact ⟨hdeclares, fun hkind => findDefaultExport_finish (hnone hkind) module kind _,
      migrate_of_declared (declaresAny_of_declaresDescriptor hdeclares)⟩

/-- A page with a loader and a component without a name. -/
def plainPage : Module where
  path := "routes/notes.tsx"
  body :=
    let params := .make (.parameters [] none)
    let body := .make (.block [])
    [exportedConstant "loader" (.make (.arrowFunction { params, body })),
      .make (.exportDefault (.make (.functionDeclaration { name := none, params, body := some body })))]

theorem plainPage_descriptor : ∃ migrated, migrate defaultSettings plainPage = .ok migrated ∧
    DeclaresDescriptor defaultSettings "/notes" ["loader", "component"] .page migrated.module ∧
    findDefaultExport migrated.module = none := by
  obtain ⟨migrated, hmigrated, hfinal⟩ : ∃ migrated, migrate defaultSettings plainPage = .ok migrated ∧
      migrated.outcome = .finalized .page "/notes" [] := ⟨_, rfl, rfl⟩
  have hpage := (migrate_descriptor hmigrated (by decide) rfl rfl rfl).2 .page "/notes" [] hfinal
  exact ⟨migrated, hmigrated, hpage.1, hpage.2.1 rfl⟩

end RouteMigration.Proofs
