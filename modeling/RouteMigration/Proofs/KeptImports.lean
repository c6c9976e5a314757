import RouteMigration.Proofs.Finishing

/-!
# Imports that a migration keeps

Drafting a module leaves its imports alone, but for the import of a component that the default export passed
on. Finishing the draft takes out names that lost their last use, moves the imports that are left and adds
the factory. Together, no other binding is lost, altered or made.
-/

namespace RouteMigration.Proofs
open Syntax Route

/-! ### The imports of a draft -/

/-- The imports of a body, in order. -/
def importForms (body : List Node) : List ImportForm :=
  body.flatMap fun statement => (import? statement).toList

lemma importBindings_eq (body : List Node) : importBindings body = (importForms body).flatMap bindingsOf := by
  rw [importBindings, importForms, List.flatMap_assoc]
  congr 1
  funext statement
  rw [statementBindings]
  cases import? statement <;> simp

lemma mem_importBindings_iff {body : List Node} {binding : Binding} :
    binding ∈ importBindings body ↔ ∃ form ∈ importForms body, binding ∈ bindingsOf form := by
  rw [importBindings_eq, List.mem_flatMap]

/-- The imports of the entries of a draft, in order. -/
def entryImports (entries : List Entry) : List ImportForm :=
  entries.flatMap fun entry => (import? entry.node).toList

lemma importForms_body (draft : Draft) : importForms draft.body = entryImports draft.entries := by
  rw [importForms, Draft.body, List.flatMap_map, entryImports]

lemma entryImports_append (l l' : List Entry) : entryImports (l ++ l') = entryImports l ++ entryImports l' :=
  List.flatMap_append

lemma entryImports_cons (entry : Entry) (l : List Entry) :
    entryImports (entry :: l) = (import? entry.node).toList ++ entryImports l :=
  List.flatMap_cons

lemma import?_unlist (names : List String) (s : Node) : import? (unlist names s) = import? s := by
  rcases unlist_cases names s with hsame | ⟨form, hform, -, -, hunlist⟩
  · rw [hsame]
  · rw [hunlist, import?, import?, hform]
    rfl

lemma import?_eraseSpecifier (index : Nat) (s : Node) : import? (eraseSpecifier index s) = import? s := by
  rcases eraseSpecifier_cases index s with hsame | ⟨form, hform, herase⟩
  · rw [hsame]
  · rw [herase, import?, import?, hform]
    rfl

lemma import?_inlineStatement (fresh : String) (s : Node) : import? (inlineStatement fresh s).1 = import? s := by
  rcases exportDefault_or_other s with ⟨declaration, hform⟩ | hform
  · obtain ⟨hinline, -⟩ := inlineStatement_default fresh hform
    have hnone : import? s = none := by rw [import?, hform]
    rw [hnone, import?, hinline]
    rcases inlineComponent_cases fresh declaration with ⟨form, -, hcomponent, -⟩ | ⟨name, tail, -, hcomponent, -⟩ |
      ⟨-, -, hcomponent⟩
    · rw [hcomponent]
    · rw [hcomponent]
    · rw [hcomponent]
      rfl
  · rw [inlineStatement_other fresh hform]

/-- Attaching a handler changes no import. -/
lemma Attachment.entryImports {settings : Settings} {kind : Kind} {draft : Draft} {key : String}
    {located : Located} {attached : Attached} (h : Attachment settings kind draft key located attached)
    (hvalues : ∀ entry ∈ draft.entries, HoldsValues [.statement located.statement] entry) :
    entryImports attached.draft.entries = entryImports draft.entries := by
  refine h.edited.flatMap_eq _ fun entry place hentry hstep => ?_
  have hown (horigin : entry.origin = .statement located.statement) : DeclaresValues entry.node :=
    hvalues entry hentry (List.mem_singleton.mpr horigin)
  cases hstep with
  | unlisted =>
    rw [Option.elim_some, reworked, import?_unlist]
  | own horigin hf =>
    have hunlisted := (hvalues entry hentry).unlisted horigin [located.name]
    rw [Option.elim_some, (hown horigin).not_import]
    rcases hf with rfl | ⟨index, rfl⟩
    · rw [reworked, reworked, (declaresValues_withoutExport hunlisted).1.not_import]
    · rw [reworked, reworked, (declaresValues_eraseDeclarator index hunlisted).not_import]
  | gone horigin =>
    rw [(hown horigin).not_import]
    rfl

lemma entryImports_sameForm {entries entries' : List Entry} (h : Edited SameForm entries entries') :
    entryImports entries' = entryImports entries := by
  refine h.flatMap_eq _ fun entry place _ hsame => ?_
  obtain ⟨entry', rfl, -, hform⟩ := hsame
  rw [Option.elim_some, import?_congr hform]

lemma entryImports_ofBody (body : List Node) : entryImports (Draft.ofBody body).entries = importForms body := by
  rw [← importForms_body, body_ofBody]

/-- Detaching the default export changes no import. -/
lemma Detachment.entryImports {settings : Settings} {module : Module} {default : DefaultExport}
    {result : Draft × String} {before after : List Entry} {component? : Option Entry}
    (h : Detachment settings default (.ofBody module.body) result before after component?)
    (hdefault : default ∈ defaultExports module) :
    entryImports (before ++ after) = importForms module.body := by
  rw [← entryImports_ofBody]
  refine h.edited.flatMap_eq _ fun entry place hentry hstep => ?_
  cases hstep with
  | other _ => rfl
  | unlisted _ _ => rw [Option.elim_some, reworked, import?_eraseSpecifier]
  | inlined _ _ => rw [Option.elim_some, reworked, import?_inlineStatement]
  | erased hreferenced horigin =>
    subst hreferenced
    obtain ⟨statement, hstatement, hat⟩ := mem_defaultExports.mp hdefault
    obtain ⟨index', horigin', hget⟩ := mem_ofBody.mp hentry
    rw [horigin, Origin.statement.injEq] at horigin'
    rw [← horigin'] at hget
    have hsame : statement = entry.node := Option.some.inj (hstatement.symm.trans hget)
    rw [siteOf] at hat
    cases hat with
    | named hform _ =>
      rw [← hsame, import?, hform]
      rfl

lemma entryImports_withDescriptor {settings : Settings} {routePath : String} {draft : Draft} {gap : Option String}
    {properties : List Node} (h : ∀ entry ∈ draft.entries, HoldsValues [.descriptor] entry) :
    entryImports (withDescriptor settings routePath gap properties draft).entries = entryImports draft.entries := by
  have hedited : Edited (fun entry place => place.elim [] (fun e => (import? e.node).toList) =
      (import? entry.node).toList) draft.entries
      (withDescriptor settings routePath gap properties draft).entries := by
    refine edited_modify draft _ _ (fun entry _ _ => rfl) fun entry hentry horigin => ?_
    rw [(h entry hentry (by simp [horigin])).not_import]
    rfl
  exact hedited.flatMap_eq _ fun entry place _ hsame => hsame

variable {settings : Settings} {module : Module} {routePath : String}

/-- The binding of a component that the default export passed on. -/
def componentBinding (imported source name : String) : Binding where
  source := source
  typeOnly := false
  clause :=
    if imported = "default" then .default name
    else .named { imported, renamed := if name = imported then none else some name }

lemma statementBindings_componentImport (gap : Option String) (imported source name : String) :
    statementBindings (withGap gap (componentImport imported source name)) =
      [componentBinding imported source name] := by
  by_cases h : imported = "default"
  · have hform : import? (withGap gap (componentImport imported source name)) =
        some { source, defaultName := some name } := by
      rw [import?_congr (form_withGap ..), componentImport, if_pos h]
      rfl
    rw [statementBindings_of_import hform, componentBinding, if_pos h]
    rfl
  · have hform : import? (withGap gap (componentImport imported source name)) =
        some { source, specifiers := [{ imported, renamed := if name = imported then none else some name }] } := by
      rw [import?_congr (form_withGap ..), componentImport, if_neg h]
      rfl
    rw [statementBindings_of_import hform, componentBinding, if_neg h]
    rfl

lemma localName_componentBinding {base imported source : String} {n : Nat}
    (h : imported ≠ "default" → base = imported) :
    (componentBinding imported source (candidate base n)).localName = candidate base n := by
  rw [Binding.localName, componentBinding]
  by_cases hdefault : imported = "default"
  · rw [if_pos hdefault]
    rfl
  · rw [if_neg hdefault, h hdefault]
    cases n with
    | zero => simp [Clause.localName, ImportSpecifier.localName, candidate, given]
    | succ n => simp [Clause.localName, ImportSpecifier.localName, candidate, given, Option.filter]

/-- The names that imports bind are declared names of the body. -/
lemma localNames_subset {body : List Node} {name : String} (hne : name ≠ "")
    (h : name ∈ localNames (importBindings body)) : name ∈ body.flatMap Node.declaredNames := by
  obtain ⟨binding, hbinding, rfl⟩ := List.mem_map.mp h
  obtain ⟨statement, hstatement, form, himport, hmem⟩ := mem_importBindings.mp hbinding
  obtain ⟨form', hform⟩ := import?_isSome (Option.isSome_of_mem himport)
  obtain rfl : form' = form := by simpa [import?, hform] using himport
  refine List.mem_flatMap.mpr ⟨statement, hstatement, ?_⟩
  have hclause := (mem_bindingsOf.mp hmem).2.2
  rw [Node.declaredNames, hform, Node.boundByDeclaration, hform]
  rw [Binding.localName] at hne ⊢
  simp only [clausesOf, List.mem_append, List.mem_map, Option.mem_toList] at hclause ⊢
  rcases hclause with (⟨specifier, hspecifier, hclause⟩ | ⟨name, hname, hclause⟩) | ⟨name, hname, hclause⟩
  · rw [← hclause]
    exact .inl (.inl ⟨specifier, hspecifier, rfl⟩)
  · rw [← hclause] at hne ⊢
    exact .inl (.inr (Option.filter_eq_some_iff.mpr ⟨hname, by simpa using hne⟩))
  · rw [← hclause] at hne ⊢
    exact .inr (Option.filter_eq_some_iff.mpr ⟨hname, by simpa using hne⟩)

/-- The component of a module that passes on its default export. -/
structure IsComponent (settings : Settings) (module : Module) (binding : Binding) : Prop where
  forwarded : ∃ imported source statement specifier name,
    findDefaultExport module = some (.forwarded imported source statement specifier) ∧
      binding = componentBinding imported source name
  fresh : binding.localName ≠ "" → binding.localName ∉ localNames (importBindings module.body)

/-- The imports of a draft are those of the module and, where it passes on its default export, that of the
component. -/
structure DraftImports (settings : Settings) (module : Module) (draft : Draft)
    (before after : List ImportForm) (component? : Option ImportForm) : Prop where
  input : importForms module.body = before ++ after
  draft : importForms draft.body = before ++ component?.toList ++ after
  component : ∀ form ∈ component?, ∃ binding, bindingsOf form = [binding] ∧ IsComponent settings module binding

theorem page_imports {default : DefaultExport} {loader : Located} {draft : Draft}
    (hdefault : findDefaultExport module = some default) (hloader : locate module.body "loader" = some loader)
    (h : migratePage settings module routePath default loader (locate module.body "action") = .ok draft) :
    ∃ before after component?, DraftImports settings module draft before after component? := by
  obtain ⟨attached, entries, hattach, hform, hdraft⟩ := migratePage_eq_ok h
  obtain ⟨before, after, component?, hdetach⟩ := detachDefault_eq settings (.ofBody module.body) default
  have hrunning := hdetach.running "loader" hloader
  have hbody := hdetach.entryImports (List.mem_of_getLast? hdefault)
  refine ⟨_, _, component?.bind fun entry => import? entry.node, by rw [← hbody, entryImports_append], ?_, ?_⟩
  · have hdescriptor (properties : List Node) : import? (pageDescriptor settings routePath properties) = none :=
      (declaresValues_exportedConstant rfl).not_import
    rw [importForms_body, hdraft, entryImports_append, entryImports_sameForm hform,
      hattach.entryImports hrunning.own, hdetach.entries, entryImports_append, entryImports_append,
      entryImports_cons, hdescriptor]
    cases component? <;> simp [entryImports]
  · intro form hmem
    obtain ⟨entry, hentry, himport⟩ := Option.bind_eq_some_iff.mp hmem
    obtain ⟨imported, source, statement, specifier, gap, rfl, rfl, hfresh, n, hname⟩ :=
      hdetach.component entry hentry
    have hbinding := statementBindings_componentImport gap imported source
      (detachDefault settings (.ofBody module.body) (.forwarded imported source statement specifier)).2
    rw [statementBindings_of_import himport] at hbinding
    refine ⟨_, hbinding, ⟨imported, source, statement, specifier, _, hdefault, rfl⟩, fun hne hbound => hfresh ?_⟩
    rw [hname, localName_componentBinding fun hdefault => if_neg hdefault] at hne hbound
    rw [hname]
    refine List.mem_append_left _ (localNames_subset hne ?_)
    rwa [importBindings_eq, importForms, List.flatMap_map, ← entryImports, hbody, ← importBindings_eq]

theorem resource_imports {handlers : List (String × Located)} {draft : Draft} (hne : handlers ≠ [])
    (hhandlers : ∀ handler ∈ handlers, ∃ name, locate module.body name = some handler.2)
    (h : migrateResource settings module routePath handlers = .ok draft) :
    importForms draft.body = importForms module.body := by
  obtain ⟨first, gap, attached, hrun, rfl⟩ := migrateResource_eq_ok hne h
  let descriptor : Entry := ⟨.descriptor, withGap gap (resourceDescriptor settings routePath [])⟩
  have hstart : entryImports ((Draft.ofBody module.body).insertBefore (.statement first) descriptor).entries =
      importForms module.body := by
    obtain ⟨before, after, hsplit, hinsert⟩ :=
      entries_insertBefore (.ofBody module.body) (.statement first) descriptor
    have hdescriptor : import? descriptor.node = none := rfl
    rw [hinsert, entryImports_append, entryImports_cons, hdescriptor, ← entryImports_ofBody, hsplit,
      entryImports_append]
    rfl
  obtain ⟨properties, hrunning, hforms⟩ := attachAll_run
    (P := fun draft _ rest => Running (resourceOrigins handlers) draft rest ∧
      entryImports draft.entries = importForms module.body)
    (fun _ _ _ _ _ _ gap ⟨hrunning, hforms⟩ hattach => ⟨hrunning.step hattach gap _, by
      have hdescriptor := hattach.forall hrunning.own (stable_holdsValues _ [.descriptor])
        fun entry hentry => (hrunning.values entry hentry).mono (by simp [resourceOrigins])
      rw [entryImports_withDescriptor hdescriptor, hattach.entryImports hrunning.own, hforms]⟩)
    ⟨running_start hhandlers first gap, hstart⟩ hrun
  rw [importForms_body, ← hforms]
  cases hrunning.distinct.settles with
  | stays hsame _ => rw [hsame]
  | @moves node _ _ _ hnode _ _ _ herase hsettled =>
    obtain ⟨before', after', hentries, herase'⟩ := hrunning.distinct.split hnode
    have hdescriptor : import? node = none :=
      (hrunning.values _ hnode (by simp [resourceOrigins])).not_import
    have hcons (before after : List Entry) :
        entryImports (before ++ ⟨.descriptor, node⟩ :: after) = entryImports (before ++ after) := by
      rw [entryImports_append, entryImports_cons, hdescriptor, entryImports_append]
      rfl
    rw [hsettled, hentries, hcons, hcons, ← herase, herase']

theorem Drafting.imports {kind : Kind} {draft : Draft} (h : Drafting settings module routePath kind draft) :
    ∃ before after component?, DraftImports settings module draft before after component? := by
  cases h with
  | page _ hdefault hloader hpage => exact page_imports hdefault hloader hpage
  | resource _ _ hhandlers hresource =>
    have hforms := resource_imports hhandlers (fun _ => exists_locate_of_mem_methodsOf) hresource
    exact ⟨importForms module.body, [], none, (List.append_nil _).symm, by simpa using hforms, by simp⟩

/-- The imports of a draft bind each name once, if those of the module do. -/
lemma DraftImports.nodup {draft : Draft} {before after : List ImportForm} {component? : Option ImportForm}
    (h : DraftImports settings module draft before after component?) (hdistinct : ImportsDistinct module.body) :
    (localNames (importBindings draft.body)).Nodup := by
  have hperm : (importBindings draft.body).Perm
      (component?.toList.flatMap bindingsOf ++ importBindings module.body) := by
    rw [importBindings_eq, h.draft, importBindings_eq, h.input, List.flatMap_append, List.flatMap_append,
      List.flatMap_append, ← List.append_assoc]
    exact List.perm_append_comm.append_right _
  refine (hperm.map Binding.localName).nodup_iff.mpr ?_
  cases hcomponent : component? with
  | none => exact hdistinct.nodup
  | some form =>
    obtain ⟨binding, hbinding, hfresh⟩ := h.component form hcomponent
    rw [Option.toList_some, List.flatMap_singleton, hbinding, List.singleton_append, List.map_cons, List.nodup_cons]
    refine ⟨fun hmem => ?_, hdistinct.nodup⟩
    by_cases hempty : binding.localName = ""
    · exact hdistinct.named (hempty ▸ hmem)
    · exact hfresh.fresh hempty hmem

lemma DraftImports.mem_draft {draft : Draft} {before after : List ImportForm} {component? : Option ImportForm}
    (h : DraftImports settings module draft before after component?) {binding : Binding} :
    binding ∈ importBindings draft.body ↔
      binding ∈ importBindings module.body ∨ ∃ form ∈ component?, binding ∈ bindingsOf form := by
  rw [importBindings_eq, importBindings_eq, h.draft, h.input]
  simp only [List.flatMap_append, List.mem_append, List.mem_flatMap, Option.mem_toList, Option.mem_def]
  exact or_right_comm

/-! ### The imports of a finished draft -/

/-- The binding of the factory that makes the descriptor. -/
def factoryBinding (settings : Settings) : Kind → Binding
  | .page => ⟨settings.pageFactorySource, false, .named { imported := settings.pageFactory }⟩
  | .resource => ⟨settings.resourceFactorySource, false, .named { imported := settings.resourceFactory }⟩

lemma requestedBindings_missing {body : List Node} {pending : PendingImports} {binding : Binding}
    (h : binding ∈ requestedBindings (missingImports body pending)) :
    ∃ record ∈ pending.records, binding = ⟨record.source, false, .named { imported := record.name }⟩ := by
  obtain ⟨⟨source, missing⟩, hrequest, hbinding⟩ := List.mem_flatMap.mp h
  obtain ⟨⟨source', names⟩, hsource, hmissing⟩ := List.mem_filterMap.mp hrequest
  obtain ⟨specifier, hspecifier, rfl⟩ := List.mem_map.mp hbinding
  obtain ⟨name, hname, rfl⟩ := List.mem_map.mp hspecifier
  dsimp only at hmissing
  split at hmissing
  · cases hmissing
  · cases hmissing
    obtain ⟨source', -, hnames⟩ := List.mem_map.mp hsource
    cases hnames
    have hrequested := (List.mem_filter.mp hname).1
    obtain ⟨record, hrecord, rfl⟩ := List.mem_map.mp hrequested
    obtain ⟨hmem, hsame⟩ := List.mem_filter.mp hrecord
    exact ⟨record, hmem, by rw [of_decide_eq_true hsame]⟩

lemma pendingImports_records {kind : Kind} {record : ImportRecord}
    (h : record ∈ (pendingImports settings kind).records) :
    factoryBinding settings kind = ⟨record.source, false, .named { imported := record.name }⟩ := by
  cases kind <;>
    · simp [pendingImports, PendingImports.add] at h
      rw [h, factoryBinding]

lemma importBindings_finish (settings : Settings) (kind : Kind) (used : List String) (body : List Node) :
    (importBindings (finish settings kind used body)).Perm (importBindings (dropLegacy settings used body) ++
      requestedBindings (missingImports (dropLegacy settings used body) (pendingImports settings kind))) := by
  have hprune := pruneExports_flatMap statementBindings (fun statement hempty => by
    obtain ⟨form, hform, -⟩ := isEmptied_eq_true hempty
    exact statementBindings_of_none (by rw [import?, hform]))
    (applyImports (dropLegacy settings used body) (pendingImports settings kind))
  rw [finish, importBindings, hprune]
  exact importBindings_applyImports _ _

/-- Dropping legacy imports carries over every binding that is not stale. -/
lemma dropLegacy_carried {used : List String} {body : List Node} {binding : Binding}
    (hd : (localNames (importBindings body)).Nodup) (h : binding ∈ importBindings body)
    (hkeep : settings.isLegacy binding.source = false ∨
      binding.localName ∉ staleImports settings.isLegacy (some (settings.envelope :: used)) body) :
    ∃ kept ∈ importBindings (dropLegacy settings used body),
      Carried settings.isLegacy settings.sourceRemap binding kept := by
  obtain ⟨left, hleft, hcarried⟩ := @removeAll_carried settings.isLegacy settings.sourceRemap _ hd _ _ h hkeep
  rw [dropLegacy_eq]
  obtain ⟨kept, hkept, hmoved⟩ :=
    (@remapSources_rebound settings.isLegacy settings.sourceRemap _ (removeAll_nodup hd _)).carried hleft
  exact ⟨kept, hkept, hcarried.trans hmoved⟩

lemma dropLegacy_origin {used : List String} {body : List Node} {kept : Binding}
    (hd : (localNames (importBindings body)).Nodup) (h : kept ∈ importBindings (dropLegacy settings used body)) :
    ∃ binding ∈ importBindings body, Carried settings.isLegacy settings.sourceRemap binding kept := by
  rw [dropLegacy_eq] at h
  obtain ⟨left, hleft, hmoved⟩ := (remapSources_rebound (removeAll_nodup hd _)).origin h
  obtain ⟨binding, hbinding, hcarried⟩ := removeAll_origin hd hleft
  exact ⟨binding, hbinding, hcarried.trans hmoved⟩

lemma dropLegacy_nodup {used : List String} {body : List Node} (hd : (localNames (importBindings body)).Nodup) :
    (localNames (importBindings (dropLegacy settings used body))).Nodup := by
  have hremoved := @removeAll_nodup settings.isLegacy settings.sourceRemap _ hd
    (staleImports settings.isLegacy (some (settings.envelope :: used)) body)
  rw [dropLegacy_eq]
  exact (remapSources_rebound hremoved).localNames.nodup_iff.mp hremoved

/-- A name that is stale is not referred to, and was before or is the envelope. -/
lemma mem_staleImports {isLegacy : String → Bool} {candidates : List String} {body : List Node} {name : String} :
    name ∈ staleImports isLegacy (some candidates) body ↔
      (∃ form ∈ importForms body, isLegacy form.source = true ∧ name ∈ form.specifiers.map (·.localName) ++
        (given form.defaultName).toList ++ (given form.namespaceName).toList) ∧
      name ∉ body.flatMap Node.referencedNames ∧ name ∈ candidates := by
  have hforms : body.filterMap import? = importForms body := by
    rw [importForms, List.filterMap_eq_flatMap_toList]
  rw [staleImports]
  rw [List.mem_eraseDups, List.mem_filter, hforms, List.mem_flatMap]
  simp only [List.mem_filter, Bool.and_eq_true, Bool.not_eq_true', Option.all_some, List.contains_eq_mem,
    decide_eq_true_eq, decide_eq_false_iff_not, and_assoc]

/-! ### Imports before and after -/

/-- Every import binding of another than a legacy source is still there, and so is every one that is used or
was not used before, the envelope apart; its source may have been replaced if it is a legacy one. New are
only the factory and the component of a default export that was passed on. -/
theorem migrate_imports {migrated : Migrated} {kind : Kind} {path : String} {advisories : List String}
    (h : migrate settings module = .ok migrated) (hfinal : migrated.outcome = .finalized kind path advisories)
    (hdistinct : ImportsDistinct module.body) :
    (∀ binding ∈ importBindings module.body, (settings.isLegacy binding.source = false ∨
        binding.localName ∈ migrated.module.referencedNames ∨
        (binding.localName ∉ module.referencedNames ∧ binding.localName ≠ settings.envelope)) →
      ∃ kept ∈ importBindings migrated.module.body,
        Carried settings.isLegacy settings.sourceRemap binding kept ∧
        (settings.isLegacy binding.source = false → kept = binding)) ∧
    ∀ kept ∈ importBindings migrated.module.body, kept = factoryBinding settings kind ∨
      ∃ binding, Carried settings.isLegacy settings.sourceRemap binding kept ∧
        (binding ∈ importBindings module.body ∨ IsComponent settings module binding) := by
  obtain ⟨draft, hdraft, hbody⟩ := finalized_body h hfinal
  obtain ⟨before, after, component?, himports⟩ := (draftOf_eq_ok hdraft).imports
  have hd := himports.nodup hdistinct
  have hperm := importBindings_finish settings kind module.referencedNames draft.body
  rw [hbody]
  constructor
  · intro binding hbinding hkeep
    have hcandidate : settings.isLegacy binding.source = false ∨ binding.localName ∉
        staleImports settings.isLegacy (some (settings.envelope :: module.referencedNames)) draft.body := by
      refine hkeep.imp_right fun hname hstale => ?_
      obtain ⟨-, hunused, hcandidate⟩ := mem_staleImports.mp hstale
      rcases hname with hused | ⟨hbefore, henvelope⟩
      · rw [Module.referencedNames, hbody, finish_referencedNames] at hused
        exact hunused hused
      · exact (List.mem_cons.mp hcandidate).elim henvelope hbefore
    obtain ⟨kept, hkept, hcarried⟩ := dropLegacy_carried hd (himports.mem_draft.mpr (.inl hbinding)) hcandidate
    refine ⟨kept, hperm.symm.subset (List.mem_append_left _ hkept), hcarried, fun hlegacy => ?_⟩
    have hsource := moves_of_not_legacy hcarried.source hlegacy
    exact Binding.ext hsource hcarried.typeOnly hcarried.clause
  · intro kept hkept
    rcases List.mem_append.mp (hperm.subset hkept) with hkept | hkept
    · obtain ⟨binding, hbinding, hcarried⟩ := dropLegacy_origin hd hkept
      refine .inr ⟨binding, hcarried, ?_⟩
      refine (himports.mem_draft.mp hbinding).imp_right fun ⟨form, hform, hmem⟩ => ?_
      obtain ⟨component, hcomponent, his⟩ := himports.component form hform
      rw [hcomponent, List.mem_singleton] at hmem
      rwa [hmem]
    · obtain ⟨record, hrecord, rfl⟩ := requestedBindings_missing hkept
      exact .inl (pendingImports_records hrecord).symm

/-- A page whose component uses a hook of the framework that is left behind. -/
def hookPage : Module where
  path := "routes/notes.tsx"
  body :=
    let params := .make (.parameters [] none)
    let call := callOf (variableOf "useLoaderData") []
    [.make (.importDeclaration
        { source := "@remix-run/react", specifiers := [{ imported := "useLoaderData" }] }),
      exportedConstant "loader" (.make (.arrowFunction { params, body := .make (.block []) })),
      .make (.exportDefault (.make (.arrowFunction { params, body := call })))]

theorem hookPage_imports : ∃ migrated, migrate defaultSettings hookPage = .ok migrated ∧
    ∃ kept ∈ importBindings migrated.module.body, Carried defaultSettings.isLegacy defaultSettings.sourceRemap
      ⟨"@remix-run/react", false, .named { imported := "useLoaderData" }⟩ kept := by
  obtain ⟨migrated, hmigrated, hfinal, hused⟩ : ∃ migrated, migrate defaultSettings hookPage = .ok migrated ∧
      migrated.outcome = .finalized .page "/notes" [] ∧
      "useLoaderData" ∈ migrated.module.referencedNames := ⟨_, rfl, rfl, by decide +kernel⟩
  have himports := migrate_imports hmigrated hfinal ⟨by decide +kernel, by decide +kernel⟩
  obtain ⟨kept, hkept, hcarried, -⟩ := himports.1 ⟨"@remix-run/react", false, .named { imported := "useLoaderData" }⟩
    (by decide +kernel) (.inr (.inl hused))
  exact ⟨migrated, hmigrated, kept, hkept, hcarried⟩

end RouteMigration.Proofs
