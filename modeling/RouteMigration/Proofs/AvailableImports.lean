import RouteMigration.Proofs.Descriptors
import RouteMigration.Proofs.KeptNames
import RouteMigration.Proofs.RequestedImports
import RouteMigration.Proofs.StaleImports

/-!
# Imports that are there at run time

A type-only import is gone when the program runs. A request for a name that such an import provides adds nothing,
and so the descriptor of a migrated module may call a factory that is imported as a type alone. This happens to no
other request.
-/

namespace RouteMigration.Proofs
open Syntax Route

/-- The binding is there at run time: neither its statement nor its specifier is marked as a type. -/
def Binding.IsValue (binding : Binding) : Prop :=
  binding.typeOnly = false ∧ ∀ specifier, binding.clause = .named specifier → specifier.typeOnly = false

/-- An import of the source binds the requested name at run time. -/
def BindsValue (body : List Node) (request : ImportRecord) : Prop :=
  ∃ binding ∈ importBindings body, binding.source = request.source ∧ binding.localName = request.name ∧ binding.IsValue

/-- What is requested comes from a type-only import. -/
def ImportedAsType (body : List Node) (request : ImportRecord) : Prop :=
  ∃ binding ∈ importBindings body, binding.typeOnly = true ∧ binding.Provides request

/-! ### Requests -/

lemma Binding.Provides.localName {binding : Binding} {request : ImportRecord} (h : binding.Provides request) :
    binding.localName = request.name := by
  rw [Binding.localName]
  obtain ⟨-, hclause | ⟨span, hclause⟩⟩ := h
  · rw [hclause]
    rfl
  · rw [hclause]
    rfl

lemma Binding.Provides.isValue {binding : Binding} {request : ImportRecord} (h : binding.Provides request)
    (hvalue : binding.typeOnly = false) : binding.IsValue := by
  refine ⟨hvalue, fun specifier hspecifier => ?_⟩
  obtain ⟨-, hclause | ⟨span, hclause⟩⟩ := h
  · rw [hclause] at hspecifier
    cases hspecifier
  · rw [hclause] at hspecifier
    cases hspecifier
    rfl

/-- A binding that is added binds the name of a request that nothing provided. -/
lemma isProvided_of_added {body : List Node} {pending : PendingImports} {binding : Binding}
    (h : binding ∈ requestedBindings (missingImports body pending)) :
    isProvided body ⟨binding.localName, binding.source⟩ = false := by
  rw [requestedBindings, missingImports_eq, List.flatMap_map] at h
  obtain ⟨source, -, hbinding⟩ := List.mem_flatMap.mp h
  obtain ⟨specifier, hspecifier, rfl⟩ := List.mem_map.mp hbinding
  obtain ⟨name, hname, rfl⟩ := List.mem_map.mp hspecifier
  exact (mem_missingNames.mp hname).2

/-- After requests are added, what is requested is bound at run time if it was before or if it came from no type-only
import, and otherwise it is not. -/
theorem bindsValue_applyImports (body : List Node) {pending : PendingImports} {request : ImportRecord}
    (h : request ∈ pending.records) :
    BindsValue (applyImports body pending) request ↔ BindsValue body request ∨ ¬ ImportedAsType body request := by
  have hperm := importBindings_applyImports body pending
  constructor
  · rintro ⟨binding, hbinding, hsource, hname, hvalue⟩
    rcases List.mem_append.mp (hperm.subset hbinding) with hkept | hadded
    · exact .inl ⟨binding, hkept, hsource, hname, hvalue⟩
    · refine .inr fun ⟨other, hother, _, hprovides⟩ => ?_
      have hmissing := isProvided_of_added hadded
      rw [hsource, hname, isProvided_iff.mpr ⟨other, hother, hprovides⟩] at hmissing
      cases hmissing
  · rintro (⟨binding, hbinding, hbound⟩ | htype)
    · exact ⟨binding, hperm.symm.subset (List.mem_append_left _ hbinding), hbound⟩
    · obtain ⟨binding, hbinding, hprovides⟩ := isProvided_iff.mp (isProvided_applyImports body h)
      refine ⟨binding, hbinding, hprovides.1, hprovides.localName, hprovides.isValue ?_⟩
      rcases List.mem_append.mp (hperm.subset hbinding) with hkept | hadded
      · rw [← Bool.not_eq_true]
        exact fun htypeOnly => htype ⟨binding, hkept, htypeOnly, hprovides⟩
      · obtain ⟨record, -, rfl⟩ := requestedBindings_missing hadded
        rfl

/-! ### Where bindings come from

Also where a name is bound twice, no edit of imports makes a binding that was not there. -/

variable {isLegacy : String → Bool} {remap : List (String × String)}

/-- Every new binding is an old one that was carried over. -/
def Inherits (isLegacy : String → Bool) (remap : List (String × String)) (old new : List Binding) : Prop :=
  ∀ binding ∈ new, ∃ origin ∈ old, Carried isLegacy remap origin binding

lemma Inherits.trans {bs cs ds : List Binding} (h : Inherits isLegacy remap bs cs)
    (h' : Inherits isLegacy remap cs ds) : Inherits isLegacy remap bs ds := by
  intro binding hbinding
  obtain ⟨middle, hmiddle, hcarried⟩ := h' binding hbinding
  obtain ⟨origin, horigin, hcarried'⟩ := h middle hmiddle
  exact ⟨origin, horigin, hcarried'.trans hcarried⟩

lemma Inherits.of_subset {bs cs : List Binding} (h : cs ⊆ bs) : Inherits isLegacy remap bs cs :=
  fun binding hbinding => ⟨binding, h hbinding, .refl binding⟩

lemma mem_placeBindings_cleared {places : Places} {index : Nat} {form : ImportForm}
    (h : importAt? places index = some form) {binding : Binding}
    (hbinding : binding ∈ placeBindings (places.set index none)) : binding ∈ placeBindings places :=
  (placeBindings_importAt? h).symm.subset (List.mem_append_right _ hbinding)

lemma mem_placeBindings_setImport {places : Places} {index : Nat} {form f : ImportForm}
    (h : importAt? places index = some form) {binding : Binding}
    (hbinding : binding ∈ placeBindings (setImport places index f)) :
    binding ∈ bindingsOf f ∨ binding ∈ placeBindings places := by
  rcases List.mem_append.mp ((placeBindings_setImport h f).subset hbinding) with hset | hrest
  · exact .inl hset
  · exact .inr (mem_placeBindings_cleared h hrest)

/-- Specifiers that join a statement bring in no other bindings than their own. -/
lemma mem_bindingsOf_mergeSpecifiers {specifiers : List ImportSpecifier} {into : ImportForm}
    (hmerge : isMergeable into = true) {binding : Binding}
    (h : binding ∈ bindingsOf (mergeSpecifiers into specifiers)) :
    binding ∈ bindingsOf into ∨ binding ∈ namedBindings into.source specifiers := by
  induction specifiers generalizing into with
  | nil => exact .inl h
  | cons specifier specifiers ih =>
    rw [mergeSpecifiers, List.foldl_cons, ← mergeSpecifiers] at h
    by_cases hbound : into.specifiers.any (·.localName = specifier.localName) = true
    · rw [if_pos hbound] at h
      exact (ih hmerge h).imp_right (List.mem_cons_of_mem _)
    · rw [if_neg hbound] at h
      have hadd : isMergeable (addSpecifiers [specifier] into) = true := hmerge
      rcases ih hadd h with hadded | hrest
      · have hperm := bindingsOf_addSpecifiers hmerge [specifier]
        rcases List.mem_append.mp (hperm.subset hadded) with hinto | hnew
        · exact .inl hinto
        · exact .inr (List.mem_singleton.mp hnew ▸ List.mem_cons_self ..)
      · exact .inr (List.mem_cons_of_mem _ hrest)

/-- A move brings in no other bindings than those of the import under the new source. -/
lemma mem_placeBindings_moveTo {places : Places} {index : Nat} {form : ImportForm} {source : String}
    (h : importAt? places index = some form) {binding : Binding}
    (hbinding : binding ∈ placeBindings (moveTo places index form source)) :
    binding ∈ bindingsOf { form with source } ∨ binding ∈ placeBindings places := by
  rcases moveTo_cases places index form source with
    ⟨other, into, hne, hinto, hsource, hmerge, hmergeable, hdefault, hmove⟩ | hmove
  · have hrest := (importAt?_set_of_ne (lt_length_of_importAt? h) none hne).trans hinto
    rw [hmove, setImport_set hne] at hbinding
    rcases mem_placeBindings_setImport hrest hbinding with hset | hcleared
    · rcases mem_bindingsOf_mergeSpecifiers hmerge hset with hstays | hmoved
      · exact .inr (mem_placeBindings_of_importAt? hinto hstays)
      · rw [hsource, ← bindingsOf_moved hmergeable hdefault] at hmoved
        exact .inl hmoved
    · exact .inr (mem_placeBindings_cleared h hcleared)
  · rw [hmove] at hbinding
    exact mem_placeBindings_setImport h hbinding

lemma inherits_moved (form : ImportForm) {source : String} (hlegacy : isLegacy form.source = true)
    (hremap : Settings.remap? remap form.source = some source) :
    Inherits isLegacy remap (bindingsOf form) (bindingsOf { form with source }) :=
  fun _ hbinding => (Rebound.moved form (.single ⟨hlegacy, hremap⟩)).origin hbinding

lemma inherits_remapAt {places : Places} {index : Nat} {form : ImportForm}
    (h : importAt? places index = some form) (hlegacy : isLegacy form.source = true) :
    Inherits isLegacy remap (placeBindings places) (placeBindings (remapAt remap places index form)) := by
  rw [remapAt]
  cases hremap : Settings.remap? remap form.source with
  | none => exact .of_subset (List.Subset.refl _)
  | some source =>
    intro binding hbinding
    rcases mem_placeBindings_moveTo h hbinding with hmoved | hstays
    · obtain ⟨origin, horigin, hcarried⟩ := inherits_moved form hlegacy hremap binding hmoved
      exact ⟨origin, mem_placeBindings_of_importAt? h horigin, hcarried⟩
    · exact ⟨binding, hstays, .refl binding⟩

lemma inherits_unbindAt {name : String} {places : Places} {index : Nat} {form : ImportForm}
    (h : importAt? places index = some form) (hlegacy : isLegacy form.source = true) :
    Inherits isLegacy remap (placeBindings places) (placeBindings (unbindAt remap name places index form)) := by
  rw [unbindAt]
  split
  · exact .of_subset fun binding => mem_placeBindings_cleared h
  · have hset : importAt? (setImport places index (unbind name form)) index = some (unbind name form) := by
      rw [importAt?_setImport h, if_pos rfl]
    apply Inherits.trans _ (inherits_remapAt hset hlegacy)
    apply Inherits.of_subset
    intro binding hbinding
    rcases mem_placeBindings_setImport h hbinding with hleft | hstays
    · rw [bindingsOf_unbind] at hleft
      exact mem_placeBindings_of_importAt? h (List.mem_filter.mp hleft).1
    · exact hstays

/-- What edits of places inherit, an edit of all imports inherits. -/
lemma inherits_editImports (edit : Places → Nat → ImportForm → Option Places)
    (hedit : ∀ places index form edited, importAt? places index = some form → edit places index form = some edited →
      Inherits isLegacy remap (placeBindings places) (placeBindings edited)) (body : List Node) :
    Inherits isLegacy remap (importBindings body) (importBindings (editImports edit body).1) := by
  have hstart : Inherits isLegacy remap (importBindings body) (placeBindings (places body)) := by
    rw [placeBindings_places]
    exact .of_subset (List.Subset.refl _)
  obtain ⟨edited, hrun, hinherits⟩ := editImports_invariant body hstart
    fun places index form edited (h : Inherits isLegacy remap (importBindings body) (placeBindings places)) himport
        hedited => h.trans (hedit places index form edited himport hedited)
  rw [hrun, importBindings_statements]
  exact hinherits

lemma inherits_removeImport (name : String) (body : List Node) :
    Inherits isLegacy remap (importBindings body) (importBindings (removeImport isLegacy remap name body).1) := by
  rw [removeImport_eq]
  apply inherits_editImports
  intro places index form edited himport hedit
  obtain ⟨hlegacy, -, rfl⟩ := removal_eq_some.mp hedit
  exact inherits_unbindAt himport hlegacy

lemma inherits_removeAll (names : List String) (body : List Node) :
    Inherits isLegacy remap (importBindings body) (importBindings (removeAll isLegacy remap names body)) := by
  induction names generalizing body with
  | nil => exact .of_subset (List.Subset.refl _)
  | cons name names ih => exact (inherits_removeImport name body).trans (ih _)

lemma inherits_remapSources (body : List Node) :
    Inherits isLegacy remap (importBindings body) (importBindings (remapSources isLegacy remap body).1) := by
  rw [remapSources_eq]
  apply inherits_editImports
  intro places index form edited himport hedit
  obtain ⟨hlegacy, source, hsource, rfl⟩ := remapping_eq_some.mp hedit
  exact remapAt_of_some hsource ▸ inherits_remapAt himport hlegacy

lemma inherits_dropLegacy (settings : Settings) (used : List String) (body : List Node) :
    Inherits settings.isLegacy settings.sourceRemap (importBindings body)
      (importBindings (dropLegacy settings used body)) := by
  rw [dropLegacy_eq]
  exact (inherits_removeAll _ body).trans (inherits_remapSources _)

/-! ### The factory -/

variable {settings : Settings} {module : Module}

/-- The factory that makes a descriptor, with the source that it is configured to come from. -/
def factoryRequest (settings : Settings) (kind : Kind) : ImportRecord where
  name := factoryName settings kind
  source := match kind with
    | .page => settings.pageFactorySource
    | .resource => settings.resourceFactorySource

lemma factoryRequest_mem (settings : Settings) (kind : Kind) :
    factoryRequest settings kind ∈ (pendingImports settings kind).records := by
  cases kind <;> exact List.mem_singleton_self _

lemma bindsValue_finish (settings : Settings) (kind : Kind) (used : List String) (body : List Node)
    (request : ImportRecord) : BindsValue (finish settings kind used body) request ↔
      BindsValue (applyImports (dropLegacy settings used body) (pendingImports settings kind)) request := by
  have hperm := (importBindings_finish settings kind used body).trans (importBindings_applyImports _ _).symm
  exact exists_congr fun binding => and_congr_left fun _ => hperm.mem_iff

/-- The result has what is requested from a type-only import of the module, whose source may have been replaced. -/
def KeptAsType (settings : Settings) (module : Module) (body : List Node) (request : ImportRecord) : Prop :=
  ∃ binding ∈ importBindings module.body, binding.typeOnly = true ∧ ∃ moved ∈ importBindings body,
    Carried settings.isLegacy settings.sourceRemap binding moved ∧ moved.Provides request

/-- A type-only import that is left when legacy imports are dropped is one of the module. -/
lemma ImportedAsType.keptAsType {kind : Kind} {routePath : String} {draft : Draft} {request : ImportRecord}
    (hdrafting : Drafting settings module routePath kind draft)
    (h : ImportedAsType (dropLegacy settings module.referencedNames draft.body) request) :
    KeptAsType settings module (dropLegacy settings module.referencedNames draft.body) request := by
  obtain ⟨moved, hmoved, htype, hprovides⟩ := h
  obtain ⟨binding, hbinding, hcarried⟩ := inherits_dropLegacy settings module.referencedNames draft.body moved hmoved
  have hbindingType : binding.typeOnly = true := hcarried.typeOnly.symm.trans htype
  obtain ⟨before, after, component?, himports⟩ := hdrafting.imports
  rcases himports.mem_draft.mp hbinding with hmodule | ⟨form, hform, hmem⟩
  · exact ⟨binding, hmodule, hbindingType, moved, hmoved, hcarried, hprovides⟩
  · -- the import of a component is made by the migration, which makes no type-only imports
    obtain ⟨component, hcomponent, his⟩ := himports.component form hform
    obtain ⟨imported, source, statement, specifier, name, -, rfl⟩ := his.forwarded
    rw [hcomponent, List.mem_singleton] at hmem
    rw [hmem] at hbindingType
    cases hbindingType

/-- The end of a migration adds no type-only imports. -/
lemma keptAsType_finish (kind : Kind) (used : List String) (body : List Node) (request : ImportRecord) :
    KeptAsType settings module (finish settings kind used body) request ↔
      KeptAsType settings module (dropLegacy settings used body) request := by
  have hperm := importBindings_finish settings kind used body
  constructor
  · rintro ⟨binding, hbinding, htype, moved, hmoved, hcarried, hprovides⟩
    rcases List.mem_append.mp (hperm.subset hmoved) with hkept | hadded
    · exact ⟨binding, hbinding, htype, moved, hkept, hcarried, hprovides⟩
    · obtain ⟨record, -, rfl⟩ := requestedBindings_missing hadded
      rw [← hcarried.typeOnly] at htype
      cases htype
  · rintro ⟨binding, hbinding, htype, moved, hmoved, hfurther⟩
    exact ⟨binding, hbinding, htype, moved, hperm.symm.subset (List.mem_append_left _ hmoved), hfurther⟩

lemma KeptAsType.importedAsType {body : List Node} {request : ImportRecord}
    (h : KeptAsType settings module body request) : ImportedAsType body request := by
  obtain ⟨binding, -, htype, moved, hmoved, hcarried, hprovides⟩ := h
  exact ⟨moved, hmoved, hcarried.typeOnly.trans htype, hprovides⟩

/-- Where each name is bound once, a type-only import of what is requested stands alone. -/
lemma ImportedAsType.not_bindsValue {body : List Node} (hd : (localNames (importBindings body)).Nodup)
    {request : ImportRecord} (h : ImportedAsType body request) : ¬ BindsValue body request := by
  rintro ⟨value, hvalue, -, hname, hisValue, -⟩
  obtain ⟨binding, hbinding, htype, hprovides⟩ := h
  rw [binding_unique hd hvalue hbinding (hname.trans hprovides.localName.symm), htype] at hisValue
  cases hisValue

/-- What is requested is bound at run time if it was before or came from no type-only import, and otherwise it is not.
A migrated module calls its factory, and binds it at run time under the same condition. If it does not, it has kept a
type-only import of the factory; where the module binds each name once, it does not if it has kept one. -/
theorem migrate_availableFactory (settings : Settings) (module : Module) :
    (∀ body pending, ∀ request ∈ pending.records, BindsValue (applyImports body pending) request ↔
      BindsValue body request ∨ ¬ ImportedAsType body request) ∧
    ∀ migrated kind path advisories, migrate settings module = .ok migrated →
      migrated.outcome = .finalized kind path advisories →
      factoryName settings kind ∈ migrated.module.body.flatMap Node.referencedValues ∧
      (∃ draft, draftOf settings module (RoutePath.ofFile module.path settings.routesRoot) = .ok (.ok (kind, draft)) ∧
        (BindsValue migrated.module.body (factoryRequest settings kind) ↔
          BindsValue (dropLegacy settings module.referencedNames draft.body) (factoryRequest settings kind) ∨
          ¬ ImportedAsType (dropLegacy settings module.referencedNames draft.body) (factoryRequest settings kind))) ∧
      (¬ BindsValue migrated.module.body (factoryRequest settings kind) →
        KeptAsType settings module migrated.module.body (factoryRequest settings kind)) ∧
      (ImportsDistinct module.body → KeptAsType settings module migrated.module.body (factoryRequest settings kind) →
        ¬ BindsValue migrated.module.body (factoryRequest settings kind)) := by
  refine ⟨fun body pending request => bindsValue_applyImports body, ?_⟩
  intro migrated kind path advisories h hfinal
  obtain ⟨draft, hdraft, hbody⟩ := finalized_body h hfinal
  have hdrafting := draftOf_eq_ok hdraft
  have hbinds : BindsValue migrated.module.body (factoryRequest settings kind) ↔
      BindsValue (dropLegacy settings module.referencedNames draft.body) (factoryRequest settings kind) ∨
      ¬ ImportedAsType (dropLegacy settings module.referencedNames draft.body) (factoryRequest settings kind) := by
    rw [hbody, bindsValue_finish]
    exact bindsValue_applyImports _ (factoryRequest_mem settings kind)
  refine ⟨?_, ⟨draft, hdraft, hbinds⟩, fun hnone => ?_, ?_⟩
  · rw [hbody, finish_referencedValues]
    exact hdrafting.factoryName_mem
  · rw [hbinds, not_or, not_not] at hnone
    rw [hbody, keptAsType_finish]
    exact hnone.2.keptAsType hdrafting
  · intro hdistinct hkept
    rw [hbody, keptAsType_finish] at hkept
    have htype := hkept.importedAsType
    obtain ⟨before, after, component?, himports⟩ := hdrafting.imports
    rw [hbinds, not_or, not_not]
    exact ⟨htype.not_bindsValue (dropLegacy_nodup (himports.nodup hdistinct)), htype⟩

/-- A page that imports the type of the factory. -/
def typedFactoryPage : Module where
  path := "routes/notes.tsx"
  body :=
    let params := .make (.parameters [] none)
    [.make (.importDeclaration
        { source := "@tanstack/react-router", specifiers := [{ imported := "createFileRoute" }], typeOnly := true }),
      exportedConstant "loader" (.make (.arrowFunction { params, body := .make (.block []) })),
      .make (.exportDefault (.make (.arrowFunction { params, body := .make (.block []) })))]

/-- Its descriptor calls a factory that is not there at run time. -/
theorem typedFactoryPage_unavailable : ∃ migrated, migrate defaultSettings typedFactoryPage = .ok migrated ∧
    migrated.outcome = .finalized .page "/notes" [] ∧
    "createFileRoute" ∈ migrated.module.body.flatMap Node.referencedValues ∧
    ¬ BindsValue migrated.module.body ⟨"createFileRoute", "@tanstack/react-router"⟩ := by
  let imported : Binding := ⟨"@tanstack/react-router", true, .named { imported := "createFileRoute" }⟩
  obtain ⟨migrated, hmigrated, hfinal, hkept⟩ : ∃ migrated, migrate defaultSettings typedFactoryPage = .ok migrated ∧
      migrated.outcome = .finalized .page "/notes" [] ∧ imported ∈ importBindings migrated.module.body :=
    ⟨_, rfl, rfl, by decide +kernel⟩
  obtain ⟨-, hfinalized⟩ := migrate_availableFactory defaultSettings typedFactoryPage
  obtain ⟨hcalls, -, -, hunavailable⟩ := hfinalized migrated .page "/notes" [] hmigrated hfinal
  refine ⟨migrated, hmigrated, hfinal, hcalls, ?_⟩
  have hdistinct : ImportsDistinct typedFactoryPage.body := ⟨by decide +kernel, by decide +kernel⟩
  exact hunavailable hdistinct ⟨imported, by decide +kernel, rfl, imported, hkept, .refl imported, rfl, .inr ⟨none, rfl⟩⟩

end RouteMigration.Proofs
