import Mathlib.Data.List.Flatten
import RouteMigration.Proofs.StaleImports

/-!
# Imports that lose their last use

A migration removes the names of legacy imports that lost their last use in the order in which the module
binds them. Where the source of a statement has a replacement, the first such name takes the statement to the
replacement, and the names after it are no longer looked for.
-/

namespace RouteMigration.Proofs
open Syntax Route

/-- A name of a legacy import that lost its last use: nothing refers to it anymore, although something did or
the name is the envelope. -/
structure LosesLastUse (settings : Settings) (module migrated : Module) (name : String) : Prop where
  legacy : ∃ binding ∈ importBindings module.body, binding.localName = name ∧ settings.isLegacy binding.source = true
  unused : name ∉ migrated.referencedNames
  candidate : name = settings.envelope ∨ name ∈ module.referencedNames

/-! ### The order of the names -/

lemma importedNames_sublist (form : ImportForm) : (importedNames form).Sublist (localNames (bindingsOf form)) := by
  have hgiven (o : Option String) : (given o).toList.Sublist o.toList := by
    cases o with
    | none => exact .slnil
    | some name => by_cases h : name = "" <;> simp [given, Option.filter, h]
  rw [localNames_bindingsOf, clausesOf, List.map_append, List.map_append, List.map_map, List.map_map, List.map_map]
  refine ((List.Sublist.refl _).append ?_).append ?_
  · simpa [Function.comp_def, Clause.localName] using hgiven form.defaultName
  · simpa [Function.comp_def, Clause.localName] using hgiven form.namespaceName

lemma importedNames_eq {form : ImportForm} (h : "" ∉ localNames (bindingsOf form)) :
    importedNames form = localNames (bindingsOf form) := by
  rw [localNames_bindingsOf, clausesOf, List.map_append, List.map_append, List.map_map, List.map_map,
    List.map_map] at h ⊢
  rw [List.mem_append, List.mem_append, not_or, not_or] at h
  obtain ⟨⟨-, hdefault⟩, hnamespace⟩ := h
  have hgiven {o : Option String} (h : "" ∉ o.toList) : given o = o := by
    cases o with
    | none => rfl
    | some name =>
      have hne : name ≠ "" := fun heq => h (by simp [heq])
      simp [given, hne]
  rw [importedNames, hgiven (by simpa [Function.comp_def, Clause.localName] using hdefault),
    hgiven (by simpa [Function.comp_def, Clause.localName] using hnamespace)]
  simp [Function.comp_def, Clause.localName]

lemma eraseDups_of_nodup {l : List String} (h : l.Nodup) : l.eraseDups = l := by
  induction l with
  | nil => rfl
  | cons name l ih =>
    obtain ⟨hname, hl⟩ := List.nodup_cons.mp h
    have hfilter : l.filter (fun other => !other == name) = l := by
      rw [List.filter_eq_self]
      rintro other hother
      have hne : other ≠ name := fun heq => hname (heq ▸ hother)
      simpa using hne
    rw [List.eraseDups_cons, hfilter, ih hl]

/-- Whether nothing refers to a candidate. -/
def isStale (candidates : List String) (body : List Node) (name : String) : Bool :=
  !(body.flatMap Node.referencedNames).contains name && candidates.contains name

lemma isStale_iff {candidates : List String} {body : List Node} {name : String} :
    isStale candidates body name = true ↔ name ∉ body.flatMap Node.referencedNames ∧ name ∈ candidates := by
  simp only [isStale, Bool.and_eq_true, Bool.not_eq_true', List.contains_eq_mem, decide_eq_true_eq,
    decide_eq_false_iff_not]

variable {isLegacy : String → Bool}

lemma staleImports_eq {body : List Node} (hd : (localNames (importBindings body)).Nodup)
    (candidates : List String) : staleImports isLegacy (some candidates) body =
      ((legacyForms isLegacy body).flatMap importedNames).filter (isStale candidates body) := by
  have hsublist : ((legacyForms isLegacy body).flatMap importedNames).Sublist (localNames (importBindings body)) := by
    rw [importBindings_eq, localNames, List.map_flatMap]
    exact (List.filter_sublist.flatMap _).trans (List.Sublist.flatMap_right _ fun form _ => importedNames_sublist form)
  have hforms : body.filterMap import? = importForms body := by
    rw [importForms, List.filterMap_eq_flatMap_toList]
  have hnodup := (hd.sublist hsublist).filter (isStale candidates body)
  rw [staleImports, hforms]
  exact eraseDups_of_nodup hnodup

/-- Before the turn of a stale name, those names of its import have been removed that are stale and stand
before it. -/
lemma exists_turn {body : List Node} (hd : (localNames (importBindings body)).Nodup) {candidates : List String}
    {form : ImportForm} (hform : form ∈ legacyForms isLegacy body)
    (himported : importedNames form = localNames (bindingsOf form)) {name : String}
    (hname : name ∈ localNames (bindingsOf form)) (hstale : isStale candidates body name = true) :
    ∃ earlier rest, staleImports isLegacy (some candidates) body = earlier ++ name :: rest ∧ name ∉ earlier ∧
      ((∃ other ∈ earlier, other ∈ localNames (bindingsOf form)) ↔
        ∃ before after, localNames (bindingsOf form) = before ++ name :: after ∧
          ∃ other ∈ before, isStale candidates body other = true) := by
  obtain ⟨forms, forms', hforms⟩ := List.append_of_mem hform
  obtain ⟨before, after, hnames⟩ := List.append_of_mem hname
  have hnodup : (localNames ((legacyForms isLegacy body).flatMap bindingsOf)).Nodup := by
    rw [importBindings_eq] at hd
    exact hd.sublist ((List.filter_sublist.flatMap _).map _)
  rw [hforms, List.flatMap_append, List.flatMap_cons, localNames, List.map_append, List.map_append,
    List.nodup_append, List.nodup_append, ← localNames, ← localNames, hnames] at hnodup
  obtain ⟨-, ⟨hformNodup, -, -⟩, hdisjoint⟩ := hnodup
  rw [List.nodup_middle, List.nodup_cons, List.mem_append, not_or] at hformNodup
  obtain ⟨⟨hbefore, hafter⟩, -⟩ := hformNodup
  -- no other import offers a name of this one
  have hother (other : String) (hmem : other ∈ forms.flatMap importedNames) :
      other ∉ localNames (bindingsOf form) := fun hbound => by
    rw [localNames, List.map_flatMap] at hdisjoint
    rw [hnames] at hbound
    exact hdisjoint other ((List.Sublist.flatMap_right _ fun form _ => importedNames_sublist form).subset hmem) other
      (List.mem_append_left _ hbound) rfl
  refine ⟨(forms.flatMap importedNames ++ before).filter (isStale candidates body),
    (after ++ forms'.flatMap importedNames).filter (isStale candidates body), ?_, fun hmem => ?_, ?_⟩
  · rw [staleImports_eq hd, hforms, List.flatMap_append, List.flatMap_cons, himported, hnames,
      ← List.filter_cons_of_pos hstale, ← List.filter_append]
    simp only [List.append_assoc, List.cons_append]
  · rcases List.mem_append.mp (List.mem_filter.mp hmem).1 with hmem | hmem
    · exact hother name hmem hname
    · exact hbefore hmem
  · constructor
    · rintro ⟨other, hmem, hbound⟩
      obtain ⟨hmem, hotherStale⟩ := List.mem_filter.mp hmem
      have hotherBefore := (List.mem_append.mp hmem).resolve_left fun hmem => hother other hmem hbound
      exact ⟨before, after, hnames, other, hotherBefore, hotherStale⟩
    · rintro ⟨before', after', hnames', other, hmem, hotherStale⟩
      rw [hnames] at hnames'
      obtain ⟨rfl, -, -⟩ := (List.append_cons_inj_of_notMem hbefore hafter).mp hnames'
      refine ⟨other, List.mem_filter.mpr ⟨List.mem_append_right _ hmem, hotherStale⟩, ?_⟩
      rw [hnames]
      exact List.mem_append_left _ hmem

variable {settings : Settings} {module : Module}

/-- A name that nothing refers to is bound in the end if and only if the removals leave it. -/
lemma bound_finish_iff {kind : Kind} {used : List String} {body : List Node} {name : String}
    (hd : (localNames (importBindings body)).Nodup) (hfactory : factoryName settings kind ≠ name) :
    name ∈ localNames (importBindings (finish settings kind used body)) ↔
      name ∈ localNames (importBindings (removeAll settings.isLegacy settings.sourceRemap
        (staleImports settings.isLegacy (some (settings.envelope :: used)) body) body)) := by
  have hleft := @removeAll_nodup settings.isLegacy settings.sourceRemap _ hd
    (staleImports settings.isLegacy (some (settings.envelope :: used)) body)
  have hremap := (@remapSources_rebound settings.isLegacy settings.sourceRemap _ hleft).localNames
  have hfinish := (importBindings_finish settings kind used body).map Binding.localName
  rw [← dropLegacy_eq] at hremap
  rw [localNames, hfinish.mem_iff, List.map_append, List.mem_append, hremap.mem_iff]
  refine or_iff_left fun hadded => ?_
  obtain ⟨binding, hbinding, hlocal⟩ := List.mem_map.mp hadded
  obtain ⟨record, hrecord, hbindingEq⟩ := requestedBindings_missing hbinding
  rw [hbindingEq, ← pendingImports_records hrecord] at hlocal
  refine hfactory (Eq.trans ?_ hlocal)
  cases kind <;> rfl

/-- An import of the module from a legacy source is an import of the draft. -/
lemma DraftImports.mem_legacyForms {draft : Draft} {before after : List ImportForm} {component? : Option ImportForm}
    (h : DraftImports settings module draft before after component?) {form : ImportForm}
    (hform : form ∈ legacyForms isLegacy module.body) : form ∈ legacyForms isLegacy draft.body := by
  obtain ⟨hmem, hlegacy⟩ := List.mem_filter.mp hform
  refine List.mem_filter.mpr ⟨?_, hlegacy⟩
  rw [h.input, List.mem_append] at hmem
  rw [h.draft, List.append_assoc, List.mem_append, List.mem_append]
  exact hmem.imp_right .inr

/-! ### Names that stay -/

section Forms

variable {migrated : Module} {form : ImportForm} {name : String}

lemma LosesLastUse.exists_form (h : LosesLastUse settings module migrated name) :
    ∃ form ∈ legacyForms settings.isLegacy module.body, name ∈ localNames (bindingsOf form) := by
  obtain ⟨binding, hbinding, hname, hlegacy⟩ := h.legacy
  obtain ⟨form, hform, hmem⟩ := mem_importBindings_iff.mp hbinding
  have hformLegacy : settings.isLegacy form.source = true := (mem_bindingsOf.mp hmem).1 ▸ hlegacy
  exact ⟨form, List.mem_filter.mpr ⟨hform, hformLegacy⟩, List.mem_map.mpr ⟨binding, hmem, hname⟩⟩

lemma losesLastUse_iff (hform : form ∈ legacyForms settings.isLegacy module.body)
    (hname : name ∈ localNames (bindingsOf form)) : LosesLastUse settings module migrated name ↔
      name ∉ migrated.referencedNames ∧ (name = settings.envelope ∨ name ∈ module.referencedNames) := by
  obtain ⟨hbodyForm, hlegacy⟩ := List.mem_filter.mp hform
  obtain ⟨binding, hbinding, hlocal⟩ := List.mem_map.mp hname
  have hsource : settings.isLegacy binding.source = true := (mem_bindingsOf.mp hbinding).1 ▸ hlegacy
  constructor
  · intro h
    exact ⟨h.unused, h.candidate⟩
  · rintro ⟨hunused, hcandidate⟩
    exact ⟨⟨binding, mem_importBindings_iff.mpr ⟨form, hbodyForm, hbinding⟩, hlocal, hsource⟩, hunused, hcandidate⟩

lemma ImportsDistinct.importedNames_eq {body : List Node} (h : ImportsDistinct body) (hform : form ∈ importForms body) :
    importedNames form = localNames (bindingsOf form) := by
  refine Proofs.importedNames_eq fun hempty => ?_
  obtain ⟨binding, hbinding, hlocal⟩ := List.mem_map.mp hempty
  exact h.named (List.mem_map.mpr ⟨binding, mem_importBindings_iff.mpr ⟨form, hform, hbinding⟩, hlocal⟩)

end Forms

/-- A name that lost its last use is still bound if and only if its source is no legacy one when its turn comes.
Where no legacy source is replaced by another one, these are the names of imports whose source has a
replacement that follow another lost name of the same import. -/
theorem migrate_lostImport {migrated : Migrated} {kind : Kind} {path : String} {advisories : List String}
    (h : migrate settings module = .ok migrated) (hfinal : migrated.outcome = .finalized kind path advisories)
    (hdistinct : ImportsDistinct module.body) {name : String}
    (hlost : LosesLastUse settings module migrated.module name) :
    (∃ draft earlier later,
      draftOf settings module (RoutePath.ofFile module.path settings.routesRoot) = .ok (.ok (kind, draft)) ∧
      staleImports settings.isLegacy (some (settings.envelope :: module.referencedNames)) draft.body =
        earlier ++ name :: later ∧
      (name ∈ localNames (importBindings migrated.module.body) ↔
        ∃ binding ∈ importBindings (removeAll settings.isLegacy settings.sourceRemap earlier draft.body),
          binding.localName = name ∧ settings.isLegacy binding.source = false)) ∧
    (LeavesLegacy settings.isLegacy settings.sourceRemap →
      (name ∈ localNames (importBindings migrated.module.body) ↔
        ∃ form ∈ importForms module.body, settings.isLegacy form.source = true ∧
          (Settings.remap? settings.sourceRemap form.source).isSome ∧
          ∃ earlier later, localNames (bindingsOf form) = earlier ++ name :: later ∧
            ∃ other ∈ earlier, LosesLastUse settings module migrated.module other)) := by
  obtain ⟨draft, hdraft, hbody⟩ := finalized_body h hfinal
  have hdrafting := draftOf_eq_ok hdraft
  obtain ⟨_, _, _, himports⟩ := hdrafting.imports
  have hd := himports.nodup hdistinct
  have hused : migrated.module.referencedNames = draft.body.flatMap Node.referencedNames := by
    rw [Module.referencedNames, hbody, finish_referencedNames]
  obtain ⟨form, hform, hname⟩ := hlost.exists_form
  have hlegacy := (List.mem_filter.mp hform).2
  have hmoduleForm := (List.mem_filter.mp hform).1
  have hstale {other : String} (hother : other ∈ localNames (bindingsOf form)) :
      isStale (settings.envelope :: module.referencedNames) draft.body other = true ↔
        LosesLastUse settings module migrated.module other := by
    rw [losesLastUse_iff hform hother, isStale_iff, hused, List.mem_cons]
  have hdraftForm := himports.mem_legacyForms hform
  have hdraftName : name ∈ localNames (importBindings draft.body) := by
    obtain ⟨binding, hbinding, hlocal⟩ := List.mem_map.mp hname
    have hdraftBody := (List.mem_filter.mp hdraftForm).1
    exact List.mem_map.mpr ⟨binding, mem_importBindings_iff.mpr ⟨form, hdraftBody, hbinding⟩, hlocal⟩
  obtain ⟨earlier, rest, hsplit, hnot, hturn⟩ :=
    exists_turn hd hdraftForm (hdistinct.importedNames_eq hmoduleForm) hname ((hstale hname).mpr hlost)
  have hbound := @bound_finish_iff settings kind module.referencedNames _ _ hd
    (hdrafting.factoryName_ne (hused ▸ hlost.unused))
  rw [hsplit, removeAll_bound hd hdraftName hnot, ← hbody] at hbound
  refine ⟨⟨draft, earlier, rest, hdraft, hsplit, hbound⟩, fun hleaves => ?_⟩
  have hbefore {before after : List String} {other : String} {f : ImportForm}
      (hnames : localNames (bindingsOf f) = before ++ name :: after) (hother : other ∈ before) :
      other ∈ localNames (bindingsOf f) := by
    rw [hnames]
    exact List.mem_append_left _ hother
  rw [hbound, turn_not_legacy hleaves hd hdraftForm hname hnot, hturn]
  constructor
  · rintro ⟨hremap, before, after, hnames, other, hother, hotherStale⟩
    have hotherLost := (hstale (hbefore hnames hother)).mp hotherStale
    exact ⟨form, hmoduleForm, hlegacy, hremap, before, after, hnames, other, hother, hotherLost⟩
  · rintro ⟨form', hform', -, hremap, before, after, hnames, other, hother, hotherLost⟩
    have hname' : name ∈ localNames (bindingsOf form') := by
      rw [hnames]
      exact List.mem_append_right _ (List.mem_cons_self ..)
    have hnodup := hdistinct.nodup
    rw [importBindings_eq] at hnodup
    obtain rfl := form_unique hnodup hform' hmoduleForm hname' hname
    have hotherStale := (hstale (hbefore hnames hother)).mpr hotherLost
    exact ⟨hremap, before, after, hnames, other, hother, hotherStale⟩

/-- A page whose loader alone uses the names of an import, among them the type of its parameter. -/
def typedPage : Module where
  path := "routes/notes.tsx"
  body :=
    let type := .make (.identifier "LoaderFunctionArgs" true)
    let params := .make (.parameters [.text "args: ", .node type] none)
    [.make (.importDeclaration
        { source := "@remix-run/react", specifiers := [{ imported := "json" }, { imported := "LoaderFunctionArgs" }] }),
      exportedConstant "loader"
        (.make (.arrowFunction { params, body := callOf (variableOf "json") [.make (.stringLiteral "notes")] })),
      .make (.exportDefault (.make (.arrowFunction { params := .make (.parameters [] none), body := .make (.block []) })))]

theorem typedPage_lostImport : ∃ migrated, migrate defaultSettings typedPage = .ok migrated ∧
    LosesLastUse defaultSettings typedPage migrated.module "LoaderFunctionArgs" ∧
    "LoaderFunctionArgs" ∈ localNames (importBindings migrated.module.body) := by
  obtain ⟨migrated, hmigrated, hfinal, hjson, htype⟩ : ∃ migrated, migrate defaultSettings typedPage = .ok migrated ∧
      migrated.outcome = .finalized .page "/notes" [] ∧ "json" ∉ migrated.module.referencedNames ∧
      "LoaderFunctionArgs" ∉ migrated.module.referencedNames := ⟨_, rfl, rfl, by decide +kernel, by decide +kernel⟩
  have hlost : LosesLastUse defaultSettings typedPage migrated.module "LoaderFunctionArgs" :=
    ⟨⟨⟨"@remix-run/react", false, .named { imported := "LoaderFunctionArgs" }⟩, by decide +kernel, rfl,
      by decide +kernel⟩, htype, .inr (by decide +kernel)⟩
  have hleaves : LeavesLegacy defaultSettings.isLegacy defaultSettings.sourceRemap := by
    intro source target _ hremap
    obtain ⟨⟨old, new⟩, hfind, rfl⟩ := Option.map_eq_some_iff.mp hremap
    obtain ⟨rfl, rfl⟩ : old = "@remix-run/react" ∧ new = "@tanstack/react-router" := by
      simpa [defaultSettings] using List.mem_of_find?_eq_some hfind
    decide +kernel
  have hbound := (migrate_lostImport hmigrated hfinal ⟨by decide +kernel, by decide +kernel⟩ hlost).2 hleaves
  refine ⟨migrated, hmigrated, hlost, hbound.mpr ⟨_, List.mem_singleton_self _, by decide +kernel, by decide +kernel,
    ["json"], [], rfl, "json", List.mem_singleton_self _, ?_⟩⟩
  exact ⟨⟨⟨"@remix-run/react", false, .named { imported := "json" }⟩, by decide +kernel, rfl, by decide +kernel⟩,
    hjson, .inl rfl⟩

end RouteMigration.Proofs
