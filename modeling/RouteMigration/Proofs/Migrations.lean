import RouteMigration.Proofs.AddedImports
import RouteMigration.Proofs.Detaching

/-!
# Migrations in stages

A migration leaves a module as it was, or it drafts a body around a descriptor and finishes that with the
imports. The draft of a page is its detached default export, one attachment and the descriptor at the end;
that of a resource starts with an empty descriptor and fills it attachment by attachment.
-/

namespace RouteMigration.Proofs
open Syntax Route

/-- The settings of options that nobody changed. -/
def defaultSettings : Settings where
  legacy := (Pattern.ofExpression ({} : Options).legacySources).toOption.getD .empty
  isQuote_quote := by decide
  isSegment_routesRoot := by decide
  isIdentifier_envelope := by decide +kernel
  ofExpression_legacySources := by rfl

variable {settings : Settings} {module : Module} {routePath : String}

/-! ### Whole modules -/

/-- The body of a migrated module from that of its draft. -/
def finish (settings : Settings) (kind : Kind) (used : List String) (body : List Node) : List Node :=
  pruneExports (applyImports (dropLegacy settings used body) (pendingImports settings kind))

/-- What the migration of a module comes to. -/
inductive Migration (settings : Settings) (module : Module) (migrated : Migrated) : Prop where
  | skipped {kind? : Option Kind} {reason : SkipReason} : migrated.outcome = .skipped kind? reason →
      migrated.module = module → Migration settings module migrated
  | finalized {kind : Kind} {draft : Draft} :
      draftOf settings module (RoutePath.ofFile module.path settings.routesRoot) = .ok (.ok (kind, draft)) →
      migrated.outcome = .finalized kind (RoutePath.ofFile module.path settings.routesRoot) draft.advisories →
      migrated.module = module.withBody (finish settings kind module.referencedNames draft.body) →
      Migration settings module migrated

theorem migrate_eq_ok {migrated : Migrated} (h : migrate settings module = .ok migrated) :
    Migration settings module migrated := by
  obtain ⟨drafted, hdraft, hmigrated⟩ := except_bind_eq_ok h
  match drafted with
  | .error (kind?, reason) =>
    cases hmigrated
    exact .skipped rfl rfl
  | .ok (kind, draft) =>
    cases hmigrated
    exact .finalized hdraft rfl rfl

/-- A finalized migration finished a draft. -/
lemma finalized_eq {migrated : Migrated} {kind : Kind} {path : String} {advisories : List String}
    (h : migrate settings module = .ok migrated) (hfinal : migrated.outcome = .finalized kind path advisories) :
    ∃ draft, draftOf settings module (RoutePath.ofFile module.path settings.routesRoot) = .ok (.ok (kind, draft)) ∧
      migrated.module = module.withBody (finish settings kind module.referencedNames draft.body) := by
  cases migrate_eq_ok h with
  | skipped houtcome _ =>
    rw [houtcome] at hfinal
    cases hfinal
  | finalized hdraft houtcome hmodule =>
    rw [houtcome] at hfinal
    cases hfinal
    exact ⟨_, hdraft, hmodule⟩

lemma finalized_body {migrated : Migrated} {kind : Kind} {path : String} {advisories : List String}
    (h : migrate settings module = .ok migrated) (hfinal : migrated.outcome = .finalized kind path advisories) :
    ∃ draft, draftOf settings module (RoutePath.ofFile module.path settings.routesRoot) = .ok (.ok (kind, draft)) ∧
      migrated.module.body = finish settings kind module.referencedNames draft.body := by
  obtain ⟨draft, hdraft, hmodule⟩ := finalized_eq h hfinal
  refine ⟨draft, hdraft, ?_⟩
  rw [hmodule]
  rfl

/-- Where a draft comes from. -/
inductive Drafting (settings : Settings) (module : Module) (routePath : String) : Kind → Draft → Prop where
  | page {default : DefaultExport} {loader : Located} {draft : Draft} :
      declaresAny module settings.descriptorNames = false → findDefaultExport module = some default →
      locate module.body "loader" = some loader →
      migratePage settings module routePath default loader (locate module.body "action") = .ok draft →
      Drafting settings module routePath .page draft
  | resource {draft : Draft} :
      declaresAny module settings.descriptorNames = false → findDefaultExport module = none →
      methodsOf (locate module.body "loader") (locate module.body "action") ≠ [] →
      migrateResource settings module routePath
        (methodsOf (locate module.body "loader") (locate module.body "action")) = .ok draft →
      Drafting settings module routePath .resource draft

theorem draftOf_eq_ok {kind : Kind} {draft : Draft}
    (h : draftOf settings module routePath = .ok (.ok (kind, draft))) :
    Drafting settings module routePath kind draft := by
  unfold draftOf at h
  by_cases hdeclares : declaresAny module settings.descriptorNames = true
  · rw [if_pos hdeclares] at h
    cases h
  · rw [if_neg hdeclares] at h
    rw [Bool.not_eq_true] at hdeclares
    dsimp only [bind, Except.bind, pure, Except.pure] at h
    split at h
    · cases h
    · next default loader hdefault hloader =>
      split at h
      · cases h
      · next drafted hpage =>
        cases h
        exact .page hdeclares hdefault hloader hpage
    · next hdefault =>
      split at h
      · cases h
      · next hhandlers =>
        split at h
        · cases h
        · next drafted hresource =>
          cases h
          exact .resource hdeclares hdefault (by simpa using hhandlers) hresource

/-- A module that declares a descriptor is left as it is. -/
lemma migrate_of_declared (h : declaresAny module settings.descriptorNames = true) :
    ∃ migrated, migrate settings module = .ok migrated ∧
      migrated.outcome = .skipped none .alreadyMigrated ∧ migrated.module = module := by
  have hdraft : draftOf settings module (RoutePath.ofFile module.path settings.routesRoot) =
      .ok (.error (none, .alreadyMigrated)) := by
    rw [draftOf, if_pos h]
    rfl
  refine ⟨{ outcome := .skipped none .alreadyMigrated, module, messages := inspectionMessages settings module },
    ?_, rfl, rfl⟩
  rw [migrate, hdraft]
  rfl

/-! ### The descriptor as a statement -/

def descriptorName (settings : Settings) : Kind → String
  | .page => settings.pageDescriptor
  | .resource => settings.resourceDescriptor

def descriptorOf (settings : Settings) (routePath : String) (properties : List Node) : Kind → Node
  | .page => pageDescriptor settings routePath properties
  | .resource => resourceDescriptor settings routePath properties

lemma descriptorOf_eq (settings : Settings) (routePath : String) (properties : List Node) (kind : Kind) :
    ∃ value, descriptorOf settings routePath properties kind =
      exportedConstant (descriptorName settings kind) value := by
  cases kind <;> exact ⟨_, rfl⟩

lemma descriptorName_mem (settings : Settings) (kind : Kind) :
    descriptorName settings kind ∈ settings.descriptorNames := by
  cases kind <;> simp [descriptorName, Settings.descriptorNames]

section ExportedConstant

variable {statement : Node} {name : String} {value : Node}

lemma exportedConstant_form (h : statement.form = (exportedConstant name value).form) :
    statement.form = .exportNamed { declaration := some (constant name value) } :=
  h

lemma declared?_exportedConstant (h : statement.form = (exportedConstant name value).form) :
    declared? statement = some (constant name value).form := by
  rw [declared?_exportNamed (exportedConstant_form h)]
  rfl

lemma variableNames_exportedConstant (h : statement.form = (exportedConstant name value).form) :
    variableNames statement = [name] := by
  rw [variableNames_congr ((declared?_exportedConstant h).trans (declared?_exportedConstant rfl).symm)]
  rfl

lemma declaresValues_exportedConstant (h : statement.form = (exportedConstant name value).form) :
    DeclaresValues statement :=
  ⟨_, declared?_exportedConstant h, rfl⟩

lemma isDirective_exportedConstant (h : statement.form = (exportedConstant name value).form) :
    isDirective statement = false := by
  rw [isDirective, exportedConstant_form h]

lemma isEmptied_exportedConstant (h : statement.form = (exportedConstant name value).form) :
    isEmptied statement = false := by
  rw [isEmptied, exportedConstant_form h]
  rfl

end ExportedConstant

/-! ### Pages -/

/-- An entry whose record changes and whose form stays. -/
def SameForm (entry : Entry) (place : Option Entry) : Prop :=
  ∃ entry', place = some entry' ∧ entry'.origin = entry.origin ∧ entry'.node.form = entry.node.form

lemma SameForm.origin {entry entry' : Entry} (h : SameForm entry (some entry')) :
    entry'.origin = entry.origin := by
  obtain ⟨_, hsome, horigin, -⟩ := h
  cases hsome
  exact horigin

/-- A comment may come in above an entry, if it has the given origin. -/
inductive Advised (origin? : Option Origin) (entry : Entry) : Option Entry → Prop where
  | same : Advised origin? entry (some entry)
  | commented {comment : String} : some entry.origin = origin? →
      Advised origin? entry (some (reworked (withComment comment) entry))

lemma Advised.sameForm {origin? : Option Origin} {entry : Entry} {place : Option Entry}
    (h : Advised origin? entry place) : SameForm entry place := by
  cases h with
  | same => exact ⟨entry, rfl, rfl, rfl⟩
  | commented _ => exact ⟨_, rfl, rfl, form_withComment ..⟩

lemma edited_adviseAt (origin : Origin) (text : String) (draft : Draft) :
    Edited (Advised (some origin)) draft.entries (draft.adviseAt settings origin text).entries :=
  edited_modify draft origin _ (fun _ _ _ => .same) fun _ _ horigin => .commented (congrArg some horigin)

lemma entries_adviseAt_append {draft : Draft} {entry : Entry} {origin : Origin} (h : entry.origin ≠ origin)
    (text : String) : ((draft.append entry).adviseAt settings origin text).entries =
      (draft.adviseAt settings origin text).entries ++ [entry] := by
  have hlast : (if entry.origin = origin then
      reworked (withComment (advisoryComment settings text)) entry else entry) = entry := if_neg h
  calc ((draft.append entry).adviseAt settings origin text).entries
    _ = (draft.entries ++ [entry]).map fun e =>
        if e.origin = origin then reworked (withComment (advisoryComment settings text)) e else e := rfl
    _ = (draft.adviseAt settings origin text).entries ++ [entry] := by
      rw [List.map_append, List.map_singleton, hlast]
      rfl

/-- The draft of a page ends with the descriptor, below what attaching the loader leaves; the action, if there
is one, has a comment. -/
theorem migratePage_advised {default : DefaultExport} {loader : Located} {action : Option Located} {draft : Draft}
    (h : migratePage settings module routePath default loader action = .ok draft) :
    ∃ attached entries, Attachment settings .page (detachDefault settings (.ofBody module.body) default).1
        "loader" loader attached ∧
      Edited (Advised (action.map fun located => .statement located.statement)) attached.draft.entries entries ∧
      draft.entries = entries ++ [⟨.descriptor, pageDescriptor settings routePath [attached.property,
        propertyOf "component"
          (variableOf (detachDefault settings (.ofBody module.body) default).2)]⟩] := by
  obtain ⟨attached, hattach, hdraft⟩ := except_bind_eq_ok h
  refine ⟨attached, ?_⟩
  cases action with
  | none =>
    cases hdraft
    exact ⟨attached.draft.entries, attach_eq_ok hattach, edited_refl _ fun entry _ => .same, rfl⟩
  | some action =>
    cases hdraft
    exact ⟨(attached.draft.adviseAt settings (.statement action.statement) pageActionAdvisory).entries,
      attach_eq_ok hattach, edited_adviseAt _ _ _, entries_adviseAt_append (by simp) _⟩

/-- The draft of a page ends with the descriptor, below what attaching the loader leaves. -/
theorem migratePage_eq_ok {default : DefaultExport} {loader : Located} {action : Option Located} {draft : Draft}
    (h : migratePage settings module routePath default loader action = .ok draft) :
    ∃ attached entries, Attachment settings .page (detachDefault settings (.ofBody module.body) default).1
        "loader" loader attached ∧ Edited SameForm attached.draft.entries entries ∧
      draft.entries = entries ++ [⟨.descriptor, pageDescriptor settings routePath [attached.property,
        propertyOf "component"
          (variableOf (detachDefault settings (.ofBody module.body) default).2)]⟩] := by
  obtain ⟨attached, entries, hattach, hadvised, hdraft⟩ := migratePage_advised h
  exact ⟨attached, entries, hattach, hadvised.mono fun _ _ _ hadvised => hadvised.sameForm, hdraft⟩

/-- The entries of the draft of a page are the descriptor and those that attaching the loader left, up to
their comments. -/
lemma page_entries {detached draft : Draft} {key : String} {loader : Located} {attached : Attached}
    {entries : List Entry} {node : Node} (hdistinct : Distinct detached)
    (hnew : ∀ entry ∈ detached.entries, entry.origin ≠ .descriptor)
    (hattach : Attachment settings .page detached key loader attached)
    (hform : Edited SameForm attached.draft.entries entries)
    (hdraft : draft.entries = entries ++ [⟨.descriptor, node⟩]) :
    Distinct draft ∧ ⟨.descriptor, node⟩ ∈ draft.entries ∧
      ∀ entry ∈ draft.entries, entry = ⟨.descriptor, node⟩ ∨ ∃ source ∈ attached.draft.entries,
        entry.origin = source.origin ∧ entry.node.form = source.node.form := by
  have hsource {entry : Entry} (hentry : entry ∈ entries) : ∃ source ∈ attached.draft.entries,
      entry.origin = source.origin ∧ entry.node.form = source.node.form := by
    obtain ⟨source, hsource, entry', hsome, horigin, hsame⟩ := hform.origin hentry
    cases hsome
    exact ⟨source, hsource, horigin, hsame⟩
  refine ⟨?_, ?_, fun entry hentry => ?_⟩
  · have hentries : Distinct { entries } :=
      (hattach.distinct hdistinct).sublist (hform.sublist (·.origin) fun _ _ => SameForm.origin)
    refine distinct_insert hentries (List.append_nil entries).symm hdraft fun entry hentry => ?_
    obtain ⟨source, hmem, horigin, -⟩ := hsource hentry
    obtain ⟨before, hbefore, hstep⟩ := hattach.edited.origin hmem
    rw [horigin, hstep.origin]
    exact hnew before hbefore
  · rw [hdraft]
    exact List.mem_append_right _ (List.mem_singleton_self _)
  · rw [hdraft, List.mem_append, List.mem_singleton] at hentry
    exact hentry.symm.imp_right hsource

/-! ### Resources -/

/-- The positions of the statements that are kept. -/
def keptPositions (draft : Draft) : List Nat :=
  draft.kept.filterMap fun index => draft.position? (.statement index)

/-- The descriptor stays where it is, with no kept statement below it, or it moves down to where the last one ends. -/
inductive Settles (draft : Draft) : Prop where
  | stays : settleDescriptor draft = draft →
      (∀ node position, draft.find? .descriptor = some node → draft.position? .descriptor = some position →
        ∀ kept ∈ keptPositions draft, kept ≤ position) → Settles draft
  | moves {node : Node} {position : Nat} {before after : List Entry} : ⟨.descriptor, node⟩ ∈ draft.entries →
      draft.position? .descriptor = some position → position < before.length →
      (∀ kept ∈ keptPositions draft, kept ≤ before.length) → (draft.erase .descriptor).entries = before ++ after →
      (settleDescriptor draft).entries = before ++ ⟨.descriptor, node⟩ :: after → Settles draft

lemma Distinct.settles {draft : Draft} (h : Distinct draft) : Settles draft := by
  by_cases hmoves : ∃ last position node, (keptPositions draft).max? = some last ∧
      draft.position? .descriptor = some position ∧ draft.find? .descriptor = some node ∧ position < last
  · obtain ⟨last, position, node, hmax, hposition, hfind, hbelow⟩ := hmoves
    have hnode := find?_eq_some hfind
    obtain ⟨first, second, hentries, herase⟩ := h.split hnode
    have hlast : last ≤ (draft.erase .descriptor).entries.length := by
      obtain ⟨index, -, hindex⟩ := List.mem_filterMap.mp (List.max?_mem hmax)
      have hlt := (List.findIdx?_eq_some_iff_getElem.mp hindex).1
      rw [hentries, List.length_append, List.length_cons] at hlt
      rw [herase, List.length_append]
      omega
    obtain ⟨before, after, hsplit, rfl, hinsert⟩ := entries_insertAt hlast ⟨.descriptor, node⟩
    refine .moves hnode hposition hbelow (List.max?_eq_some_iff.mp hmax).2 hsplit ?_
    rw [← hinsert, settleDescriptor, ← keptPositions, hmax, hposition, hfind]
    exact congrArg _ (if_pos hbelow)
  · refine .stays ?_ fun node position hfind hposition kept hkept => ?_
    · unfold settleDescriptor
      dsimp only
      split
      · next last position node hlast hposition hfind =>
        exact if_neg fun hbelow => hmoves ⟨last, position, node, hlast, hposition, hfind, hbelow⟩
      · rfl
    · obtain ⟨last, hlast⟩ := Option.isSome_iff_exists.mp (List.isSome_max?_of_mem hkept)
      have hle := (List.max?_eq_some_iff.mp hlast).2 kept hkept
      have hnot : ¬ position < last := fun hbelow => hmoves ⟨last, position, node, hlast, hposition, hfind, hbelow⟩
      omega

lemma settleDescriptor_perm {draft : Draft} (h : Distinct draft) :
    (settleDescriptor draft).entries.Perm draft.entries := by
  cases h.settles with
  | stays hsame _ => rw [hsame]
  | moves hnode _ _ _ herase hsettled =>
    obtain ⟨first, second, hentries, hrest⟩ := h.split hnode
    rw [hsettled, hentries]
    refine List.perm_middle.trans (List.Perm.trans ?_ List.perm_middle.symm)
    rw [← herase, hrest]

lemma flatMap_insert {β : Type} {view : Entry → List β} {entry : Entry} (h : view entry = []) (before after : List Entry) :
    (before ++ entry :: after).flatMap view = (before ++ after).flatMap view := by
  rw [List.flatMap_append, List.flatMap_cons, h, List.nil_append, ← List.flatMap_append]

/-- Settling the descriptor changes no view that does not show it. -/
lemma flatMap_settleDescriptor {β : Type} {view : Entry → List β} (hview : ∀ node, view ⟨.descriptor, node⟩ = [])
    {draft : Draft} (h : Distinct draft) :
    (settleDescriptor draft).entries.flatMap view = draft.entries.flatMap view := by
  cases h.settles with
  | stays hsame _ => rw [hsame]
  | @moves node _ before after hnode _ _ _ herase hsettled =>
    obtain ⟨first, second, hentries, hrest⟩ := h.split hnode
    calc (settleDescriptor draft).entries.flatMap view
      _ = (before ++ after).flatMap view := by rw [hsettled, flatMap_insert (hview node)]
      _ = (first ++ second).flatMap view := by rw [← herase, hrest]
      _ = draft.entries.flatMap view := by rw [hentries, flatMap_insert (hview node)]

/-- A new descriptor changes no view that does not show it. -/
lemma flatMap_withDescriptor {β : Type} {view : Entry → List β} (hview : ∀ node, view ⟨.descriptor, node⟩ = [])
    (gap : Option String) (properties : List Node) (draft : Draft) :
    (withDescriptor settings routePath gap properties draft).entries.flatMap view = draft.entries.flatMap view := by
  refine (edited_modify (R := fun entry place => place = some entry ∨
    ∃ f, entry.origin = .descriptor ∧ place = some (reworked f entry)) draft .descriptor _ (fun _ _ _ => .inl rfl)
    fun entry _ horigin => .inr ⟨_, horigin, rfl⟩).flatMap_eq view ?_
  rintro ⟨origin, node⟩ _ - (rfl | ⟨f, rfl, rfl⟩)
  · rfl
  · rw [Option.elim_some, reworked, hview, hview]

/-! ### Runs over the handlers of a resource -/

lemma mem_withDescriptor {draft : Draft} {gap : Option String} {properties : List Node} {entry : Entry}
    (h : entry ∈ (withDescriptor settings routePath gap properties draft).entries) :
    entry = ⟨.descriptor, withGap gap (resourceDescriptor settings routePath properties)⟩ ∨
      (entry ∈ draft.entries ∧ entry.origin ≠ .descriptor) := by
  rw [withDescriptor, entries_modify, List.mem_map] at h
  obtain ⟨source, hsource, rfl⟩ := h
  by_cases horigin : source.origin = .descriptor
  · rw [if_pos horigin, reworked, horigin]
    exact .inl rfl
  · rw [if_neg horigin]
    exact .inr ⟨hsource, horigin⟩

lemma descriptor_mem_withDescriptor {draft : Draft} {node : Node} (h : ⟨.descriptor, node⟩ ∈ draft.entries)
    (gap : Option String) (properties : List Node) :
    ⟨.descriptor, withGap gap (resourceDescriptor settings routePath properties)⟩ ∈
      (withDescriptor settings routePath gap properties draft).entries := by
  rw [withDescriptor, entries_modify]
  exact List.mem_map.mpr ⟨_, h, by rw [if_pos rfl, reworked]⟩

/-- An attachment leaves the descriptor in the draft. -/
lemma Attachment.descriptor_mem {kind : Kind} {draft : Draft} {key : String} {located : Located}
    {attached : Attached} (h : Attachment settings kind draft key located attached) {node : Node}
    (hmem : ⟨.descriptor, node⟩ ∈ draft.entries) : ∃ node', ⟨.descriptor, node'⟩ ∈ attached.draft.entries := by
  refine ⟨unlist [located.name] node, h.mem_unlisted hmem fun horigin => ?_⟩
  cases horigin

lemma Running.step {origins : List Origin} {draft : Draft} {key : String} {located : Located}
    {rest : List (String × Located)} {attached : Attached} (h : Running origins draft ((key, located) :: rest))
    (hattach : Attachment settings .resource draft key located attached) (gap : Option String)
    (properties : List Node) : Running origins (withDescriptor settings routePath gap properties attached.draft)
      (handOver located attached.source rest) where
  distinct := distinct_modify (hattach.distinct h.distinct) _ _
  values := by
    intro entry hentry
    rcases mem_withDescriptor hentry with rfl | ⟨hentry, -⟩
    · exact fun _ => declaresValues_exportedConstant rfl
    · exact hattach.forall h.own (stable_holdsValues located origins) h.values entry hentry
  origins := by
    rw [handOver_statements]
    exact fun site hsite => h.origins site (List.mem_cons_of_mem _ hsite)

/-- The origins that hold values in the draft of a resource. -/
def resourceOrigins (handlers : List (String × Located)) : List Origin :=
  .descriptor :: handlers.map (.statement ·.2.statement)

lemma distinct_start (body : List Node) (first : Nat) (node : Node) :
    Distinct ((Draft.ofBody body).insertBefore (.statement first) ⟨.descriptor, node⟩) := by
  obtain ⟨before, after, hsplit, hinsert⟩ :=
    entries_insertBefore (.ofBody body) (.statement first) ⟨.descriptor, node⟩
  refine distinct_insert (distinct_ofBody _) hsplit hinsert fun entry hentry => ?_
  obtain ⟨index, horigin, -⟩ := mem_ofBody.mp hentry
  simp [horigin]

lemma running_start {handlers : List (String × Located)}
    (hhandlers : ∀ handler ∈ handlers, ∃ name, locate module.body name = some handler.2)
    (first : Nat) (gap : Option String) : Running (resourceOrigins handlers)
      ((Draft.ofBody module.body).insertBefore (.statement first)
        ⟨.descriptor, withGap gap (resourceDescriptor settings routePath [])⟩) handlers where
  distinct := distinct_start module.body first _
  values := by
    have hbody := @holdsValues_ofBody module.body (handlers.map (·.2.statement)) (by
      intro site hsite
      obtain ⟨handler, hhandler, rfl⟩ := List.mem_map.mp hsite
      obtain ⟨name, hname⟩ := hhandlers handler hhandler
      exact declaresValues_of_locate hname)
    intro entry hentry hmem
    rcases mem_insertBefore.mp hentry with hentry | rfl
    · obtain ⟨index, horigin, -⟩ := mem_ofBody.mp hentry
      refine hbody entry hentry ?_
      rw [List.map_map]
      exact (List.mem_cons.mp hmem).resolve_left (by simp [horigin])
    · exact declaresValues_exportedConstant rfl
  origins := by
    intro site hsite
    obtain ⟨handler, hhandler, rfl⟩ := List.mem_map.mp hsite
    exact List.mem_cons_of_mem _ (List.mem_map.mpr ⟨handler, hhandler, rfl⟩)

/-- The handlers of a module. -/
def handlersOf (module : Module) : List Located :=
  (locate module.body "loader").toList ++ (locate module.body "action").toList

lemma handler_of_locate {key : String} (hkey : key = "loader" ∨ key = "action") {located : Located}
    (h : locate module.body key = some located) : located ∈ handlersOf module := by
  rcases hkey with rfl | rfl
  · exact List.mem_append_left _ (Option.mem_toList.mpr h)
  · exact List.mem_append_right _ (Option.mem_toList.mpr h)

lemma mem_handlersOf {handler : String × Located}
    (h : handler ∈ methodsOf (locate module.body "loader") (locate module.body "action")) :
    handler.2 ∈ handlersOf module := by
  rcases List.mem_append.mp h with h | h
  · obtain ⟨located, hlocated, rfl⟩ := List.mem_map.mp h
    exact List.mem_append_left _ hlocated
  · obtain ⟨located, hlocated, rfl⟩ := List.mem_map.mp h
    exact List.mem_append_right _ hlocated

lemma exists_locate_of_mem_methodsOf {body : List Node} {handler : String × Located}
    (h : handler ∈ methodsOf (locate body "loader") (locate body "action")) :
    ∃ name, locate body name = some handler.2 := by
  rw [methodsOf, List.mem_append] at h
  rcases h with h | h
  · obtain ⟨located, hlocated, rfl⟩ := List.mem_map.mp h
    exact ⟨"loader", Option.mem_toList.mp hlocated⟩
  · obtain ⟨located, hlocated, rfl⟩ := List.mem_map.mp h
    exact ⟨"action", Option.mem_toList.mp hlocated⟩

/-- The draft of a resource is an empty descriptor in front of the first handler, then every handler attached, and in
the end perhaps a move of the descriptor. -/
lemma migrateResource_min {handlers : List (String × Located)} {draft : Draft} (hne : handlers ≠ [])
    (h : migrateResource settings module routePath handlers = .ok draft) :
    ∃ first gap attached, (handlers.map fun handler => handler.2.statement).min? = some first ∧
      attachAll settings module routePath
        ((Draft.ofBody module.body).insertBefore (.statement first)
          ⟨.descriptor, withGap gap (resourceDescriptor settings routePath [])⟩) [] handlers = .ok attached ∧
      draft = settleDescriptor attached := by
  unfold migrateResource at h
  dsimp only at h
  split at h
  · next hnone =>
    rw [List.min?_eq_none_iff, List.map_eq_nil_iff] at hnone
    exact absurd hnone hne
  · next first hfirst =>
    obtain ⟨attached, hattached, rfl⟩ := except_map_eq_ok h
    exact ⟨first, _, attached, hfirst, hattached, rfl⟩

theorem migrateResource_eq_ok {handlers : List (String × Located)} {draft : Draft} (hne : handlers ≠ [])
    (h : migrateResource settings module routePath handlers = .ok draft) :
    ∃ first gap attached, attachAll settings module routePath
        ((Draft.ofBody module.body).insertBefore (.statement first)
          ⟨.descriptor, withGap gap (resourceDescriptor settings routePath [])⟩) [] handlers = .ok attached ∧
      draft = settleDescriptor attached := by
  obtain ⟨first, gap, attached, -, hattached⟩ := migrateResource_min hne h
  exact ⟨first, gap, attached, hattached⟩

end RouteMigration.Proofs
