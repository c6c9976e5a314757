import RouteMigration.Proofs.Descriptors
import RouteMigration.Proofs.MigratedExports

/-!
# The exports of a migrated module

A migrated module exports its descriptor and no name that the module did not export. Which of the other names
it exports is settled by what the draft has left of the statements that export them.
-/

namespace RouteMigration.Proofs
open Syntax Route

variable {settings : Settings} {module : Module} {routePath : String}

/-- An export under the name of a handler that is no export of the handler alone: the name of another module is
passed on, or it is declared elsewhere or with other variables. -/
inductive StaysExported (module : Module) (name : String) : Prop where
  | passedOn {statement : Node} : statement ∈ module.body → (.passedOn, name) ∈ exportsOf statement →
      StaysExported module name
  | declared {located : Located} {index : Nat} {statement : Node} : located ∈ handlersOf module →
      located.name = name → module.body[index]? = some statement → (.declared, name) ∈ exportsOf statement →
      (index = located.statement → 1 < Draft.declaratorCount statement) → StaysExported module name

lemma Spares.staysExported {located : Located} {entry : Entry} {way : Way} (h : Spares module located entry)
    (hdescends : Descends module entry) (hhandler : located ∈ handlersOf module) (hne : entry.origin ≠ .descriptor)
    (hexport : (way, located.name) ∈ exportsOf entry.node) : StaysExported module located.name := by
  cases hdescends with
  | descriptor horigin => exact absurd horigin hne
  | component _ hnone =>
    rw [hnone] at hexport
    cases hexport
  | @statement index statement horigin hget hsubset _ =>
    have hstatement := hsubset hexport
    rcases h hne way hexport with rfl | ⟨rfl, hcount⟩
    · exact .passedOn (List.mem_of_getElem? hget) hstatement
    · refine .declared hhandler rfl hget hstatement fun hindex => ?_
      rw [hindex] at horigin hget
      exact hcount horigin statement hget

/-- A draft exports what its module exports, and under the migrated names only what stays exported. -/
theorem Drafting.spares {kind : Kind} {draft : Draft} (h : Drafting settings module routePath kind draft)
    (hdistinct : (exportedNames module.body).Nodup) {entry : Entry} (hentry : entry ∈ draft.entries) :
    Descends module entry ∧ ∀ name ∈ migratedNames module kind, entry.origin ≠ .descriptor →
      ∀ way, (way, name) ∈ exportsOf entry.node → StaysExported module name := by
  cases h with
  | @page default loader _ _ hdefault hloader hpage =>
    obtain ⟨hdescends, hspares, hnone⟩ := page_spares hdefault hloader hdistinct hpage entry hentry
    refine ⟨hdescends, fun name hname hne way hexport => ?_⟩
    rcases List.mem_cons.mp hname with rfl | hname
    · exact absurd hexport (hnone hne way)
    · obtain rfl := List.mem_singleton.mp hname
      have hloaderName : loader.name = "loader" := (locate_eq_some hloader).1
      rw [← hloaderName] at hexport ⊢
      exact hspares.staysExported hdescends (handler_of_locate (.inl rfl) hloader) hne hexport
  | resource _ _ hhandlers hresource =>
    obtain ⟨hdescends, hspares⟩ := resource_spares hhandlers hdistinct hresource entry hentry
    refine ⟨hdescends, fun name hname hne way hexport => ?_⟩
    obtain ⟨located, hlocated, rfl⟩ := List.mem_map.mp hname
    exact (hspares located hlocated).staysExported hdescends hlocated hne hexport

/-- A finished draft exports its descriptor and what the other entries export. -/
lemma Drafting.mem_exportedNames {kind : Kind} {draft : Draft} (h : Drafting settings module routePath kind draft)
    (used : List String) (name : String) : name ∈ exportedNames (finish settings kind used draft.body) ↔
      name = descriptorName settings kind ∨
        ∃ entry ∈ draft.entries, entry.origin ≠ .descriptor ∧ ∃ way, (way, name) ∈ exportsOf entry.node := by
  obtain ⟨properties, node, hdescriptor⟩ := h.hasDescriptor
  obtain ⟨value, hvalue⟩ := descriptorOf_eq settings routePath properties kind
  have hform := hdescriptor.form.trans (congrArg Node.form hvalue)
  have hexports : exportsOf node = [(.declared, descriptorName settings kind)] := exportsOf_congr hform
  have hbody : exportedNames (finish settings kind used draft.body) =
      (draft.body.flatMap exportsOf).map Prod.snd := by
    rw [exportedNames, finish_flatMap exportsOf (fun _ => exportsOf_of_import) (fun _ => exportsOf_of_isEmptied)]
  rw [hbody, List.mem_map]
  constructor
  · rintro ⟨⟨way, _⟩, hexport, rfl⟩
    obtain ⟨statement, hstatement, hexport⟩ := List.mem_flatMap.mp hexport
    obtain ⟨entry, hentry, rfl⟩ := List.mem_map.mp hstatement
    by_cases horigin : entry.origin = .descriptor
    · left
      obtain rfl : entry = ⟨.descriptor, node⟩ := hdescriptor.distinct.eq_of_origin hentry hdescriptor.mem horigin
      rw [hexports, List.mem_singleton] at hexport
      exact congrArg Prod.snd hexport
    · exact .inr ⟨entry, hentry, horigin, way, hexport⟩
  · rintro (rfl | ⟨entry, hentry, -, way, hexport⟩)
    · refine ⟨(.declared, _), List.mem_flatMap.mpr ⟨node, List.mem_map_of_mem hdescriptor.mem, ?_⟩, rfl⟩
      rw [hexports]
      exact List.mem_singleton_self _
    · exact ⟨(way, name), List.mem_flatMap.mpr ⟨entry.node, List.mem_map_of_mem hentry, hexport⟩, rfl⟩

/-- A declaration exports a name that a handler has in the module, and nothing that is left of it in the draft
declares the name. -/
def ReleasedExport (module : Module) (draft : Draft) (name : String) : Prop :=
  ∃ located ∈ handlersOf module, located.localName = name ∧
    ∃ index statement, module.body[index]? = some statement ∧ (.declared, name) ∈ exportsOf statement ∧
      ∀ entry ∈ draft.entries, entry.origin = .statement index → name ∉ declarationNames entry.node

/-- What beside the descriptor exports a name, comes from the one statement of the module that exports it. -/
lemma Descends.source {entry : Entry} {way way' : Way} {name : String} {index : Nat} {statement : Node}
    (h : Descends module entry) (hdistinct : (exportedNames module.body).Nodup) (hne : entry.origin ≠ .descriptor)
    (hexport : (way, name) ∈ exportsOf entry.node) (hget : module.body[index]? = some statement)
    (hstatement : (way', name) ∈ exportsOf statement) : entry.origin = .statement index ∧ way = way' := by
  cases h with
  | descriptor horigin => exact absurd horigin hne
  | component _ hnone =>
    rw [hnone] at hexport
    cases hexport
  | statement horigin hsource hsubset _ =>
    obtain ⟨rfl, rfl⟩ := export_unique hdistinct hsource hget (hsubset hexport) hstatement
    exact ⟨horigin, rfl⟩

/-- A migrated module exports its descriptor, and beside it nothing that the module did not export. Of the names
that are not migrated, it keeps all but the local names of handlers whose declarations are gone; of those that
are migrated, it keeps none but those exported by something else than the handler alone. -/
theorem migrate_exports {migrated : Migrated} {kind : Kind} {path : String} {advisories : List String}
    (h : migrate settings module = .ok migrated) (hfinal : migrated.outcome = .finalized kind path advisories)
    (hdistinct : (exportedNames module.body).Nodup) :
    ∃ draft,
      draftOf settings module (RoutePath.ofFile module.path settings.routesRoot) = .ok (.ok (kind, draft)) ∧
      descriptorName settings kind ∈ exportedNames migrated.module.body ∧
      (∀ name ∈ exportedNames migrated.module.body,
        name = descriptorName settings kind ∨ name ∈ exportedNames module.body) ∧
      (∀ name ∈ exportedNames module.body, name ∉ migratedNames module kind → ¬ DeclaredWithTwins module name →
        (name ∉ exportedNames migrated.module.body ↔
          name ≠ descriptorName settings kind ∧ ReleasedExport module draft name)) ∧
      ∀ name ∈ migratedNames module kind, name ∈ exportedNames migrated.module.body →
        name = descriptorName settings kind ∨ StaysExported module name := by
  obtain ⟨draft, hdraft, hbody⟩ := finalized_body h hfinal
  have hdrafting := draftOf_eq_ok hdraft
  have hexports := hdrafting.mem_exportedNames module.referencedNames
  rw [← hbody] at hexports
  refine ⟨draft, hdraft, (hexports _).mpr (.inl rfl), fun name hname => ?_, fun name hname hother htwins => ?_,
    fun name hname hexported => ?_⟩
  · refine ((hexports name).mp hname).imp_right fun hentry => ?_
    obtain ⟨entry, hentry, hne, way, hexport⟩ := hentry
    cases (hdrafting.spares hdistinct hentry).1 with
    | descriptor horigin => exact absurd horigin hne
    | component _ hnone =>
      rw [hnone] at hexport
      cases hexport
    | statement _ hget hsubset _ => exact mem_exportedNames.mpr ⟨_, _, way, hget, hsubset hexport⟩
  · obtain ⟨index, statement, way, hget, hexport⟩ := mem_exportedNames.mp hname
    constructor
    · intro hnot
      rw [hexports, not_or] at hnot
      refine ⟨hnot.1, ?_⟩
      cases hdrafting.fate hget hexport hother fun _ => htwins with
      | exported hentry horigin hstill => exact absurd ⟨_, hentry, by simp [horigin], way, hstill⟩ hnot.2
      | released hway hhandler hlocal hgone =>
        exact ⟨_, hhandler, hlocal, index, statement, hget, hway ▸ hexport, hgone⟩
    · rintro ⟨hdescriptor, located, -, -, index', statement', hget', hexport', hgone⟩ hexported
      obtain ⟨entry, hentry, hne, way', hstill⟩ := ((hexports name).mp hexported).resolve_left hdescriptor
      obtain ⟨horigin, rfl⟩ := (hdrafting.spares hdistinct hentry).1.source hdistinct hne hstill hget' hexport'
      exact hgone entry hentry horigin (exports_declared hstill).1
  · refine ((hexports name).mp hexported).imp_right fun hentry => ?_
    obtain ⟨entry, hentry, hne, way, hexport⟩ := hentry
    exact (hdrafting.spares hdistinct hentry).2 name hname hne way hexport

/-- A page whose loader is exported a second time, under its own name. -/
def sharedLoaderPage : Module where
  path := "routes/notes.tsx"
  body :=
    let params := .make (.parameters [] none)
    let body := .make (.block [])
    let loader := { name := some "fetchData", params, body := some body }
    let component := { name := some "Page", params, body := some body }
    [.make (.exportNamed { declaration := some (.make (.functionDeclaration loader)) }),
      .make (.exportNamed { specifiers := [{ localName := "fetchData", renamed := some "loader" }] }),
      .make (.exportDefault (.make (.functionDeclaration component)))]

theorem sharedLoaderPage_exports : ∃ migrated draft, migrate defaultSettings sharedLoaderPage = .ok migrated ∧
    (exportedNames sharedLoaderPage.body).Nodup ∧ "fetchData" ∈ exportedNames sharedLoaderPage.body ∧
    "fetchData" ∉ exportedNames migrated.module.body ∧ ReleasedExport sharedLoaderPage draft "fetchData" := by
  obtain ⟨migrated, hmigrated, hfinal, hnot⟩ : ∃ migrated, migrate defaultSettings sharedLoaderPage = .ok migrated ∧
      migrated.outcome = .finalized .page "/notes" [] ∧ "fetchData" ∉ exportedNames migrated.module.body :=
    ⟨_, rfl, rfl, by decide +kernel⟩
  have hdistinct : (exportedNames sharedLoaderPage.body).Nodup := by decide +kernel
  have hname : "fetchData" ∈ exportedNames sharedLoaderPage.body := by decide +kernel
  have hother : "fetchData" ∉ migratedNames sharedLoaderPage .page := by decide
  have htwins : ¬ DeclaredWithTwins sharedLoaderPage "fetchData" := by
    rintro ⟨loader, action, statement, -, haction, -⟩
    have hnone : locate sharedLoaderPage.body "action" = none := rfl
    rw [hnone] at haction
    cases haction
  obtain ⟨draft, -, -, -, hkept, -⟩ := migrate_exports hmigrated hfinal hdistinct
  exact ⟨migrated, draft, hmigrated, hdistinct, hname, hnot, ((hkept "fetchData" hname hother htwins).mp hnot).2⟩

end RouteMigration.Proofs
