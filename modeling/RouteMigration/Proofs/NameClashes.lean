import RouteMigration.Proofs.SingleDescriptor
import RouteMigration.Proofs.TopLevelNames

/-!
# Names bound twice

A migration keeps every name of a module at most once, and the name that it makes up for a component is none of
the module. The names of the descriptor and of the factory are taken without such a look: a name that is bound
twice in the migrated module is one of these two.
-/

namespace RouteMigration.Proofs
open Syntax Route

/-! ### Names of drafts -/

/-- What an entry shows, if it is not the descriptor. -/
def shownBy {β : Type} (view : Node → List β) (entry : Entry) : List β :=
  if entry.origin = .descriptor then [] else view entry.node

/-- What the entries of a draft show, the descriptor apart. -/
def besideDescriptor {β : Type} (view : Node → List β) (entries : List Entry) : List β :=
  entries.flatMap (shownBy view)

section Views

variable {β : Type} (view : Node → List β)

lemma besideDescriptor_append (l l' : List Entry) :
    besideDescriptor view (l ++ l') = besideDescriptor view l ++ besideDescriptor view l' :=
  List.flatMap_append

lemma besideDescriptor_of_ne {entries : List Entry} (h : ∀ entry ∈ entries, entry.origin ≠ .descriptor) :
    besideDescriptor view entries = (entries.map (·.node)).flatMap view := by
  rw [besideDescriptor, List.flatMap_map]
  exact List.flatMap_congr fun entry hentry => if_neg (h entry hentry)

lemma besideDescriptor_insert (before after : List Entry) (node : Node) :
    besideDescriptor view (before ++ ⟨.descriptor, node⟩ :: after) = besideDescriptor view (before ++ after) := by
  rw [besideDescriptor_append, besideDescriptor_append]
  rfl

lemma besideDescriptor_withDescriptor (settings : Settings) (routePath : String) (gap : Option String)
    (properties : List Node) (draft : Draft) :
    besideDescriptor view (withDescriptor settings routePath gap properties draft).entries =
      besideDescriptor view draft.entries := by
  have hedited : Edited (fun entry place => ∃ entry', place = some entry' ∧ entry'.origin = entry.origin ∧
      (entry.origin ≠ .descriptor → entry'.node = entry.node)) draft.entries
      (withDescriptor settings routePath gap properties draft).entries :=
    edited_modify draft .descriptor _ (fun entry _ _ => ⟨entry, rfl, rfl, fun _ => rfl⟩)
      fun entry _ horigin => ⟨_, rfl, rfl, fun hne => absurd horigin hne⟩
  refine hedited.flatMap_eq _ fun entry place _ hsame => ?_
  obtain ⟨entry', rfl, horigin, hnode⟩ := hsame
  rw [Option.elim_some, shownBy, shownBy, horigin]
  by_cases hdescriptor : entry.origin = .descriptor
  · rw [if_pos hdescriptor, if_pos hdescriptor]
  · rw [if_neg hdescriptor, if_neg hdescriptor, hnode hdescriptor]

/-- A body shows its descriptor and what stands beside it. -/
lemma HasDescriptor.view_perm {settings : Settings} {routePath : String} {keys : List String} {kind : Kind}
    {draft : Draft} {properties : List Node} {node : Node}
    (h : HasDescriptor settings routePath keys kind draft properties node) :
    (draft.body.flatMap view).Perm (view node ++ besideDescriptor view draft.entries) := by
  obtain ⟨before, after, hentries, herase⟩ := h.distinct.split h.mem
  have hothers : ∀ entry ∈ before ++ after, entry.origin ≠ .descriptor := by
    intro entry hentry
    rw [← herase, Draft.erase, List.mem_filter] at hentry
    simpa using hentry.2
  rw [Draft.body, hentries, besideDescriptor_insert, besideDescriptor_of_ne view hothers, List.map_append, List.map_append,
    List.map_cons, List.flatMap_append, List.flatMap_append, List.flatMap_cons, ← List.append_assoc, ← List.append_assoc]
  exact List.perm_append_comm.append_right _

end Views

variable {settings : Settings} {module : Module} {routePath : String}

/-- The names that the entries of a draft bind, the descriptor apart. -/
def namesBeside (draft : Draft) : List String :=
  besideDescriptor boundNamesOf draft.entries

/-- Attaching a handler adds no name. -/
lemma Attachment.names_sublist {kind : Kind} {draft : Draft} {key : String} {located : Located} {attached : Attached}
    (h : Attachment settings kind draft key located attached)
    (hvalues : ∀ entry ∈ draft.entries, HoldsValues [.statement located.statement] entry) :
    (namesBeside attached.draft).Sublist (namesBeside draft) := by
  refine h.edited.flatMap_sublist _ fun entry place hentry hstep => ?_
  cases hstep with
  | unlisted =>
    rw [Option.elim_some, shownBy, shownBy, reworked, boundNamesOf_unlist]
  | own horigin hf =>
    have hunlisted := (hvalues entry hentry).unlisted horigin [located.name]
    rw [Option.elim_some, shownBy, shownBy, reworked, reworked, if_neg (by simp [horigin]), if_neg (by simp [horigin]),
      ← boundNamesOf_unlist [located.name] entry.node]
    rcases hf with rfl | ⟨index, rfl⟩
    · rw [boundNamesOf_withoutExport hunlisted]
    · exact boundNamesOf_eraseDeclarator index hunlisted
  | gone horigin => exact List.nil_sublist _

lemma namesBeside_ofBody (body : List Node) : namesBeside (.ofBody body) = topLevelNames body := by
  have hne : ∀ entry ∈ (Draft.ofBody body).entries, entry.origin ≠ .descriptor := by
    intro entry hentry
    obtain ⟨index, horigin, -⟩ := mem_ofBody.mp hentry
    simp [horigin]
  have hbody : (Draft.ofBody body).entries.map (·.node) = body := body_ofBody body
  rw [namesBeside, besideDescriptor_of_ne _ hne, hbody]
  rfl

/-- A name that comes in for the component of a page, if one does: the statements of the module do not bind it. -/
structure NewNames (settings : Settings) (module : Module) (new : List String) : Prop where
  nodup : (new ++ topLevelNames module.body).Nodup
  component : ∀ name ∈ new, ∃ default, findDefaultExport module = some default ∧
    name = (detachDefault settings (.ofBody module.body) default).2

section Detachment

variable {default : DefaultExport} {result : Draft × String} {before after : List Entry} {component? : Option Entry}

/-- A detached default export binds what it bound, unless it is held by its statement. -/
lemma DetachStep.names_sublist {fresh : String} {entry : Entry} {place : Option Entry}
    (h : DetachStep fresh default entry place)
    (hinline : ∀ index, default = .inline index → entry.origin ≠ .statement index) :
    (place.elim [] (shownBy boundNamesOf)).Sublist (shownBy boundNamesOf entry) := by
  cases h with
  | other _ => exact List.Sublist.refl _
  | erased _ _ => exact List.nil_sublist _
  | unlisted _ _ =>
    rw [Option.elim_some, shownBy, shownBy, reworked, boundNamesOf_eraseSpecifier]
  | inlined hdefault horigin => exact absurd horigin (hinline _ hdefault)

lemma newNames_nil (h : NamesDistinct module.body) : NewNames settings module [] where
  nodup := h.nodup
  component := List.forall_mem_nil _

/-- The component of a default export that is passed on has a name that no statement binds. -/
lemma Detachment.names_forwarded {imported source : String} {statement specifier : Nat}
    (h : Detachment settings (.forwarded imported source statement specifier) (.ofBody module.body) result before after
      component?) (hnamed : "" ∉ topLevelNames module.body) :
    (namesBeside result.1).Perm (result.2 :: topLevelNames module.body) ∧ result.2 ∉ topLevelNames module.body := by
  have hsame : besideDescriptor boundNamesOf (before ++ after) = topLevelNames module.body := by
    rw [← namesBeside_ofBody]
    refine h.edited.flatMap_eq _ fun entry place _ hstep => ?_
    cases hstep with
    | other _ => rfl
    | erased hdefault _ => cases hdefault
    | unlisted _ _ => rw [Option.elim_some, shownBy, shownBy, reworked, boundNamesOf_eraseSpecifier]
    | inlined hdefault _ => cases hdefault
  obtain ⟨entry, hentry⟩ := Option.isSome_iff_exists.mp (h.forwarded _ _ _ _ rfl)
  obtain ⟨imported', source', _, _, gap, hdefault, rfl, hfresh, n, hname⟩ := h.component entry hentry
  cases hdefault
  have hbody : topLevelNames ((before ++ after).map (·.node)) = topLevelNames module.body := by
    rw [← hsame, besideDescriptor_of_ne]
    · rfl
    · intro entry hentry
      obtain ⟨index, -, horigin, -⟩ := h.origin hentry
      simp [horigin]
  have hcomponent : shownBy boundNamesOf ⟨.component, withGap gap (componentImport imported source result.2)⟩ =
      [result.2] := by
    have hdeclares := declarationNames_of_import (import?_componentImport gap imported source result.2)
    have hlocal : (componentBinding imported source result.2).localName = result.2 := by
      rw [hname]
      exact localName_componentBinding fun hne => if_neg hne
    rw [shownBy, if_neg (by simp), boundNamesOf, statementBindings_componentImport, hdeclares, List.append_nil]
    exact congrArg (fun name => [name]) hlocal
  constructor
  · rw [namesBeside, h.entries, hentry, Option.toList_some, besideDescriptor_append, besideDescriptor_append, ← hsame,
      besideDescriptor_append]
    have hsingle : besideDescriptor boundNamesOf [⟨.component, withGap gap (componentImport imported source result.2)⟩] =
        [result.2] := by rw [besideDescriptor, List.flatMap_singleton, hcomponent]
    rw [hsingle, List.append_assoc]
    exact List.perm_middle
  · rw [← hbody] at hnamed ⊢
    exact not_mem_topLevelNames hfresh hnamed

/-- A default export that is held by its statement is inlined there, between the statements as they were. -/
lemma detachDefault_inline {index : Nat} (hdefault : DefaultExport.inline index ∈ defaultExports module) :
    let fresh := (Draft.ofBody module.body).freshName settings.componentName
    let result := detachDefault settings (.ofBody module.body) (.inline index)
    ∃ statement others others', result.2 = (inlineStatement fresh statement).2 ∧
      topLevelNames module.body = others ++ (boundNamesOf statement ++ others') ∧
      namesBeside result.1 = others ++ (boundNamesOf (inlineStatement fresh statement).1 ++ others') := by
  dsimp only
  let draft := Draft.ofBody module.body
  let fresh := draft.freshName settings.componentName
  obtain ⟨statement, hstatement, -⟩ := mem_defaultExports.mp hdefault
  have hmem : ⟨.statement index, statement⟩ ∈ draft.entries := mem_ofBody.mpr ⟨index, rfl, hstatement⟩
  have hfind : draft.find? (.statement index) = some statement := (distinct_ofBody module.body).find? hmem
  obtain ⟨before, after, hentries, hmodify⟩ := (distinct_ofBody module.body).split_modify hmem
    fun node => (inlineStatement fresh node).1
  refine ⟨statement, besideDescriptor boundNamesOf before, besideDescriptor boundNamesOf after, ?_, ?_, ?_⟩
  · rw [detachDefault]
    dsimp only
    rw [hfind]
    rfl
  · rw [← namesBeside_ofBody, namesBeside, hentries, besideDescriptor_append]
    rfl
  · rw [namesBeside, detachDefault]
    dsimp only
    rw [hmodify, besideDescriptor_append]
    rfl

/-- A default export that is held by its statement gets a name if it has none, and that is new. -/
lemma detachDefault_names_inline {index : Nat} (hdefault : DefaultExport.inline index ∈ defaultExports module)
    (hnamed : "" ∉ topLevelNames module.body) :
    let result := detachDefault settings (.ofBody module.body) (.inline index)
    (namesBeside result.1).Sublist (topLevelNames module.body) ∨
      ((namesBeside result.1).Subperm (result.2 :: topLevelNames module.body) ∧ result.2 ∉ topLevelNames module.body) := by
  dsimp only
  let fresh := (Draft.ofBody module.body).freshName settings.componentName
  obtain ⟨statement, others, others', hname, hbefore, hafter⟩ := @detachDefault_inline settings _ _ hdefault
  have hfresh : fresh ∉ topLevelNames module.body := by
    refine not_mem_topLevelNames ?_ hnamed
    have htaken : fresh ∉ takenNames (Draft.ofBody module.body).body := freshName_not_mem _ _
    rwa [body_ofBody] at htaken
  rw [hafter, hname]
  rcases boundNamesOf_inlineStatement fresh statement with hsublist | ⟨hsublist, hnew⟩
  · left
    rw [hbefore]
    exact (hsublist.append_right others').append_left others
  · right
    rw [hnew]
    refine ⟨?_, hfresh⟩
    rw [hbefore]
    have hone : (others ++ (boundNamesOf (inlineStatement fresh statement).1 ++ others')).Sublist
        (others ++ ([fresh] ++ others')) := (hsublist.append_right others').append_left others
    have hmore : (fresh :: (others ++ others')).Sublist (fresh :: (others ++ (boundNamesOf statement ++ others'))) :=
      ((List.sublist_append_right _ others').append_left others).cons_cons fresh
    exact (hone.subperm.trans List.perm_middle.subperm).trans hmore.subperm

/-- What detaching the default export leaves binds names of the module and a new one at most. -/
lemma detachDefault_names (hdefault : findDefaultExport module = some default) (h : NamesDistinct module.body) :
    ∃ new, NewNames settings module new ∧
      (namesBeside (detachDefault settings (.ofBody module.body) default).1).Subperm (new ++ topLevelNames module.body) := by
  have hnew (hfresh : (detachDefault settings (.ofBody module.body) default).2 ∉ topLevelNames module.body) :
      NewNames settings module [(detachDefault settings (.ofBody module.body) default).2] :=
    ⟨List.nodup_cons.mpr ⟨hfresh, h.nodup⟩, fun name hname => ⟨default, hdefault, List.mem_singleton.mp hname⟩⟩
  obtain ⟨before, after, component?, hdetach⟩ := detachDefault_eq settings (.ofBody module.body) default
  cases default with
  | inline index =>
    rcases @detachDefault_names_inline settings _ _ (List.mem_of_getLast? hdefault) h.named with
      hsublist | ⟨hsubperm, hfresh⟩
    · exact ⟨[], newNames_nil h, hsublist.subperm⟩
    · exact ⟨_, hnew hfresh, hsubperm⟩
  | forwarded imported source statement specifier =>
    obtain ⟨hperm, hfresh⟩ := hdetach.names_forwarded h.named
    exact ⟨_, hnew hfresh, hperm.subperm⟩
  | referenced name statement specifier resolved =>
    refine ⟨[], newNames_nil h, ?_⟩
    have hnone : component? = none := by
      rw [Option.eq_none_iff_forall_not_mem]
      intro entry hentry
      obtain ⟨_, _, _, _, _, hforwarded, -⟩ := hdetach.component entry hentry
      cases hforwarded
    have hsublist := hdetach.edited.flatMap_sublist (shownBy boundNamesOf) fun entry place _ hstep =>
      hstep.names_sublist fun index hinline => by cases hinline
    have hentries : (detachDefault settings (.ofBody module.body) (.referenced name statement specifier resolved)).1.entries =
        before ++ after := by rw [hdetach.entries, hnone, Option.toList_none, List.append_nil]
    rw [List.nil_append, ← namesBeside_ofBody, namesBeside, hentries]
    exact hsublist.subperm

end Detachment

/-! ### Names of whole drafts -/

/-- The draft of a page binds names of the module and a new one at most, its descriptor apart. -/
theorem page_names {default : DefaultExport} {loader : Located} {draft : Draft}
    (hdefault : findDefaultExport module = some default) (hloader : locate module.body "loader" = some loader)
    (hdistinct : NamesDistinct module.body)
    (h : migratePage settings module routePath default loader (locate module.body "action") = .ok draft) :
    ∃ new, NewNames settings module new ∧ (namesBeside draft).Subperm (new ++ topLevelNames module.body) := by
  obtain ⟨attached, entries, hattach, hform, hdraft⟩ := migratePage_eq_ok h
  obtain ⟨before, after, component?, hdetach⟩ := detachDefault_eq settings (.ofBody module.body) default
  have hrunning := hdetach.running "loader" hloader
  obtain ⟨new, hnew, hdetached⟩ := @detachDefault_names settings _ _ hdefault hdistinct
  refine ⟨new, hnew, ?_⟩
  have hcomments : besideDescriptor boundNamesOf entries = namesBeside attached.draft :=
    hform.flatMap_eq _ fun entry place _ hsame => by
      obtain ⟨entry', rfl, horigin, hnode⟩ := hsame
      rw [Option.elim_some, shownBy, shownBy, horigin, boundNamesOf_congr hnode]
  have hnames : namesBeside draft = namesBeside attached.draft := by
    rw [namesBeside, hdraft, besideDescriptor_insert, List.append_nil, hcomments]
  rw [hnames]
  exact (hattach.names_sublist hrunning.own).subperm.trans hdetached

/-- The draft of a resource binds names of the module, its descriptor apart. -/
theorem resource_names {handlers : List (String × Located)} {draft : Draft} (hne : handlers ≠ [])
    (hhandlers : ∀ handler ∈ handlers, ∃ name, locate module.body name = some handler.2)
    (h : migrateResource settings module routePath handlers = .ok draft) :
    (namesBeside draft).Subperm (topLevelNames module.body) := by
  obtain ⟨first, gap, attached, hrun, rfl⟩ := migrateResource_eq_ok hne h
  let descriptor : Entry := ⟨.descriptor, withGap gap (resourceDescriptor settings routePath [])⟩
  have hstart : (namesBeside ((Draft.ofBody module.body).insertBefore (.statement first) descriptor)).Sublist
      (topLevelNames module.body) := by
    obtain ⟨before, after, hsplit, hinsert⟩ :=
      entries_insertBefore (.ofBody module.body) (.statement first) descriptor
    rw [namesBeside, hinsert, besideDescriptor_insert, ← hsplit, ← namesBeside, namesBeside_ofBody]
  obtain ⟨properties, hrunning, hnames⟩ := attachAll_run
    (P := fun draft _ rest => Running (resourceOrigins handlers) draft rest ∧
      (namesBeside draft).Sublist (topLevelNames module.body))
    (fun _ _ _ _ _ _ gap ⟨hrunning, hnames⟩ hattach => ⟨hrunning.step hattach gap _, by
      rw [namesBeside, besideDescriptor_withDescriptor]
      exact (hattach.names_sublist hrunning.own).trans hnames⟩)
    ⟨running_start hhandlers first gap, hstart⟩ hrun
  have hsettled := (settleDescriptor_perm hrunning.distinct).flatMap_right (shownBy boundNamesOf)
  exact hsettled.subperm.trans hnames.subperm

theorem Drafting.names {kind : Kind} {draft : Draft} (h : Drafting settings module routePath kind draft)
    (hdistinct : NamesDistinct module.body) :
    ∃ new, NewNames settings module new ∧ (namesBeside draft).Subperm (new ++ topLevelNames module.body) := by
  cases h with
  | page _ hdefault hloader hpage => exact page_names hdefault hloader hdistinct hpage
  | resource _ _ hhandlers hresource =>
    exact ⟨[], newNames_nil hdistinct, resource_names hhandlers (fun _ => exists_locate_of_mem_methodsOf) hresource⟩

/-! ### Names of finished drafts -/

/-- Imports and declarations apart, a body binds the same names. -/
lemma topLevelNames_perm (body : List Node) :
    (topLevelNames body).Perm (localNames (importBindings body) ++ body.flatMap declarationNames) := by
  rw [localNames, importBindings, List.map_flatMap]
  exact (List.flatMap_append_perm ..).symm

lemma dropLegacy_names_subset {used : List String} {body : List Node} (hd : (localNames (importBindings body)).Nodup) :
    localNames (importBindings (dropLegacy settings used body)) ⊆ localNames (importBindings body) := by
  intro name hname
  obtain ⟨kept, hkept, rfl⟩ := List.mem_map.mp hname
  obtain ⟨binding, hbinding, hcarried⟩ := dropLegacy_origin hd hkept
  exact List.mem_map.mpr ⟨binding, hbinding, hcarried.localName.symm⟩

lemma bySource_add (name source : String) : (PendingImports.add {} name source).bySource = [(source, [name])] := by
  have hadd : PendingImports.add {} name source = ⟨[⟨name, source⟩]⟩ := by simp [PendingImports.add]
  rw [hadd]
  simp [PendingImports.bySource, PendingImports.sources, PendingImports.namesFrom, List.eraseDups_cons]

/-- At most the factory is imported. -/
lemma addedNames_sublist (kind : Kind) (used : List String) (body : List Node) :
    (addedNames settings kind used body).Sublist [factoryName settings kind] := by
  obtain ⟨source, hpending⟩ : ∃ source,
      (pendingImports settings kind).bySource = [(source, [factoryName settings kind])] := by
    cases kind with
    | page => exact ⟨_, bySource_add ..⟩
    | resource => exact ⟨_, bySource_add ..⟩
  have hnames : (addedNames settings kind used body) = (missingImports (dropLegacy settings used body)
      (pendingImports settings kind)).flatMap Prod.snd := by
    rw [addedNames, localNames, requestedBindings, List.map_flatMap]
    refine List.flatMap_congr fun request _ => ?_
    obtain ⟨source, names⟩ := request
    simp only [namedBindings, specifiersOf, List.map_map]
    exact List.map_id'' (fun _ => rfl) names
  rw [hnames, missingImports, hpending, List.filterMap_cons, List.filterMap_nil]
  dsimp only
  split
  · exact List.nil_sublist _
  · next request hrequest =>
    split at hrequest
    · cases hrequest
    · cases hrequest
      rw [List.flatMap_singleton]
      exact List.filter_sublist

/-- The names that a draft binds without the imports that are dropped, its descriptor apart. -/
def keptNames (settings : Settings) (used : List String) (draft : Draft) : List String :=
  localNames (importBindings (dropLegacy settings used draft.body)) ++
    besideDescriptor declarationNames draft.entries

section Kept

variable {kind : Kind} {draft : Draft}

lemma Drafting.namesBeside_perm (h : Drafting settings module routePath kind draft) :
    (namesBeside draft).Perm
      (localNames (importBindings draft.body) ++ besideDescriptor declarationNames draft.entries) := by
  obtain ⟨properties, node, hdescriptor⟩ := h.hasDescriptor
  obtain ⟨value, hvalue⟩ := descriptorOf_eq settings routePath properties kind
  let imported := fun statement => localNames (statementBindings statement)
  have hnone : imported node = [] := by
    have hform := hdescriptor.form.trans (congrArg Node.form hvalue)
    have hnone := statementBindings_of_none (declaresValues_exportedConstant hform).not_import
    exact congrArg localNames hnone
  have himports : (localNames (importBindings draft.body)).Perm (besideDescriptor imported draft.entries) := by
    have hperm := hdescriptor.view_perm imported
    rw [hnone, List.nil_append] at hperm
    rwa [localNames, importBindings, List.map_flatMap]
  have hboth : namesBeside draft =
      draft.entries.flatMap fun entry => shownBy imported entry ++ shownBy declarationNames entry := by
    refine List.flatMap_congr fun entry _ => ?_
    unfold shownBy
    split
    · rfl
    · rfl
  rw [hboth]
  exact (List.flatMap_append_perm ..).symm.trans (himports.symm.append_right _)

/-- A draft keeps each name once, and it has the name from the module or for the component. -/
lemma Drafting.keptNames_nodup (h : Drafting settings module routePath kind draft) (hdistinct : NamesDistinct module.body)
    (used : List String) : (keptNames settings used draft).Nodup ∧
      ∃ new, NewNames settings module new ∧ keptNames settings used draft ⊆ new ++ topLevelNames module.body := by
  obtain ⟨new, hnew, hsubperm⟩ := h.names hdistinct
  have hperm := h.namesBeside_perm
  have hnodup : (namesBeside draft).Nodup := by
    obtain ⟨names, hnames, hsublist⟩ := hsubperm
    exact hnames.nodup_iff.mp (hnew.nodup.sublist hsublist)
  have hdraft := hperm.nodup_iff.mp hnodup
  obtain ⟨himports, hdeclarations, hdisjoint⟩ := List.nodup_append.mp hdraft
  have hsubset := @dropLegacy_names_subset settings used _ himports
  constructor
  · refine List.nodup_append.mpr ⟨dropLegacy_nodup himports, hdeclarations, ?_⟩
    exact fun name hname => hdisjoint name (hsubset hname)
  · refine ⟨new, hnew, fun name hname => hsubperm.subset (hperm.symm.subset ?_)⟩
    exact (List.mem_append.mp hname).elim (fun hname => List.mem_append_left _ (hsubset hname))
      (List.mem_append_right _)

/-- A finished draft binds the name of its descriptor, the names it keeps and those that are added. -/
lemma Drafting.finish_names (h : Drafting settings module routePath kind draft) (used : List String) :
    (topLevelNames (finish settings kind used draft.body)).Perm (descriptorName settings kind ::
      (addedNames settings kind used draft.body ++ keptNames settings used draft)) := by
  obtain ⟨properties, node, hdescriptor⟩ := h.hasDescriptor
  obtain ⟨value, hvalue⟩ := descriptorOf_eq settings routePath properties kind
  have hform := hdescriptor.form.trans (congrArg Node.form hvalue)
  have hname : declarationNames node = [descriptorName settings kind] := declarationNames_congr hform
  have hdeclarations := hdescriptor.view_perm declarationNames
  rw [hname, ← finish_flatMap declarationNames (fun _ => declarationNames_of_import)
    (fun _ => declarationNames_of_isEmptied) settings kind used, List.singleton_append] at hdeclarations
  have himports := (importBindings_finish settings kind used draft.body).map Binding.localName
  rw [List.map_append, ← localNames, ← localNames, ← localNames, ← addedNames] at himports
  refine (topLevelNames_perm _).trans ((himports.append hdeclarations).trans (List.perm_middle.trans (.cons _ ?_)))
  rw [keptNames, ← List.append_assoc]
  exact List.perm_append_comm.append_right _

end Kept

/-- A name stands twice in a list of two parts without repetition and a name before them, if it stands in two of
the three. -/
lemma one_lt_count_iff {first name : String} {added kept : List String} (hadded : added.Nodup) (hkept : kept.Nodup) :
    1 < (first :: (added ++ kept)).count name ↔
      (name = first ∧ name ∈ kept) ∨ (name ∈ added ∧ (name = first ∨ name ∈ kept)) := by
  have hatMost := List.nodup_iff_count_le_one.mp hadded name
  have hatMost' := List.nodup_iff_count_le_one.mp hkept name
  rw [List.count_cons, List.count_append, ← List.count_pos_iff, ← List.count_pos_iff]
  by_cases hfirst : name = first
  · rw [if_pos (beq_iff_eq.mpr hfirst.symm)]
    simp only [hfirst, true_and, true_or, and_true]
    omega
  · rw [if_neg (by simpa using Ne.symm hfirst)]
    simp only [hfirst, false_and, false_or]
    omega

/-- A name meets one that a migration brings in without a look at the names that are there: that of the
descriptor, or that of the factory where its import is added. -/
inductive Clash (settings : Settings) (module : Module) (kind : Kind) (draft : Draft) (name : String) : Prop where
  | descriptor : name = descriptorName settings kind → name ∈ keptNames settings module.referencedNames draft →
      Clash settings module kind draft name
  | factory : name ∈ addedNames settings kind module.referencedNames draft.body →
      (name = descriptorName settings kind ∨ name ∈ keptNames settings module.referencedNames draft) →
      Clash settings module kind draft name

/-- A migrated module binds a name twice if and only if the name clashes with that of the descriptor or of the
factory. What it clashes with is bound by the module or stands for its component. -/
theorem migrate_boundTwice {migrated : Migrated} {kind : Kind} {path : String} {advisories : List String}
    (h : migrate settings module = .ok migrated) (hfinal : migrated.outcome = .finalized kind path advisories)
    (hdistinct : NamesDistinct module.body) :
    ∃ draft,
      draftOf settings module (RoutePath.ofFile module.path settings.routesRoot) = .ok (.ok (kind, draft)) ∧
      (∀ name, 1 < (topLevelNames migrated.module.body).count name ↔ Clash settings module kind draft name) ∧
      ∀ name ∈ keptNames settings module.referencedNames draft, name ∈ topLevelNames module.body ∨
        ∃ default, findDefaultExport module = some default ∧
          name = (detachDefault settings (.ofBody module.body) default).2 := by
  obtain ⟨draft, hdraft, hbody⟩ := finalized_body h hfinal
  have hdrafting := draftOf_eq_ok hdraft
  obtain ⟨hkept, new, hnew, hsubset⟩ := hdrafting.keptNames_nodup hdistinct module.referencedNames
  refine ⟨draft, hdraft, fun name => ?_, fun name hname => ?_⟩
  · have hperm := hdrafting.finish_names module.referencedNames
    have hadded : (addedNames settings kind module.referencedNames draft.body).Nodup :=
      (List.nodup_singleton _).sublist (addedNames_sublist kind module.referencedNames draft.body)
    rw [hbody, hperm.count_eq, one_lt_count_iff hadded hkept]
    constructor
    · rintro (⟨hdescriptor, hname⟩ | ⟨hname, hother⟩)
      · exact .descriptor hdescriptor hname
      · exact .factory hname hother
    · intro hclash
      cases hclash with
      | descriptor hdescriptor hname => exact .inl ⟨hdescriptor, hname⟩
      | factory hname hother => exact .inr ⟨hname, hother⟩
  · refine (List.mem_append.mp (hsubset hname)).symm.imp_right fun hcomponent => ?_
    exact hnew.component name hcomponent

/-- A page that passes on a component with the name of its descriptor. -/
def forwardedPage : Module where
  path := "routes/notes.tsx"
  body :=
    let loader := { name := some "loader", params := .make (.parameters [] none), body := some (.make (.block [])) }
    [.make (.exportNamed { specifiers := [{ localName := "Route", renamed := some "default" }], source := some "./Page" }),
      .make (.exportNamed { declaration := some (.make (.functionDeclaration loader)) })]

theorem forwardedPage_boundTwice : ∃ migrated draft, migrate defaultSettings forwardedPage = .ok migrated ∧
    (topLevelNames forwardedPage.body).Nodup ∧ 1 < (topLevelNames migrated.module.body).count "Route" ∧
    Clash defaultSettings forwardedPage .page draft "Route" := by
  obtain ⟨migrated, hmigrated, hfinal, hcount⟩ : ∃ migrated, migrate defaultSettings forwardedPage = .ok migrated ∧
      migrated.outcome = .finalized .page "/notes" [] ∧ 1 < (topLevelNames migrated.module.body).count "Route" :=
    ⟨_, rfl, rfl, by decide +kernel⟩
  have hdistinct : NamesDistinct forwardedPage.body := ⟨by decide +kernel, by decide +kernel⟩
  obtain ⟨draft, -, htwice, -⟩ := migrate_boundTwice hmigrated hfinal hdistinct
  exact ⟨migrated, draft, hmigrated, hdistinct.nodup, hcount, (htwice "Route").mp hcount⟩

end RouteMigration.Proofs
