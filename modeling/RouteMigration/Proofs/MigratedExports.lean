import RouteMigration.Proofs.ReleasedExports

/-!
# Exports that are migrated

Detaching the default export leaves nothing that exports its name. An attachment takes the name of the handler
out of every list of the module, and out of the declaration of the handler where this is all that it declares.
Lists of another module and other declarations keep the name.
-/

namespace RouteMigration.Proofs
open Syntax Route

variable {settings : Settings} {module : Module} {routePath : String}

/-- If an entry exports the name of a handler, then it is for another module, or by a declaration: elsewhere, or
with other variables. -/
def Spares (module : Module) (located : Located) (entry : Entry) : Prop :=
  entry.origin ≠ .descriptor → ∀ way, (way, located.name) ∈ exportsOf entry.node → way = .passedOn ∨
    (way = .declared ∧ (entry.origin = .statement located.statement →
      ∀ statement, module.body[located.statement]? = some statement → 1 < Draft.declaratorCount statement))

/-- What an entry with more exports satisfies is stable. -/
lemma stable_exports {P : Origin → List (Way × String) → Prop} (located : Located)
    (hP : ∀ origin exports exports', exports' ⊆ exports → P origin exports → P origin exports') :
    Stable located fun entry => P entry.origin (exportsOf entry.node) where
  unlisted _ h := hP _ _ _ (exportsOf_unlist_subset ..) h
  unexported _ _ hvalues h := by
    refine hP _ _ _ ?_ h
    rw [reworked, exportsOf_withoutExport hvalues]
    exact List.nil_subset _
  trimmed _ _ _ hvalues h := hP _ _ _ (fun _ hexport => ((mem_exportsOf_eraseDeclarator hvalues).mp hexport).1) h

lemma stable_spares (located other : Located) : Stable located (Spares module other) :=
  stable_exports located (P := fun origin exports => origin ≠ .descriptor → ∀ way, (way, other.name) ∈ exports →
    way = .passedOn ∨ (way = .declared ∧ (origin = .statement other.statement →
      ∀ statement, module.body[other.statement]? = some statement → 1 < Draft.declaratorCount statement)))
    fun _ _ _ hsubset h hne way hexport => h hne way (hsubset hexport)

/-- The handlers of a module whose name is exported by the declaration of the handler have this name. -/
lemma localName_of_exported {key : String} {located : Located} {statement : Node}
    (hlocate : locate module.body key = some located) (hdistinct : (exportedNames module.body).Nodup)
    (hstatement : statement ∈ module.body) (hexport : (.declared, key) ∈ exportsOf statement) :
    located.localName = key := by
  rw [(locate_eq_some hlocate).2.1, localNameOf]
  cases hlast : (module.body.flatMap (localNamesOf key)).getLast? with
  | none => rfl
  | some localName =>
    -- a list of exports would export the name a second time
    exfalso
    obtain ⟨lister, hlister, hmem⟩ := List.mem_flatMap.mp (List.mem_of_getLast? hlast)
    unfold localNamesOf at hmem
    split at hmem
    · next form hlist =>
      obtain ⟨hform, hnone, hsource⟩ := localExport?_eq_some hlist
      obtain ⟨specifier, hspecifier, -⟩ := List.mem_map.mp hmem
      obtain ⟨hspecifier, hexported⟩ := List.mem_filter.mp hspecifier
      have hlisted : (Way.listed, key) ∈ exportsOf lister := by
        rw [exportsOf_list hform hnone, wayOf_eq_listed.mpr hsource]
        exact List.mem_map.mpr ⟨specifier, hspecifier, by rw [of_decide_eq_true hexported]⟩
      have hsame := List.inj_on_of_nodup_map hdistinct (List.mem_flatMap.mpr ⟨_, hstatement, hexport⟩)
        (List.mem_flatMap.mpr ⟨_, hlister, hlisted⟩) rfl
      cases hsame
    · cases hmem

section Sparing

variable {kind : Kind} {draft : Draft} {key : String} {located : Located} {attached : Attached}

/-- What the module says of the statement of a handler. -/
structure HandlerSite (module : Module) (located : Located) : Prop where
  name_ne : located.name ≠ "default"
  declares : ∃ statement, module.body[located.statement]? = some statement ∧ DeclaresValues statement ∧
    ((.declared, located.name) ∈ exportsOf statement → located.localName = located.name)

/-- A statement of another place that has lost the name from its list. -/
lemma spares_unlisted {node : Node} {entry : Entry} (hdefault : located.name ≠ "default")
    (hnode : entry.node = unlist [located.name] node) (hother : entry.origin ≠ .statement located.statement) :
    Spares module located entry := by
  intro _ way hexport
  rw [hnode] at hexport
  obtain ⟨hexport, hnot⟩ := mem_exportsOf_unlist.mp hexport
  cases way with
  | listed => exact absurd (List.mem_singleton_self _) (hnot rfl)
  | passedOn => exact .inl rfl
  | declared => exact .inr ⟨rfl, fun hown => absurd hown hother⟩
  | default =>
    rcases exports_cases hexport with ⟨hway, -⟩ | ⟨form, -, -, hway, -⟩ | ⟨-, hname, -⟩
    · cases hway
    · exact absurd hway.symm (wayOf_ne_default form)
    · exact absurd hname hdefault

/-- The statement of the handler, if it exports the name then with other variables. -/
lemma HandlerSite.spares {entry entry' : Entry} (h : HandlerSite module located) (hdescends : Descends module entry)
    (hvalues : DeclaresValues entry.node) (horigin : entry.origin = .statement located.statement)
    (hsubset : exportsOf entry'.node ⊆ exportsOf entry.node)
    (hcount : (.declared, located.name) ∈ exportsOf entry.node → located.localName = located.name →
      1 < Draft.declaratorCount entry.node) : Spares module located entry' := by
  intro _ way hexport
  have hentryExport := hsubset hexport
  obtain ⟨rfl, -⟩ := exports_of_declaresValues hvalues hentryExport
  refine .inr ⟨rfl, fun _ found hfound => ?_⟩
  obtain ⟨statement, hget, hdeclares, hlocal⟩ := h.declares
  obtain rfl := Option.some.inj (hget.symm.trans hfound)
  cases hdescends with
  | descriptor hdescriptor => simp [horigin] at hdescriptor
  | component hcomponent _ => simp [horigin] at hcomponent
  | statement hindex hsource hexports hle =>
    obtain rfl := Origin.statement.inj (hindex.symm.trans horigin)
    obtain rfl := Option.some.inj (hget.symm.trans hsource)
    exact (hcount hentryExport (hlocal (hexports hentryExport))).trans_le (hle hdeclares)

/-- A declaration that exports the name of its handler and is kept with this export has other variables. -/
lemma one_lt_declaratorCount {statement : Node} (hexport : (.declared, located.name) ∈ exportsOf statement)
    (hlocal : located.localName = located.name)
    (hmore : Draft.exportsOnly located (unlist [located.name] statement) = false) :
    1 < Draft.declaratorCount statement := by
  have hstill : (Way.declared, located.name) ∈ exportsOf (unlist [located.name] statement) :=
    mem_exportsOf_unlist.mpr ⟨hexport, fun hway => by cases hway⟩
  have hcount := declaratorCount_congr (declared?_unlist [located.name] statement)
  by_contra hle
  have honly : Draft.exportsOnly located (unlist [located.name] statement) = true :=
    exportsOnly_iff.mpr ⟨hlocal, unexported_isSome hstill, by omega⟩
  rw [honly] at hmore
  cases hmore

/-- What the attachment of a handler leaves exported under its name. -/
theorem Attachment.spares (h : Attachment settings kind draft key located attached) (hd : Distinct draft)
    (hvalues : ∀ entry ∈ draft.entries, HoldsValues [.statement located.statement] entry)
    (hdescends : ∀ entry ∈ draft.entries, Descends module entry) (hsite : HandlerSite module located) :
    ∀ entry ∈ attached.draft.entries, Spares module located entry := by
  have hdeclares {entry : Entry} (hentry : entry ∈ draft.entries)
      (horigin : entry.origin = .statement located.statement) : DeclaresValues entry.node :=
    hvalues entry hentry (List.mem_singleton.mpr horigin)
  intro entry' hentry'
  cases h with
  | kept _ hf hentries _ _ _ _ =>
    rw [hentries] at hentry'
    obtain ⟨entry, hentry, hsame, ⟨horigin, hnode⟩ | ⟨hother, hnode⟩⟩ := mem_modify_unlisted hentry'
    · rcases hf with ⟨rfl, hmore⟩ | ⟨rfl, -⟩
      · refine hsite.spares (hdescends entry hentry) (hdeclares hentry horigin) horigin ?_ fun hexport hlocal => ?_
        · rw [hnode]
          exact exportsOf_unlist_subset ..
        · exact one_lt_declaratorCount hexport hlocal (hmore _ (hd.find?_mapNodes hentry horigin _))
      · intro _ way hexport
        rw [hnode, exportsOf_withoutExport ((hvalues entry hentry).unlisted horigin [located.name])] at hexport
        cases hexport
    · exact spares_unlisted hsite.name_ne hnode (hsame ▸ hother)
  | moved _ _ hremoval hentries _ _ _ _ =>
    cases hremoval with
    | erased hresult _ =>
      rw [hentries, hresult] at hentry'
      obtain ⟨entry, -, hsame, hother, hnode⟩ := mem_erase_unlisted hentry'
      exact spares_unlisted hsite.name_ne hnode (hsame ▸ hother)
    | @trimmed index found _ hfind hcount _ hresult =>
      rw [hentries, hresult] at hentry'
      obtain ⟨entry, hentry, hsame, ⟨horigin, hnode⟩ | ⟨hother, hnode⟩⟩ := mem_modify_unlisted hentry'
      · have hunlisted := (hvalues entry hentry).unlisted horigin [located.name]
        refine hsite.spares (hdescends entry hentry) (hdeclares hentry horigin) horigin ?_ fun _ _ => ?_
        · intro export' hexport
          rw [hnode] at hexport
          exact exportsOf_unlist_subset _ _ ((mem_exportsOf_eraseDeclarator hunlisted).mp hexport).1
        · obtain rfl := Option.some.inj (hfind.symm.trans (hd.find?_mapNodes hentry horigin _))
          rwa [declaratorCount_congr (declared?_unlist ..)] at hcount
      · exact spares_unlisted hsite.name_ne hnode (hsame ▸ hother)

end Sparing

lemma handlersOf_eq {located : Located} (h : located ∈ handlersOf module) :
    ∃ key, (key = "loader" ∨ key = "action") ∧ locate module.body key = some located := by
  rcases List.mem_append.mp h with h | h
  · exact ⟨"loader", .inl rfl, Option.mem_toList.mp h⟩
  · exact ⟨"action", .inr rfl, Option.mem_toList.mp h⟩

lemma site_of_handler {located : Located} (h : located ∈ handlersOf module)
    (hdistinct : (exportedNames module.body).Nodup) : HandlerSite module located := by
  obtain ⟨key, hkey, hlocate⟩ := handlersOf_eq h
  obtain rfl : located.name = key := (locate_eq_some hlocate).1
  obtain ⟨statement, hget, hvalues⟩ := declaresValues_of_locate hlocate
  constructor
  · rcases hkey with hloader | haction
    · rw [hloader]
      decide
    · rw [haction]
      decide
  · exact ⟨statement, hget, hvalues, localName_of_exported hlocate hdistinct (List.mem_of_getElem? hget)⟩

/-- Every handler is attached to a resource. -/
lemma exists_method {located : Located} (h : located ∈ handlersOf module) :
    ∃ method, (method, located) ∈ methodsOf (locate module.body "loader") (locate module.body "action") := by
  rcases List.mem_append.mp h with h | h
  · exact ⟨"GET", List.mem_append_left _ (List.mem_map_of_mem h)⟩
  · exact ⟨"POST", List.mem_append_right _ (List.mem_map_of_mem h)⟩

/-- What tells the handlers of a module apart; an attachment of one changes nothing of it in the other. -/
def identity (located : Located) : String × String × Nat :=
  (located.name, located.localName, located.statement)

lemma identity_takeOver (located other : Located) (source : Node) :
    identity (located.takeOver other source) = identity located := by
  unfold Located.takeOver
  split
  · rfl
  · rfl

lemma HandlerSite.congr {located original : Located} (h : HandlerSite module original)
    (hsame : identity original = identity located) : HandlerSite module located := by
  simp only [identity, Prod.mk.injEq] at hsame
  obtain ⟨hname, hlocal, hstatement⟩ := hsame
  constructor
  · rw [← hname]
    exact h.name_ne
  · rw [← hname, ← hlocal, ← hstatement]
    exact h.declares

lemma Spares.congr {located original : Located} {entry : Entry} (h : Spares module located entry)
    (hsame : identity original = identity located) : Spares module original entry := by
  simp only [identity, Prod.mk.injEq] at hsame
  unfold Spares at h ⊢
  rwa [hsame.1, hsame.2.2]

/-- What makes a default export exports the name of default exports. -/
lemma DefaultAt.exports {declared : List String} {statement : Node} {index : Nat} {default : DefaultExport}
    (h : DefaultAt declared statement index default) : ∃ way, (way, "default") ∈ exportsOf statement := by
  cases hplace : listedAt? default with
  | some place =>
    obtain ⟨⟨way, hget⟩, -⟩ := h.exportsOf_listed hplace
    exact ⟨way, List.mem_of_getElem? hget⟩
  | none =>
    refine ⟨.default, ?_⟩
    cases h with
    | inline hform _ => exact exportsOf_default hform ▸ List.mem_singleton_self _
    | named hform _ => exact exportsOf_default hform ▸ List.mem_singleton_self _
    | listed _ _ _ _ _ _ => cases hplace
    | forwarded _ _ _ _ _ _ => cases hplace

/-- Detaching the default export leaves no export of its name. -/
lemma Detachment.exports_no_default {default : DefaultExport} {result : Draft × String} {before after : List Entry}
    {component? : Option Entry} (h : Detachment settings default (.ofBody module.body) result before after component?)
    (hdefault : default ∈ defaultExports module) (hdistinct : (exportedNames module.body).Nodup) :
    ∀ entry ∈ result.1.entries, ∀ way, (way, "default") ∉ exportsOf entry.node := by
  obtain ⟨maker, hmaker, hat⟩ := mem_defaultExports.mp hdefault
  obtain ⟨way', hexported⟩ := hat.exports
  intro entry hentry way hexport
  rcases h.mem.mp hentry with hentry | hentry
  · obtain ⟨index, statement, horigin, hget, hstep⟩ := h.origin hentry
    have hstatement : (way, "default") ∈ exportsOf statement := by
      cases h.descends entry (h.mem.mpr (.inl hentry)) with
      | descriptor h => simp [horigin] at h
      | component h _ => simp [horigin] at h
      | statement hindex hsource hsubset _ =>
        rw [horigin, Origin.statement.injEq] at hindex
        rw [← hindex, hget] at hsource
        exact Option.some.inj hsource ▸ hsubset hexport
    obtain ⟨hsite, -⟩ := export_unique hdistinct hget hmaker hstatement hexported
    rw [← hsite] at hmaker hat
    obtain rfl := Option.some.inj (hmaker.symm.trans hget)
    have hnodup := nodup_exports_of_mem hdistinct (List.mem_of_getElem? hmaker)
    cases hstep with
    | other hne => exact hne (by rw [hsite])
    | unlisted hlisted _ =>
      obtain ⟨⟨_, hplace⟩, herase⟩ := hat.exportsOf_listed hlisted
      rw [reworked, herase] at hexport
      exact ne_of_mem_eraseIdx hnodup hplace hexport rfl
    | inlined hinline _ =>
      rw [hinline] at hat
      cases hat with
      | inline hform _ =>
        rw [reworked, exportsOf_inlineStatement _ hform] at hexport
        cases hexport
  · obtain ⟨_, _, _, _, _, -, rfl, -⟩ := h.component entry hentry
    rw [exportsOf_of_import (import?_componentImport ..)] at hexport
    cases hexport

/-- The draft of a page has no default export left, and of the loader only what is spared. -/
theorem page_spares {default : DefaultExport} {loader : Located} {action : Option Located} {draft : Draft}
    (hdefault : findDefaultExport module = some default) (hlocate : locate module.body "loader" = some loader)
    (hdistinct : (exportedNames module.body).Nodup)
    (h : migratePage settings module routePath default loader action = .ok draft) :
    ∀ entry ∈ draft.entries, Descends module entry ∧ Spares module loader entry ∧
      (entry.origin ≠ .descriptor → ∀ way, (way, "default") ∉ exportsOf entry.node) := by
  obtain ⟨attached, entries, hattach, hform, hdraft⟩ := migratePage_eq_ok h
  obtain ⟨before, after, component?, hdetach⟩ := detachDefault_eq settings (.ofBody module.body) default
  have hrunning := hdetach.running "loader" hlocate
  have hhandler := handler_of_locate (.inl rfl) hlocate
  have hsite := site_of_handler hhandler hdistinct
  have hdescends := hattach.forall hrunning.own (stable_descends loader) hdetach.descends
  have hspares := hattach.spares hdetach.distinct hrunning.own hdetach.descends hsite
  have hnone := hattach.forall hrunning.own (stable_exports loader
    (P := fun origin exports => origin ≠ .descriptor → ∀ way, (way, "default") ∉ exports)
    fun _ _ _ hsubset h hne way hexport => h hne way (hsubset hexport))
    fun entry hentry _ => hdetach.exports_no_default (List.mem_of_getLast? hdefault) hdistinct entry hentry
  obtain ⟨-, -, hentries⟩ := page_entries hdetach.distinct hdetach.origin_ne hattach hform hdraft
  intro entry hentry
  rcases hentries entry hentry with rfl | ⟨source, hsource, horigin, hnode⟩
  · exact ⟨.descriptor rfl, fun hne => absurd rfl hne, fun hne => absurd rfl hne⟩
  · have hexports := exportsOf_congr hnode
    refine ⟨(hdescends source hsource).mono horigin (hexports ▸ List.Subset.refl _) (declaratorCount_congr (declared?_congr hnode)).le,
      ?_, ?_⟩
    · have h := hspares source hsource
      unfold Spares at h ⊢
      rwa [horigin, hexports]
    · have h := hnone source hsource
      rwa [horigin, hexports]

/-- What attaching the handlers of a resource keeps: the entries descend from the module, and spare the handlers
that are attached. -/
structure SparingRun (module : Module) (origins : List Origin) (draft : Draft) (rest : List (String × Located)) :
    Prop where
  running : Running origins draft rest
  descends : ∀ entry ∈ draft.entries, Descends module entry
  spares : ∀ handler ∈ handlersOf module, identity handler ∉ (rest.map fun next => identity next.2) →
    ∀ entry ∈ draft.entries, Spares module handler entry

lemma SparingRun.step {origins : List Origin} {draft : Draft} {key : String} {located : Located}
    {rest : List (String × Located)} {attached : Attached}
    (h : SparingRun module origins draft ((key, located) :: rest))
    (hattach : Attachment settings .resource draft key located attached)
    (hdistinct : (exportedNames module.body).Nodup) (gap : Option String) (properties : List Node) :
    SparingRun module origins (withDescriptor settings routePath gap properties attached.draft)
      (handOver located attached.source rest) where
  running := h.running.step hattach gap properties
  descends := by
    intro entry hentry
    rcases mem_withDescriptor hentry with rfl | ⟨hentry, -⟩
    · exact .descriptor rfl
    · exact hattach.forall h.running.own (stable_descends located) h.descends entry hentry
  spares := by
    intro handler hhandler hnot entry hentry
    rw [handOver_map identity identity_takeOver] at hnot
    rcases mem_withDescriptor hentry with rfl | ⟨hentry, -⟩
    · exact fun hne => absurd rfl hne
    · by_cases hsame : identity handler = identity located
      · have hsite := (site_of_handler hhandler hdistinct).congr hsame
        exact (hattach.spares h.running.distinct h.running.own h.descends hsite entry hentry).congr hsame
      · have hothers : identity handler ∉ ((key, located) :: rest).map fun next => identity next.2 := by
          rw [List.map_cons, List.mem_cons, not_or]
          exact ⟨hsame, hnot⟩
        exact hattach.forall h.running.own (stable_spares located handler) (h.spares handler hhandler hothers) entry hentry

/-- The draft of a resource has of its handlers only what is spared. -/
theorem resource_spares {draft : Draft}
    (hne : methodsOf (locate module.body "loader") (locate module.body "action") ≠ [])
    (hdistinct : (exportedNames module.body).Nodup)
    (h : migrateResource settings module routePath
      (methodsOf (locate module.body "loader") (locate module.body "action")) = .ok draft) :
    ∀ entry ∈ draft.entries, Descends module entry ∧ ∀ located ∈ handlersOf module, Spares module located entry := by
  obtain ⟨first, gap, attached, hrun, rfl⟩ := migrateResource_eq_ok hne h
  let handlers := methodsOf (locate module.body "loader") (locate module.body "action")
  have hstart : SparingRun module (resourceOrigins handlers) ((Draft.ofBody module.body).insertBefore (.statement first)
      ⟨.descriptor, withGap gap (resourceDescriptor settings routePath [])⟩) handlers := by
    refine ⟨running_start (fun _ => exists_locate_of_mem_methodsOf) first gap, fun entry hentry => ?_, ?_⟩
    · rcases mem_insertBefore.mp hentry with hentry | rfl
      · exact descends_ofBody entry hentry
      · exact .descriptor rfl
    · intro handler hhandler hnot
      obtain ⟨method, hmethod⟩ := exists_method hhandler
      exact absurd (List.mem_map.mpr ⟨(method, handler), hmethod, rfl⟩) hnot
  obtain ⟨properties, hrunning, hdescends, hspares⟩ := attachAll_run
    (P := fun draft _ rest => SparingRun module (resourceOrigins handlers) draft rest)
    (fun _ _ _ _ _ _ gap hrun hattach => hrun.step hattach hdistinct gap _) hstart hrun
  intro entry hentry
  have hentry := (settleDescriptor_perm hrunning.distinct).subset hentry
  exact ⟨hdescends entry hentry, fun located hlocated => hspares located hlocated List.not_mem_nil entry hentry⟩

end RouteMigration.Proofs
