import RouteMigration.Proofs.DescriptorPlaces

/-!
# Statements at the top

Statements at the top of a module that a migration is not about stay at the top of its draft. What comes into the
draft comes in below them: the import of a component and a descriptor take the place of a statement that the migration
is about, and a descriptor that moves only moves down.
-/

namespace RouteMigration.Proofs
open Syntax Route

/-! ### Edits of what stands first -/

/-- An edit that leaves the first elements alone leaves them first. -/
lemma Edited.isPrefix {α : Type} {R : α → Option α → Prop} {first l l' : List α} (h : Edited R l l')
    (hfirst : first <+: l) (hstays : ∀ a ∈ first, ∀ place, R a place → place = some a) : first <+: l' := by
  obtain ⟨rest, rfl⟩ := hfirst
  obtain ⟨first', rest', rfl, hedited, -⟩ := h.append
  have hsame : first' = first := by
    clear h
    induction hedited with
    | nil => rfl
    | keep hR _ ih =>
      cases hstays _ (List.mem_cons_self ..) _ hR
      rw [ih fun a ha => hstays a (List.mem_cons_of_mem _ ha)]
    | drop hR _ _ => cases hstays _ (List.mem_cons_self ..) _ hR
  rw [hsame]
  exact List.prefix_append ..

section Draft

variable {first : List Entry} {draft : Draft} {origin : Origin}

lemma isPrefix_modify (h : first <+: draft.entries) (hother : ∀ entry ∈ first, entry.origin ≠ origin)
    (f : Node → Node) : first <+: (draft.modify origin f).entries := by
  have hedited : Edited (fun entry place => entry.origin ≠ origin → place = some entry) draft.entries
      (draft.modify origin f).entries :=
    edited_modify draft origin f (fun _ _ _ _ => rfl) fun _ _ horigin hne => absurd horigin hne
  exact hedited.isPrefix h fun entry hentry _ hplace => hplace (hother entry hentry)

lemma isPrefix_erase (h : first <+: draft.entries) (hother : ∀ entry ∈ first, entry.origin ≠ origin) :
    first <+: (draft.erase origin).entries := by
  have hedited : Edited (fun entry place => entry.origin ≠ origin → place = some entry) draft.entries
      (draft.erase origin).entries :=
    edited_filter _ _ (fun _ _ _ _ => rfl) fun _ _ hgone hne => absurd hne (by simpa using hgone)
  exact hedited.isPrefix h fun entry hentry _ hplace => hplace (hother entry hentry)

lemma isPrefix_insertAt (h : first <+: draft.entries) {position : Nat} (hposition : first.length ≤ position)
    (entry : Entry) : first <+: (draft.insertAt position entry).entries := by
  rw [List.prefix_iff_getElem?] at h ⊢
  intro index hindex
  rw [← h index hindex]
  exact List.getElem?_insertIdx_of_lt (Nat.lt_of_lt_of_le hindex hposition)

/-- What stands for another origin than the first entries stands below them. -/
lemma length_le_position (h : first <+: draft.entries) (hother : ∀ entry ∈ first, entry.origin ≠ origin)
    {position : Nat} (hposition : draft.position? origin = some position) : first.length ≤ position := by
  obtain ⟨hlt, hat, -⟩ := List.findIdx?_eq_some_iff_getElem.mp hposition
  by_contra hle
  have hindex : position < first.length := Nat.lt_of_not_le hle
  have hget := List.prefix_iff_getElem?.mp h position hindex
  rw [List.getElem?_eq_getElem hlt, Option.some.injEq] at hget
  rw [hget, decide_eq_true_eq] at hat
  exact hother _ (List.getElem_mem hindex) hat

lemma isPrefix_insertBefore (h : first <+: draft.entries) (hother : ∀ entry ∈ first, entry.origin ≠ origin)
    (entry : Entry) : first <+: (draft.insertBefore origin entry).entries := by
  apply isPrefix_insertAt h
  cases hposition : draft.position? origin with
  | none => exact h.length_le
  | some position => exact length_le_position h hother hposition

lemma isPrefix_settleDescriptor (h : first <+: draft.entries) (hother : ∀ entry ∈ first, entry.origin ≠ .descriptor) :
    first <+: (settleDescriptor draft).entries := by
  unfold settleDescriptor
  dsimp only
  split
  · next last position node _ hposition _ =>
    split
    · next hlt =>
      apply isPrefix_insertAt (isPrefix_erase h hother)
      exact (length_le_position h hother hposition).trans hlt.le
    · exact h
  · exact h

end Draft

/-! ### The top of a module -/

variable {settings : Settings} {module : Module} {routePath : String} {top : List Node}

/-- The module starts with these statements, and the migration is about none of them. -/
structure Leads (module : Module) (top : List Node) : Prop where
  first : top <+: module.body
  bystander : ∀ statement ∈ top, isBystander statement = true
  offSite : ∀ index < top.length, index ∉ sitesOf module

lemma Leads.start (h : Leads module top) : (Draft.ofBody top).entries <+: (Draft.ofBody module.body).entries := by
  obtain ⟨rest, hbody⟩ := h.first
  rw [Draft.ofBody, Draft.ofBody, ← hbody, List.zipIdx_append, List.map_append]
  exact List.prefix_append ..

section Entry

variable {entry : Entry}

lemma Leads.isBystander_entry (h : Leads module top) (hentry : entry ∈ (Draft.ofBody top).entries) :
    isBystander entry.node = true := by
  obtain ⟨index, -, hget⟩ := mem_ofBody.mp hentry
  exact h.bystander _ (List.mem_of_getElem? hget)

lemma Leads.isOffSite_entry (h : Leads module top) (hentry : entry ∈ (Draft.ofBody top).entries) :
    isOffSite (sitesOf module) entry.origin = true := by
  obtain ⟨index, horigin, hget⟩ := mem_ofBody.mp hentry
  have hsite := h.offSite index (List.getElem?_eq_some_iff.mp hget).1
  rw [horigin, isOffSite]
  simpa using hsite

lemma Leads.origin_ne_site (h : Leads module top) {site : Nat} (hsite : site ∈ sitesOf module) :
    ∀ entry ∈ (Draft.ofBody top).entries, entry.origin ≠ .statement site := by
  intro entry hentry horigin
  have hoff := h.isOffSite_entry hentry
  rw [horigin, isOffSite_statement hsite] at hoff
  cases hoff

lemma origin_ne_descriptor {body : List Node} : ∀ entry ∈ (Draft.ofBody body).entries, entry.origin ≠ .descriptor := by
  intro entry hentry horigin
  obtain ⟨index, hindex, -⟩ := mem_ofBody.mp hentry
  rw [hindex] at horigin
  cases horigin

lemma Attended.eq_of_standing {sites : List Nat} {place : Option Entry} (h : Attended sites entry place)
    (hstays : isBystander entry.node = true) (hoff : isOffSite sites entry.origin = true) : place = some entry := by
  cases h with
  | passed hpassed =>
    cases hpassed.eq_of_bystander hstays
    rfl
  | site hon _ => cases hoff.symm.trans hon

lemma Advised.eq_of_offSite {origin? : Option Origin} {place : Option Entry} (h : Advised origin? entry place)
    (hother : ∀ origin ∈ origin?, entry.origin ≠ origin) : place = some entry := by
  cases h with
  | same => rfl
  | commented horigin => exact absurd rfl (hother entry.origin horigin.symm)

end Entry

lemma DefaultAt.form_ne {declared : List String} {statement : Node} {index : Nat} {default : DefaultExport}
    (h : DefaultAt declared statement index default) (node : Node) : statement.form ≠ .otherStatement node := by
  cases h with
  | inline hform _ => simp [hform]
  | named hform _ => simp [hform]
  | listed hform _ _ _ _ _ => simp [hform]
  | forwarded hform _ _ _ _ _ => simp [hform]

/-- The statement of a default export or a handler is one that the parser makes sense of. -/
lemma not_site_of_other {index : Nat} {statement node : Node} (hget : module.body[index]? = some statement)
    (hform : statement.form = .otherStatement node) : index ∉ sitesOf module := by
  intro hsite
  rcases List.mem_append.mp hsite with hsite | hsite
  · obtain ⟨default, hdefault, rfl⟩ := List.mem_map.mp hsite
    have hmem : default ∈ defaultExports module := List.mem_of_getLast? (Option.mem_toList.mp hdefault)
    obtain ⟨statement', hget', hat⟩ := mem_defaultExports.mp hmem
    obtain rfl := Option.some.inj (hget.symm.trans hget')
    exact hat.form_ne node hform
  · obtain ⟨located, hlocated, rfl⟩ := List.mem_map.mp hsite
    obtain ⟨key, hlocate⟩ := exists_locate_of_mem_handlersOf hlocated
    obtain ⟨-, -, statement', form, hget', hdeclared, hby⟩ := locate_eq_some hlocate
    obtain rfl := Option.some.inj (hget.symm.trans hget')
    rw [declared?_other (by simp [hform]), hform] at hdeclared
    obtain rfl := Option.some.inj hdeclared
    cases hby.isValueDeclaration

lemma leads_of_other (hfirst : top <+: module.body)
    (hother : ∀ statement ∈ top, ∃ node, statement.form = .otherStatement node) : Leads module top where
  first := hfirst
  bystander statement hstatement := by
    obtain ⟨node, hform⟩ := hother statement hstatement
    rw [isBystander, hform]
  offSite index hindex := by
    obtain ⟨node, hform⟩ := hother _ (List.getElem_mem hindex)
    exact not_site_of_other (List.prefix_iff_getElem?.mp hfirst index hindex) hform

/-! ### Drafts -/

lemma Leads.detached (h : Leads module top) {default : DefaultExport} (hsite : siteOf default ∈ sitesOf module) :
    (Draft.ofBody top).entries <+: (detachDefault settings (.ofBody module.body) default).1.entries := by
  have hother := h.origin_ne_site hsite
  cases default with
  | inline statement => exact isPrefix_modify h.start hother _
  | referenced name statement specifier resolved =>
    cases specifier with
    | none => exact isPrefix_erase h.start hother
    | some place => exact isPrefix_modify h.start hother _
  | forwarded imported source statement place =>
    exact isPrefix_insertBefore (isPrefix_modify h.start hother _) hother _

lemma page_leads (h : Leads module top) {default : DefaultExport} {loader : Located} {draft : Draft}
    (hdefault : findDefaultExport module = some default) (hloader : locate module.body "loader" = some loader)
    (hpage : migratePage settings module routePath default loader (locate module.body "action") = .ok draft) :
    (Draft.ofBody top).entries <+: draft.entries := by
  obtain ⟨attached, entries, hattach, hadvised, hdraft⟩ := migratePage_advised hpage
  have hloaderSite : loader.statement ∈ sitesOf module := site_mem_of_handler (handler_of_locate (.inl rfl) hloader)
  have hattached : (Draft.ofBody top).entries <+: attached.draft.entries := by
    apply hattach.edited.isPrefix (h.detached (site_mem_of_default hdefault))
    intro entry hentry place hstep
    exact (hstep.attended hloaderSite).eq_of_standing (h.isBystander_entry hentry) (h.isOffSite_entry hentry)
  have hentries : (Draft.ofBody top).entries <+: entries := by
    apply hadvised.isPrefix hattached
    intro entry hentry place hstep
    apply hstep.eq_of_offSite
    intro origin horigin
    obtain ⟨action, hlocate, rfl⟩ := Option.map_eq_some_iff.mp horigin
    exact h.origin_ne_site (site_mem_of_handler (handler_of_locate (.inr rfl) hlocate)) entry hentry
  rw [hdraft]
  exact hentries.trans (List.prefix_append ..)

lemma resource_leads (h : Leads module top) {draft : Draft}
    (hne : methodsOf (locate module.body "loader") (locate module.body "action") ≠ [])
    (hresource : migrateResource settings module routePath
      (methodsOf (locate module.body "loader") (locate module.body "action")) = .ok draft) :
    (Draft.ofBody top).entries <+: draft.entries := by
  obtain ⟨site, gap, attached, hsite, -, hrun, rfl⟩ := migrateResource_first hne hresource
  have hsites {index : Nat} (hindex : index ∈ handlerSites module) : index ∈ sitesOf module :=
    List.mem_append_right _ hindex
  have hopen : (Draft.ofBody top).entries <+: (openDraft settings module routePath gap site).entries :=
    isPrefix_insertBefore h.start (h.origin_ne_site (hsites (List.min?_mem hsite))) _
  have hedited : Edited (Attended (sitesOf module)) (openDraft settings module routePath gap site).entries
      attached.entries := by
    apply attachAll_attended _ hrun
    intro index hindex
    rw [map_statement_methodsOf] at hindex
    exact hsites hindex
  apply isPrefix_settleDescriptor _ origin_ne_descriptor
  apply hedited.isPrefix hopen
  intro entry hentry place hstep
  exact hstep.eq_of_standing (h.isBystander_entry hentry) (h.isOffSite_entry hentry)

/-- The statements at the top of a module are those at the top of its draft. -/
theorem Drafting.leads {kind : Kind} {draft : Draft} (h : Drafting settings module routePath kind draft)
    (htop : Leads module top) : top <+: draft.body := by
  have hentries : (Draft.ofBody top).entries <+: draft.entries := by
    cases h with
    | page _ hdefault hloader hpage => exact page_leads htop hdefault hloader hpage
    | resource _ _ hhandlers hresource => exact resource_leads htop hhandlers hresource
  rw [← body_ofBody top]
  exact hentries.map _

/-- Dropping legacy imports leaves them there. -/
lemma isPrefix_dropLegacy {body : List Node} (h : top <+: body) (hother : ∀ statement ∈ top, import? statement = none)
    (settings : Settings) (used : List String) : top <+: dropLegacy settings used body :=
  (dropLegacy_edited settings used body).isPrefix h fun statement hstatement _ =>
    ImportEdit.eq_of_other (hother statement hstatement)

end RouteMigration.Proofs
