import RouteMigration.Proofs.StandingHandlers

/-!
# Names that a draft accounts for

A draft accounts for a name of the module when it still declares the name, or when the name is that of a
handler and nothing uses it but the descriptor and what is left of the statement that declared it. Every
stage of a migration keeps this up. There is one exception: when both handlers are the same variable, the
second removal may take away a neighbour of that variable.
-/

namespace RouteMigration.Proofs
open Syntax Route

/-- The name is declared by a statement of which one variable is both the loader and the action. -/
def DeclaredWithTwins (module : Module) (name : String) : Prop :=
  ∃ loader action statement, locate module.body "loader" = some loader ∧ locate module.body "action" = some action ∧
    action.statement = loader.statement ∧ action.shape = loader.shape ∧
    module.body[loader.statement]? = some statement ∧ name ∈ statement.declaredNames

inductive Accounted (module : Module) (draft : Draft) (name : String) : Prop where
  | declared {entry : Entry} : entry ∈ draft.entries → entry.origin ≠ .descriptor →
      name ∈ entry.node.declaredNames → Accounted module draft name
  | released {located : Located} : located ∈ handlersOf module → located.localName = name →
      (∀ entry ∈ draft.entries, name ∈ entry.node.referencedValues →
        entry.origin = .descriptor ∨ entry.origin = .statement located.statement) →
      Accounted module draft name
  | twins : DeclaredWithTwins module name → Accounted module draft name

variable {settings : Settings} {module : Module}

/-- A draft accounts for what another one accounts for, if it declares no less and uses no more but in the
descriptor. -/
lemma Accounted.mono {draft draft' : Draft} {name : String} (h : Accounted module draft name)
    (hdeclared : ∀ entry ∈ draft.entries, entry.origin ≠ .descriptor →
      ∃ entry' ∈ draft'.entries, entry'.origin = entry.origin ∧ entry.node.declaredNames ⊆ entry'.node.declaredNames)
    (huses : ∀ entry' ∈ draft'.entries, entry'.origin = .descriptor ∨ ∃ entry ∈ draft.entries,
      entry'.origin = entry.origin ∧ entry'.node.referencedValues ⊆ entry.node.referencedValues) :
    Accounted module draft' name := by
  cases h with
  | declared hentry horigin hname =>
    obtain ⟨entry', hentry', horigin', hsubset⟩ := hdeclared _ hentry horigin
    exact .declared hentry' (horigin' ▸ horigin) (hsubset hname)
  | released hhandler hname hreleased =>
    refine .released hhandler hname fun entry' hentry' huse => ?_
    rcases huses entry' hentry' with hdescriptor | ⟨entry, hentry, horigin, hsubset⟩
    · exact .inl hdescriptor
    · rw [horigin]
      exact hreleased entry hentry (hsubset huse)
  | twins htwins => exact .twins htwins

/-! ### Attaching a handler -/

lemma AttachStep.uses {located : Located} {entry entry' : Entry} (h : AttachStep located entry (some entry')) :
    entry'.node.referencedValues ⊆ (unlist [located.name] entry.node).referencedValues := by
  cases h with
  | unlisted => exact List.Subset.refl _
  | own _ hf =>
    rcases hf with rfl | ⟨index, rfl⟩
    · exact referencedValues_withoutExport _
    · exact referencedValues_eraseDeclarator index _

lemma AttachStep.declaredNames_subset {located : Located} {entry entry' : Entry}
    (h : AttachStep located entry (some entry')) (hvalues : HoldsValues [.statement located.statement] entry) :
    entry'.node.declaredNames ⊆ entry.node.declaredNames := by
  have hunlisted := declaredNames_unlist [located.name] entry.node
  cases h with
  | unlisted =>
    rw [reworked, hunlisted]
    exact List.Subset.refl _
  | own horigin hf =>
    have hown := hvalues.unlisted horigin [located.name]
    rw [reworked, reworked, ← hunlisted]
    rcases hf with rfl | ⟨index, rfl⟩
    · rw [declaredNames_withoutExport hown]
      exact List.Subset.refl _
    · exact declaredNames_eraseDeclarator index hown

/-- What the attachment of a handler relies on to account for all names. -/
structure Attachable (module : Module) (draft : Draft) (located : Located) : Prop where
  distinct : Distinct draft
  values : ∀ entry ∈ draft.entries, HoldsValues [.statement located.statement] entry
  handler : ∃ original ∈ handlersOf module, original.name = located.name ∧
    original.localName = located.localName ∧ original.statement = located.statement
  standing : Standing draft located ∨ ∀ entry ∈ draft.entries, entry.origin = .statement located.statement →
    ∀ name ∈ entry.node.declaredNames, DeclaredWithTwins module name

section Attachment

variable {kind : Kind} {draft : Draft} {key : String} {located : Located} {attached : Attached} {name : String}

lemma isUsedElsewhere_eq_false {origin : Origin} (h : draft.isUsedElsewhere name origin = false) {entry : Entry}
    (hentry : entry ∈ draft.entries) (hother : entry.origin ≠ origin) : name ∉ entry.node.referencedValues := by
  intro hname
  rw [Draft.isUsedElsewhere, List.any_eq_false] at h
  exact h entry hentry (by simp [hother, hname])

/-- The removal of a standing handler takes away no name but that of the handler. -/
lemma Removal.declared {result : Draft} (h : Removal located (draft.mapNodes (unlist [located.name])) result)
    (hd : Distinct draft) (hstanding : Standing draft located) {entry : Entry} (hentry : entry ∈ draft.entries)
    (hown : entry.origin = .statement located.statement) (hname : name ∈ entry.node.declaredNames) :
    name = located.localName ∨ ∃ entry' ∈ result.entries, entry'.origin = entry.origin ∧
      name ∈ entry'.node.declaredNames := by
  obtain ⟨form, hform, hstands⟩ := hstanding entry hentry hown
  have hvalue := hstands.isValueDeclaration
  have hunlisted : declared? (unlist [located.name] entry.node) = some form := by rw [declared?_unlist, hform]
  rw [declaredNames_of_declared hform hvalue] at hname
  cases h with
  | erased _ hcount =>
    have hfind := hd.find?_mapNodes hentry hown (unlist [located.name])
    exact .inl (hstands.eq_localName_of_count hunlisted (fun index hshape => hcount index _ hshape hfind) hname)
  | @trimmed index _ hshape _ _ _ hresult =>
    rw [hshape] at hstands
    refine (hstands.mem_trimmed hname).imp_right fun hname => ?_
    refine ⟨reworked (Draft.eraseDeclarator (placeLeft draft located index)) (reworked (unlist [located.name]) entry),
      ?_, rfl, ?_⟩
    · rw [hresult]
      exact mem_modify (mem_mapNodes hentry (unlist [located.name])) hown _
    · have herased := declared?_eraseDeclarator (placeLeft draft located index) (unlist [located.name] entry.node)
      rw [hunlisted, Option.map_some] at herased
      have hvalue' : isValueDeclaration (Proofs.trimmed (placeLeft draft located index) form) = true := by
        cases hstands
        rfl
      rw [reworked, reworked, declaredNames_of_declared herased hvalue']
      exact hname

/-- What an attachment releases is used by the statement of the handler at most. -/
lemma Attachment.released (h : Attachment settings kind draft key located attached)
    (hunused : (draft.mapNodes (unlist [located.name])).isUsedElsewhere located.localName
      (.statement located.statement) = false) {entry' : Entry} (hentry' : entry' ∈ attached.draft.entries)
    (huse : located.localName ∈ entry'.node.referencedValues) : entry'.origin = .statement located.statement := by
  obtain ⟨entry, hentry, hstep⟩ := h.edited.origin hentry'
  by_contra horigin
  have hmem := mem_mapNodes hentry (unlist [located.name])
  rw [hstep.origin] at horigin
  exact isUsedElsewhere_eq_false hunused hmem horigin (hstep.uses huse)

/-- An attachment keeps all names accounted for. -/
theorem Attachment.accounted (h : Attachment settings kind draft key located attached)
    (hready : Attachable module draft located) (hname : Accounted module draft name) :
    Accounted module attached.draft name := by
  cases hname with
  | twins htwins => exact .twins htwins
  | released hhandler hlocal hreleased =>
    refine .released hhandler hlocal fun entry' hentry' huse => ?_
    obtain ⟨entry, hentry, hstep⟩ := h.edited.origin hentry'
    rw [hstep.origin]
    exact hreleased entry hentry (referencedValues_unlist _ _ (hstep.uses huse))
  | @declared entry hentry horigin hdeclared =>
    by_cases hown : entry.origin = .statement located.statement
    · cases h with
      | @kept f _ hf hentries _ _ _ _ =>
        have hunlisted := (hready.values entry hentry).unlisted hown [located.name]
        have hmem : reworked f (reworked (unlist [located.name]) entry) ∈ attached.draft.entries := by
          rw [hentries]
          exact mem_modify (mem_mapNodes hentry (unlist [located.name])) hown f
        refine .declared hmem horigin ?_
        rw [← declaredNames_unlist [located.name]] at hdeclared
        rcases hf.eq with rfl | rfl
        · exact hdeclared
        · rw [reworked, reworked, declaredNames_withoutExport hunlisted]
          exact hdeclared
      | moved hunused hextract hremoval hentries hsame hkept hproperty hsource =>
        have hattached : Attachment settings kind draft key located attached :=
          .moved hunused hextract hremoval hentries hsame hkept hproperty hsource
        rcases hready.standing with hstanding | htwins
        · rcases hremoval.declared hready.distinct hstanding hentry hown hdeclared with
            rfl | ⟨entry', hentry', horigin', hname'⟩
          · obtain ⟨original, horiginal, -, hlocal, hstatement⟩ := hready.handler
            refine .released horiginal hlocal fun entry' hentry' huse => .inr ?_
            rw [hstatement]
            exact hattached.released hunused hentry' huse
          · exact .declared (hentries ▸ hentry') (horigin' ▸ horigin) hname'
        · exact .twins (htwins entry hentry hown name hdeclared)
    · refine .declared (h.mem_unlisted hentry hown) horigin ?_
      rw [reworked, declaredNames_unlist]
      exact hdeclared

end Attachment

/-! ### Pages -/

lemma exists_entry_of_mem_declaredNames {name : String} (h : name ∈ module.declaredNames) :
    ∃ index statement, module.body[index]? = some statement ∧ name ∈ statement.declaredNames ∧
      ⟨.statement index, statement⟩ ∈ (Draft.ofBody module.body).entries := by
  obtain ⟨statement, hstatement, hname⟩ := List.mem_flatMap.mp h
  obtain ⟨index, hget⟩ := List.mem_iff_getElem?.mp hstatement
  exact ⟨index, statement, hget, hname, mem_ofBody.mpr ⟨index, rfl, hget⟩⟩

section Page

variable {default : DefaultExport} {result : Draft × String} {before after : List Entry} {component? : Option Entry}

/-- Detaching the default export keeps all names declared. -/
lemma Detachment.accounted (h : Detachment settings default (.ofBody module.body) result before after component?)
    (hdefault : default ∈ defaultExports module) (hplain : ∀ statement ∈ module.body, PlainDefault statement)
    {name : String} (hname : name ∈ module.declaredNames) : Accounted module result.1 name := by
  obtain ⟨index, statement, hget, hdeclared, hentry⟩ := exists_entry_of_mem_declaredNames hname
  rcases h.edited.fate hentry with hgone | ⟨entry', hentry', hstep⟩
  · cases hgone with
    | @erased _ site _ hreferenced horigin =>
      -- the statement that goes exports the name of a binding and declares nothing
      have hindex : index = site := Origin.statement.inj horigin
      obtain ⟨found, hfound, hat⟩ := mem_defaultExports.mp hdefault
      rw [hreferenced, siteOf, ← hindex] at hfound hat
      rw [hget] at hfound
      obtain rfl := Option.some.inj hfound
      cases hat with
      | @named declaration _ hform hidentifier =>
        rw [Node.declaredNames, hform] at hdeclared
        obtain ⟨info, form⟩ := declaration
        cases form <;> simp_all [Node.identifier?, Node.boundByDeclaration, Node.form]
  · refine .declared (h.mem.mpr (.inl hentry')) (by rw [hstep.origin]; simp) ?_
    cases hstep with
    | other _ => exact hdeclared
    | unlisted _ _ =>
      rw [reworked, declaredNames_eraseSpecifier]
      exact hdeclared
    | inlined _ _ => exact declaredNames_inlineStatement _ (hplain _ (List.mem_of_getElem? hget)) hdeclared

lemma Detachment.standing (h : Detachment settings default (.ofBody module.body) result before after component?)
    {name : String} {located : Located} (hlocate : locate module.body name = some located) :
    Standing result.1 located := by
  obtain ⟨-, -, statement, form, hget, hform, hby⟩ := locate_eq_some hlocate
  have hvalues : DeclaresValues statement := ⟨form, hform, hby.isValueDeclaration⟩
  refine standing_of_declaredBy h.removed hby fun entry hentry horigin => ?_
  rcases h.mem.mp hentry with hentry | hentry
  · obtain ⟨index, found, hindex, hfound, hstep⟩ := h.origin hentry
    rw [hindex, Origin.statement.injEq] at horigin
    rw [horigin, hget] at hfound
    obtain rfl := Option.some.inj hfound
    cases hstep with
    | other _ => exact hform
    | unlisted _ _ => rw [reworked, declared?_eraseSpecifier, hform]
    | inlined _ _ => rw [reworked, inlineStatement_of_declaresValues _ hvalues, hform]
  · obtain ⟨_, _, _, _, _, -, rfl, -⟩ := h.component entry hentry
    cases horigin

lemma Detachment.attachable (h : Detachment settings default (.ofBody module.body) result before after component?)
    {loader : Located} (hlocate : locate module.body "loader" = some loader) : Attachable module result.1 loader where
  distinct := h.distinct
  values := (h.running "loader" hlocate).own
  handler := ⟨loader, handler_of_locate (.inl rfl) hlocate, rfl, rfl, rfl⟩
  standing := .inl (h.standing hlocate)

end Page

theorem page_accounted {routePath : String} {default : DefaultExport} {loader : Located} {action : Option Located}
    {draft : Draft} (hdefault : findDefaultExport module = some default)
    (hlocate : locate module.body "loader" = some loader)
    (h : migratePage settings module routePath default loader action = .ok draft)
    (hplain : ∀ statement ∈ module.body, PlainDefault statement) {name : String}
    (hname : name ∈ module.declaredNames) : Accounted module draft name := by
  obtain ⟨attached, entries, hattach, hform, hdraft⟩ := migratePage_eq_ok h
  obtain ⟨before, after, component?, hdetach⟩ := detachDefault_eq settings (.ofBody module.body) default
  have hdetached := hdetach.accounted (List.mem_of_getLast? hdefault) hplain hname
  refine (hattach.accounted (hdetach.attachable hlocate) hdetached).mono (fun entry hentry _ => ?_)
    fun entry' hentry' => ?_
  · rcases hform.fate hentry with ⟨_, hnone, -⟩ | ⟨entry', hentry', hsame⟩
    · cases hnone
    · obtain ⟨_, hsome, horigin, hnode⟩ := hsame
      cases hsome
      refine ⟨entry', ?_, horigin, ?_⟩
      · rw [hdraft]
        exact List.mem_append_left _ hentry'
      · rw [declaredNames_of_form hnode]
        exact List.Subset.refl _
  · obtain ⟨-, -, hsource⟩ := page_entries hdetach.distinct hdetach.origin_ne hattach hform hdraft
    rcases hsource entry' hentry' with rfl | ⟨entry, hentry, horigin, hnode⟩
    · exact .inl rfl
    · refine .inr ⟨entry, hentry, horigin, ?_⟩
      rw [referencedValues_congr hnode]
      exact List.Subset.refl _

/-! ### Resources -/

section Resource

variable {routePath : String} {gap : Option String} {first : Nat} {descriptor : Node}

lemma accounted_start {name : String} (hname : name ∈ module.declaredNames) :
    Accounted module ((Draft.ofBody module.body).insertBefore (.statement first) ⟨.descriptor, descriptor⟩) name := by
  obtain ⟨index, statement, -, hdeclared, hentry⟩ := exists_entry_of_mem_declaredNames hname
  exact .declared (mem_insertBefore.mpr (.inl hentry)) (by simp) hdeclared

lemma entry_start {site : Nat} {entry : Entry}
    (h : entry ∈ ((Draft.ofBody module.body).insertBefore (.statement first) ⟨.descriptor, descriptor⟩).entries)
    (horigin : entry.origin = .statement site) : module.body[site]? = some entry.node := by
  rcases mem_insertBefore.mp h with hentry | rfl
  · obtain ⟨index, hindex, hget⟩ := mem_ofBody.mp hentry
    rw [hindex, Origin.statement.injEq] at horigin
    rwa [← horigin]
  · cases horigin

lemma standing_start {key : String} {located : Located} (hlocate : locate module.body key = some located) :
    Standing ((Draft.ofBody module.body).insertBefore (.statement first) ⟨.descriptor, descriptor⟩) located := by
  obtain ⟨-, -, statement, form, hget, hform, hby⟩ := locate_eq_some hlocate
  refine standing_of_declaredBy rfl hby fun entry hentry horigin => ?_
  have hnode := entry_start hentry horigin
  rw [hget] at hnode
  rwa [← Option.some.inj hnode]

lemma Accounted.withDescriptor {draft : Draft} {name : String} (h : Accounted module draft name)
    (gap : Option String) (properties : List Node) :
    Accounted module (withDescriptor settings routePath gap properties draft) name := by
  refine h.mono (fun entry hentry horigin => ?_) fun entry' hentry' => ?_
  · refine ⟨entry, ?_, rfl, List.Subset.refl _⟩
    rw [Proofs.withDescriptor, entries_modify]
    exact List.mem_map.mpr ⟨entry, hentry, if_neg horigin⟩
  · rcases mem_withDescriptor hentry' with rfl | ⟨hentry, -⟩
    · exact .inl rfl
    · exact .inr ⟨entry', hentry, rfl, List.Subset.refl _⟩

lemma Standing.takeOver {draft : Draft} {located : Located} (h : Standing draft located) (other : Located)
    (source : Node) : Standing draft (located.takeOver other source) := by
  unfold Located.takeOver
  split
  · exact h
  · exact h

lemma Standing.withDescriptor {draft : Draft} {located : Located} (h : Standing draft located)
    (gap : Option String) (properties : List Node) :
    Standing (withDescriptor settings routePath gap properties draft) located := by
  refine h.congr rfl fun entry' hentry' horigin' => ?_
  rcases mem_withDescriptor hentry' with rfl | ⟨hentry, -⟩
  · cases horigin'
  · exact ⟨entry', hentry, horigin', rfl⟩

/-- When the loader is attached, the action can be attached as well. -/
lemma attachable_second {key : String} {loader action : Located} {attached : Attached}
    (hloader : locate module.body "loader" = some loader) (haction : locate module.body "action" = some action)
    (h : Attachment settings .resource ((Draft.ofBody module.body).insertBefore (.statement first)
      ⟨.descriptor, withGap gap (resourceDescriptor settings routePath [])⟩) key loader attached)
    (gap' : Option String) (properties : List Node) :
    Attachable module (withDescriptor settings routePath gap' properties attached.draft)
      (action.takeOver loader attached.source) := by
  have hstart := @running_start settings module routePath [(key, loader), ("POST", action)] (by
    intro handler hhandler
    rcases List.mem_pair.mp hhandler with rfl | rfl
    · exact ⟨"loader", hloader⟩
    · exact ⟨"action", haction⟩) first gap
  have hnext : Running (resourceOrigins [(key, loader), ("POST", action)])
      (withDescriptor settings routePath gap' properties attached.draft)
      [("POST", action.takeOver loader attached.source)] := hstart.step h gap' properties
  refine ⟨hnext.distinct, hnext.own, ⟨action, handler_of_locate (.inr rfl) haction, ?_, ?_, ?_⟩, ?_⟩
  · unfold Located.takeOver
    split <;> rfl
  · unfold Located.takeOver
    split <;> rfl
  · rw [takeOver_statement]
  · rcases h.standing rfl hstart.own (standing_start haction) with hstanding | ⟨hstatement, hshape⟩
    · exact .inl ((hstanding.withDescriptor gap' properties).takeOver loader attached.source)
    · -- the statement may have lost the variable that is both handlers
      refine .inr fun entry' hentry' horigin' name hname => ?_
      rw [takeOver_statement, hstatement] at horigin'
      rcases mem_withDescriptor hentry' with rfl | ⟨hentry', -⟩
      · cases horigin'
      · obtain ⟨entry, hentry, hstep⟩ := h.edited.origin hentry'
        have hget := entry_start hentry (hstep.origin.symm.trans horigin')
        have hsubset := hstep.declaredNames_subset (hstart.own entry hentry)
        exact ⟨loader, action, entry.node, hloader, haction, hstatement, hshape, hget, hsubset hname⟩

lemma attachAll_cons_eq_ok {draft result : Draft} {properties : List Node} {key : String} {located : Located}
    {rest : List (String × Located)}
    (h : attachAll settings module routePath draft properties ((key, located) :: rest) = .ok result) :
    ∃ attached gap, Attachment settings .resource draft key located attached ∧
      attachAll settings module routePath
        (withDescriptor settings routePath gap (properties ++ [attached.property]) attached.draft)
        (properties ++ [attached.property]) (handOver located attached.source rest) = .ok result := by
  rw [attachAll_cons] at h
  obtain ⟨attached, hattach, hrest⟩ := except_bind_eq_ok h
  exact ⟨attached, _, attach_eq_ok hattach, hrest⟩

lemma attachAll_nil_eq_ok {draft result : Draft} {properties : List Node}
    (h : attachAll settings module routePath draft properties [] = .ok result) : result = draft := by
  rw [attachAll] at h
  cases h
  rfl

/-- What every attachment of a handler passes on holds when the one or two handlers of a resource are attached. -/
lemma attachAll_attachable {P : Draft → Prop} {attached : Draft}
    (step : ∀ draft key located result gap properties, Attachable module draft located →
      Attachment settings .resource draft key located result → P draft →
      P (withDescriptor settings routePath gap properties result.draft))
    (start : P ((Draft.ofBody module.body).insertBefore (.statement first)
      ⟨.descriptor, withGap gap (resourceDescriptor settings routePath [])⟩))
    (h : attachAll settings module routePath ((Draft.ofBody module.body).insertBefore (.statement first)
      ⟨.descriptor, withGap gap (resourceDescriptor settings routePath [])⟩) []
      (methodsOf (locate module.body "loader") (locate module.body "action")) = .ok attached) : P attached := by
  have hready (key next : String) {located : Located} (hkey : key = "loader" ∨ key = "action")
      (hlocate : locate module.body key = some located) :
      Attachable module ((Draft.ofBody module.body).insertBefore (.statement first)
        ⟨.descriptor, withGap gap (resourceDescriptor settings routePath [])⟩) located := by
    have hrunning := @running_start settings module routePath [(next, located)]
      (by simpa using ⟨key, hlocate⟩) first gap
    exact ⟨hrunning.distinct, hrunning.own, ⟨located, handler_of_locate hkey hlocate, rfl, rfl, rfl⟩,
      .inl (standing_start hlocate)⟩
  cases hloader : locate module.body "loader" with
  | none =>
    cases haction : locate module.body "action" with
    | none =>
      rw [hloader, haction] at h
      rw [attachAll_nil_eq_ok h]
      exact start
    | some action =>
      rw [hloader, haction] at h
      obtain ⟨posted, gap₁, hattach, hrest⟩ := attachAll_cons_eq_ok h
      rw [attachAll_nil_eq_ok hrest]
      exact step _ _ _ _ _ _ (hready "action" "POST" (.inr rfl) haction) hattach start
  | some loader =>
    have hloaderReady := hready "loader" "GET" (.inl rfl) hloader
    cases haction : locate module.body "action" with
    | none =>
      rw [hloader, haction] at h
      obtain ⟨fetched, gap₁, hattach, hrest⟩ := attachAll_cons_eq_ok h
      rw [attachAll_nil_eq_ok hrest]
      exact step _ _ _ _ _ _ hloaderReady hattach start
    | some action =>
      rw [hloader, haction] at h
      obtain ⟨fetched, gap₁, hattach, hrest⟩ := attachAll_cons_eq_ok h
      obtain ⟨posted, gap₂, hattach', hrest'⟩ := attachAll_cons_eq_ok hrest
      have hsecond := attachable_second hloader haction hattach gap₁ [fetched.property]
      rw [attachAll_nil_eq_ok hrest']
      exact step _ _ _ _ _ _ hsecond hattach' (step _ _ _ _ _ _ hloaderReady hattach start)

end Resource

theorem resource_accounted {routePath : String} {draft : Draft}
    (hne : methodsOf (locate module.body "loader") (locate module.body "action") ≠ [])
    (h : migrateResource settings module routePath
      (methodsOf (locate module.body "loader") (locate module.body "action")) = .ok draft)
    {name : String} (hname : name ∈ module.declaredNames) : Accounted module draft name := by
  obtain ⟨first, gap, attached, hrun, rfl⟩ := migrateResource_eq_ok hne h
  obtain ⟨-, hdistinct⟩ := attachAll_run (P := fun draft _ _ => Distinct draft)
    (fun _ _ _ _ _ _ _ hdistinct hattach => distinct_modify (hattach.distinct hdistinct) _ _)
    (distinct_start module.body first _) hrun
  have hperm := settleDescriptor_perm hdistinct
  have haccounted : Accounted module attached name :=
    attachAll_attachable (P := fun draft => Accounted module draft name)
      (fun _ _ _ _ _ _ hready hattach hname => (hattach.accounted hready hname).withDescriptor _ _)
      (accounted_start hname) hrun
  exact haccounted.mono
    (fun entry hentry _ => ⟨entry, hperm.symm.subset hentry, rfl, List.Subset.refl _⟩)
    fun entry hentry => .inr ⟨entry, hperm.subset hentry, rfl, List.Subset.refl _⟩

/-- Every draft accounts for the names of the module. -/
theorem Drafting.accounted {routePath : String} {kind : Kind} {draft : Draft}
    (h : Drafting settings module routePath kind draft) (hplain : ∀ statement ∈ module.body, PlainDefault statement)
    {name : String} (hname : name ∈ module.declaredNames) : Accounted module draft name := by
  cases h with
  | page _ hdefault hloader hpage => exact page_accounted hdefault hloader hpage hplain hname
  | resource _ _ hhandlers hresource => exact resource_accounted hhandlers hresource hname

end RouteMigration.Proofs
