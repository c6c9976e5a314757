import RouteMigration.Proofs.PassedStatements
import RouteMigration.Proofs.ReferredHandlers

/-!
# The place of a descriptor

The descriptor of a resource takes the place of the first of its handlers. If no handler is kept, it stays there:
what stood before that handler stands before the descriptor, and everything else after it. Otherwise it stands
below the declarations that its properties refer to.
-/

namespace RouteMigration.Proofs
open Syntax Route

variable {settings : Settings} {module : Module} {routePath : String}

/-! ### Statements that declare a handler -/

/-- The statement declares a function or a variable of the handler's name. -/
def DeclaresHandler (located : Located) (statement : Node) : Prop :=
  ∃ form place, declared? statement = some form ∧ StandsAt located.localName place located.shape form

section DeclaresHandler

variable {located other : Located} {statement : Node}

lemma declaresHandler_congr {a b : Node} (h : declared? a = declared? b) :
    DeclaresHandler located a ↔ DeclaresHandler located b := by
  rw [DeclaresHandler, DeclaresHandler, h]

lemma DeclaresHandler.declaresValues (h : DeclaresHandler located statement) : DeclaresValues statement := by
  obtain ⟨form, place, hform, hstands⟩ := h
  exact ⟨form, hform, hstands.isValueDeclaration⟩

lemma isBystander_of_declaresValues (h : DeclaresValues statement) : isBystander statement = true := by
  have himport := h.not_import
  obtain ⟨form, hform, -⟩ := h
  rcases exportNamed_or_other statement with ⟨list, hlist⟩ | hother
  · rw [declared?_exportNamed hlist] at hform
    rw [isBystander, hlist]
    dsimp only
    cases hdeclaration : list.declaration with
    | none => rw [hdeclaration] at hform; cases hform
    | some declaration => rfl
  · unfold isBystander
    split
    · next declaration himported =>
      rw [import?, himported] at himport
      cases himport
    · next list hlist => exact absurd hlist (hother list)
    · rfl

/-- What is left of a statement without a declarator declares nothing new. -/
lemma DeclaresHandler.of_eraseDeclarator {index : Nat}
    (h : DeclaresHandler located (Draft.eraseDeclarator index statement)) : DeclaresHandler located statement := by
  obtain ⟨form, place, hform, hstands⟩ := h
  rw [declared?_eraseDeclarator] at hform
  obtain ⟨form, hbefore, rfl⟩ := Option.map_eq_some_iff.mp hform
  cases form with
  | variableDeclaration kind declarators =>
    generalize hshape : located.shape = shape at hstands
    cases hstands with
    | @declarator _ _ i declarator hget hnamed =>
      obtain ⟨j, hj⟩ := List.mem_iff_getElem?.mp ((List.eraseIdx_sublist ..).subset (List.mem_of_getElem? hget))
      refine ⟨_, fun _ => j, hbefore, ?_⟩
      rw [hshape]
      exact .declarator hj hnamed
  | _ => exact ⟨_, place, hbefore, hstands⟩

lemma AttachStep.declaresHandler {entry entry' : Entry} (h : AttachStep other entry (some entry'))
    (hvalues : HoldsValues [.statement other.statement] entry) (hdeclares : DeclaresHandler located entry'.node) :
    DeclaresHandler located entry.node := by
  have hunlisted := @declaresHandler_congr located _ _ (declared?_unlist [other.name] entry.node)
  cases h with
  | unlisted => exact hunlisted.mp hdeclares
  | own horigin hf =>
    refine hunlisted.mp ?_
    rcases hf with rfl | ⟨index, rfl⟩
    · exact (declaresHandler_congr (declaresValues_withoutExport (hvalues.unlisted horigin _)).2).mp hdeclares
    · exact DeclaresHandler.of_eraseDeclarator hdeclares

lemma not_declaresHandler_descriptor {gap : Option String} {properties : List Node}
    (h : located.localName ≠ settings.resourceDescriptor) :
    ¬ DeclaresHandler located (withGap gap (resourceDescriptor settings routePath properties)) := by
  rintro ⟨form, place, hform, hstands⟩
  obtain rfl := Option.some.inj (hform.symm.trans (@declared?_exportedConstant _ settings.resourceDescriptor _ rfl))
  generalize hshape : located.shape = shape at hstands
  cases hstands with
  | declarator hget hnamed =>
    obtain ⟨target, init, declaredType, hdeclarator, hname⟩ := hnamed.form
    rw [List.mem_singleton.mp (List.mem_of_getElem? hget)] at hdeclarator
    cases hdeclarator
    exact h (Option.some.inj hname).symm

/-- No other declaration of the module has the name of the handler. -/
def SoleDeclaration (module : Module) (located : Located) : Prop :=
  ∀ index statement, module.body[index]? = some statement →
    (DeclaresHandler located statement → index = located.statement) ∧
    (index = located.statement → ∀ i, located.shape = .variable i →
      ¬ DeclaresHandler located (Draft.eraseDeclarator i statement))

/-- When a handler has moved, no statement that is left declares it. -/
lemma Attachment.not_declaresHandler {gap : Option String} {site : Nat} {key method : String} {attached : Attached}
    (h : Attachment settings .resource (openDraft settings module routePath gap site) method located attached)
    (hlocate : locate module.body key = some located) (hmoved : referent? attached.property = none)
    (hsole : SoleDeclaration module located) (hname : located.localName ≠ settings.resourceDescriptor) :
    ∀ entry ∈ attached.draft.entries, ¬ DeclaresHandler located entry.node := by
  intro entry hentry hdeclares
  have hrunning := @running_start settings module routePath [(method, located)] (by simpa using ⟨key, hlocate⟩) site gap
  obtain ⟨-, -, statement, form, hget, hform, hby⟩ := locate_eq_some hlocate
  obtain ⟨source, hsource, hstep⟩ := h.edited.origin hentry
  have hbefore := hstep.declaresHandler (hrunning.own source hsource) hdeclares
  rcases mem_insertBefore.mp hsource with hsource | rfl
  · obtain ⟨index, horigin, hat⟩ := mem_ofBody.mp hsource
    obtain rfl := (hsole index _ hat).1 hbefore
    cases h.first hby.hasBody hrunning.distinct rfl (mem_openDraft hget) ⟨form, hform, hby.isValueDeclaration⟩ with
    | kept hused _ _ _ => cases (h.referent?_of_used hused).symm.trans hmoved
    | erased _ _ _ hgone => exact hgone entry hentry (hstep.origin.trans horigin)
    | @trimmed i _ _ hshape _ hleft =>
      have hsame := (h.distinct hrunning.distinct).eq_of_origin hentry hleft (hstep.origin.trans horigin)
      rw [hsame] at hdeclares
      refine (hsole _ _ hget).2 rfl i hshape ((declaresHandler_congr ?_).mp hdeclares)
      rw [declared?_eraseDeclarator, declared?_unlist, declared?_eraseDeclarator]
  · exact not_declaresHandler_descriptor hname hbefore

end DeclaresHandler

/-! ### All handlers -/

section Resource

variable {gap : Option String} {site : Nat} {properties : List Node} {result : Draft}

/-- A property refers to a declaration that no statement has anymore. -/
def Dangling (module : Module) (properties : List Node) (statements : List Node) : Prop :=
  ∃ property ∈ properties, ∃ located ∈ handlersOf module, referent? property = some located.localName ∧
    (SoleDeclaration module located → ∀ statement ∈ statements, ¬ DeclaresHandler located statement)

/-- What attaching all handlers of a resource comes to. -/
structure AllAttached (settings : Settings) (module : Module) (routePath : String) (keys : List String)
    (properties : List Node) (result : Draft) : Prop where
  descriptor : ∃ gap, ⟨.descriptor, withGap gap (resourceDescriptor settings routePath properties)⟩ ∈ result.entries
  distinct : Distinct result
  keys : properties.map keyOf? = keys.map some
  supported : ¬ LosesDeclaration settings module → Supported module properties result
  dangling : LosesDeclaration settings module → Dangling module properties result.body
  moved : (∀ property ∈ properties, referent? property = none) → result.kept = []

lemma kept_of_moved {kind : Kind} {draft : Draft} {key : String} {located : Located} {attached : Attached}
    (h : Attachment settings kind draft key located attached) (hmoved : referent? attached.property = none) :
    attached.draft.kept = draft.kept := by
  rcases h.referent?_cases with ⟨hform, -⟩ | ⟨-, hkept⟩
  · rw [referent?, hform] at hmoved
    cases hmoved
  · exact hkept

/-- A single handler is attached. -/
lemma allAttached_single {key method : String} {located : Located} {attached : Attached} (gap' : Option String)
    (hlocate : locate module.body key = some located) (hhandler : located ∈ handlersOf module)
    (hsingle : ¬ LosesDeclaration settings module)
    (hattach : Attachment settings .resource (openDraft settings module routePath gap site) method located attached) :
    AllAttached settings module routePath [method] [attached.property]
      (withDescriptor settings routePath gap' [attached.property] attached.draft) where
  descriptor := by
    obtain ⟨node, hnode⟩ := hattach.descriptor_mem (mem_insertBefore.mpr (.inr rfl))
    exact ⟨gap', descriptor_mem_withDescriptor hnode gap' _⟩
  distinct := distinct_modify (hattach.distinct (distinct_start module.body site _)) _ _
  keys := by
    rw [List.map_singleton, hattach.key]
    rfl
  supported _ := supported_first hlocate hhandler hattach gap' _
  dangling hlost := absurd hlost hsingle
  moved hmoved := kept_of_moved hattach (hmoved _ (List.mem_singleton_self _))

/-- Both handlers are attached. -/
lemma allAttached_pair {loader action : Located} {fetched posted : Attached} {gap₁ : Option String}
    (gap₂ : Option String)
    (h : BothAttached settings module routePath gap site loader action fetched posted gap₁) :
    AllAttached settings module routePath ["GET", "POST"] [fetched.property, posted.property]
      (withDescriptor settings routePath gap₂ [fetched.property, posted.property] posted.draft) where
  descriptor := by
    obtain ⟨first, hfirst⟩ := h.attachLoader.descriptor_mem (mem_insertBefore.mpr (.inr rfl))
    obtain ⟨second, hsecond⟩ := h.attachAction.descriptor_mem
      (@descriptor_mem_withDescriptor settings routePath _ _ hfirst gap₁ [fetched.property])
    exact ⟨gap₂, descriptor_mem_withDescriptor hsecond gap₂ _⟩
  distinct := distinct_modify (h.attachAction.distinct h.next.distinct) _ _
  keys := by
    rw [List.map_cons, List.map_singleton, h.attachLoader.key, h.attachAction.key]
    rfl
  supported hstays := h.supported hstays gap₂ _
  dangling hlost := by
    obtain ⟨hsame, hmoved, hreferred⟩ := h.losesDeclaration_iff.mp hlost
    refine ⟨posted.property, by simp, loader, handler_of_locate (.inl rfl) h.locateLoader, hreferred,
      fun hsole statement hstatement hdeclares => ?_⟩
    have hname : loader.localName ≠ settings.resourceDescriptor := by
      obtain ⟨loader', _, _, htwins, hunused, -⟩ := hlost
      obtain rfl := Option.some.inj (h.locateLoader.symm.trans htwins.locateLoader)
      exact hunused.descriptor
    obtain ⟨entry, hentry, rfl⟩ := List.mem_map.mp hstatement
    rcases mem_withDescriptor hentry with rfl | ⟨hentry, -⟩
    · exact not_declaresHandler_descriptor hname hdeclares
    · obtain ⟨source, hsource, hstep⟩ := h.attachAction.edited.origin hentry
      have hbefore := hstep.declaresHandler (h.next.own source hsource) hdeclares
      rcases mem_withDescriptor hsource with rfl | ⟨hsource, -⟩
      · exact not_declaresHandler_descriptor hname hbefore
      · exact h.attachLoader.not_declaresHandler h.locateLoader hmoved hsole hname source hsource hbefore
  moved hmoved := by
    have hfirst := kept_of_moved h.attachLoader (hmoved _ (by simp))
    have hsecond := kept_of_moved h.attachAction (hmoved _ (by simp))
    exact hsecond.trans hfirst

theorem attachAll_allAttached (hne : methodsOf (locate module.body "loader") (locate module.body "action") ≠ [])
    (hrun : attachAll settings module routePath (openDraft settings module routePath gap site) []
      (methodsOf (locate module.body "loader") (locate module.body "action")) = .ok result) :
    ∃ properties, AllAttached settings module routePath
      ((methodsOf (locate module.body "loader") (locate module.body "action")).map Prod.fst) properties result := by
  cases hloader : locate module.body "loader" with
  | none =>
    have hsingle : ¬ LosesDeclaration settings module := by
      rintro ⟨_, _, _, htwins, -⟩
      cases hloader.symm.trans htwins.locateLoader
    cases haction : locate module.body "action" with
    | none =>
      rw [hloader, haction] at hne
      exact absurd rfl hne
    | some action =>
      rw [hloader, haction] at hrun
      obtain ⟨posted, gap', hattach, hrest⟩ := attachAll_cons_eq_ok hrun
      rw [attachAll_nil_eq_ok hrest]
      exact ⟨_, allAttached_single gap' haction (handler_of_locate (.inr rfl) haction) hsingle hattach⟩
  | some loader =>
    cases haction : locate module.body "action" with
    | none =>
      have hsingle : ¬ LosesDeclaration settings module := by
        rintro ⟨_, _, _, htwins, -⟩
        cases haction.symm.trans htwins.locateAction
      rw [hloader, haction] at hrun
      obtain ⟨fetched, gap', hattach, hrest⟩ := attachAll_cons_eq_ok hrun
      rw [attachAll_nil_eq_ok hrest]
      exact ⟨_, allAttached_single gap' hloader (handler_of_locate (.inl rfl) hloader) hsingle hattach⟩
    | some action =>
      rw [hloader, haction] at hrun
      obtain ⟨fetched, gap₁, hattach, hrest⟩ := attachAll_cons_eq_ok hrun
      obtain ⟨posted, gap₂, hattach', hrest'⟩ := attachAll_cons_eq_ok hrest
      rw [attachAll_nil_eq_ok hrest']
      exact ⟨_, allAttached_pair gap₂ ⟨hloader, haction, hattach, hattach'⟩⟩

end Resource

/-! ### The first handler -/

/-- What attaching handlers makes of an entry: off their sites it passes, and on them it keeps its origin if it stays. -/
inductive Attended (sites : List Nat) (entry : Entry) : Option Entry → Prop where
  | passed {node : Node} : Passed entry.node (some node) → Attended sites entry (some ⟨entry.origin, node⟩)
  | site {place : Option Entry} : isOffSite sites entry.origin = false →
      (∀ entry' ∈ place, entry'.origin = entry.origin) → Attended sites entry place

section Attended

variable {sites : List Nat} {entry entry' : Entry} {place : Option Entry}

lemma Attended.origin (h : Attended sites entry (some entry')) : entry'.origin = entry.origin := by
  cases h with
  | passed _ => rfl
  | site _ hplace => exact hplace entry' rfl

lemma Attended.trans (h : Attended sites entry (some entry')) (h' : Attended sites entry' place) :
    Attended sites entry place := by
  cases h with
  | passed hfirst =>
    cases h' with
    | passed hsecond => exact .passed (hfirst.trans hsecond)
    | site hsite hplace => exact .site hsite hplace
  | site hsite horigin =>
    refine .site hsite fun other hother => ?_
    rw [Option.mem_def.mp hother] at h'
    exact h'.origin.trans (horigin entry' rfl)

lemma AttachStep.attended {located : Located} (h : AttachStep located entry place) (hsite : located.statement ∈ sites) :
    Attended sites entry place := by
  have hown (horigin : entry.origin = .statement located.statement) : isOffSite sites entry.origin = false := by
    rw [horigin]
    exact isOffSite_statement hsite
  cases h with
  | unlisted =>
    refine .passed ?_
    cases hstays : isBystander entry.node with
    | true =>
      rw [unlist_of_bystander _ hstays]
      exact .same
    | false =>
      refine .mover hstays fun node hnode => ?_
      cases hnode
      rw [isBystander_unlist, hstays]
  | own horigin _ =>
    refine .site (hown horigin) fun other hother => ?_
    cases hother
    rfl
  | gone horigin => exact .site (hown horigin) nofun

lemma withDescriptor_attended (gap : Option String) (properties : List Node) (draft : Draft) :
    Edited (Attended sites) draft.entries (withDescriptor settings routePath gap properties draft).entries := by
  refine edited_modify draft .descriptor _ (fun _ _ _ => .passed .same) fun entry _ horigin => ?_
  refine .site (by rw [horigin]; rfl) fun other hother => ?_
  cases hother
  rfl

end Attended

/-- The statements where handlers are declared. -/
def handlerSites (module : Module) : List Nat :=
  (handlersOf module).map (·.statement)

lemma attachAll_attended {draft result : Draft} {properties : List Node} {handlers : List (String × Located)}
    {sites : List Nat} (hsites : ∀ site ∈ handlers.map (·.2.statement), site ∈ sites)
    (hrun : attachAll settings module routePath draft properties handlers = .ok result) :
    Edited (Attended sites) draft.entries result.entries := by
  have hcomp {l m n : List Entry} (h : Edited (Attended sites) l m) (h' : Edited (Attended sites) m n) :
      Edited (Attended sites) l n := h.comp h' (fun _ hgone => hgone) fun _ _ _ => Attended.trans
  obtain ⟨-, hedited, -⟩ := attachAll_run
    (P := fun current _ rest => Edited (Attended sites) draft.entries current.entries ∧
      ∀ site ∈ rest.map (·.2.statement), site ∈ sites)
    (fun current _ _ located rest attached gap ⟨hedited, hsites⟩ hattach => by
      have hsite := hsites _ (List.mem_cons_self ..)
      have hstep := hattach.edited.mono fun _ _ _ hstep => hstep.attended hsite
      refine ⟨hcomp (hcomp hedited hstep) (withDescriptor_attended ..), ?_⟩
      rw [handOver_statements]
      exact fun site hmem => hsites site (List.mem_cons_of_mem _ hmem))
    ⟨edited_refl _ fun _ _ => .passed .same, hsites⟩ hrun
  exact hedited

/-- The descriptor starts in the place of a statement. -/
lemma entries_openDraft {gap : Option String} {site : Nat} (h : site < module.body.length) :
    (openDraft settings module routePath gap site).entries = (Draft.ofBody module.body).entries.take site ++
      ⟨.descriptor, withGap gap (resourceDescriptor settings routePath [])⟩ ::
        (Draft.ofBody module.body).entries.drop site := by
  have hlength : (Draft.ofBody module.body).entries.length = module.body.length := by simp [Draft.ofBody]
  have hlt : site < (Draft.ofBody module.body).entries.length := hlength.symm ▸ h
  have hat : (Draft.ofBody module.body).entries[site].origin = .statement site := by simp [Draft.ofBody]
  have hposition : (Draft.ofBody module.body).position? (.statement site) = some site := by
    have hthere := (distinct_ofBody module.body).position?
      ((List.take_append_drop site _).symm.trans (congrArg _ (List.drop_eq_getElem_cons hlt)))
    rwa [hat, List.length_take_of_le hlt.le] at hthere
  rw [openDraft, Draft.insertBefore, hposition]
  obtain ⟨before, after, hsplit, hbefore, hinsert⟩ := List.exists_of_modifyTailIdx
    (List.cons ⟨.descriptor, withGap gap (resourceDescriptor settings routePath [])⟩) hlt.le
  rw [hsplit, ← hbefore, List.take_left, List.drop_left, hbefore, ← hsplit]
  exact hinsert

/-- What a migration makes of a statement that may declare a handler. -/
def PassedOrHandler (module : Module) (statement : Node) (place : Option Node) : Prop :=
  Passed statement place ∨ ∃ located ∈ handlersOf module, module.body[located.statement]? = some statement

lemma map_node_ofBody (body : List Node) : (Draft.ofBody body).entries.map (·.node) = body :=
  body_ofBody body

lemma origin_ofBody {body : List Node} {index : Nat} (h : index < (Draft.ofBody body).entries.length) :
    (Draft.ofBody body).entries[index].origin = .statement index := by
  simp [Draft.ofBody]

/-- No handler is declared above the first one. -/
lemma attended_above {site : Nat} {entries : List Entry} (hsite : (handlerSites module).min? = some site)
    (h : Edited (Attended (handlerSites module)) ((Draft.ofBody module.body).entries.take site) entries) :
    Edited Passed (module.body.take site) (entries.map (·.node)) := by
  have himage := h.image (S := Passed) (·.node) fun entry hentry place hstep => ?_
  · rwa [List.map_take, map_node_ofBody] at himage
  · obtain ⟨index, hindex, rfl⟩ := List.mem_take_iff_getElem.mp hentry
    cases hstep with
    | passed hpassed => exact hpassed
    | site hon _ =>
      rw [origin_ofBody, isOffSite, Bool.not_eq_false', List.contains_iff_mem] at hon
      have hle := (List.min?_eq_some_iff.mp hsite).2 index hon
      omega

lemma attended_below {site : Nat} {entries : List Entry}
    (h : Edited (Attended (handlerSites module)) ((Draft.ofBody module.body).entries.drop site) entries) :
    Edited (PassedOrHandler module) (module.body.drop site) (entries.map (·.node)) := by
  have himage := h.image (S := PassedOrHandler module) (·.node) fun entry hentry place hstep => ?_
  · rwa [List.map_drop, map_node_ofBody] at himage
  · obtain ⟨index, hindex, hget⟩ := mem_ofBody.mp (List.mem_of_mem_drop hentry)
    cases hstep with
    | passed hpassed => exact .inl hpassed
    | site hon _ =>
      rw [hindex, isOffSite, Bool.not_eq_false', List.contains_iff_mem] at hon
      obtain ⟨located, hlocated, rfl⟩ := List.mem_map.mp hon
      exact .inr ⟨located, hlocated, hget⟩

/-- What comes from the statements of the module is no descriptor. -/
lemma origin_ne_of_attended {l entries : List Entry} {sites : List Nat} (h : Edited (Attended sites) l entries)
    (hl : ∀ entry ∈ l, entry ∈ (Draft.ofBody module.body).entries) : ∀ entry ∈ entries, entry.origin ≠ .descriptor := by
  intro entry hentry
  obtain ⟨source, hsource, hstep⟩ := h.origin hentry
  obtain ⟨index, hindex, -⟩ := mem_ofBody.mp (hl source hsource)
  rw [hstep.origin, hindex]
  nofun

/-- While the handlers are attached, the descriptor stays in the place of the first of them. -/
lemma attended_split {gap : Option String} {site : Nat} {result : Draft} {node : Node}
    (hsite : (handlerSites module).min? = some site) (hlt : site < module.body.length)
    (hedited : Edited (Attended (handlerSites module)) (openDraft settings module routePath gap site).entries
      result.entries) (hdistinct : Distinct result) (hmem : ⟨.descriptor, node⟩ ∈ result.entries) :
    ∃ before after, result.entries = before ++ ⟨.descriptor, node⟩ :: after ∧
      Edited Passed (module.body.take site) (before.map (·.node)) ∧
      Edited (PassedOrHandler module) (module.body.drop site) (after.map (·.node)) := by
  rw [entries_openDraft hlt] at hedited
  obtain ⟨before, rest, hentries, hbefore, hrest⟩ := hedited.append
  have hnot := origin_ne_of_attended hbefore fun _ => List.mem_of_mem_take
  cases hrest with
  | @keep _ descriptor _ after hstep hafter =>
    have hsame : descriptor = ⟨.descriptor, node⟩ := by
      refine hdistinct.eq_of_origin ?_ hmem hstep.origin
      rw [hentries]
      exact List.mem_append_right _ (List.mem_cons_self ..)
    rw [hsame] at hentries
    exact ⟨before, after, hentries, attended_above hsite hbefore, attended_below hafter⟩
  | drop _ hafter =>
    rw [hentries] at hmem
    rcases List.mem_append.mp hmem with hmem | hmem
    · exact absurd rfl (hnot _ hmem)
    · exact absurd rfl (origin_ne_of_attended hafter (fun _ => List.mem_of_mem_drop) _ hmem)

/-! ### Drafts of resources -/

lemma exists_locate_of_mem_handlersOf {located : Located} (h : located ∈ handlersOf module) :
    ∃ key, locate module.body key = some located := by
  rcases List.mem_append.mp h with h | h
  · exact ⟨"loader", Option.mem_toList.mp h⟩
  · exact ⟨"action", Option.mem_toList.mp h⟩

lemma map_statement_methodsOf : (methodsOf (locate module.body "loader") (locate module.body "action")).map
    (fun handler => handler.2.statement) = handlerSites module := by
  rw [handlerSites, handlersOf, methodsOf]
  simp [Function.comp_def]

/-- The draft of a resource starts with an empty descriptor in the place of the first handler. -/
lemma migrateResource_first {draft : Draft}
    (hne : methodsOf (locate module.body "loader") (locate module.body "action") ≠ [])
    (h : migrateResource settings module routePath
      (methodsOf (locate module.body "loader") (locate module.body "action")) = .ok draft) :
    ∃ site gap attached, (handlerSites module).min? = some site ∧ site < module.body.length ∧
      attachAll settings module routePath (openDraft settings module routePath gap site) []
        (methodsOf (locate module.body "loader") (locate module.body "action")) = .ok attached ∧
      draft = settleDescriptor attached := by
  obtain ⟨site, gap, attached, hsite, hattached, rfl⟩ := migrateResource_min hne h
  rw [map_statement_methodsOf] at hsite
  refine ⟨site, gap, attached, hsite, ?_, hattached, rfl⟩
  obtain ⟨located, hlocated, rfl⟩ := List.mem_map.mp (List.min?_mem hsite)
  obtain ⟨key, hlocate⟩ := exists_locate_of_mem_handlersOf hlocated
  obtain ⟨-, -, statement, -, hget, -, -⟩ := locate_eq_some hlocate
  exact (List.getElem?_eq_some_iff.mp hget).1

/-- Where the descriptor of a draft stands. -/
structure PlacedDescriptor (settings : Settings) (module : Module) (routePath : String) (properties : List Node)
    (draft : Draft) (before : List Entry) (node : Node) (after : List Entry) : Prop where
  entries : draft.entries = before ++ ⟨.descriptor, node⟩ :: after
  form : node.form = (resourceDescriptor settings routePath properties).form
  keys : properties.map keyOf? =
    (methodsOf (locate module.body "loader") (locate module.body "action")).map (some ·.1)
  declared : ¬ LosesDeclaration settings module → ∀ property ∈ properties, ∀ name ∈ referent? property,
    ∃ located ∈ handlersOf module, located.localName = name ∧ ∃ entry ∈ before, DeclaresHandler located entry.node
  dangling : LosesDeclaration settings module → Dangling module properties draft.body
  first : (∀ property ∈ properties, referent? property = none) →
    ∃ site, (handlerSites module).min? = some site ∧ Edited Passed (module.body.take site) (before.map (·.node)) ∧
      Edited (PassedOrHandler module) (module.body.drop site) (after.map (·.node))

/-- A settled draft in which no handler was kept is as it was. -/
lemma settleDescriptor_of_moved {draft : Draft} (h : draft.kept = []) : settleDescriptor draft = draft := by
  unfold settleDescriptor
  rw [h]
  rfl

theorem resource_placed {draft : Draft}
    (hne : methodsOf (locate module.body "loader") (locate module.body "action") ≠ [])
    (h : migrateResource settings module routePath
      (methodsOf (locate module.body "loader") (locate module.body "action")) = .ok draft) :
    ∃ properties before node after, PlacedDescriptor settings module routePath properties draft before node after := by
  obtain ⟨site, gap, attached, hsite, hlt, hrun, rfl⟩ := migrateResource_first hne h
  obtain ⟨properties, hall⟩ := attachAll_allAttached hne hrun
  obtain ⟨gap', hmem⟩ := hall.descriptor
  have hperm := settleDescriptor_perm hall.distinct
  have hkeys : properties.map keyOf? =
      (methodsOf (locate module.body "loader") (locate module.body "action")).map (some ·.1) := by
    rw [hall.keys, List.map_map]
    rfl
  have hdangling (hlost : LosesDeclaration settings module) :
      Dangling module properties (settleDescriptor attached).body := by
    obtain ⟨property, hproperty, located, hlocated, hreferred, hgone⟩ := hall.dangling hlost
    refine ⟨property, hproperty, located, hlocated, hreferred, fun hsole statement hstatement => ?_⟩
    exact hgone hsole statement ((hperm.map (·.node)).subset hstatement)
  by_cases hmoved : ∀ property ∈ properties, referent? property = none
  · have hsettled := settleDescriptor_of_moved (hall.moved hmoved)
    have hsites (site : Nat) (hsite : site ∈ (methodsOf (locate module.body "loader") (locate module.body "action")).map
        (·.2.statement)) : site ∈ handlerSites module := map_statement_methodsOf ▸ hsite
    have hedited := attachAll_attended hsites hrun
    obtain ⟨before, after, hentries, hbefore, hafter⟩ := attended_split hsite hlt hedited hall.distinct hmem
    refine ⟨properties, before, withGap gap' (resourceDescriptor settings routePath properties), after,
      hsettled.symm ▸ hentries, rfl, hkeys, fun _ property hproperty name hname => ?_, hdangling,
      fun _ => ⟨site, hsite, hbefore, hafter⟩⟩
    rw [hmoved property hproperty] at hname
    cases hname
  · obtain ⟨before, after, hentries, hkept⟩ := settleDescriptor_below hall.distinct hmem
    refine ⟨properties, before, withGap gap' (resourceDescriptor settings routePath properties), after, hentries, rfl,
      hkeys, fun hstays property hproperty name hname => ?_, hdangling, fun hnone => absurd hnone hmoved⟩
    obtain ⟨located, hlocated, hlocal, hindex, hpresent⟩ := hall.supported hstays property hproperty name hname
    obtain ⟨statement, hstatement⟩ := hpresent.entry
    obtain ⟨form, hform, hstands⟩ := hpresent.standing _ hstatement rfl
    exact ⟨located, hlocated, hlocal, _, hkept _ hindex _ hstatement, form, _, hform, hstands⟩

/-! ### Migrated modules -/

/-- The descriptor of a migrated resource stands where it can be evaluated: below the declarations that its properties
refer to. The one exception is a declaration that is both handlers and uses its own name, which is then declared
nowhere. If the descriptor refers to no handler, it stands where the first handler was: what passed from above that
handler is above it, with the added imports, and what passed from below is below it. -/
theorem migrate_descriptorPlace {migrated : Migrated} {path : String} {advisories : List String}
    (h : migrate settings module = .ok migrated) (hfinal : migrated.outcome = .finalized .resource path advisories) :
    ∃ properties before descriptor after,
      migrated.module.body = before ++ descriptor :: after ∧
      descriptor.form = (resourceDescriptor settings path properties).form ∧
      properties.map keyOf? =
        (methodsOf (locate module.body "loader") (locate module.body "action")).map (some ·.1) ∧
      (¬ LosesDeclaration settings module → ∀ property ∈ properties, ∀ name ∈ referent? property,
        ∃ located ∈ handlersOf module, located.localName = name ∧
          ∃ statement ∈ before, DeclaresHandler located statement) ∧
      (LosesDeclaration settings module → Dangling module properties migrated.module.body) ∧
      ((∀ property ∈ properties, referent? property = none) →
        ∃ site, (handlerSites module).min? = some site ∧ WithImports (module.body.take site) before ∧
          Edited (PassedOrHandler module) (module.body.drop site) after) := by
  cases migrate_eq_ok h with
  | skipped houtcome _ =>
    rw [houtcome] at hfinal
    cases hfinal
  | @finalized kind draft hdraft houtcome hmodule =>
    rw [houtcome] at hfinal
    cases hfinal
    cases draftOf_eq_ok hdraft with
    | resource hdeclares hdefault hhandlers hresource =>
      obtain ⟨properties, before, node, after, hplaced⟩ := resource_placed hhandlers hresource
      have hbody : migrated.module.body = finish settings .resource module.referencedNames draft.body := by
        rw [hmodule]
        rfl
      have hform : node.form = (exportedConstant settings.resourceDescriptor _).form := hplaced.form
      obtain ⟨before', after', hfinish, hbefore, hafter⟩ := @finish_around (before.map (·.node)) (after.map (·.node)) node
        (declaresValues_exportedConstant hform).not_import (isDirective_exportedConstant hform)
        (isEmptied_exportedConstant hform) settings .resource module.referencedNames
      have hdraftBody : draft.body = before.map (·.node) ++ node :: after.map (·.node) := by
        rw [Draft.body, hplaced.entries, List.map_append, List.map_cons]
      rw [← hdraftBody, ← hbody] at hfinish
      refine ⟨properties, before', node, after', hfinish, hplaced.form, hplaced.keys, ?_, ?_, ?_⟩
      · intro hstays property hproperty name hname
        obtain ⟨located, hlocated, hlocal, entry, hentry, hdeclaring⟩ := hplaced.declared hstays property hproperty name hname
        refine ⟨located, hlocated, hlocal, entry.node, ?_, hdeclaring⟩
        exact hbefore.mem (List.mem_map_of_mem hentry) (isBystander_of_declaresValues hdeclaring.declaresValues)
      · intro hlost
        obtain ⟨property, hproperty, located, hlocated, hreferred, hgone⟩ := hplaced.dangling hlost
        refine ⟨property, hproperty, located, hlocated, hreferred, fun hsole statement hstatement hdeclaring => ?_⟩
        have hstays := isBystander_of_declaresValues hdeclaring.declaresValues
        refine hgone hsole statement ?_ hdeclaring
        rw [hfinish, List.mem_append, List.mem_cons] at hstatement
        rw [hdraftBody, List.mem_append, List.mem_cons]
        exact hstatement.imp (hbefore.mem_before · hstays) fun hrest => hrest.imp_right (mem_before_passed hafter · hstays)
      · intro hmoved
        obtain ⟨site, hsite, habove, hbelow⟩ := hplaced.first hmoved
        refine ⟨site, hsite, hbefore.after habove, hbelow.comp hafter (fun _ hgone => hgone) fun statement node place => ?_⟩
        rintro (hpassed | hhandler) hnext
        · exact .inl (hpassed.trans hnext)
        · exact .inr hhandler

/-- A resource with `const action = () => action()` for both handlers. -/
def recursiveResource : Module where
  path := "routes/notes.tsx"
  body :=
    let arrow := .make (.arrowFunction { params := .make (.parameters [] none), body := callOf (variableOf "action") [] })
    [.make (.variableDeclaration "const" [.make (.declarator (variableOf "action") (some arrow) none)]),
      .make (.exportNamed { specifiers := [{ localName := "action", renamed := some "loader" }] })]

lemma recursiveResource_losesDeclaration : LosesDeclaration defaultSettings recursiveResource := by
  refine ⟨_, _, _, ⟨rfl, rfl, ⟨rfl, rfl⟩, rfl⟩, ⟨fun index statement hget hother => ?_, by decide, by decide⟩, _, rfl,
    by decide +kernel⟩
  match index with
  | 0 => exact absurd rfl hother
  | 1 =>
    cases hget
    decide +kernel
  | index + 2 => cases hget

/-- The descriptor refers to the function that has moved into it. -/
theorem recursiveResource_descriptorPlace : ∃ migrated properties, migrate defaultSettings recursiveResource = .ok migrated ∧
    LosesDeclaration defaultSettings recursiveResource ∧ Dangling recursiveResource properties migrated.module.body ∧
    "action" ∉ migrated.module.declaredNames := by
  obtain ⟨migrated, hmigrated, hcheck⟩ := exists_of_any_toOption
    (show (migrate defaultSettings recursiveResource).toOption.any (fun migrated =>
      decide (migrated.outcome = .finalized .resource "/notes"
        ["action is still used elsewhere in this module; its json() calls were not unwrapped"]) &&
        decide ("action" ∉ migrated.module.declaredNames)) = true by
      decide +kernel)
  rw [Bool.and_eq_true, decide_eq_true_iff, decide_eq_true_iff] at hcheck
  obtain ⟨hfinal, hgone⟩ := hcheck
  obtain ⟨properties, -, -, -, -, -, -, -, hdangling, -⟩ := migrate_descriptorPlace hmigrated hfinal
  exact ⟨migrated, properties, hmigrated, recursiveResource_losesDeclaration,
    hdangling recursiveResource_losesDeclaration, hgone⟩

end RouteMigration.Proofs
