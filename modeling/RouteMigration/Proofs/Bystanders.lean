import RouteMigration.Proofs.Finishing

/-!
# Bystanders

A migration has its hands on imports, on lists of exports, on the statement of the default export and on
those of the handlers. All other statements come through each of its stages as they are and in their order.
-/

namespace RouteMigration.Proofs
open Syntax Route

/-- Neither an import nor a list of exports. -/
def isBystander (statement : Node) : Bool :=
  match statement.form with
  | .importDeclaration _ => false
  | .exportNamed form => form.declaration.isSome
  | _ => true

/-- The indexes of the statements that make the default export and declare the handlers. -/
def sitesOf (module : Module) : List Nat :=
  (findDefaultExport module).toList.map siteOf ++ (handlersOf module).map (·.statement)

/-- The statements that a migration is not about, in order. -/
def bystanders (module : Module) : List Node :=
  (module.body.zipIdx.filter fun (statement, index) =>
    isBystander statement && !(sitesOf module).contains index).map Prod.fst

lemma isBystander_of_import {statement : Node} (h : (import? statement).isSome) : isBystander statement = false := by
  obtain ⟨form, hform⟩ := import?_isSome h
  rw [isBystander, hform]

lemma isBystander_of_list {statement : Node} {form : ExportForm Node} (hform : statement.form = .exportNamed form)
    (hdeclaration : form.declaration = none) : isBystander statement = false := by
  rw [isBystander, hform]
  exact congrArg Option.isSome hdeclaration

lemma isBystander_of_isEmptied {statement : Node} (h : isEmptied statement = true) :
    isBystander statement = false := by
  obtain ⟨form, hform, hdeclaration, -⟩ := isEmptied_eq_true h
  exact isBystander_of_list hform hdeclaration

/-! ### Entries of bystanders -/

/-- Whether entries of the origin stand for a statement at none of the sites. -/
def isOffSite (sites : List Nat) : Origin → Bool
  | .statement index => !sites.contains index
  | _ => false

/-- The bystander that an entry stands for. -/
def standing (sites : List Nat) (entry : Entry) : List Node :=
  if isBystander entry.node && isOffSite sites entry.origin then [entry.node] else []

section Standing

variable {sites : List Nat} {entry : Entry}

lemma isOffSite_statement {site : Nat} (h : site ∈ sites) : isOffSite sites (.statement site) = false := by
  simpa [isOffSite] using h

lemma standing_of_site (h : isOffSite sites entry.origin = false) : standing sites entry = [] := by
  rw [standing, h, Bool.and_false]
  rfl

lemma standing_of_mover (h : isBystander entry.node = false) : standing sites entry = [] := by
  rw [standing, h]
  rfl

lemma unlist_of_bystander (names : List String) {statement : Node} (h : isBystander statement = true) :
    unlist names statement = statement := by
  rcases unlist_cases names statement with hsame | ⟨form, hform, hdeclaration, -, -⟩
  · exact hsame
  · rw [isBystander_of_list hform hdeclaration] at h
    cases h

lemma isBystander_unlist (names : List String) (statement : Node) :
    isBystander (unlist names statement) = isBystander statement := by
  rcases unlist_cases names statement with hsame | ⟨form, hform, hdeclaration, -, hunlist⟩
  · rw [hsame]
  · have hlist : (withoutExports names form).declaration = none := hdeclaration
    rw [hunlist, isBystander_of_list (form_withForm ..) hlist, isBystander_of_list hform hdeclaration]

lemma standing_unlist (names : List String) : standing sites (reworked (unlist names) entry) = standing sites entry := by
  cases h : isBystander entry.node with
  | false =>
    have hunlist : isBystander (reworked (unlist names) entry).node = false := (isBystander_unlist ..).trans h
    rw [standing_of_mover h, standing_of_mover hunlist]
  | true => rw [reworked, unlist_of_bystander names h]

/-- A place with the same bystander as the entry, if that stands for one. -/
def SameStanding (sites : List Nat) (entry : Entry) (place : Option Entry) : Prop :=
  place.elim [] (standing sites) = standing sites entry

lemma SameStanding.flatMap {entries entries' : List Entry} (h : Edited (SameStanding sites) entries entries') :
    entries'.flatMap (standing sites) = entries.flatMap (standing sites) :=
  h.flatMap_eq (standing sites) fun _ _ _ hsame => hsame

/-- Nothing that becomes of an entry at one of the sites matters. -/
lemma sameStanding_of_site {place : Option Entry} (h : isOffSite sites entry.origin = false)
    (hplace : ∀ entry' ∈ place, entry'.origin = entry.origin) : SameStanding sites entry place := by
  rw [SameStanding, standing_of_site h]
  cases place with
  | none => rfl
  | some entry' =>
    refine standing_of_site ?_
    rwa [hplace entry' rfl]

lemma AttachStep.sameStanding {located : Located} {place : Option Entry} (h : AttachStep located entry place)
    (hsite : located.statement ∈ sites) : SameStanding sites entry place := by
  have hown (horigin : entry.origin = .statement located.statement) : isOffSite sites entry.origin = false := by
    rw [horigin]
    exact isOffSite_statement hsite
  cases h with
  | unlisted => exact standing_unlist _
  | own horigin _ =>
    refine sameStanding_of_site (hown horigin) fun entry' hentry' => ?_
    cases hentry'
    rfl
  | gone horigin => exact sameStanding_of_site (hown horigin) nofun

lemma DetachStep.sameStanding {fresh : String} {default : DefaultExport} {place : Option Entry}
    (h : DetachStep fresh default entry place) (hsite : siteOf default ∈ sites) : SameStanding sites entry place := by
  by_cases horigin : entry.origin = .statement (siteOf default)
  · have hown : isOffSite sites entry.origin = false := by
      rw [horigin]
      exact isOffSite_statement hsite
    refine sameStanding_of_site hown fun entry' hentry' => ?_
    rw [Option.mem_def.mp hentry'] at h
    exact h.origin
  · cases h with
    | other _ => rfl
    | erased hdefault hentry =>
      rw [hdefault] at horigin
      exact absurd hentry horigin
    | unlisted _ hentry => exact absurd hentry horigin
    | inlined hdefault hentry =>
      rw [hdefault] at horigin
      exact absurd hentry horigin

lemma Advised.sameStanding {origin? : Option Origin} {place : Option Entry} (h : Advised origin? entry place)
    (hsite : ∀ origin ∈ origin?, isOffSite sites origin = false) : SameStanding sites entry place := by
  cases h with
  | same => rfl
  | commented horigin =>
    refine sameStanding_of_site (hsite _ horigin.symm) fun entry' hentry' => ?_
    cases hentry'
    rfl

end Standing

/-! ### Drafts -/

variable {settings : Settings} {module : Module} {routePath : String} {sites : List Nat}

/-- The bystanders that a draft has, in order. -/
def standingIn (sites : List Nat) (draft : Draft) : List Node :=
  draft.entries.flatMap (standing sites)

lemma flatMap_singleton_of {α β : Type} (p : α → Bool) (f : α → β) (l : List α) :
    (l.flatMap fun a => if p a then [f a] else []) = (l.filter p).map f := by
  induction l with
  | nil => rfl
  | cons a l ih =>
    rw [List.flatMap_cons, ih]
    by_cases hp : p a = true
    · rw [if_pos hp, List.filter_cons_of_pos hp]
      rfl
    · rw [if_neg hp, List.filter_cons_of_neg hp]
      rfl

lemma standing_ofBody (module : Module) : standingIn (sitesOf module) (.ofBody module.body) = bystanders module := by
  rw [standingIn, Draft.ofBody, List.flatMap_map]
  exact flatMap_singleton_of _ Prod.fst module.body.zipIdx

lemma Attachment.standingIn_eq {kind : Kind} {draft : Draft} {key : String} {located : Located} {attached : Attached}
    (h : Attachment settings kind draft key located attached) (hsite : located.statement ∈ sites) :
    standingIn sites attached.draft = standingIn sites draft :=
  SameStanding.flatMap (h.edited.mono fun _ _ _ hstep => hstep.sameStanding hsite)

lemma Detachment.standingIn_eq {default : DefaultExport} {draft : Draft} {result : Draft × String}
    {before after : List Entry} {component? : Option Entry}
    (h : Detachment settings default draft result before after component?) (hsite : siteOf default ∈ sites) :
    standingIn sites result.1 = standingIn sites draft := by
  have hsame := SameStanding.flatMap (h.edited.mono fun _ _ _ hstep => hstep.sameStanding hsite)
  have hcomponent : component?.toList.flatMap (standing sites) = [] := by
    rw [List.flatMap_eq_nil_iff]
    intro entry hentry
    obtain ⟨_, _, _, _, _, -, rfl, -⟩ := h.component entry (Option.mem_toList.mp hentry)
    exact standing_of_site rfl
  rw [standingIn, h.entries, List.flatMap_append, List.flatMap_append, hcomponent, List.append_nil,
    ← List.flatMap_append]
  exact hsame

lemma site_mem_of_default {default : DefaultExport} (h : findDefaultExport module = some default) :
    siteOf default ∈ sitesOf module := by
  refine List.mem_append_left _ (List.mem_map_of_mem ?_)
  exact Option.mem_toList.mpr h

lemma site_mem_of_handler {located : Located} (h : located ∈ handlersOf module) :
    located.statement ∈ sitesOf module :=
  List.mem_append_right _ (List.mem_map_of_mem h)

theorem page_standing {default : DefaultExport} {loader : Located} {draft : Draft}
    (hdefault : findDefaultExport module = some default) (hloader : locate module.body "loader" = some loader)
    (h : migratePage settings module routePath default loader (locate module.body "action") = .ok draft) :
    standingIn (sitesOf module) draft = bystanders module := by
  obtain ⟨attached, entries, hattach, hadvised, hdraft⟩ := migratePage_advised h
  obtain ⟨before, after, component?, hdetach⟩ := detachDefault_eq settings (.ofBody module.body) default
  have hsite : loader.statement ∈ sitesOf module :=
    site_mem_of_handler (handler_of_locate (.inl rfl) hloader)
  have haction : ∀ origin ∈ (locate module.body "action").map fun located => Origin.statement located.statement,
      isOffSite (sitesOf module) origin = false := by
    intro origin horigin
    obtain ⟨action, hlocate, rfl⟩ := Option.map_eq_some_iff.mp horigin
    exact isOffSite_statement (site_mem_of_handler (handler_of_locate (.inr rfl) hlocate))
  calc standingIn (sitesOf module) draft
    _ = entries.flatMap (standing (sitesOf module)) := by
      rw [standingIn, hdraft, flatMap_insert (standing_of_site rfl), List.append_nil]
    _ = standingIn (sitesOf module) attached.draft :=
      SameStanding.flatMap (hadvised.mono fun _ _ _ hstep => hstep.sameStanding haction)
    _ = bystanders module := by
      rw [hattach.standingIn_eq hsite, hdetach.standingIn_eq (site_mem_of_default hdefault), standing_ofBody]

theorem resource_standing {handlers : List (String × Located)} {draft : Draft} (hne : handlers ≠ [])
    (hhandlers : ∀ handler ∈ handlers, handler.2 ∈ handlersOf module)
    (h : migrateResource settings module routePath handlers = .ok draft) :
    standingIn (sitesOf module) draft = bystanders module := by
  obtain ⟨first, gap, attached, hrun, rfl⟩ := migrateResource_eq_ok hne h
  have hstart : standingIn (sitesOf module) ((Draft.ofBody module.body).insertBefore (.statement first)
      ⟨.descriptor, withGap gap (resourceDescriptor settings routePath [])⟩) = bystanders module := by
    obtain ⟨before, after, hsplit, hinsert⟩ := entries_insertBefore (.ofBody module.body) (.statement first)
      ⟨.descriptor, withGap gap (resourceDescriptor settings routePath [])⟩
    rw [standingIn, hinsert, flatMap_insert (standing_of_site rfl), ← hsplit]
    exact standing_ofBody module
  have hsites : ∀ site ∈ handlers.map (·.2.statement), site ∈ sitesOf module := by
    intro site hsite
    obtain ⟨handler, hhandler, rfl⟩ := List.mem_map.mp hsite
    exact site_mem_of_handler (hhandlers handler hhandler)
  obtain ⟨properties, hdistinct, hstanding, -⟩ := attachAll_run
    (P := fun draft _ rest => Distinct draft ∧ standingIn (sitesOf module) draft = bystanders module ∧
      ∀ site ∈ rest.map (·.2.statement), site ∈ sitesOf module)
    (fun _ _ _ located rest _ gap ⟨hdistinct, hstanding, hsites⟩ hattach => by
      refine ⟨distinct_modify (hattach.distinct hdistinct) _ _, ?_, ?_⟩
      · rw [standingIn, flatMap_withDescriptor fun _ => standing_of_site rfl]
        exact (hattach.standingIn_eq (hsites _ (List.mem_cons_self ..))).trans hstanding
      · rw [handOver_statements]
        exact fun site hsite => hsites site (List.mem_cons_of_mem _ hsite))
    ⟨distinct_start module.body first _, hstart, hsites⟩ hrun
  rw [standingIn, flatMap_settleDescriptor (fun _ => standing_of_site rfl) hdistinct]
  exact hstanding

/-- A draft has the bystanders of its module as they were. -/
theorem Drafting.standingIn_eq {kind : Kind} {draft : Draft} (h : Drafting settings module routePath kind draft) :
    standingIn (sitesOf module) draft = bystanders module := by
  cases h with
  | page _ hdefault hloader hpage => exact page_standing hdefault hloader hpage
  | resource _ _ hhandlers hresource => exact resource_standing hhandlers (fun _ => mem_handlersOf) hresource

end RouteMigration.Proofs
