import RouteMigration.Proofs.FailingAttachments

/-!
# Migrations that fail

The migration of a page does not fail. That of a resource fails at the second handler if at all, and only if both
handlers are one variable or function that no other statement uses.
-/

namespace RouteMigration.Proofs
open Syntax Route

variable {settings : Settings} {module : Module} {routePath : String} {fault : Draft.Fault}

/-! ### Pages -/

/-- The statement of the loader stays when the default export is detached. -/
lemma Detachment.exists_entry {default : DefaultExport} {result : Draft × String} {before after : List Entry}
    {component? : Option Entry}
    (h : Detachment settings default (.ofBody module.body) result before after component?)
    (hdefault : findDefaultExport module = some default) {index : Nat} {statement : Node}
    (hget : module.body[index]? = some statement) (hvalues : DeclaresValues statement) :
    ∃ entry ∈ result.1.entries, entry.origin = .statement index := by
  have hentry : ⟨.statement index, statement⟩ ∈ (Draft.ofBody module.body).entries := mem_ofBody.mpr ⟨index, rfl, hget⟩
  rcases h.edited.fate hentry with hgone | ⟨entry', hentry', hstep⟩
  · cases hgone with
    | @erased _ site _ hreferenced horigin =>
      -- the statement that goes exports the name of a binding and declares nothing
      obtain rfl : index = site := Origin.statement.inj horigin
      obtain ⟨found, hfound, hat⟩ := mem_defaultExports.mp (List.mem_of_getLast? hdefault)
      rw [hreferenced, siteOf] at hfound hat
      obtain rfl := Option.some.inj (hget.symm.trans hfound)
      obtain ⟨form, hform, hvalue⟩ := hvalues
      cases hat with
      | named hdefaultForm _ =>
        have hplain : ∀ form, statement.form ≠ .exportNamed form := by
          intro form hexport
          cases hdefaultForm.symm.trans hexport
        rw [declared?_other hplain, hdefaultForm] at hform
        obtain rfl := Option.some.inj hform
        cases hvalue
  · exact ⟨entry', h.mem.mpr (.inl hentry'), hstep.origin⟩

lemma exists_migratePage {default : DefaultExport} {loader : Located}
    (hdefault : findDefaultExport module = some default) (hloader : locate module.body "loader" = some loader)
    (action : Option Located) : ∃ draft, migratePage settings module routePath default loader action = .ok draft := by
  obtain ⟨-, -, statement, form, hget, hform, hby⟩ := locate_eq_some hloader
  obtain ⟨before, after, component?, hdetach⟩ := detachDefault_eq settings (.ofBody module.body) default
  obtain ⟨entry, hentry, horigin⟩ := hdetach.exists_entry hdefault hget ⟨form, hform, hby.isValueDeclaration⟩
  have hremoved : (detachDefault settings (.ofBody module.body) default).1.removed = [] := hdetach.removed
  obtain ⟨attached, hattach⟩ := @exists_attach settings module .page _ "loader" loader hby.hasBody entry hentry horigin
    (by simp [hremoved])
  rw [migratePage]
  dsimp only
  rw [hattach]
  cases action <;> exact ⟨_, rfl⟩

/-! ### Resources -/

/-- The loader and the action are one variable or function of a statement. -/
structure Twins (module : Module) (loader action : Located) (statement : Node) : Prop where
  locateLoader : locate module.body "loader" = some loader
  locateAction : locate module.body "action" = some action
  same : SameDeclaration loader action
  statementAt : module.body[loader.statement]? = some statement

lemma takeOver_of_same {first second : Located} (h : SameDeclaration first second) (source : Node) :
    second.takeOver first source = { second with function := source } := by
  rw [Located.takeOver, h.1, h.2]
  simp

lemma takeOver_of_differ {first second : Located} (h : ¬ SameDeclaration first second) (source : Node) :
    second.takeOver first source = second := by
  rw [Located.takeOver]
  exact if_neg fun hsame => h (by simpa [SameDeclaration] using hsame)

lemma attachAll_nil (draft : Draft) (properties : List Node) :
    attachAll settings module routePath draft properties [] = .ok draft := by
  rw [attachAll]
  rfl

lemma attachAll_singleton_eq_error_iff {draft : Draft} {properties : List Node} {key : String} {located : Located} :
    attachAll settings module routePath draft properties [(key, located)] = .error fault ↔
      attach settings module .resource draft key located = .error fault := by
  rw [attachAll_cons]
  refine except_bind_eq_error_iff fun attached _ herror => ?_
  rw [handOver, attachAll_nil] at herror
  cases herror

lemma attachAll_pair_eq_error_iff {gap : Option String} {site : Nat} {loader action : Located}
    (hloader : locate module.body "loader" = some loader) (haction : locate module.body "action" = some action) :
    attachAll settings module routePath (openDraft settings module routePath gap site) []
        [("GET", loader), ("POST", action)] = .error fault ↔
      ∃ statement, Twins module loader action statement ∧ UnusedBeside settings module loader ∧
        FailsTwice settings loader action statement fault := by
  obtain ⟨attached, hattach⟩ := @exists_attach_first settings module "loader" routePath gap site loader hloader "GET"
  have hattachment := attach_eq_ok hattach
  obtain ⟨-, -, statement, -, hget, -, -⟩ := locate_eq_some hloader
  rw [attachAll_cons, hattach]
  change attachAll settings module routePath _ _ [("POST", action.takeOver loader attached.source)] = _ ↔ _
  rw [attachAll_singleton_eq_error_iff]
  by_cases hsame : SameDeclaration loader action
  · rw [takeOver_of_same hsame]
    refine (attach_second_eq_error_iff hloader haction hsame hget hattachment _ _).trans ?_
    constructor
    · rintro ⟨hunused, hfails⟩
      exact ⟨statement, ⟨hloader, haction, hsame, hget⟩, hunused, hfails⟩
    · rintro ⟨found, htwins, hunused, hfails⟩
      obtain rfl := Option.some.inj (hget.symm.trans htwins.statementAt)
      exact ⟨hunused, hfails⟩
  · rw [takeOver_of_differ hsame]
    obtain ⟨result, hresult⟩ := exists_attach_second hloader haction hsame hattachment
      (((openDraft settings module routePath gap site).find? .descriptor).bind (·.info.gap)) [attached.property] "POST"
    refine iff_of_false (fun herror => ?_) fun ⟨_, htwins, _⟩ => hsame htwins.same
    cases hresult.symm.trans herror

/-- Attaching the handlers of a resource fails only at the second of two that are one. -/
lemma attachAll_eq_error_iff {gap : Option String} {site : Nat} :
    attachAll settings module routePath (openDraft settings module routePath gap site) []
        (methodsOf (locate module.body "loader") (locate module.body "action")) = .error fault ↔
      ∃ loader action statement, Twins module loader action statement ∧ UnusedBeside settings module loader ∧
        FailsTwice settings loader action statement fault := by
  have hsingle {key : String} {located : Located} (hlocate : locate module.body key = some located) (method : String) :
      attachAll settings module routePath (openDraft settings module routePath gap site) [] [(method, located)] ≠
        .error fault := by
    obtain ⟨attached, hattach⟩ := @exists_attach_first settings module key routePath gap site located hlocate method
    rw [Ne, attachAll_singleton_eq_error_iff, hattach]
    nofun
  cases hloader : locate module.body "loader" with
  | none =>
    refine iff_of_false ?_ fun ⟨_, _, _, htwins, _⟩ => by cases hloader.symm.trans htwins.locateLoader
    cases haction : locate module.body "action" with
    | none =>
      change attachAll settings module routePath _ _ [] ≠ _
      rw [attachAll_nil]
      nofun
    | some action => exact hsingle haction "POST"
  | some loader =>
    cases haction : locate module.body "action" with
    | none =>
      refine iff_of_false (hsingle hloader "GET") fun ⟨_, _, _, htwins, _⟩ => ?_
      cases haction.symm.trans htwins.locateAction
    | some action =>
      refine (attachAll_pair_eq_error_iff hloader haction).trans ⟨fun ⟨statement, h⟩ => ⟨_, _, statement, h⟩, ?_⟩
      rintro ⟨loader', action', statement, htwins, h⟩
      obtain rfl := Option.some.inj (hloader.symm.trans htwins.locateLoader)
      obtain rfl := Option.some.inj (haction.symm.trans htwins.locateAction)
      exact ⟨statement, htwins, h⟩

lemma migrateResource_eq {handlers : List (String × Located)} (hne : handlers ≠ []) :
    ∃ gap site, migrateResource settings module routePath handlers = settleDescriptor <$>
      attachAll settings module routePath (openDraft settings module routePath gap site) [] handlers := by
  unfold migrateResource
  dsimp only
  split
  · rename_i hfirst
    rw [List.min?_eq_none_iff, List.map_eq_nil_iff] at hfirst
    exact absurd hfirst hne
  · exact ⟨_, _, rfl⟩

/-! ### Modules -/

/-- The draft of a module that is a resource. -/
lemma draftOf_of_resource (hdeclares : declaresAny module settings.descriptorNames = false)
    (hdefault : findDefaultExport module = none)
    (hhandlers : methodsOf (locate module.body "loader") (locate module.body "action") ≠ []) :
    draftOf settings module routePath = (fun draft => .ok (.resource, draft)) <$>
      migrateResource settings module routePath
        (methodsOf (locate module.body "loader") (locate module.body "action")) := by
  have hsome : (methodsOf (locate module.body "loader") (locate module.body "action")).isEmpty = false := by
    simp [hhandlers]
  unfold draftOf
  rw [if_neg (by simp [hdeclares]), hdefault]
  dsimp only
  rw [hsome]
  rfl

/-- A draft fails only as that of a resource, where its handlers cannot be attached. -/
lemma draftOf_eq_error_iff : draftOf settings module routePath = .error fault ↔
    declaresAny module settings.descriptorNames = false ∧ findDefaultExport module = none ∧
      migrateResource settings module routePath
        (methodsOf (locate module.body "loader") (locate module.body "action")) = .error fault := by
  by_cases hdeclares : declaresAny module settings.descriptorNames = true
  · rw [draftOf, if_pos hdeclares]
    refine iff_of_false (fun herror => ?_) (by simp [hdeclares])
    cases herror
  · rw [Bool.not_eq_true] at hdeclares
    cases hdefault : findDefaultExport module with
    | some default =>
      refine iff_of_false (fun herror => ?_) (by simp)
      rw [draftOf, if_neg (by simp [hdeclares]), hdefault] at herror
      cases hloader : locate module.body "loader" with
      | none =>
        rw [hloader] at herror
        cases herror
      | some loader =>
        obtain ⟨draft, hpage⟩ := @exists_migratePage settings module routePath default loader hdefault hloader
          (locate module.body "action")
        rw [hloader] at herror
        dsimp only at herror
        rw [hpage] at herror
        cases herror
    | none =>
      by_cases hhandlers : methodsOf (locate module.body "loader") (locate module.body "action") = []
      · rw [draftOf, if_neg (by simp [hdeclares]), hdefault]
        dsimp only
        rw [hhandlers]
        refine iff_of_false (fun herror => ?_) fun herror => ?_
        · cases herror
        · cases herror.2.2
      · rw [draftOf_of_resource hdeclares hdefault hhandlers]
        simp only [hdeclares, true_and]
        exact except_map_eq_error_iff

/-- The module is a resource, and one declaration is both of its handlers, which no other statement uses. -/
structure SharedHandler (settings : Settings) (module : Module) (loader action : Located) (statement : Node) :
    Prop where
  undeclared : declaresAny module settings.descriptorNames = false
  noDefault : findDefaultExport module = none
  twins : Twins module loader action statement
  unused : UnusedBeside settings module loader

/-- A migration fails exactly when the handlers of a resource are one declaration that nothing else uses, and this
cannot be taken out twice. -/
theorem migrate_eq_error_iff : migrate settings module = .error fault ↔
    ∃ loader action statement, SharedHandler settings module loader action statement ∧
      FailsTwice settings loader action statement fault := by
  have hdraft : migrate settings module = .error fault ↔
      draftOf settings module (RoutePath.ofFile module.path settings.routesRoot) = .error fault := by
    rw [migrate]
    refine except_bind_eq_error_iff fun drafted _ herror => ?_
    rcases drafted with ⟨kind?, reason⟩ | ⟨kind, draft⟩
    · cases herror
    · cases herror
  rw [hdraft, draftOf_eq_error_iff]
  by_cases hhandlers : methodsOf (locate module.body "loader") (locate module.body "action") = []
  · rw [hhandlers]
    refine iff_of_false (fun herror => ?_) fun herror => ?_
    · cases herror.2.2
    · obtain ⟨loader, action, statement, hshared, -⟩ := herror
      rw [hshared.twins.locateLoader, hshared.twins.locateAction] at hhandlers
      cases hhandlers
  · obtain ⟨gap, site, hrun⟩ := @migrateResource_eq settings module
      (RoutePath.ofFile module.path settings.routesRoot) _ hhandlers
    rw [hrun, except_map_eq_error_iff, attachAll_eq_error_iff]
    constructor
    · rintro ⟨hdeclares, hdefault, loader, action, statement, htwins, hunused, hfails⟩
      exact ⟨loader, action, statement, ⟨hdeclares, hdefault, htwins, hunused⟩, hfails⟩
    · rintro ⟨loader, action, statement, hshared, hfails⟩
      exact ⟨hshared.undeclared, hshared.noDefault, loader, action, statement, hshared.twins, hshared.unused, hfails⟩

end RouteMigration.Proofs
