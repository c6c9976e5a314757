import RouteMigration.Proofs.KeptVariables

/-!
# Neighbours that are lost

Every variable of a module that is no handler is still there when the module is migrated, with one exception: a
variable that is both the loader and the action of a resource is taken out twice, and the second time its statement
goes with the one neighbour that it has.
-/

namespace RouteMigration.Proofs
open Syntax Route

variable {settings : Settings} {module : Module} {routePath : String}

/-- What is awaited stays when a standing handler is attached, perhaps in other places. -/
lemma Attachment.exists_awaited {kind : Kind} {draft : Draft} {key : String} {located : Located} {attached : Attached}
    {p : Nat → Nat → Bool} {others : List (String × Node)}
    (h : Attachment settings kind draft key located attached) (hready : Attachable module draft located)
    (hstanding : Standing draft located)
    (hclosed : ∀ index, located.shape = .variable index →
      p located.statement (placeLeft draft located index) = false)
    (hawaited : draft.entries.flatMap (awaited p) = others) :
    ∃ p', attached.draft.entries.flatMap (awaited p') = others := by
  rcases h.awaited_eq hready.distinct hready.values hstanding hclosed with ⟨-, hsame⟩ | ⟨index, -, -, hsame⟩
  · exact ⟨_, hsame.trans hawaited⟩
  · exact ⟨_, hsame.trans hawaited⟩

/-! ### Pages -/

lemma DetachStep.awaited_stays {fresh : String} {default : DefaultExport} {entry : Entry} {place : Option Entry}
    {p : Nat → Nat → Bool} (h : DetachStep fresh default entry place)
    (herased : place = none → variablesOf entry.node = []) :
    (awaited p entry).Sublist (place.elim [] (awaited p)) := by
  cases h with
  | other _ => exact List.Sublist.refl _
  | erased _ _ =>
    have hnone := @awaited_sublist p entry
    rwa [herased rfl] at hnone
  | @unlisted place _ _ =>
    have hsame : awaited p (reworked (eraseSpecifier place) entry) = awaited p entry :=
      awaited_congr rfl (declared?_eraseSpecifier ..)
    rw [Option.elim_some, hsame]
  | inlined _ _ =>
    rcases exportDefault_or_other entry.node with ⟨declaration, hform⟩ | hother
    · -- a default export has no variables, whatever it becomes
      have hnone := @awaited_sublist p entry
      rw [variablesOf_exportDefault hform] at hnone
      exact hnone.trans (List.nil_sublist _)
    · rw [Option.elim_some, reworked, inlineStatement_other _ hother]

/-- Detaching the default export takes no variable away. -/
lemma Detachment.bystandingVariables_sublist {default : DefaultExport} {result : Draft × String} {before after : List Entry}
    {component? : Option Entry}
    (h : Detachment settings default (.ofBody module.body) result before after component?)
    (hdefault : findDefaultExport module = some default) :
    (bystandingVariables module).Sublist (result.1.entries.flatMap (awaited (openPlaces module))) := by
  have hkept : (before ++ after).Sublist result.1.entries := by
    rw [h.entries, List.append_assoc]
    exact (List.Sublist.refl _).append (List.sublist_append_right ..)
  rw [← awaited_ofBody]
  refine (h.edited.sublist_flatMap _ _ fun entry place hentry hstep => ?_).trans (hkept.flatMap _)
  refine hstep.awaited_stays fun hgone => ?_
  subst hgone
  cases hstep with
  | @erased _ site _ hreferenced horigin =>
    -- the statement that goes exports the name of a binding
    obtain ⟨index, hindex, hget⟩ := mem_ofBody.mp hentry
    obtain rfl : index = site := Origin.statement.inj (hindex.symm.trans horigin)
    obtain ⟨found, hfound, hat⟩ := mem_defaultExports.mp (List.mem_of_getLast? hdefault)
    rw [hreferenced, siteOf] at hfound hat
    obtain rfl := Option.some.inj (hget.symm.trans hfound)
    cases hat with
    | named hform _ => exact variablesOf_exportDefault hform

/-- The migration of a page takes no variable away that is no handler. -/
theorem page_variables {default : DefaultExport} {loader : Located} {action : Option Located} {draft : Draft}
    (hdefault : findDefaultExport module = some default) (hloader : locate module.body "loader" = some loader)
    (h : migratePage settings module routePath default loader action = .ok draft) :
    (bystandingVariables module).Sublist (draft.body.flatMap variablesOf) := by
  obtain ⟨attached, entries, hattach, hadvised, hdraft⟩ := migratePage_advised h
  obtain ⟨before, after, component?, hdetach⟩ := detachDefault_eq settings (.ofBody module.body) default
  have hready := hdetach.attachable hloader
  have hhandler := handler_of_locate (.inl rfl) hloader
  have hclosed (index : Nat) (hshape : loader.shape = .variable index) :
      openPlaces module loader.statement (placeLeft (detachDefault settings (.ofBody module.body) default).1 loader
        index) = false := by
    rw [placeLeft_of_removed_nil hdetach.removed]
    exact openPlaces_eq_false hhandler hshape
  obtain ⟨p, hattached⟩ := hattach.exists_awaited hready (hdetach.standing hloader) hclosed rfl
  have hshown : (attached.draft.entries.flatMap (awaited p)).Sublist (entries.flatMap (variablesOf ·.node)) := by
    refine hadvised.sublist_flatMap _ _ fun entry place _ hstep => ?_
    obtain ⟨entry', rfl, -, hform⟩ := hstep.sameForm
    rw [Option.elim_some, variablesOf_congr (declared?_congr hform)]
    exact awaited_sublist entry
  refine (hdetach.bystandingVariables_sublist hdefault).trans ?_
  rw [← hattached, Draft.body, hdraft, List.flatMap_map, List.flatMap_append]
  exact hshown.trans (List.sublist_append_left ..)

/-! ### Resources -/

section Resource

variable {gap : Option String} {site : Nat} {loader action : Located} {attached : Attached}

lemma awaited_openDraft : (openDraft settings module routePath gap site).entries.flatMap (awaited (openPlaces module)) =
    bystandingVariables module := by
  obtain ⟨before, after, hsplit, hinsert⟩ := entries_insertBefore (.ofBody module.body) (.statement site)
    ⟨.descriptor, withGap gap (resourceDescriptor settings routePath [])⟩
  rw [← awaited_ofBody, hinsert, hsplit, flatMap_insert rfl]

lemma awaited_withDescriptor {draft : Draft} {p : Nat → Nat → Bool} (gap : Option String) (properties : List Node) :
    (withDescriptor settings routePath gap properties draft).entries.flatMap (awaited p) =
      draft.entries.flatMap (awaited p) :=
  flatMap_withDescriptor (fun _ => rfl) gap properties draft

/-- What the first attachment leaves of the variables of the module. -/
lemma Attachment.awaited_first {name : String} (hname : name = "loader" ∨ name = "action") {located : Located}
    (hlocate : locate module.body name = some located) {key : String}
    (h : Attachment settings .resource (openDraft settings module routePath gap site) key located attached) :
    (attached.draft.removed = [] ∧
      attached.draft.entries.flatMap (awaited (openPlaces module)) = bystandingVariables module) ∨
    ∃ index, located.shape = .variable index ∧ attached.draft.removed = [(located.statement, index)] ∧
      attached.draft.entries.flatMap (awaited (shifted (openPlaces module) located.statement index)) =
        bystandingVariables module := by
  have hrunning := @running_start settings module routePath [(key, located)] (by simpa using ⟨name, hlocate⟩) site gap
  have hcases := h.awaited_eq (p := openPlaces module) hrunning.distinct hrunning.own (standing_start hlocate)
    fun index hshape => openPlaces_eq_false (handler_of_locate hname hlocate) hshape
  rwa [awaited_openDraft] at hcases

/-- The second attachment of another declaration takes no more variables away. -/
lemma Attachment.awaited_second {key : String} {result : Attached} (hloader : locate module.body "loader" = some loader)
    (haction : locate module.body "action" = some action) (hdiffer : ¬ SameDeclaration loader action)
    (h : Attachment settings .resource (openDraft settings module routePath gap site) key loader attached)
    (gap' : Option String) (properties : List Node) {method : String}
    (h' : Attachment settings .resource (withDescriptor settings routePath gap' properties attached.draft) method action
      result) : ∃ p, result.draft.entries.flatMap (awaited p) = bystandingVariables module := by
  have hready := attachable_second hloader haction h gap' properties
  rw [takeOver_of_differ hdiffer] at hready
  have hrunning := @running_start settings module routePath [(key, loader)] (by simpa using ⟨"loader", hloader⟩) site gap
  have hstanding : Standing (withDescriptor settings routePath gap' properties attached.draft) action :=
    ((h.standing rfl hrunning.own (standing_start haction)).resolve_right hdiffer).withDescriptor gap' properties
  have hhandler := handler_of_locate (.inr rfl) haction
  obtain ⟨p, hawaited, hclosed⟩ : ∃ p, attached.draft.entries.flatMap (awaited p) = bystandingVariables module ∧
      ∀ index, action.shape = .variable index → p action.statement (placeLeft attached.draft action index) = false := by
    rcases h.awaited_first (.inl rfl) hloader with ⟨hnil, hawaited⟩ | ⟨i, hi, hone, hawaited⟩
    · refine ⟨_, hawaited, fun j hj => ?_⟩
      rw [placeLeft_of_removed_nil hnil]
      exact openPlaces_eq_false hhandler hj
    · refine ⟨_, hawaited, fun j hj => ?_⟩
      rw [placeLeft_of_removed_singleton hone]
      by_cases hstatement : loader.statement = action.statement
      · have hne : i ≠ j := fun hsame => hdiffer ⟨hstatement.symm, by rw [hi, hj, hsame]⟩
        rw [hstatement, shifted, Function.update_self, Function.comp_apply]
        simp only [true_and, skip_of_ne hne]
        exact openPlaces_eq_false hhandler hj
      · rw [if_neg (fun hboth => hstatement hboth.1), shifted, Function.update_of_ne (Ne.symm hstatement)]
        exact openPlaces_eq_false hhandler hj
  exact h'.exists_awaited hready hstanding hclosed ((awaited_withDescriptor ..).trans hawaited)

/-- The other variable of a statement goes with a handler that is attached twice: the handler does not call itself, and
the statement declares no third variable. -/
def TakesNeighbour (settings : Settings) (located : Located) (statement : Node) : Prop :=
  ∃ handler, extract? settings .resource located = some handler ∧
    located.localName ∉ handler.value.referencedValues ∧ Draft.declaratorCount statement = 2

/-- A handler that no removal concerned stands after its own attachment. -/
lemma FirstAttached.standing {draft result : Draft} {located : Located} {statement : Node} {form : Form Node}
    (h : FirstAttached draft located statement result) (hnil : result.removed = []) (hdistinct : Distinct result)
    (hform : declared? statement = some form) (hby : DeclaredBy located form) : Standing result located := by
  refine standing_of_declaredBy hnil hby fun entry hmem horigin => ?_
  cases h with
  | @kept node _ _ hentry hdeclared =>
    rw [hdistinct.eq_of_origin hmem hentry horigin]
    exact hdeclared.trans hform
  | erased _ _ _ hgone => exact absurd horigin (hgone entry hmem)
  | trimmed _ hone _ _ _ => cases hnil.symm.trans hone

lemma Standing.of_sameDeclaration {draft : Draft} {first second : Located} (h : Standing draft first)
    (hsame : SameDeclaration first second) (hlocal : second.localName = first.localName) : Standing draft second := by
  obtain ⟨hstatement, hshape⟩ := hsame
  have hplace : placeLeft draft second = placeLeft draft first := by
    funext index
    rw [placeLeft, placeLeft, hstatement]
  unfold Standing
  rw [hstatement, hshape, hlocal, hplace]
  exact h

/-- What a handler leaves of its statement when its declarator is taken out. -/
lemma FirstAttached.of_removed {draft result : Draft} {located : Located} {statement : Node} {index : Nat}
    (h : FirstAttached draft located statement result) (hone : result.removed = [(located.statement, index)])
    (hshape : located.shape = .variable index) :
    ¬ UsedBeside draft located ∧ 1 < Draft.declaratorCount statement ∧
      ⟨.statement located.statement, Draft.eraseDeclarator index (unlist [located.name] statement)⟩ ∈
        result.entries := by
  cases h with
  | kept _ hnil _ _ => cases hnil.symm.trans hone
  | erased _ hnil _ _ => cases hnil.symm.trans hone
  | trimmed hunused _ hother hmany hentry =>
    obtain rfl := Shape.variable.inj (hshape.symm.trans hother)
    exact ⟨hunused, hmany, hentry⟩

lemma Distinct.length_flatMap {β : Type} {draft : Draft} (h : Distinct draft) {entry : Entry}
    (hentry : entry ∈ draft.entries) (view : Entry → List β) : (draft.entries.flatMap view).length =
      ((draft.erase entry.origin).entries.flatMap view).length + (view entry).length := by
  obtain ⟨before, after, hentries, herase⟩ := h.split hentry
  rw [herase, hentries, List.flatMap_append, List.flatMap_append, List.flatMap_cons]
  simp only [List.length_append]
  omega

lemma Twins.handlersOf_eq {statement : Node} (h : Twins module loader action statement) :
    handlersOf module = [loader, action] := by
  rw [handlersOf, h.locateLoader, h.locateAction]
  rfl

/-- When a variable is both handlers and goes, all places are open. -/
lemma Twins.shifted_openPlaces {statement : Node} (h : Twins module loader action statement) {index : Nat}
    (hshape : loader.shape = .variable index) :
    shifted (openPlaces module) loader.statement index = fun _ _ => true := by
  funext site place
  have hopen (place : Nat) (hother : site = loader.statement → place ≠ index) : openPlaces module site place = true := by
    rw [openPlaces, h.handlersOf_eq, List.all_cons, List.all_cons, List.all_nil, h.same.1, h.same.2, hshape]
    by_cases hsite : loader.statement = site
    · simp [hsite, Ne.symm (hother hsite.symm)]
    · simp [hsite]
  by_cases hsite : site = loader.statement
  · rw [hsite, shifted, Function.update_self, Function.comp_apply, ← hsite]
    exact hopen _ fun _ => skip_ne index place
  · rw [shifted, Function.update_of_ne hsite]
    exact hopen place fun hsame => absurd hsame hsite

/-- Where the first attachment takes no declarator out, there is no neighbour to take. -/
lemma FirstAttached.not_takesNeighbour {result : Draft} {statement : Node}
    (h : FirstAttached (openDraft settings module routePath gap site) loader statement result) (hnil : result.removed = [])
    (hloader : locate module.body "loader" = some loader) (hget : module.body[loader.statement]? = some statement) :
    ¬ (UnusedBeside settings module loader ∧ TakesNeighbour settings loader statement) := by
  rintro ⟨hunused, -, -, -, hcount⟩
  cases h with
  | kept hused _ _ _ => exact usedBeside_openDraft.mpr hunused hused
  | erased _ _ hfew _ =>
    have hle := declaratorCount_le_one hloader hget hfew
    omega
  | trimmed _ hone _ _ _ => cases hnil.symm.trans hone

/-- The place of a variable that has been taken out is not taken out again: the statement goes. -/
lemma Removal.erased_of_mem {draft result : Draft} {located : Located} (h : Removal located draft result) {index : Nat}
    (hshape : located.shape = .variable index) (hmem : (located.statement, index) ∈ draft.removed) {statement : Node}
    (hfind : draft.find? (.statement located.statement) = some statement) :
    result = draft.erase (.statement located.statement) ∧ Draft.declaratorCount statement ≤ 1 := by
  cases h with
  | erased hresult hfew => exact ⟨hresult, hfew index statement hshape hfind⟩
  | @trimmed other _ hother _ _ hfresh _ =>
    obtain rfl := Shape.variable.inj (hshape.symm.trans hother)
    exact absurd hmem hfresh

/-- A statement that goes with one variable takes that one. -/
lemma length_awaited_erase {draft : Draft} (h : Distinct draft) {site : Nat} {statement : Node}
    (hmem : ⟨.statement site, statement⟩ ∈ draft.entries) (hcount : Draft.declaratorCount statement = 1) :
    ((draft.erase (.statement site)).entries.flatMap (awaited fun _ _ => true)).length + 1 =
      (draft.entries.flatMap (awaited fun _ _ => true)).length := by
  have hown : (awaited (fun _ _ => true) ⟨.statement site, statement⟩).length = 1 := by
    rw [awaited_of_statement (by rfl), admitted_true, length_variablesOf, hcount]
  rw [h.length_flatMap hmem, hown]

/-- The second attachment of a declaration takes no more variables away, or it takes the neighbour. -/
lemma Attachment.awaited_again {statement : Node} (htwins : Twins module loader action statement) {key : String}
    {result : Attached}
    (h : Attachment settings .resource (openDraft settings module routePath gap site) key loader attached)
    (gap' : Option String) {method : String}
    (h' : Attachment settings .resource (withDescriptor settings routePath gap' [attached.property] attached.draft)
      method { action with function := attached.source } result) :
    (¬ (UnusedBeside settings module loader ∧ TakesNeighbour settings loader statement) ∧
      ∃ p, result.draft.entries.flatMap (awaited p) = bystandingVariables module) ∨
    ((UnusedBeside settings module loader ∧ TakesNeighbour settings loader statement) ∧
      (result.draft.entries.flatMap (awaited fun _ _ => true)).length + 1 = (bystandingVariables module).length) := by
  obtain ⟨hloader, haction, hsame, hget⟩ := id htwins
  obtain ⟨-, -, found, form, hfound, hform, hby⟩ := locate_eq_some hloader
  obtain rfl := Option.some.inj (hget.symm.trans hfound)
  have hlocal := localName_of_sameDeclaration hloader haction hsame
  have hready := attachable_second hloader haction h gap' [attached.property]
  rw [takeOver_of_same hsame] at hready
  set next : Located := { action with function := attached.source } with hnext
  have hstatement : next.statement = loader.statement := hsame.1
  have hstart := distinct_start module.body site (withGap gap (resourceDescriptor settings routePath []))
  have hfirst := h.first hby.hasBody hstart rfl (mem_openDraft hget) ⟨form, hform, hby.isValueDeclaration⟩
  rcases h.awaited_first (.inl rfl) hloader with ⟨hnil, hawaited⟩ | ⟨index, hshape, hone, hawaited⟩
  · -- no declarator has been taken out, so that the second attachment finds the places of the module
    refine .inl ⟨hfirst.not_takesNeighbour hnil hloader hget, ?_⟩
    have hstanding : Standing attached.draft next :=
      (hfirst.standing hnil (h.distinct hstart) hform hby).of_sameDeclaration hsame hlocal
    refine h'.exists_awaited hready (hstanding.withDescriptor gap' _) (fun index hshape => ?_)
      ((awaited_withDescriptor ..).trans hawaited)
    have hplace : placeLeft (withDescriptor settings routePath gap' [attached.property] attached.draft) next index =
        index := placeLeft_of_removed_nil hnil next index
    rw [hplace]
    exact openPlaces_eq_false (handler_of_locate (.inr rfl) haction) hshape
  · -- the variable of the handlers is gone, and every place is open
    rw [htwins.shifted_openPlaces hshape, ← @awaited_withDescriptor settings routePath attached.draft _ gap'
      [attached.property]] at hawaited
    obtain ⟨hunused, hmany, hentry⟩ := hfirst.of_removed hone hshape
    obtain ⟨handler, hhandler, -⟩ := exists_extract hby.hasBody settings .resource
    have hagain := usedBeside_again hunused h hhandler gap' hstatement hlocal
    cases h' with
    | kept hused hf hentries _ _ _ hsource =>
      refine .inl ⟨?_, _, by rw [hentries, hf.awaited_eq hready.values, hawaited]⟩
      rintro ⟨-, handler', hhandler', hfree, -⟩
      obtain rfl := Option.some.inj (hhandler.symm.trans hhandler')
      rcases hused with hused | hnone
      · exact hfree (hagain.mp hused)
      · obtain ⟨_, hsome, -⟩ := @exists_extract next (hasBody_source h hby.hasBody) settings .resource
        cases hsome.symm.trans hnone
    | moved hfree hextract hremoval hentries _ _ _ _ =>
      right
      have hfree : ¬ UsedBeside (withDescriptor settings routePath gap' [attached.property] attached.draft) next := by
        rw [UsedBeside, hfree]
        exact Bool.false_ne_true
      have hdistinct := distinct_mapNodes hready.distinct (unlist [next.name])
      have hpresent := mem_mapNodes (@mem_withDescriptor_of_statement settings _ routePath gap' _ _
        [attached.property] hentry) (unlist [next.name])
      have hmem : (next.statement, index) ∈ attached.draft.removed := by rw [hone, hstatement]; simp
      obtain ⟨hresult, hfew⟩ := hremoval.erased_of_mem (hsame.2.trans hshape) hmem
        (hstatement ▸ hdistinct.find? hpresent)
      have hleft : Draft.declaratorCount (unlist [next.name] (Draft.eraseDeclarator index (unlist [loader.name]
          statement))) = Draft.declaratorCount statement - 1 := by
        rw [declaratorCount_congr (declared?_unlist ..), declaratorCount_left hloader hget hshape hmany]
      have hcount : Draft.declaratorCount statement = 2 := by
        rw [hleft] at hfew
        omega
      refine ⟨⟨usedBeside_openDraft.mp hunused, handler, hhandler, fun hself => hfree (hagain.mpr hself), hcount⟩, ?_⟩
      rw [hentries, hresult, hstatement, length_awaited_erase hdistinct hpresent (by rw [hleft, hcount]),
        awaited_mapNodes_unlist, hawaited]

/-- One variable is both handlers, no other statement uses it, and taking it out twice takes its neighbour. -/
def LosesNeighbour (settings : Settings) (module : Module) : Prop :=
  ∃ loader action statement, Twins module loader action statement ∧ UnusedBeside settings module loader ∧
    TakesNeighbour settings loader statement

lemma losesNeighbour_iff (hloader : locate module.body "loader" = some loader)
    (haction : locate module.body "action" = some action) {statement : Node}
    (hget : module.body[loader.statement]? = some statement) :
    LosesNeighbour settings module ↔ SameDeclaration loader action ∧ UnusedBeside settings module loader ∧
      TakesNeighbour settings loader statement := by
  constructor
  · rintro ⟨loader', action', found, htwins, hlost⟩
    obtain rfl := Option.some.inj (hloader.symm.trans htwins.locateLoader)
    obtain rfl := Option.some.inj (haction.symm.trans htwins.locateAction)
    obtain rfl := Option.some.inj (hget.symm.trans htwins.statementAt)
    exact ⟨htwins.same, hlost⟩
  · rintro ⟨hsame, hlost⟩
    exact ⟨loader, action, statement, ⟨hloader, haction, hsame, hget⟩, hlost⟩

/-- The attachment of the only handler takes no other variable away. -/
lemma attachAll_single_variables {name key : String} (hname : name = "loader" ∨ name = "action") {located : Located}
    (hlocate : locate module.body name = some located) {result : Draft}
    (h : attachAll settings module routePath (openDraft settings module routePath gap site) [] [(key, located)] =
      .ok result) : ∃ p, result.entries.flatMap (awaited p) = bystandingVariables module := by
  obtain ⟨attached, gap', hattach, hrest⟩ := attachAll_cons_eq_ok h
  rw [attachAll_nil_eq_ok hrest]
  rcases hattach.awaited_first hname hlocate with ⟨-, hawaited⟩ | ⟨_, -, -, hawaited⟩
  · exact ⟨_, (awaited_withDescriptor ..).trans hawaited⟩
  · exact ⟨_, (awaited_withDescriptor ..).trans hawaited⟩

/-- Attaching the handlers of a resource takes no other variable away, or it takes the neighbour of a variable that is
both of them. -/
theorem attachAll_variables {result : Draft}
    (h : attachAll settings module routePath (openDraft settings module routePath gap site) []
      (methodsOf (locate module.body "loader") (locate module.body "action")) = .ok result) :
    (¬ LosesNeighbour settings module ∧ ∃ p, result.entries.flatMap (awaited p) = bystandingVariables module) ∨
    (LosesNeighbour settings module ∧
      (result.entries.flatMap (awaited fun _ _ => true)).length + 1 = (bystandingVariables module).length) := by
  cases hloader : locate module.body "loader" with
  | none =>
    have hnot : ¬ LosesNeighbour settings module := fun ⟨_, _, _, htwins, _⟩ => by
      cases hloader.symm.trans htwins.locateLoader
    refine .inl ⟨hnot, ?_⟩
    cases haction : locate module.body "action" with
    | none =>
      rw [hloader, haction] at h
      rw [attachAll_nil_eq_ok h]
      exact ⟨_, awaited_openDraft⟩
    | some action =>
      rw [hloader, haction] at h
      exact attachAll_single_variables (.inr rfl) haction h
  | some loader =>
    cases haction : locate module.body "action" with
    | none =>
      rw [hloader, haction] at h
      refine .inl ⟨fun ⟨_, _, _, htwins, _⟩ => ?_, attachAll_single_variables (.inl rfl) hloader h⟩
      cases haction.symm.trans htwins.locateAction
    | some action =>
      rw [hloader, haction] at h
      obtain ⟨fetched, gap₁, hattach, hrest⟩ := attachAll_cons_eq_ok h
      obtain ⟨posted, gap₂, hattach', hrest'⟩ := attachAll_cons_eq_ok hrest
      obtain ⟨-, -, statement, -, hget, -, -⟩ := locate_eq_some hloader
      rw [attachAll_nil_eq_ok hrest', losesNeighbour_iff hloader haction hget]
      by_cases hsame : SameDeclaration loader action
      · rw [takeOver_of_same hsame] at hattach'
        rcases hattach.awaited_again ⟨hloader, haction, hsame, hget⟩ gap₁ hattach' with
          ⟨hnot, p, hawaited⟩ | ⟨hlost, hlength⟩
        · exact .inl ⟨fun hboth => hnot hboth.2, p, (awaited_withDescriptor ..).trans hawaited⟩
        · exact .inr ⟨⟨hsame, hlost⟩, by rw [awaited_withDescriptor, hlength]⟩
      · rw [takeOver_of_differ hsame] at hattach'
        obtain ⟨p, hawaited⟩ := hattach.awaited_second hloader haction hsame gap₁ _ hattach'
        exact .inl ⟨fun hboth => hsame hboth.1, p, (awaited_withDescriptor ..).trans hawaited⟩

/-- The descriptor is the one variable that nothing awaited, where all places are open. -/
lemma length_variables {draft : Draft} (hdistinct : Distinct draft) {descriptor : Node}
    (hdescriptor : ⟨.descriptor, descriptor⟩ ∈ draft.entries) (hone : (variablesOf descriptor).length = 1)
    (hplain : ∀ entry ∈ draft.entries, entry.origin ≠ .component) :
    (draft.body.flatMap variablesOf).length = (draft.entries.flatMap (awaited fun _ _ => true)).length + 1 := by
  have hrest : (draft.erase .descriptor).entries.flatMap (variablesOf ·.node) =
      (draft.erase .descriptor).entries.flatMap (awaited fun _ _ => true) := by
    refine List.flatMap_congr fun entry hentry => ?_
    obtain ⟨hmem, hother⟩ := List.mem_filter.mp hentry
    cases horigin : entry.origin with
    | statement index => rw [awaited_of_statement horigin, admitted_true]
    | component => exact absurd horigin (hplain entry hmem)
    | descriptor => simp [horigin] at hother
  have hvariables := hdistinct.length_flatMap hdescriptor (variablesOf ·.node)
  have hawaited := hdistinct.length_flatMap hdescriptor (awaited fun _ _ => true)
  rw [Draft.body, List.flatMap_map, hvariables, hawaited, hrest, hone]
  rfl

/-- The migration of a resource takes a variable away that is no handler if and only if that is the neighbour of a
variable that is both handlers. -/
theorem resource_variables {draft : Draft} (hdeclares : declaresAny module settings.descriptorNames = false)
    (hne : methodsOf (locate module.body "loader") (locate module.body "action") ≠ [])
    (h : migrateResource settings module routePath
      (methodsOf (locate module.body "loader") (locate module.body "action")) = .ok draft) :
    (bystandingVariables module).Sublist (draft.body.flatMap variablesOf) ↔ ¬ LosesNeighbour settings module := by
  obtain ⟨properties, node, hdescriptor⟩ := resource_hasDescriptor hne h
  obtain ⟨first, gap, attached, hrun, rfl⟩ := migrateResource_eq_ok hne h
  obtain ⟨-, hdistinct, hplain⟩ := attachAll_run
    (P := fun draft _ _ => Distinct draft ∧ ∀ entry ∈ draft.entries, entry.origin ≠ .component)
    (fun draft properties _ _ _ attached gap ⟨hdistinct, hplain⟩ hattach => by
      refine ⟨distinct_modify (hattach.distinct hdistinct) _ _, fun entry hentry => ?_⟩
      rcases mem_withDescriptor hentry with rfl | ⟨hentry, -⟩
      · nofun
      · obtain ⟨source, hsource, hstep⟩ := hattach.edited.origin hentry
        exact hstep.origin ▸ hplain source hsource)
    ⟨distinct_start module.body first _, fun entry hentry => by
      rcases mem_insertBefore.mp hentry with hentry | rfl
      · obtain ⟨index, horigin, -⟩ := mem_ofBody.mp hentry
        simp [horigin]
      · nofun⟩ hrun
  have hsettled {p : Nat → Nat → Bool} : (settleDescriptor attached).entries.flatMap (awaited p) =
      attached.entries.flatMap (awaited p) := flatMap_settleDescriptor (fun _ => rfl) hdistinct
  rcases attachAll_variables hrun with ⟨hnot, p, hawaited⟩ | ⟨hlost, hlength⟩
  · refine iff_of_true ?_ hnot
    rw [← hawaited, ← hsettled]
    exact sublist_variables _
  · refine iff_of_false (fun hsublist => ?_) (not_not.mpr hlost)
    have hform : node.form = (exportedConstant settings.resourceDescriptor _).form := hdescriptor.form
    have hvariables := variablesOf_exportedConstant hform
    have hcount : ((settleDescriptor attached).body.flatMap variablesOf).length =
        (bystandingVariables module).length := by
      rw [length_variables hdescriptor.distinct hdescriptor.mem (by rw [hvariables]; rfl) fun entry hentry =>
        hplain entry ((settleDescriptor_perm hdistinct).subset hentry), hsettled, hlength]
    -- of as many variables as the module has besides its handlers, one would be the descriptor
    have hsame := hsublist.eq_of_length hcount.symm
    have hmem : (variablesOf node).headI ∈ bystandingVariables module := by
      rw [hsame, Draft.body, List.flatMap_map]
      exact List.mem_flatMap.mpr ⟨_, hdescriptor.mem, by rw [hvariables]; exact List.mem_cons_self ..⟩
    obtain ⟨statement, hstatement, hvariable⟩ := mem_bystandingVariables hmem
    have hname : settings.resourceDescriptor ∈ variableNames statement := by
      rw [hvariables] at hvariable
      exact mem_variableNames hvariable rfl rfl
    rw [declaresAny, List.any_eq_false] at hdeclares
    refine hdeclares statement hstatement (List.any_eq_true.mpr ⟨_, hname, ?_⟩)
    exact List.contains_iff_mem.mpr (descriptorName_mem settings .resource)

end Resource

/-! ### Modules -/

/-- The migration of a resource drafts it and finishes the draft. -/
lemma migrate_of_resource {migrated : Migrated} (hdeclares : declaresAny module settings.descriptorNames = false)
    (hdefault : findDefaultExport module = none)
    (hhandlers : methodsOf (locate module.body "loader") (locate module.body "action") ≠ [])
    (h : migrate settings module = .ok migrated) : ∃ draft,
      migrateResource settings module (RoutePath.ofFile module.path settings.routesRoot)
        (methodsOf (locate module.body "loader") (locate module.body "action")) = .ok draft ∧
      migrated.module.body = finish settings .resource module.referencedNames draft.body := by
  obtain ⟨drafted, hdraft, hmigrated⟩ := except_bind_eq_ok h
  rw [draftOf_of_resource hdeclares hdefault hhandlers] at hdraft
  obtain ⟨draft, hresource, rfl⟩ := except_map_eq_ok hdraft
  cases hmigrated
  exact ⟨draft, hresource, rfl⟩

lemma SharedHandler.methodsOf_ne_nil {loader action : Located} {statement : Node}
    (h : SharedHandler settings module loader action statement) :
    methodsOf (locate module.body "loader") (locate module.body "action") ≠ [] := by
  rw [h.twins.locateLoader, h.twins.locateAction]
  nofun

/-- A migration fails exactly when the handlers of a resource are one declaration that nothing else uses and that cannot
be taken out twice. If it does not fail, all variables that are no handlers are still there, in their order, but for
the neighbour of a variable that is both handlers, which goes when that is taken out for the second time. -/
theorem migrate_variables (settings : Settings) (module : Module) :
    (∀ fault, migrate settings module = .error fault ↔
      ∃ loader action statement, SharedHandler settings module loader action statement ∧
        FailsTwice settings loader action statement fault) ∧
    ∀ migrated, migrate settings module = .ok migrated →
      ((bystandingVariables module).Sublist (migrated.module.body.flatMap variablesOf) ↔
        ¬ ∃ loader action statement, SharedHandler settings module loader action statement ∧
          TakesNeighbour settings loader statement) := by
  refine ⟨fun fault => migrate_eq_error_iff, fun migrated h => ?_⟩
  have hfinish {kind : Kind} {used : List String} (body : List Node) :
      (finish settings kind used body).flatMap variablesOf = body.flatMap variablesOf :=
    finish_flatMap variablesOf (fun _ => variablesOf_of_import) (fun _ => variablesOf_of_isEmptied) settings kind used
      body
  by_cases hresource : declaresAny module settings.descriptorNames = false ∧ findDefaultExport module = none ∧
      methodsOf (locate module.body "loader") (locate module.body "action") ≠ []
  · obtain ⟨hdeclares, hdefault, hhandlers⟩ := hresource
    obtain ⟨draft, hdraft, hbody⟩ := migrate_of_resource hdeclares hdefault hhandlers h
    rw [hbody, hfinish, resource_variables hdeclares hhandlers hdraft, not_iff_not]
    constructor
    · rintro ⟨loader, action, statement, htwins, hunused, htakes⟩
      exact ⟨loader, action, statement, ⟨hdeclares, hdefault, htwins, hunused⟩, htakes⟩
    · rintro ⟨loader, action, statement, hshared, htakes⟩
      exact ⟨loader, action, statement, hshared.twins, hshared.unused, htakes⟩
  · refine iff_of_true ?_ fun ⟨loader, action, statement, hshared, _⟩ =>
      hresource ⟨hshared.undeclared, hshared.noDefault, hshared.methodsOf_ne_nil⟩
    cases migrate_eq_ok h with
    | skipped _ hmodule =>
      have hshown := sublist_variables (p := openPlaces module) (.ofBody module.body)
      rw [awaited_ofBody, body_ofBody] at hshown
      rwa [hmodule]
    | finalized hdraft _ hmodule =>
      rw [hmodule, Module.withBody, hfinish]
      cases draftOf_eq_ok hdraft with
      | page _ hdefault hloader hpage => exact page_variables hdefault hloader hpage
      | resource hdeclares hdefault hhandlers _ => exact absurd ⟨hdeclares, hdefault, hhandlers⟩ hresource

/-- A resource of which one of two variables is both handlers. -/
def pairedResource : Module where
  path := "routes/notes.tsx"
  body :=
    let arrow := .make (.arrowFunction { params := .make (.parameters [] none), body := .make (.block []) })
    let declarator (name : String) := .make (.declarator (variableOf name) (some arrow) none)
    [.make (.exportNamed
        { declaration := some (.make (.variableDeclaration "const" [declarator "action", declarator "other"])) }),
      .make (.exportNamed { specifiers := [{ localName := "action", renamed := some "loader" }] })]

/-- The name that a declarator gives to its variable. -/
def declaratorName? (declarator : Node) : Option String :=
  match declarator.form with
  | .declarator target _ _ => target.identifier?
  | _ => none

/-- The other variable is not there when the resource is migrated. -/
theorem pairedResource_variables : ∃ migrated, migrate defaultSettings pairedResource = .ok migrated ∧
    "other" ∉ migrated.module.declaredNames ∧ ∃ loader action statement,
      SharedHandler defaultSettings pairedResource loader action statement ∧
        TakesNeighbour defaultSettings loader statement := by
  obtain ⟨migrated, hmigrated, hcheck⟩ := exists_of_any_toOption
    (show (migrate defaultSettings pairedResource).toOption.any (fun migrated =>
      decide ("other" ∉ migrated.module.declaredNames) &&
        decide ((migrated.module.body.flatMap variablesOf).map (declaratorName? ·.2) = [some "ServerRoute"])) = true by
      decide +kernel)
  rw [Bool.and_eq_true, decide_eq_true_iff, decide_eq_true_iff] at hcheck
  obtain ⟨hgone, hnames⟩ := hcheck
  have hlost : ¬ (bystandingVariables pairedResource).Sublist (migrated.module.body.flatMap variablesOf) := by
    intro hsublist
    have hbystanding : (bystandingVariables pairedResource).map (declaratorName? ·.2) = [some "other"] := by
      decide +kernel
    have hshown := hsublist.map (declaratorName? ·.2)
    rw [hbystanding, hnames] at hshown
    exact absurd hshown (by decide)
  have hexact := (migrate_variables defaultSettings pairedResource).2 migrated hmigrated
  exact ⟨migrated, hmigrated, hgone, not_not.mp (hexact.not.mp hlost)⟩

end RouteMigration.Proofs
