import RouteMigration.Proofs.Comments
import RouteMigration.Proofs.DescriptorPlaces

/-!
# Advisories in drafts

What there is to say about a handler stands above the property that the handler becomes, and what there is to say
about the action of a page stands above its statement. The draft lists exactly these advisories, and no other comment
is written into it.
-/

namespace RouteMigration.Proofs
open Syntax Route

/-! ### Properties with advisories -/

/-- What there is to say about a handler that became a property of the form. -/
inductive SaidOf (settings : Settings) (kind : Kind) (key : String) (located : Located) :
    Form Node → List String → Prop where
  | kept : SaidOf settings kind key located (.property key (variableOf located.localName))
      [keptAdvisory settings located]
  | moved {handler : Handler} : extract? settings kind located = some handler →
      SaidOf settings kind key located (.property key handler.value) (handlerAdvisories settings handler)

/-- A property of a descriptor with the advisories on its handler. -/
structure Note where
  property : Node
  advisories : List String

/-- The advisories on a handler stand above its property as comments, and no other comment is in it. -/
structure Annotated (settings : Settings) (kind : Kind) (handler : String × Located) (note : Note) : Prop where
  said : SaidOf settings kind handler.1 handler.2 note.property.form note.advisories
  comments : note.property.info.comments = note.advisories.map (advisoryComment settings)
  parts : ∀ part ∈ note.property.children, CommentFree part

variable {settings : Settings} {module : Module} {routePath : String} {kind : Kind}

lemma info_foldl_withComment (comments : List String) (node : Node) :
    (comments.foldl (fun node comment => withComment comment node) node).info =
      { node.info with comments := node.info.comments ++ comments } := by
  induction comments generalizing node with
  | nil => rw [List.foldl_nil, List.append_nil]
  | cons comment comments ih =>
    rw [List.foldl_cons, ih]
    simp [withComment, Node.withInfo, Node.info]

/-- A property that is made for a handler has the advisories, if nothing below it has comments. -/
lemma annotated_advise {key : String} {located : Located} {value : Node} {texts : List String}
    (hsaid : SaidOf settings kind key located (.property key value) texts) (hvalue : CommentFree value)
    (draft : Draft) :
    Annotated settings kind (key, located) ⟨(draft.advise settings texts (propertyOf key value)).2, texts⟩ where
  said := by
    rw [Draft.advise, form_foldl_withComment]
    exact hsaid
  comments := by
    rw [Draft.advise, info_foldl_withComment]
    rfl
  parts part hpart := by
    rw [Draft.advise, Node.children, form_foldl_withComment] at hpart
    rwa [List.mem_singleton.mp hpart]

/-- An attachment adds the advisories on its handler to the draft, and it writes them above the property. -/
theorem attach_annotated {draft : Draft} {key : String} {located : Located} {attached : Attached}
    (h : attach settings module kind draft key located = .ok attached)
    (hfunction : ∀ part ∈ located.function.children, CommentFree part) :
    ∃ texts, Annotated settings kind (key, located) ⟨attached.property, texts⟩ ∧
      attached.draft.advisories = draft.advisories ++ texts := by
  unfold attach at h
  dsimp only at h
  split at h
  · obtain ⟨result, hkeep, hattached⟩ := except_bind_eq_ok h
    obtain ⟨f, -, rfl⟩ := keep_eq_ok hkeep
    cases hattached
    exact ⟨_, annotated_advise .kept (commentFree_variableOf _) draft, rfl⟩
  · next handler hhandler =>
    obtain ⟨result, hremove, hattached⟩ := except_bind_eq_ok h
    cases hattached
    split at hhandler
    · cases hhandler
    · refine ⟨_, annotated_advise (.moved hhandler) (commentFree_extract hhandler hfunction) draft, ?_⟩
      cases removeDeclaration_eq_ok hremove with
      | erased hresult _ => rw [hresult]; rfl
      | trimmed _ _ _ _ hresult => rw [hresult]; rfl

/-! ### Everything beside the descriptor -/

/-- No comment is written into the draft but in the descriptor. -/
def Uncommented (draft : Draft) : Prop :=
  ∀ entry ∈ draft.entries, entry.origin ≠ .descriptor → CommentFree entry.node

lemma uncommented_ofBody {body : List Node} (h : ∀ statement ∈ body, CommentFree statement) :
    Uncommented (.ofBody body) := by
  intro entry hentry _
  obtain ⟨index, -, hget⟩ := mem_ofBody.mp hentry
  exact h _ (List.mem_of_getElem? hget)

lemma AttachStep.commentFree {located : Located} {entry entry' : Entry} (h : AttachStep located entry (some entry'))
    (hentry : CommentFree entry.node) : CommentFree entry'.node := by
  have hunlisted := commentFree_unlist [located.name] hentry
  cases h with
  | unlisted => exact hunlisted
  | own _ hf =>
    rcases hf with rfl | ⟨index, rfl⟩
    · exact commentFree_withoutExport hunlisted
    · exact commentFree_eraseDeclarator index hunlisted

lemma Attachment.uncommented {draft : Draft} {key : String} {located : Located} {attached : Attached}
    (h : Attachment settings kind draft key located attached) (hdraft : Uncommented draft) :
    Uncommented attached.draft := by
  intro entry' hentry' horigin
  obtain ⟨entry, hentry, hstep⟩ := h.edited.origin hentry'
  exact hstep.commentFree (hdraft entry hentry (hstep.origin ▸ horigin))

lemma DetachStep.commentFree {fresh : String} {default : DefaultExport} {entry entry' : Entry}
    (h : DetachStep fresh default entry (some entry')) (hentry : CommentFree entry.node) : CommentFree entry'.node := by
  cases h with
  | other _ => exact hentry
  | unlisted _ _ => exact commentFree_eraseSpecifier _ hentry
  | inlined _ _ => exact commentFree_inlineStatement fresh hentry

lemma commentFree_componentImport (gap : Option String) (imported source name : String) :
    CommentFree (withGap gap (componentImport imported source name)) := by
  unfold componentImport
  split <;> exact commentFree_iff.mpr ⟨rfl, List.forall_mem_nil _⟩

lemma Detachment.uncommented {default : DefaultExport} {body : List Node} {result : Draft × String}
    {before after : List Entry} {component? : Option Entry}
    (h : Detachment settings default (.ofBody body) result before after component?)
    (hbody : ∀ statement ∈ body, CommentFree statement) : Uncommented result.1 := by
  intro entry hentry _
  rcases h.mem.mp hentry with hentry | hentry
  · obtain ⟨index, statement, -, hget, hstep⟩ := h.origin hentry
    exact hstep.commentFree (hbody statement (List.mem_of_getElem? hget))
  · obtain ⟨_, _, _, _, _, -, rfl, -⟩ := h.component entry hentry
    exact commentFree_componentImport ..

lemma advisories_detachDefault (draft : Draft) (default : DefaultExport) :
    (detachDefault settings draft default).1.advisories = draft.advisories := by
  cases default with
  | referenced _ _ specifier _ => cases specifier <;> rfl
  | _ => rfl

/-! ### What a draft shows of its advisories -/

/-- The handlers that become properties of the descriptor, with their keys. -/
def describedHandlers (module : Module) : Kind → List (String × Located)
  | .page => (locate module.body "loader").toList.map ("loader", ·)
  | .resource => methodsOf (locate module.body "loader") (locate module.body "action")

/-- The action that stays a statement, on a page. -/
def remainingAction (module : Module) : Kind → Option Located
  | .page => locate module.body "action"
  | .resource => none

def actionAdvisories (module : Module) (kind : Kind) : List String :=
  (remainingAction module kind).toList.map fun _ => pageActionAdvisory

/-- The properties of a descriptor beside those of the handlers. -/
def componentProperties (component : String) : Kind → List Node
  | .page => [propertyOf "component" (variableOf component)]
  | .resource => []

/-- The statement is what is left of the one that declares the handler: it declares it still, and it comes from the
same stretch of the source. -/
structure StandsFor (module : Module) (located : Located) (statement : Node) : Prop where
  declares : DeclaresHandler located statement
  place : ∃ original span, module.body[located.statement]? = some original ∧ original.span = some span ∧
    PlacedIn span statement

/-- A body with a descriptor, and with all advisories as comments: those on the handlers above their properties, that
on the action of a page above its statement. -/
structure AdvisedBody (settings : Settings) (module : Module) (routePath : String) (kind : Kind)
    (advisories : List String) (body before : List Node) (descriptor : Node) (after : List Node) (notes : List Note)
    (component : String) : Prop where
  body : body = before ++ descriptor :: after
  descriptor : ∃ gap, descriptor = withGap gap (descriptorOf settings routePath
    (notes.map Note.property ++ componentProperties component kind) kind)
  annotated : List.Forall₂ (Annotated settings kind) (describedHandlers module kind) notes
  advisories : advisories = notes.flatMap Note.advisories ++ actionAdvisories module kind
  comments : (before ++ after).flatMap commentsOf = (actionAdvisories module kind).map (advisoryComment settings)
  above : ∀ statement ∈ before ++ after, commentsOf statement ≠ [] → commentsOf statement = statement.info.comments ∧
    ∃ action ∈ remainingAction module kind, StandsFor module action statement

/-! ### Pages -/

lemma Detachment.present {default : DefaultExport} {result : Draft × String} {before after : List Entry}
    {component? : Option Entry} (h : Detachment settings default (.ofBody module.body) result before after component?)
    (hdefault : findDefaultExport module = some default) {name : String} {located : Located}
    (hlocate : locate module.body name = some located) : Present result.1 located where
  entry := by
    obtain ⟨-, -, statement, form, hget, hform, hby⟩ := locate_eq_some hlocate
    obtain ⟨⟨origin, node⟩, hentry, rfl⟩ := h.exists_entry hdefault hget ⟨form, hform, hby.isValueDeclaration⟩
    exact ⟨node, hentry⟩
  standing := h.standing hlocate

lemma commentsOf_withComment {node : Node} (h : CommentFree node) (comment : String) :
    commentsOf (withComment comment node) = [comment] ∧
      commentsOf (withComment comment node) = (withComment comment node).info.comments := by
  obtain ⟨hown, hparts⟩ := commentFree_iff.mp h
  have hcomments : commentsOf (withComment comment node) = (withComment comment node).info.comments :=
    commentsOf_of_parts hparts
  refine ⟨hcomments.trans ?_, hcomments⟩
  rw [withComment, Node.withInfo, Node.info, hown]
  rfl

/-- An advisory on a statement is a comment above it. -/
lemma Distinct.adviseAt_comments {draft : Draft} (h : Distinct draft)
    (hfree : ∀ entry ∈ draft.entries, CommentFree entry.node) {entry : Entry} (hentry : entry ∈ draft.entries)
    (text : String) :
    (draft.adviseAt settings entry.origin text).body.flatMap commentsOf = [advisoryComment settings text] ∧
    ∀ other ∈ (draft.adviseAt settings entry.origin text).entries, commentsOf other.node ≠ [] →
      other.origin = entry.origin ∧ commentsOf other.node = other.node.info.comments := by
  obtain ⟨before, after, hentries, hmodify⟩ := h.split_modify hentry (withComment (advisoryComment settings text))
  have hadvised : (draft.adviseAt settings entry.origin text).entries =
      before ++ reworked (withComment (advisoryComment settings text)) entry :: after := hmodify
  obtain ⟨hone, hown⟩ := commentsOf_withComment (hfree entry hentry) (advisoryComment settings text)
  have hbefore : ∀ other ∈ before, CommentFree other.node := fun other hother =>
    hfree other (hentries ▸ List.mem_append_left _ hother)
  have hafter : ∀ other ∈ after, CommentFree other.node := fun other hother =>
    hfree other (hentries ▸ List.mem_append_right _ (List.mem_cons_of_mem _ hother))
  constructor
  · rw [Draft.body, hadvised, List.flatMap_map, List.flatMap_append, List.flatMap_cons,
      List.flatMap_eq_nil_iff.mpr hbefore, List.flatMap_eq_nil_iff.mpr hafter, List.nil_append, List.append_nil]
    exact hone
  · intro other hother hcomments
    rw [hadvised, List.mem_append, List.mem_cons] at hother
    rcases hother with hother | rfl | hother
    · exact absurd (hbefore other hother) hcomments
    · exact ⟨rfl, hown⟩
    · exact absurd (hafter other hother) hcomments

section Page

variable {source : List Char} {spans : List Span} {default : DefaultExport} {loader : Located} {draft : Draft}

/-- The draft of a page is what attaching the loader leaves, with the advisory on the action, above the descriptor. -/
lemma migratePage_calls {action? : Option Located}
    (h : migratePage settings module routePath default loader action? = .ok draft) :
    ∃ attached rest component, attach settings module .page (detachDefault settings (.ofBody module.body) default).1
        "loader" loader = .ok attached ∧
      draft.entries = rest.entries ++ [⟨.descriptor, pageDescriptor settings routePath
        ([attached.property] ++ componentProperties component .page)⟩] ∧
      draft.advisories = rest.advisories ∧
      rest = action?.elim attached.draft fun action =>
        attached.draft.adviseAt settings (.statement action.statement) pageActionAdvisory := by
  obtain ⟨attached, hattach, hdraft⟩ := except_bind_eq_ok h
  refine ⟨attached, _, (detachDefault settings (.ofBody module.body) default).2, hattach, ?_, ?_, rfl⟩
  · cases action? with
    | none =>
      cases hdraft
      rfl
    | some action =>
      cases hdraft
      exact entries_adviseAt_append (by simp) _
  · cases action? <;> cases hdraft <;> rfl

/-- The action of a page is still declared when the loader has been attached. -/
lemma Detachment.present_action {result : Draft × String} {before after : List Entry} {component? : Option Entry}
    (h : Detachment settings default (.ofBody module.body) result before after component?)
    (hdefault : findDefaultExport module = some default) (hloader : locate module.body "loader" = some loader)
    {action : Located} (haction : locate module.body "action" = some action) (hdiffer : ¬ SameDeclaration loader action)
    {attached : Attached} (hattach : Attachment settings .page result.1 "loader" loader attached) :
    Present attached.draft action :=
  hattach.present_of_differ h.removed h.distinct (h.running "loader" hloader).own (h.present hdefault hloader)
    (h.present hdefault haction) hdiffer

/-- Above the descriptor of a page, the one comment is the advisory on the action, at the statement that declares it. -/
lemma Detachment.action_advised {result : Draft × String} {before after : List Entry} {component? : Option Entry}
    (h : Detachment settings default (.ofBody module.body) result before after component?)
    (hdefault : findDefaultExport module = some default) (hloader : locate module.body "loader" = some loader)
    (hdiffer : ∀ action ∈ locate module.body "action", ¬ SameDeclaration loader action) {attached : Attached}
    (hattach : Attachment settings .page result.1 "loader" loader attached)
    (hfree : ∀ entry ∈ attached.draft.entries, CommentFree entry.node) {rest : Draft}
    (hrest : rest = (locate module.body "action").elim attached.draft fun action =>
      attached.draft.adviseAt settings (.statement action.statement) pageActionAdvisory) :
    rest.advisories = attached.draft.advisories ++ actionAdvisories module .page ∧
      rest.body.flatMap commentsOf = (actionAdvisories module .page).map (advisoryComment settings) ∧
      ∀ entry ∈ rest.entries, commentsOf entry.node ≠ [] → commentsOf entry.node = entry.node.info.comments ∧
        ∃ action ∈ remainingAction module .page, entry.origin = .statement action.statement ∧
          DeclaresHandler action entry.node := by
  rw [hrest, actionAdvisories, remainingAction]
  cases haction : locate module.body "action" with
  | none =>
    refine ⟨(List.append_nil _).symm, ?_, fun entry hentry hsome => ?_⟩
    · exact List.flatMap_eq_nil_iff.mpr (List.forall_mem_map.mpr hfree)
    · exact absurd (hfree entry hentry) hsome
  | some action =>
    have hpresent := h.present_action hdefault hloader haction (hdiffer action haction) hattach
    obtain ⟨node, hnode⟩ := hpresent.entry
    obtain ⟨hone, hothers⟩ := @Distinct.adviseAt_comments settings _ (hattach.distinct h.distinct) hfree _ hnode
      pageActionAdvisory
    refine ⟨rfl, hone, fun entry hentry hsome => ?_⟩
    obtain ⟨horigin, hown⟩ := hothers entry hentry hsome
    obtain ⟨source, hsource, hstep⟩ := (edited_adviseAt _ _ _).origin hentry
    obtain ⟨_, hplace, hsame, hform⟩ := hstep.sameForm
    cases hplace
    obtain ⟨form, hdeclared, hstands⟩ := hpresent.standing source hsource (hsame.symm.trans horigin)
    exact ⟨hown, action, rfl, horigin, form, _, (declared?_congr hform).trans hdeclared, hstands⟩

/-- A page shows all its advisories: those on the loader in the descriptor, that on the action above its statement. -/
theorem page_advised (hread : ReadStatements source spans module.body)
    (hbody : ∀ statement ∈ module.body, CommentFree statement)
    (hdefault : findDefaultExport module = some default) (hloader : locate module.body "loader" = some loader)
    (hdiffer : ∀ action ∈ locate module.body "action", ¬ SameDeclaration loader action)
    (h : migratePage settings module routePath default loader (locate module.body "action") = .ok draft) :
    ∃ before descriptor after notes component,
      AdvisedBody settings module routePath .page draft.advisories draft.body before descriptor after notes
        component := by
  have hrooted := page_rooted hread hloader h
  obtain ⟨attached, rest, component, hcall, hentries, hlisted, hrest⟩ := migratePage_calls h
  obtain ⟨above, below, component?, hdetach⟩ := detachDefault_eq settings (.ofBody module.body) default
  have hattach := attach_eq_ok hcall
  obtain ⟨texts, hnote, hadvisories⟩ := attach_annotated hcall (commentFree_locate hbody hloader)
  rw [advisories_detachDefault] at hadvisories
  have hfree (entry : Entry) (hentry : entry ∈ attached.draft.entries) : CommentFree entry.node := by
    refine hattach.uncommented (hdetach.uncommented hbody) entry hentry ?_
    obtain ⟨source, hsource, hstep⟩ := hattach.edited.origin hentry
    rw [hstep.origin]
    exact hdetach.origin_ne source hsource
  have hdescribed : describedHandlers module .page = [("loader", loader)] := by
    rw [describedHandlers, hloader]
    rfl
  obtain ⟨hadvised, hflat, habove⟩ := hdetach.action_advised hdefault hloader hdiffer hattach hfree hrest
  refine ⟨rest.body, _, [], [⟨attached.property, texts⟩], component, ?_, ⟨none, rfl⟩, ?_, ?_, ?_, ?_⟩
  · rw [Draft.body, hentries]
    exact List.map_append ..
  · rw [hdescribed]
    exact .cons hnote .nil
  · rw [hlisted, hadvised, hadvisories]
    simp [Draft.ofBody]
  · rwa [List.append_nil]
  · intro statement hstatement hsome
    rw [List.append_nil] at hstatement
    obtain ⟨entry, hentry, rfl⟩ := List.mem_map.mp hstatement
    obtain ⟨hown, action, haction, horigin, hdeclares⟩ := habove entry hentry hsome
    obtain ⟨original, span, hget, hspan, hconfined⟩ := (hrooted entry (by
      rw [hentries]
      exact List.mem_append_left _ hentry)).statement _ horigin
    exact ⟨hown, action, haction, hdeclares, original, span, hget, hspan, hconfined.own⟩

end Page

/-! ### Resources -/

/-- A handler of another declaration takes nothing over. -/
lemma handOver_of_differ {located : Located} {source : Node} {rest : List (String × Located)}
    (h : ∀ next ∈ rest, ¬ SameDeclaration located next.2) : handOver located source rest = rest := by
  cases rest with
  | nil => rfl
  | cons next rest => rw [handOver, takeOver_of_differ (h next (List.mem_cons_self ..))]

/-- What attaching the handlers of a resource keeps: the advisories so far are those above the properties of the
descriptor, and no other comment is written. -/
structure AnnotatedRun (settings : Settings) (routePath : String) (handlers : List (String × Located)) (draft : Draft)
    (properties : List Node) (rest : List (String × Located)) : Prop where
  distinct : Distinct draft
  descriptor : ∃ gap, ⟨.descriptor, withGap gap (resourceDescriptor settings routePath properties)⟩ ∈ draft.entries
  uncommented : Uncommented draft
  annotated : ∃ done notes, handlers = done ++ rest ∧ List.Forall₂ (Annotated settings .resource) done notes ∧
    properties = notes.map Note.property ∧ draft.advisories = notes.flatMap Note.advisories

lemma AnnotatedRun.step {handlers : List (String × Located)} {draft : Draft} {properties : List Node} {key : String}
    {located : Located} {rest : List (String × Located)} {attached : Attached} (gap : Option String)
    (hdiffer : handlers.Pairwise fun handler next => ¬ SameDeclaration handler.2 next.2)
    (hfunctions : ∀ handler ∈ handlers, ∀ part ∈ handler.2.function.children, CommentFree part)
    (h : AnnotatedRun settings routePath handlers draft properties ((key, located) :: rest))
    (hcall : attach settings module .resource draft key located = .ok attached) :
    AnnotatedRun settings routePath handlers
      (withDescriptor settings routePath gap (properties ++ [attached.property]) attached.draft)
      (properties ++ [attached.property]) (handOver located attached.source rest) := by
  have hattach := attach_eq_ok hcall
  obtain ⟨done, notes, hhandlers, hannotated, hproperties, hadvisories⟩ := h.annotated
  have hmem : (key, located) ∈ handlers := by
    rw [hhandlers]
    exact List.mem_append_right _ (List.mem_cons_self ..)
  obtain ⟨texts, hnote, hadded⟩ := attach_annotated hcall (hfunctions _ hmem)
  have hrest : handOver located attached.source rest = rest := by
    rw [hhandlers, List.pairwise_append, List.pairwise_cons] at hdiffer
    exact handOver_of_differ hdiffer.2.1.1
  refine ⟨distinct_modify (hattach.distinct h.distinct) _ _, ⟨gap, ?_⟩, fun entry hentry horigin => ?_,
    done ++ [(key, located)], notes ++ [⟨attached.property, texts⟩], ?_, ?_, ?_, ?_⟩
  · obtain ⟨_, hdescriptor⟩ := h.descriptor
    obtain ⟨_, hkept⟩ := hattach.descriptor_mem hdescriptor
    exact descriptor_mem_withDescriptor hkept gap _
  · rcases mem_withDescriptor hentry with rfl | ⟨hentry, -⟩
    · exact absurd rfl horigin
    · exact hattach.uncommented h.uncommented entry hentry horigin
  · rw [hrest, hhandlers, List.append_assoc]
    rfl
  · exact List.rel_append hannotated (.cons hnote .nil)
  · rw [hproperties, List.map_append]
    rfl
  · rw [List.flatMap_append, ← hadvisories, List.flatMap_singleton]
    exact hadded

lemma advisories_settleDescriptor (draft : Draft) : (settleDescriptor draft).advisories = draft.advisories := by
  unfold settleDescriptor
  dsimp only
  split
  · split <;> rfl
  · rfl

lemma AnnotatedRun.start {handlers : List (String × Located)}
    (hbody : ∀ statement ∈ module.body, CommentFree statement) (first : Nat) (gap : Option String) :
    AnnotatedRun settings routePath handlers ((Draft.ofBody module.body).insertBefore (.statement first)
      ⟨.descriptor, withGap gap (resourceDescriptor settings routePath [])⟩) [] handlers := by
  refine ⟨distinct_start module.body first _, ⟨gap, mem_insertBefore.mpr (.inr rfl)⟩, fun entry hentry horigin => ?_,
    [], [], rfl, .nil, rfl, rfl⟩
  rcases mem_insertBefore.mp hentry with hentry | rfl
  · exact uncommented_ofBody hbody entry hentry horigin
  · exact absurd rfl horigin

/-- When all handlers are attached and the descriptor has settled, no comment is written beside it. -/
lemma AnnotatedRun.settled {handlers : List (String × Located)} {draft : Draft} {properties : List Node}
    (h : AnnotatedRun settings routePath handlers draft properties []) : ∃ before after gap,
      (settleDescriptor draft).entries =
        before ++ ⟨.descriptor, withGap gap (resourceDescriptor settings routePath properties)⟩ :: after ∧
      ∀ entry ∈ before ++ after, CommentFree entry.node := by
  obtain ⟨gap, hdescriptor⟩ := h.descriptor
  have hperm := settleDescriptor_perm h.distinct
  have hsettled : Distinct (settleDescriptor draft) := (hperm.map Entry.origin).nodup_iff.mpr h.distinct
  obtain ⟨before, after, hentries, herase⟩ := hsettled.split (hperm.mem_iff.mpr hdescriptor)
  refine ⟨before, after, gap, hentries, fun entry hentry => ?_⟩
  rw [← herase, Draft.erase, List.mem_filter, decide_eq_true_eq] at hentry
  exact h.uncommented entry (hperm.subset hentry.1) hentry.2

lemma pairwise_methodsOf (hdiffer : ∀ loader ∈ locate module.body "loader", ∀ action ∈ locate module.body "action",
      ¬ SameDeclaration loader action) :
    (methodsOf (locate module.body "loader") (locate module.body "action")).Pairwise
      fun handler next => ¬ SameDeclaration handler.2 next.2 := by
  cases hloader : locate module.body "loader" with
  | none => cases locate module.body "action" <;> simp [methodsOf]
  | some loader =>
    cases haction : locate module.body "action" with
    | none => simp [methodsOf]
    | some action => simpa [methodsOf] using hdiffer loader hloader action haction

/-- A resource shows all its advisories in the descriptor. -/
theorem resource_advised {draft : Draft} (hbody : ∀ statement ∈ module.body, CommentFree statement)
    (hne : methodsOf (locate module.body "loader") (locate module.body "action") ≠ [])
    (hdiffer : ∀ loader ∈ locate module.body "loader", ∀ action ∈ locate module.body "action",
      ¬ SameDeclaration loader action)
    (h : migrateResource settings module routePath
      (methodsOf (locate module.body "loader") (locate module.body "action")) = .ok draft) (component : String) :
    ∃ before descriptor after notes,
      AdvisedBody settings module routePath .resource draft.advisories draft.body before descriptor after notes
        component := by
  obtain ⟨first, gap, attached, hrun, rfl⟩ := migrateResource_eq_ok hne h
  have hfunctions : ∀ handler ∈ methodsOf (locate module.body "loader") (locate module.body "action"),
      ∀ part ∈ handler.2.function.children, CommentFree part := by
    intro handler hhandler
    obtain ⟨name, hname⟩ := exists_locate_of_mem_methodsOf hhandler
    exact commentFree_locate hbody hname
  obtain ⟨properties, hdone⟩ := attachAll_calls
    (fun _ _ _ _ _ _ gap hstate hcall => AnnotatedRun.step gap (pairwise_methodsOf hdiffer) hfunctions hstate hcall)
    (AnnotatedRun.start hbody first gap) hrun
  obtain ⟨before, after, gap', hentries, hfree⟩ := hdone.settled
  obtain ⟨done, notes, hhandlers, hannotated, rfl, hadvisories⟩ := hdone.annotated
  rw [List.append_nil] at hhandlers
  refine ⟨before.map (·.node), _, after.map (·.node), notes, ?_, ⟨gap', rfl⟩, ?_, ?_, ?_, ?_⟩
  · rw [Draft.body, hentries, List.map_append, List.map_cons, componentProperties, List.append_nil]
    rfl
  · rw [describedHandlers, hhandlers]
    exact hannotated
  · rw [advisories_settleDescriptor, hadvisories]
    exact (List.append_nil _).symm
  · rw [← List.map_append]
    exact List.flatMap_eq_nil_iff.mpr (List.forall_mem_map.mpr hfree)
  · rw [← List.map_append]
    intro statement hstatement hsome
    obtain ⟨entry, hentry, rfl⟩ := List.mem_map.mp hstatement
    exact absurd (hfree entry hentry) hsome

/-- The draft of a parsed module shows all its advisories, unless one declaration is both handlers. -/
theorem Drafting.advised {source : List Char} {spans : List Span} {draft : Draft}
    (h : Drafting settings module routePath kind draft) (hread : ReadStatements source spans module.body)
    (hbody : ∀ statement ∈ module.body, CommentFree statement)
    (hdiffer : ∀ loader ∈ locate module.body "loader", ∀ action ∈ locate module.body "action",
      ¬ SameDeclaration loader action) :
    ∃ before descriptor after notes component,
      AdvisedBody settings module routePath kind draft.advisories draft.body before descriptor after notes
        component := by
  cases h with
  | page _ hdefault hloader hpage =>
    exact page_advised hread hbody hdefault hloader (hdiffer _ hloader) hpage
  | resource _ _ hhandlers hresource =>
    obtain ⟨before, descriptor, after, notes, hadvised⟩ := resource_advised hbody hhandlers hdiffer hresource ""
    exact ⟨before, descriptor, after, notes, "", hadvised⟩

end RouteMigration.Proofs
