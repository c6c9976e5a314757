import RouteMigration.Proofs.LostNeighbours
import RouteMigration.Proofs.Unwrapping

/-!
# Handlers that a descriptor refers to

A property of a descriptor is a plain identifier if its handler was kept. The declaration of a kept handler is
still in the draft when all handlers are attached, and the descriptor settles below it. The exception is a
declaration that is both handlers and refers to itself: it moves into the descriptor as the loader, and the
action is kept because of the reference that moved with it.
-/

namespace RouteMigration.Proofs
open Syntax Route

/-- The name that a property refers to, if its value is a plain identifier. -/
def referent? (property : Node) : Option String :=
  match property.form with
  | .property _ value => value.identifier?
  | _ => none

/-! ### The settled descriptor -/

lemma Distinct.position? {draft : Draft} (h : Distinct draft) {before after : List Entry} {entry : Entry}
    (hentries : draft.entries = before ++ entry :: after) : draft.position? entry.origin = some before.length := by
  unfold Distinct at h
  rw [hentries, List.map_append, List.map_cons, List.nodup_middle, List.nodup_cons] at h
  rw [Draft.position?, hentries, List.findIdx?_append, List.findIdx?_eq_none_iff.mpr, Option.none_or,
    List.findIdx?_cons, if_pos (by simp)]
  · simp
  · intro other hother
    have hne : other.origin ≠ entry.origin := fun hsame =>
      h.1 (List.mem_append_left _ (List.mem_map.mpr ⟨other, hother, hsame⟩))
    simpa using hne

/-- A kept statement stands above the descriptor, or below it at a position that the settling looks at. -/
lemma Distinct.kept_cases {draft : Draft} (h : Distinct draft) {node : Node} {first second : List Entry}
    (hentries : draft.entries = first ++ ⟨.descriptor, node⟩ :: second) {index : Nat} (hindex : index ∈ draft.kept)
    {statement : Node} (hstatement : ⟨.statement index, statement⟩ ∈ draft.entries) :
    ⟨.statement index, statement⟩ ∈ first ∨ ∃ between below,
      second = between ++ ⟨.statement index, statement⟩ :: below ∧
      first.length + 1 + between.length ∈ keptPositions draft := by
  rw [hentries, List.mem_append, List.mem_cons] at hstatement
  rcases hstatement with hfirst | hsame | hsecond
  · exact .inl hfirst
  · cases hsame
  · obtain ⟨between, below, rfl⟩ := List.append_of_mem hsecond
    have hthere := @Distinct.position? draft h (first ++ ⟨.descriptor, node⟩ :: between) below
      ⟨.statement index, statement⟩ (by rw [hentries]; simp)
    refine .inr ⟨between, below, rfl, List.mem_filterMap.mpr ⟨index, hindex, ?_⟩⟩
    rw [hthere, List.length_append, List.length_cons, Nat.add_right_comm, Nat.add_assoc]

/-- The descriptor settles below the statements that are kept. -/
theorem settleDescriptor_below {draft : Draft} (h : Distinct draft) {node : Node}
    (hmem : ⟨.descriptor, node⟩ ∈ draft.entries) : ∃ before after,
      (settleDescriptor draft).entries = before ++ ⟨.descriptor, node⟩ :: after ∧
      ∀ index ∈ draft.kept, ∀ statement, ⟨.statement index, statement⟩ ∈ draft.entries →
        ⟨.statement index, statement⟩ ∈ before := by
  obtain ⟨first, second, hentries, herase⟩ := h.split hmem
  have hposition : draft.position? .descriptor = some first.length := h.position? hentries
  cases h.settles with
  | stays hsame hbound =>
    refine ⟨first, second, hsame.symm ▸ hentries, fun index hindex statement hstatement => ?_⟩
    rcases h.kept_cases hentries hindex hstatement with hfirst | ⟨between, below, -, hlisted⟩
    · exact hfirst
    · have hwithin := hbound _ _ (h.find? hmem) hposition _ hlisted
      omega
  | @moves node' position before after hmem' hposition' hbelow hbound hsplit hsettled =>
    obtain rfl := Option.some.inj (hposition.symm.trans hposition')
    obtain rfl : node = node' := congrArg Entry.node (h.eq_of_origin hmem hmem' rfl)
    refine ⟨before, after, hsettled, fun index hindex statement hstatement => ?_⟩
    have hbefore : before = (first ++ second).take before.length := by rw [← herase, hsplit, List.take_left]
    rw [hbefore, List.take_append, List.take_of_length_le hbelow.le]
    rcases h.kept_cases hentries hindex hstatement with hfirst | ⟨between, below, hsecond, hlisted⟩
    · exact List.mem_append_left _ hfirst
    · have hwithin := hbound _ hlisted
      refine List.mem_append_right _ (List.mem_take_iff_getElem.mpr ⟨between.length, ?_, ?_⟩)
      · rw [hsecond, List.length_append, List.length_cons]
        omega
      · simp [hsecond]

/-! ### Declarations that are still there -/

/-- The statement of a handler is in the draft and declares the handler. -/
structure Present (draft : Draft) (located : Located) : Prop where
  entry : ∃ node, ⟨.statement located.statement, node⟩ ∈ draft.entries
  standing : Standing draft located

section Present

variable {settings : Settings} {module : Module} {routePath : String} {kind : Kind} {draft : Draft} {key : String}
  {located other : Located} {attached : Attached}

lemma identifier?_of_ofNode? {node : Node} {signature : Signature} (h : Signature.ofNode? node = some signature) :
    node.identifier? = none := by
  obtain ⟨info, form⟩ := node
  cases form <;> first | rfl | cases h

/-- A function that moves into a descriptor is no identifier. -/
lemma identifier?_of_extract {handler : Handler} (h : extract? settings kind located = some handler) :
    handler.value.identifier? = none := by
  rw [extract?] at h
  obtain ⟨signature, -, h⟩ := Option.bind_eq_some_iff.mp h
  obtain ⟨body, -, h⟩ := Option.bind_eq_some_iff.mp h
  obtain rfl := Option.some.inj h
  have hanonymous (params block : Node) (isAsync isGenerator : Bool) :
      ∃ signature, Signature.ofNode? (anonymous params block isAsync isGenerator) = some signature := by
    cases isGenerator <;> exact ⟨_, rfl⟩
  cases kind with
  | page =>
    obtain ⟨_, hsignature⟩ := hanonymous (.make (.parameters [.node (.make (.objectPattern settings.loaderParams))] none))
      (asBlock body) signature.isAsync signature.isGenerator
    exact identifier?_of_ofNode? (ofNode?_unwrapFunction settings.envelope hsignature)
  | resource =>
    obtain ⟨_, hsignature⟩ := hanonymous signature.params (asBlock body) signature.isAsync signature.isGenerator
    exact identifier?_of_ofNode? (ofNode?_unwrapFunction settings.envelope hsignature)

/-- A property refers to its handler if that is kept, and to nothing otherwise. -/
lemma Attachment.referent?_cases (h : Attachment settings kind draft key located attached) :
    (attached.property.form = .property key (variableOf located.localName) ∧
      attached.draft.kept = draft.kept ++ [located.statement]) ∨
    (referent? attached.property = none ∧ attached.draft.kept = draft.kept) := by
  cases h with
  | kept _ _ _ _ hkept hproperty _ =>
    exact .inl ⟨hproperty, hkept⟩
  | moved _ hextract _ _ _ hkept hproperty _ =>
    refine .inr ⟨?_, hkept⟩
    rw [referent?, hproperty]
    exact identifier?_of_extract hextract

lemma Attachment.kept_of_referent (h : Attachment settings kind draft key located attached) {name : String}
    (hname : name ∈ referent? attached.property) :
    name = located.localName ∧ attached.property.form = .property key (variableOf located.localName) ∧
      attached.draft.kept = draft.kept ++ [located.statement] := by
  rcases h.referent?_cases with ⟨hform, hkept⟩ | ⟨hnone, -⟩
  · rw [referent?, hform] at hname
    exact ⟨(Option.some.inj hname).symm, hform, hkept⟩
  · cases hname.symm.trans hnone

/-- A handler that other statements use is referred to. -/
lemma Attachment.referent?_of_used (h : Attachment settings kind draft key located attached)
    (hused : UsedBeside draft located) : referent? attached.property = some located.localName := by
  cases h with
  | kept _ _ _ _ _ hproperty _ =>
    rw [referent?, hproperty]
    rfl
  | moved hunused _ _ _ _ _ _ _ =>
    rw [UsedBeside, hunused] at hused
    cases hused

/-- A handler that has a body is referred to only if other statements use it. -/
lemma Attachment.used_of_referent (h : Attachment settings kind draft key located attached)
    (hbody : HasBody located.function) {name : String} (hname : name ∈ referent? attached.property) :
    UsedBeside draft located := by
  cases h with
  | kept hused _ _ _ _ _ _ =>
    refine hused.resolve_right fun hnone => ?_
    obtain ⟨handler, hsome, -⟩ := exists_extract hbody settings kind
    cases hsome.symm.trans hnone
  | moved _ hextract _ _ _ _ hproperty _ =>
    rw [referent?, hproperty] at hname
    cases hname.symm.trans (identifier?_of_extract hextract)

lemma Attachment.kept_subset (h : Attachment settings kind draft key located attached) :
    draft.kept ⊆ attached.draft.kept := by
  rcases h.referent?_cases with ⟨-, hkept⟩ | ⟨-, hkept⟩
  · rw [hkept]
    exact List.subset_append_left ..
  · rw [hkept]
    exact List.Subset.refl _

lemma Present.withDescriptor (h : Present draft located) (gap : Option String) (properties : List Node) :
    Present (withDescriptor settings routePath gap properties draft) located where
  entry := by
    obtain ⟨node, hnode⟩ := h.entry
    exact ⟨node, mem_withDescriptor_of_statement properties hnode⟩
  standing := h.standing.withDescriptor gap properties

lemma present_openDraft {gap : Option String} {site : Nat} (hlocate : locate module.body key = some located) :
    Present (openDraft settings module routePath gap site) located where
  entry := by
    obtain ⟨-, -, statement, -, hget, -, -⟩ := locate_eq_some hlocate
    exact ⟨statement, mem_openDraft hget⟩
  standing := standing_start hlocate

/-- A statement that is changed where it stands is still in the draft. -/
lemma exists_entry_modify {f : Node → Node} {site : Nat} {node : Node} (h : ⟨.statement site, node⟩ ∈ draft.entries)
    (origin : Origin) : ∃ node', ⟨.statement site, node'⟩ ∈ ((draft.mapNodes (unlist [located.name])).modify origin f).entries := by
  have hmapped := mem_mapNodes h (unlist [located.name])
  by_cases horigin : Origin.statement site = origin
  · exact ⟨_, mem_modify hmapped horigin f⟩
  · refine ⟨unlist [located.name] node, ?_⟩
    rw [entries_modify]
    exact List.mem_map.mpr ⟨_, hmapped, if_neg horigin⟩

/-- Keeping a handler leaves every declaration where it is. -/
lemma Attachment.present_of_kept (h : Attachment settings kind draft key located attached)
    (hvalues : ∀ entry ∈ draft.entries, HoldsValues [.statement located.statement] entry)
    {name : String} (hname : name ∈ referent? attached.property) (hother : Present draft other) : Present attached.draft other := by
  have hdeclared := h.declared?_cases hvalues
  cases h with
  | kept _ _ hentries hremoved _ _ _ =>
    obtain ⟨node, hnode⟩ := hother.entry
    refine ⟨?_, ?_⟩
    · rw [hentries]
      exact exists_entry_modify hnode _
    · rcases hdeclared with ⟨-, hsame⟩ | ⟨index, -, hone, -⟩
      · refine hother.standing.congr ?_ fun entry' hentry' horigin' => ?_
        · funext index
          rw [placeLeft, placeLeft, hremoved]
        · obtain ⟨entry, hentry, horigin, hform⟩ := hsame entry' hentry'
          exact ⟨entry, hentry, horigin ▸ horigin', hform⟩
      · exact absurd (hone.symm.trans hremoved) (List.cons_ne_self _ _)
  | moved _ hextract _ _ _ _ hproperty _ =>
    rw [referent?, hproperty] at hname
    cases hname.symm.trans (identifier?_of_extract hextract)

/-- Two handlers of different declarations in one statement are two of its variables. -/
lemma Present.one_lt (hfirst : Present draft located) (hsecond : Present draft other) (hremoved : draft.removed = [])
    (hstatement : other.statement = located.statement) (hshape : other.shape ≠ located.shape) : ∃ index node, located.shape = .variable index ∧
      ⟨.statement located.statement, node⟩ ∈ draft.entries ∧ 1 < Draft.declaratorCount node := by
  obtain ⟨node, hnode⟩ := hfirst.entry
  obtain ⟨form, hform, hstands⟩ := hfirst.standing _ hnode rfl
  obtain ⟨form', hform', hstands'⟩ := hsecond.standing _ hnode (congrArg Origin.statement hstatement.symm)
  obtain rfl := Option.some.inj (hform.symm.trans hform')
  generalize hown : located.shape = shape at hstands hshape
  generalize hothers : other.shape = shape' at hstands' hshape
  cases hstands with
  | function _ =>
    cases hstands' with
    | function _ => exact absurd rfl hshape
  | @declarator _ declarators i _ hget _ =>
    cases hstands' with
    | @declarator _ _ j _ hget' _ =>
      rw [placeLeft_of_removed_nil hremoved] at hget hget'
      have hlt := (List.getElem?_eq_some_iff.mp hget).1
      have hlt' := (List.getElem?_eq_some_iff.mp hget').1
      have hne : j ≠ i := fun hsame => hshape (congrArg Shape.variable hsame)
      refine ⟨i, node, rfl, hnode, ?_⟩
      rw [declaratorCount_of_declared hform]
      omega

/-- The first removal leaves a handler of another declaration where it is. -/
lemma Attachment.present_of_differ (h : Attachment settings kind draft key located attached)
    (hremoved : draft.removed = []) (hdistinct : Distinct draft)
    (hvalues : ∀ entry ∈ draft.entries, HoldsValues [.statement located.statement] entry)
    (hown : Present draft located) (hother : Present draft other) (hdiffer : ¬ SameDeclaration located other) :
    Present attached.draft other where
  standing := (h.standing hremoved hvalues hother.standing).resolve_right hdiffer
  entry := by
    obtain ⟨node, hnode⟩ := hother.entry
    by_cases hstatement : other.statement = located.statement
    · -- the statement declares more than the handler, so that it stays
      obtain ⟨index, found, hshape, hfound, hmany⟩ := hown.one_lt hother hremoved hstatement
        fun hshape => hdiffer ⟨hstatement, hshape⟩
      cases h with
      | kept _ _ hentries _ _ _ _ =>
        rw [hentries]
        exact exists_entry_modify hnode _
      | moved _ _ hremoval hentries _ _ _ _ =>
        rw [hentries]
        cases hremoval with
        | erased _ hfew =>
          have hle := hfew index _ hshape (hdistinct.find?_mapNodes hfound rfl _)
          rw [declaratorCount_congr (declared?_unlist ..)] at hle
          exact absurd hmany (Nat.not_lt.mpr hle)
        | trimmed _ _ _ _ hresult =>
          rw [hresult]
          exact exists_entry_modify hnode _
    · exact ⟨_, h.mem_unlisted hnode fun horigin => hstatement (Origin.statement.inj horigin)⟩

end Present

/-! ### All handlers of a resource -/

section Resource

variable {settings : Settings} {module : Module} {routePath : String} {gap : Option String} {site : Nat}

/-- The function of a handler uses the handler's own name. -/
def RefersToItself (settings : Settings) (located : Located) : Prop :=
  ∃ handler, extract? settings .resource located = some handler ∧ located.localName ∈ handler.value.referencedValues

/-- One declaration that no other statement uses is both handlers, and its function uses its own name: it moves into the
descriptor as the loader, which still needs it, and so does the action. -/
def LosesDeclaration (settings : Settings) (module : Module) : Prop :=
  ∃ loader action statement, Twins module loader action statement ∧ UnusedBeside settings module loader ∧
    RefersToItself settings loader

/-- What the properties refer to is declared by the draft, in statements that are kept. -/
def Supported (module : Module) (properties : List Node) (draft : Draft) : Prop :=
  ∀ property ∈ properties, ∀ name ∈ referent? property, ∃ located ∈ handlersOf module,
    located.localName = name ∧ located.statement ∈ draft.kept ∧ Present draft located

@[simp] lemma takeOver_localName (located other : Located) (source : Node) :
    (located.takeOver other source).localName = located.localName := by
  unfold Located.takeOver
  split <;> rfl

@[simp] lemma takeOver_shape (located other : Located) (source : Node) :
    (located.takeOver other source).shape = located.shape := by
  unfold Located.takeOver
  split <;> rfl

lemma present_takeOver {draft : Draft} {located other : Located} {source : Node} :
    Present draft (located.takeOver other source) ↔ Present draft located := by
  have hplace : placeLeft draft (located.takeOver other source) = placeLeft draft located := by
    funext index
    rw [placeLeft, placeLeft, takeOver_statement]
  have hstanding : Standing draft (located.takeOver other source) ↔ Standing draft located := by
    rw [Standing, Standing, hplace, takeOver_statement, takeOver_localName, takeOver_shape]
  constructor
  · rintro ⟨hentry, hstands⟩
    exact ⟨by rwa [takeOver_statement] at hentry, hstanding.mp hstands⟩
  · rintro ⟨hentry, hstands⟩
    exact ⟨by rwa [takeOver_statement], hstanding.mpr hstands⟩

/-- The first handler to be attached is there if it was kept. -/
lemma supported_first {key method : String} {located : Located} {attached : Attached}
    (hlocate : locate module.body key = some located) (hhandler : located ∈ handlersOf module)
    (hattach : Attachment settings .resource (openDraft settings module routePath gap site) method located attached)
    (gap' : Option String) (properties : List Node) : Supported module [attached.property]
      (withDescriptor settings routePath gap' properties attached.draft) := by
  intro property hproperty name hname
  obtain rfl := List.mem_singleton.mp hproperty
  obtain ⟨rfl, -, hkept⟩ := hattach.kept_of_referent hname
  have hrunning := @running_start settings module routePath [(method, located)] (by simpa using ⟨key, hlocate⟩) site gap
  refine ⟨located, hhandler, rfl, ?_, ?_⟩
  · rw [withDescriptor, Draft.modify, hkept]
    exact List.mem_append_right _ (List.mem_singleton_self _)
  · exact (hattach.present_of_kept hrunning.own hname (present_openDraft hlocate)).withDescriptor gap' properties

/-- The descriptor uses a handler that was kept. -/
lemma usedBeside_of_referred {draft : Draft} {located next : Located} {property descriptor : Node} {key : String}
    {gap' : Option String} (hmem : ⟨.descriptor, descriptor⟩ ∈ draft.entries)
    (hform : property.form = .property key (variableOf located.localName)) (hlocal : next.localName = located.localName) :
    UsedBeside (withDescriptor settings routePath gap' [property] draft) next := by
  refine usedBeside_iff.mpr ⟨_, descriptor_mem_withDescriptor hmem gap' [property], nofun, ?_⟩
  rw [unlist_descriptor, mem_referencedValues_descriptor, List.flatMap_singleton, referencedValues_property hform, hlocal]
  exact .inr (.inr (List.mem_singleton_self _))

section Pair

variable {loader action : Located} {fetched posted : Attached} {gap₁ : Option String}

/-- The loader and then the action of a resource are attached. -/
structure BothAttached (settings : Settings) (module : Module) (routePath : String) (gap : Option String) (site : Nat)
    (loader action : Located) (fetched posted : Attached) (gap₁ : Option String) : Prop where
  locateLoader : locate module.body "loader" = some loader
  locateAction : locate module.body "action" = some action
  attachLoader : Attachment settings .resource (openDraft settings module routePath gap site) "GET" loader fetched
  attachAction : Attachment settings .resource (withDescriptor settings routePath gap₁ [fetched.property] fetched.draft) "POST"
    (action.takeOver loader fetched.source) posted

lemma BothAttached.start
    (h : BothAttached settings module routePath gap site loader action fetched posted gap₁) :
    Running (resourceOrigins [("GET", loader), ("POST", action)]) (openDraft settings module routePath gap site)
      [("GET", loader), ("POST", action)] := by
  refine running_start (fun handler hhandler => ?_) site gap
  rcases List.mem_pair.mp hhandler with rfl | rfl
  · exact ⟨"loader", h.locateLoader⟩
  · exact ⟨"action", h.locateAction⟩

lemma BothAttached.next
    (h : BothAttached settings module routePath gap site loader action fetched posted gap₁) :
    Running (resourceOrigins [("GET", loader), ("POST", action)])
      (withDescriptor settings routePath gap₁ [fetched.property] fetched.draft)
      [("POST", action.takeOver loader fetched.source)] :=
  h.start.step h.attachLoader gap₁ [fetched.property]

/-- When the loader is attached, the action is still there if it is another declaration or the loader was kept. -/
lemma BothAttached.present_action
    (h : BothAttached settings module routePath gap site loader action fetched posted gap₁)
    (hstays : ¬ SameDeclaration loader action ∨ ∃ name, name ∈ referent? fetched.property) :
    Present (withDescriptor settings routePath gap₁ [fetched.property] fetched.draft) action := by
  refine Present.withDescriptor ?_ _ _
  rcases hstays with hdiffer | ⟨name, hname⟩
  · exact h.attachLoader.present_of_differ rfl h.start.distinct h.start.own (present_openDraft h.locateLoader)
      (present_openDraft h.locateAction) hdiffer
  · exact h.attachLoader.present_of_kept h.start.own hname (present_openDraft h.locateAction)

/-- A loader that was kept is still there in the end. -/
lemma BothAttached.present_loader
    (h : BothAttached settings module routePath gap site loader action fetched posted gap₁) {name : String}
    (hname : name ∈ referent? fetched.property) : Present posted.draft loader := by
  obtain ⟨rfl, hreferred, hkept⟩ := h.attachLoader.kept_of_referent hname
  have hpresent : Present (withDescriptor settings routePath gap₁ [fetched.property] fetched.draft) loader :=
    (h.attachLoader.present_of_kept h.start.own hname (present_openDraft h.locateLoader)).withDescriptor _ _
  by_cases hsame : SameDeclaration loader action
  · -- the descriptor uses the declaration, so that it is kept again
    obtain ⟨node, hnode⟩ := h.attachLoader.descriptor_mem (mem_insertBefore.mpr (.inr rfl))
    have hused := @usedBeside_of_referred settings routePath _ _ (action.takeOver loader fetched.source) _ _ _ gap₁ hnode
      hreferred (by rw [takeOver_localName, localName_of_sameDeclaration h.locateLoader h.locateAction hsame])
    exact h.attachAction.present_of_kept h.next.own (h.attachAction.referent?_of_used hused) hpresent
  · have hremoved : fetched.draft.removed = [] := by
      cases h.attachLoader with
      | kept _ _ _ hnil _ _ _ => exact hnil
      | moved _ _ _ _ _ hsame _ _ => exact absurd (hkept.symm.trans hsame) (by simp)
    refine h.attachAction.present_of_differ hremoved h.next.distinct h.next.own
      (present_takeOver.mpr (h.present_action (.inl hsame))) hpresent ?_
    simpa [SameDeclaration, eq_comm] using hsame

/-- A declaration is lost if it moved as the loader and the action, which is the same, is referred to. -/
lemma BothAttached.losesDeclaration_iff
    (h : BothAttached settings module routePath gap site loader action fetched posted gap₁) :
    LosesDeclaration settings module ↔ SameDeclaration loader action ∧ referent? fetched.property = none ∧
      referent? posted.property = some loader.localName := by
  obtain ⟨-, -, statement, form, hget, hform, hby⟩ := locate_eq_some h.locateLoader
  obtain ⟨handler, hextract, -⟩ := exists_extract hby.hasBody settings .resource
  have hself : RefersToItself settings loader ↔ loader.localName ∈ handler.value.referencedValues := by
    simp [RefersToItself, hextract]
  have hbeside := @usedBeside_openDraft settings module routePath gap site loader
  have hagain (hsame : SameDeclaration loader action)
      (hunused : ¬ UsedBeside (openDraft settings module routePath gap site) loader) :
      UsedBeside (withDescriptor settings routePath gap₁ [fetched.property] fetched.draft)
        (action.takeOver loader fetched.source) ↔ loader.localName ∈ handler.value.referencedValues := by
    refine usedBeside_again hunused h.attachLoader hextract gap₁ ?_ ?_
    · rw [takeOver_statement, hsame.1]
    · rw [takeOver_localName, localName_of_sameDeclaration h.locateLoader h.locateAction hsame]
  constructor
  · rintro ⟨loader', action', statement', htwins, hunused, hrefers⟩
    obtain rfl := Option.some.inj (h.locateLoader.symm.trans htwins.locateLoader)
    obtain rfl := Option.some.inj (h.locateAction.symm.trans htwins.locateAction)
    have hnot := hbeside.mpr hunused
    refine ⟨htwins.same, ?_, ?_⟩
    · rcases h.attachLoader.referent?_cases with ⟨hform, -⟩ | ⟨hnone, -⟩
      · have hreferred : referent? fetched.property = some loader.localName := by
          rw [referent?, hform]
          rfl
        exact absurd (h.attachLoader.used_of_referent hby.hasBody hreferred) hnot
      · exact hnone
    · rw [h.attachAction.referent?_of_used ((hagain htwins.same hnot).mpr (hself.mp hrefers)), takeOver_localName,
        localName_of_sameDeclaration h.locateLoader h.locateAction htwins.same]
  · rintro ⟨hsame, hmoved, hreferred⟩
    have hnot : ¬ UsedBeside (openDraft settings module routePath gap site) loader := fun hused => by
      rw [h.attachLoader.referent?_of_used hused] at hmoved
      cases hmoved
    have hbody : HasBody (action.takeOver loader fetched.source).function := by
      rw [takeOver_of_same hsame]
      exact hasBody_source h.attachLoader hby.hasBody
    have hused := h.attachAction.used_of_referent hbody hreferred
    exact ⟨loader, action, statement, ⟨h.locateLoader, h.locateAction, hsame, hget⟩, hbeside.mp hnot,
      hself.mpr ((hagain hsame hnot).mp hused)⟩

/-- What the properties of two handlers refer to is declared in the end, unless a declaration is lost. -/
theorem BothAttached.supported
    (h : BothAttached settings module routePath gap site loader action fetched posted gap₁)
    (hstays : ¬ LosesDeclaration settings module) (gap₂ : Option String) (properties : List Node) :
    Supported module [fetched.property, posted.property]
      (withDescriptor settings routePath gap₂ properties posted.draft) := by
  intro property hproperty name hname
  rcases List.mem_pair.mp hproperty with rfl | rfl
  · obtain ⟨rfl, -, hkept⟩ := h.attachLoader.kept_of_referent hname
    refine ⟨loader, handler_of_locate (.inl rfl) h.locateLoader, rfl, h.attachAction.kept_subset ?_,
      (h.present_loader hname).withDescriptor _ _⟩
    change loader.statement ∈ fetched.draft.kept
    rw [hkept]
    exact List.mem_append_right _ (List.mem_singleton_self _)
  · obtain ⟨rfl, hreferred, hkept⟩ := h.attachAction.kept_of_referent hname
    have hpresent : Present (withDescriptor settings routePath gap₁ [fetched.property] fetched.draft) action := by
      refine h.present_action (Classical.or_iff_not_imp_left.mpr fun hsame => ?_)
      rw [not_not] at hsame
      by_contra hnone
      refine hstays (h.losesDeclaration_iff.mpr ⟨hsame, ?_, ?_⟩)
      · exact Option.eq_none_iff_forall_not_mem.mpr fun other hother => hnone ⟨other, hother⟩
      · rw [hname, takeOver_localName, localName_of_sameDeclaration h.locateLoader h.locateAction hsame]
    refine ⟨action, handler_of_locate (.inr rfl) h.locateAction, (takeOver_localName ..).symm, ?_,
      (h.attachAction.present_of_kept h.next.own hname hpresent).withDescriptor _ _⟩
    change action.statement ∈ posted.draft.kept
    rw [hkept, takeOver_statement]
    exact List.mem_append_right _ (List.mem_singleton_self _)

end Pair

end Resource

end RouteMigration.Proofs
