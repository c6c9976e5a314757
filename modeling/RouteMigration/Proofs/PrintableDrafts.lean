import RouteMigration.Proofs.Descriptors
import RouteMigration.Proofs.Finishing
import RouteMigration.Proofs.PrintableEdits

/-!
# Printable drafts

When all statements of a module are printable, so are those of its drafts and of its migrated body: the
statements that stay, what is left of the others, and the new descriptor with the handlers that moved there.
-/

namespace RouteMigration.Proofs
open Syntax Route

/-- A printable node in the place of a statement. -/
structure PrintableStatement (node : Node) : Prop where
  printable : Printable node
  statement : node.form.isStatement = true

lemma printableStatement_congr {a b : Node} (h : a.form = b.form) : PrintableStatement a ↔ PrintableStatement b := by
  constructor
  · rintro ⟨hprintable, hstatement⟩
    exact ⟨(printable_congr h).mp hprintable, h ▸ hstatement⟩
  · rintro ⟨hprintable, hstatement⟩
    exact ⟨(printable_congr h).mpr hprintable, h ▸ hstatement⟩

lemma printableStatement_exportNamed {node : Node} {form : ExportForm Node} (hform : node.form = .exportNamed form) :
    PrintableStatement node ↔ ∀ declaration ∈ form.declaration, PrintableStatement declaration := by
  constructor
  · intro h declaration hdeclaration
    have hmem : declaration ∈ form.declaration.toList := Option.mem_toList.mpr hdeclaration
    have hfree : declaration ∈ freeParts node.form := by rwa [hform]
    have hplace : declaration ∈ statementParts node.form := by rwa [hform]
    exact ⟨h.printable.part hfree, h.printable.fits.root.statements declaration hplace⟩
  · intro h
    have hparts : ∀ part ∈ form.declaration.toList, PrintableStatement part :=
      fun part hpart => h part (Option.mem_toList.mp hpart)
    refine ⟨printable_of_form hform rfl rfl ?_ ?_, by rw [hform]; rfl⟩
    · exact fun part hpart => (hparts part hpart).printable
    · exact fun part hpart => (hparts part hpart).statement

/-! ### Rewritten statements -/

lemma printableStatement_unlist (names : List String) {statement : Node} (h : PrintableStatement statement) :
    PrintableStatement (unlist names statement) := by
  rcases unlist_cases names statement with hsame | ⟨form, -, hnone, -, hunlist⟩
  · rwa [hsame]
  · rw [hunlist, printableStatement_exportNamed (form_withForm ..)]
    intro declaration hdeclaration
    rw [withoutExports, hnone] at hdeclaration
    cases hdeclaration

lemma printableStatement_eraseSpecifier (index : Nat) {statement : Node} (h : PrintableStatement statement) :
    PrintableStatement (eraseSpecifier index statement) := by
  rcases eraseSpecifier_cases index statement with hsame | ⟨form, hform, herase⟩
  · rwa [hsame]
  · rw [herase, printableStatement_exportNamed (form_withForm ..)]
    exact (printableStatement_exportNamed hform).mp h

lemma printableStatement_withoutExport {statement : Node} (h : PrintableStatement statement) :
    PrintableStatement (withoutExport statement) := by
  unfold withoutExport
  cases hu : Draft.unexported statement with
  | none => exact h
  | some declaration =>
    obtain ⟨form, inner, hform, hinner, hsame⟩ := unexported_eq_some hu
    exact (printableStatement_congr hsame).mpr ((printableStatement_exportNamed hform).mp h inner hinner)

lemma printableStatement_trimmed (index : Nat) {a b : Node} (h : a.form = trimmed index b.form)
    (hb : PrintableStatement b) : PrintableStatement a := by
  cases hform : b.form with
  | variableDeclaration kind declarators =>
    rw [hform, trimmed] at h
    refine ⟨printable_of_ordinary h rfl (fun part hpart => hb.printable.part ?_), by rw [h]; rfl⟩
    rw [hform]
    exact (List.eraseIdx_sublist ..).subset hpart
  | _ =>
    rw [hform, trimmed, ← hform] at h
    · exact (printableStatement_congr h).mpr hb
    · simp

lemma printableStatement_eraseDeclarator (index : Nat) {statement : Node} (h : PrintableStatement statement) :
    PrintableStatement (Draft.eraseDeclarator index statement) := by
  rcases exportNamed_or_other statement with ⟨form, hform⟩ | hform
  · obtain ⟨declaration, herased, hdeclaration⟩ := eraseDeclarator_exportNamed index hform
    rw [printableStatement_exportNamed herased]
    intro erased hmem
    dsimp only at hmem
    rw [Option.mem_def.mp hmem, Option.map_some] at hdeclaration
    obtain ⟨_, hmem, hsame⟩ := Option.map_eq_some_iff.mp hdeclaration.symm
    obtain ⟨inner, hinner, rfl⟩ := Option.map_eq_some_iff.mp hmem
    exact printableStatement_trimmed index hsame.symm ((printableStatement_exportNamed hform).mp h inner hinner)
  · exact printableStatement_trimmed index (form_eraseDeclarator_other index hform) h

/-! ### New statements -/

lemma printable_variableOf (name : String) : Printable (variableOf name) :=
  printable_of_ordinary rfl rfl (List.forall_mem_nil _)

lemma printable_constant (name : String) {value : Node} (h : Printable value) : Printable (constant name value) := by
  have hdeclarator : Printable (.make (.declarator (variableOf name) (some value) none)) := by
    refine printable_of_ordinary rfl rfl (fun part hpart => ?_)
    rcases List.mem_pair.mp hpart with rfl | rfl
    · exact printable_variableOf name
    · exact h
  refine printable_of_ordinary rfl rfl (fun part hpart => ?_)
  rw [List.mem_singleton.mp hpart]
  exact hdeclarator

lemma printable_callOf {callee : Node} {arguments : List Node} (hcallee : Printable callee)
    (harguments : ∀ argument ∈ arguments, Printable argument) : Printable (callOf callee arguments) := by
  have hjoin : Printable (.join "arguments" arguments "(" ")") := by
    refine printable_of_ordinary rfl rfl (fun part hpart => harguments part ?_)
    have hpart : part ∈ (Node.join "arguments" arguments "(" ")").children := hpart
    rwa [children_join] at hpart
  refine printable_of_ordinary rfl rfl (fun part hpart => ?_)
  rcases List.mem_pair.mp hpart with rfl | rfl
  · exact hcallee
  · exact hjoin

/-- A property with a printable value. -/
def PrintableProperty (property : Node) : Prop :=
  ∃ key value, property.form = .property key value ∧ Printable value

lemma printable_objectExpression {properties : List Node} (h : ∀ property ∈ properties, PrintableProperty property) :
    Printable (.make (.objectExpression properties)) where
  free := rfl
  fits := by
    refine throughout_iff.mpr ⟨⟨rfl, List.forall_mem_nil _, List.forall_mem_nil _⟩, fun property hproperty => ?_⟩
    obtain ⟨key, value, hform, hvalue⟩ := h property hproperty
    refine throughout_iff.mpr ⟨⟨?_, fun part hpart => ?_, ?_⟩, fun part hpart => ?_⟩
    · rw [hform]
      rfl
    · rw [hform] at hpart
      rw [List.mem_singleton.mp hpart]
      exact hvalue.free
    · rw [hform]
      exact List.forall_mem_nil _
    · rw [Node.children, hform] at hpart
      rw [List.mem_singleton.mp hpart]
      exact hvalue.fits

lemma printable_factoryCall (factory routePath : String) : Printable (factoryCall factory routePath) := by
  refine printable_callOf (printable_variableOf factory) fun argument hargument => ?_
  rw [List.mem_singleton.mp hargument]
  exact printable_of_ordinary rfl rfl (List.forall_mem_nil _)

lemma printableStatement_exportedConstant (name : String) {value : Node} (h : Printable value) :
    PrintableStatement (exportedConstant name value) := by
  refine (printableStatement_exportNamed (exportedConstant_form rfl)).mpr fun declaration hdeclaration => ?_
  cases hdeclaration
  exact ⟨printable_constant name h, rfl⟩

lemma printableStatement_descriptorOf (settings : Settings) (routePath : String) {properties : List Node}
    (h : ∀ property ∈ properties, PrintableProperty property) (kind : Kind) :
    PrintableStatement (descriptorOf settings routePath properties kind) := by
  have harguments : ∀ argument ∈ [Node.make (.objectExpression properties)], Printable argument := by
    intro argument hargument
    rw [List.mem_singleton.mp hargument]
    exact printable_objectExpression h
  have hfactory := printable_factoryCall (factoryName settings kind) routePath
  cases kind with
  | page => exact printableStatement_exportedConstant _ (printable_callOf hfactory harguments)
  | resource =>
    have hmember : Printable (.make (.member (factoryCall settings.resourceFactory routePath) settings.resourceMethod)) := by
      refine printable_of_ordinary rfl rfl (fun part hpart => ?_)
      rw [List.mem_singleton.mp hpart]
      exact hfactory
    exact printableStatement_exportedConstant _ (printable_callOf hmember harguments)

lemma printableStatement_of_import {statement : Node} (h : (import? statement).isSome) : PrintableStatement statement := by
  obtain ⟨form, hform⟩ := import?_isSome h
  exact ⟨printable_of_ordinary hform rfl (List.forall_mem_nil _), by rw [hform]; rfl⟩

lemma printableStatement_inlineStatement (fresh : String) {statement : Node} (h : PrintableStatement statement) :
    PrintableStatement (inlineStatement fresh statement).1 := by
  rcases exportDefault_or_other statement with ⟨declaration, hform⟩ | hform
  · have hdeclaration : Printable declaration := h.printable.part (by
      rw [hform]
      exact List.mem_singleton_self declaration)
    obtain ⟨hinline, -⟩ := inlineStatement_default fresh hform
    rw [printableStatement_congr hinline]
    rcases inlineComponent_cases fresh declaration with ⟨form, hfunction, hcomponent, -⟩ |
      ⟨name, tail, hclass, hcomponent, -⟩ | ⟨-, -, hcomponent⟩
    · refine ⟨printable_of_ordinary hcomponent rfl (fun part hpart => hdeclaration.part ?_), ?_⟩
      · rw [hfunction]
        exact hpart
      · rw [hcomponent]
        rfl
    · refine ⟨printable_of_ordinary hcomponent rfl (fun part hpart => hdeclaration.part ?_), ?_⟩
      · rw [hclass]
        exact hpart
      · rw [hcomponent]
        rfl
    · rw [hcomponent]
      exact ⟨printable_constant fresh hdeclaration, rfl⟩
  · rwa [inlineStatement_other fresh hform]

/-! ### Handlers in their statements -/

/-- A handler that was located in a printable module is a printable function. -/
lemma printable_locate {body : List Node} {name : String} {located : Located}
    (hbody : ∀ statement ∈ body, PrintableStatement statement) (h : locate body name = some located) :
    Printable located.function :=
  hereditary_printable.locate (fun statement hstatement => (hbody statement hstatement).printable) h

/-! ### Drafts -/

/-- A draft of nothing but printable statements. -/
def PrintableDraft (draft : Draft) : Prop :=
  ∀ entry ∈ draft.entries, PrintableStatement entry.node

lemma printableDraft_ofBody {body : List Node} (h : ∀ statement ∈ body, PrintableStatement statement) :
    PrintableDraft (.ofBody body) := by
  intro entry hentry
  obtain ⟨index, -, hget⟩ := mem_ofBody.mp hentry
  exact h _ (List.mem_of_getElem? hget)

lemma AttachStep.printable {located : Located} {entry entry' : Entry} (h : AttachStep located entry (some entry'))
    (hentry : PrintableStatement entry.node) : PrintableStatement entry'.node := by
  have hunlisted := printableStatement_unlist [located.name] hentry
  cases h with
  | unlisted => exact hunlisted
  | own _ hf =>
    rcases hf with rfl | ⟨index, rfl⟩
    · exact printableStatement_withoutExport hunlisted
    · exact printableStatement_eraseDeclarator index hunlisted

lemma DetachStep.printable {fresh : String} {default : DefaultExport} {entry entry' : Entry}
    (h : DetachStep fresh default entry (some entry')) (hentry : PrintableStatement entry.node) :
    PrintableStatement entry'.node := by
  cases h with
  | other _ => exact hentry
  | unlisted _ _ => exact printableStatement_eraseSpecifier _ hentry
  | inlined _ _ => exact printableStatement_inlineStatement fresh hentry

variable {settings : Settings} {module : Module} {routePath : String}

lemma Detachment.printable {default : DefaultExport} {body : List Node} {result : Draft × String}
    {before after : List Entry} {component? : Option Entry}
    (h : Detachment settings default (.ofBody body) result before after component?)
    (hbody : ∀ statement ∈ body, PrintableStatement statement) : PrintableDraft result.1 := by
  intro entry hentry
  rcases h.mem.mp hentry with hentry | hentry
  · obtain ⟨source, hsource, hstep⟩ := h.edited.origin hentry
    exact hstep.printable (printableDraft_ofBody hbody source hsource)
  · obtain ⟨_, _, _, _, _, -, rfl, -⟩ := h.component entry hentry
    exact printableStatement_of_import (import?_componentImport ..)

section Attachment

variable {kind : Kind} {draft : Draft} {key : String} {located : Located} {attached : Attached}

lemma Attachment.printableDraft (h : Attachment settings kind draft key located attached)
    (hdraft : PrintableDraft draft) : PrintableDraft attached.draft := by
  intro entry hentry
  obtain ⟨source, hsource, hstep⟩ := h.edited.origin hentry
  exact hstep.printable (hdraft source hsource)

/-- The property of a printable function is printable, and so is what is left of the function. -/
lemma Attachment.printable (h : Attachment settings kind draft key located attached)
    (hfunction : Printable located.function) : PrintableProperty attached.property ∧ Printable attached.source := by
  cases h with
  | kept _ _ _ _ _ hproperty hsource =>
    rw [hsource]
    exact ⟨⟨key, _, hproperty, printable_variableOf _⟩, hfunction⟩
  | moved _ hextract _ _ _ _ hproperty hsource =>
    obtain ⟨hvalue, hleft⟩ := printable_extract hextract hfunction
    rw [hsource]
    exact ⟨⟨key, _, hproperty, hvalue⟩, hleft⟩

end Attachment

theorem page_printable {default : DefaultExport} {loader : Located} {action : Option Located} {draft : Draft}
    (hbody : ∀ statement ∈ module.body, PrintableStatement statement)
    (hloader : locate module.body "loader" = some loader)
    (h : migratePage settings module routePath default loader action = .ok draft) : PrintableDraft draft := by
  obtain ⟨attached, entries, hattach, hform, hdraft⟩ := migratePage_eq_ok h
  obtain ⟨before, after, component?, hdetach⟩ := detachDefault_eq settings (.ofBody module.body) default
  have hattached := hattach.printableDraft (hdetach.printable hbody)
  obtain ⟨hproperty, -⟩ := hattach.printable (printable_locate hbody hloader)
  obtain ⟨-, -, hentries⟩ := page_entries hdetach.distinct hdetach.origin_ne hattach hform hdraft
  intro entry hentry
  rcases hentries entry hentry with rfl | ⟨source, hsource, -, hsame⟩
  · refine printableStatement_descriptorOf settings routePath (fun property hmem => ?_) .page
    rcases List.mem_pair.mp hmem with rfl | rfl
    · exact hproperty
    · exact ⟨"component", _, rfl, printable_variableOf _⟩
  · exact (printableStatement_congr hsame).mpr (hattached source hsource)

/-- What attaching the handlers of a resource keeps: everything so far is printable, and so are the functions
of the handlers to come. -/
structure PrintableRun (draft : Draft) (properties : List Node) (rest : List (String × Located)) : Prop where
  draft : PrintableDraft draft
  properties : ∀ property ∈ properties, PrintableProperty property
  functions : ∀ handler ∈ rest, Printable handler.2.function

lemma printable_handOver {located : Located} {source : Node} {rest : List (String × Located)} (hsource : Printable source)
    (hrest : ∀ handler ∈ rest, Printable handler.2.function) :
    ∀ handler ∈ handOver located source rest, Printable handler.2.function := by
  cases rest with
  | nil => exact List.forall_mem_nil _
  | cons next rest =>
    intro handler hhandler
    rcases List.mem_cons.mp hhandler with rfl | hhandler
    · dsimp only [Located.takeOver]
      split
      · exact hsource
      · exact hrest next (List.mem_cons_self ..)
    · exact hrest handler (List.mem_cons_of_mem _ hhandler)

lemma PrintableRun.step {draft : Draft} {properties : List Node} {key : String} {located : Located}
    {rest : List (String × Located)} {attached : Attached} (h : PrintableRun draft properties ((key, located) :: rest))
    (hattach : Attachment settings .resource draft key located attached) (gap : Option String) :
    PrintableRun (withDescriptor settings routePath gap (properties ++ [attached.property]) attached.draft)
      (properties ++ [attached.property]) (handOver located attached.source rest) := by
  obtain ⟨hproperty, hsource⟩ := hattach.printable (h.functions _ (List.mem_cons_self ..))
  have hproperties : ∀ property ∈ properties ++ [attached.property], PrintableProperty property := by
    intro property hmem
    rcases List.mem_append.mp hmem with hmem | hmem
    · exact h.properties property hmem
    · rwa [List.mem_singleton.mp hmem]
  refine ⟨fun entry hentry => ?_, hproperties, printable_handOver hsource fun handler hhandler =>
    h.functions handler (List.mem_cons_of_mem _ hhandler)⟩
  rcases mem_withDescriptor hentry with rfl | ⟨hentry, -⟩
  · exact (printableStatement_congr (form_withGap ..)).mpr
      (printableStatement_descriptorOf settings routePath hproperties .resource)
  · exact hattach.printableDraft h.draft entry hentry

theorem resource_printable {handlers : List (String × Located)} {draft : Draft} (hne : handlers ≠ [])
    (hbody : ∀ statement ∈ module.body, PrintableStatement statement)
    (hhandlers : ∀ handler ∈ handlers, ∃ name, locate module.body name = some handler.2)
    (h : migrateResource settings module routePath handlers = .ok draft) : PrintableDraft draft := by
  obtain ⟨first, gap, attached, hrun, rfl⟩ := migrateResource_eq_ok hne h
  have hempty : ∀ property ∈ ([] : List Node), PrintableProperty property := List.forall_mem_nil _
  have hstart : PrintableRun ((Draft.ofBody module.body).insertBefore (.statement first)
      ⟨.descriptor, withGap gap (resourceDescriptor settings routePath [])⟩) [] handlers := by
    refine ⟨fun entry hentry => ?_, hempty, fun handler hhandler => ?_⟩
    · rcases mem_insertBefore.mp hentry with hentry | rfl
      · exact printableDraft_ofBody hbody entry hentry
      · exact (printableStatement_congr (form_withGap ..)).mpr
          (printableStatement_descriptorOf settings routePath hempty .resource)
    · obtain ⟨name, hname⟩ := hhandlers handler hhandler
      exact printable_locate hbody hname
  obtain ⟨properties, hdistinct, hprintable⟩ := attachAll_run
    (P := fun draft properties rest => Distinct draft ∧ PrintableRun draft properties rest)
    (fun _ _ _ _ _ _ gap ⟨hdistinct, hprintable⟩ hattach =>
      ⟨distinct_modify (hattach.distinct hdistinct) _ _, hprintable.step hattach gap⟩)
    ⟨distinct_start module.body first _, hstart⟩ hrun
  exact fun entry hentry => hprintable.draft entry ((settleDescriptor_perm hdistinct).subset hentry)

/-- The draft of a printable module is printable. -/
theorem Drafting.printable {kind : Kind} {draft : Draft} (h : Drafting settings module routePath kind draft)
    (hbody : ∀ statement ∈ module.body, PrintableStatement statement) : PrintableDraft draft := by
  cases h with
  | page _ _ hloader hpage => exact page_printable hbody hloader hpage
  | resource _ _ hhandlers hresource =>
    exact resource_printable hhandlers hbody (fun _ => exists_locate_of_mem_methodsOf) hresource

/-! ### Finished bodies -/

lemma mem_of_importEdited {body body' : List Node} (h : Edited ImportEdit body body') {statement : Node}
    (hstatement : statement ∈ body') : statement ∈ body ∨ (import? statement).isSome := by
  obtain ⟨before, hbefore, hedit⟩ := h.origin hstatement
  cases hedit with
  | other _ => exact .inl hbefore
  | changed _ hplace => exact .inr (hplace statement rfl).1

/-- A statement of a finished body is one of the draft, or an import. -/
lemma mem_finish {kind : Kind} {used : List String} {body : List Node} {statement : Node}
    (h : statement ∈ finish settings kind used body) : statement ∈ body ∨ (import? statement).isSome := by
  obtain ⟨prologue, rest, hedited, -, -, happly⟩ :=
    applyImports_eq (dropLegacy settings used body) (pendingImports settings kind)
  have hmem := List.mem_of_mem_filter h
  rw [happly, List.mem_append, List.mem_append] at hmem
  have hfresh (requests : List (String × List String)) (hnew : statement ∈ freshImports requests) :
      (import? statement).isSome := by
    obtain ⟨request, -, rfl⟩ := List.mem_map.mp hnew
    rfl
  have hkept (hmem : statement ∈ prologue ++ rest) : statement ∈ body ∨ (import? statement).isSome := by
    rcases mem_of_importEdited hedited hmem with hmem | himport
    · exact mem_of_importEdited (dropLegacy_edited settings used body) hmem
    · exact .inr himport
  rcases hmem with (hmem | hmem) | hmem
  · exact hkept (List.mem_append_left _ hmem)
  · exact .inr (hfresh _ hmem)
  · exact hkept (List.mem_append_right _ hmem)

/-- The migrated body of a printable module is printable. -/
theorem printable_finish {kind : Kind} {used : List String} {draft : Draft} (h : PrintableDraft draft) :
    ∀ statement ∈ finish settings kind used draft.body, PrintableStatement statement := by
  intro statement hstatement
  rcases mem_finish hstatement with hmem | himport
  · obtain ⟨entry, hentry, rfl⟩ := List.mem_map.mp hmem
    exact h entry hentry
  · exact printableStatement_of_import himport

end RouteMigration.Proofs
