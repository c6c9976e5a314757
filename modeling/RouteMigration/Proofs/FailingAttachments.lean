import RouteMigration.Proofs.Descriptors
import RouteMigration.Proofs.Extractions
import RouteMigration.Proofs.ReleasedExports

/-!
# Attachments that fail

An attachment looks up the statement of its handler. It fails if the statement is gone and the handler has to be
kept, or if the declarator has been taken out before and the statement is still there. A handler that is attached
first finds both, and so does the second one unless it is the same variable or function as the first.
-/

namespace RouteMigration.Proofs
open Syntax Route

variable {settings : Settings} {module : Module} {kind : Kind} {draft : Draft} {key : String} {located : Located}
  {fault : Draft.Fault}

/-- A computation that cannot fail later fails where its first part does. -/
lemma except_bind_eq_error_iff {ε α β : Type} {x : Except ε α} {f : α → Except ε β} {e : ε}
    (h : ∀ a, x = .ok a → f a ≠ .error e) : (x >>= f) = .error e ↔ x = .error e := by
  cases x with
  | error other =>
    change Except.error other = Except.error e ↔ _
    rw [Except.error.injEq, Except.error.injEq]
  | ok a => exact iff_of_false (h a rfl) nofun

lemma except_map_eq_error_iff {ε α β : Type} {x : Except ε α} {f : α → β} {e : ε} :
    f <$> x = .error e ↔ x = .error e := by
  cases x with
  | error other =>
    change Except.error other = Except.error e ↔ _
    rw [Except.error.injEq, Except.error.injEq]
  | ok a => exact iff_of_false nofun nofun

/-! ### What an attachment looks up -/

lemma keep_eq_error_iff : draft.keep module located = .error fault ↔
    draft.find? (.statement located.statement) = none ∧
      (module.body[located.statement]?).any (Draft.exportsOnly located) = true ∧ fault = .statementGone := by
  unfold Draft.keep
  dsimp only
  cases hfind : draft.find? (.statement located.statement) with
  | none =>
    have hsame : Draft.find? { draft with kept := draft.kept ++ [located.statement] }
        (.statement located.statement) = none := hfind
    rw [hsame]
    dsimp only
    split
    · next hexports => simp [hexports, eq_comm]
    · next hexports => simp [hexports]
  | some statement =>
    have hsame : Draft.find? { draft with kept := draft.kept ++ [located.statement] }
        (.statement located.statement) = some statement := hfind
    rw [hsame]
    dsimp only
    split <;> simp

lemma removeDeclaration_eq_error_iff : draft.removeDeclaration located = .error fault ↔
    ∃ index statement, located.shape = .variable index ∧
      draft.find? (.statement located.statement) = some statement ∧ 1 < Draft.declaratorCount statement ∧
      (located.statement, index) ∈ draft.removed ∧ fault = .declaratorGone := by
  unfold Draft.removeDeclaration
  dsimp only
  split
  · next index statement hshape hfind =>
    rw [hshape, hfind]
    split
    · next hcount => simp [Nat.not_lt.mpr hcount]
    · next hcount =>
      split
      · next hremoved => simp [hremoved, Nat.lt_of_not_le hcount, eq_comm]
      · next hremoved => simp [hremoved]
  · next hother =>
    simp only [reduceCtorEq, false_iff]
    rintro ⟨index, statement, hshape, hfind, -⟩
    exact hother index statement hshape hfind

/-- An attachment fails where the handler cannot be kept, or where its declaration cannot be removed. -/
lemma attach_eq_error_iff (hbody : HasBody located.function) :
    attach settings module kind draft key located = .error fault ↔
      ((draft.mapNodes (unlist [located.name])).isUsedElsewhere located.localName
          (.statement located.statement) = true ∧
        (draft.mapNodes (unlist [located.name])).keep module located = .error fault) ∨
      ((draft.mapNodes (unlist [located.name])).isUsedElsewhere located.localName
          (.statement located.statement) = false ∧
        (draft.mapNodes (unlist [located.name])).removeDeclaration located = .error fault) := by
  obtain ⟨handler, hextract, -⟩ := exists_extract hbody settings kind
  rw [attach]
  dsimp only
  cases hused : (draft.mapNodes (unlist [located.name])).isUsedElsewhere located.localName
      (.statement located.statement) with
  | true =>
    simp only [if_true, true_and, reduceCtorEq, false_and, or_false]
    exact except_bind_eq_error_iff fun _ _ => nofun
  | false =>
    simp only [Bool.false_eq_true, if_false, hextract, true_and, false_and, false_or]
    exact except_bind_eq_error_iff fun _ _ => nofun

/-- An attachment succeeds while the statement of its handler is there and its declarator has not been taken out. -/
lemma exists_attach (hbody : HasBody located.function) {entry : Entry} (hentry : entry ∈ draft.entries)
    (horigin : entry.origin = .statement located.statement)
    (hremoved : ∀ index, located.shape = .variable index → (located.statement, index) ∉ draft.removed) :
    ∃ attached, attach settings module kind draft key located = .ok attached := by
  cases hattach : attach settings module kind draft key located with
  | ok attached => exact ⟨attached, rfl⟩
  | error fault =>
    exfalso
    rcases (attach_eq_error_iff hbody).mp hattach with ⟨-, hkeep⟩ | ⟨-, hremove⟩
    · obtain ⟨node, hfind⟩ := find?_isSome (mem_mapNodes hentry (unlist [located.name]))
      have hnone := (keep_eq_error_iff.mp hkeep).1
      rw [← horigin] at hnone
      cases hfind.symm.trans hnone
    · obtain ⟨index, statement, hshape, -, -, hmem, -⟩ := removeDeclaration_eq_error_iff.mp hremove
      exact hremoved index hshape hmem

/-! ### The first handler -/

/-- The name of a handler is used by another statement of the draft, without its export. -/
def UsedBeside (draft : Draft) (located : Located) : Prop :=
  (draft.mapNodes (unlist [located.name])).isUsedElsewhere located.localName (.statement located.statement) = true

/-- What the first attachment leaves of the statement of its handler. -/
inductive FirstAttached (draft : Draft) (located : Located) (statement : Node) (result : Draft) : Prop where
  | kept {node : Node} : UsedBeside draft located → result.removed = [] →
      ⟨.statement located.statement, node⟩ ∈ result.entries → declared? node = declared? statement →
      FirstAttached draft located statement result
  | erased : ¬ UsedBeside draft located → result.removed = [] →
      (∀ index, located.shape = .variable index → Draft.declaratorCount statement ≤ 1) →
      (∀ entry ∈ result.entries, entry.origin ≠ .statement located.statement) →
      FirstAttached draft located statement result
  | trimmed {index : Nat} : ¬ UsedBeside draft located → result.removed = [(located.statement, index)] →
      located.shape = .variable index → 1 < Draft.declaratorCount statement →
      ⟨.statement located.statement, Draft.eraseDeclarator index (unlist [located.name] statement)⟩ ∈ result.entries →
      FirstAttached draft located statement result

lemma Attachment.first {attached : Attached} {statement : Node}
    (h : Attachment settings kind draft key located attached) (hbody : HasBody located.function)
    (hdistinct : Distinct draft) (hremoved : draft.removed = [])
    (hentry : ⟨.statement located.statement, statement⟩ ∈ draft.entries) (hvalues : DeclaresValues statement) :
    FirstAttached draft located statement attached.draft := by
  have hfind := hdistinct.find?_mapNodes hentry rfl (unlist [located.name])
  have hcount := declaratorCount_congr (declared?_unlist [located.name] statement)
  have hmem := mem_mapNodes hentry (unlist [located.name])
  cases h with
  | @kept f hused hf hentries hsame _ _ _ =>
    have hused : UsedBeside draft located := hused.resolve_right fun hnone => by
      obtain ⟨handler, hextract, -⟩ := exists_extract hbody settings kind
      cases hextract.symm.trans hnone
    refine @FirstAttached.kept _ _ _ _ (f (unlist [located.name] statement)) hused (hsame.trans hremoved) ?_ ?_
    · rw [hentries]
      exact mem_modify hmem rfl f
    · have hunlisted := (declaresValues_congr (declared?_unlist [located.name] statement)).mpr hvalues
      rcases hf.eq with rfl | rfl
      · exact declared?_unlist ..
      · rw [(declaresValues_withoutExport hunlisted).2, declared?_unlist]
  | moved hunused _ hremoval hentries hsame _ _ _ =>
    have hunused : ¬ UsedBeside draft located := by rw [UsedBeside, hunused]; exact Bool.false_ne_true
    cases hremoval with
    | erased hresult hfew =>
      refine .erased hunused ?_ (fun index hshape => hcount ▸ hfew index _ hshape hfind) fun entry hgone => ?_
      · rw [hsame, hresult]
        exact hremoved
      · rw [hentries, hresult] at hgone
        obtain ⟨other, -, horigin, hne, -⟩ := mem_erase_unlisted hgone
        rwa [horigin]
    | @trimmed index found hshape hfound hmany _ hresult =>
      obtain rfl := Option.some.inj (hfind.symm.trans hfound)
      have hplace : placeLeft (draft.mapNodes (unlist [located.name])) located index = index :=
        placeLeft_of_removed_nil hremoved located index
      refine .trimmed hunused ?_ hshape (hcount ▸ hmany) ?_
      · rw [hsame, hresult]
        exact congrArg _ hremoved
      · rw [hentries, hresult, hplace]
        exact mem_modify hmem rfl _

/-! ### The second handler -/

/-- One variable or function is both handlers. -/
def SameDeclaration (first second : Located) : Prop :=
  second.statement = first.statement ∧ second.shape = first.shape

instance (first second : Located) : Decidable (SameDeclaration first second) :=
  inferInstanceAs (Decidable (_ ∧ _))

section Resource

variable {routePath : String} {gap : Option String} {site : Nat} {first second : Located} {attached : Attached}

/-- The draft of a resource before any handler is attached. -/
abbrev openDraft (settings : Settings) (module : Module) (routePath : String) (gap : Option String) (site : Nat) :
    Draft :=
  (Draft.ofBody module.body).insertBefore (.statement site)
    ⟨.descriptor, withGap gap (resourceDescriptor settings routePath [])⟩

lemma mem_openDraft {index : Nat} {statement : Node} (hget : module.body[index]? = some statement) :
    ⟨.statement index, statement⟩ ∈ (openDraft settings module routePath gap site).entries :=
  mem_insertBefore.mpr (.inl (mem_ofBody.mpr ⟨index, rfl, hget⟩))

lemma mem_withDescriptor_of_statement {index : Nat} {node : Node} (properties : List Node)
    (h : ⟨.statement index, node⟩ ∈ draft.entries) :
    ⟨.statement index, node⟩ ∈ (withDescriptor settings routePath gap properties draft).entries := by
  rw [withDescriptor, entries_modify]
  refine List.mem_map.mpr ⟨_, h, if_neg fun horigin => ?_⟩
  cases horigin

/-- The first handler can be attached. -/
lemma exists_attach_first (hlocate : locate module.body key = some first) (method : String) :
    ∃ attached, attach settings module .resource (openDraft settings module routePath gap site) method first =
      .ok attached := by
  obtain ⟨-, -, statement, form, hget, -, hby⟩ := locate_eq_some hlocate
  exact exists_attach hby.hasBody (mem_openDraft hget) rfl fun _ _ => List.not_mem_nil

/-- Two variables of one statement are more than one. -/
lemma one_lt_of_ne {firstKey secondKey : String} (hfirst : locate module.body firstKey = some first)
    (hsecond : locate module.body secondKey = some second) (hstatement : second.statement = first.statement)
    (hshape : second.shape ≠ first.shape) {statement : Node} (hget : module.body[first.statement]? = some statement) :
    ∃ i j, first.shape = .variable i ∧ second.shape = .variable j ∧ i ≠ j ∧ 1 < Draft.declaratorCount statement := by
  obtain ⟨-, -, found, form, hfound, hform, hby⟩ := locate_eq_some hfirst
  obtain ⟨-, -, found', form', hfound', hform', hby'⟩ := locate_eq_some hsecond
  obtain rfl := Option.some.inj (hget.symm.trans hfound)
  rw [hstatement, hget] at hfound'
  obtain rfl := Option.some.inj hfound'
  obtain rfl := Option.some.inj (hform.symm.trans hform')
  rcases hby with ⟨hfunction, -, -, -, -⟩ | @⟨keyword, declarators, i, _, _, _, _, hi, hat, -, -, -⟩
  · rcases hby' with ⟨hfunction', -, -, -, -⟩
    exact absurd (hfunction'.trans hfunction.symm) hshape
  · rcases hby' with - | @⟨_, _, j, _, _, _, _, hj, hat', -, -, -⟩
    have hne : i ≠ j := fun hsame => hshape (by rw [hi, hj, hsame])
    have hlt := (List.getElem?_eq_some_iff.mp hat).1
    have hlt' := (List.getElem?_eq_some_iff.mp hat').1
    refine ⟨i, j, hi, hj, hne, ?_⟩
    rw [declaratorCount_of_declared hform]
    omega

/-- A second handler of another declaration can be attached below the first. -/
lemma exists_attach_second {firstKey secondKey : String} (hfirst : locate module.body firstKey = some first)
    (hsecond : locate module.body secondKey = some second) (hdiffer : ¬ SameDeclaration first second)
    (hattach : Attachment settings .resource (openDraft settings module routePath gap site) key first attached)
    (gap' : Option String) (properties : List Node) (method : String) :
    ∃ result, attach settings module .resource
      (withDescriptor settings routePath gap' properties attached.draft) method second = .ok result := by
  obtain ⟨-, -, statement, form, hget, hform, hby⟩ := locate_eq_some hfirst
  have hafter := hattach.first hby.hasBody (distinct_start module.body site _) rfl (mem_openDraft hget)
    ⟨form, hform, hby.isValueDeclaration⟩
  obtain ⟨-, -, other, form', hother, -, hby'⟩ := locate_eq_some hsecond
  -- a declarator that has been taken out is that of the first handler
  have hremoved (index : Nat) (hshape : second.shape = .variable index) :
      (second.statement, index) ∉ attached.draft.removed := by
    cases hafter with
    | kept _ hnil _ _ => simp [hnil]
    | erased _ hnil _ _ => simp [hnil]
    | trimmed _ hone hfirstShape _ _ =>
      rw [hone, List.mem_singleton, Prod.mk.injEq]
      rintro ⟨hstatement, rfl⟩
      exact hdiffer ⟨hstatement, hshape.trans hfirstShape.symm⟩
  have hentry : ∃ node, ⟨.statement second.statement, node⟩ ∈ attached.draft.entries := by
    by_cases hstatement : second.statement = first.statement
    · obtain ⟨i, j, hi, -, -, hmany⟩ := one_lt_of_ne hfirst hsecond hstatement (fun hshape => hdiffer ⟨hstatement, hshape⟩)
        hget
      rw [hstatement]
      cases hafter with
      | kept _ _ hmem _ => exact ⟨_, hmem⟩
      | erased _ _ hfew _ => exact absurd (hfew i hi) (Nat.not_le.mpr hmany)
      | trimmed _ _ _ _ hmem => exact ⟨_, hmem⟩
    · exact ⟨_, hattach.mem_unlisted (mem_openDraft hother) fun horigin => hstatement (Origin.statement.inj horigin)⟩
  obtain ⟨node, hnode⟩ := hentry
  exact exists_attach hby'.hasBody (mem_withDescriptor_of_statement properties hnode) rfl hremoved

/-! ### One declaration for both handlers -/

lemma usedBeside_iff : UsedBeside draft located ↔ ∃ entry ∈ draft.entries,
    entry.origin ≠ .statement located.statement ∧
      located.localName ∈ (unlist [located.name] entry.node).referencedValues := by
  simp [UsedBeside, Draft.isUsedElsewhere, Draft.mapNodes]

/-- No other statement uses the name of a handler when the program runs, and neither does an empty descriptor. -/
structure UnusedBeside (settings : Settings) (module : Module) (located : Located) : Prop where
  statements : ∀ index statement, module.body[index]? = some statement → index ≠ located.statement →
    located.localName ∉ (unlist [located.name] statement).referencedValues
  descriptor : located.localName ≠ settings.resourceDescriptor
  factory : located.localName ≠ settings.resourceFactory

lemma unlist_descriptor (names : List String) (gap : Option String) (properties : List Node) :
    unlist names (withGap gap (resourceDescriptor settings routePath properties)) =
      withGap gap (resourceDescriptor settings routePath properties) :=
  rfl

lemma mem_referencedValues_descriptor {name : String} {properties : List Node} :
    name ∈ (withGap gap (resourceDescriptor settings routePath properties)).referencedValues ↔
      name = settings.resourceDescriptor ∨ name = settings.resourceFactory ∨
        name ∈ properties.flatMap Node.referencedValues := by
  have hvalues := referencedValues_descriptorOf settings routePath properties .resource
  have hsame : (withGap gap (resourceDescriptor settings routePath properties)).referencedValues =
      (resourceDescriptor settings routePath properties).referencedValues := referencedValues_congr rfl
  rw [hsame]
  change _ ∈ (descriptorOf settings routePath properties .resource).referencedValues ↔ _
  rw [hvalues, List.mem_cons, List.mem_cons]
  rfl

lemma usedBeside_openDraft :
    ¬ UsedBeside (openDraft settings module routePath gap site) first ↔ UnusedBeside settings module first := by
  rw [usedBeside_iff]
  constructor
  · intro hunused
    have hdescriptor : first.localName ∉
        (withGap gap (resourceDescriptor settings routePath [])).referencedValues := fun hused =>
      hunused ⟨_, mem_insertBefore.mpr (.inr rfl), nofun, by rwa [unlist_descriptor]⟩
    rw [mem_referencedValues_descriptor, not_or, not_or] at hdescriptor
    refine ⟨fun index statement hget hne hused => ?_, hdescriptor.1, hdescriptor.2.1⟩
    exact hunused ⟨_, mem_openDraft hget, fun horigin => hne (Origin.statement.inj horigin), hused⟩
  · rintro ⟨hstatements, hdescriptor, hfactory⟩ ⟨entry, hentry, horigin, hused⟩
    rcases mem_insertBefore.mp hentry with hentry | rfl
    · obtain ⟨index, hindex, hget⟩ := mem_ofBody.mp hentry
      exact hstatements index _ hget (fun hsame => horigin (by rw [hindex, hsame])) hused
    · rw [unlist_descriptor, mem_referencedValues_descriptor] at hused
      simp [hdescriptor, hfactory] at hused

/-- Once the handler has moved into the descriptor, its name is used there if it calls itself, and nowhere else. -/
lemma usedBeside_second (hunused : UnusedBeside settings module first)
    (hattach : Attachment settings .resource (openDraft settings module routePath gap site) key first attached)
    (gap' : Option String) {next : Located} (hstatement : next.statement = first.statement)
    (hlocal : next.localName = first.localName) :
    UsedBeside (withDescriptor settings routePath gap' [attached.property] attached.draft) next ↔
      first.localName ∈ attached.property.referencedValues := by
  rw [usedBeside_iff, hstatement, hlocal]
  constructor
  · rintro ⟨entry, hentry, horigin, hused⟩
    rcases mem_withDescriptor hentry with rfl | ⟨hentry, hnot⟩
    · rw [unlist_descriptor, mem_referencedValues_descriptor, List.flatMap_singleton] at hused
      exact (hused.resolve_left hunused.descriptor).resolve_left hunused.factory
    · obtain ⟨source, hsource, hstep⟩ := hattach.edited.origin hentry
      have hbefore := hstep.uses (referencedValues_unlist _ _ hused)
      rw [hstep.origin] at horigin
      exact absurd (usedBeside_iff.mpr ⟨source, hsource, horigin, hbefore⟩) (usedBeside_openDraft.mpr hunused)
  · intro hused
    obtain ⟨node, hnode⟩ := hattach.descriptor_mem (mem_insertBefore.mpr (.inr rfl))
    refine ⟨_, descriptor_mem_withDescriptor hnode gap' [attached.property], nofun, ?_⟩
    rw [unlist_descriptor, mem_referencedValues_descriptor, List.flatMap_singleton]
    exact .inr (.inr hused)

lemma localName_of_sameDeclaration {firstKey secondKey : String} (hfirst : locate module.body firstKey = some first)
    (hsecond : locate module.body secondKey = some second) (hsame : SameDeclaration first second) :
    second.localName = first.localName := by
  obtain ⟨-, -, statement, form, hget, hform, hby⟩ := locate_eq_some hfirst
  obtain ⟨-, -, found, form', hfound, hform', hby'⟩ := locate_eq_some hsecond
  rw [hsame.1, hget] at hfound
  obtain rfl := Option.some.inj hfound
  obtain rfl := Option.some.inj (hform.symm.trans hform')
  rcases hby with ⟨-, -, hname, -, -⟩ | ⟨hshape, hat, hdeclarator, hname, -⟩
  · rcases hby' with ⟨-, -, hname', -, -⟩
    exact Option.some.inj (hname'.symm.trans hname)
  · rcases hby' with - | ⟨hshape', hat', hdeclarator', hname', -⟩
    obtain rfl := Shape.variable.inj ((hsame.2.symm.trans hshape').symm.trans hshape)
    obtain rfl := Option.some.inj (hat.symm.trans hat')
    obtain ⟨rfl, -, -⟩ := Form.declarator.inj (hdeclarator.symm.trans hdeclarator')
    exact Option.some.inj (hname'.symm.trans hname)

lemma shape_of_one_lt {firstKey : String} (hfirst : locate module.body firstKey = some first) {statement : Node}
    (hget : module.body[first.statement]? = some statement) (hmany : 1 < Draft.declaratorCount statement) :
    ∃ index, first.shape = .variable index ∧ index < Draft.declaratorCount statement := by
  obtain ⟨-, -, found, form, hfound, hform, hby⟩ := locate_eq_some hfirst
  obtain rfl := Option.some.inj (hget.symm.trans hfound)
  rcases hby with - | ⟨hshape, hat, -, -, -⟩
  · unfold declared? at hform
    rw [Draft.declaratorCount, hform] at hmany
    cases hmany
  · rw [declaratorCount_of_declared hform]
    exact ⟨_, hshape, (List.getElem?_eq_some_iff.mp hat).1⟩

lemma declaratorCount_le_one {firstKey : String} (hfirst : locate module.body firstKey = some first) {statement : Node}
    (hget : module.body[first.statement]? = some statement)
    (hfew : ∀ index, first.shape = .variable index → Draft.declaratorCount statement ≤ 1) :
    Draft.declaratorCount statement ≤ 1 := by
  by_contra hmany
  obtain ⟨index, hshape, -⟩ := shape_of_one_lt hfirst hget (Nat.lt_of_not_le hmany)
  exact hmany (hfew index hshape)

lemma declaratorCount_trimmed {statement : Node} {index : Nat} (h : index < Draft.declaratorCount statement) :
    Draft.declaratorCount (Draft.eraseDeclarator index statement) = Draft.declaratorCount statement - 1 := by
  have herased := declared?_eraseDeclarator index statement
  unfold declared? at herased
  unfold Draft.declaratorCount at h ⊢
  rw [herased]
  cases hform : statement.exportedDeclaration?.map Node.form with
  | none => simp [hform] at h
  | some form =>
    rw [hform] at h
    cases form with
    | variableDeclaration kind declarators => exact List.length_eraseIdx_of_lt h
    | _ => simp at h

/-- Without its handler, a statement has one declarator less. -/
lemma declaratorCount_left {firstKey : String} (hfirst : locate module.body firstKey = some first) {statement : Node}
    (hget : module.body[first.statement]? = some statement) {index : Nat} (hshape : first.shape = .variable index)
    (hmany : 1 < Draft.declaratorCount statement) :
    Draft.declaratorCount (Draft.eraseDeclarator index (unlist [first.name] statement)) =
      Draft.declaratorCount statement - 1 := by
  have hcount := declaratorCount_congr (declared?_unlist [first.name] statement)
  obtain ⟨i, hi, hlt⟩ := shape_of_one_lt hfirst hget hmany
  obtain rfl := Shape.variable.inj (hi.symm.trans hshape)
  rw [declaratorCount_trimmed (hcount ▸ hlt), hcount]

lemma hasBody_source (hattach : Attachment settings kind draft key located attached)
    (hbody : HasBody located.function) : HasBody attached.source := by
  cases hattach with
  | kept _ _ _ _ _ _ hsource => rwa [hsource]
  | moved _ hextract _ _ _ _ _ hsource =>
    obtain ⟨handler, hextract', hleft⟩ := exists_extract hbody settings kind
    obtain rfl := Option.some.inj (hextract.symm.trans hextract')
    rwa [hsource]

/-- If the statement of a handler is gone, the attachment fails exactly when the handler would lose its export there. -/
lemma attach_gone_eq_error_iff (hbody : HasBody located.function) {statement : Node}
    (hgone : ∀ entry ∈ draft.entries, entry.origin ≠ .statement located.statement)
    (hget : module.body[located.statement]? = some statement) :
    attach settings module kind draft key located = .error fault ↔
      UsedBeside draft located ∧ Draft.exportsOnly located statement = true ∧ fault = .statementGone := by
  have hfind : (draft.mapNodes (unlist [located.name])).find? (.statement located.statement) = none := by
    cases hfound : (draft.mapNodes (unlist [located.name])).find? (.statement located.statement) with
    | none => rfl
    | some node =>
      obtain ⟨entry, hentry, hsame⟩ := List.mem_map.mp (find?_eq_some hfound)
      exact absurd (congrArg Entry.origin hsame) (hgone entry hentry)
  rw [attach_eq_error_iff hbody, keep_eq_error_iff, removeDeclaration_eq_error_iff, hfind, hget]
  simp [UsedBeside]

/-- If the declarator of a handler has been taken out and the statement has others, the attachment fails when there
are two or more of these, unless the handler is kept. -/
lemma attach_trimmed_eq_error_iff (hbody : HasBody located.function) (hdistinct : Distinct draft) {node : Node}
    (hentry : ⟨.statement located.statement, node⟩ ∈ draft.entries) {index : Nat}
    (hshape : located.shape = .variable index) (hremoved : (located.statement, index) ∈ draft.removed) :
    attach settings module kind draft key located = .error fault ↔
      ¬ UsedBeside draft located ∧ 1 < Draft.declaratorCount node ∧ fault = .declaratorGone := by
  have hfind := hdistinct.find?_mapNodes hentry rfl (unlist [located.name])
  have hcount := declaratorCount_congr (declared?_unlist [located.name] node)
  have hremoved : (located.statement, index) ∈ (draft.mapNodes (unlist [located.name])).removed := hremoved
  rw [attach_eq_error_iff hbody, keep_eq_error_iff, removeDeclaration_eq_error_iff, hfind]
  simp [UsedBeside, hshape, hcount, hremoved]

/-- When the second handler fails that has the declaration of the first: it calls itself and its statement is gone,
or it does not, and one of three or more variables is taken out for the second time. -/
def FailsTwice (settings : Settings) (first second : Located) (statement : Node) (fault : Draft.Fault) : Prop :=
  ∃ handler, extract? settings .resource first = some handler ∧
    ((fault = .declaratorGone ∧ first.localName ∉ handler.value.referencedValues ∧
        3 ≤ Draft.declaratorCount statement) ∨
      (fault = .statementGone ∧ first.localName ∈ handler.value.referencedValues ∧
        Draft.exportsOnly second statement = true))

lemma failsTwice_iff {statement : Node} {handler : Handler} (h : extract? settings .resource first = some handler) :
    FailsTwice settings first second statement fault ↔
      (fault = .declaratorGone ∧ first.localName ∉ handler.value.referencedValues ∧
        3 ≤ Draft.declaratorCount statement) ∨
      (fault = .statementGone ∧ first.localName ∈ handler.value.referencedValues ∧
        Draft.exportsOnly second statement = true) := by
  simp [FailsTwice, h]

lemma referencedValues_property {property value : Node} {key : String} (h : property.form = .property key value) :
    property.referencedValues = value.referencedValues := by
  rw [referencedValues_eq, Node.children, h]
  exact List.append_nil _

/-- The property of a handler that moves into the descriptor uses what the handler uses. -/
lemma Attachment.property_of_unused (hattach : Attachment settings kind draft key located attached)
    (hunused : ¬ UsedBeside draft located) {handler : Handler} (hextract : extract? settings kind located = some handler) :
    attached.property.referencedValues = handler.value.referencedValues := by
  cases hattach with
  | kept hused _ _ _ _ _ _ =>
    rcases hused with hused | hnone
    · exact absurd hused hunused
    · cases hextract.symm.trans hnone
  | moved _ hextract' _ _ _ _ hproperty _ =>
    obtain rfl := Option.some.inj (hextract.symm.trans hextract')
    exact referencedValues_property hproperty

/-- The second attachment of a declaration finds its name used if and only if the handler calls itself. -/
lemma usedBeside_again (hunused : ¬ UsedBeside (openDraft settings module routePath gap site) first)
    (hattach : Attachment settings .resource (openDraft settings module routePath gap site) key first attached)
    {handler : Handler} (hextract : extract? settings .resource first = some handler) (gap' : Option String)
    {next : Located} (hstatement : next.statement = first.statement) (hlocal : next.localName = first.localName) :
    UsedBeside (withDescriptor settings routePath gap' [attached.property] attached.draft) next ↔
      first.localName ∈ handler.value.referencedValues := by
  rw [usedBeside_second (usedBeside_openDraft.mp hunused) hattach gap' hstatement hlocal,
    hattach.property_of_unused hunused hextract]

theorem attach_second_eq_error_iff {firstKey secondKey : String} {statement : Node}
    (hfirst : locate module.body firstKey = some first) (hsecond : locate module.body secondKey = some second)
    (hsame : SameDeclaration first second) (hget : module.body[first.statement]? = some statement)
    (hattach : Attachment settings .resource (openDraft settings module routePath gap site) key first attached)
    (gap' : Option String) (method : String) :
    attach settings module .resource (withDescriptor settings routePath gap' [attached.property] attached.draft)
        method { second with function := attached.source } = .error fault ↔
      UnusedBeside settings module first ∧ FailsTwice settings first second statement fault := by
  obtain ⟨-, -, found, form, hfound, hform, hby⟩ := locate_eq_some hfirst
  obtain rfl := Option.some.inj (hget.symm.trans hfound)
  have hvalues : DeclaresValues statement := ⟨form, hform, hby.isValueDeclaration⟩
  have hdistinct := distinct_start module.body site (withGap gap (resourceDescriptor settings routePath []))
  have hlocal := localName_of_sameDeclaration hfirst hsecond hsame
  obtain ⟨handler, hextract, -⟩ := exists_extract hby.hasBody settings .resource
  set next : Located := { second with function := attached.source } with hnext
  have hnextBody : HasBody next.function := hasBody_source hattach hby.hasBody
  have hnextStatement : next.statement = first.statement := hsame.1
  have hbeside := @usedBeside_openDraft settings module routePath gap site first
  set draft := withDescriptor settings routePath gap' [attached.property] attached.draft with hdraft
  have hrecursive (hunused : ¬ UsedBeside (openDraft settings module routePath gap site) first) :
      UsedBeside draft next ↔ first.localName ∈ handler.value.referencedValues :=
    usedBeside_again hunused hattach hextract gap' hnextStatement hlocal
  have hpresent {node : Node} (hentry : ⟨.statement first.statement, node⟩ ∈ attached.draft.entries) :
      ⟨.statement next.statement, node⟩ ∈ draft.entries := by
    rw [hnextStatement]
    exact mem_withDescriptor_of_statement _ hentry
  rw [failsTwice_iff hextract]
  cases hattach.first hby.hasBody hdistinct rfl (mem_openDraft hget) hvalues with
  | kept hused hremoved hentry _ =>
    have hnil : draft.removed = [] := hremoved
    obtain ⟨result, hresult⟩ := @exists_attach settings module .resource draft method next hnextBody _ (hpresent hentry)
      rfl (by simp [hnil])
    rw [hresult, ← hbeside]
    simp [hused]
  | erased hunused _ hfew hgone =>
    have hnone : ∀ entry ∈ draft.entries, entry.origin ≠ .statement next.statement := by
      intro entry hentry
      rw [hnextStatement]
      rcases mem_withDescriptor hentry with rfl | ⟨hentry, -⟩
      · nofun
      · exact hgone entry hentry
    have hcount := declaratorCount_le_one hfirst hget hfew
    have hthree : ¬ 3 ≤ Draft.declaratorCount statement := by omega
    have honly : Draft.exportsOnly next statement = Draft.exportsOnly second statement := rfl
    rw [attach_gone_eq_error_iff hnextBody hnone (hnextStatement ▸ hget), hrecursive hunused, honly]
    simp only [hbeside.mp hunused, hthree, and_false, false_or, true_and]
    exact and_rotate.symm
  | @trimmed index hunused hremoved hshape hmany hentry =>
    have hmem : (next.statement, index) ∈ draft.removed := by
      have hone : draft.removed = [(first.statement, index)] := hremoved
      simp [hone, hnextStatement]
    have honly : ¬ Draft.exportsOnly second statement = true := fun honly => by
      have hle := (exportsOnly_iff.mp honly).2.2
      omega
    have hdistinct : Distinct draft := distinct_modify (hattach.distinct hdistinct) _ _
    have hleft := declaratorCount_left hfirst hget hshape hmany
    rw [attach_trimmed_eq_error_iff hnextBody hdistinct (hpresent hentry) (hsame.2.trans hshape) hmem,
      hrecursive hunused, hleft]
    have hthree : 1 < Draft.declaratorCount statement - 1 ↔ 3 ≤ Draft.declaratorCount statement := by omega
    simp only [hbeside.mp hunused, honly, hthree, Bool.false_eq_true, and_false, or_false, true_and]
    exact and_rotate.symm

end Resource

end RouteMigration.Proofs
