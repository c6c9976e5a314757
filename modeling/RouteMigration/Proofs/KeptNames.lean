import RouteMigration.Proofs.KeptImports
import RouteMigration.Proofs.StatementNames

/-!
# Names of finished bodies

A name that a draft refers to is declared in the finished body if and only if the draft declares it or an
added import binds it. Only an import can stop to declare a name, and it gives up a name when nothing refers
to it. This holds for imports that bind a name twice as well.
-/

namespace RouteMigration.Proofs
open Syntax Route

/-! ### Names of imports -/

lemma mem_given {o : Option String} {name : String} : name ∈ (given o).toList ↔ o = some name ∧ name ≠ "" := by
  rw [Option.mem_toList, given, Option.filter_eq_some_iff]
  simp

lemma mem_importedNames {form : ImportForm} {name : String} : name ∈ importedNames form ↔
    name ∈ form.specifiers.map (·.localName) ∨ (form.defaultName = some name ∧ name ≠ "") ∨
      (form.namespaceName = some name ∧ name ≠ "") := by
  rw [importedNames, List.mem_append, List.mem_append, mem_given, mem_given, or_assoc]

lemma declaredNames_of_import {statement : Node} {form : ImportForm} (h : import? statement = some form) :
    statement.declaredNames = importedNames form := by
  obtain ⟨form', hform⟩ := import?_isSome (Option.isSome_of_mem h)
  obtain rfl : form' = form := by simpa [import?, hform] using h
  rw [Node.declaredNames, hform, Node.boundByDeclaration, hform]
  rfl

lemma mem_importedNames_unbind {name removed : String} (hne : name ≠ removed) {form : ImportForm} :
    name ∈ importedNames (unbind removed form) ↔ name ∈ importedNames form := by
  have hspecifiers : name ∈ (unbind removed form).specifiers.map (·.localName) ↔
      name ∈ form.specifiers.map (·.localName) := by
    constructor
    · intro h
      exact (List.filter_sublist.map _).subset h
    · intro h
      obtain ⟨specifier, hspecifier, rfl⟩ := List.mem_map.mp h
      exact List.mem_map_of_mem (List.mem_filter.mpr ⟨hspecifier, by simpa using hne⟩)
  have hoption (o : Option String) : (if o = some removed then none else o) = some name ↔ o = some name := by
    by_cases h : o = some removed
    · rw [if_pos h, h, Option.some.injEq]
      exact iff_of_false nofun hne.symm
    · rw [if_neg h]
  have hdefault : (unbind removed form).defaultName = some name ↔ form.defaultName = some name := hoption _
  have hnamespace : (unbind removed form).namespaceName = some name ↔ form.namespaceName = some name := hoption _
  rw [mem_importedNames, mem_importedNames, hspecifiers, hdefault, hnamespace]

lemma importedNames_of_isEmpty {form : ImportForm} (h : form.isEmpty = true) : importedNames form = [] := by
  simp only [ImportForm.isEmpty, Bool.and_eq_true, List.isEmpty_iff, Option.isNone_iff_eq_none] at h
  simp [importedNames, h.1.1, h.1.2, h.2, given]

lemma mem_importedNames_addSpecifiers {specifiers : List ImportSpecifier} {form : ImportForm} {name : String} :
    name ∈ importedNames (addSpecifiers specifiers form) ↔
      name ∈ importedNames form ∨ name ∈ specifiers.map (·.localName) := by
  rw [mem_importedNames, mem_importedNames, addSpecifiers, List.map_append, List.mem_append, or_assoc, or_assoc]
  exact or_congr_right or_comm

/-- A merged import has the names of both. -/
lemma mem_importedNames_mergeSpecifiers {form : ImportForm} {specifiers : List ImportSpecifier} {name : String} :
    name ∈ importedNames (mergeSpecifiers form specifiers) ↔
      name ∈ importedNames form ∨ name ∈ specifiers.map (·.localName) := by
  induction specifiers generalizing form with
  | nil => simp [mergeSpecifiers]
  | cons specifier specifiers ih =>
    rw [mergeSpecifiers, List.foldl_cons, ← mergeSpecifiers, ih, List.map_cons, List.mem_cons, ← or_assoc]
    refine or_congr_left ?_
    split
    · next hbound =>
      -- the name of the specifier is bound already
      obtain ⟨other, hother, hsame⟩ := List.any_eq_true.mp hbound
      have hmem : specifier.localName ∈ importedNames form :=
        mem_importedNames.mpr (.inl (List.mem_map.mpr ⟨other, hother, of_decide_eq_true hsame⟩))
      exact (or_iff_left_of_imp fun h => h ▸ hmem).symm
    · rw [mem_importedNames_addSpecifiers, List.map_singleton, List.mem_singleton]

/-! ### Names of places -/

/-- An import at one of the places declares the name. -/
def BindsName (name : String) (places : Places) : Prop :=
  ∃ index form, importAt? places index = some form ∧ name ∈ importedNames form

section Places

variable {name : String} {places : Places} {index : Nat} {form : ImportForm}

/-- An import declares the name at its own place or at another one. -/
lemma bindsName_iff (h : importAt? places index = some form) :
    BindsName name places ↔ name ∈ importedNames form ∨ BindsName name (places.set index none) := by
  have hi := lt_length_of_importAt? h
  constructor
  · rintro ⟨other, bound, hother, hname⟩
    by_cases hsame : other = index
    · rw [hsame, h, Option.some.injEq] at hother
      exact .inl (hother ▸ hname)
    · exact .inr ⟨other, bound, (importAt?_set_of_ne hi none hsame).trans hother, hname⟩
  · rintro (hname | ⟨other, bound, hother, hname⟩)
    · exact ⟨index, form, h, hname⟩
    · rw [importAt?_set _ hi] at hother
      split at hother
      · cases hother
      · exact ⟨other, bound, hother, hname⟩

lemma bindsName_setImport (h : importAt? places index = some form) (f : ImportForm) :
    BindsName name (setImport places index f) ↔ name ∈ importedNames f ∨ BindsName name (places.set index none) := by
  have hset : importAt? (setImport places index f) index = some f := by rw [importAt?_setImport h, if_pos rfl]
  obtain ⟨node, -, -, hplace⟩ := importAt?_eq_some h
  rw [bindsName_iff hset, hplace, List.set_set]

lemma bindsName_moveTo (h : importAt? places index = some form) (source : String) :
    BindsName name (moveTo places index form source) ↔ BindsName name places := by
  rcases moveTo_cases places index form source with
    ⟨other, into, hne, hinto, -, -, hmergeable, hdefault, hmove⟩ | hmove
  · have hrest := (importAt?_set_of_ne (lt_length_of_importAt? h) none hne).trans hinto
    have hspecifiers : name ∈ importedNames form ↔ name ∈ form.specifiers.map (·.localName) := by
      simp only [isMergeable, Bool.and_eq_true, Option.isNone_iff_eq_none] at hmergeable
      rw [mem_importedNames, hdefault, hmergeable.2]
      simp
    rw [hmove, setImport_set hne, bindsName_setImport hrest, mem_importedNames_mergeSpecifiers, bindsName_iff h,
      bindsName_iff hrest, hspecifiers, or_assoc]
    exact or_left_comm
  · rw [hmove, bindsName_setImport h, bindsName_iff h]
    rfl

lemma bindsName_remapAt (remap : List (String × String)) (h : importAt? places index = some form) :
    BindsName name (remapAt remap places index form) ↔ BindsName name places := by
  unfold remapAt
  split
  · exact bindsName_moveTo h _
  · rfl

/-- The removal of another name leaves a name bound. -/
lemma bindsName_unbindAt {removed : String} (hne : name ≠ removed) (remap : List (String × String))
    (h : importAt? places index = some form) :
    BindsName name (unbindAt remap removed places index form) ↔ BindsName name places := by
  rw [bindsName_iff h, ← mem_importedNames_unbind hne]
  unfold unbindAt
  split
  · next hempty =>
    rw [importedNames_of_isEmpty hempty]
    exact (or_iff_right List.not_mem_nil).symm
  · have hset : importAt? (setImport places index (unbind removed form)) index = some (unbind removed form) := by
      rw [importAt?_setImport h, if_pos rfl]
    rw [bindsName_remapAt remap hset, bindsName_setImport h]

end Places

/-! ### Names of bodies -/

/-- An import of the body declares the name. -/
def ImportsName (name : String) (body : List Node) : Prop :=
  ∃ statement ∈ body, ∃ form, import? statement = some form ∧ name ∈ importedNames form

lemma bindsName_iff_statements {name : String} {places : Places} :
    BindsName name places ↔ ImportsName name (statements places) := by
  constructor
  · rintro ⟨index, form, himport, hname⟩
    obtain ⟨node, hplace, hnode, -⟩ := importAt?_eq_some himport
    exact ⟨node, List.mem_filterMap.mpr ⟨some node, List.mem_of_getElem? hplace, rfl⟩, form, hnode, hname⟩
  · rintro ⟨node, hnode, form, himport, hname⟩
    obtain ⟨_, hplace, rfl⟩ := List.mem_filterMap.mp hnode
    obtain ⟨index, hlt, hget⟩ := List.mem_iff_getElem.mp hplace
    exact ⟨index, form, by simp [importAt?, hlt, hget, himport], hname⟩

lemma bindsName_places {name : String} {body : List Node} : BindsName name (places body) ↔ ImportsName name body := by
  rw [bindsName_iff_statements]
  simp [statements, places, List.filterMap_map]

/-- An edit of imports that leaves a name bound at the places leaves it imported by the body. -/
lemma importsName_editImports {name : String} {edit : Places → Nat → ImportForm → Option Places}
    (hedit : ∀ places index form edited, importAt? places index = some form → edit places index form = some edited →
      (BindsName name edited ↔ BindsName name places)) (body : List Node) :
    ImportsName name (editImports edit body).1 ↔ ImportsName name body := by
  obtain ⟨edited, hrun, hbinds⟩ := editImports_invariant body bindsName_places
    fun places index form edited (h : BindsName name places ↔ ImportsName name body) himport hsome =>
      (hedit places index form edited himport hsome).trans h
  rw [hrun, ← bindsName_iff_statements]
  exact hbinds

variable {isLegacy : String → Bool} {remap : List (String × String)}

lemma importsName_removeImport {name removed : String} (hne : name ≠ removed) (body : List Node) :
    ImportsName name (removeImport isLegacy remap removed body).1 ↔ ImportsName name body := by
  rw [removeImport_eq]
  refine importsName_editImports (fun places index form edited himport hedit => ?_) body
  obtain ⟨-, -, rfl⟩ := removal_eq_some.mp hedit
  exact bindsName_unbindAt hne remap himport

lemma importsName_removeAll {name : String} {names : List String} (hnot : name ∉ names) (body : List Node) :
    ImportsName name (removeAll isLegacy remap names body) ↔ ImportsName name body := by
  induction names generalizing body with
  | nil => rfl
  | cons removed names ih =>
    rw [List.mem_cons, not_or] at hnot
    rw [removeAll, List.foldl_cons, ← removeAll, ih hnot.2, importsName_removeImport hnot.1]

lemma importsName_remapSources {name : String} (body : List Node) :
    ImportsName name (remapSources isLegacy remap body).1 ↔ ImportsName name body := by
  rw [remapSources_eq]
  refine importsName_editImports (fun places index form edited himport hedit => ?_) body
  obtain ⟨-, source, hsource, rfl⟩ := remapping_eq_some.mp hedit
  exact remapAt_of_some hsource ▸ bindsName_remapAt remap himport

lemma importsName_dropLegacy {settings : Settings} {used : List String} {body : List Node} {name : String}
    (hused : name ∈ body.flatMap Node.referencedNames) :
    ImportsName name (dropLegacy settings used body) ↔ ImportsName name body := by
  have hnot : name ∉ staleImports settings.isLegacy (some (settings.envelope :: used)) body :=
    fun hstale => (mem_staleImports.mp hstale).2.1 hused
  rw [dropLegacy_eq, importsName_remapSources, importsName_removeAll hnot]

/-! ### Finished bodies -/

/-- A clause declares its local name; an empty one stands for no name unless it is that of a specifier. -/
def Clause.Declares (name : String) : Clause → Prop
  | .named specifier => specifier.localName = name
  | .default localName | .namespace localName => localName = name ∧ name ≠ ""

lemma mem_importedNames_iff_clause {form : ImportForm} {name : String} :
    name ∈ importedNames form ↔ ∃ clause ∈ clausesOf form, clause.Declares name := by
  rw [mem_importedNames]
  simp only [clausesOf, List.mem_append, List.mem_map, Option.mem_toList]
  constructor
  · rintro (⟨specifier, hspecifier, hname⟩ | ⟨hname, hne⟩ | ⟨hname, hne⟩)
    · exact ⟨.named specifier, .inl (.inl ⟨specifier, hspecifier, rfl⟩), hname⟩
    · exact ⟨.default name, .inl (.inr ⟨name, hname, rfl⟩), rfl, hne⟩
    · exact ⟨.namespace name, .inr ⟨name, hname, rfl⟩, rfl, hne⟩
  · rintro ⟨clause, (⟨specifier, hspecifier, rfl⟩ | ⟨localName, hlocal, rfl⟩) | ⟨localName, hlocal, rfl⟩, hdeclares⟩
    · exact .inl ⟨specifier, hspecifier, hdeclares⟩
    · exact .inr (.inl ⟨hdeclares.1 ▸ hlocal, hdeclares.2⟩)
    · exact .inr (.inr ⟨hdeclares.1 ▸ hlocal, hdeclares.2⟩)

lemma importsName_iff {name : String} {body : List Node} :
    ImportsName name body ↔ ∃ binding ∈ importBindings body, binding.clause.Declares name := by
  constructor
  · rintro ⟨statement, hstatement, form, himport, hname⟩
    obtain ⟨clause, hclause, hdeclares⟩ := mem_importedNames_iff_clause.mp hname
    have hbinding : (⟨form.source, form.typeOnly, clause⟩ : Binding) ∈ bindingsOf form :=
      mem_bindingsOf.mpr ⟨rfl, rfl, hclause⟩
    exact ⟨_, mem_importBindings.mpr ⟨statement, hstatement, form, himport, hbinding⟩, hdeclares⟩
  · rintro ⟨binding, hbinding, hdeclares⟩
    obtain ⟨statement, hstatement, form, himport, hmem⟩ := mem_importBindings.mp hbinding
    have hclause := (mem_bindingsOf.mp hmem).2.2
    exact ⟨statement, hstatement, form, himport, mem_importedNames_iff_clause.mpr ⟨_, hclause, hdeclares⟩⟩

/-- The names that statements other than imports declare. -/
def otherNames (statement : Node) : List String :=
  if (import? statement).isSome then [] else statement.declaredNames

lemma mem_declaredNames_iff {name : String} {body : List Node} :
    name ∈ body.flatMap Node.declaredNames ↔ ImportsName name body ∨ name ∈ body.flatMap otherNames := by
  constructor
  · intro hname
    obtain ⟨statement, hstatement, hdeclared⟩ := List.mem_flatMap.mp hname
    cases himport : import? statement with
    | none =>
      have hother : otherNames statement = statement.declaredNames := if_neg (by simp [himport])
      exact .inr (List.mem_flatMap.mpr ⟨statement, hstatement, hother ▸ hdeclared⟩)
    | some form =>
      rw [declaredNames_of_import himport] at hdeclared
      exact .inl ⟨statement, hstatement, form, himport, hdeclared⟩
  · rintro (⟨statement, hstatement, form, himport, hname⟩ | hname)
    · exact List.mem_flatMap.mpr ⟨statement, hstatement, declaredNames_of_import himport ▸ hname⟩
    · obtain ⟨statement, hstatement, hother⟩ := List.mem_flatMap.mp hname
      refine List.mem_flatMap.mpr ⟨statement, hstatement, ?_⟩
      unfold otherNames at hother
      split at hother
      · cases hother
      · exact hother

/-- The names that finishing a body imports. -/
def addedNames (settings : Settings) (kind : Kind) (used : List String) (body : List Node) : List String :=
  localNames (requestedBindings (missingImports (dropLegacy settings used body) (pendingImports settings kind)))

lemma declares_iff_of_requested {body : List Node} {pending : PendingImports} {binding : Binding} {name : String}
    (h : binding ∈ requestedBindings (missingImports body pending)) :
    binding.clause.Declares name ↔ binding.localName = name := by
  obtain ⟨record, -, rfl⟩ := requestedBindings_missing h
  rfl

lemma importsName_finish {settings : Settings} {kind : Kind} {used : List String} {body : List Node} {name : String}
    (hused : name ∈ body.flatMap Node.referencedNames) :
    ImportsName name (finish settings kind used body) ↔
      ImportsName name body ∨ name ∈ addedNames settings kind used body := by
  have hperm := importBindings_finish settings kind used body
  rw [← @importsName_dropLegacy settings used _ _ hused, importsName_iff, importsName_iff]
  constructor
  · rintro ⟨binding, hbinding, hdeclares⟩
    rcases List.mem_append.mp (hperm.subset hbinding) with hkept | hadded
    · exact .inl ⟨binding, hkept, hdeclares⟩
    · exact .inr (List.mem_map.mpr ⟨binding, hadded, (declares_iff_of_requested hadded).mp hdeclares⟩)
  · rintro (⟨binding, hkept, hdeclares⟩ | hname)
    · exact ⟨binding, hperm.symm.subset (List.mem_append_left _ hkept), hdeclares⟩
    · obtain ⟨binding, hadded, hlocal⟩ := List.mem_map.mp hname
      exact ⟨binding, hperm.symm.subset (List.mem_append_right _ hadded),
        (declares_iff_of_requested hadded).mpr hlocal⟩

/-- A name that a body refers to is declared in the finished body if and only if the body declares it or
an import of it is added. -/
theorem finish_declaredNames {settings : Settings} {kind : Kind} {used : List String} {body : List Node}
    {name : String} (hused : name ∈ body.flatMap Node.referencedNames) :
    name ∈ (finish settings kind used body).flatMap Node.declaredNames ↔
      name ∈ body.flatMap Node.declaredNames ∨ name ∈ addedNames settings kind used body := by
  have hemptied (statement : Node) (h : isEmptied statement = true) : otherNames statement = [] := by
    obtain ⟨form, hform, hdeclaration, -⟩ := isEmptied_eq_true h
    rw [otherNames, declaredNames_exportNamed hform, hdeclaration]
    exact ite_self _
  have hother := finish_flatMap otherNames (fun _ h => if_pos h) hemptied settings kind used body
  rw [mem_declaredNames_iff, mem_declaredNames_iff, importsName_finish hused, hother]
  exact or_right_comm

lemma referencedValues_eq_nil {statement : Node} (h : statement.referencedNames = []) :
    statement.referencedValues = [] := by
  have hsubset := referencedValues_subset statement
  rw [h] at hsubset
  exact List.eq_nil_of_subset_nil hsubset

/-- Finishing a draft changes none of the names that its statements need when the program runs. -/
lemma finish_referencedValues (settings : Settings) (kind : Kind) (used : List String) (body : List Node) :
    (finish settings kind used body).flatMap Node.referencedValues = body.flatMap Node.referencedValues :=
  finish_flatMap Node.referencedValues (fun _ h => referencedValues_eq_nil (referencedNames_of_import h))
    (fun _ h => referencedValues_eq_nil (referencedNames_of_isEmptied h)) settings kind used body

end RouteMigration.Proofs
