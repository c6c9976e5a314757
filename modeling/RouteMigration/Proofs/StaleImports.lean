import Mathlib.Data.List.Pairwise
import RouteMigration.Proofs.Descriptors
import RouteMigration.Proofs.KeptImports

/-!
# Imports that lost their last use

Names that lost their last use are removed one after the other, and a removal moves what is left of the
statement to the replacement of its source. A name is therefore removed when its turn comes while its source
is still a legacy one, and stays when an earlier removal has moved its statement away.
-/

namespace RouteMigration.Proofs
open Syntax Route

variable {isLegacy : String → Bool} {remap : List (String × String)}

/-! ### The turn of a name -/

/-- In a list of bindings with different names, a name stands for one binding. -/
lemma binding_unique {bindings : List Binding} (hd : (localNames bindings).Nodup) {a b : Binding}
    (ha : a ∈ bindings) (hb : b ∈ bindings) (hab : a.localName = b.localName) : a = b :=
  List.inj_on_of_nodup_map hd ha hb hab

lemma removeImport_bound {body : List Node} (hd : (localNames (importBindings body)).Nodup) {name : String}
    {binding : Binding} (hbinding : binding ∈ importBindings body) (hname : binding.localName = name) :
    name ∈ localNames (importBindings (removeImport isLegacy remap name body).1) ↔
      isLegacy binding.source = false := by
  have hrebound := @removeImport_rebound isLegacy remap _ hd name
  constructor
  · intro hbound
    obtain ⟨kept, hkept, hkeptName⟩ := List.mem_map.mp hbound
    obtain ⟨origin, horigin, hcarried⟩ := hrebound.origin hkept
    obtain ⟨horigin, hstays⟩ := List.mem_filter.mp horigin
    have hsame : origin.localName = name := hcarried.localName.symm.trans hkeptName
    rw [binding_unique hd horigin hbinding (hsame.trans hname.symm)] at hstays
    simpa [isRemoved, hname] using hstays
  · intro hlegacy
    obtain ⟨kept, hkept, hcarried⟩ := hrebound.carried
      (List.mem_filter.mpr ⟨hbinding, by simp [isRemoved, hlegacy]⟩)
    exact List.mem_map.mpr ⟨kept, hkept, hcarried.localName.trans hname⟩

/-- A name is still bound after all removals if and only if its source is no legacy one when its turn comes. -/
theorem removeAll_bound {body : List Node} (hd : (localNames (importBindings body)).Nodup) {name : String}
    (hname : name ∈ localNames (importBindings body)) {earlier later : List String} (hearlier : name ∉ earlier) :
    name ∈ localNames (importBindings (removeAll isLegacy remap (earlier ++ name :: later) body)) ↔
      ∃ binding ∈ importBindings (removeAll isLegacy remap earlier body),
        binding.localName = name ∧ isLegacy binding.source = false := by
  have hsplit : removeAll isLegacy remap (earlier ++ name :: later) body =
      removeAll isLegacy remap later (removeImport isLegacy remap name (removeAll isLegacy remap earlier body)).1 := by
    simp only [removeAll, List.foldl_append, List.foldl_cons]
  have hd' := @removeAll_nodup isLegacy remap _ hd earlier
  obtain ⟨first, hfirst, hfirstName⟩ := List.mem_map.mp hname
  obtain ⟨turn, hturn, hcarried⟩ := @removeAll_carried isLegacy remap _ hd earlier first hfirst
    (.inr (hfirstName ▸ hearlier))
  have hturnName : turn.localName = name := hcarried.localName.trans hfirstName
  rw [hsplit]
  constructor
  · intro hbound
    obtain ⟨kept, hkept, hkeptName⟩ := List.mem_map.mp hbound
    obtain ⟨left, hleft, hmoved⟩ := removeAll_origin (removeImport_nodup hd' name) hkept
    have hleftName : name ∈ localNames (importBindings
        (removeImport isLegacy remap name (removeAll isLegacy remap earlier body)).1) :=
      List.mem_map.mpr ⟨left, hleft, hmoved.localName.symm.trans hkeptName⟩
    exact ⟨turn, hturn, hturnName, (removeImport_bound hd' hturn hturnName).mp hleftName⟩
  · rintro ⟨binding, hbinding, hbindingName, hlegacy⟩
    obtain ⟨left, hleft, hmoved⟩ := (@removeImport_rebound isLegacy remap _ hd' name).carried
      (List.mem_filter.mpr ⟨hbinding, by simp [isRemoved, hlegacy]⟩)
    have hleftLegacy : isLegacy left.source = false := by
      rw [moves_of_not_legacy hmoved.source hlegacy, hlegacy]
    obtain ⟨kept, hkept, hkeptCarried⟩ := removeAll_carried (removeImport_nodup hd' name) hleft (.inl hleftLegacy)
    exact List.mem_map.mpr ⟨kept, hkept, hkeptCarried.localName.trans (hmoved.localName.trans hbindingName)⟩

/-! ### What is left of a legacy import -/

/-- No source that replaces a legacy one is a legacy source itself. -/
def LeavesLegacy (isLegacy : String → Bool) (remap : List (String × String)) : Prop :=
  ∀ source target, isLegacy source = true → Settings.remap? remap source = some target → isLegacy target = false

/-- The imports of a body from legacy sources, in order. -/
def legacyForms (isLegacy : String → Bool) (body : List Node) : List ImportForm :=
  (importForms body).filter (isLegacy ·.source)

/-- The import from a legacy source at a place. -/
def legacyAt (isLegacy : String → Bool) (place : Option Node) : List ImportForm :=
  ((place.bind import?).filter (isLegacy ·.source)).toList

/-- What the removal of a name that an import binds leaves with the source of the import. -/
def remainder (remap : List (String × String)) (name : String) (form : ImportForm) : Option ImportForm :=
  if (unbind name form).isEmpty ∨ (Settings.remap? remap form.source).isSome then none else some (unbind name form)

/-- What the removal of a name leaves with the source of an import. -/
def leftOf (remap : List (String × String)) (name : String) (form : ImportForm) : Option ImportForm :=
  if name ∈ localNames (bindingsOf form) then remainder remap name form else some form

lemma legacyAt_of_import {node : Node} {form : ImportForm} (h : import? node = some form) :
    legacyAt isLegacy (some node) = if isLegacy form.source = true then [form] else [] := by
  rw [legacyAt, Option.bind_some, h, Option.filter_some]
  split <;> rfl

lemma legacyForms_statements (places : Places) :
    legacyForms isLegacy (statements places) = places.flatMap (legacyAt isLegacy) := by
  induction places with
  | nil => rfl
  | cons place places ih =>
    rw [List.flatMap_cons, ← ih]
    cases place with
    | none => rfl
    | some node =>
      cases h : import? node with
      | none => simp [legacyForms, importForms, statements, legacyAt, h]
      | some form =>
        rw [legacyAt_of_import h]
        by_cases hlegacy : isLegacy form.source = true <;>
          simp [legacyForms, importForms, statements, h, hlegacy]

/-- Setting a place to one that shows the same leaves the view of all places. -/
lemma flatMap_set {α β : Type} (view : α → List β) {l : List α} {index : Nat} {a b : α}
    (h : l[index]? = some a) (hview : view b = view a) : (l.set index b).flatMap view = l.flatMap view := by
  obtain ⟨hlt, rfl⟩ := List.getElem?_eq_some_iff.mp h
  rw [List.flatMap_def, List.flatMap_def, List.map_set, hview, ← List.getElem_map view (h := by simpa using hlt),
    List.set_getElem_self]

lemma source_mergeSpecifiers (form : ImportForm) (specifiers : List ImportSpecifier) :
    (mergeSpecifiers form specifiers).source = form.source := by
  induction specifiers generalizing form with
  | nil => rfl
  | cons specifier specifiers ih =>
    rw [mergeSpecifiers, List.foldl_cons, ← mergeSpecifiers, ih]
    split <;> rfl

/-- An import that moves to another than a legacy source leaves the legacy imports of the other places. -/
lemma legacyAt_moveTo {places : Places} {index : Nat} {form : ImportForm} {source : String}
    (h : importAt? places index = some form) (hsource : isLegacy source = false) :
    (moveTo places index form source).flatMap (legacyAt isLegacy) =
      (places.set index none).flatMap (legacyAt isLegacy) := by
  obtain ⟨node, hplace, himport, hset⟩ := importAt?_eq_some h
  rcases moveTo_cases places index form source with
    ⟨other, into, hne, hinto, hintoSource, -, -, -, hmove⟩ | hmove
  · obtain ⟨target, htarget, htargetImport, hsetInto⟩ := importAt?_eq_some hinto
    have hrest : (places.set index none)[other]? = some (some target) := by
      rw [List.getElem?_set_ne (Ne.symm hne), htarget]
    rw [hmove, hsetInto, List.set_comm _ _ hne]
    refine flatMap_set _ hrest ?_
    rw [legacyAt_of_import (import?_withForm ..), legacyAt_of_import htargetImport, source_mergeSpecifiers,
      hintoSource, hsource]
    rfl
  · have hnone : (places.set index none)[index]? = some none :=
      List.getElem?_set_self (List.getElem?_eq_some_iff.mp hplace).1
    rw [hmove, hset, ← List.set_set (a := none)]
    refine flatMap_set _ hnone ?_
    rw [legacyAt_of_import (import?_withForm ..), hsource]
    rfl

/-- The place of an import between the others. -/
lemma places_split {places : Places} {index : Nat} {form : ImportForm} (h : importAt? places index = some form) :
    ∃ before node after, places = before ++ some node :: after ∧ import? node = some form ∧
      ∀ place, places.set index place = before ++ place :: after := by
  obtain ⟨node, hplace, himport, -⟩ := importAt?_eq_some h
  obtain ⟨hlt, hget⟩ := List.getElem?_eq_some_iff.mp hplace
  have hset (place : Option Node) : places.set index place = places.take index ++ place :: places.drop (index + 1) := by
    rw [List.set_eq_take_append_cons_drop, if_pos hlt]
  refine ⟨places.take index, node, places.drop (index + 1), ?_, himport, hset⟩
  rw [← hset, ← hget, List.set_getElem_self]

lemma legacyAt_unbindAt (hleaves : LeavesLegacy isLegacy remap) {name : String} {places : Places} {index : Nat}
    {form : ImportForm} (h : importAt? places index = some form) (hlegacy : isLegacy form.source = true)
    {before after : Places} (hset : ∀ place, places.set index place = before ++ place :: after) :
    (unbindAt remap name places index form).flatMap (legacyAt isLegacy) =
      before.flatMap (legacyAt isLegacy) ++ (remainder remap name form).toList ++
        after.flatMap (legacyAt isLegacy) := by
  have hnone : (places.set index none).flatMap (legacyAt isLegacy) =
      before.flatMap (legacyAt isLegacy) ++ after.flatMap (legacyAt isLegacy) := by
    rw [hset, List.flatMap_append]
    rfl
  by_cases hempty : (unbind name form).isEmpty = true
  · rw [unbindAt, if_pos hempty, remainder, if_pos (.inl hempty), hnone, Option.toList_none, List.append_nil]
  · obtain ⟨node, -, -, hsetImport⟩ := importAt?_eq_some h
    have hunbound : importAt? (setImport places index (unbind name form)) index = some (unbind name form) := by
      rw [importAt?_setImport h, if_pos rfl]
    have hsource : (unbind name form).source = form.source := rfl
    rw [unbindAt, if_neg hempty, remapAt, hsource]
    cases hremap : Settings.remap? remap form.source with
    | none =>
      rw [remainder, if_neg (by simp [hempty, hremap]), hsetImport, hset, List.flatMap_append, List.flatMap_cons,
        legacyAt_of_import (import?_withForm ..), hsource, if_pos hlegacy, List.append_assoc]
      rfl
    | some source =>
      rw [remainder, if_pos (.inr (by simp [hremap])), Option.toList_none, List.append_nil, ← hnone]
      refine (legacyAt_moveTo hunbound (hleaves _ _ hlegacy hremap)).trans ?_
      rw [hsetImport, List.set_set]

lemma leftOf_of_not_mem {name : String} {form : ImportForm} (h : name ∉ localNames (bindingsOf form)) :
    leftOf remap name form = some form :=
  if_neg h

lemma filterMap_leftOf {name : String} {forms : List ImportForm}
    (h : ∀ form ∈ forms, name ∉ localNames (bindingsOf form)) : forms.filterMap (leftOf remap name) = forms := by
  rw [List.filterMap_congr fun form hform => leftOf_of_not_mem (h form hform), List.filterMap_some]

lemma localName_mem_placeBindings {places : Places} {form : ImportForm}
    (h : form ∈ places.flatMap (legacyAt isLegacy)) {name : String} (hname : name ∈ localNames (bindingsOf form)) :
    name ∈ localNames (placeBindings places) := by
  obtain ⟨place, hplace, hform⟩ := List.mem_flatMap.mp h
  obtain ⟨hform, -⟩ := Option.filter_eq_some_iff.mp (Option.mem_toList.mp hform)
  obtain ⟨node, rfl, himport⟩ := Option.bind_eq_some_iff.mp hform
  obtain ⟨binding, hbinding, rfl⟩ := List.mem_map.mp hname
  refine List.mem_map_of_mem (List.mem_flatMap.mpr ⟨_, hplace, ?_⟩)
  rwa [Option.elim_some, statementBindings_of_import himport]

/-- A removal leaves of every legacy import what is left of it alone. -/
theorem legacyForms_removeImport (hleaves : LeavesLegacy isLegacy remap) {body : List Node}
    (hd : (localNames (importBindings body)).Nodup) (name : String) :
    legacyForms isLegacy (removeImport isLegacy remap name body).1 =
      (legacyForms isLegacy body).filterMap (leftOf remap name) := by
  rcases @removeImport_cases isLegacy remap _ hd name with
    ⟨hsame, hnone⟩ | ⟨index, form, himport, hlegacy, hname, hremoved⟩
  · rw [hsame, filterMap_leftOf fun form hform hname => ?_]
    obtain ⟨hform, hlegacy⟩ := List.mem_filter.mp hform
    obtain ⟨binding, hbinding, hbindingName⟩ := List.mem_map.mp hname
    exact hnone binding (mem_importBindings_iff.mpr ⟨form, hform, hbinding⟩)
      ((mem_bindingsOf.mp hbinding).1 ▸ hlegacy) hbindingName
  · obtain ⟨before, node, after, hplaces, hnode, hset⟩ := places_split himport
    have hbindings : importBindings body = placeBindings before ++ (bindingsOf form ++ placeBindings after) := by
      rw [← placeBindings_places, hplaces, placeBindings, List.flatMap_append, List.flatMap_cons, Option.elim_some,
        statementBindings_of_import hnode]
      rfl
    have hforms : legacyForms isLegacy body = before.flatMap (legacyAt isLegacy) ++ ([form] ++
        after.flatMap (legacyAt isLegacy)) := by
      rw [← statements_places body, legacyForms_statements, hplaces, List.flatMap_append, List.flatMap_cons,
        legacyAt_of_import hnode, if_pos hlegacy]
    -- the name is bound by this import alone, so that all others are left as they are
    rw [hbindings, localNames, List.map_append, List.map_append, List.nodup_append, List.nodup_append] at hd
    obtain ⟨-, ⟨-, -, hafter⟩, hbefore⟩ := hd
    have hbeforeLeft := @filterMap_leftOf remap name _
      fun other (hother : other ∈ before.flatMap (legacyAt isLegacy)) hmem =>
        hbefore _ (localName_mem_placeBindings hother hmem) _ (List.mem_append_left _ hname) rfl
    have hafterLeft := @filterMap_leftOf remap name _
      fun other (hother : other ∈ after.flatMap (legacyAt isLegacy)) hmem =>
        hafter _ hname _ (localName_mem_placeBindings hother hmem) rfl
    rw [hremoved, legacyForms_statements, legacyAt_unbindAt hleaves himport hlegacy hset, hforms,
      List.filterMap_append, List.filterMap_append, hbeforeLeft, hafterLeft, List.append_assoc]
    have hleft : leftOf remap name form = remainder remap name form := if_pos hname
    cases hremainder : remainder remap name form with
    | none => rw [List.filterMap_cons_none (hleft.trans hremainder)]; rfl
    | some kept => rw [List.filterMap_cons_some (hleft.trans hremainder)]; rfl

/-- What removals of names leave with the source of an import. -/
def leftOfAll (remap : List (String × String)) : List String → ImportForm → Option ImportForm
  | [], form => some form
  | name :: names, form => (leftOf remap name form).bind (leftOfAll remap names)

lemma legacyForms_removeAll (hleaves : LeavesLegacy isLegacy remap) {body : List Node}
    (hd : (localNames (importBindings body)).Nodup) (names : List String) :
    legacyForms isLegacy (removeAll isLegacy remap names body) =
      (legacyForms isLegacy body).filterMap (leftOfAll remap names) := by
  induction names generalizing body with
  | nil => exact List.filterMap_some.symm
  | cons name names ih =>
    rw [removeAll, List.foldl_cons, ← removeAll, ih (removeImport_nodup hd name),
      legacyForms_removeImport hleaves hd name, List.filterMap_filterMap]
    rfl

/-- What is left of an import binds no other names. -/
lemma leftOf_subset {name : String} {form kept : ImportForm} (h : leftOf remap name form = some kept) :
    localNames (bindingsOf kept) ⊆ localNames (bindingsOf form) := by
  rw [leftOf] at h
  split at h
  · rw [remainder] at h
    split at h
    · cases h
    · cases h
      rw [bindingsOf_unbind]
      exact (List.filter_sublist.map _).subset
  · cases h
    exact List.Subset.refl _

lemma leftOfAll_subset {names : List String} {form kept : ImportForm} (h : leftOfAll remap names form = some kept) :
    localNames (bindingsOf kept) ⊆ localNames (bindingsOf form) := by
  induction names generalizing form with
  | nil =>
    cases h
    exact List.Subset.refl _
  | cons name names ih =>
    obtain ⟨left, hleft, hkept⟩ := Option.bind_eq_some_iff.mp h
    exact List.Subset.trans (ih hkept) (leftOf_subset hleft)

/-- A removal of another name that an import binds moves the import to the replacement of its source, if there
is one, and leaves it without that name otherwise. -/
lemma leftOf_of_mem {name removed : String} (hne : name ≠ removed) {form : ImportForm}
    (hname : name ∈ localNames (bindingsOf form)) (hremoved : removed ∈ localNames (bindingsOf form)) :
    name ∈ localNames (bindingsOf (unbind removed form)) ∧ leftOf remap removed form =
      if (Settings.remap? remap form.source).isSome then none else some (unbind removed form) := by
  have hkept : name ∈ localNames (bindingsOf (unbind removed form)) := by
    obtain ⟨binding, hbinding, rfl⟩ := List.mem_map.mp hname
    rw [bindingsOf_unbind]
    exact List.mem_map_of_mem (List.mem_filter.mpr ⟨hbinding, by simpa using hne⟩)
  have hnotEmpty : ¬ (unbind removed form).isEmpty = true := fun hempty => by
    rw [bindingsOf_of_isEmpty hempty] at hkept
    cases hkept
  refine ⟨hkept, ?_⟩
  have hmoved : ((unbind removed form).isEmpty = true ∨ (Settings.remap? remap form.source).isSome = true) ↔
      (Settings.remap? remap form.source).isSome = true := or_iff_right hnotEmpty
  rw [leftOf, if_pos hremoved, remainder, if_congr hmoved rfl rfl]

/-- Removals of other names leave a name with an import that they leave. -/
lemma leftOfAll_mem {name : String} {names : List String} (hnot : name ∉ names) {form kept : ImportForm}
    (h : leftOfAll remap names form = some kept) (hname : name ∈ localNames (bindingsOf form)) :
    name ∈ localNames (bindingsOf kept) := by
  induction names generalizing form with
  | nil =>
    cases h
    exact hname
  | cons removed names ih =>
    rw [List.mem_cons, not_or] at hnot
    obtain ⟨left, hleft, hkept⟩ := Option.bind_eq_some_iff.mp h
    refine ih hnot.2 hkept ?_
    by_cases hremoved : removed ∈ localNames (bindingsOf form)
    · obtain ⟨hstays, hcases⟩ := @leftOf_of_mem remap _ _ hnot.1 form hname hremoved
      rw [hcases] at hleft
      split at hleft
      · cases hleft
      · cases hleft
        exact hstays
    · rw [leftOf_of_not_mem hremoved] at hleft
      cases hleft
      exact hname

/-- Removals of other names move an import away if and only if its source has a replacement and one of the
names is bound by the import. -/
lemma leftOfAll_eq_none {name : String} {names : List String} (hnot : name ∉ names) {form : ImportForm}
    (hname : name ∈ localNames (bindingsOf form)) : leftOfAll remap names form = none ↔
      (Settings.remap? remap form.source).isSome ∧ ∃ other ∈ names, other ∈ localNames (bindingsOf form) := by
  induction names generalizing form with
  | nil => simp [leftOfAll]
  | cons removed names ih =>
    rw [List.mem_cons, not_or] at hnot
    by_cases hremoved : removed ∈ localNames (bindingsOf form)
    · obtain ⟨hkept, hleft⟩ := @leftOf_of_mem remap _ _ hnot.1 form hname hremoved
      by_cases hremap : (Settings.remap? remap form.source).isSome = true
      · rw [leftOfAll, hleft, if_pos hremap]
        exact iff_of_true rfl ⟨hremap, removed, List.mem_cons_self .., hremoved⟩
      · -- without a replacement nothing moves, now or later
        rw [leftOfAll, hleft, if_neg hremap, Option.bind_some, ih hnot.2 hkept]
        exact iff_of_false (fun h => hremap h.1) fun h => hremap h.1
    · rw [leftOfAll, leftOf_of_not_mem hremoved, Option.bind_some, ih hnot.2 hname]
      simp only [List.mem_cons, exists_eq_or_imp, hremoved, false_or]

/-- In a body that binds each name once, one import binds a name. -/
lemma form_unique {forms : List ImportForm} (hd : (localNames (forms.flatMap bindingsOf)).Nodup)
    {form form' : ImportForm} (h : form ∈ forms) (h' : form' ∈ forms) {name : String}
    (hname : name ∈ localNames (bindingsOf form)) (hname' : name ∈ localNames (bindingsOf form')) :
    form = form' := by
  rw [localNames, List.map_flatMap, List.nodup_flatMap] at hd
  have hsymm : Std.Symm (Function.onFun List.Disjoint fun form => (bindingsOf form).map Binding.localName) :=
    ⟨fun _ _ hdisjoint => List.disjoint_symm hdisjoint⟩
  by_contra hne
  exact hd.2.forall h h' hne hname hname'

/-- When the turn of a name comes, its source is no legacy one if and only if a removal before moved the import
away. -/
theorem turn_not_legacy (hleaves : LeavesLegacy isLegacy remap) {body : List Node}
    (hd : (localNames (importBindings body)).Nodup) {form : ImportForm} (hform : form ∈ legacyForms isLegacy body)
    {name : String} (hname : name ∈ localNames (bindingsOf form)) {names : List String} (hnot : name ∉ names) :
    (∃ binding ∈ importBindings (removeAll isLegacy remap names body),
        binding.localName = name ∧ isLegacy binding.source = false) ↔
      (Settings.remap? remap form.source).isSome ∧ ∃ other ∈ names, other ∈ localNames (bindingsOf form) := by
  have hforms := legacyForms_removeAll hleaves hd names
  have hd' := @removeAll_nodup isLegacy remap _ hd names
  rw [← leftOfAll_eq_none hnot hname]
  constructor
  · rintro ⟨binding, hbinding, hbindingName, hlegacy⟩
    rw [Option.eq_none_iff_forall_not_mem]
    intro kept hkept
    -- what is left of the import would bind the name a second time
    obtain ⟨left, hleft, hleftName⟩ := List.mem_map.mp (leftOfAll_mem hnot hkept hname)
    have hkeptForm : kept ∈ legacyForms isLegacy (removeAll isLegacy remap names body) := by
      rw [hforms]
      exact List.mem_filterMap.mpr ⟨form, hform, hkept⟩
    obtain ⟨hkeptForm, hkeptLegacy⟩ := List.mem_filter.mp hkeptForm
    have hleftBinding : left ∈ importBindings (removeAll isLegacy remap names body) :=
      mem_importBindings_iff.mpr ⟨kept, hkeptForm, hleft⟩
    rw [binding_unique hd' hbinding hleftBinding (hbindingName.trans hleftName.symm), (mem_bindingsOf.mp hleft).1,
      hkeptLegacy] at hlegacy
    cases hlegacy
  · intro hnone
    obtain ⟨hbodyForm, hlegacy⟩ := List.mem_filter.mp hform
    obtain ⟨first, hfirst, rfl⟩ := List.mem_map.mp hname
    have hfirstBinding : first ∈ importBindings body := mem_importBindings_iff.mpr ⟨form, hbodyForm, hfirst⟩
    obtain ⟨turn, hturn, hcarried⟩ := @removeAll_carried isLegacy remap _ hd names first hfirstBinding (.inr hnot)
    refine ⟨turn, hturn, hcarried.localName, ?_⟩
    by_contra hturnLegacy
    rw [Bool.not_eq_false] at hturnLegacy
    rw [importBindings_eq] at hd
    obtain ⟨kept, hkeptForm, hturnBinding⟩ := mem_importBindings_iff.mp hturn
    have hkept : kept ∈ legacyForms isLegacy (removeAll isLegacy remap names body) :=
      List.mem_filter.mpr ⟨hkeptForm, (mem_bindingsOf.mp hturnBinding).1 ▸ hturnLegacy⟩
    rw [hforms] at hkept
    obtain ⟨source, hsource, hleft⟩ := List.mem_filterMap.mp hkept
    have hsourceName : first.localName ∈ localNames (bindingsOf source) :=
      leftOfAll_subset hleft (List.mem_map.mpr ⟨turn, hturnBinding, hcarried.localName⟩)
    rw [← form_unique hd hbodyForm (List.mem_filter.mp hsource).1 hname hsourceName, hnone] at hleft
    cases hleft

end RouteMigration.Proofs
