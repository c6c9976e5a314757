import Mathlib.Data.List.TakeDrop
import RouteMigration.Proofs.Rebinding

/-!
# Moves of imports one after the other

Imports move to the replacements of their sources one after the other. One that joins a later import moves on with
it when the turn of that one comes, so that its bindings may end up further away. Where the bindings of an import end
up can be told from the body as it was: the moves keep this, from each import to the next.
-/

namespace RouteMigration.Proofs
open Syntax Route

section Landings

variable (isLegacy : String → Bool) (remap : List (String × String))

/-- The source that replaces a legacy one. -/
def replacement? (source : String) : Option String :=
  if isLegacy source then Settings.remap? remap source else none

/-- The source itself, if nothing replaces it. -/
def replaced (source : String) : String :=
  (replacement? isLegacy remap source).getD source

/-- An import of names alone, which joins another import of its source. -/
def joinsOthers (statement : Node) : Bool :=
  (import? statement).any fun form => isMergeable form && form.defaultName.isNone

/-- An import that comes to take names from the source and cannot join another one. -/
def standsFor (source : String) (statement : Node) : Bool :=
  (import? statement).any fun form =>
    isMergeable form && form.defaultName.isSome && decide (replacement? isLegacy remap form.source = some source)

/-- An import on its way to a source that is itself replaced, with nothing above it that could take its names, so that
they move on with a later import of the source. -/
def isTakenAlong (before : List Node) (statement : Node) (source : String) : Bool :=
  joinsOthers statement && decide (replaced isLegacy remap source ≠ source) &&
    !before.any (standsFor isLegacy remap source)

/-- Where names for a source end up that a later import takes along. -/
def destination (before : List Node) (source : String) : List Node → String
  | [] => source
  | statement :: after =>
    if takesNamesFrom source statement then
      let next := replaced isLegacy remap source
      if isTakenAlong isLegacy remap before statement next then destination (before ++ [statement]) next after else next
    else destination (before ++ [statement]) source after

/-- Where the names of an import from a source end up. -/
def landing (before : List Node) (statement : Node) (after : List Node) (source : String) : String :=
  let next := replaced isLegacy remap source
  if isTakenAlong isLegacy remap before statement next then
      destination isLegacy remap (before ++ [statement]) next after
  else next

end Landings

variable {isLegacy : String → Bool} {remap : List (String × String)}

lemma replaced_of_some {source target : String} (h : replacement? isLegacy remap source = some target) :
    replaced isLegacy remap source = target := by
  rw [replaced, h, Option.getD_some]

lemma replaced_of_none {source : String} (h : replacement? isLegacy remap source = none) :
    replaced isLegacy remap source = source := by
  rw [replaced, h, Option.getD_none]

/-- A replaced source that is replaced by another one again is not its own replacement. -/
lemma replacement?_of_replaced_ne {source : String}
    (h : replaced isLegacy remap (replaced isLegacy remap source) ≠ replaced isLegacy remap source) :
    replacement? isLegacy remap source = some (replaced isLegacy remap source) := by
  cases hs : replacement? isLegacy remap source with
  | none => exact absurd (by rw [replaced_of_none hs, replaced_of_none hs]) h
  | some target => rw [replaced_of_some hs]

lemma replacement?_eq_some {source target : String} : replacement? isLegacy remap source = some target ↔
    isLegacy source = true ∧ Settings.remap? remap source = some target := by
  rw [replacement?]
  split
  · next h => simp [h]
  · next h => simp [h]

lemma joinsOthers_iff {statement : Node} {form : ImportForm} (h : import? statement = some form) :
    joinsOthers statement = true ↔ isMergeable form = true ∧ form.defaultName = none := by
  rw [joinsOthers, h, Option.any_some, Bool.and_eq_true, Option.isNone_iff_eq_none]

lemma standsFor_iff {source : String} {statement : Node} {form : ImportForm} (h : import? statement = some form) :
    standsFor isLegacy remap source statement = true ↔ isMergeable form = true ∧ form.defaultName ≠ none ∧
      replacement? isLegacy remap form.source = some source := by
  rw [standsFor, h, Option.any_some, Bool.and_eq_true, Bool.and_eq_true, decide_eq_true_eq, and_assoc,
    Option.isSome_iff_ne_none]

/-! ### Landings -/

lemma destination_cons_of_takes {before after : List Node} {statement : Node} {source : String}
    (h : takesNamesFrom source statement = true) :
    destination isLegacy remap before source (statement :: after) =
      landing isLegacy remap before statement after source := by
  rw [destination, if_pos h]
  rfl

/-- Without a later import that takes the names, they stay. -/
lemma destination_of_none {before after : List Node} {source : String}
    (h : ∀ statement ∈ after, takesNamesFrom source statement = false) :
    destination isLegacy remap before source after = source := by
  induction after generalizing before with
  | nil => rfl
  | cons statement after ih =>
    rw [List.forall_mem_cons] at h
    rw [destination, if_neg (by simp [h.1])]
    exact ih h.2

/-- The first later import that takes the names carries them along. -/
lemma destination_of_first {before skipped after : List Node} {statement : Node} {source : String}
    (h : ∀ other ∈ skipped, takesNamesFrom source other = false) (htakes : takesNamesFrom source statement = true) :
    destination isLegacy remap before source (skipped ++ statement :: after) =
      landing isLegacy remap (before ++ skipped) statement after source := by
  induction skipped generalizing before with
  | nil => rw [List.nil_append, List.append_nil, destination_cons_of_takes htakes]
  | cons other skipped ih =>
    rw [List.forall_mem_cons] at h
    rw [List.cons_append, destination, if_neg (by simp [h.1]), ih h.2, List.append_assoc]
    rfl

/-- Names whose new source is not replaced again have arrived. -/
lemma landing_of_settled {before after : List Node} {statement : Node} {source : String}
    (h : replaced isLegacy remap (replaced isLegacy remap source) = replaced isLegacy remap source) :
    landing isLegacy remap before statement after source = replaced isLegacy remap source := by
  rw [landing, isTakenAlong, decide_eq_false (not_not_intro h), Bool.and_false, Bool.false_and]
  rfl

/-- Names arrive where no later import takes names from their new source. -/
lemma landing_of_none {before after : List Node} {statement : Node} {source : String}
    (h : ∀ other ∈ after, takesNamesFrom (replaced isLegacy remap source) other = false) :
    landing isLegacy remap before statement after source = replaced isLegacy remap source := by
  rw [landing]
  split
  · exact destination_of_none h
  · rfl

lemma landing_of_first {before skipped after : List Node} {statement other : Node} {source : String}
    (h : isTakenAlong isLegacy remap before statement (replaced isLegacy remap source) = true)
    (hskipped : ∀ s ∈ skipped, takesNamesFrom (replaced isLegacy remap source) s = false)
    (htakes : takesNamesFrom (replaced isLegacy remap source) other = true) :
    landing isLegacy remap before statement (skipped ++ other :: after) source =
      landing isLegacy remap (before ++ statement :: skipped) other after (replaced isLegacy remap source) := by
  rw [landing, if_pos h, destination_of_first hskipped htakes, List.append_assoc]
  rfl

/-! ### The statement that takes names -/

/-- A statement takes names from a source at a place. -/
def TakesAt (places : Places) (index : Nat) (source : String) : Prop :=
  ∃ form, importAt? places index = some form ∧ form.source = source ∧ isMergeable form = true

lemma takesAt_iff {places : Places} {index : Nat} {source : String} : TakesAt places index source ↔
    ∃ node, places[index]? = some (some node) ∧ takesNamesFrom source node = true := by
  constructor
  · rintro ⟨form, himport, hsource, hmergeable⟩
    obtain ⟨node, hplace, hform, -⟩ := importAt?_eq_some himport
    exact ⟨node, hplace, takesNamesFrom_iff.mpr ⟨form, hform, hsource, hmergeable⟩⟩
  · rintro ⟨node, hplace, htakes⟩
    obtain ⟨form, hform, hsource, hmergeable⟩ := takesNamesFrom_iff.mp htakes
    exact ⟨form, by rw [importAt?, hplace]; exact hform, hsource, hmergeable⟩

lemma mergeTarget?_eq_none {places : Places} {index : Nat} {source : String}
    (h : mergeTarget? places index source = none) {other : Nat} (hne : other ≠ index) :
    ¬ TakesAt places other source := by
  intro htakes
  obtain ⟨node, hplace, htakes⟩ := takesAt_iff.mp htakes
  have hmem : (some node, other) ∈ places.zipIdx := List.mk_mem_zipIdx_iff_getElem?.mpr hplace
  have hnone := List.find?_eq_none.mp (Option.map_eq_none_iff.mp h) _ hmem
  simp [hne, htakes] at hnone

lemma mergeTarget?_first {places : Places} {index target : Nat} {source : String}
    (h : mergeTarget? places index source = some target) {other : Nat} (hne : other ≠ index) (hlt : other < target) :
    ¬ TakesAt places other source := by
  intro htakes
  obtain ⟨node, hplace, htakes⟩ := takesAt_iff.mp htakes
  obtain ⟨⟨place, i⟩, hfind, rfl⟩ := Option.map_eq_some_iff.mp h
  obtain ⟨-, position, hposition, hget, hfirst⟩ := List.find?_eq_some_iff_getElem.mp hfind
  rw [List.getElem_zipIdx, Prod.mk.injEq, Nat.zero_add] at hget
  obtain ⟨-, rfl⟩ := hget
  have hearlier := hfirst other hlt
  obtain ⟨hother, hnode⟩ := List.getElem?_eq_some_iff.mp hplace
  simp [hne, hnode, htakes] at hearlier

/-- The two ways of moving an import, told by whether there is an import that takes its names. -/
lemma moveTo_eq (places : Places) (index : Nat) (form : ImportForm) (source : String) :
    (∃ other into, isMergeable form = true ∧ form.defaultName = none ∧ mergeTarget? places index source = some other ∧
      other ≠ index ∧ importAt? places other = some into ∧ into.source = source ∧ isMergeable into = true ∧
      moveTo places index form source =
        (setImport places other (mergeSpecifiers into form.specifiers)).set index none) ∨
    ((isMergeable form = true → form.defaultName = none → mergeTarget? places index source = none) ∧
      moveTo places index form source = setImport places index { form with source }) := by
  by_cases hjoins : isMergeable form = true ∧ form.defaultName = none
  · have hc : (isMergeable form && form.defaultName.isNone) = true := by simp [hjoins]
    cases htarget : mergeTarget? places index source with
    | none => exact .inr ⟨fun _ _ => rfl, by simp [moveTo, hc, htarget]⟩
    | some other =>
      obtain ⟨hne, into, hinto, hsource, hmergeable⟩ := mergeTarget?_eq_some htarget
      exact .inl ⟨other, into, hjoins.1, hjoins.2, rfl, hne, hinto, hsource, hmergeable,
        by simp [moveTo, hc, htarget, hinto]⟩
  · have hc : (isMergeable form && form.defaultName.isNone) = false := by
      rwa [Bool.eq_false_iff, ne_eq, Bool.and_eq_true, Option.isNone_iff_eq_none]
    exact .inr ⟨fun hm hd => absurd ⟨hm, hd⟩ hjoins, by simp [moveTo, hc]⟩

/-- The earlier of two members of a list stands in front of the other one. -/
lemma exists_between {α : Type} {before after before' after' : List α} {a b : α}
    (h : before ++ a :: after = before' ++ b :: after') (hlt : before.length < before'.length) :
    ∃ between, before' = before ++ a :: between ∧ after = between ++ b :: after' := by
  obtain ⟨middle, rfl, hmiddle⟩ | ⟨middle, rfl, -⟩ := List.append_eq_append_iff.mp h
  · cases middle with
    | nil => simp at hlt
    | cons first between =>
      obtain ⟨rfl, rfl⟩ := List.cons.inj hmiddle
      exact ⟨between, rfl, rfl⟩
  · rw [List.length_append] at hlt
    omega

lemma importAt?_places {body : List Node} {index : Nat} {form : ImportForm}
    (h : importAt? (places body) index = some form) : ∃ before statement after,
      body = before ++ statement :: after ∧ before.length = index ∧ import? statement = some form := by
  obtain ⟨node, hplace, himport, -⟩ := importAt?_eq_some h
  rw [places, List.getElem?_map, Option.map_eq_some_iff] at hplace
  obtain ⟨node, hnode, heq⟩ := hplace
  obtain rfl := Option.some.inj heq
  obtain ⟨hlt, rfl⟩ := List.getElem?_eq_some_iff.mp hnode
  refine ⟨body.take index, body[index], body.drop (index + 1), ?_, List.length_take_of_le (Nat.le_of_lt hlt), himport⟩
  rw [List.getElem_cons_drop, List.take_append_drop]

lemma importAt?_merged {places : Places} {index other : Nat} {form into : ImportForm}
    (hform : importAt? places index = some form) (hinto : importAt? places other = some into) (f : ImportForm)
    (place : Nat) : importAt? ((setImport places other f).set index none) place =
      if place = index then none else if place = other then some f else importAt? places place := by
  have hlt : index < (setImport places other f).length := by
    rw [setImport, List.length_modify]
    exact lt_length_of_importAt? hform
  rw [importAt?_set _ hlt, importAt?_setImport hinto, Option.bind_none]

lemma clausesOf_addSpecifiers {clause : Clause} {specifiers : List ImportSpecifier} {form : ImportForm} :
    clause ∈ clausesOf (addSpecifiers specifiers form) ↔ clause ∈ specifiers.map .named ∨ clause ∈ clausesOf form := by
  simp only [clausesOf, addSpecifiers, List.map_append, List.mem_append]
  tauto

lemma clausesOf_of_joinsOthers {form : ImportForm} (hm : isMergeable form = true) (hd : form.defaultName = none) :
    clausesOf form = form.specifiers.map .named := by
  simp only [isMergeable, Bool.and_eq_true, Option.isNone_iff_eq_none] at hm
  simp [clausesOf, hm.2, hd]

/-! ### A run of moves -/

/-- What an import of the body has become when the first `visited` places have been visited. -/
structure Became (isLegacy : String → Bool) (remap : List (String × String)) (visited : Nat) (before : List Node)
    (statement : Node) (after : List Node) (old form : ImportForm) : Prop where
  typeOnly : form.typeOnly = old.typeOnly
  defaultName : form.defaultName = old.defaultName
  namespaceName : form.namespaceName = old.namespaceName
  source : form.source = if before.length < visited then replaced isLegacy remap old.source else old.source
  /-- An import that joins others stands by itself only where no other took its names. -/
  alone : before.length < visited → joinsOthers statement = true → ∀ source,
    replacement? isLegacy remap old.source = some source →
      (∀ other ∈ after, takesNamesFrom source other = false) ∧ before.any (standsFor isLegacy remap source) = false

/-- What a run of moves keeps: where the first `visited` places have been visited, every import stands for one of the
body, those that are still to be visited or join no others are all there, and all bindings are on their way to where
they land. -/
structure Moving (isLegacy : String → Bool) (remap : List (String × String)) (body : List Node) (visited : Nat)
    (places : Places) : Prop where
  length : places.length = body.length
  rebound : Rebound isLegacy remap (importBindings body) (placeBindings places)
  became : ∀ {index form}, importAt? places index = some form → ∃ before statement after old,
    body = before ++ statement :: after ∧ before.length = index ∧ import? statement = some old ∧
      Became isLegacy remap visited before statement after old form
  there : ∀ {before statement after old}, body = before ++ statement :: after → import? statement = some old →
    (visited ≤ before.length ∨ joinsOthers statement = false) → ∃ form, importAt? places before.length = some form
  bound : ∀ {before statement after}, body = before ++ statement :: after → ∀ binding ∈ statementBindings statement,
    ∃ before' statement' after' form, body = before' ++ statement' :: after' ∧
      importAt? places before'.length = some form ∧ binding.clause ∈ clausesOf form ∧ form.typeOnly = binding.typeOnly ∧
      (if before'.length < visited then form.source
        else landing isLegacy remap before' statement' after' form.source) =
        landing isLegacy remap before statement after binding.source

lemma Became.next {visited : Nat} {before after : List Node} {statement : Node} {old form : ImportForm}
    (h : Became isLegacy remap visited before statement after old form) (hne : before.length ≠ visited) :
    Became isLegacy remap (visited + 1) before statement after old form := by
  have hlt : before.length < visited + 1 ↔ before.length < visited := by omega
  exact { h with
    source := by simpa only [hlt] using h.source
    alone := by simpa only [hlt] using h.alone }

lemma Became.isMergeable_eq {visited : Nat} {before after : List Node} {statement : Node} {old form : ImportForm}
    (h : Became isLegacy remap visited before statement after old form) : isMergeable form = isMergeable old := by
  rw [isMergeable, h.typeOnly, h.namespaceName, isMergeable]

namespace Moving

variable {body : List Node} {visited : Nat} {places : Places}

protected lemma nodup (h : Moving isLegacy remap body visited places) (hd : (localNames (importBindings body)).Nodup) :
    (localNames (placeBindings places)).Nodup :=
  h.rebound.localNames.nodup_iff.mp hd

lemma becameAt (h : Moving isLegacy remap body visited places) {before after : List Node} {statement : Node}
    {form : ImportForm} (hbody : body = before ++ statement :: after)
    (hform : importAt? places before.length = some form) :
    ∃ old, import? statement = some old ∧ Became isLegacy remap visited before statement after old form := by
  obtain ⟨before', statement', after', old, hbody', hlength, hold, hbecame⟩ := h.became hform
  obtain ⟨rfl, hrest⟩ := List.append_inj (hbody'.symm.trans hbody) hlength
  obtain ⟨rfl, rfl⟩ := List.cons.inj hrest
  exact ⟨old, hold, hbecame⟩

/-- An import that is still to be visited takes names where it took them. -/
lemma takesAt_of_takes (h : Moving isLegacy remap body visited places) {before after : List Node} {statement : Node}
    {source : String} (hbody : body = before ++ statement :: after) (hle : visited ≤ before.length)
    (htakes : takesNamesFrom source statement = true) : TakesAt places before.length source := by
  obtain ⟨old, hold, hsource, hmergeable⟩ := takesNamesFrom_iff.mp htakes
  obtain ⟨form, hform⟩ := h.there hbody hold (.inl hle)
  obtain ⟨old', hold', hbecame⟩ := h.becameAt hbody hform
  obtain rfl := Option.some.inj (hold'.symm.trans hold)
  refine ⟨form, hform, ?_, hbecame.isMergeable_eq.trans hmergeable⟩
  rw [hbecame.source, if_neg (by omega), hsource]

/-- An import with a default has come to take the names from its new source. -/
lemma takesAt_of_standsFor (h : Moving isLegacy remap body visited places) {before after : List Node}
    {statement : Node} {source : String} (hbody : body = before ++ statement :: after) (hlt : before.length < visited)
    (hstands : standsFor isLegacy remap source statement = true) : TakesAt places before.length source := by
  obtain ⟨old, hold⟩ : ∃ old, import? statement = some old := by
    rw [standsFor, Option.any_eq_true] at hstands
    exact hstands.imp fun _ h => h.1
  obtain ⟨hmergeable, hdefault, hreplaced⟩ := (standsFor_iff hold).mp hstands
  have hjoins : joinsOthers statement = false := by
    rw [Bool.eq_false_iff, ne_eq, joinsOthers_iff hold]
    exact fun hjoins => hdefault hjoins.2
  obtain ⟨form, hform⟩ := h.there hbody hold (.inr hjoins)
  obtain ⟨old', hold', hbecame⟩ := h.becameAt hbody hform
  obtain rfl := Option.some.inj (hold'.symm.trans hold)
  refine ⟨form, hform, ?_, hbecame.isMergeable_eq.trans hmergeable⟩
  rw [hbecame.source, if_pos hlt, replaced_of_some hreplaced]

lemma start : Moving isLegacy remap body 0 (Route.places body) where
  length := List.length_map _
  rebound := by rw [placeBindings_places]; exact .of_perm (.refl _)
  became := by
    intro index form hform
    obtain ⟨before, statement, after, hbody, hlength, himport⟩ := importAt?_places hform
    exact ⟨before, statement, after, form, hbody, hlength, himport, rfl, rfl, rfl,
      (if_neg (Nat.not_lt_zero _)).symm, fun h => absurd h (Nat.not_lt_zero _)⟩
  there := by
    rintro before statement after old rfl hold -
    exact ⟨old, by simp [importAt?, Route.places, hold]⟩
  bound := by
    rintro before statement after rfl binding hbinding
    cases himport : import? statement with
    | none => simp [statementBindings_of_none himport] at hbinding
    | some form =>
      rw [statementBindings_of_import himport, mem_bindingsOf] at hbinding
      exact ⟨before, statement, after, form, rfl, by simp [importAt?, Route.places, himport], hbinding.2.2,
        hbinding.2.1.symm, by rw [if_neg (Nat.not_lt_zero _), hbinding.1]⟩

/-- An import without a replacement stays what it is. -/
lemma skip (h : Moving isLegacy remap body visited places)
    (hstays : ∀ form ∈ importAt? places visited, replacement? isLegacy remap form.source = none) :
    Moving isLegacy remap body (visited + 1) places where
  length := h.length
  rebound := h.rebound
  became := by
    intro index form hform
    obtain ⟨before, statement, after, old, hbody, rfl, hold, hbecame⟩ := h.became hform
    refine ⟨before, statement, after, old, hbody, rfl, hold, ?_⟩
    by_cases hvisited : before.length = visited
    · have hsource : form.source = old.source := by rw [hbecame.source, if_neg (by omega)]
      have hnone := hsource ▸ hstays form (hvisited ▸ hform)
      exact { hbecame with
        source := by rw [if_pos (by omega), replaced_of_none hnone, hsource]
        alone := fun _ _ source hsome => by rw [hnone] at hsome; cases hsome }
    · exact hbecame.next hvisited
  there := fun hbody hold hthere => h.there hbody hold (hthere.imp_left fun hle => by omega)
  bound := by
    intro before statement after hbody binding hbinding
    obtain ⟨before', statement', after', form, hbody', hform, hclause, htype, hlands⟩ := h.bound hbody binding hbinding
    refine ⟨before', statement', after', form, hbody', hform, hclause, htype, hlands ▸ ?_⟩
    by_cases hvisited : before'.length = visited
    · have hnone := replaced_of_none (hstays form (hvisited ▸ hform))
      rw [if_pos (by omega), if_neg (by omega), landing_of_settled (by rw [hnone, hnone]), hnone]
    · have hlt : before'.length < visited + 1 ↔ before'.length < visited := by omega
      simp only [hlt]

section Steps

variable {before after : List Node} {statement : Node} {old form : ImportForm} {target : String}

/-- No import below the visited one takes names where none does at the places. -/
lemma not_takes_of_not_takesAt (h : Moving isLegacy remap body visited places)
    (hbody : body = before ++ statement :: after) (hlength : before.length = visited) {bound : Nat}
    (hnone : ∀ other, other ≠ visited → other < bound → ¬ TakesAt places other target) {skipped rest : List Node}
    (hafter : after = skipped ++ rest) (hbound : before.length + 1 + skipped.length ≤ bound) :
    ∀ other ∈ skipped, takesNamesFrom target other = false := by
  intro other hother
  rw [Bool.eq_false_iff]
  intro htakes
  obtain ⟨front, back, rfl⟩ := List.append_of_mem hother
  have hbody' : body = (before ++ statement :: front) ++ other :: (back ++ rest) := by simp [hbody, hafter]
  have htakesAt := h.takesAt_of_takes hbody' (by simp; omega) htakes
  refine hnone _ ?_ ?_ htakesAt
  · simp; omega
  · simp at hbound ⊢; omega

/-- No import above the visited one has come to take names where none does at the places. -/
lemma not_standsFor_of_not_takesAt (h : Moving isLegacy remap body visited places)
    (hbody : body = before ++ statement :: after) (hlength : before.length = visited)
    (hnone : ∀ other < visited, ¬ TakesAt places other target) :
    before.any (standsFor isLegacy remap target) = false := by
  rw [List.any_eq_false]
  intro other hother hstands
  obtain ⟨front, back, rfl⟩ := List.append_of_mem hother
  have hlt : front.length < visited := by simp at hlength; omega
  have hbody' : body = front ++ other :: (back ++ statement :: after) := by simp [hbody]
  exact hnone _ hlt (h.takesAt_of_standsFor hbody' hlt hstands)

/-- Names that join an import above have arrived. -/
lemma landing_of_joined_above (h : Moving isLegacy remap body visited places)
    (hbody : body = before ++ statement :: after) (hlength : before.length = visited)
    (htarget : replaced isLegacy remap form.source = target) {other : Nat} (hlt : other < visited)
    (htakes : TakesAt places other target) :
    landing isLegacy remap before statement after form.source = target := by
  by_cases hsettled : replaced isLegacy remap target = target
  · rw [landing_of_settled (by rw [htarget, hsettled]), htarget]
  obtain ⟨into, hinto, hsource, hmergeable⟩ := htakes
  obtain ⟨front, joined, back, old, hbody', rfl, hold, hbecame⟩ := h.became hinto
  obtain ⟨between, rfl, rfl⟩ := exists_between (hbody'.symm.trans hbody) (by omega)
  have hreplaced : replaced isLegacy remap old.source = target := by
    rw [← hsource, hbecame.source, if_pos hlt]
  have hsome : replacement? isLegacy remap old.source = some target := by
    rw [← hreplaced]
    exact replacement?_of_replaced_ne (by rwa [hreplaced])
  by_cases hjoins : joinsOthers joined = true
  · obtain ⟨hnone, -⟩ := hbecame.alone hlt hjoins target hsome
    rw [landing_of_none (fun s hs => htarget ▸ hnone s (by simp [hs])), htarget]
  · have hstands : standsFor isLegacy remap target joined = true := by
      rw [joinsOthers_iff hold, ← hbecame.isMergeable_eq] at hjoins
      exact (standsFor_iff hold).mpr ⟨hbecame.isMergeable_eq ▸ hmergeable, fun hd => hjoins ⟨hmergeable, hd⟩, hsome⟩
    rw [landing, if_neg, htarget]
    simp [isTakenAlong, htarget, hstands]

/-- Names that join an import below move on with it. -/
lemma landing_of_joined_below (h : Moving isLegacy remap body visited places)
    (hbody : body = before ++ statement :: after) (hlength : before.length = visited)
    (hjoins : joinsOthers statement = true)
    (htarget : replaced isLegacy remap form.source = target) {before' after' : List Node} {joined : Node}
    (hbody' : body = before' ++ joined :: after') (hlt : visited < before'.length)
    (htakes : TakesAt places before'.length target)
    (hfirst : ∀ other, other ≠ visited → other < before'.length → ¬ TakesAt places other target) :
    landing isLegacy remap before statement after form.source =
      landing isLegacy remap before' joined after' target := by
  by_cases hsettled : replaced isLegacy remap target = target
  · rw [landing_of_settled (by rw [htarget, hsettled]), htarget, landing_of_settled (by rw [hsettled, hsettled]),
      hsettled]
  obtain ⟨skipped, rfl, rfl⟩ := exists_between (hbody.symm.trans hbody') (by omega)
  have hstands := h.not_standsFor_of_not_takesAt hbody hlength
    fun other hother => hfirst other (Nat.ne_of_lt hother) (Nat.lt_trans hother hlt)
  have hskipped := h.not_takes_of_not_takesAt hbody hlength hfirst rfl (by simp; omega)
  obtain ⟨into, hinto, hsource, hmergeable⟩ := htakes
  obtain ⟨old, hold, hbecame⟩ := h.becameAt hbody' hinto
  have htakes : takesNamesFrom target joined = true := by
    refine takesNamesFrom_iff.mpr ⟨old, hold, ?_, hbecame.isMergeable_eq ▸ hmergeable⟩
    rw [← hsource, hbecame.source, if_neg (by omega)]
  have htaken : isTakenAlong isLegacy remap before statement (replaced isLegacy remap form.source) = true := by
    simp [isTakenAlong, htarget, hjoins, hsettled, hstands]
  rw [landing_of_first htaken (htarget ▸ hskipped) (htarget ▸ htakes), htarget]

/-- Names that join an import land where that import does. -/
lemma landing_of_joined (h : Moving isLegacy remap body visited places)
    (hbody : body = before ++ statement :: after) (hlength : before.length = visited)
    (hjoins : joinsOthers statement = true) (htarget : replaced isLegacy remap form.source = target)
    {front back : List Node} {joined : Node} {into : ImportForm} (hjoined : body = front ++ joined :: back)
    (hne : front.length ≠ visited) (hinto : importAt? places front.length = some into) (hsource : into.source = target)
    (hmerge : isMergeable into = true)
    (hfirst : ∀ other, other ≠ visited → other < front.length → ¬ TakesAt places other target) :
    (if front.length < visited + 1 then into.source else landing isLegacy remap front joined back into.source) =
      landing isLegacy remap before statement after form.source := by
  have htakes : TakesAt places front.length target := ⟨into, hinto, hsource, hmerge⟩
  by_cases hlt : front.length < visited
  · rw [if_pos (by omega), h.landing_of_joined_above hbody hlength htarget hlt htakes]
    exact hsource
  · rw [if_neg (by omega), h.landing_of_joined_below hbody hlength hjoins htarget hjoined (by omega) htakes hfirst,
      hsource]

lemma joinsOthers_of_importAt? (h : Moving isLegacy remap body visited places)
    (hbody : body = before ++ statement :: after) (hform : importAt? places before.length = some form)
    (hmergeable : isMergeable form = true) (hdefault : form.defaultName = none) : joinsOthers statement = true := by
  obtain ⟨old, hold, hbecame⟩ := h.becameAt hbody hform
  exact (joinsOthers_iff hold).mpr ⟨hbecame.isMergeable_eq ▸ hmergeable, hbecame.defaultName ▸ hdefault⟩

/-- What the imports have become when the names of the visited one have joined another. -/
lemma became_merged (h : Moving isLegacy remap body visited places) (hform : importAt? places visited = some form)
    {other : Nat} {into : ImportForm} (hinto : importAt? places other = some into) {index : Nat}
    {form' : ImportForm} (hform' : importAt? ((setImport places other (addSpecifiers form.specifiers into)).set visited
      none) index = some form') : ∃ before statement after old,
    body = before ++ statement :: after ∧ before.length = index ∧ import? statement = some old ∧
      Became isLegacy remap (visited + 1) before statement after old form' := by
  rw [importAt?_merged hform hinto] at hform'
  split at hform'
  · cases hform'
  · next hindex =>
    split at hform'
    · next hother =>
      cases hform'
      obtain ⟨before, statement, after, old, hbody, rfl, hold, hbecame⟩ := h.became (hother ▸ hinto)
      have hnext := hbecame.next hindex
      exact ⟨before, statement, after, old, hbody, rfl, hold, { hnext with }⟩
    · obtain ⟨before, statement, after, old, hbody, rfl, hold, hbecame⟩ := h.became hform'
      exact ⟨before, statement, after, old, hbody, rfl, hold, hbecame.next hindex⟩

/-- An import whose names join another one leaves its place empty. -/
lemma merge (h : Moving isLegacy remap body visited places) (hd : (localNames (importBindings body)).Nodup)
    (hform : importAt? places visited = some form) (hreplaced : replacement? isLegacy remap form.source = some target)
    (hmergeable : isMergeable form = true) (hdefault : form.defaultName = none) {other : Nat} {into : ImportForm}
    (htarget : mergeTarget? places visited target = some other) (hne : other ≠ visited)
    (hinto : importAt? places other = some into) (hsource : into.source = target) (hmerge : isMergeable into = true)
    (hmove : moveTo places visited form target =
      (setImport places other (mergeSpecifiers into form.specifiers)).set visited none) :
    Moving isLegacy remap body (visited + 1) (moveTo places visited form target) := by
  rw [mergeSpecifiers_eq (nodup_specifiers hform hinto hne (h.nodup hd))] at hmove
  have hplaces := importAt?_merged hform hinto (addSpecifiers form.specifiers into)
  obtain ⟨hlegacy, hremap⟩ := replacement?_eq_some.mp hreplaced
  have hrebound := h.rebound.moveTo hd hform hlegacy hremap
  rw [hmove] at hrebound ⊢
  refine ⟨by simp [setImport, h.length], hrebound, h.became_merged hform hinto, ?_, ?_⟩
  · intro before statement after old hbody hold hthere
    obtain ⟨form', hform'⟩ := h.there hbody hold (hthere.imp_left fun hle => by omega)
    rw [hplaces]
    have hindex : before.length ≠ visited := by
      intro hindex
      rw [h.joinsOthers_of_importAt? hbody (hindex ▸ hform) hmergeable hdefault] at hthere
      rcases hthere with hle | hfalse
      · omega
      · cases hfalse
    rw [if_neg hindex]
    split
    · exact ⟨_, rfl⟩
    · exact ⟨form', hform'⟩
  · intro before statement after hbody binding hbinding
    obtain ⟨before', statement', after', form', hbody', hform', hclause, htype, hlands⟩ :=
      h.bound hbody binding hbinding
    by_cases hindex : before'.length = visited
    · -- a binding of the visited import joins the other one
      have hjoins := h.joinsOthers_of_importAt? hbody' (hindex ▸ hform) hmergeable hdefault
      obtain rfl := Option.some.inj ((hindex ▸ hform').symm.trans hform)
      obtain ⟨front, joined, back, -, hjoined, rfl, -⟩ := h.became hinto
      refine ⟨front, joined, back, addSpecifiers form'.specifiers into, hjoined, by rw [hplaces]; simp [hne], ?_, ?_,
        ?_⟩
      · rw [clausesOf_of_joinsOthers hmergeable hdefault] at hclause
        exact clausesOf_addSpecifiers.mpr (.inl hclause)
      · simp only [isMergeable, Bool.and_eq_true, Bool.not_eq_true'] at hmergeable hmerge
        exact hmerge.1.trans (hmergeable.1.symm.trans htype)
      · rw [if_neg (by omega)] at hlands
        have hlanded := h.landing_of_joined hbody' hindex hjoins (replaced_of_some hreplaced) hjoined hne hinto hsource
          hmerge fun other hother hlt => mergeTarget?_first htarget hother hlt
        exact hlanded.trans hlands
    · have hlt : before'.length < visited + 1 ↔ before'.length < visited := by omega
      by_cases hother : before'.length = other
      · obtain rfl := Option.some.inj ((hother ▸ hform').symm.trans hinto)
        refine ⟨before', statement', after', addSpecifiers form.specifiers form', hbody', ?_,
          clausesOf_addSpecifiers.mpr (.inr hclause), htype, ?_⟩
        · rw [hplaces, if_neg hindex, if_pos hother]
        · simp only [hlt]
          exact hlands
      · refine ⟨before', statement', after', form', hbody', ?_, hclause, htype, by simpa only [hlt] using hlands⟩
        rw [hplaces, if_neg hindex, if_neg hother, hform']

/-- Where nothing takes the names at the places, nothing comes to take them along. -/
lemma stays_alone (h : Moving isLegacy remap body visited places) (hform : importAt? places visited = some form)
    (hnone : isMergeable form = true → form.defaultName = none → mergeTarget? places visited target = none)
    (hbody : body = before ++ statement :: after) (hlength : before.length = visited)
    (hjoins : joinsOthers statement = true) :
    (∀ other ∈ after, takesNamesFrom target other = false) ∧
      before.any (standsFor isLegacy remap target) = false := by
  obtain ⟨old, hold, hbecame⟩ := h.becameAt hbody (hlength ▸ hform)
  obtain ⟨hmergeable, hdefault⟩ := (joinsOthers_iff hold).mp hjoins
  have hnone := hnone (hbecame.isMergeable_eq.trans hmergeable) (hbecame.defaultName.trans hdefault)
  exact ⟨h.not_takes_of_not_takesAt hbody hlength (fun _ hne _ => mergeTarget?_eq_none hnone hne)
      (List.append_nil _).symm (Nat.le_refl _),
    h.not_standsFor_of_not_takesAt hbody hlength fun _ hlt => mergeTarget?_eq_none hnone (Nat.ne_of_lt hlt)⟩

/-- An import that joins no other one moves where it stands. -/
lemma inPlace (h : Moving isLegacy remap body visited places) (hd : (localNames (importBindings body)).Nodup)
    (hform : importAt? places visited = some form) (hreplaced : replacement? isLegacy remap form.source = some target)
    (hnone : isMergeable form = true → form.defaultName = none → mergeTarget? places visited target = none)
    (hmove : moveTo places visited form target = setImport places visited { form with source := target }) :
    Moving isLegacy remap body (visited + 1) (moveTo places visited form target) := by
  have hplaces := importAt?_setImport hform { form with source := target }
  obtain ⟨hlegacy, hremap⟩ := replacement?_eq_some.mp hreplaced
  have hrebound := h.rebound.moveTo hd hform hlegacy hremap
  rw [hmove] at hrebound ⊢
  refine ⟨by simp [setImport, h.length], hrebound, ?_, ?_, ?_⟩
  · intro index form' hform'
    rw [hplaces] at hform'
    split at hform'
    · next hindex =>
      cases hform'
      obtain ⟨before, statement, after, old, hbody, hlength, hold, hbecame⟩ := h.became hform
      have hsource : form.source = old.source := by rw [hbecame.source, if_neg (by omega)]
      refine ⟨before, statement, after, old, hbody, hlength.trans hindex.symm, hold, { hbecame with
        source := ?_
        alone := ?_ }⟩
      · rw [if_pos (by omega), ← hsource, replaced_of_some hreplaced]
      · intro _ hjoins source hsome
        rw [← hsource, hreplaced] at hsome
        cases hsome
        exact h.stays_alone hform hnone hbody hlength hjoins
    · next hindex =>
      obtain ⟨before, statement, after, old, hbody, rfl, hold, hbecame⟩ := h.became hform'
      exact ⟨before, statement, after, old, hbody, rfl, hold, hbecame.next hindex⟩
  · intro before statement after old hbody hold hthere
    obtain ⟨form', hform'⟩ := h.there hbody hold (hthere.imp_left fun hle => by omega)
    rw [hplaces]
    split
    · exact ⟨_, rfl⟩
    · exact ⟨form', hform'⟩
  · intro before statement after hbody binding hbinding
    obtain ⟨before', statement', after', form', hbody', hform', hclause, htype, hlands⟩ :=
      h.bound hbody binding hbinding
    by_cases hindex : before'.length = visited
    · obtain rfl := Option.some.inj ((hindex ▸ hform').symm.trans hform)
      refine ⟨before', statement', after', { form' with source := target }, hbody', by rw [hplaces, if_pos hindex],
        hclause, htype, ?_⟩
      rw [if_neg (by omega)] at hlands
      rw [if_pos (by omega), ← hlands]
      have htarget := replaced_of_some hreplaced
      by_cases hjoins : joinsOthers statement' = true
      · rw [landing_of_none (htarget ▸ (h.stays_alone hform hnone hbody' hindex hjoins).1), htarget]
      · rw [landing, if_neg (by simp [isTakenAlong, hjoins]), htarget]
    · have hlt : before'.length < visited + 1 ↔ before'.length < visited := by omega
      refine ⟨before', statement', after', form', hbody', ?_, hclause, htype, by simpa only [hlt] using hlands⟩
      rw [hplaces, if_neg hindex, hform']

end Steps

end Moving

/-- A run of moves ends where every place has been visited. -/
theorem remapSources_moving {body : List Node} (hd : (localNames (importBindings body)).Nodup) :
    ∃ places, (remapSources isLegacy remap body).1 = statements places ∧
      Moving isLegacy remap body body.length places := by
  obtain ⟨edited, count, hrun, hmoving⟩ := editImports_run (remapping isLegacy remap) body
    (fun visited places _ => Moving isLegacy remap body visited places) .start
    (fun visited places _ h hskip => h.skip fun form hform => by
      have hedit := Option.bind_eq_none_iff.mp hskip form hform
      rw [Option.eq_none_iff_forall_not_mem] at hedit ⊢
      intro target htarget
      obtain ⟨hlegacy, hremap⟩ := replacement?_eq_some.mp htarget
      exact hedit _ (remapping_eq_some.mpr ⟨hlegacy, target, hremap, rfl⟩))
    (fun visited places _ edited h hstep => by
      obtain ⟨form, hform, hedit⟩ := Option.bind_eq_some_iff.mp hstep
      obtain ⟨hlegacy, target, htarget, rfl⟩ := remapping_eq_some.mp hedit
      have hreplaced := replacement?_eq_some.mpr ⟨hlegacy, htarget⟩
      rcases moveTo_eq places visited form target with
        ⟨other, into, hmergeable, hdefault, hfound, hne, hinto, hsource, hmerge, hmove⟩ | ⟨hnone, hmove⟩
      · exact h.merge hd hform hreplaced hmergeable hdefault hfound hne hinto hsource hmerge hmove
      · exact h.inPlace hd hform hreplaced hnone hmove)
  exact ⟨edited, by rw [remapSources_eq, hrun], hmoving⟩

end RouteMigration.Proofs
