import Mathlib.Data.List.Nodup
import RouteMigration.Proofs.Bindings

/-!
# Moving imports

An import moves to another source as a statement of its own or by joining one that is there. Where every
local name is bound once the two come to the same: the bindings get the new source, and all others stay.
-/

namespace RouteMigration.Proofs
open Syntax Route

lemma takesNamesFrom_iff {source : String} {statement : Node} : takesNamesFrom source statement = true ↔
    ∃ form, import? statement = some form ∧ form.source = source ∧ isMergeable form = true := by
  cases h : import? statement <;> simp [takesNamesFrom, h]

lemma mergeTarget?_eq_some {places : Places} {index other : Nat} {source : String}
    (h : mergeTarget? places index source = some other) : other ≠ index ∧
      ∃ into, importAt? places other = some into ∧ into.source = source ∧ isMergeable into = true := by
  rw [mergeTarget?, Option.map_eq_some_iff] at h
  obtain ⟨⟨place, i⟩, hfind, rfl⟩ := h
  have hmem := List.mem_of_find?_eq_some hfind
  have hp := List.find?_some hfind
  simp only [Bool.and_eq_true, decide_eq_true_eq, Option.any_eq_true] at hp
  obtain ⟨hne, node, rfl, htakes⟩ := hp
  obtain ⟨into, hinto, hsource, hmerge⟩ := takesNamesFrom_iff.mp htakes
  have hplace : places[i]? = some (some node) := List.mk_mem_zipIdx_iff_getElem?.mp hmem
  exact ⟨hne, into, by simp [importAt?, hplace, hinto], hsource, hmerge⟩

/-- The two ways of moving an import. -/
lemma moveTo_cases (places : Places) (index : Nat) (form : ImportForm) (source : String) :
    (∃ other into, other ≠ index ∧ importAt? places other = some into ∧ into.source = source ∧
      isMergeable into = true ∧ isMergeable form = true ∧ form.defaultName = none ∧
      moveTo places index form source =
        (setImport places other (mergeSpecifiers into form.specifiers)).set index none) ∨
    moveTo places index form source = setImport places index { form with source } := by
  by_cases hc : (isMergeable form && form.defaultName.isNone) = true
  · cases ht : mergeTarget? places index source with
    | none => exact .inr (by simp [moveTo, hc, ht])
    | some other =>
      obtain ⟨hne, into, hinto, hsource, hmerge⟩ := mergeTarget?_eq_some ht
      simp only [Bool.and_eq_true, Option.isNone_iff_eq_none] at hc
      exact .inl ⟨other, into, hne, hinto, hsource, hmerge, hc.1, hc.2,
        by simp [moveTo, hc, ht, hinto]⟩
  · exact .inr (by simp [moveTo, hc])

lemma mergeSpecifiers_eq {form : ImportForm} {specifiers : List ImportSpecifier}
    (h : ((form.specifiers ++ specifiers).map ImportSpecifier.localName).Nodup) :
    mergeSpecifiers form specifiers = addSpecifiers specifiers form := by
  induction specifiers generalizing form with
  | nil => simp [mergeSpecifiers, addSpecifiers]
  | cons specifier specifiers ih =>
    have hnew : (form.specifiers.any (·.localName = specifier.localName)) = false := by
      rw [List.map_append, List.map_cons, List.nodup_append] at h
      rw [List.any_eq_false]
      intro other hother heq
      exact h.2.2 _ (List.mem_map_of_mem hother) _ (List.mem_cons_self ..) (by simpa using heq)
    have hstep : mergeSpecifiers form (specifier :: specifiers) =
        mergeSpecifiers (addSpecifiers [specifier] form) specifiers := by
      simp only [mergeSpecifiers, List.foldl_cons, hnew, Bool.false_eq_true, if_false]
    rw [hstep, ih (by simpa [addSpecifiers] using h)]
    simp [addSpecifiers]

/-- The bindings that specifiers make in a statement that takes names. -/
def namedBindings (source : String) (specifiers : List ImportSpecifier) : List Binding :=
  specifiers.map fun specifier => ⟨source, false, .named specifier⟩

lemma bindingsOf_addSpecifiers {form : ImportForm} (hm : isMergeable form = true)
    (specifiers : List ImportSpecifier) : (bindingsOf (addSpecifiers specifiers form)).Perm
      (bindingsOf form ++ namedBindings form.source specifiers) := by
  simp only [isMergeable, Bool.and_eq_true, Bool.not_eq_true', Option.isNone_iff_eq_none] at hm
  obtain ⟨htype, hnamespace⟩ := hm
  simp only [bindingsOf, clausesOf, addSpecifiers, namedBindings, htype, hnamespace, Option.toList_none,
    List.map_nil, List.append_nil, List.map_append, List.map_map, List.append_assoc]
  exact List.Perm.append_left _ List.perm_append_comm

lemma bindingsOf_moved {form : ImportForm} (hm : isMergeable form = true) (hd : form.defaultName = none)
    (source : String) : bindingsOf { form with source } = namedBindings source form.specifiers := by
  simp only [isMergeable, Bool.and_eq_true, Bool.not_eq_true', Option.isNone_iff_eq_none] at hm
  simp [bindingsOf, clausesOf, namedBindings, hm.1, hm.2, hd]

lemma specifiers_sublist (form : ImportForm) :
    (form.specifiers.map ImportSpecifier.localName).Sublist (localNames (bindingsOf form)) := by
  have hmap : form.specifiers.map ImportSpecifier.localName =
      (form.specifiers.map Clause.named).map Clause.localName := by
    rw [List.map_map]
    rfl
  rw [localNames_bindingsOf, clausesOf, hmap, List.append_assoc, List.map_append]
  exact List.sublist_append_left ..

lemma importAt?_set_of_ne {places : Places} {index other : Nat} (hi : index < places.length) (place : Option Node)
    (hne : other ≠ index) : importAt? (places.set index place) other = importAt? places other := by
  rw [importAt?_set _ hi, if_neg hne]

/-- The specifiers of two imports at different places bind different names. -/
lemma nodup_specifiers {places : Places} {index other : Nat} {form into : ImportForm}
    (hform : importAt? places index = some form) (hinto : importAt? places other = some into)
    (hne : other ≠ index) (hd : (localNames (placeBindings places)).Nodup) :
    ((into.specifiers ++ form.specifiers).map ImportSpecifier.localName).Nodup := by
  have hrest := (importAt?_set_of_ne (lt_length_of_importAt? hform) none hne).trans hinto
  have hp := (placeBindings_importAt? hform).trans
    (List.Perm.append_left _ (placeBindings_importAt? hrest))
  have hn := (hp.map Binding.localName).nodup_iff.mp hd
  rw [List.map_append, List.map_append, ← List.append_assoc] at hn
  have hswap := List.perm_append_comm.nodup_iff.mp (List.nodup_append.mp hn).1
  rw [List.map_append]
  exact hswap.sublist ((specifiers_sublist into).append (specifiers_sublist form))

/-- The place of another statement can be emptied before or after an import is set. -/
lemma setImport_set {places : Places} {index other : Nat} (hne : other ≠ index) (f : ImportForm) :
    (setImport places other f).set index none = setImport (places.set index none) other f := by
  have hplace : (places.set index none)[other]? = places[other]? := List.getElem?_set_ne hne.symm
  rw [setImport, setImport, List.modify_eq_set_getElem?, List.modify_eq_set_getElem?, hplace]
  cases places[other]? with
  | none => rfl
  | some place => exact List.set_comm _ _ hne

/-- A moved import keeps its bindings under the new source, beside all that stand elsewhere. -/
theorem placeBindings_moveTo {places : Places} {index : Nat} {form : ImportForm}
    (h : importAt? places index = some form) (hd : (localNames (placeBindings places)).Nodup)
    (source : String) : (placeBindings (moveTo places index form source)).Perm
      (bindingsOf { form with source } ++ placeBindings (places.set index none)) := by
  rcases moveTo_cases places index form source with
    ⟨other, into, hne, hinto, hsource, hmerge, hmergeable, hdefault, hmove⟩ | hmove
  · have hrest := (importAt?_set_of_ne (lt_length_of_importAt? h) none hne).trans hinto
    rw [hmove, setImport_set hne, mergeSpecifiers_eq (nodup_specifiers h hinto hne hd), bindingsOf_moved hmergeable hdefault]
    calc placeBindings (setImport (places.set index none) other (addSpecifiers form.specifiers into))
      _ |>.Perm (bindingsOf (addSpecifiers form.specifiers into) ++
          placeBindings ((places.set index none).set other none)) := placeBindings_setImport hrest _
      _ |>.Perm ((bindingsOf into ++ namedBindings source form.specifiers) ++
          placeBindings ((places.set index none).set other none)) := by
        rw [← hsource]
        exact (bindingsOf_addSpecifiers hmerge form.specifiers).append_right _
      _ |>.Perm (namedBindings source form.specifiers ++ (bindingsOf into ++
          placeBindings ((places.set index none).set other none))) := by
        rw [← List.append_assoc]
        exact List.perm_append_comm.append_right _
      _ |>.Perm (namedBindings source form.specifiers ++ placeBindings (places.set index none)) :=
        (placeBindings_importAt? hrest).symm.append_left _
  · rw [hmove]
    exact placeBindings_setImport h _

end RouteMigration.Proofs
