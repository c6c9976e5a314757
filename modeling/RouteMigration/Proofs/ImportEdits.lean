import RouteMigration.Proofs.ImportMoves

/-!
# Runs of import edits

An edit of the imports visits the places one after the other. What every visit keeps is kept by the run:
statements that are no imports stay as they are and in their order, and a removal that finds the name at
one place changes that place alone.
-/

namespace RouteMigration.Proofs
open Syntax Route

/-- What an edit of the imports makes of the places, with the number of edits, when it visits one of them. -/
def visit (edit : Places → Nat → ImportForm → Option Places) (state : Places × Nat) (index : Nat) : Places × Nat :=
  match (importAt? state.1 index).bind (edit state.1 index) with
  | some edited => (edited, state.2 + 1)
  | none => (state.1, state.2)

/-- What holds at first and passes from each place to the next holds in the end. -/
theorem editImports_run (edit : Places → Nat → ImportForm → Option Places) (body : List Node)
    (P : Nat → Places → Nat → Prop) (start : P 0 (places body) 0)
    (skip : ∀ index places count, P index places count →
      (importAt? places index).bind (edit places index) = none → P (index + 1) places count)
    (step : ∀ index places count edited, P index places count →
      (importAt? places index).bind (edit places index) = some edited → P (index + 1) edited (count + 1)) :
    ∃ places count, editImports edit body = (statements places, count) ∧ P body.length places count := by
  have hrun : ∀ n, P n ((List.range n).foldl (visit edit) (places body, 0)).1
      ((List.range n).foldl (visit edit) (places body, 0)).2 := by
    intro n
    induction n with
    | zero => exact start
    | succ n ih =>
      rw [List.range_succ, List.foldl_append, List.foldl_cons, List.foldl_nil]
      generalize (List.range n).foldl (visit edit) (places body, 0) = state at ih
      cases he : (importAt? state.1 n).bind (edit state.1 n) with
      | none => simpa only [visit, he] using skip n _ _ ih he
      | some edited => simpa only [visit, he] using step n _ _ edited ih he
  exact ⟨_, _, rfl, hrun body.length⟩

/-- What every edit of an import keeps holds in the end. -/
lemma editImports_invariant {edit : Places → Nat → ImportForm → Option Places} {P : Places → Prop} (body : List Node)
    (start : P (places body))
    (step : ∀ places index form edited, P places → importAt? places index = some form →
      edit places index form = some edited → P edited) :
    ∃ edited, (editImports edit body).1 = statements edited ∧ P edited := by
  obtain ⟨edited, count, hrun, hedited⟩ := editImports_run edit body (fun _ places _ => P places) start
    (fun _ _ _ h _ => h) (fun index places _ edited h hstep => by
      obtain ⟨form, hform, hedit⟩ := Option.bind_eq_some_iff.mp hstep
      exact step places index form edited h hform hedit)
  exact ⟨edited, by rw [hrun], hedited⟩

/-! ### Statements that are no imports -/

/-- Imports may go, or change in what they import but in nothing else; every other statement stays. -/
inductive ImportEdit (statement : Node) : Option Node → Prop where
  | other : import? statement = none → ImportEdit statement (some statement)
  | changed {place : Option Node} : (import? statement).isSome →
      (∀ node ∈ place, (import? node).isSome ∧ node.info = statement.info) → ImportEdit statement place

lemma ImportEdit.info {statement node : Node} (h : ImportEdit statement (some node)) : node.info = statement.info := by
  cases h with
  | other _ => rfl
  | changed _ hplace => exact (hplace node rfl).2

lemma importEdit_self (statement : Node) : ImportEdit statement (some statement) := by
  cases h : import? statement with
  | none => exact .other h
  | some form => exact .changed (by simp [h]) (by simp [h])

lemma importEdited_trans {l m n : List Node} (h : Edited ImportEdit l m) (h' : Edited ImportEdit m n) :
    Edited ImportEdit l n := by
  refine h.trans h' (fun a b hab hb => ?_) (fun a b c hab hbc => ?_)
  · cases hab with
    | other hnone => exact hb
    | changed hsome _ => exact .changed hsome (by simp)
  · cases hab with
    | other hnone => exact hbc
    | changed hsome hb =>
      cases hbc with
      | other hnone => simp [hnone] at hb
      | changed _ hc =>
        refine .changed hsome fun node hnode => ⟨(hc node hnode).1, ?_⟩
        rw [(hc node hnode).2, (hb b rfl).2]

lemma importEdits_places (body : List Node) : List.Forall₂ ImportEdit body (places body) := by
  rw [places, List.forall₂_map_right_iff, List.forall₂_same]
  exact fun statement _ => importEdit_self statement

lemma importEdits_set {body : List Node} {places : Places} {index : Nat} {node : Node} {place : Option Node}
    (h : List.Forall₂ ImportEdit body places) (hnode : places[index]? = some (some node))
    (himport : (import? node).isSome) (hplace : ∀ other ∈ place, (import? other).isSome ∧ other.info = node.info) :
    List.Forall₂ ImportEdit body (places.set index place) := by
  rw [List.forall₂_iff_get] at h ⊢
  obtain ⟨hlength, hget⟩ := h
  refine ⟨by simpa using hlength, fun i h₁ h₂ => ?_⟩
  have hi := hget i h₁ (by simpa using h₂)
  simp only [List.get_eq_getElem] at hi ⊢
  by_cases hindex : index = i
  · subst hindex
    rw [List.getElem_set_self]
    rw [(List.getElem?_eq_some_iff.mp hnode).2] at hi
    refine .changed ?_ fun other hother => ⟨(hplace other hother).1, (hplace other hother).2.trans hi.info⟩
    cases hi with
    | other hnone => simp [hnone] at himport
    | changed hsome _ => exact hsome
  · rw [List.getElem_set_ne hindex]
    exact hi

lemma importEdits_clear {body : List Node} {places : Places} {index : Nat} {form : ImportForm}
    (h : List.Forall₂ ImportEdit body places) (himport : importAt? places index = some form) :
    List.Forall₂ ImportEdit body (places.set index none) := by
  obtain ⟨node, hnode, hform, -⟩ := importAt?_eq_some himport
  exact importEdits_set h hnode (by simp [hform]) nofun

lemma importEdits_setImport {body : List Node} {places : Places} {index : Nat} {form : ImportForm}
    (h : List.Forall₂ ImportEdit body places) (himport : importAt? places index = some form)
    (f : ImportForm) : List.Forall₂ ImportEdit body (setImport places index f) := by
  obtain ⟨node, hnode, hform, hset⟩ := importAt?_eq_some himport
  rw [hset]
  exact importEdits_set h hnode (by simp [hform]) (by simp; rfl)

lemma importAt?_setImport {places : Places} {index : Nat} {form : ImportForm}
    (h : importAt? places index = some form) (f : ImportForm) (other : Nat) :
    importAt? (setImport places index f) other =
      if other = index then some f else importAt? places other := by
  obtain ⟨node, -, -, hset⟩ := importAt?_eq_some h
  rw [hset, importAt?_set _ (lt_length_of_importAt? h), Option.bind_some, import?_withForm]

lemma importEdits_moveTo {body : List Node} {places : Places} {index : Nat} {form : ImportForm}
    (h : List.Forall₂ ImportEdit body places) (himport : importAt? places index = some form)
    (source : String) : List.Forall₂ ImportEdit body (moveTo places index form source) := by
  rcases moveTo_cases places index form source with
    ⟨other, into, hne, hinto, -, -, -, -, hmove⟩ | hmove
  · rw [hmove]
    have hform : importAt? (setImport places other (mergeSpecifiers into form.specifiers)) index =
        some form := by
      rw [importAt?_setImport hinto, if_neg (Ne.symm hne), himport]
    exact importEdits_clear (importEdits_setImport h hinto _) hform
  · rw [hmove]
    exact importEdits_setImport h himport _

lemma remapAt_of_some {remap : List (String × String)} {places : Places} {index : Nat} {form : ImportForm}
    {source : String} (h : Settings.remap? remap form.source = some source) :
    remapAt remap places index form = moveTo places index form source := by
  rw [remapAt, h]

lemma importEdits_remapAt {body : List Node} {places : Places} {index : Nat} {form : ImportForm}
    (remap : List (String × String)) (h : List.Forall₂ ImportEdit body places)
    (himport : importAt? places index = some form) :
    List.Forall₂ ImportEdit body (remapAt remap places index form) := by
  unfold remapAt
  split
  · exact importEdits_moveTo h himport _
  · exact h

/-- The edit of a place that moves a legacy import. -/
def remapping (isLegacy : String → Bool) (remap : List (String × String)) (places : Places)
    (index : Nat) (form : ImportForm) : Option Places :=
  if isLegacy form.source && (Settings.remap? remap form.source).isSome then
    some (remapAt remap places index form)
  else none

/-- A legacy import with a replacement moves to it. -/
lemma remapping_eq_some {isLegacy : String → Bool} {remap : List (String × String)} {places edited : Places}
    {index : Nat} {form : ImportForm} : remapping isLegacy remap places index form = some edited ↔
      isLegacy form.source = true ∧
        ∃ source, Settings.remap? remap form.source = some source ∧ moveTo places index form source = edited := by
  cases hsource : Settings.remap? remap form.source with
  | none => simp [remapping, hsource]
  | some source => simp [remapping, hsource, remapAt_of_some hsource]

lemma remapSources_eq (isLegacy : String → Bool) (remap : List (String × String)) (body : List Node) :
    remapSources isLegacy remap body = editImports (remapping isLegacy remap) body :=
  rfl

theorem remapSources_edited (isLegacy : String → Bool) (remap : List (String × String))
    (body : List Node) : Edited ImportEdit body (remapSources isLegacy remap body).1 := by
  obtain ⟨edited, hrun, hedited⟩ := editImports_invariant body (importEdits_places body)
    fun places index form edited h hform hedit => by
      obtain ⟨-, source, -, rfl⟩ := remapping_eq_some.mp hedit
      exact importEdits_moveTo h hform source
  rw [remapSources_eq, hrun]
  exact edited_of_forall₂ hedited

/-! ### Removing a name -/

/-- Removes a name at one place. -/
def unbindAt (remap : List (String × String)) (name : String) (places : Places) (index : Nat)
    (form : ImportForm) : Places :=
  if (unbind name form).isEmpty then places.set index none
  else remapAt remap (setImport places index (unbind name form)) index (unbind name form)

/-- The edit of a removal at a place. -/
def removal (isLegacy : String → Bool) (remap : List (String × String)) (name : String)
    (places : Places) (index : Nat) (form : ImportForm) : Option Places :=
  if isLegacy form.source ∧ unbind name form ≠ form then some (unbindAt remap name places index form)
  else none

/-- A legacy import that binds the name loses it. -/
lemma removal_eq_some {isLegacy : String → Bool} {remap : List (String × String)} {name : String}
    {places edited : Places} {index : Nat} {form : ImportForm} :
    removal isLegacy remap name places index form = some edited ↔
      isLegacy form.source = true ∧ unbind name form ≠ form ∧ unbindAt remap name places index form = edited := by
  rw [removal, Option.ite_none_right_eq_some, Option.some.injEq, and_assoc]

lemma removeImport_eq (isLegacy : String → Bool) (remap : List (String × String)) (name : String)
    (body : List Node) : removeImport isLegacy remap name body =
      ((editImports (removal isLegacy remap name) body).1,
        decide (0 < (editImports (removal isLegacy remap name) body).2)) := by
  have hedit : (fun places index form =>
      let kept := unbind name form
      if !isLegacy form.source || kept = form then none
      else if kept.isEmpty then some (places.set index none)
      else some (remapAt remap (setImport places index kept) index kept)) =
      removal isLegacy remap name := by
    funext places index form
    by_cases hl : isLegacy form.source <;> by_cases hk : unbind name form = form <;>
      by_cases he : (unbind name form).isEmpty <;> simp [removal, unbindAt, hl, hk, he]
  rw [removeImport, hedit]

lemma importEdits_unbindAt {body : List Node} {places : Places} {index : Nat} {form : ImportForm}
    (remap : List (String × String)) (name : String) (h : List.Forall₂ ImportEdit body places)
    (himport : importAt? places index = some form) :
    List.Forall₂ ImportEdit body (unbindAt remap name places index form) := by
  unfold unbindAt
  split
  · exact importEdits_clear h himport
  · exact importEdits_remapAt remap (importEdits_setImport h himport _)
      (by rw [importAt?_setImport himport, if_pos rfl])

theorem removeImport_edited (isLegacy : String → Bool) (remap : List (String × String)) (name : String)
    (body : List Node) : Edited ImportEdit body (removeImport isLegacy remap name body).1 := by
  obtain ⟨edited, hrun, hedited⟩ := editImports_invariant body (importEdits_places body)
    fun places index form edited h hform hedit => by
      obtain ⟨-, -, rfl⟩ := removal_eq_some.mp hedit
      exact importEdits_unbindAt remap name h hform
  rw [removeImport_eq, hrun]
  exact edited_of_forall₂ hedited

lemma clausesOf_unbind (name : String) (form : ImportForm) :
    clausesOf (unbind name form) = (clausesOf form).filter (·.localName ≠ name) := by
  have hnamed : ((form.specifiers.filter (·.localName ≠ name)).map Clause.named) =
      (form.specifiers.map Clause.named).filter (·.localName ≠ name) := by
    rw [List.filter_map]
    rfl
  have hoption (clause : String → Clause) (hc : ∀ n, (clause n).localName = n) (o : Option String) :
      (if o = some name then none else o).toList.map clause =
        (o.toList.map clause).filter (·.localName ≠ name) := by
    cases o with
    | none => rfl
    | some n => by_cases hn : n = name <;> simp [hn, hc]
  simp only [clausesOf, unbind, List.filter_append]
  rw [hnamed, hoption .default (fun _ => rfl), hoption .namespace (fun _ => rfl)]

lemma bindingsOf_unbind (name : String) (form : ImportForm) :
    bindingsOf (unbind name form) = (bindingsOf form).filter (·.localName ≠ name) := by
  rw [bindingsOf, clausesOf_unbind, bindingsOf, List.filter_map]
  rfl

lemma unbind_eq_self_iff {name : String} {form : ImportForm} :
    unbind name form = form ↔ name ∉ localNames (bindingsOf form) := by
  constructor
  · intro h hname
    obtain ⟨binding, hb, rfl⟩ := List.mem_map.mp hname
    rw [← h, bindingsOf_unbind] at hb
    simp at hb
  · intro h
    rw [localNames_bindingsOf, clausesOf, List.map_append, List.map_append, List.mem_append,
      List.mem_append, not_or, not_or] at h
    obtain ⟨⟨hnamed, hdefault⟩, hnamespace⟩ := h
    obtain ⟨source, specifiers, defaultName, namespaceName, typeOnly⟩ := form
    simp only [unbind, ImportForm.mk.injEq, true_and, and_true]
    refine ⟨?_, ?_, ?_⟩
    · rw [List.filter_eq_self]
      intro specifier hs
      simp only [ne_eq, decide_not, Bool.not_eq_true', decide_eq_false_iff_not]
      rintro rfl
      exact hnamed (by simp only [List.map_map]; exact List.mem_map_of_mem hs)
    · cases defaultName <;> simp_all [Clause.localName, eq_comm]
    · cases namespaceName <;> simp_all [Clause.localName, eq_comm]

end RouteMigration.Proofs
