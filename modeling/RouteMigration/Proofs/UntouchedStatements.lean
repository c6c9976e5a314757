import Mathlib.Data.List.Flatten
import RouteMigration.Proofs.Places

/-!
# Untouched statements

A statement that a migration does not touch is in the migrated body as it was read, be it a bystander or an import or
a list of exports from which nothing was taken. Each entry of a draft stands for a statement of the source or for
none, and the entries come in the order of the statements they stand for. Finishing a draft keeps to the places of its
statements. So the untouched statements are in the order they had.
-/

namespace RouteMigration.Proofs
open Syntax Route

/-! ### The order of entries -/

/-- The statement of the source that an entry stands for. -/
def indexOf (entry : Entry) : List Nat :=
  match entry.origin with
  | .statement index => [index]
  | _ => []

lemma indexOf_congr {entry entry' : Entry} (h : entry'.origin = entry.origin) : indexOf entry' = indexOf entry := by
  rw [indexOf, indexOf, h]

/-- Entries that keep their origins stand for what they stood for. -/
lemma indices_sublist {R : Entry → Option Entry → Prop} {entries entries' : List Entry} (h : Edited R entries entries')
    (horigin : ∀ entry entry', R entry (some entry') → entry'.origin = entry.origin) :
    (entries'.flatMap indexOf).Sublist (entries.flatMap indexOf) := by
  refine h.flatMap_sublist indexOf fun entry place _ hplace => ?_
  cases place with
  | none => exact List.nil_sublist _
  | some entry' =>
    rw [Option.elim_some, indexOf_congr (horigin entry entry' hplace)]

lemma indices_ofBody (body : List Node) : (Draft.ofBody body).entries.flatMap indexOf = List.range body.length := by
  have hindex : (fun pair : Node × Nat => indexOf ⟨.statement pair.2, pair.1⟩) = fun pair => [pair.2] := rfl
  rw [Draft.ofBody, List.flatMap_map, hindex, ← List.map_eq_flatMap, List.zipIdx_map_snd, List.range_eq_range']

variable {settings : Settings} {module : Module} {routePath : String}

lemma page_indices {default : DefaultExport} {loader : Located} {action : Option Located} {draft : Draft}
    (h : migratePage settings module routePath default loader action = .ok draft) :
    (draft.entries.flatMap indexOf).Sublist (List.range module.body.length) := by
  obtain ⟨attached, entries, hattach, hadvised, hdraft⟩ := migratePage_advised h
  obtain ⟨before, after, component?, hdetach⟩ := detachDefault_eq settings (.ofBody module.body) default
  have hcomponent : component?.toList.flatMap indexOf = [] := by
    rw [List.flatMap_eq_nil_iff]
    intro entry hentry
    obtain ⟨_, _, _, _, _, -, rfl, -⟩ := hdetach.component entry (Option.mem_toList.mp hentry)
    rfl
  have hdetached : ((detachDefault settings (.ofBody module.body) default).1.entries.flatMap indexOf).Sublist
      (List.range module.body.length) := by
    rw [hdetach.entries, List.flatMap_append, List.flatMap_append, hcomponent, List.append_nil, ← List.flatMap_append,
      ← indices_ofBody]
    exact indices_sublist hdetach.edited fun _ _ => DetachStep.origin
  have hentries : draft.entries.flatMap indexOf = entries.flatMap indexOf := by
    rw [hdraft, flatMap_insert rfl, List.append_nil]
  rw [hentries]
  exact (indices_sublist hadvised fun _ _ hstep => hstep.sameForm.origin).trans
    ((indices_sublist hattach.edited fun _ _ => AttachStep.origin).trans hdetached)

lemma resource_indices {handlers : List (String × Located)} {draft : Draft} (hne : handlers ≠ [])
    (h : migrateResource settings module routePath handlers = .ok draft) :
    (draft.entries.flatMap indexOf).Sublist (List.range module.body.length) := by
  obtain ⟨first, gap, attached, hrun, rfl⟩ := migrateResource_eq_ok hne h
  have hstart : ((Draft.ofBody module.body).insertBefore (.statement first)
      ⟨.descriptor, withGap gap (resourceDescriptor settings routePath [])⟩).entries.flatMap indexOf =
        List.range module.body.length := by
    obtain ⟨before, after, hsplit, hinsert⟩ := entries_insertBefore (.ofBody module.body) (.statement first)
      ⟨.descriptor, withGap gap (resourceDescriptor settings routePath [])⟩
    rw [hinsert, flatMap_insert rfl, ← hsplit, indices_ofBody]
  obtain ⟨properties, hdistinct, hindices⟩ := attachAll_run
    (P := fun draft _ _ => Distinct draft ∧
      (draft.entries.flatMap indexOf).Sublist (List.range module.body.length))
    (fun _ _ _ _ _ _ gap ⟨hdistinct, hindices⟩ hattach => by
      refine ⟨distinct_modify (hattach.distinct hdistinct) _ _, ?_⟩
      rw [flatMap_withDescriptor fun _ => rfl]
      exact (indices_sublist hattach.edited fun _ _ => AttachStep.origin).trans hindices)
    ⟨distinct_start module.body first _, hstart ▸ List.Sublist.refl _⟩ hrun
  rw [flatMap_settleDescriptor (fun _ => rfl) hdistinct]
  exact hindices

/-- The entries of a draft come in the order of the statements they stand for. -/
theorem Drafting.indices {kind : Kind} {draft : Draft} (h : Drafting settings module routePath kind draft) :
    (draft.entries.flatMap indexOf).Sublist (List.range module.body.length) := by
  cases h with
  | page _ _ _ hpage => exact page_indices hpage
  | resource _ _ hhandlers hresource => exact resource_indices hhandlers hresource

/-! ### Places -/

/-- The statement whose place a node has. -/
def indexAt (body : List Node) (node : Node) : List Nat :=
  (body.findIdx? fun statement => statement.span = node.span).toList

section Places

variable {source : List Char} {spans : List Span} {body : List Node}

lemma indexAt_congr {a b : Node} (h : a.info = b.info) : indexAt body a = indexAt body b := by
  have hspan : a.span = b.span := congrArg Info.span h
  rw [indexAt, indexAt, hspan]

lemma indexAt_of_none (hread : ReadStatements source spans body) {node : Node} (h : node.span = none) :
    indexAt body node = [] := by
  rw [indexAt, h, List.findIdx?_eq_none_iff.mpr, Option.toList_none]
  intro statement hmem
  obtain ⟨span, hstatement⟩ := hread.of_mem hmem
  rw [hstatement.place]
  rfl

lemma mem_indexAt {index : Nat} {node : Node} (h : index ∈ indexAt body node) :
    ∃ statement, body[index]? = some statement ∧ statement.span = node.span := by
  obtain ⟨hlt, hspan, -⟩ := List.findIdx?_eq_some_iff_getElem.mp (Option.mem_toList.mp h)
  exact ⟨body[index], List.getElem?_eq_getElem hlt, of_decide_eq_true hspan⟩

/-- A statement of a parsed module is the one that has its place. -/
lemma indexAt_of_get (hread : ReadStatements source spans body) {index : Nat} {statement : Node}
    (hget : body[index]? = some statement) : indexAt body statement = [index] := by
  obtain ⟨hlt, hstatement⟩ := List.getElem?_eq_some_iff.mp hget
  rw [indexAt, List.findIdx?_eq_some_iff_getElem.mpr, Option.toList_some]
  refine ⟨hlt, by simp [hstatement], fun j hj hspan => ?_⟩
  have hother : body[j]? = some body[j] := List.getElem?_eq_getElem (hj.trans hlt)
  obtain ⟨span, -, hplace⟩ := hread.get hget
  have hsame := hread.eq_of_within hother hget ((of_decide_eq_true hspan).trans hplace.place) hplace.place
    ⟨Nat.le_refl _, Nat.le_refl _⟩
  exact absurd hsame hj.ne

/-- An entry has no place but that of the statement it stands for. -/
lemma Rooted.indexAt (hread : ReadStatements source spans body) {entry : Entry} (h : Rooted body entry) :
    (indexAt body entry.node).Sublist (indexOf entry) := by
  cases hfound : body.findIdx? fun statement => statement.span = entry.node.span with
  | none =>
    rw [Proofs.indexAt, hfound]
    exact List.nil_sublist _
  | some index =>
    have hmem : index ∈ Proofs.indexAt body entry.node := by
      rw [Proofs.indexAt, hfound]
      exact List.mem_singleton_self _
    obtain ⟨statement, hget, hspan⟩ := mem_indexAt hmem
    obtain ⟨span, -, hplace⟩ := hread.get hget
    have hown : entry.node.span = some span := hspan.symm.trans hplace.place
    by_cases horigin : ∃ i, entry.origin = .statement i
    · obtain ⟨i, hi⟩ := horigin
      obtain ⟨outer, outerSpan, hgetᵢ, houter, hconfined⟩ := h.statement i hi
      obtain rfl := hread.eq_of_within hget hgetᵢ hplace.place houter (hconfined.own span hown)
      rw [Proofs.indexAt, hfound, indexOf, hi]
      exact List.Sublist.refl _
    · have hnew := h.new fun i hi => horigin ⟨i, hi⟩
      rw [hnew] at hown
      cases hown

end Places

/-! ### Finished bodies -/

section Views

variable {β : Type} {view : Node → List β}

lemma importEdited_sublist (hinfo : ∀ a b, a.info = b.info → view a = view b) {body body' : List Node}
    (h : Edited ImportEdit body body') : (body'.flatMap view).Sublist (body.flatMap view) := by
  refine h.flatMap_sublist view fun statement place _ hedit => ?_
  cases place with
  | none => exact List.nil_sublist _
  | some node =>
    rw [Option.elim_some, hinfo _ _ hedit.info]

/-- A view of the records of statements, which shows nothing of new ones, shows no more in the end. -/
theorem finish_sublist (hinfo : ∀ a b, a.info = b.info → view a = view b) (hnew : ∀ form, view (Node.make form) = [])
    (settings : Settings) (kind : Kind) (used : List String) (body : List Node) :
    ((finish settings kind used body).flatMap view).Sublist (body.flatMap view) := by
  obtain ⟨prologue, rest, hedited, -, -, happly⟩ :=
    applyImports_eq (dropLegacy settings used body) (pendingImports settings kind)
  have hfresh (requests : List (String × List String)) : (freshImports requests).flatMap view = [] := by
    rw [List.flatMap_eq_nil_iff]
    intro statement hstatement
    obtain ⟨request, -, rfl⟩ := List.mem_map.mp hstatement
    exact hnew _
  calc (finish settings kind used body).flatMap view
    _ |>.Sublist ((applyImports (dropLegacy settings used body) (pendingImports settings kind)).flatMap view) :=
      List.filter_sublist.flatMap view
    _ |>.Sublist ((prologue ++ rest).flatMap view) := by
      rw [happly, List.flatMap_append, List.flatMap_append, hfresh, List.append_nil, ← List.flatMap_append]
    _ |>.Sublist ((dropLegacy settings used body).flatMap view) := importEdited_sublist hinfo hedited
    _ |>.Sublist (body.flatMap view) := importEdited_sublist hinfo (dropLegacy_edited settings used body)

end Views

/-! ### Untouched statements -/

/-- The statements of a module that are in another one as they are, in the order of both. -/
structure Untouched (module result : Module) (statements : List Node) : Prop where
  given : statements.Sublist module.body
  kept : statements.Sublist result.body
  complete : ∀ statement ∈ module.body, statement ∈ result.body → statement ∈ statements

variable {source : List Char} {spans : List Span}

lemma indices_finish (hread : ReadStatements source spans module.body) {kind : Kind} {draft : Draft}
    (hdraft : Drafting settings module routePath kind draft) (used : List String) :
    ((finish settings kind used draft.body).flatMap (indexAt module.body)).Sublist (List.range module.body.length) := by
  have hrooted := hdraft.rooted hread
  calc (finish settings kind used draft.body).flatMap (indexAt module.body)
    _ |>.Sublist (draft.body.flatMap (indexAt module.body)) :=
      finish_sublist (fun _ _ => indexAt_congr) (fun _ => indexAt_of_none hread rfl) settings kind used draft.body
    _ |>.Sublist (draft.entries.flatMap indexOf) := by
      rw [Draft.body, List.flatMap_map]
      exact List.Sublist.flatMap_right _ fun entry hentry => (hrooted entry hentry).indexAt hread
    _ |>.Sublist (List.range module.body.length) := hdraft.indices

lemma flatMap_range_getElem? {α : Type} (l : List α) : (List.range l.length).flatMap (fun i => l[i]?.toList) = l := by
  induction l with
  | nil => rfl
  | cons a l ih =>
    rw [List.length_cons, List.range_succ_eq_map, List.flatMap_cons, List.flatMap_map]
    exact congrArg (a :: ·) ih

open Classical in
/-- The untouched statements of a parsed module. -/
theorem exists_untouched (hread : ReadStatements source spans module.body) {kind : Kind} {draft : Draft}
    (hdraft : Drafting settings module routePath kind draft) (used : List String) :
    ∃ statements, Untouched module (module.withBody (finish settings kind used draft.body)) statements := by
  let result := finish settings kind used draft.body
  let found := result.filter (· ∈ module.body)
  have hfound : (found.flatMap (indexAt module.body)).flatMap (fun i => module.body[i]?.toList) = found := by
    have hsame : ∀ statement ∈ found,
        (indexAt module.body statement).flatMap (fun i => module.body[i]?.toList) = [statement] := by
      intro statement hmem
      have hbody : statement ∈ module.body := of_decide_eq_true (List.mem_filter.mp hmem).2
      obtain ⟨index, hget⟩ := List.mem_iff_getElem?.mp hbody
      rw [indexAt_of_get hread hget, List.flatMap_singleton, hget, Option.toList_some]
    rw [List.flatMap_assoc, List.flatMap_congr hsame, List.flatMap_singleton']
  have hindices : (found.flatMap (indexAt module.body)).Sublist (List.range module.body.length) :=
    (List.filter_sublist.flatMap _).trans (indices_finish hread hdraft used)
  refine ⟨found, ?_, List.filter_sublist, fun statement hbody hresult => ?_⟩
  · rw [← hfound]
    refine (hindices.flatMap fun i => module.body[i]?.toList).trans ?_
    rw [flatMap_range_getElem?]
  · exact List.mem_filter.mpr ⟨hresult, decide_eq_true hbody⟩

end RouteMigration.Proofs
