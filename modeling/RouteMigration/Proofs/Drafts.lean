import Mathlib.Data.List.Basic
import Mathlib.Data.List.InsertIdx
import Mathlib.Data.List.Nodup
import Mathlib.Data.List.Perm.Basic
import Mathlib.Tactic.Common
import RouteMigration.Proofs.Edits
import RouteMigration.Route.Draft

/-!
# Entries of drafts

A draft of a module holds each statement once, under an origin of its own. What stands for an origin is
then found by membership alone, and an entry that comes in or goes shows in the body in its own place.
-/

namespace RouteMigration.Proofs
open Syntax Route

/-- Different entries stand for different origins. -/
def Distinct (draft : Draft) : Prop :=
  (draft.entries.map (·.origin)).Nodup

/-- An entry with another form of its statement. -/
def reworked (f : Node → Node) (entry : Entry) : Entry :=
  { entry with node := f entry.node }

lemma distinct_of_origins {draft draft' : Draft} (h : Distinct draft)
    (horigins : draft'.entries.map (·.origin) = draft.entries.map (·.origin)) : Distinct draft' := by
  unfold Distinct
  rwa [horigins]

lemma find?_eq_some {draft : Draft} {origin : Origin} {node : Node} (h : draft.find? origin = some node) :
    ⟨origin, node⟩ ∈ draft.entries := by
  obtain ⟨entry, hfind, rfl⟩ := Option.map_eq_some_iff.mp h
  have horigin := List.find?_some hfind
  rw [← of_decide_eq_true horigin]
  exact List.mem_of_find?_eq_some hfind

lemma find?_isSome {draft : Draft} {entry : Entry} (h : entry ∈ draft.entries) :
    ∃ node, draft.find? entry.origin = some node := by
  have hsome : (draft.entries.find? (·.origin = entry.origin)).isSome :=
    List.find?_isSome.mpr ⟨entry, h, by simp⟩
  obtain ⟨found, hfound⟩ := Option.isSome_iff_exists.mp hsome
  exact ⟨found.node, by rw [Draft.find?, hfound]; rfl⟩

lemma Distinct.eq_of_origin {draft : Draft} (h : Distinct draft) {a b : Entry} (ha : a ∈ draft.entries)
    (hb : b ∈ draft.entries) (hab : a.origin = b.origin) : a = b :=
  List.inj_on_of_nodup_map h ha hb hab

lemma Distinct.find? {draft : Draft} (h : Distinct draft) {origin : Origin} {node : Node}
    (hmem : ⟨origin, node⟩ ∈ draft.entries) : draft.find? origin = some node := by
  obtain ⟨found, hfound⟩ := find?_isSome hmem
  have heq := h.eq_of_origin (find?_eq_some hfound) hmem rfl
  rw [hfound]
  exact congrArg (some ·.node) heq

/-- An entry stands between the others. -/
lemma Distinct.split {draft : Draft} (h : Distinct draft) {entry : Entry} (hmem : entry ∈ draft.entries) :
    ∃ before after, draft.entries = before ++ entry :: after ∧
      (draft.erase entry.origin).entries = before ++ after := by
  obtain ⟨before, after, hentries⟩ := List.append_of_mem hmem
  refine ⟨before, after, hentries, ?_⟩
  unfold Distinct at h
  rw [hentries, List.map_append, List.map_cons, List.nodup_middle, List.nodup_cons, ← List.map_append] at h
  have hother (e : Entry) (he : e ∈ before ++ after) : e.origin ≠ entry.origin := fun horigin =>
    h.1 (List.mem_map.mpr ⟨e, he, horigin⟩)
  rw [Draft.erase, hentries, List.filter_append, List.filter_cons_of_neg (by simp), ← List.filter_append,
    List.filter_eq_self]
  exact fun e he => decide_eq_true (hother e he)

/-! ### Edits of the entries -/

lemma distinct_ofBody (body : List Node) : Distinct (.ofBody body) := by
  have hnodup : ((List.range' 0 body.length).map Origin.statement).Nodup :=
    List.Nodup.map (fun i j hij => by simpa using hij) List.nodup_range'
  have horigins : (Draft.ofBody body).entries.map (·.origin) =
      (List.range' 0 body.length).map Origin.statement := by
    rw [← List.zipIdx_map_snd 0 body, Draft.ofBody, List.map_map, List.map_map]
    rfl
  unfold Distinct
  rwa [horigins]

lemma mem_ofBody {body : List Node} {entry : Entry} : entry ∈ (Draft.ofBody body).entries ↔
    ∃ index, entry.origin = .statement index ∧ body[index]? = some entry.node := by
  rw [Draft.ofBody, List.mem_map]
  constructor
  · rintro ⟨⟨node, index⟩, hmem, rfl⟩
    exact ⟨index, rfl, List.mk_mem_zipIdx_iff_getElem?.mp hmem⟩
  · rintro ⟨index, horigin, hnode⟩
    refine ⟨(entry.node, index), List.mk_mem_zipIdx_iff_getElem?.mpr hnode, ?_⟩
    obtain ⟨origin, node⟩ := entry
    simp_all

@[simp] lemma body_ofBody (body : List Node) : (Draft.ofBody body).body = body := by
  rw [Draft.body, Draft.ofBody, List.map_map]
  exact List.zipIdx_map_fst 0 body

lemma entries_modify (draft : Draft) (origin : Origin) (f : Node → Node) : (draft.modify origin f).entries =
    draft.entries.map fun entry => if entry.origin = origin then reworked f entry else entry :=
  rfl

lemma entries_mapNodes (draft : Draft) (f : Node → Node) :
    (draft.mapNodes f).entries = draft.entries.map (reworked f) :=
  rfl

lemma mem_mapNodes {draft : Draft} {entry : Entry} (h : entry ∈ draft.entries) (f : Node → Node) :
    reworked f entry ∈ (draft.mapNodes f).entries := by
  rw [entries_mapNodes]
  exact List.mem_map_of_mem h

lemma mem_modify {draft : Draft} {entry : Entry} (h : entry ∈ draft.entries) {origin : Origin}
    (horigin : entry.origin = origin) (f : Node → Node) : reworked f entry ∈ (draft.modify origin f).entries := by
  rw [entries_modify]
  exact List.mem_map.mpr ⟨entry, h, if_pos horigin⟩

lemma distinct_modify {draft : Draft} (h : Distinct draft) (origin : Origin) (f : Node → Node) :
    Distinct (draft.modify origin f) := by
  refine distinct_of_origins h ?_
  rw [entries_modify, List.map_map]
  congr 1
  funext entry
  by_cases ho : entry.origin = origin <;> simp [ho, reworked]

lemma distinct_mapNodes {draft : Draft} (h : Distinct draft) (f : Node → Node) :
    Distinct (draft.mapNodes f) := by
  refine distinct_of_origins h ?_
  rw [entries_mapNodes, List.map_map]
  rfl

lemma Distinct.find?_mapNodes {draft : Draft} (h : Distinct draft) {entry : Entry} (hmem : entry ∈ draft.entries)
    {origin : Origin} (horigin : entry.origin = origin) (f : Node → Node) :
    (draft.mapNodes f).find? origin = some (f entry.node) := by
  have hmapped := mem_mapNodes hmem f
  rw [reworked, horigin] at hmapped
  exact (distinct_mapNodes h f).find? hmapped

/-- A change of one entry leaves the others around it. -/
lemma Distinct.split_modify {draft : Draft} (h : Distinct draft) {entry : Entry} (hmem : entry ∈ draft.entries)
    (f : Node → Node) : ∃ before after, draft.entries = before ++ entry :: after ∧
      (draft.modify entry.origin f).entries = before ++ reworked f entry :: after := by
  obtain ⟨before, after, hentries, herase⟩ := h.split hmem
  have hother {part : List Entry} (hpart : part ⊆ before ++ after) :
      part.map (fun e => if e.origin = entry.origin then reworked f e else e) = part := by
    have hsame : ∀ e ∈ part, (if e.origin = entry.origin then reworked f e else e) = id e := by
      intro e he
      have hkept := hpart he
      rw [← herase, Draft.erase, List.mem_filter] at hkept
      exact if_neg (by simpa using hkept.2)
    rw [List.map_congr_left hsame, List.map_id]
  refine ⟨before, after, hentries, ?_⟩
  rw [entries_modify, hentries, List.map_append, List.map_cons, if_pos rfl, hother (List.subset_append_left ..),
    hother (List.subset_append_right ..)]

/-- An entry that comes in stands between two parts of the draft. -/
lemma entries_insertAt {draft : Draft} {position : Nat} (h : position ≤ draft.entries.length) (entry : Entry) :
    ∃ before after, draft.entries = before ++ after ∧ before.length = position ∧
      (draft.insertAt position entry).entries = before ++ entry :: after :=
  List.exists_of_modifyTailIdx (List.cons entry) h

lemma entries_insertBefore (draft : Draft) (origin : Origin) (entry : Entry) : ∃ before after,
    draft.entries = before ++ after ∧ (draft.insertBefore origin entry).entries = before ++ entry :: after := by
  have hle : (draft.position? origin).getD draft.entries.length ≤ draft.entries.length := by
    cases h : draft.position? origin with
    | none => simp
    | some position =>
      have hlt := (List.findIdx?_eq_some_iff_getElem.mp h).1
      rw [Option.getD_some]
      omega
  obtain ⟨before, after, hsplit, -, hinsert⟩ := entries_insertAt hle entry
  exact ⟨before, after, hsplit, hinsert⟩

lemma mem_insertBefore {draft : Draft} {origin : Origin} {entry other : Entry} :
    other ∈ (draft.insertBefore origin entry).entries ↔ other ∈ draft.entries ∨ other = entry := by
  obtain ⟨before, after, hsplit, hinsert⟩ := entries_insertBefore draft origin entry
  rw [hinsert, hsplit, List.mem_append, List.mem_cons, List.mem_append]
  tauto

lemma distinct_insert {draft draft' : Draft} {before after : List Entry} {entry : Entry} (h : Distinct draft)
    (hbefore : draft.entries = before ++ after) (hafter : draft'.entries = before ++ entry :: after)
    (hnew : ∀ e ∈ draft.entries, e.origin ≠ entry.origin) : Distinct draft' := by
  have hperm : (draft'.entries.map (·.origin)).Perm (entry.origin :: draft.entries.map (·.origin)) := by
    rw [hafter, hbefore, ← List.map_cons]
    exact List.perm_middle.map _
  unfold Distinct
  rw [hperm.nodup_iff, List.nodup_cons]
  refine ⟨fun hmem => ?_, h⟩
  obtain ⟨e, he, horigin⟩ := List.mem_map.mp hmem
  exact hnew e he horigin

end RouteMigration.Proofs
