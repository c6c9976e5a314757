import Mathlib.Data.List.Perm.Basic
import Mathlib.Data.List.Forall2
import Mathlib.Tactic.Common
import RouteMigration.Proofs.Edits
import RouteMigration.Route.Imports

/-!
# Import bindings

The bindings that the imports of a body make, each with its source, and how the edits of places show in
them. The places of an edit hold the same bindings as the statements they stand for, and a place can be
taken apart from the others up to the order of the bindings.
-/

namespace RouteMigration.Proofs
open Syntax Route

/-- What a local name is bound to in its source. -/
inductive Clause where
  | named (specifier : ImportSpecifier)
  | default (name : String)
  | namespace (name : String)
  deriving DecidableEq

def Clause.localName : Clause → String
  | .named specifier => specifier.localName
  | .default name | .namespace name => name

/-- A binding with its source and whether its statement imports types only. -/
@[ext]
structure Binding where
  source : String
  typeOnly : Bool
  clause : Clause
  deriving DecidableEq

def Binding.localName (binding : Binding) : String :=
  binding.clause.localName

def clausesOf (form : ImportForm) : List Clause :=
  form.specifiers.map .named ++ form.defaultName.toList.map .default ++
    form.namespaceName.toList.map .namespace

def bindingsOf (form : ImportForm) : List Binding :=
  (clausesOf form).map fun clause => ⟨form.source, form.typeOnly, clause⟩

def statementBindings (statement : Node) : List Binding :=
  (import? statement).elim [] bindingsOf

/-- The bindings of all imports of a body. -/
def importBindings (body : List Node) : List Binding :=
  body.flatMap statementBindings

def localNames (bindings : List Binding) : List String :=
  bindings.map Binding.localName

/-- The names that an import declares. -/
def importedNames (form : ImportForm) : List String :=
  form.specifiers.map (·.localName) ++ (given form.defaultName).toList ++ (given form.namespaceName).toList

/-- The imports of a body bind names, and each name once. -/
structure ImportsDistinct (body : List Node) : Prop where
  nodup : (localNames (importBindings body)).Nodup
  named : "" ∉ localNames (importBindings body)

lemma statementBindings_of_import {statement : Node} {form : ImportForm}
    (h : import? statement = some form) : statementBindings statement = bindingsOf form := by
  rw [statementBindings, h]
  rfl

lemma statementBindings_of_none {statement : Node} (h : import? statement = none) :
    statementBindings statement = [] := by
  rw [statementBindings, h]
  rfl

@[simp] lemma import?_withForm (node : Node) (f : ImportForm) : import? (node.withForm (.importDeclaration f)) = some f :=
  rfl

lemma mem_bindingsOf {form : ImportForm} {binding : Binding} :
    binding ∈ bindingsOf form ↔
      binding.source = form.source ∧ binding.typeOnly = form.typeOnly ∧ binding.clause ∈ clausesOf form := by
  obtain ⟨source, typeOnly, clause⟩ := binding
  simp only [bindingsOf, List.mem_map, Binding.mk.injEq]
  constructor
  · rintro ⟨c, hc, rfl, rfl, rfl⟩
    exact ⟨rfl, rfl, hc⟩
  · rintro ⟨rfl, rfl, hc⟩
    exact ⟨clause, hc, rfl, rfl, rfl⟩

lemma localNames_bindingsOf (form : ImportForm) :
    localNames (bindingsOf form) = (clausesOf form).map Clause.localName := by
  simp [localNames, bindingsOf, Binding.localName]

lemma bindingsOf_of_isEmpty {form : ImportForm} (h : form.isEmpty = true) : bindingsOf form = [] := by
  simp only [ImportForm.isEmpty, Bool.and_eq_true, List.isEmpty_iff, Option.isNone_iff_eq_none] at h
  simp [bindingsOf, clausesOf, h.1.1, h.1.2, h.2]

lemma mem_importBindings {body : List Node} {binding : Binding} :
    binding ∈ importBindings body ↔
      ∃ statement ∈ body, ∃ form, import? statement = some form ∧ binding ∈ bindingsOf form := by
  simp only [importBindings, List.mem_flatMap]
  refine exists_congr fun statement => and_congr_right fun _ => ?_
  cases h : import? statement with
  | none => simp [statementBindings_of_none h]
  | some form => simp [statementBindings_of_import h]

/-! ### Places -/

def placeBindings (places : Places) : List Binding :=
  places.flatMap fun place => place.elim [] statementBindings

lemma importBindings_statements (places : Places) :
    importBindings (statements places) = placeBindings places := by
  induction places with
  | nil => rfl
  | cons place places ih =>
    cases place with
    | none => simpa [statements, importBindings, placeBindings] using ih
    | some node =>
      simp only [statements, importBindings, placeBindings, List.filterMap_cons, id, List.flatMap_cons]
        at ih ⊢
      rw [ih]
      rfl

lemma placeBindings_places (body : List Node) : placeBindings (places body) = importBindings body := by
  rw [← importBindings_statements]
  congr 1
  simp [statements, places, List.filterMap_map]

/-- The import at a place is that of a statement, and setting the import replaces the statement. -/
lemma importAt?_eq_some {places : Places} {index : Nat} {form : ImportForm}
    (h : importAt? places index = some form) :
    ∃ node, places[index]? = some (some node) ∧ import? node = some form ∧
      ∀ f, setImport places index f = places.set index (some (node.withForm (.importDeclaration f))) := by
  obtain ⟨node, hnode, hform⟩ := Option.bind_eq_some_iff.mp h
  have hplace : places[index]? = some (some node) := by
    cases hp : places[index]? with
    | none => simp [hp] at hnode
    | some place => simp_all
  refine ⟨node, hplace, hform, fun f => ?_⟩
  have hi : index < places.length := (List.getElem?_eq_some_iff.mp hplace).1
  have hmap : mapImport (fun _ => f) node = node.withForm (.importDeclaration f) := by
    obtain ⟨info, nodeForm⟩ := node
    cases nodeForm <;> simp_all [import?, mapImport, Node.form]
  rw [setImport, List.modify_eq_set_getElem?, hplace]
  simp [hmap]

lemma importAt?_set (places : Places) {index : Nat} (hi : index < places.length) (place : Option Node)
    (other : Nat) : importAt? (places.set index place) other =
      if other = index then place.bind import? else importAt? places other := by
  by_cases h : other = index
  · subst h
    simp [importAt?, hi]
  · simp [importAt?, h, List.getElem?_set_ne (Ne.symm h)]

lemma lt_length_of_importAt? {places : Places} {index : Nat} {form : ImportForm}
    (h : importAt? places index = some form) : index < places.length := by
  obtain ⟨node, hplace, -, -⟩ := importAt?_eq_some h
  exact (List.getElem?_eq_some_iff.mp hplace).1

/-- What a place holds stands apart from what the other places hold. -/
lemma placeBindings_set {places : Places} {index : Nat} (hi : index < places.length)
    (place : Option Node) : (placeBindings (places.set index place)).Perm
      (place.elim [] statementBindings ++ placeBindings (places.set index none)) := by
  have hset (p : Option Node) : (placeBindings (places.set index p)).Perm
      (p.elim [] statementBindings ++ placeBindings (places.eraseIdx index)) := by
    have hlt : index < (places.set index p).length := by simpa using hi
    have h := (List.getElem_cons_eraseIdx_perm hlt).symm.flatMap_right
      (fun place => place.elim [] statementBindings)
    rw [List.eraseIdx_set_eq, List.getElem_set_self, List.flatMap_cons] at h
    exact h
  exact (hset place).trans (List.Perm.append_left _ (hset none).symm)

lemma placeBindings_importAt? {places : Places} {index : Nat} {form : ImportForm}
    (h : importAt? places index = some form) :
    (placeBindings places).Perm (bindingsOf form ++ placeBindings (places.set index none)) := by
  obtain ⟨node, hplace, hform, -⟩ := importAt?_eq_some h
  obtain ⟨hi, hget⟩ := List.getElem?_eq_some_iff.mp hplace
  have hp := placeBindings_set hi (some node)
  rw [← hget, List.set_getElem_self, hget] at hp
  simpa [statementBindings_of_import hform] using hp

lemma placeBindings_setImport {places : Places} {index : Nat} {form : ImportForm}
    (h : importAt? places index = some form) (f : ImportForm) :
    (placeBindings (setImport places index f)).Perm
      (bindingsOf f ++ placeBindings (places.set index none)) := by
  obtain ⟨node, hplace, -, hset⟩ := importAt?_eq_some h
  obtain ⟨hi, -⟩ := List.getElem?_eq_some_iff.mp hplace
  rw [hset f]
  have hp := placeBindings_set hi (some (node.withForm (.importDeclaration f)))
  simpa [statementBindings_of_import (import?_withForm node f)] using hp

lemma mem_placeBindings_of_importAt? {places : Places} {index : Nat} {form : ImportForm}
    (h : importAt? places index = some form) {binding : Binding} (hb : binding ∈ bindingsOf form) :
    binding ∈ placeBindings places :=
  (placeBindings_importAt? h).mem_iff.mpr (List.mem_append_left _ hb)

end RouteMigration.Proofs
