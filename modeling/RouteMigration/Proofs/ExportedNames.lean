import RouteMigration.Proofs.TopLevelNames

/-!
# Exported names

The names that statements export, each with the way in which it does. What the rewriting of a statement leaves
of them: lists lose names, a declaration loses all of its names or that of a declarator, and an inlined default
export exports nothing.
-/

namespace RouteMigration.Proofs
open Syntax Route

/-- How a statement exports a name. -/
inductive Way where
  /-- By the declaration that it exports. -/
  | declared
  /-- In a list of names of the module. -/
  | listed
  /-- In a list of names of another module. -/
  | passedOn
  /-- As the default export. -/
  | default
  deriving DecidableEq

/-- The way of the names in a list of exports. -/
def wayOf (form : ExportForm Node) : Way :=
  if form.source.isNone then .listed else .passedOn

lemma wayOf_eq_listed {form : ExportForm Node} : wayOf form = .listed ↔ form.source = none := by
  rw [wayOf]
  cases form.source <;> simp

lemma wayOf_ne_declared (form : ExportForm Node) : wayOf form ≠ .declared := by
  rw [wayOf]
  cases form.source <;> simp

lemma wayOf_ne_default (form : ExportForm Node) : wayOf form ≠ .default := by
  rw [wayOf]
  cases form.source <;> simp

/-- The names that a statement exports. -/
def exportsOf (statement : Node) : List (Way × String) :=
  match statement.form with
  | .exportDefault _ => [(.default, "default")]
  | .exportNamed form =>
    match form.declaration with
    | some declaration => (namesOfDeclaration declaration.form).map (Way.declared, ·)
    | none => form.specifiers.map fun specifier => (wayOf form, specifier.exported)
  | _ => []

/-- The names that a body exports, each as often as it does. -/
def exportedNames (body : List Node) : List String :=
  (body.flatMap exportsOf).map Prod.snd

section Statements

variable {statement : Node} {way : Way} {name : String}

lemma exportsOf_congr {a b : Node} (h : a.form = b.form) : exportsOf a = exportsOf b := by
  rw [exportsOf, exportsOf, h]

lemma exportsOf_default {declaration : Node} (h : statement.form = .exportDefault declaration) :
    exportsOf statement = [(.default, "default")] := by
  rw [exportsOf, h]

lemma exportsOf_declaration {form : ExportForm Node} {declaration : Node} (h : statement.form = .exportNamed form)
    (hdeclaration : form.declaration = some declaration) :
    exportsOf statement = (namesOfDeclaration declaration.form).map (Way.declared, ·) := by
  rw [exportsOf, h]
  dsimp only
  rw [hdeclaration]

lemma exportsOf_list {form : ExportForm Node} (h : statement.form = .exportNamed form)
    (hdeclaration : form.declaration = none) :
    exportsOf statement = form.specifiers.map fun specifier => (wayOf form, specifier.exported) := by
  rw [exportsOf, h]
  dsimp only
  rw [hdeclaration]

/-- What is no export exports nothing. -/
lemma exportsOf_other (hnamed : ∀ form, statement.form ≠ .exportNamed form)
    (hdefault : ∀ declaration, statement.form ≠ .exportDefault declaration) : exportsOf statement = [] := by
  rw [exportsOf]
  split
  · next declaration hform => exact absurd hform (hdefault declaration)
  · next form hform => exact absurd hform (hnamed form)
  · rfl

lemma exportsOf_of_import (h : (import? statement).isSome) : exportsOf statement = [] := by
  obtain ⟨form, hform⟩ := import?_isSome h
  exact exportsOf_other (by simp [hform]) (by simp [hform])

lemma exportsOf_of_isEmptied (h : isEmptied statement = true) : exportsOf statement = [] := by
  obtain ⟨form, hform, hdeclaration, hspecifiers⟩ := isEmptied_eq_true h
  rw [exportsOf_list hform hdeclaration, hspecifiers]
  rfl

/-- A statement exports names by its declaration, or it is a list, or it is the default export. -/
lemma exports_cases (h : (way, name) ∈ exportsOf statement) :
    (way = .declared ∧ name ∈ declarationNames statement ∧
      ∃ form declaration, statement.form = .exportNamed form ∧ form.declaration = some declaration) ∨
    (∃ form, statement.form = .exportNamed form ∧ form.declaration = none ∧ way = wayOf form ∧
      ∃ specifier ∈ form.specifiers, specifier.exported = name) ∨
    (way = .default ∧ name = "default" ∧ ∃ declaration, statement.form = .exportDefault declaration) := by
  rcases exportNamed_or_other statement with ⟨form, hform⟩ | hnamed
  · cases hdeclaration : form.declaration with
    | some declaration =>
      rw [exportsOf_declaration hform hdeclaration] at h
      obtain ⟨_, hname, hpair⟩ := List.mem_map.mp h
      cases hpair
      refine .inl ⟨rfl, ?_, form, declaration, hform, hdeclaration⟩
      rw [declarationNames_exportNamed hform, hdeclaration]
      exact hname
    | none =>
      rw [exportsOf_list hform hdeclaration] at h
      obtain ⟨specifier, hspecifier, hpair⟩ := List.mem_map.mp h
      cases hpair
      exact .inr (.inl ⟨form, hform, hdeclaration, rfl, specifier, hspecifier, rfl⟩)
  · rcases exportDefault_or_other statement with ⟨declaration, hform⟩ | hdefault
    · rw [exportsOf_default hform, List.mem_singleton] at h
      cases h
      exact .inr (.inr ⟨rfl, rfl, declaration, hform⟩)
    · rw [exportsOf_other hnamed hdefault] at h
      cases h

/-- An exported declaration exports what it binds. -/
lemma mem_exportsOf_declared {form : ExportForm Node} {declaration : Node} (h : statement.form = .exportNamed form)
    (hdeclaration : form.declaration = some declaration) :
    (way, name) ∈ exportsOf statement ↔ way = .declared ∧ name ∈ declarationNames statement := by
  rw [exportsOf_declaration h hdeclaration, declarationNames_exportNamed h, hdeclaration, List.mem_map]
  constructor
  · rintro ⟨_, hname, hpair⟩
    cases hpair
    exact ⟨rfl, hname⟩
  · rintro ⟨rfl, hname⟩
    exact ⟨name, hname, rfl⟩

/-- What is exported by a declaration, the declaration binds. -/
lemma exports_declared (h : (.declared, name) ∈ exportsOf statement) : name ∈ declarationNames statement ∧
    ∃ form declaration, statement.form = .exportNamed form ∧ form.declaration = some declaration := by
  rcases exports_cases h with ⟨-, hname⟩ | ⟨form, -, -, hway, -⟩ | ⟨hway, -⟩
  · exact hname
  · exact absurd hway.symm (wayOf_ne_declared form)
  · cases hway

/-- What a declaration exports, it can keep without the export. -/
lemma unexported_isSome (h : (.declared, name) ∈ exportsOf statement) : (Draft.unexported statement).isSome := by
  obtain ⟨-, form, declaration, hform, hdeclaration⟩ := exports_declared h
  rw [Draft.unexported, hform]
  dsimp only
  rw [hdeclaration]
  rfl

/-! ### Exports of rewritten statements -/

/-- Names are exported as listed by lists of names of the module alone. -/
lemma mem_exportsOf_listed : (.listed, name) ∈ exportsOf statement ↔
    ∃ form, localExport? statement = some form ∧ ∃ specifier ∈ form.specifiers, specifier.exported = name := by
  constructor
  · intro h
    rcases exports_cases h with ⟨hway, -⟩ | ⟨form, hform, hdeclaration, hway, hspecifier⟩ | ⟨hway, -⟩
    · cases hway
    · have hsource := wayOf_eq_listed.mp hway.symm
      refine ⟨form, ?_, hspecifier⟩
      rw [localExport?, hform]
      simp [hdeclaration, hsource]
    · cases hway
  · rintro ⟨form, hlist, specifier, hspecifier, rfl⟩
    obtain ⟨hform, hdeclaration, hsource⟩ := localExport?_eq_some hlist
    rw [exportsOf_list hform hdeclaration, wayOf_eq_listed.mpr hsource]
    exact List.mem_map.mpr ⟨specifier, hspecifier, rfl⟩

lemma way_of_localExport? {form : ExportForm Node} (h : localExport? statement = some form)
    (hexport : (way, name) ∈ exportsOf statement) : way = .listed := by
  obtain ⟨hform, hdeclaration, hsource⟩ := localExport?_eq_some h
  rw [exportsOf_list hform hdeclaration, wayOf_eq_listed.mpr hsource] at hexport
  obtain ⟨_, -, hpair⟩ := List.mem_map.mp hexport
  exact (congrArg Prod.fst hpair).symm

/-- Without some names, a list exports the others; no other statement loses a name. -/
lemma mem_exportsOf_unlist {names : List String} :
    (way, name) ∈ exportsOf (unlist names statement) ↔
      (way, name) ∈ exportsOf statement ∧ (way = .listed → name ∉ names) := by
  by_cases hlists : listsExport names statement = true
  · cases hlist : localExport? statement with
    | none => simp [listsExport, hlist] at hlists
    | some form =>
      have hunlist : localExport? (unlist names statement) = some (withoutExports names form) := by
        obtain ⟨-, hdeclaration, hsource⟩ := localExport?_eq_some hlist
        have hform : (unlist names statement).form = .exportNamed (withoutExports names form) := by
          rw [unlist, hlist]
          exact congrArg Node.form (if_pos hlists)
        rw [localExport?, hform]
        simp [withoutExports, hdeclaration, hsource]
      constructor
      · intro h
        obtain rfl := way_of_localExport? hunlist h
        obtain ⟨_, hsame, specifier, hspecifier, rfl⟩ := mem_exportsOf_listed.mp h
        obtain rfl := Option.some.inj (hunlist.symm.trans hsame)
        obtain ⟨hspecifier, hnot⟩ := List.mem_filter.mp hspecifier
        exact ⟨mem_exportsOf_listed.mpr ⟨form, hlist, specifier, hspecifier, rfl⟩, fun _ => by simpa using hnot⟩
      · rintro ⟨h, hnot⟩
        obtain rfl := way_of_localExport? hlist h
        obtain ⟨_, hsame, specifier, hspecifier, rfl⟩ := mem_exportsOf_listed.mp h
        obtain rfl := Option.some.inj (hlist.symm.trans hsame)
        refine mem_exportsOf_listed.mpr ⟨_, hunlist, specifier, List.mem_filter.mpr ⟨hspecifier, ?_⟩, rfl⟩
        simpa using hnot rfl
  · have hsame : unlist names statement = statement := by
      unfold unlist
      split
      · exact if_neg hlists
      · rfl
    rw [hsame]
    refine (and_iff_left_of_imp fun h hway hmem => hlists ?_).symm
    rw [hway] at h
    obtain ⟨form, hlist, specifier, hspecifier, rfl⟩ := mem_exportsOf_listed.mp h
    rw [listsExport, hlist]
    exact List.any_eq_true.mpr ⟨specifier, hspecifier, by simpa using hmem⟩

lemma exportsOf_unlist_subset (names : List String) (statement : Node) :
    exportsOf (unlist names statement) ⊆ exportsOf statement :=
  fun _ h => (mem_exportsOf_unlist.mp h).1

/-- Without the specifier in a place, a list exports all but the name in this place. -/
lemma exportsOf_eraseSpecifier {form : ExportForm Node} (h : statement.form = .exportNamed form)
    (hdeclaration : form.declaration = none) (place : Nat) :
    exportsOf (eraseSpecifier place statement) = (exportsOf statement).eraseIdx place := by
  let erased : ExportForm Node := { form with specifiers := form.specifiers.eraseIdx place }
  have hsame : (eraseSpecifier place statement).form = .exportNamed erased := by
    rw [eraseSpecifier, h]
    rfl
  rw [exportsOf_list h hdeclaration, exportsOf_list hsame hdeclaration]
  exact (List.eraseIdx_map ..).symm

lemma exportsOf_eraseSpecifier_sublist (index : Nat) (statement : Node) :
    (exportsOf (eraseSpecifier index statement)).Sublist (exportsOf statement) := by
  rcases eraseSpecifier_cases index statement with hsame | ⟨form, hform, herase⟩
  · rw [hsame]
  · cases hdeclaration : form.declaration with
    | some declaration =>
      have hsame := congrArg Node.form herase
      rw [exportsOf_declaration hform hdeclaration, exportsOf_declaration hsame hdeclaration]
    | none =>
      rw [exportsOf_eraseSpecifier hform hdeclaration]
      exact List.eraseIdx_sublist ..

lemma exportsOf_of_value (h : isValueDeclaration statement.form = true) : exportsOf statement = [] := by
  refine exportsOf_other (fun e he => ?_) fun e he => ?_
  · rw [he] at h
    cases h
  · rw [he] at h
    cases h

/-- A declaration of values exports nothing once its export is gone. -/
lemma exportsOf_withoutExport (h : DeclaresValues statement) : exportsOf (withoutExport statement) = [] := by
  obtain ⟨form, hform, hvalue⟩ := h
  cases hunexported : Draft.unexported statement with
  | some declaration =>
    obtain ⟨e, inner, he, hinner, hsame⟩ := unexported_eq_some hunexported
    rw [declared?_exportNamed he, hinner, Option.map_some, Option.some.injEq] at hform
    rw [withoutExport, hunexported, Option.getD_some]
    exact exportsOf_of_value (by rw [hsame, hform, hvalue])
  | none =>
    rw [withoutExport, hunexported, Option.getD_none]
    rcases exportNamed_or_other statement with ⟨e, he⟩ | he
    · rw [Draft.unexported, he] at hunexported
      rw [declared?_exportNamed he] at hform
      simp_all
    · rw [declared?_other he, Option.some.injEq] at hform
      exact exportsOf_of_value (by rw [hform, hvalue])

/-- What is left of an exported declaration without a declarator is exported. -/
lemma mem_exportsOf_eraseDeclarator {index : Nat} (h : DeclaresValues statement) :
    (way, name) ∈ exportsOf (Draft.eraseDeclarator index statement) ↔
      (way, name) ∈ exportsOf statement ∧ name ∈ declarationNames (Draft.eraseDeclarator index statement) := by
  obtain ⟨form, hform, hvalue⟩ := h
  have herased := declared?_eraseDeclarator index statement
  rw [hform, Option.map_some] at herased
  have hsubset : declarationNames (Draft.eraseDeclarator index statement) ⊆ declarationNames statement := by
    rw [declarationNames_of_declared herased (isValueDeclaration_trimmed index hvalue),
      declarationNames_of_declared hform hvalue]
    exact (namesOfDeclaration_trimmed index form).subset
  rcases exportNamed_or_other statement with ⟨e, he⟩ | he
  · obtain ⟨declaration, hexported, -⟩ := eraseDeclarator_exportNamed index he
    rw [declared?_exportNamed hexported] at herased
    obtain ⟨inner, hinner, -⟩ := Option.map_eq_some_iff.mp herased
    rw [declared?_exportNamed he] at hform
    obtain ⟨original, horiginal, -⟩ := Option.map_eq_some_iff.mp hform
    rw [mem_exportsOf_declared hexported hinner, mem_exportsOf_declared he horiginal]
    constructor
    · rintro ⟨hway, hname⟩
      exact ⟨⟨hway, hsubset hname⟩, hname⟩
    · rintro ⟨⟨hway, -⟩, hname⟩
      exact ⟨hway, hname⟩
  · have htrimmed := form_eraseDeclarator_other index he
    rw [declared?_other he, Option.some.injEq] at hform
    rw [← hform] at hvalue
    rw [exportsOf_of_value hvalue, exportsOf_of_value (by rw [htrimmed, isValueDeclaration_trimmed index hvalue])]
    simp

lemma exportsOf_inlineStatement {declaration : Node} (fresh : String)
    (h : statement.form = .exportDefault declaration) : exportsOf (inlineStatement fresh statement).1 = [] := by
  obtain ⟨hinline, -⟩ := inlineStatement_default fresh h
  rcases inlineComponent_cases fresh declaration with ⟨form, -, hcomponent, -⟩ | ⟨own, tail, -, hcomponent, -⟩ |
    ⟨-, -, hcomponent⟩
  · exact exportsOf_other (by simp [hinline, hcomponent]) (by simp [hinline, hcomponent])
  · exact exportsOf_other (by simp [hinline, hcomponent]) (by simp [hinline, hcomponent])
  · rw [exportsOf_congr (hinline.trans (by rw [hcomponent]))]
    rfl

end Statements

/-! ### Names exported once -/

section Distinct

variable {body : List Node}

lemma mem_exportedNames {name : String} : name ∈ exportedNames body ↔
    ∃ (index : Nat) (statement : Node) (way : Way), body[index]? = some statement ∧
      (way, name) ∈ exportsOf statement := by
  constructor
  · intro h
    obtain ⟨⟨way, _⟩, hexport, rfl⟩ := List.mem_map.mp h
    obtain ⟨statement, hstatement, hexport⟩ := List.mem_flatMap.mp hexport
    obtain ⟨index, hget⟩ := List.mem_iff_getElem?.mp hstatement
    exact ⟨index, statement, way, hget, hexport⟩
  · rintro ⟨index, statement, way, hget, hexport⟩
    exact List.mem_map.mpr ⟨_, List.mem_flatMap.mpr ⟨statement, List.mem_of_getElem? hget, hexport⟩, rfl⟩

/-- What has another name than the export in a place, stays without the place. -/
lemma mem_eraseIdx_of_ne {exports : List (Way × String)} {place : Nat} {erased other : Way × String}
    (hplace : exports[place]? = some erased) (h : other ∈ exports) (hne : other.2 ≠ erased.2) :
    other ∈ exports.eraseIdx place := by
  obtain ⟨index, hindex⟩ := List.mem_iff_getElem?.mp h
  refine List.mem_eraseIdx_iff_getElem?.mpr ⟨index, ?_, hindex⟩
  rintro rfl
  exact hne (congrArg Prod.snd (Option.some.inj (hindex.symm.trans hplace)))

/-- Where no name is exported twice, none is exported without its place. -/
lemma ne_of_mem_eraseIdx {exports : List (Way × String)} {place : Nat} {erased other : Way × String}
    (hnodup : (exports.map Prod.snd).Nodup) (hplace : exports[place]? = some erased)
    (h : other ∈ exports.eraseIdx place) : other.2 ≠ erased.2 := by
  intro hsame
  obtain ⟨index, hdifferent, hindex⟩ := List.mem_eraseIdx_iff_getElem?.mp h
  have hinRange : place < (exports.map Prod.snd).length := by
    rw [List.length_map]
    exact (List.getElem?_eq_some_iff.mp hplace).1
  have hequal : place = index := (List.getElem?_inj hinRange hnodup).mp (by simp [hplace, hindex, hsame])
  exact hdifferent hequal.symm

/-- In a list without repetition, what an element shows tells where it is. -/
lemma index_unique {α β : Type} {f : α → List β} {l : List α} (hd : (l.flatMap f).Nodup) {i j : Nat} {a b : α} {x : β}
    (hi : l[i]? = some a) (hj : l[j]? = some b) (ha : x ∈ f a) (hb : x ∈ f b) : i = j := by
  have hpairs := (List.nodup_flatMap.mp hd).2
  rw [List.pairwise_iff_getElem] at hpairs
  obtain ⟨hilt, rfl⟩ := List.getElem?_eq_some_iff.mp hi
  obtain ⟨hjlt, rfl⟩ := List.getElem?_eq_some_iff.mp hj
  rcases Nat.lt_trichotomy i j with hlt | heq | hlt
  · exact absurd hb (hpairs i j hilt hjlt hlt ha)
  · exact heq
  · exact absurd ha (hpairs j i hjlt hilt hlt hb)

/-- Exports of one name are one export. -/
lemma export_unique (hdistinct : (exportedNames body).Nodup) {i j : Nat} {a b : Node} {name : String}
    {way way' : Way} (hi : body[i]? = some a) (hj : body[j]? = some b)
    (ha : (way, name) ∈ exportsOf a) (hb : (way', name) ∈ exportsOf b) : i = j ∧ way = way' := by
  have hsame := List.inj_on_of_nodup_map hdistinct (List.mem_flatMap.mpr ⟨_, List.mem_of_getElem? hi, ha⟩)
    (List.mem_flatMap.mpr ⟨_, List.mem_of_getElem? hj, hb⟩) rfl
  cases hsame
  exact ⟨index_unique (List.Nodup.of_map _ hdistinct) hi hj ha hb, rfl⟩

lemma nodup_exports_of_mem {statement : Node} (hdistinct : (exportedNames body).Nodup)
    (h : statement ∈ body) : ((exportsOf statement).map Prod.snd).Nodup := by
  have hparts : (body.flatMap fun statement => (exportsOf statement).map Prod.snd).Nodup := by
    rwa [← List.map_flatMap]
  exact (List.nodup_flatMap.mp hparts).1 statement h

end Distinct

end RouteMigration.Proofs
