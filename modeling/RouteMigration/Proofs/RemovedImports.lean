import RouteMigration.Proofs.StaleImports

/-!
# Removed imports

The removal of a name from the legacy imports of a body that binds each name once. It touches the one statement
that binds the name, which goes, stays with its other bindings or hands them over to a statement of the source
that replaces its own. Everything else stays, and the answer tells whether there was such a statement.
-/

namespace RouteMigration.Proofs
open Syntax Route

variable {isLegacy : String → Bool} {remap : List (String × String)}

/-- The statement is an import from a legacy source and binds the name. -/
structure BindsLegacy (isLegacy : String → Bool) (name : String) (statement : Node) (form : ImportForm) : Prop where
  import_eq : import? statement = some form
  legacy : isLegacy form.source = true
  bound : name ∈ localNames (bindingsOf form)

/-- What the removal of a name makes of a body, and its answer. -/
inductive NameRemoval (isLegacy : String → Bool) (remap : List (String × String)) (name : String)
    (body : List Node) : List Node × Bool → Prop where
  /-- No legacy import binds the name. -/
  | absent : (∀ binding ∈ importBindings body, isLegacy binding.source = true → binding.localName ≠ name) →
      NameRemoval isLegacy remap name body (body, false)
  /-- The name was the last binding of its statement. -/
  | emptied {before after : List Node} {statement : Node} {form : ImportForm} :
      body = before ++ statement :: after → BindsLegacy isLegacy name statement form →
      (unbind name form).isEmpty = true → NameRemoval isLegacy remap name body (before ++ after, true)
  /-- The statement keeps its other bindings, from the source that replaces its own if there is one. -/
  | reduced {before after : List Node} {statement : Node} {form : ImportForm} :
      body = before ++ statement :: after → BindsLegacy isLegacy name statement form →
      (unbind name form).isEmpty = false →
      NameRemoval isLegacy remap name body (before ++ statement.withForm (.importDeclaration
        { unbind name form with source := (Settings.remap? remap form.source).getD form.source }) :: after, true)
  /-- A statement of the source that replaces its own takes over its other specifiers. -/
  | merged {before after first second : List Node} {statement taker : Node} {form into : ImportForm} :
      body = before ++ statement :: after → BindsLegacy isLegacy name statement form →
      before ++ after = first ++ taker :: second → import? taker = some into → isMergeable into = true →
      isMergeable (unbind name form) = true → (unbind name form).defaultName = none →
      Settings.remap? remap form.source = some into.source →
      NameRemoval isLegacy remap name body
        (first ++ taker.withForm (.importDeclaration (addSpecifiers (unbind name form).specifiers into)) :: second, true)

lemma statements_append (places places' : Places) :
    statements (places ++ places') = statements places ++ statements places' :=
  List.filterMap_append

lemma statements_cons_some (node : Node) (places : Places) :
    statements (some node :: places) = node :: statements places :=
  rfl

lemma statements_cons_none (places : Places) : statements (none :: places) = statements places :=
  rfl

/-- Without the name, the specifiers of an import still bind other names than those of any other import. -/
lemma nodup_specifiers_unbind {places : Places} {index other : Nat} {form into : ImportForm} (name : String)
    (hform : importAt? places index = some form) (hinto : importAt? places other = some into)
    (hne : other ≠ index) (hd : (localNames (placeBindings places)).Nodup) :
    ((into.specifiers ++ (unbind name form).specifiers).map ImportSpecifier.localName).Nodup := by
  have hsublist : (unbind name form).specifiers.Sublist form.specifiers := List.filter_sublist
  exact (nodup_specifiers hform hinto hne hd).sublist ((hsublist.append_left _).map _)

/-- The statement at the place of an import, among those of the other places. -/
lemma setImport_split {places : Places} {index : Nat} {form : ImportForm} (h : importAt? places index = some form) :
    ∃ before statement after, places = before ++ some statement :: after ∧ import? statement = some form ∧
      (∀ place, places.set index place = before ++ place :: after) ∧
      ∀ f, setImport places index f = before ++ some (statement.withForm (.importDeclaration f)) :: after := by
  obtain ⟨before, statement, after, hplaces, himport, hset⟩ := places_split h
  obtain ⟨node, hnode, -, hsetImport⟩ := importAt?_eq_some h
  have hsame : before ++ some node :: after = before ++ some statement :: after := by
    obtain ⟨hlt, hget⟩ := List.getElem?_eq_some_iff.mp hnode
    rw [← hset, ← hplaces, ← hget, List.set_getElem_self]
  simp only [List.append_cancel_left_eq, List.cons.injEq, Option.some.injEq, and_true] at hsame
  refine ⟨before, statement, after, hplaces, himport, hset, fun f => ?_⟩
  rw [hsetImport, hset, hsame]

lemma mapImport_mapImport (f g : ImportForm) (statement : Node) :
    mapImport (fun _ => g) (mapImport (fun _ => f) statement) = mapImport (fun _ => g) statement := by
  obtain ⟨info, form⟩ := statement
  cases form <;> rfl

/-- Of two imports that are set at a place, the second counts. -/
lemma setImport_setImport (places : Places) (index : Nat) (f g : ImportForm) :
    setImport (setImport places index f) index g = setImport places index g := by
  rw [setImport, setImport, List.modify_modify_eq, setImport]
  congr 1
  funext place
  cases place with
  | none => rfl
  | some node => exact congrArg some (mapImport_mapImport f g node)

lemma set_setImport {places : Places} {index : Nat} {form : ImportForm} (h : importAt? places index = some form)
    (f : ImportForm) (place : Option Node) : (setImport places index f).set index place = places.set index place := by
  obtain ⟨node, -, -, hset⟩ := importAt?_eq_some h
  rw [hset, List.set_set]

/-- Removing the name at the place that binds it. -/
lemma nameRemoval_unbindAt {name : String} {places : Places} {index : Nat} {form : ImportForm}
    (h : importAt? places index = some form) (hd : (localNames (placeBindings places)).Nodup)
    (hlegacy : isLegacy form.source = true) (hbound : name ∈ localNames (bindingsOf form)) :
    NameRemoval isLegacy remap name (statements places) (statements (unbindAt remap name places index form), true) := by
  obtain ⟨before, statement, after, hplaces, himport, hset, hsetImport⟩ := setImport_split h
  have hbinds : BindsLegacy isLegacy name statement form := ⟨himport, hlegacy, hbound⟩
  have hbody : statements places = statements before ++ statement :: statements after := by
    rw [hplaces, statements_append, statements_cons_some]
  have hcleared : statements (places.set index none) = statements before ++ statements after := by
    rw [hset, statements_append, statements_cons_none]
  by_cases hempty : (unbind name form).isEmpty = true
  · rw [unbindAt, if_pos hempty, hcleared]
    exact .emptied hbody hbinds hempty
  · rw [unbindAt, if_neg hempty]
    rw [Bool.not_eq_true] at hempty
    have hreduced := @NameRemoval.reduced isLegacy remap name _ _ _ _ _ hbody hbinds hempty
    have hsource : (unbind name form).source = form.source := rfl
    rw [remapAt, hsource]
    cases hremap : Settings.remap? remap form.source with
    | none =>
      rw [hremap] at hreduced
      dsimp only
      rw [hsetImport, statements_append, statements_cons_some]
      exact hreduced
    | some source =>
      dsimp only
      rcases moveTo_cases (setImport places index (unbind name form)) index (unbind name form) source with
        ⟨other, into, hne, hinto, hintoSource, hmerge, hmergeable, hdefault, hmove⟩ | hmove
      · rw [importAt?_setImport h, if_neg hne] at hinto
        have hrest := (importAt?_set_of_ne (lt_length_of_importAt? h) none hne).trans hinto
        obtain ⟨first, taker, second, hcut, htaker, -, hsetTaker⟩ := setImport_split hrest
        rw [hmove, setImport_set hne, set_setImport h, hsetTaker, mergeSpecifiers_eq (nodup_specifiers_unbind name h hinto hne hd),
          statements_append, statements_cons_some]
        refine .merged hbody hbinds ?_ htaker hmerge hmergeable hdefault (hintoSource ▸ hremap)
        rw [← hcleared, hcut, statements_append, statements_cons_some]
      · rw [hremap] at hreduced
        rw [hmove, setImport_setImport, hsetImport, statements_append, statements_cons_some]
        exact hreduced

/-- The removal of a name takes out its binding from the legacy imports of a body and nothing else. What binds the
name afterwards is an import from another source that was there before, all other bindings are carried over, and
the answer tells whether there was a binding to take out; if not, the body is as it was. -/
theorem removeImport_exact {body : List Node} (hd : (localNames (importBindings body)).Nodup) (name : String) :
    NameRemoval isLegacy remap name body (removeImport isLegacy remap name body) ∧
    (∀ binding ∈ importBindings (removeImport isLegacy remap name body).1, binding.localName = name →
      binding ∈ importBindings body ∧ isLegacy binding.source = false) ∧
    Rebound isLegacy remap ((importBindings body).filter fun binding => !isRemoved isLegacy name binding)
      (importBindings (removeImport isLegacy remap name body).1) ∧
    ((removeImport isLegacy remap name body).2 = true ↔
      ∃ binding ∈ importBindings body, isRemoved isLegacy name binding = true) ∧
    ((removeImport isLegacy remap name body).2 = false → (removeImport isLegacy remap name body).1 = body) := by
  have hrebound := @removeImport_rebound isLegacy remap _ hd name
  have hbound : ∀ binding ∈ importBindings (removeImport isLegacy remap name body).1, binding.localName = name →
      binding ∈ importBindings body ∧ isLegacy binding.source = false := by
    intro binding hbinding hname
    obtain ⟨source, hsource, hcarried⟩ := hrebound.origin hbinding
    obtain ⟨hsource, hstays⟩ := List.mem_filter.mp hsource
    have hlegacy : isLegacy source.source = false := by
      simpa [isRemoved, ← hcarried.localName, hname] using hstays
    have hsame : binding = source :=
      Binding.ext (moves_of_not_legacy hcarried.source hlegacy) hcarried.typeOnly hcarried.clause
    rw [hsame]
    exact ⟨hsource, hlegacy⟩
  rcases @removeImport_cases isLegacy remap _ hd name with
    ⟨hresult, hnone⟩ | ⟨index, form, himport, hlegacy, hname, hresult⟩
  · refine ⟨?_, hbound, hrebound, ?_, fun _ => ?_⟩
    · rw [hresult]
      exact .absent hnone
    · rw [hresult]
      constructor
      · intro h
        cases h
      · rintro ⟨binding, hbinding, hremoved⟩
        rw [isRemoved, Bool.and_eq_true, decide_eq_true_eq] at hremoved
        exact absurd hremoved.2 (hnone binding hbinding hremoved.1)
    · rw [hresult]
  · have hplaces : (localNames (placeBindings (places body))).Nodup := by rwa [placeBindings_places]
    have hremoval := @nameRemoval_unbindAt isLegacy remap name _ _ _ himport hplaces hlegacy hname
    rw [statements_places] at hremoval
    refine ⟨?_, hbound, hrebound, ?_, fun h => ?_⟩
    · rw [hresult]
      exact hremoval
    · rw [hresult]
      obtain ⟨binding, hbinding, hlocal⟩ := List.mem_map.mp hname
      have hmem := mem_placeBindings_of_importAt? himport hbinding
      rw [placeBindings_places] at hmem
      refine iff_of_true rfl ⟨binding, hmem, ?_⟩
      rw [isRemoved, (mem_bindingsOf.mp hbinding).1, hlegacy, hlocal]
      simp
    · rw [hresult] at h
      cases h

/-- An import from the framework that is left behind, above one from the framework that replaces it. -/
def replacedImports : List Node :=
  [.make (.importDeclaration
      { source := "@remix-run/react", specifiers := [{ imported := "json" }, { imported := "useLoaderData" }] }),
    .make (.importDeclaration { source := "@tanstack/react-router", specifiers := [{ imported := "Link" }] })]

theorem replacedImports_removed : (localNames (importBindings replacedImports)).Nodup ∧
    (removeImport defaultSettings.isLegacy defaultSettings.sourceRemap "json" replacedImports).2 = true ∧
    (∀ binding ∈ importBindings
      (removeImport defaultSettings.isLegacy defaultSettings.sourceRemap "json" replacedImports).1,
      binding.localName ≠ "json") ∧
    importForms (removeImport defaultSettings.isLegacy defaultSettings.sourceRemap "json" replacedImports).1 =
      [{ source := "@tanstack/react-router", specifiers := [{ imported := "Link" }, { imported := "useLoaderData" }] }] := by
  have hd : (localNames (importBindings replacedImports)).Nodup := by decide +kernel
  have hlegacy : ∀ binding ∈ importBindings replacedImports, binding.localName = "json" →
      defaultSettings.isLegacy binding.source = true := by decide +kernel
  obtain ⟨-, hbound, -, hanswer, -⟩ :=
    @removeImport_exact defaultSettings.isLegacy defaultSettings.sourceRemap _ hd "json"
  refine ⟨hd, hanswer.mpr ⟨⟨"@remix-run/react", false, .named { imported := "json" }⟩, by decide +kernel,
    by decide +kernel⟩, fun binding hbinding hname => ?_, by decide +kernel⟩
  obtain ⟨hmem, hother⟩ := hbound binding hbinding hname
  rw [hlegacy binding hmem hname] at hother
  cases hother

end RouteMigration.Proofs
