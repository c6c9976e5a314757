import Mathlib.Data.List.Nodup
import RouteMigration.Proofs.SourceMoves

/-!
# Replaced sources

The moves of all imports come to a simultaneous replacement of their sources unless an import is taken along: its new
source is replaced again, and it is to join a later import of that source. A second run of the moves leaves the body as
the first one did if no import of it is still to move, as where no replacement is a source that is replaced itself.
-/

namespace RouteMigration.Proofs
open Syntax Route

section Definitions

variable (isLegacy : String → Bool) (remap : List (String × String))

/-- The bindings of the imports that follow others, from where the moves take them. -/
def landed (before : List Node) : List Node → List Binding
  | [] => []
  | statement :: after =>
    (statementBindings statement).map
      (fun binding => { binding with source := landing isLegacy remap before statement after binding.source }) ++
    landed (before ++ [statement]) after

/-- The bindings of a body with every source replaced at once. -/
def replacedBindings (body : List Node) : List Binding :=
  (importBindings body).map fun binding => { binding with source := replaced isLegacy remap binding.source }

/-- The moves take every binding of the body to the replacement of its source. -/
def Direct (body : List Node) : Prop :=
  ∀ before statement after, body = before ++ statement :: after → ∀ binding ∈ statementBindings statement,
    landing isLegacy remap before statement after binding.source = replaced isLegacy remap binding.source

/-- A later import takes along one that is on its way to a source that is replaced itself. -/
def Detour (body : List Node) : Prop :=
  ∃ before statement after form, body = before ++ statement :: after ∧ import? statement = some form ∧
    isTakenAlong isLegacy remap before statement (replaced isLegacy remap form.source) = true ∧
    ∃ other ∈ after, takesNamesFrom (replaced isLegacy remap form.source) other = true

/-- Every import with a replacement comes from it already, and none is to join another. -/
def AtRest (body : List Node) : Prop :=
  ∀ before statement after form target, body = before ++ statement :: after → import? statement = some form →
    replacement? isLegacy remap form.source = some target → target = form.source ∧
      (joinsOthers statement = true → ∀ other ∈ before ++ after, takesNamesFrom target other = false)

end Definitions

variable {isLegacy : String → Bool} {remap : List (String × String)}

/-! ### Where the bindings land -/

lemma localNames_landed (before body : List Node) :
    localNames (landed isLegacy remap before body) = localNames (importBindings body) := by
  induction body generalizing before with
  | nil => rfl
  | cons statement after ih =>
    rw [landed, importBindings, List.flatMap_cons, localNames, localNames, List.map_append, List.map_append,
      List.map_map]
    exact congrArg _ (ih _)

lemma mem_landed {before body : List Node} {landedBinding : Binding} :
    landedBinding ∈ landed isLegacy remap before body ↔
      ∃ front statement back, body = front ++ statement :: back ∧ ∃ binding ∈ statementBindings statement,
        landedBinding =
          { binding with source := landing isLegacy remap (before ++ front) statement back binding.source } := by
  induction body generalizing before with
  | nil => simp [landed]
  | cons first rest ih =>
    rw [landed, List.mem_append, List.mem_map, ih]
    constructor
    · rintro (⟨binding, hbinding, rfl⟩ | ⟨front, statement, back, rfl, binding, hbinding, rfl⟩)
      · exact ⟨[], first, rest, rfl, binding, hbinding, by rw [List.append_nil]⟩
      · exact ⟨first :: front, statement, back, rfl, binding, hbinding, by rw [List.append_assoc]; rfl⟩
    · rintro ⟨front, statement, back, hbody, binding, hbinding, rfl⟩
      cases front with
      | nil =>
        obtain ⟨rfl, rfl⟩ := List.cons.inj hbody
        exact .inl ⟨binding, hbinding, by rw [List.append_nil]⟩
      | cons _ front =>
        obtain ⟨rfl, rfl⟩ := List.cons.inj hbody
        exact .inr ⟨front, statement, back, rfl, binding, hbinding, by rw [List.append_assoc]; rfl⟩

/-- The bindings of the moved body are those of the body where they land. -/
theorem importBindings_remapSources {body : List Node} (hd : (localNames (importBindings body)).Nodup) :
    (importBindings (remapSources isLegacy remap body).1).Perm (landed isLegacy remap [] body) := by
  obtain ⟨places, hmoved, hmoving⟩ := @remapSources_moving isLegacy remap _ hd
  rw [hmoved, importBindings_statements]
  have hnodup : (landed isLegacy remap [] body).Nodup := by
    refine List.Nodup.of_map Binding.localName ?_
    have hnames := @localNames_landed isLegacy remap [] body
    rw [localNames] at hnames
    rwa [hnames]
  have hsubset : landed isLegacy remap [] body ⊆ placeBindings places := by
    intro binding hbinding
    obtain ⟨before, statement, after, hbody, binding, horigin, rfl⟩ := mem_landed.mp hbinding
    obtain ⟨before', statement', after', form, hbody', hform, hclause, htype, hlands⟩ := hmoving.bound hbody _ horigin
    refine mem_placeBindings_of_importAt? hform (mem_bindingsOf.mpr ⟨?_, htype.symm, hclause⟩)
    rw [if_pos (by simp [hbody'])] at hlands
    rw [hlands, List.nil_append]
  refine ((List.subperm_of_subset hnodup hsubset).perm_of_length_le ?_).symm
  have hlength := hmoving.rebound.localNames.length_eq
  rw [← @localNames_landed isLegacy remap [] body, localNames, localNames, List.length_map,
    List.length_map] at hlength
  exact Nat.le_of_eq hlength.symm

lemma landed_of_direct {body : List Node} (h : Direct isLegacy remap body) :
    landed isLegacy remap [] body = replacedBindings isLegacy remap body := by
  suffices hrest : ∀ after before, body = before ++ after →
      landed isLegacy remap before after = replacedBindings isLegacy remap after from hrest body [] rfl
  intro after
  induction after with
  | nil => exact fun _ _ => rfl
  | cons statement after ih =>
    intro before hbody
    rw [landed, ih _ (by rw [List.append_assoc]; exact hbody), replacedBindings, replacedBindings, importBindings,
      importBindings, List.flatMap_cons, List.map_append]
    congr 1
    exact List.map_congr_left fun binding hbinding => by rw [h before statement after hbody binding hbinding]

/-- The moved body has all sources replaced at once just where the moves take every binding to its replacement. -/
theorem perm_replacedBindings_iff {body : List Node} (hd : (localNames (importBindings body)).Nodup) :
    (importBindings (remapSources isLegacy remap body).1).Perm (replacedBindings isLegacy remap body) ↔
      Direct isLegacy remap body := by
  refine ⟨fun hperm before statement after hbody binding hbinding => ?_,
    fun h => landed_of_direct h ▸ importBindings_remapSources hd⟩
  have hlanded := ((importBindings_remapSources hd).symm.trans hperm).subset
    (mem_landed.mpr ⟨before, statement, after, hbody, binding, hbinding, rfl⟩)
  obtain ⟨other, hother, heq⟩ := List.mem_map.mp hlanded
  -- one name is bound once, so that both are made of the same binding
  have hsame : other = binding := by
    have hmem : binding ∈ importBindings body := by
      rw [hbody, importBindings, List.mem_flatMap]
      exact ⟨statement, by simp, hbinding⟩
    have hname := congrArg Binding.localName heq
    exact List.inj_on_of_nodup_map hd hother hmem hname
  rw [hsame] at heq
  exact (congrArg Binding.source heq).symm

lemma direct_of_not_detour {body : List Node} (h : ¬ Detour isLegacy remap body) : Direct isLegacy remap body := by
  intro before statement after hbody binding hbinding
  cases himport : import? statement with
  | none => simp [statementBindings_of_none himport] at hbinding
  | some form =>
    rw [statementBindings_of_import himport, mem_bindingsOf] at hbinding
    rw [hbinding.1]
    by_cases htaken : isTakenAlong isLegacy remap before statement (replaced isLegacy remap form.source) = true
    · refine landing_of_none fun other hother => ?_
      rw [Bool.eq_false_iff]
      exact fun htakes => h ⟨before, statement, after, form, hbody, himport, htaken, other, hother, htakes⟩
    · rw [landing, if_neg htaken]

/-- An import that is taken along brings its names elsewhere than to their replacement, or those of the import that
takes it. -/
lemma not_direct_of_detour {body : List Node} (hbinds : ∀ statement ∈ body, ∀ form, import? statement = some form →
      clausesOf form ≠ []) (h : Detour isLegacy remap body) : ¬ Direct isLegacy remap body := by
  intro hdirect
  have harrives {before after : List Node} {statement : Node} {form : ImportForm}
      (hbody : body = before ++ statement :: after) (himport : import? statement = some form) :
      landing isLegacy remap before statement after form.source = replaced isLegacy remap form.source := by
    obtain ⟨clause, hclause⟩ := List.exists_mem_of_ne_nil _ (hbinds statement (by simp [hbody]) form himport)
    have hbinding : (⟨form.source, form.typeOnly, clause⟩ : Binding) ∈ statementBindings statement := by
      rw [statementBindings_of_import himport]
      exact mem_bindingsOf.mpr ⟨rfl, rfl, hclause⟩
    exact hdirect before statement after hbody _ hbinding
  obtain ⟨before, statement, after, form, hbody, himport, htaken, other, hother, htakes⟩ := h
  obtain ⟨next, hnext⟩ := Option.isSome_iff_exists.mp (List.find?_isSome.mpr ⟨other, hother, htakes⟩)
  obtain ⟨htakes, skipped, rest, rfl, hskipped⟩ := List.find?_eq_some_iff_append.mp hnext
  obtain ⟨into, hinto, hsource, -⟩ := takesNamesFrom_iff.mp htakes
  have hbody' : body = (before ++ statement :: skipped) ++ next :: rest := by simp [hbody]
  have hcarried := harrives hbody himport
  rw [landing_of_first htaken (fun s hs => by simpa using hskipped s hs) htakes, ← hsource, harrives hbody' hinto,
    hsource] at hcarried
  rw [isTakenAlong, hcarried] at htaken
  simp at htaken

/-! ### A second run -/

lemma setImport_self {places : Places} {index : Nat} {form : ImportForm} (h : importAt? places index = some form) :
    setImport places index form = places := by
  obtain ⟨node, hplace, himport, hset⟩ := importAt?_eq_some h
  obtain ⟨hlt, hget⟩ := List.getElem?_eq_some_iff.mp hplace
  have hnode : node.withForm (.importDeclaration form) = node := by
    obtain ⟨info, nodeForm⟩ := node
    cases nodeForm <;> simp_all [import?, Node.form, Node.withForm, Node.info]
  rw [hset, hnode, ← hget, List.set_getElem_self]

/-- Moves leave a body as it is where no import is still to move. -/
lemma remapSources_of_atRest {body : List Node} (h : AtRest isLegacy remap body) :
    (remapSources isLegacy remap body).1 = body := by
  obtain ⟨edited, hrun, rfl⟩ := editImports_invariant body (rfl : places body = places body)
    fun _ index form _ hplaces hform hedit => by
      subst hplaces
      obtain ⟨hlegacy, target, htarget, rfl⟩ := remapping_eq_some.mp hedit
      obtain ⟨before, statement, after, hbody, hlength, himport⟩ := importAt?_places hform
      obtain ⟨rfl, halone⟩ := h before statement after form target hbody himport
        (replacement?_eq_some.mpr ⟨hlegacy, htarget⟩)
      rcases moveTo_eq (places body) index form form.source with
        ⟨other, into, hmergeable, hdefault, -, hne, hinto, hsource, hmerge, -⟩ | ⟨-, hmove⟩
      · -- another import would take the names
        obtain ⟨before', joined, after', hbody', hlength', hinto⟩ := importAt?_places hinto
        have hmem : joined ∈ before ++ after := by
          rcases Nat.lt_or_gt_of_ne hne with hlt | hlt
          · obtain ⟨between, rfl, -⟩ := exists_between (hbody'.symm.trans hbody) (by omega)
            simp
          · obtain ⟨between, -, rfl⟩ := exists_between (hbody.symm.trans hbody') (by omega)
            simp
        have htakes := takesNamesFrom_iff.mpr ⟨into, hinto, hsource, hmerge⟩
        rw [halone ((joinsOthers_iff himport).mpr ⟨hmergeable, hdefault⟩) joined hmem] at htakes
        cases htakes
      · exact (hmove.trans (setImport_self hform)).symm
  rw [remapSources_eq, hrun, statements_places]

lemma places_of_statements_eq {body : List Node} {edited : Places} (h : statements edited = body)
    (hlength : edited.length = body.length) : edited = places body := by
  induction edited generalizing body with
  | nil => simp [← h, statements, places]
  | cons place edited ih =>
    cases place with
    | none =>
      have hle : (statements edited).length ≤ edited.length := List.length_filterMap_le _ _
      have hbody : body = statements edited := h.symm
      rw [hbody, List.length_cons] at hlength
      omega
    | some node =>
      have hbody : body = node :: statements edited := h.symm
      rw [hbody, List.length_cons, List.length_cons] at hlength
      rw [hbody, places, List.map_cons, ← places, ← ih rfl (Nat.succ_inj.mp hlength)]

/-- No import of a body that the moves leave as it is is still to move. -/
lemma atRest_of_remapSources_eq {body : List Node} (hd : (localNames (importBindings body)).Nodup)
    (h : (remapSources isLegacy remap body).1 = body) : AtRest isLegacy remap body := by
  obtain ⟨edited, hmoved, hmoving⟩ := @remapSources_moving isLegacy remap _ hd
  obtain rfl := places_of_statements_eq (hmoved.symm.trans h) hmoving.length
  have hbecame {before after : List Node} {statement : Node} {form : ImportForm}
      (hbody : body = before ++ statement :: after) (himport : import? statement = some form) :
      Became isLegacy remap body.length before statement after form form := by
    have hform : importAt? (places body) before.length = some form := by
      simp [importAt?, places, hbody, himport]
    obtain ⟨old, hold, hbecame⟩ := hmoving.becameAt hbody hform
    obtain rfl := Option.some.inj (hold.symm.trans himport)
    exact hbecame
  intro before statement after form target hbody himport hreplaced
  have hlt : before.length < body.length := by simp [hbody]
  have hsource : target = form.source := by
    rw [← replaced_of_some hreplaced]
    exact ((hbecame hbody himport).source.trans (if_pos hlt)).symm
  subst hsource
  refine ⟨rfl, fun hjoins other hother => ?_⟩
  obtain ⟨hafter, hbefore⟩ := (hbecame hbody himport).alone hlt hjoins _ hreplaced
  rcases List.mem_append.mp hother with hother | hother
  · -- one above would stand for the source, or have joined this one
    rw [Bool.eq_false_iff]
    intro htakes
    obtain ⟨into, hinto, hsource, hmergeable⟩ := takesNamesFrom_iff.mp htakes
    rw [← hsource] at hreplaced
    by_cases hjoins' : joinsOthers other = true
    · obtain ⟨front, between, rfl⟩ := List.append_of_mem hother
      have hbody' : body = front ++ other :: (between ++ statement :: after) := by simp [hbody]
      obtain ⟨hnone, -⟩ := (hbecame hbody' hinto).alone (by simp [hbody']) hjoins' _ hreplaced
      have hself := takesNamesFrom_iff.mpr ⟨form, himport, hsource.symm, ((joinsOthers_iff himport).mp hjoins).1⟩
      rw [hnone statement (by simp)] at hself
      cases hself
    · have hstands : standsFor isLegacy remap form.source other = true := by
        rw [joinsOthers_iff hinto] at hjoins'
        exact (standsFor_iff hinto).mpr
          ⟨hmergeable, fun hdefault => hjoins' ⟨hmergeable, hdefault⟩, hsource ▸ hreplaced⟩
      rw [List.any_eq_false] at hbefore
      exact hbefore other hother hstands
  · exact hafter other hother

/-! ### Replacements that are not replaced -/

lemma replacement?_replaced
    (hflat : ∀ source target, replacement? isLegacy remap source = some target →
      replacement? isLegacy remap target = none)
    (source : String) : replacement? isLegacy remap (replaced isLegacy remap source) = none := by
  cases h : replacement? isLegacy remap source with
  | none => rw [replaced_of_none h, h]
  | some target => rw [replaced_of_some h, hflat source target h]

lemma not_detour_of_flat {body : List Node}
    (hflat : ∀ source target, replacement? isLegacy remap source = some target →
      replacement? isLegacy remap target = none) :
    ¬ Detour isLegacy remap body := by
  rintro ⟨before, statement, after, form, -, -, htaken, -⟩
  have hsettled := replaced_of_none (replacement?_replaced hflat form.source)
  simp [isTakenAlong, hsettled] at htaken

lemma atRest_of_flat {body : List Node}
    (hflat : ∀ source target, replacement? isLegacy remap source = some target →
      replacement? isLegacy remap target = none)
    (hd : (localNames (importBindings body)).Nodup) : AtRest isLegacy remap (remapSources isLegacy remap body).1 := by
  obtain ⟨places, hmoved, hmoving⟩ := @remapSources_moving isLegacy remap _ hd
  rw [hmoved]
  intro before statement after form target hbody himport hreplaced
  have hmem : some statement ∈ places := by
    have hmem : statement ∈ statements places := by simp [hbody]
    simpa [statements] using hmem
  obtain ⟨index, hplace⟩ := List.mem_iff_getElem?.mp hmem
  have hform : importAt? places index = some form := by rw [importAt?, hplace]; exact himport
  obtain ⟨before', statement', after', old, hbody', rfl, -, hbecame⟩ := hmoving.became hform
  have hsource := hbecame.source
  rw [if_pos (by simp [hbody'])] at hsource
  rw [hsource, replacement?_replaced hflat] at hreplaced
  cases hreplaced

/-! ### All moves -/

/-- Where the local names of the imports are distinct, the moves lose and double no binding and change nothing of one
but its source, and take each to where it lands. That is the replacement of its source for all of them, whatever the
order of the imports, if no import is taken along; where every import binds a name, it is so only then. A second run
changes nothing just if no import of the moved body is still to move. Where no replacement is replaced itself, neither
happens. -/
theorem remapSources_replaced {body : List Node} (hd : (localNames (importBindings body)).Nodup) :
    Rebound isLegacy remap (importBindings body) (importBindings (remapSources isLegacy remap body).1) ∧
    (importBindings (remapSources isLegacy remap body).1).Perm (landed isLegacy remap [] body) ∧
    (¬ Detour isLegacy remap body →
      (importBindings (remapSources isLegacy remap body).1).Perm (replacedBindings isLegacy remap body)) ∧
    ((∀ statement ∈ body, ∀ form, import? statement = some form → clausesOf form ≠ []) →
      Detour isLegacy remap body →
      ¬ (importBindings (remapSources isLegacy remap body).1).Perm (replacedBindings isLegacy remap body)) ∧
    ((remapSources isLegacy remap (remapSources isLegacy remap body).1).1 = (remapSources isLegacy remap body).1 ↔
      AtRest isLegacy remap (remapSources isLegacy remap body).1) ∧
    ((∀ source target, replacement? isLegacy remap source = some target → replacement? isLegacy remap target = none) →
      ¬ Detour isLegacy remap body ∧ AtRest isLegacy remap (remapSources isLegacy remap body).1) := by
  have hrebound := @remapSources_rebound isLegacy remap _ hd
  refine ⟨hrebound, importBindings_remapSources hd,
    fun h => (perm_replacedBindings_iff hd).mpr (direct_of_not_detour h),
    fun hbinds h hperm => not_direct_of_detour hbinds h ((perm_replacedBindings_iff hd).mp hperm),
    ⟨atRest_of_remapSources_eq (hrebound.localNames.nodup_iff.mp hd), remapSources_of_atRest⟩,
    fun hflat => ⟨not_detour_of_flat hflat, atRest_of_flat hflat hd⟩⟩

/-- An import of names, one of names from its replacement, and a default that comes from the same source in the end. -/
def chainedImports : List Node :=
  [.make (.importDeclaration { source := "a", specifiers := [{ imported := "x" }] }),
    .make (.importDeclaration { source := "b", specifiers := [{ imported := "y" }] }),
    .make (.importDeclaration { source := "d", specifiers := [], defaultName := some "z" })]

/-- A table that replaces the replacement of one source, and that of all others by itself. -/
def chainedSources : List (String × String) :=
  [("a", "b"), ("b", "c"), ("c", "c"), ("d", "c")]

/-- The first import joins the second one and moves on with it, and the default takes them in when the moves are made
once more. -/
theorem chainedImports_replaced : (localNames (importBindings chainedImports)).Nodup ∧
    ¬ (importBindings (remapSources (fun _ => true) chainedSources chainedImports).1).Perm
      (replacedBindings (fun _ => true) chainedSources chainedImports) ∧
    (remapSources (fun _ => true) chainedSources
      (remapSources (fun _ => true) chainedSources chainedImports).1).1 ≠
        (remapSources (fun _ => true) chainedSources chainedImports).1 := by
  have hd : (localNames (importBindings chainedImports)).Nodup := by decide
  obtain ⟨-, -, -, hdetour, hagain, -⟩ :=
    @remapSources_replaced (fun _ => true) chainedSources _ hd
  refine ⟨hd, hdetour ?_ ⟨[], _, _, _, rfl, rfl, by decide, _, List.mem_cons_self, by decide⟩, fun h => ?_⟩
  · simp [chainedImports, Node.make, import?, Node.form, clausesOf]
  · obtain ⟨-, halone⟩ := hagain.mp h [] _ _ _ "c" rfl rfl (by decide)
    exact absurd (halone (by decide) _ List.mem_cons_self) (by decide)

end RouteMigration.Proofs
