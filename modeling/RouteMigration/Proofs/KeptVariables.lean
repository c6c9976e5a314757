import Mathlib.Data.List.InsertIdx
import RouteMigration.Proofs.FailingMigrations

/-!
# Variables that stay

The removal of a handler takes one declarator away, or a statement that has no other one. What a draft still has to
show of the variables of a module is read off its entries in the places that are open: those of the handlers are not,
and the places move up when a declarator before them goes.
-/

namespace RouteMigration.Proofs
open Syntax Route

/-! ### Open places of a list -/

section OpenPlaces

variable {α : Type}

/-- The elements of a list in the places that a predicate admits. -/
def admitted (p : Nat → Bool) : List α → List α
  | [] => []
  | a :: l => if p 0 then a :: admitted (p ∘ Nat.succ) l else admitted (p ∘ Nat.succ) l

/-- The place in a list of what stands in a place when one element is left out. -/
def skip (index place : Nat) : Nat :=
  if place < index then place else place + 1

lemma admitted_sublist (p : Nat → Bool) (l : List α) : (admitted p l).Sublist l := by
  induction l generalizing p with
  | nil => exact List.Sublist.refl _
  | cons a l ih =>
    rw [admitted]
    split
    · exact (ih _).cons_cons a
    · exact (ih _).cons a

lemma admitted_true (l : List α) : admitted (fun _ => true) l = l := by
  induction l with
  | nil => rfl
  | cons a l ih => exact congrArg (a :: ·) ih

/-- The element in a place that is not open can be left out. -/
lemma admitted_eraseIdx {p : Nat → Bool} {index : Nat} (h : p index = false) (l : List α) :
    admitted (p ∘ skip index) (l.eraseIdx index) = admitted p l := by
  induction l generalizing p index with
  | nil => rfl
  | cons a l ih =>
    cases index with
    | zero => rw [admitted, h, if_neg Bool.false_ne_true]; rfl
    | succ index =>
      have hrest : (p ∘ skip (index + 1)) ∘ Nat.succ = (p ∘ Nat.succ) ∘ skip index := by
        funext place
        simp only [Function.comp_apply, skip, Nat.succ_eq_add_one, Nat.add_lt_add_iff_right]
        split <;> rfl
      rw [List.eraseIdx_cons_succ, admitted, admitted, hrest, ih (p := p ∘ Nat.succ) h]
      rfl

lemma skip_of_ne {i j : Nat} (hne : i ≠ j) : skip i (if i < j then j - 1 else j) = j := by
  unfold skip
  split <;> split <;> omega

lemma skip_ne (index place : Nat) : skip index place ≠ index := by
  unfold skip
  split <;> omega

end OpenPlaces

/-! ### Variables of statements -/

/-- The variables that a statement declares or exports, each with the keyword of its declaration. -/
def variablesOf (statement : Node) : List (String × Node) :=
  match declared? statement with
  | some (.variableDeclaration keyword declarators) => declarators.map (keyword, ·)
  | _ => []

lemma variablesOf_congr {a b : Node} (h : declared? a = declared? b) : variablesOf a = variablesOf b := by
  rw [variablesOf, variablesOf, h]

lemma variablesOf_eq_nil {statement : Node}
    (h : ∀ keyword declarators, declared? statement ≠ some (.variableDeclaration keyword declarators)) :
    variablesOf statement = [] := by
  rw [variablesOf]
  split
  · next keyword declarators hform => exact absurd hform (h keyword declarators)
  · rfl

lemma variablesOf_of_declared {statement : Node} {keyword : String} {declarators : List Node}
    (h : declared? statement = some (.variableDeclaration keyword declarators)) :
    variablesOf statement = declarators.map (keyword, ·) := by
  rw [variablesOf, h]

lemma variablesOf_of_import {statement : Node} (h : (import? statement).isSome) : variablesOf statement = [] := by
  obtain ⟨form, hform⟩ := import?_isSome h
  refine variablesOf_eq_nil fun keyword declarators => ?_
  rw [declared?_other (by simp [hform]), hform]
  simp

lemma variablesOf_of_isEmptied {statement : Node} (h : isEmptied statement = true) : variablesOf statement = [] := by
  obtain ⟨form, hform, hdeclaration, -⟩ := isEmptied_eq_true h
  refine variablesOf_eq_nil fun keyword declarators => ?_
  rw [declared?_exportNamed hform, hdeclaration]
  simp

lemma variablesOf_exportDefault {statement declaration : Node} (h : statement.form = .exportDefault declaration) :
    variablesOf statement = [] := by
  refine variablesOf_eq_nil fun keyword declarators => ?_
  rw [declared?_other (by simp [h]), h]
  simp

lemma length_variablesOf (statement : Node) : (variablesOf statement).length = Draft.declaratorCount statement := by
  rw [variablesOf]
  split
  · next keyword declarators hform => rw [List.length_map, declaratorCount_of_declared hform]
  · next hother =>
    rw [Draft.declaratorCount]
    split
    · next keyword declarators hform => exact absurd hform (hother keyword declarators)
    · rfl

lemma variablesOf_eraseDeclarator (index : Nat) (statement : Node) :
    variablesOf (Draft.eraseDeclarator index statement) = (variablesOf statement).eraseIdx index := by
  have herased := declared?_eraseDeclarator index statement
  cases hform : declared? statement with
  | none =>
    rw [hform] at herased
    rw [variablesOf, variablesOf, herased, hform]
    rfl
  | some form =>
    rw [hform, Option.map_some] at herased
    cases form with
    | variableDeclaration keyword declarators =>
      rw [variablesOf_of_declared hform, variablesOf_of_declared herased, List.eraseIdx_map]
    | _ =>
      rw [variablesOf, variablesOf, herased, hform]
      rfl

lemma variablesOf_exportedConstant {statement : Node} {name : String} {value : Node}
    (h : statement.form = (exportedConstant name value).form) :
    variablesOf statement = [("const", .make (.declarator (variableOf name) (some value) none))] :=
  variablesOf_of_declared (declared?_exportedConstant h)

lemma exists_of_mem_variablesOf {statement declarator : Node} {keyword : String}
    (h : (keyword, declarator) ∈ variablesOf statement) :
    ∃ declarators, declared? statement = some (.variableDeclaration keyword declarators) ∧ declarator ∈ declarators := by
  rw [variablesOf] at h
  split at h
  · next hdeclared =>
    obtain ⟨declarator', hmem, hsame⟩ := List.mem_map.mp h
    cases hsame
    exact ⟨_, hdeclared, hmem⟩
  · cases h

/-- The name of a variable is one that its statement declares. -/
lemma mem_variableNames {statement declarator target : Node} {keyword name : String} {init declaredType : Option Node}
    (h : (keyword, declarator) ∈ variablesOf statement) (hform : declarator.form = .declarator target init declaredType)
    (hname : target.identifier? = some name) : name ∈ variableNames statement := by
  obtain ⟨declarators, hdeclared, hmem⟩ := exists_of_mem_variablesOf h
  rw [declared?] at hdeclared
  rw [variableNames, hdeclared]
  exact List.mem_filterMap.mpr ⟨declarator, hmem, by rw [hform]; exact hname⟩

/-- The places of variables that are no handlers. -/
def openPlaces (module : Module) (index place : Nat) : Bool :=
  (handlersOf module).all fun located => !(located.statement = index && located.shape = .variable place)

lemma openPlaces_eq_false {module : Module} {located : Located} (h : located ∈ handlersOf module) {index : Nat}
    (hshape : located.shape = .variable index) : openPlaces module located.statement index = false := by
  rw [openPlaces, List.all_eq_false]
  exact ⟨located, h, by simp [hshape]⟩

/-- The variables of a module that are no handlers. -/
def bystandingVariables (module : Module) : List (String × Node) :=
  module.body.zipIdx.flatMap fun (statement, index) => admitted (openPlaces module index) (variablesOf statement)

lemma mem_bystandingVariables {module : Module} {variable' : String × Node}
    (h : variable' ∈ bystandingVariables module) : ∃ statement ∈ module.body, variable' ∈ variablesOf statement := by
  obtain ⟨⟨statement, index⟩, hmem, hvariable⟩ := List.mem_flatMap.mp h
  exact ⟨statement, List.mem_of_getElem? (List.mk_mem_zipIdx_iff_getElem?.mp hmem),
    (admitted_sublist ..).subset hvariable⟩

/-! ### Variables of drafts -/

/-- The variables of an entry in the open places of its statement. -/
def awaited (p : Nat → Nat → Bool) (entry : Entry) : List (String × Node) :=
  match entry.origin with
  | .statement index => admitted (p index) (variablesOf entry.node)
  | _ => []

/-- The open places when a declarator of a statement goes. -/
def shifted (p : Nat → Nat → Bool) (statement place : Nat) : Nat → Nat → Bool :=
  Function.update p statement (p statement ∘ skip place)

variable {settings : Settings} {module : Module} {kind : Kind} {draft : Draft} {key : String} {located : Located}
  {attached : Attached} {p : Nat → Nat → Bool}

lemma awaited_of_statement {entry : Entry} {index : Nat} (h : entry.origin = .statement index) :
    awaited p entry = admitted (p index) (variablesOf entry.node) := by
  rw [awaited, h]

lemma awaited_congr {entry entry' : Entry} (horigin : entry'.origin = entry.origin)
    (hdeclared : declared? entry'.node = declared? entry.node) : awaited p entry' = awaited p entry := by
  rw [awaited, awaited, horigin, variablesOf_congr hdeclared]

lemma awaited_sublist (entry : Entry) : (awaited p entry).Sublist (variablesOf entry.node) := by
  unfold awaited
  split
  · exact admitted_sublist ..
  · exact List.nil_sublist _

lemma awaited_shifted_of_ne {entry : Entry} {statement : Nat} (h : entry.origin ≠ .statement statement) (place : Nat) :
    awaited (shifted p statement place) entry = awaited p entry := by
  unfold awaited
  split
  · next index horigin =>
    have hne : index ≠ statement := by
      rintro rfl
      exact h horigin
    rw [shifted, Function.update_of_ne hne]
  · rfl

lemma awaited_ofBody :
    (Draft.ofBody module.body).entries.flatMap (awaited (openPlaces module)) = bystandingVariables module := by
  rw [Draft.ofBody, List.flatMap_map]
  rfl

/-- A draft shows what it still has to. -/
lemma sublist_variables (draft : Draft) :
    (draft.entries.flatMap (awaited p)).Sublist (draft.body.flatMap variablesOf) := by
  rw [Draft.body, List.flatMap_map]
  refine (edited_refl (R := fun entry place => place = some entry) _ fun _ _ => rfl).sublist_flatMap _ _ ?_
  rintro entry _ - rfl
  exact awaited_sublist entry

/-! ### Attaching a handler -/

lemma flatMap_modify_unlisted {β : Type} {f : Node → Node} (view view' : Entry → List β)
    (hother : ∀ entry ∈ draft.entries, entry.origin ≠ .statement located.statement →
      view' (reworked (unlist [located.name]) entry) = view entry)
    (hown : ∀ entry ∈ draft.entries, entry.origin = .statement located.statement →
      view' (reworked f (reworked (unlist [located.name]) entry)) = view entry) :
    ((draft.mapNodes (unlist [located.name])).modify (.statement located.statement) f).entries.flatMap view' =
      draft.entries.flatMap view := by
  rw [entries_modify, entries_mapNodes, List.map_map]
  refine (edited_map (R := fun entry place => entry ∈ draft.entries ∧ place = some _) _ _
    fun entry hentry => ⟨hentry, rfl⟩).flatMap_eq_flatMap view view' ?_
  rintro entry _ - ⟨hentry, rfl⟩
  by_cases horigin : entry.origin = .statement located.statement
  · rw [Option.elim_some, Function.comp_apply, if_pos (by exact horigin)]
    exact hown entry hentry horigin
  · rw [Option.elim_some, Function.comp_apply, if_neg (by exact horigin)]
    exact hother entry hentry horigin

lemma flatMap_erase_unlisted {β : Type} (view : Entry → List β)
    (hother : ∀ entry ∈ draft.entries, view (reworked (unlist [located.name]) entry) = view entry)
    (hown : ∀ entry ∈ draft.entries, entry.origin = .statement located.statement → view entry = []) :
    ((draft.mapNodes (unlist [located.name])).erase (.statement located.statement)).entries.flatMap view =
      draft.entries.flatMap view := by
  have hunlisted : (draft.mapNodes (unlist [located.name])).entries.flatMap view = draft.entries.flatMap view := by
    rw [entries_mapNodes, List.flatMap_map]
    exact List.flatMap_congr hother
  rw [← hunlisted, Draft.erase]
  refine (edited_filter (R := fun entry place => place = some entry ∨ (place = none ∧ view entry = [])) _ _
    (fun _ _ _ => .inl rfl) fun entry hentry hgone => .inr ⟨rfl, ?_⟩).flatMap_eq view ?_
  · rw [entries_mapNodes] at hentry
    obtain ⟨source, hsource, rfl⟩ := List.mem_map.mp hentry
    have horigin : (reworked (unlist [located.name]) source).origin = .statement located.statement := by
      simpa using hgone
    rw [hother source hsource]
    exact hown source hsource horigin
  · rintro entry _ - (rfl | ⟨rfl, hnil⟩)
    · rfl
    · exact hnil.symm

lemma awaited_mapNodes_unlist (names : List String) :
    (draft.mapNodes (unlist names)).entries.flatMap (awaited p) = draft.entries.flatMap (awaited p) := by
  rw [entries_mapNodes, List.flatMap_map]
  exact List.flatMap_congr fun entry _ => awaited_congr rfl (declared?_unlist ..)

/-- The statement of a handler that is kept has the variables that it had. -/
lemma KeptAs.awaited_eq {f : Node → Node} (h : KeptAs located (draft.mapNodes (unlist [located.name])) f)
    (hvalues : ∀ entry ∈ draft.entries, HoldsValues [.statement located.statement] entry) :
    ((draft.mapNodes (unlist [located.name])).modify (.statement located.statement) f).entries.flatMap
      (awaited p) = draft.entries.flatMap (awaited p) := by
  refine flatMap_modify_unlisted _ _ (fun entry _ _ => awaited_congr rfl (declared?_unlist ..))
    fun entry hentry horigin => awaited_congr rfl ?_
  have hunlisted := (hvalues entry hentry).unlisted horigin [located.name]
  rcases h.eq with rfl | rfl
  · exact declared?_unlist ..
  · exact (declaresValues_withoutExport hunlisted).2.trans (declared?_unlist ..)

/-- A statement that goes with a standing handler has no variable in an open place. -/
lemma StandsAt.admitted_eq_nil {localName : String} {place : Nat → Nat} {shape : Shape} {form : Form Node}
    {statement : Node} {p : Nat → Bool} (h : StandsAt localName place shape form) (hform : declared? statement = some form)
    (hcount : ∀ index, shape = .variable index → Draft.declaratorCount statement ≤ 1)
    (hclosed : ∀ index, shape = .variable index → p (place index) = false) :
    admitted p (variablesOf statement) = [] := by
  cases h with
  | function _ => rw [variablesOf_eq_nil (by simp [hform])]; rfl
  | @declarator keyword declarators index declarator hget _ =>
    have hlt := (List.getElem?_eq_some_iff.mp hget).1
    have hone : (variablesOf statement).length = 1 := by
      have hlength := length_variablesOf statement
      have hsame := declaratorCount_of_declared hform
      have hle := hcount index rfl
      omega
    have hzero : place index = 0 := by
      rw [variablesOf_of_declared hform, List.length_map] at hone
      omega
    obtain ⟨variable', hvariable⟩ := List.length_eq_one_iff.mp hone
    have hfirst : p 0 = false := hzero ▸ hclosed index rfl
    rw [hvariable, admitted, hfirst, if_neg Bool.false_ne_true]
    rfl

/-- The attachment of a standing handler takes no variable out of an open place. -/
theorem Attachment.awaited_eq (h : Attachment settings kind draft key located attached) (hdistinct : Distinct draft)
    (hvalues : ∀ entry ∈ draft.entries, HoldsValues [.statement located.statement] entry)
    (hstanding : Standing draft located)
    (hclosed : ∀ index, located.shape = .variable index →
      p located.statement (placeLeft draft located index) = false) :
    (attached.draft.removed = draft.removed ∧
      attached.draft.entries.flatMap (awaited p) = draft.entries.flatMap (awaited p)) ∨
    ∃ index, located.shape = .variable index ∧
      attached.draft.removed = (located.statement, index) :: draft.removed ∧
      attached.draft.entries.flatMap (awaited (shifted p located.statement (placeLeft draft located index))) =
        draft.entries.flatMap (awaited p) := by
  cases h with
  | kept _ hf hentries hsame _ _ _ => exact .inl ⟨hsame, by rw [hentries, hf.awaited_eq hvalues]⟩
  | moved _ _ hremoval hentries hsame _ _ _ =>
    cases hremoval with
    | erased hresult hcount =>
      refine .inl ⟨by rw [hsame, hresult]; rfl, ?_⟩
      rw [hentries, hresult]
      refine flatMap_erase_unlisted _ (fun entry _ => awaited_congr rfl (declared?_unlist ..))
        fun entry hentry horigin => ?_
      obtain ⟨form, hform, hstands⟩ := hstanding entry hentry horigin
      have hfind := hdistinct.find?_mapNodes hentry horigin (unlist [located.name])
      have hsame := declaratorCount_congr (declared?_unlist [located.name] entry.node)
      rw [awaited_of_statement horigin]
      exact hstands.admitted_eq_nil hform (fun index hshape => hsame ▸ hcount index _ hshape hfind) hclosed
    | @trimmed index _ hshape _ _ _ hresult =>
      refine .inr ⟨index, hshape, by rw [hsame, hresult]; rfl, ?_⟩
      rw [hentries, hresult]
      refine flatMap_modify_unlisted _ _ (fun entry _ hother => ?_) fun entry hentry horigin => ?_
      · rw [awaited_shifted_of_ne (by exact hother)]
        exact awaited_congr rfl (declared?_unlist ..)
      · have hvariables : variablesOf (unlist [located.name] entry.node) = variablesOf entry.node :=
          variablesOf_congr (declared?_unlist ..)
        rw [awaited_of_statement horigin, awaited_of_statement (by exact horigin), reworked, reworked,
          variablesOf_eraseDeclarator, hvariables, shifted, Function.update_self]
        exact admitted_eraseIdx (hclosed index hshape) _

end RouteMigration.Proofs
