import RouteMigration.Proofs.Drafts
import RouteMigration.Proofs.Statements

/-!
# Attaching handlers to drafts

What one attachment can do to a draft: the name of the handler is taken out of all lists of exports, and
then the statement of the handler, and no other, is released from it or kept without its export.
-/

namespace RouteMigration.Proofs
open Syntax Route

/-! ### Where handlers are declared -/

lemma except_bind_eq_ok {ε α β : Type} {x : Except ε α} {f : α → Except ε β} {b : β}
    (h : (x >>= f) = .ok b) : ∃ a, x = .ok a ∧ f a = .ok b := by
  cases x with
  | error e => cases h
  | ok a => exact ⟨a, rfl, h⟩

lemma except_map_eq_ok {ε α β : Type} {x : Except ε α} {f : α → β} {b : β} (h : f <$> x = .ok b) :
    ∃ a, x = .ok a ∧ f a = b := by
  cases x with
  | error e => cases h
  | ok a => exact ⟨a, rfl, Except.ok.inj h⟩

lemma exists_of_any_toOption {ε α : Type} {result : Except ε α} {p : α → Bool} (h : result.toOption.any p = true) :
    ∃ value, result = .ok value ∧ p value = true := by
  cases result with
  | error fault => cases h
  | ok value => exact ⟨value, rfl, h⟩

/-- A declaration gives the handler its name, as a function with a body or as a variable. -/
inductive DeclaredBy (located : Located) : Form Node → Prop where
  | function {form : FunctionForm Node} {declaration : Node} : located.shape = .function →
      declaration.form = .functionDeclaration form → form.name = some located.localName →
      form.body.isSome → located.function = declaration → DeclaredBy located (.functionDeclaration form)
  | variable {kind : String} {declarators : List Node} {index : Nat} {declarator name : Node}
      {init declaredType : Option Node} : located.shape = .variable index →
      declarators[index]? = some declarator → declarator.form = .declarator name init declaredType →
      name.identifier? = some located.localName → init.bind callable? = some located.function →
      DeclaredBy located (.variableDeclaration kind declarators)

lemma candidates_declaredBy {located : Located} {declaration : Node}
    (h : (located.shape, some located.function) ∈ candidates located.localName declaration) :
    DeclaredBy located declaration.form := by
  rw [candidates] at h
  split at h
  · next form hform =>
    split at h
    · next hname =>
      simp only [List.mem_singleton, Prod.mk.injEq] at h
      obtain ⟨hshape, hfunction⟩ := h
      split at hfunction
      · next hbody =>
        rw [hform]
        exact .function hshape hform hname hbody (by simpa using hfunction)
      · cases hfunction
    · cases h
  · next kind declarators hform =>
    obtain ⟨⟨declarator, index⟩, hmem, hfound⟩ := List.mem_filterMap.mp h
    have hget := List.mk_mem_zipIdx_iff_getElem?.mp hmem
    dsimp only at hfound
    split at hfound
    · next name init declaredType hd =>
      split at hfound
      · next hname =>
        simp only [Option.some.injEq, Prod.mk.injEq] at hfound
        rw [hform]
        exact .variable hfound.1.symm hget hd hname hfound.2
      · cases hfound
    · cases hfound
  · cases h

/-- A located handler is declared by the statement it names. -/
theorem locate_eq_some {body : List Node} {name : String} {located : Located}
    (h : locate body name = some located) : located.name = name ∧
      located.localName = localNameOf body name ∧
      ∃ statement form, body[located.statement]? = some statement ∧ declared? statement = some form ∧
        DeclaredBy located form := by
  have hmem : located ∈ (declarations body (localNameOf body name)).filterMap
      fun found => found.2.2.map fun function =>
        ({ name, localName := localNameOf body name, statement := found.1, shape := found.2.1, function,
           reexports := reexportsOf body name } : Located) := by
    rw [locate] at h
    rcases Option.or_eq_some_iff.mp h with h | ⟨-, h⟩
    · exact (List.mem_filter.mp (List.mem_of_getLast? h)).1
    · exact (List.mem_filter.mp (List.mem_of_getLast? h)).1
  obtain ⟨⟨index, shape, function?⟩, hfound, hlocated⟩ := List.mem_filterMap.mp hmem
  obtain ⟨function, rfl, rfl⟩ := Option.map_eq_some_iff.mp hlocated
  obtain ⟨⟨statement, i⟩, hstatement, hcandidate⟩ := List.mem_flatMap.mp hfound
  have hget := List.mk_mem_zipIdx_iff_getElem?.mp hstatement
  dsimp only at hcandidate
  split at hcandidate
  · next declaration hdeclaration =>
    obtain ⟨found, hfound', heq⟩ := List.mem_map.mp hcandidate
    obtain ⟨rfl, rfl⟩ := Prod.mk.injEq .. ▸ heq
    exact ⟨rfl, rfl, statement, declaration.form, hget, by simp [declared?, hdeclaration],
      candidates_declaredBy hfound'⟩
  · cases hcandidate

lemma DeclaredBy.isValueDeclaration {located : Located} {form : Form Node} (h : DeclaredBy located form) :
    isValueDeclaration form = true := by
  cases h <;> rfl

lemma declaresValues_of_locate {body : List Node} {name : String} {located : Located}
    (h : locate body name = some located) :
    ∃ statement, body[located.statement]? = some statement ∧ DeclaresValues statement := by
  obtain ⟨-, -, statement, form, hget, hdeclared, hby⟩ := locate_eq_some h
  exact ⟨statement, hget, form, hdeclared, hby.isValueDeclaration⟩

/-! ### Releasing and keeping -/

/-- The entry of a handler without its export, where that leaves a declaration. -/
def withoutExport (statement : Node) : Node :=
  (Draft.unexported statement).getD statement

/-- The place of a declarator among those that have not been removed. -/
def placeLeft (draft : Draft) (located : Located) (index : Nat) : Nat :=
  index - draft.removed.countP fun (key, other) => key = located.statement && other < index

/-- What the removal of a handler's declaration comes to. -/
inductive Removal (located : Located) (draft result : Draft) : Prop where
  | erased : result = draft.erase (.statement located.statement) →
      (∀ index statement, located.shape = .variable index →
        draft.find? (.statement located.statement) = some statement →
        Draft.declaratorCount statement ≤ 1) → Removal located draft result
  | trimmed {index : Nat} {statement : Node} : located.shape = .variable index →
      draft.find? (.statement located.statement) = some statement →
      1 < Draft.declaratorCount statement → (located.statement, index) ∉ draft.removed →
      result = { draft.modify (.statement located.statement)
          (Draft.eraseDeclarator (placeLeft draft located index)) with
        removed := (located.statement, index) :: draft.removed } → Removal located draft result

lemma removeDeclaration_eq_ok {draft result : Draft} {located : Located}
    (h : draft.removeDeclaration located = .ok result) : Removal located draft result := by
  unfold Draft.removeDeclaration at h
  dsimp only at h
  split at h
  · next index statement hshape hfind =>
    split at h
    · next hcount =>
      refine .erased (by simpa using h.symm) fun i s _ hs => ?_
      rw [hfind] at hs
      rwa [← Option.some.inj hs]
    · next hcount =>
      split at h
      · cases h
      · next hremoved =>
        exact .trimmed hshape hfind (by omega) hremoved (by simpa [placeLeft] using h.symm)
  · next hother =>
    exact .erased (by simpa using h.symm) fun i s hshape hfind => absurd hfind (hother i s hshape)

/-- How the statement of a kept handler changes: it loses its export if it exports nothing else. -/
def KeptAs (located : Located) (draft : Draft) (f : Node → Node) : Prop :=
  (f = id ∧ ∀ statement, draft.find? (.statement located.statement) = some statement →
    Draft.exportsOnly located statement = false) ∨
  (f = withoutExport ∧ ∃ statement, draft.find? (.statement located.statement) = some statement ∧
    Draft.exportsOnly located statement = true)

lemma KeptAs.eq {located : Located} {draft : Draft} {f : Node → Node} (h : KeptAs located draft f) :
    f = id ∨ f = withoutExport :=
  h.imp And.left And.left

lemma keep_eq_ok {module : Module} {draft result : Draft} {located : Located}
    (h : draft.keep module located = .ok result) :
    ∃ f, KeptAs located draft f ∧
      result = { draft.modify (.statement located.statement) f with
        kept := draft.kept ++ [located.statement] } := by
  have hid : draft.modify (.statement located.statement) id = draft := by
    simp only [Draft.modify, id, ite_self, List.map_id']
  unfold Draft.keep at h
  dsimp only at h
  split at h
  · next statement hfind =>
    have hfind : draft.find? (.statement located.statement) = some statement := hfind
    split at h
    · next honly =>
      cases h
      exact ⟨withoutExport, .inr ⟨rfl, statement, hfind, honly⟩, rfl⟩
    · next hmore =>
      refine ⟨id, .inl ⟨rfl, fun found hfound => ?_⟩, by rw [hid]; simpa using h.symm⟩
      rw [← Option.some.inj (hfind.symm.trans hfound)]
      exact eq_false_of_ne_true hmore
  · next hfind =>
    have hfind : draft.find? (.statement located.statement) = none := hfind
    split at h
    · cases h
    · refine ⟨id, .inl ⟨rfl, fun found hfound => ?_⟩, by rw [hid]; simpa using h.symm⟩
      rw [hfind] at hfound
      cases hfound

/-- What the attachment of a handler comes to: it is kept because other statements need it, and the
property refers to it, or its declaration is removed and its function becomes the property. -/
inductive Attachment (settings : Settings) (kind : Kind) (draft : Draft) (key : String) (located : Located)
    (attached : Attached) : Prop where
  | kept {f : Node → Node} :
      ((draft.mapNodes (unlist [located.name])).isUsedElsewhere located.localName
        (.statement located.statement) = true ∨ extract? settings kind located = none) →
      KeptAs located (draft.mapNodes (unlist [located.name])) f →
      attached.draft.entries = ((draft.mapNodes (unlist [located.name])).modify
        (.statement located.statement) f).entries →
      attached.draft.removed = draft.removed → attached.draft.kept = draft.kept ++ [located.statement] →
      attached.property.form = .property key (variableOf located.localName) →
      attached.source = located.function → Attachment settings kind draft key located attached
  | moved {handler : Handler} {result : Draft} :
      (draft.mapNodes (unlist [located.name])).isUsedElsewhere located.localName
        (.statement located.statement) = false → extract? settings kind located = some handler →
      Removal located (draft.mapNodes (unlist [located.name])) result →
      attached.draft.entries = result.entries → attached.draft.removed = result.removed →
      attached.draft.kept = draft.kept → attached.property.form = .property key handler.value →
      attached.source = handler.source → Attachment settings kind draft key located attached

lemma form_foldl_withComment (comments : List String) (node : Node) :
    (comments.foldl (fun node comment => withComment comment node) node).form = node.form := by
  induction comments generalizing node with
  | nil => rfl
  | cons comment comments ih => rw [List.foldl_cons, ih, form_withComment]

theorem attach_eq_ok {settings : Settings} {module : Module} {kind : Kind} {draft : Draft} {key : String}
    {located : Located} {attached : Attached}
    (h : attach settings module kind draft key located = .ok attached) :
    Attachment settings kind draft key located attached := by
  unfold attach at h
  dsimp only at h
  split at h
  · next hhandler =>
    obtain ⟨result, hkeep, hattached⟩ := except_bind_eq_ok h
    obtain ⟨f, hf, rfl⟩ := keep_eq_ok hkeep
    cases hattached
    refine .kept ?_ hf rfl rfl rfl (form_foldl_withComment ..) rfl
    split at hhandler
    · next hused => exact .inl hused
    · exact .inr hhandler
  · next handler hhandler =>
    obtain ⟨result, hremove, hattached⟩ := except_bind_eq_ok h
    have hremoval := removeDeclaration_eq_ok hremove
    cases hattached
    split at hhandler
    · cases hhandler
    · next hunused =>
      refine .moved (by simpa using hunused) hhandler hremoval rfl rfl ?_ (form_foldl_withComment ..) rfl
      cases hremoval with
      | erased hresult _ => rw [hresult]; rfl
      | trimmed _ _ _ _ hresult => rw [hresult]; rfl

end RouteMigration.Proofs
