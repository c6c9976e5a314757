import RouteMigration.Proofs.Migrations
import RouteMigration.Proofs.StatementNames

/-!
# Handlers that still stand

A handler stands in a draft while the statement that declares it, if it is there, declares it where the
removals so far put it. Then the removal of its declaration takes one name away, that of the handler. The
attachment of another handler leaves it standing, unless both are the same variable of one statement.
-/

namespace RouteMigration.Proofs
open Syntax Route

/-- A declaration gives the name to a function, or to the declarator in the place of a variable. -/
inductive StandsAt (localName : String) (place : Nat → Nat) : Shape → Form Node → Prop where
  | function {form : FunctionForm Node} : form.name = some localName →
      StandsAt localName place .function (.functionDeclaration form)
  | declarator {kind : String} {declarators : List Node} {index : Nat} {declarator : Node} :
      declarators[place index]? = some declarator → NamedDeclarator localName declarator →
      StandsAt localName place (.variable index) (.variableDeclaration kind declarators)

def Standing (draft : Draft) (located : Located) : Prop :=
  ∀ entry ∈ draft.entries, entry.origin = .statement located.statement →
    ∃ form, declared? entry.node = some form ∧
      StandsAt located.localName (placeLeft draft located) located.shape form

section StandsAt

variable {localName : String} {place : Nat → Nat} {shape : Shape} {form : Form Node}

lemma DeclaredBy.standsAt {located : Located} (h : DeclaredBy located form) (hplace : ∀ index, place index = index) :
    StandsAt located.localName place located.shape form := by
  rcases h with ⟨hshape, -, hname, -, -⟩ | ⟨hshape, hget, hform, hname, -⟩
  · rw [hshape]
    exact .function hname
  · rw [hshape]
    exact .declarator (by rw [hplace, hget]) ⟨_, _, _, hform, hname⟩

lemma StandsAt.isValueDeclaration (h : StandsAt localName place shape form) : isValueDeclaration form = true := by
  cases h <;> rfl

/-- Without its declarator, a statement declares everything but the handler. -/
lemma StandsAt.mem_trimmed {index : Nat} (h : StandsAt localName place (.variable index) form) {name : String}
    (hname : name ∈ (Node.make form).boundByDeclaration) :
    name = localName ∨ name ∈ (Node.make (trimmed (place index) form)).boundByDeclaration := by
  cases h with
  | declarator hget hnamed => exact Proofs.mem_trimmed hget hnamed hname

/-- A statement that declares no more than one variable declares the handler alone. -/
lemma StandsAt.eq_localName (h : StandsAt localName place shape form)
    (hcount : ∀ kind declarators, form = .variableDeclaration kind declarators → declarators.length ≤ 1)
    {name : String} (hname : name ∈ (Node.make form).boundByDeclaration) : name = localName := by
  cases h with
  | @function form hform =>
    have hgiven : (given form.name) = some name := Option.mem_toList.mp hname
    have hsome := (Option.filter_eq_some_iff.mp hgiven).1
    exact Option.some.inj (hsome.symm.trans hform)
  | @declarator kind declarators index declarator hget hnamed =>
    have hlt := (List.getElem?_eq_some_iff.mp hget).1
    have hlength := hcount kind declarators rfl
    have hnil : declarators.eraseIdx (place index) = [] := by
      rw [← List.length_eq_zero_iff, List.length_eraseIdx_of_lt hlt]
      omega
    refine (Proofs.mem_trimmed hget hnamed hname).resolve_right fun hmem => ?_
    rw [trimmed, hnil] at hmem
    cases hmem

lemma declaratorCount_of_declared {statement : Node} {declarators : List Node} {keyword : String}
    (h : declared? statement = some (.variableDeclaration keyword declarators)) :
    Draft.declaratorCount statement = declarators.length := by
  unfold declared? at h
  rw [Draft.declaratorCount, h]

/-- A statement that has no more than one declarator declares the handler alone. -/
lemma StandsAt.eq_localName_of_count {statement : Node} (h : StandsAt localName place shape form)
    (hform : declared? statement = some form)
    (hcount : ∀ index, shape = .variable index → Draft.declaratorCount statement ≤ 1) {name : String}
    (hname : name ∈ (Node.make form).boundByDeclaration) : name = localName := by
  refine h.eq_localName ?_ hname
  rintro keyword declarators rfl
  rw [← declaratorCount_of_declared hform]
  cases h with
  | declarator _ _ => exact hcount _ rfl

end StandsAt

lemma placeLeft_of_removed_nil {draft : Draft} (h : draft.removed = []) (located : Located) (index : Nat) :
    placeLeft draft located index = index := by
  rw [placeLeft, h]
  rfl

lemma standing_of_declaredBy {draft : Draft} {located : Located} {form : Form Node} (hremoved : draft.removed = [])
    (hby : DeclaredBy located form)
    (hentries : ∀ entry ∈ draft.entries, entry.origin = .statement located.statement →
      declared? entry.node = some form) : Standing draft located := by
  intro entry hentry horigin
  exact ⟨form, hentries entry hentry horigin, hby.standsAt fun index => placeLeft_of_removed_nil hremoved located index⟩

/-- A handler stands when the entries for its statement declare the same, and as many declarators are gone. -/
lemma Standing.congr {draft draft' : Draft} {located : Located} (h : Standing draft located)
    (hplace : placeLeft draft' located = placeLeft draft located)
    (hentries : ∀ entry' ∈ draft'.entries, entry'.origin = .statement located.statement →
      ∃ entry ∈ draft.entries, entry.origin = .statement located.statement ∧
        declared? entry'.node = declared? entry.node) : Standing draft' located := by
  intro entry' hentry' horigin'
  obtain ⟨entry, hentry, horigin, hsame⟩ := hentries entry' hentry' horigin'
  obtain ⟨form, hform, hstands⟩ := h entry hentry horigin
  rw [hplace]
  exact ⟨form, hsame.trans hform, hstands⟩

/-! ### Attaching another handler -/

section Attachment

variable {settings : Settings} {kind : Kind} {draft : Draft} {key : String} {located other : Located}
  {attached : Attached}

lemma mem_modify_unlisted {f : Node → Node} {entry' : Entry}
    (h : entry' ∈ ((draft.mapNodes (unlist [located.name])).modify (.statement located.statement) f).entries) :
    ∃ entry ∈ draft.entries, entry'.origin = entry.origin ∧
      ((entry.origin = .statement located.statement ∧ entry'.node = f (unlist [located.name] entry.node)) ∨
        (entry.origin ≠ .statement located.statement ∧ entry'.node = unlist [located.name] entry.node)) := by
  rw [entries_modify, entries_mapNodes, List.map_map] at h
  obtain ⟨entry, hentry, rfl⟩ := List.mem_map.mp h
  refine ⟨entry, hentry, ?_⟩
  by_cases horigin : entry.origin = .statement located.statement
  · rw [Function.comp_apply, if_pos (show (reworked (unlist [located.name]) entry).origin = _ from horigin)]
    exact ⟨rfl, .inl ⟨horigin, rfl⟩⟩
  · rw [Function.comp_apply, if_neg (show ¬ (reworked (unlist [located.name]) entry).origin = _ from horigin)]
    exact ⟨rfl, .inr ⟨horigin, rfl⟩⟩

lemma mem_erase_unlisted {entry' : Entry}
    (h : entry' ∈ ((draft.mapNodes (unlist [located.name])).erase (.statement located.statement)).entries) :
    ∃ entry ∈ draft.entries, entry'.origin = entry.origin ∧ entry.origin ≠ .statement located.statement ∧
      entry'.node = unlist [located.name] entry.node := by
  rw [Draft.erase, entries_mapNodes] at h
  obtain ⟨hmem, horigin⟩ := List.mem_filter.mp h
  obtain ⟨entry, hentry, rfl⟩ := List.mem_map.mp hmem
  exact ⟨entry, hentry, rfl, of_decide_eq_true horigin, rfl⟩

/-- The place of a declarator when one declarator has been taken out first. -/
lemma placeLeft_of_removed_singleton {draft' : Draft} {statement i : Nat} (hremoved : draft'.removed = [(statement, i)])
    (other : Located) (j : Nat) :
    placeLeft draft' other j = if statement = other.statement ∧ i < j then j - 1 else j := by
  rw [placeLeft, hremoved]
  by_cases hbefore : statement = other.statement ∧ i < j <;> simp [hbefore]

lemma getElem?_eraseIdx_placeLeft {draft' : Draft} {i j : Nat} (hne : i ≠ j) (declarators : List Node)
    (hremoved : draft'.removed = [(other.statement, i)]) :
    (declarators.eraseIdx i)[placeLeft draft' other j]? = declarators[j]? := by
  have hplace : placeLeft draft' other j = if i < j then j - 1 else j := by
    simp [placeLeft_of_removed_singleton hremoved]
  rw [hplace, List.getElem?_eraseIdx]
  by_cases hlt : i < j
  · rw [if_pos hlt, if_neg (by omega), Nat.sub_add_cancel (by omega)]
  · rw [if_neg hlt, if_pos (by omega)]

/-- An attachment changes the declaration of no statement, or it takes the declarator of the handler out. -/
lemma Attachment.declared?_cases (h : Attachment settings kind draft key located attached)
    (hvalues : ∀ entry ∈ draft.entries, HoldsValues [.statement located.statement] entry) :
    (attached.draft.removed = draft.removed ∧ ∀ entry' ∈ attached.draft.entries, ∃ entry ∈ draft.entries,
      entry'.origin = entry.origin ∧ declared? entry'.node = declared? entry.node) ∨
    ∃ index, located.shape = .variable index ∧
      attached.draft.removed = (located.statement, index) :: draft.removed ∧
      ∀ entry' ∈ attached.draft.entries, ∃ entry ∈ draft.entries, entry'.origin = entry.origin ∧
        ((entry.origin = .statement located.statement ∧
          declared? entry'.node = (declared? entry.node).map (trimmed (placeLeft draft located index))) ∨
        (entry.origin ≠ .statement located.statement ∧ declared? entry'.node = declared? entry.node)) := by
  cases h with
  | kept _ hf hentries hsame _ _ _ =>
    refine .inl ⟨hsame, fun entry' hentry' => ?_⟩
    rw [hentries] at hentry'
    obtain ⟨entry, hentry, horigin, ⟨hown, hnode⟩ | ⟨-, hnode⟩⟩ := mem_modify_unlisted hentry'
    · refine ⟨entry, hentry, horigin, ?_⟩
      rw [hnode]
      rcases hf.eq with rfl | rfl
      · exact declared?_unlist ..
      · have hunlisted := (hvalues entry hentry).unlisted hown [located.name]
        rw [(declaresValues_withoutExport hunlisted).2, declared?_unlist]
    · exact ⟨entry, hentry, horigin, by rw [hnode, declared?_unlist]⟩
  | moved _ _ hremoval hentries hsame _ _ _ =>
    cases hremoval with
    | erased hresult _ =>
      refine .inl ⟨by rw [hsame, hresult]; rfl, fun entry' hentry' => ?_⟩
      rw [hentries, hresult] at hentry'
      obtain ⟨entry, hentry, horigin, -, hnode⟩ := mem_erase_unlisted hentry'
      exact ⟨entry, hentry, horigin, by rw [hnode, declared?_unlist]⟩
    | @trimmed index _ hshape _ _ _ hresult =>
      refine .inr ⟨index, hshape, by rw [hsame, hresult]; rfl, fun entry' hentry' => ?_⟩
      rw [hentries, hresult] at hentry'
      obtain ⟨entry, hentry, horigin, ⟨hown, hnode⟩ | ⟨hother, hnode⟩⟩ := mem_modify_unlisted hentry'
      · refine ⟨entry, hentry, horigin, .inl ⟨hown, ?_⟩⟩
        rw [hnode, declared?_eraseDeclarator, declared?_unlist]
        rfl
      · exact ⟨entry, hentry, horigin, .inr ⟨hother, by rw [hnode, declared?_unlist]⟩⟩

/-- The first attachment leaves another handler standing, unless both are the same variable. -/
theorem Attachment.standing (h : Attachment settings kind draft key located attached) (hremoved : draft.removed = [])
    (hvalues : ∀ entry ∈ draft.entries, HoldsValues [.statement located.statement] entry)
    (hother : Standing draft other) :
    Standing attached.draft other ∨ (other.statement = located.statement ∧ other.shape = located.shape) := by
  rcases h.declared?_cases hvalues with ⟨hsame, hentries⟩ | ⟨i, hshape, hremoved', hentries⟩
  · have hplace : placeLeft attached.draft other = placeLeft draft other := by
      funext index
      rw [placeLeft, placeLeft, hsame]
    refine .inl (hother.congr hplace fun entry' hentry' horigin' => ?_)
    obtain ⟨entry, hentry, horigin, hdeclared⟩ := hentries entry' hentry'
    exact ⟨entry, hentry, horigin ▸ horigin', hdeclared⟩
  · rw [hremoved] at hremoved'
    by_cases hstatement : other.statement = located.statement
    · by_cases hshapes : other.shape = located.shape
      · exact .inr ⟨hstatement, hshapes⟩
      · refine .inl fun entry' hentry' horigin' => ?_
        obtain ⟨entry, hentry, horigin, hcases⟩ := hentries entry' hentry'
        rw [horigin] at horigin'
        have hdeclared := (hcases.resolve_right fun hne => hne.1 (hstatement ▸ horigin')).2
        obtain ⟨form, hform, hstands⟩ := hother entry hentry horigin'
        rw [placeLeft_of_removed_nil hremoved, hform] at hdeclared
        refine ⟨trimmed i form, hdeclared, ?_⟩
        generalize hkind : other.shape = shape at hstands hshapes
        cases hstands with
        | function hname => exact .function hname
        | @declarator _ _ j _ hget hnamed =>
          -- the two declarators differ, so that the other one is still there
          rw [placeLeft_of_removed_nil hremoved] at hget
          have hne : i ≠ j := fun heq => hshapes (by rw [hshape, heq])
          refine .declarator ?_ hnamed
          rw [getElem?_eraseIdx_placeLeft hne _ (by rw [hremoved', hstatement]), hget]
    · have hplace : placeLeft attached.draft other = placeLeft draft other := by
        funext index
        rw [placeLeft, placeLeft, hremoved', hremoved]
        simp [Ne.symm hstatement]
      refine .inl (hother.congr hplace fun entry' hentry' horigin' => ?_)
      obtain ⟨entry, hentry, horigin, hcases⟩ := hentries entry' hentry'
      rw [horigin] at horigin'
      have hne : entry.origin ≠ .statement located.statement := by
        rw [horigin']
        exact fun hsame => hstatement (Origin.statement.inj hsame)
      exact ⟨entry, hentry, horigin', (hcases.resolve_left fun hown => hne hown.1).2⟩

end Attachment

end RouteMigration.Proofs
