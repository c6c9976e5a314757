import Mathlib.Logic.Relation
import RouteMigration.Proofs.ImportEdits

/-!
# Bindings through import edits

Where every local name is bound once, the edits of imports act on the bindings of a body: a removal takes
out the bindings of a name from legacy sources, and every other binding is carried over. A carried binding
is the same in all but its source, and a source changes only from legacy sources along their replacements.
-/

namespace RouteMigration.Proofs
open Syntax Route

variable (isLegacy : String → Bool) (remap : List (String × String))

/-- The second source is the first or replaces it in steps, each of them away from a legacy source. -/
def Moves : String → String → Prop :=
  Relation.ReflTransGen fun source target =>
    isLegacy source = true ∧ Settings.remap? remap source = some target

/-- The same binding, perhaps from a source that replaces the first. -/
structure Carried (old new : Binding) : Prop where
  clause : new.clause = old.clause
  typeOnly : new.typeOnly = old.typeOnly
  source : Moves isLegacy remap old.source new.source

/-- The bindings of one list are those of the other, each carried over once. -/
def Rebound : List Binding → List Binding → Prop :=
  Relation.Comp (List.Forall₂ (Carried isLegacy remap)) List.Perm

variable {isLegacy : String → Bool} {remap : List (String × String)}

lemma moves_of_not_legacy {source target : String} (h : Moves isLegacy remap source target)
    (hs : isLegacy source = false) : target = source := by
  induction h with
  | refl => rfl
  | tail _ hstep ih =>
    rw [ih, hs] at hstep
    exact absurd hstep.1 (by simp)

lemma Carried.refl (binding : Binding) : Carried isLegacy remap binding binding :=
  ⟨rfl, rfl, .refl⟩

lemma Carried.trans {a b c : Binding} (h : Carried isLegacy remap a b) (h' : Carried isLegacy remap b c) :
    Carried isLegacy remap a c :=
  ⟨h'.clause.trans h.clause, h'.typeOnly.trans h.typeOnly, h.source.trans h'.source⟩

lemma Carried.localName {a b : Binding} (h : Carried isLegacy remap a b) : b.localName = a.localName := by
  rw [Binding.localName, h.clause, Binding.localName]

namespace Rebound
variable {bs cs ds es : List Binding}

lemma of_perm (h : bs.Perm cs) : Rebound isLegacy remap bs cs :=
  ⟨bs, List.forall₂_same.mpr fun b _ => .refl b, h⟩

lemma perm_left (h : bs.Perm cs) (h' : Rebound isLegacy remap cs ds) : Rebound isLegacy remap bs ds := by
  obtain ⟨l, hl, hp⟩ := h'
  obtain ⟨m, hm, hml⟩ := List.perm_comp_forall₂ h hl
  exact ⟨m, hm, hml.trans hp⟩

lemma perm_right (h : Rebound isLegacy remap bs cs) (h' : cs.Perm ds) : Rebound isLegacy remap bs ds := by
  obtain ⟨l, hl, hp⟩ := h
  exact ⟨l, hl, hp.trans h'⟩

lemma trans (h : Rebound isLegacy remap bs cs) (h' : Rebound isLegacy remap cs ds) :
    Rebound isLegacy remap bs ds := by
  obtain ⟨l, hl, hp⟩ := h
  obtain ⟨m, hm, hmd⟩ := h'.perm_left hp
  refine ⟨m, ?_, hmd⟩
  clear hp hmd
  induction hl generalizing m with
  | nil => exact hm
  | cons hab _ ih =>
    cases hm with
    | cons hbc hrest => exact .cons (hab.trans hbc) (ih _ hrest)

lemma append (h : Rebound isLegacy remap bs cs) (h' : Rebound isLegacy remap ds es) :
    Rebound isLegacy remap (bs ++ ds) (cs ++ es) := by
  obtain ⟨l, hl, hp⟩ := h
  obtain ⟨m, hm, hmp⟩ := h'
  exact ⟨l ++ m, List.rel_append hl hm, hp.append hmp⟩

lemma localNames (h : Rebound isLegacy remap bs cs) : (localNames bs).Perm (localNames cs) := by
  obtain ⟨l, hl, hp⟩ := h
  have hnames : Proofs.localNames l = Proofs.localNames bs := by
    clear hp
    induction hl with
    | nil => rfl
    | cons hab _ ih => simpa [Proofs.localNames, hab.localName] using ih
  exact hnames ▸ hp.map Binding.localName

lemma carried (h : Rebound isLegacy remap bs cs) {b : Binding} (hb : b ∈ bs) :
    ∃ c ∈ cs, Carried isLegacy remap b c := by
  obtain ⟨l, hl, hp⟩ := h
  induction hl generalizing cs with
  | nil => simp at hb
  | @cons b' c' bs l hbc _ ih =>
    rcases List.mem_cons.mp hb with rfl | hb
    · exact ⟨c', hp.subset (by simp), hbc⟩
    · obtain ⟨c, hc, hcarried⟩ := ih hb (List.Perm.refl _)
      exact ⟨c, hp.subset (by simp [hc]), hcarried⟩

lemma origin (h : Rebound isLegacy remap bs cs) {c : Binding} (hc : c ∈ cs) :
    ∃ b ∈ bs, Carried isLegacy remap b c := by
  obtain ⟨l, hl, hp⟩ := h
  have hcl := hp.symm.subset hc
  clear hp hc
  induction hl with
  | nil => simp at hcl
  | @cons b' c' bs l hbc _ ih =>
    rcases List.mem_cons.mp hcl with rfl | hcl
    · exact ⟨b', by simp, hbc⟩
    · obtain ⟨b, hb, hcarried⟩ := ih hcl
      exact ⟨b, by simp [hb], hcarried⟩

/-- An import whose source is replaced. -/
lemma moved (form : ImportForm) {source : String} (h : Moves isLegacy remap form.source source) :
    Rebound isLegacy remap (bindingsOf form) (bindingsOf { form with source }) := by
  refine ⟨bindingsOf { form with source }, ?_, .refl _⟩
  simp only [bindingsOf, clausesOf]
  rw [List.forall₂_map_left_iff, List.forall₂_map_right_iff, List.forall₂_same]
  exact fun clause _ => ⟨rfl, rfl, h⟩

end Rebound

/-! ### Removing a name -/

lemma statements_places (body : List Node) : statements (places body) = body := by
  simp [statements, places, List.filterMap_map]

lemma placeBindings_unbindAt {name : String} {places : Places} {index : Nat} {form : ImportForm}
    (h : importAt? places index = some form) (hd : (localNames (placeBindings places)).Nodup) :
    (placeBindings (unbindAt remap name places index form)).Perm
      (bindingsOf { unbind name form with source := (Settings.remap? remap form.source).getD form.source }
        ++ placeBindings (places.set index none)) := by
  unfold unbindAt
  split
  · next hempty => rw [bindingsOf_of_isEmpty (by simpa [ImportForm.isEmpty] using hempty), List.nil_append]
  · have hset : importAt? (setImport places index (unbind name form)) index = some (unbind name form) := by
      rw [importAt?_setImport h, if_pos rfl]
    have hperm := placeBindings_setImport h (unbind name form)
    have hnone : (setImport places index (unbind name form)).set index none = places.set index none := by
      obtain ⟨node, -, -, hsetImport⟩ := importAt?_eq_some h
      rw [hsetImport, List.set_set]
    have hsub : (localNames (bindingsOf (unbind name form) ++ placeBindings (places.set index none))).Nodup := by
      have hfull := ((placeBindings_importAt? h).map Binding.localName).nodup_iff.mp hd
      refine hfull.sublist (List.Sublist.map _ (List.Sublist.append_right ?_ _))
      rw [bindingsOf_unbind]
      exact List.filter_sublist
    have hdistinct := ((hperm.map Binding.localName).nodup_iff).mpr hsub
    have hsource : (unbind name form).source = form.source := rfl
    unfold remapAt
    rw [hsource]
    cases hr : Settings.remap? remap form.source with
    | none => exact hperm
    | some source =>
      have hmove := placeBindings_moveTo hset hdistinct source
      rwa [hnone] at hmove

/-- A removed name is bound nowhere. -/
lemma not_mem_unbindAt {name : String} {places : Places} {index : Nat} {form : ImportForm}
    (h : importAt? places index = some form) (hd : (localNames (placeBindings places)).Nodup)
    (hname : name ∈ localNames (bindingsOf form)) :
    name ∉ localNames (placeBindings (unbindAt remap name places index form)) := by
  intro hmem
  obtain ⟨b, hb, rfl⟩ := List.mem_map.mp hmem
  rcases List.mem_append.mp ((placeBindings_unbindAt h hd).subset hb) with hb | hb
  · have hclause := (mem_bindingsOf.mp hb).2.2
    have hlocal : b.localName ∈ localNames (bindingsOf (unbind b.localName form)) := by
      rw [localNames_bindingsOf]
      exact List.mem_map_of_mem hclause
    rw [bindingsOf_unbind] at hlocal
    obtain ⟨c, hc, hcname⟩ := List.mem_map.mp hlocal
    simp [hcname] at hc
  · have hn := ((placeBindings_importAt? h).map Binding.localName).nodup_iff.mp hd
    rw [List.map_append, List.nodup_append] at hn
    exact hn.2.2 _ hname _ (List.mem_map_of_mem hb) rfl

/-- The import at a place is a legacy one that binds the name. -/
structure BindsAt (isLegacy : String → Bool) (name : String) (places : Places) (index : Nat) (form : ImportForm) :
    Prop where
  found : importAt? places index = some form
  legacy : isLegacy form.source = true
  name : name ∈ localNames (bindingsOf form)

/-- What a removal has come to in front of a place: it has met the name nowhere, or taken it out of one import. -/
inductive Unbound (isLegacy : String → Bool) (remap : List (String × String)) (name : String) (places : Places)
    (visited : Nat) : Places → Nat → Prop where
  | unmet : (∀ index form, index < visited → ¬ BindsAt isLegacy name places index form) →
      Unbound isLegacy remap name places visited places 0
  | taken {index : Nat} {form : ImportForm} : BindsAt isLegacy name places index form →
      Unbound isLegacy remap name places visited (unbindAt remap name places index form) 1

lemma Unbound.skip {name : String} {places edited : Places} {visited count : Nat}
    (h : Unbound isLegacy remap name places visited edited count)
    (hskip : (importAt? edited visited).bind (removal isLegacy remap name edited visited) = none) :
    Unbound isLegacy remap name places (visited + 1) edited count := by
  cases h with
  | unmet hnone =>
    refine .unmet fun index form hlt hbinds => ?_
    rcases Nat.lt_succ_iff_lt_or_eq.mp hlt with hlt | rfl
    · exact hnone index form hlt hbinds
    · have hne : unbind name form ≠ form := fun h => unbind_eq_self_iff.mp h hbinds.name
      simp [hbinds.found, removal, hbinds.legacy, hne] at hskip
  | taken hbinds => exact .taken hbinds

lemma Unbound.step {name : String} {places edited next : Places} {visited count : Nat}
    (hd : (localNames (placeBindings places)).Nodup) (h : Unbound isLegacy remap name places visited edited count)
    (hstep : (importAt? edited visited).bind (removal isLegacy remap name edited visited) = some next) :
    Unbound isLegacy remap name places (visited + 1) next (count + 1) := by
  obtain ⟨form, hform, hedit⟩ := Option.bind_eq_some_iff.mp hstep
  obtain ⟨hlegacy, hchanges, rfl⟩ := removal_eq_some.mp hedit
  have hname : name ∈ localNames (bindingsOf form) := by
    by_contra hnot
    exact hchanges (unbind_eq_self_iff.mpr hnot)
  cases h with
  | unmet _ => exact .taken ⟨hform, hlegacy, hname⟩
  | taken hbinds =>
    -- the name is gone, so that no later place can lose it
    obtain ⟨b, hb, hb'⟩ := List.mem_map.mp hname
    exact absurd (List.mem_map.mpr ⟨b, mem_placeBindings_of_importAt? hform hb, hb'⟩)
      (not_mem_unbindAt hbinds.found hd hbinds.name)

/-- A removal finds the name in no legacy import, or in one and changes its place alone. -/
theorem removeImport_cases {body : List Node} (hd : (localNames (importBindings body)).Nodup)
    (name : String) :
    (removeImport isLegacy remap name body = (body, false) ∧
      ∀ b ∈ importBindings body, isLegacy b.source = true → b.localName ≠ name) ∨
    ∃ index form, importAt? (places body) index = some form ∧ isLegacy form.source = true ∧
      name ∈ localNames (bindingsOf form) ∧
      removeImport isLegacy remap name body =
        (statements (unbindAt remap name (places body) index form), true) := by
  have hplaces : (localNames (placeBindings (places body))).Nodup := by rwa [placeBindings_places]
  obtain ⟨edited, count, hrun, hunbound⟩ := editImports_run (removal isLegacy remap name) body
    (Unbound isLegacy remap name (places body)) (.unmet fun _ _ hlt => absurd hlt (Nat.not_lt_zero _))
    (fun _ _ _ h hskip => h.skip hskip) (fun _ _ _ _ h hstep => h.step hplaces hstep)
  cases hunbound with
  | unmet hnone =>
    refine .inl ⟨by rw [removeImport_eq, hrun, statements_places]; rfl, fun b hb hlegacy hname => ?_⟩
    obtain ⟨statement, hstatement, form, himport, hb⟩ := mem_importBindings.mp hb
    obtain ⟨index, hindex, rfl⟩ := List.mem_iff_getElem.mp hstatement
    refine hnone index form hindex ⟨?_, (mem_bindingsOf.mp hb).1 ▸ hlegacy, List.mem_map.mpr ⟨b, hb, hname⟩⟩
    simp [importAt?, places, hindex, himport]
  | @taken index form hbinds =>
    exact .inr ⟨index, form, hbinds.found, hbinds.legacy, hbinds.name, by rw [removeImport_eq, hrun]; rfl⟩

/-- The bindings that a removal of the name takes out. -/
def isRemoved (isLegacy : String → Bool) (name : String) (binding : Binding) : Bool :=
  isLegacy binding.source && decide (binding.localName = name)

/-- A removal takes out the bindings of the name from legacy sources and carries all others over. -/
theorem removeImport_rebound {body : List Node} (hd : (localNames (importBindings body)).Nodup)
    (name : String) : Rebound isLegacy remap
      ((importBindings body).filter fun b => !isRemoved isLegacy name b)
      (importBindings (removeImport isLegacy remap name body).1) := by
  rcases @removeImport_cases isLegacy remap _ hd name with
    ⟨hbody, hnone⟩ | ⟨index, form, himport, hlegacy, hname, hbody⟩
  · rw [hbody, List.filter_eq_self.mpr fun b hb => ?_]
    · exact .of_perm (.refl _)
    · by_cases hl : isLegacy b.source = true
      · simp [isRemoved, hnone b hb hl]
      · simp [isRemoved, hl]
  · have hplaces : (localNames (placeBindings (places body))).Nodup := by rwa [placeBindings_places]
    have hsplit := placeBindings_importAt? himport
    rw [placeBindings_places] at hsplit
    have hn := (hsplit.map Binding.localName).nodup_iff.mp hd
    rw [List.map_append, List.nodup_append] at hn
    have hform : (bindingsOf form).filter (fun b => !isRemoved isLegacy name b) =
        bindingsOf (unbind name form) := by
      rw [bindingsOf_unbind]
      refine List.filter_congr fun b hb => ?_
      simp [isRemoved, (mem_bindingsOf.mp hb).1, hlegacy]
    have hrest : (placeBindings ((places body).set index none)).filter
        (fun b => !isRemoved isLegacy name b) = placeBindings ((places body).set index none) := by
      rw [List.filter_eq_self]
      intro b hb
      have hne : b.localName ≠ name := fun h => hn.2.2 name hname _ (List.mem_map_of_mem hb) h.symm
      simp [isRemoved, hne]
    have hfilter := hsplit.filter fun b => !isRemoved isLegacy name b
    rw [List.filter_append, hform, hrest] at hfilter
    rw [hbody, importBindings_statements]
    refine (Rebound.perm_left hfilter ?_).perm_right (placeBindings_unbindAt himport hplaces).symm
    refine (Rebound.moved (unbind name form) ?_).append (.of_perm (.refl _))
    cases hr : Settings.remap? remap form.source with
    | none => exact .refl
    | some source => exact Relation.ReflTransGen.single ⟨hlegacy, hr⟩

lemma removeImport_nodup {body : List Node} (hd : (localNames (importBindings body)).Nodup)
    (name : String) : (localNames (importBindings (removeImport isLegacy remap name body).1)).Nodup := by
  have hperm := (@removeImport_rebound isLegacy remap _ hd name).localNames
  exact hperm.nodup_iff.mp (hd.sublist (List.filter_sublist.map _))

/-- Removes names one after the other. -/
def removeAll (isLegacy : String → Bool) (remap : List (String × String)) (names : List String)
    (body : List Node) : List Node :=
  names.foldl (fun body name => (removeImport isLegacy remap name body).1) body

lemma removeAll_edited (names : List String) (body : List Node) :
    Edited ImportEdit body (removeAll isLegacy remap names body) := by
  induction names generalizing body with
  | nil => exact edited_refl body fun statement _ => importEdit_self statement
  | cons name names ih =>
    exact importEdited_trans (removeImport_edited isLegacy remap name body) (ih _)

lemma removeAll_nodup {body : List Node} (hd : (localNames (importBindings body)).Nodup)
    (names : List String) : (localNames (importBindings (removeAll isLegacy remap names body))).Nodup := by
  induction names generalizing body with
  | nil => exact hd
  | cons name names ih => exact ih (removeImport_nodup hd name)

/-- What is left after removals was carried over. -/
lemma removeAll_origin {body : List Node} (hd : (localNames (importBindings body)).Nodup)
    {names : List String} {c : Binding} (hc : c ∈ importBindings (removeAll isLegacy remap names body)) :
    ∃ b ∈ importBindings body, Carried isLegacy remap b c := by
  induction names generalizing body with
  | nil => exact ⟨c, hc, .refl c⟩
  | cons name names ih =>
    obtain ⟨b, hb, hbc⟩ := ih (removeImport_nodup hd name) hc
    obtain ⟨a, ha, hab⟩ := (removeImport_rebound hd name).origin hb
    exact ⟨a, (List.mem_filter.mp ha).1, hab.trans hbc⟩

/-- Removals carry over the bindings of other names and of other than legacy sources. -/
lemma removeAll_carried {body : List Node} (hd : (localNames (importBindings body)).Nodup)
    {names : List String} {b : Binding} (hb : b ∈ importBindings body)
    (hkeep : isLegacy b.source = false ∨ b.localName ∉ names) :
    ∃ c ∈ importBindings (removeAll isLegacy remap names body), Carried isLegacy remap b c := by
  induction names generalizing body b with
  | nil => exact ⟨b, hb, .refl b⟩
  | cons name names ih =>
    have hstay : b ∈ (importBindings body).filter fun b => !isRemoved isLegacy name b := by
      rw [List.mem_filter]
      refine ⟨hb, ?_⟩
      rcases hkeep with hsource | hname
      · simp [isRemoved, hsource]
      · have hne : b.localName ≠ name := fun h => hname (by simp [h])
        simp [isRemoved, hne]
    obtain ⟨c, hc, hbc⟩ := (@removeImport_rebound isLegacy remap _ hd name).carried hstay
    have hkeep' : isLegacy c.source = false ∨ c.localName ∉ names := by
      refine hkeep.imp (fun h => ?_) (fun h hc => h ?_)
      · rw [moves_of_not_legacy hbc.source h, h]
      · rw [hbc.localName] at hc
        simp [hc]
    obtain ⟨d, hd', hcd⟩ := ih (removeImport_nodup hd name) hc hkeep'
    exact ⟨d, hd', hbc.trans hcd⟩

/-! ### Moving the rest -/

/-- The move of a legacy import to its replacement carries every binding over. -/
lemma Rebound.moveTo {bindings : List Binding} {places : Places} {index : Nat} {form : ImportForm} {source : String}
    (h : Rebound isLegacy remap bindings (placeBindings places)) (hd : (Proofs.localNames bindings).Nodup)
    (himport : importAt? places index = some form) (hlegacy : isLegacy form.source = true)
    (hsource : Settings.remap? remap form.source = some source) :
    Rebound isLegacy remap bindings (placeBindings (Route.moveTo places index form source)) := by
  have hplaces := h.localNames.nodup_iff.mp hd
  refine h.trans (Rebound.perm_left (placeBindings_importAt? himport) ?_)
  refine Rebound.perm_right ?_ (placeBindings_moveTo himport hplaces source).symm
  exact (Rebound.moved form (.single ⟨hlegacy, hsource⟩)).append (.of_perm (.refl _))

/-- The moves of all legacy imports to their replacements carry every binding over. -/
theorem remapSources_rebound {body : List Node} (hd : (localNames (importBindings body)).Nodup) :
    Rebound isLegacy remap (importBindings body)
      (importBindings (remapSources isLegacy remap body).1) := by
  have hstart : Rebound isLegacy remap (importBindings body) (placeBindings (places body)) := by
    rw [placeBindings_places]
    exact .of_perm (.refl _)
  obtain ⟨edited, hrun, hedited⟩ := editImports_invariant body hstart
    fun places index form edited (h : Rebound isLegacy remap (importBindings body) (placeBindings places)) hform
        hedit => by
      obtain ⟨hlegacy, source, hsource, rfl⟩ := remapping_eq_some.mp hedit
      exact h.moveTo hd hform hlegacy hsource
  rw [remapSources_eq, hrun, importBindings_statements]
  exact hedited

end RouteMigration.Proofs
