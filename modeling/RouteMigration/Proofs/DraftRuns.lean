import RouteMigration.Proofs.Attachments
import RouteMigration.Route.Migrated

/-!
# Runs of attachments

The handlers of a module are attached one after the other. An attachment edits the entries of the draft:
all of them lose the export of the handler's name, and the entry of the handler may be reworked or go. What
such an edit keeps is kept by every run.
-/

namespace RouteMigration.Proofs
open Syntax Route

/-- What an attachment makes of an entry. -/
inductive AttachStep (located : Located) (entry : Entry) : Option Entry → Prop where
  | unlisted : AttachStep located entry (some (reworked (unlist [located.name]) entry))
  | own {f : Node → Node} : entry.origin = .statement located.statement →
      (f = withoutExport ∨ ∃ index, f = Draft.eraseDeclarator index) →
      AttachStep located entry (some (reworked f (reworked (unlist [located.name]) entry)))
  | gone : entry.origin = .statement located.statement → AttachStep located entry none

lemma edited_unlisted_modify (draft : Draft) (located : Located) {f : Node → Node}
    (hf : f = id ∨ f = withoutExport ∨ ∃ index, f = Draft.eraseDeclarator index) :
    Edited (AttachStep located) draft.entries
      ((draft.mapNodes (unlist [located.name])).modify (.statement located.statement) f).entries := by
  rw [entries_modify, entries_mapNodes, List.map_map]
  refine edited_map _ _ fun entry _ => ?_
  by_cases horigin : entry.origin = .statement located.statement
  · have hstep : ((fun entry => if entry.origin = Origin.statement located.statement then reworked f entry
        else entry) ∘ reworked (unlist [located.name])) entry =
        reworked f (reworked (unlist [located.name]) entry) := if_pos horigin
    rw [hstep]
    rcases hf with rfl | hf
    · exact .unlisted
    · exact .own horigin hf
  · have hstep : ((fun entry => if entry.origin = Origin.statement located.statement then reworked f entry
        else entry) ∘ reworked (unlist [located.name])) entry =
        reworked (unlist [located.name]) entry := if_neg horigin
    rw [hstep]
    exact .unlisted

/-- An attachment changes the statement of its handler and the lists of exports, and nothing else. -/
theorem Attachment.edited {settings : Settings} {kind : Kind} {draft : Draft} {key : String}
    {located : Located} {attached : Attached} (h : Attachment settings kind draft key located attached) :
    Edited (AttachStep located) draft.entries attached.draft.entries := by
  cases h with
  | kept _ hf hentries _ _ _ _ =>
    rw [hentries]
    exact edited_unlisted_modify draft located (hf.eq.imp_right .inl)
  | moved _ _ hremoval hentries _ _ _ _ =>
    rw [hentries]
    cases hremoval with
    | erased hresult _ =>
      rw [hresult, Draft.erase, entries_mapNodes, ← List.filterMap_eq_map, List.filter_filterMap]
      refine edited_filterMap _ _ fun entry _ => ?_
      by_cases horigin : entry.origin = .statement located.statement
      · have hgone : Option.filter (fun e => decide (e.origin ≠ Origin.statement located.statement))
            ((some ∘ reworked (unlist [located.name])) entry) = none := by
          simp [reworked, horigin]
        rw [hgone]
        exact .gone horigin
      · have hstays : Option.filter (fun e => decide (e.origin ≠ Origin.statement located.statement))
            ((some ∘ reworked (unlist [located.name])) entry) =
              some (reworked (unlist [located.name]) entry) := by
          simp [reworked, horigin]
        rw [hstays]
        exact .unlisted
    | trimmed _ _ _ _ hresult =>
      rw [hresult]
      exact edited_unlisted_modify draft located (.inr (.inr ⟨_, rfl⟩))

lemma AttachStep.origin {located : Located} {entry entry' : Entry}
    (h : AttachStep located entry (some entry')) : entry'.origin = entry.origin := by
  cases h <;> rfl

/-- An attachment does no more to the entries of other statements than take the name out of their lists. -/
lemma Attachment.mem_unlisted {settings : Settings} {kind : Kind} {draft : Draft} {key : String}
    {located : Located} {attached : Attached} (h : Attachment settings kind draft key located attached) {entry : Entry}
    (hentry : entry ∈ draft.entries) (hother : entry.origin ≠ .statement located.statement) :
    reworked (unlist [located.name]) entry ∈ attached.draft.entries := by
  rcases h.edited.fate hentry with hgone | ⟨entry', hentry', hstep⟩
  · cases hgone with
    | gone horigin => exact absurd horigin hother
  · cases hstep with
    | unlisted => exact hentry'
    | own horigin _ => exact absurd horigin hother

lemma Attachment.distinct {settings : Settings} {kind : Kind} {draft : Draft} {key : String}
    {located : Located} {attached : Attached} (h : Attachment settings kind draft key located attached)
    (hd : Distinct draft) : Distinct attached.draft :=
  hd.sublist (h.edited.sublist (·.origin) fun _ _ => AttachStep.origin)

/-! ### Entries of handlers -/

lemma declaresValues_withoutExport {statement : Node} (h : DeclaresValues statement) :
    DeclaresValues (withoutExport statement) ∧ declared? (withoutExport statement) = declared? statement := by
  cases hu : Draft.unexported statement with
  | none =>
    rw [withoutExport, hu]
    exact ⟨h, rfl⟩
  | some declaration =>
    have hsame := declared?_unexported hu h
    rw [withoutExport, hu]
    exact ⟨(declaresValues_congr hsame).mpr h, hsame⟩

/-- An entry of one of the origins is, or exports, a declaration of values. -/
def HoldsValues (origins : List Origin) (entry : Entry) : Prop :=
  entry.origin ∈ origins → DeclaresValues entry.node

lemma holdsValues_of_declared {origins : List Origin} {entry entry' : Entry} (h : HoldsValues origins entry)
    (horigin : entry'.origin = entry.origin) (hdeclared : declared? entry'.node = declared? entry.node) :
    HoldsValues origins entry' := by
  intro hmem
  rw [declaresValues_congr hdeclared]
  exact h (horigin ▸ hmem)

lemma HoldsValues.mono {origins origins' : List Origin} {entry : Entry} (h : HoldsValues origins entry)
    (hsubset : origins' ⊆ origins) : HoldsValues origins' entry :=
  fun hmem => h (hsubset hmem)

lemma HoldsValues.unlisted {site : Nat} {entry : Entry} (h : HoldsValues [.statement site] entry)
    (hown : entry.origin = .statement site) (names : List String) : DeclaresValues (unlist names entry.node) := by
  have hvalues : DeclaresValues entry.node := h (List.mem_singleton.mpr hown)
  exact (declaresValues_congr (declared?_unlist names entry.node)).mpr hvalues

lemma holdsValues_ofBody {body : List Node} (sites : List Nat)
    (h : ∀ site ∈ sites, ∃ statement, body[site]? = some statement ∧ DeclaresValues statement) :
    ∀ entry ∈ (Draft.ofBody body).entries, HoldsValues (sites.map .statement) entry := by
  intro entry hentry hmem
  obtain ⟨index, horigin, hget⟩ := mem_ofBody.mp hentry
  obtain ⟨site, hsite, hsame⟩ := List.mem_map.mp hmem
  rw [horigin, Origin.statement.injEq] at hsame
  obtain ⟨statement, hstatement, hvalues⟩ := h site hsite
  rw [hsame, hget] at hstatement
  rwa [Option.some.inj hstatement]

/-- A property of entries that attaching a handler cannot break. -/
structure Stable (located : Located) (P : Entry → Prop) : Prop where
  unlisted : ∀ entry, P entry → P (reworked (unlist [located.name]) entry)
  unexported : ∀ entry, entry.origin = .statement located.statement → DeclaresValues entry.node → P entry →
    P (reworked withoutExport entry)
  trimmed : ∀ entry index, entry.origin = .statement located.statement → DeclaresValues entry.node → P entry →
    P (reworked (Draft.eraseDeclarator index) entry)

lemma Attachment.forall {settings : Settings} {kind : Kind} {draft : Draft} {key : String}
    {located : Located} {attached : Attached} {P : Entry → Prop}
    (h : Attachment settings kind draft key located attached)
    (hvalues : ∀ entry ∈ draft.entries, HoldsValues [.statement located.statement] entry)
    (hstable : Stable located P) (hP : ∀ entry ∈ draft.entries, P entry) :
    ∀ entry ∈ attached.draft.entries, P entry := by
  intro entry' hentry'
  obtain ⟨entry, hentry, hstep⟩ := h.edited.origin hentry'
  have hunlisted := hstable.unlisted entry (hP entry hentry)
  cases hstep with
  | unlisted => exact hunlisted
  | own horigin hf =>
    have hown := (hvalues entry hentry).unlisted horigin [located.name]
    rcases hf with rfl | ⟨index, rfl⟩
    · exact hstable.unexported _ horigin hown hunlisted
    · exact hstable.trimmed _ index horigin hown hunlisted

lemma stable_holdsValues (located : Located) (origins : List Origin) : Stable located (HoldsValues origins) where
  unlisted _ h := holdsValues_of_declared h rfl (declared?_unlist ..)
  unexported _ _ _ h := fun hmem => (declaresValues_withoutExport (h hmem)).1
  trimmed _ index _ _ h := fun hmem => declaresValues_eraseDeclarator index (h hmem)

/-! ### All handlers -/

/-- The handlers that are left when one has been attached. The next of them takes over the function that
is left behind, if both share it. -/
def handOver (located : Located) (source : Node) : List (String × Located) → List (String × Located)
  | [] => []
  | (next, other) :: rest => (next, other.takeOver located source) :: rest

@[simp] lemma takeOver_statement (located other : Located) (source : Node) :
    (located.takeOver other source).statement = located.statement := by
  unfold Located.takeOver
  split <;> rfl

lemma handOver_keys (located : Located) (source : Node) (rest : List (String × Located)) :
    (handOver located source rest).map Prod.fst = rest.map Prod.fst := by
  cases rest <;> rfl

/-- Handing over changes nothing of a handler but its function. -/
lemma handOver_map {β : Type} (field : Located → β)
    (hfield : ∀ located other source, field (Located.takeOver located other source) = field located)
    (located : Located) (source : Node) (rest : List (String × Located)) :
    (handOver located source rest).map (fun handler => field handler.2) = rest.map fun handler => field handler.2 := by
  cases rest with
  | nil => rfl
  | cons next rest => simp [handOver, hfield]

lemma handOver_statements (located : Located) (source : Node) (rest : List (String × Located)) :
    (handOver located source rest).map (·.2.statement) = rest.map (·.2.statement) :=
  handOver_map (·.statement) takeOver_statement located source rest

/-- What a run relies on: origins differ, and the handlers to come are declared where they were located. -/
structure Running (origins : List Origin) (draft : Draft) (rest : List (String × Located)) : Prop where
  distinct : Distinct draft
  values : ∀ entry ∈ draft.entries, HoldsValues origins entry
  origins : ∀ site ∈ rest.map (·.2.statement), .statement site ∈ origins

lemma Running.own {origins : List Origin} {draft : Draft} {key : String} {located : Located}
    {rest : List (String × Located)} (h : Running origins draft ((key, located) :: rest)) :
    ∀ entry ∈ draft.entries, HoldsValues [.statement located.statement] entry :=
  fun entry hentry => (h.values entry hentry).mono (by simpa using h.origins _ (List.mem_cons_self ..))

/-- The draft with the descriptor of the properties made so far. -/
def withDescriptor (settings : Settings) (routePath : String) (gap : Option String) (properties : List Node)
    (draft : Draft) : Draft :=
  draft.modify .descriptor fun _ => withGap gap (resourceDescriptor settings routePath properties)

lemma attachAll_cons (settings : Settings) (module : Module) (routePath : String) (draft : Draft)
    (properties : List Node) (key : String) (located : Located) (rest : List (String × Located)) :
    attachAll settings module routePath draft properties ((key, located) :: rest) = (do
      let attached ← attach settings module .resource draft key located
      let properties := properties ++ [attached.property]
      let gap := (draft.find? .descriptor).bind (·.info.gap)
      attachAll settings module routePath (withDescriptor settings routePath gap properties attached.draft)
        properties (handOver located attached.source rest)) := by
  rw [attachAll]
  congr 1
  funext attached
  cases rest with
  | nil => rw [handOver, attachAll]; rfl
  | cons next rest => rfl

/-- What passes from each call to the next holds when all handlers are attached. -/
theorem attachAll_calls {settings : Settings} {module : Module} {routePath : String}
    {P : Draft → List Node → List (String × Located) → Prop}
    (step : ∀ draft properties key located rest attached gap, P draft properties ((key, located) :: rest) →
      attach settings module .resource draft key located = .ok attached →
      P (withDescriptor settings routePath gap (properties ++ [attached.property]) attached.draft)
        (properties ++ [attached.property]) (handOver located attached.source rest))
    {draft result : Draft} {properties : List Node} {handlers : List (String × Located)}
    (start : P draft properties handlers)
    (hrun : attachAll settings module routePath draft properties handlers = .ok result) :
    ∃ properties', P result properties' [] := by
  induction hn : handlers.length generalizing draft properties handlers with
  | zero =>
    obtain rfl : handlers = [] := List.length_eq_zero_iff.mp hn
    rw [attachAll] at hrun
    cases hrun
    exact ⟨properties, start⟩
  | succ n ih =>
    cases handlers with
    | nil => simp at hn
    | cons handler rest =>
      obtain ⟨key, located⟩ := handler
      rw [attachAll_cons] at hrun
      obtain ⟨attached, hattach, hrest⟩ := except_bind_eq_ok hrun
      have hlength : (handOver located attached.source rest).length = rest.length := by cases rest <;> rfl
      rw [List.length_cons] at hn
      exact ih (step _ _ _ _ _ attached _ start hattach) hrest (by omega)

/-- What passes from each attachment to the next holds when all handlers are attached. -/
theorem attachAll_run {settings : Settings} {module : Module} {routePath : String}
    {P : Draft → List Node → List (String × Located) → Prop}
    (step : ∀ draft properties key located rest attached gap, P draft properties ((key, located) :: rest) →
      Attachment settings .resource draft key located attached →
      P (withDescriptor settings routePath gap (properties ++ [attached.property]) attached.draft)
        (properties ++ [attached.property]) (handOver located attached.source rest))
    {draft result : Draft} {properties : List Node} {handlers : List (String × Located)}
    (start : P draft properties handlers)
    (hrun : attachAll settings module routePath draft properties handlers = .ok result) :
    ∃ properties', P result properties' [] :=
  attachAll_calls (fun draft properties key located rest attached gap h hattach =>
    step draft properties key located rest attached gap h (attach_eq_ok hattach)) start hrun

end RouteMigration.Proofs
