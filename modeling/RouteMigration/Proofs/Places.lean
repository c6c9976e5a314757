import RouteMigration.Proofs.Bystanders
import RouteMigration.Proofs.ParsedModules

/-!
# Places of statements

Whatever becomes of a statement in a migration keeps to the place of that statement in the source, and what is
new has no place. So the bystanders of a parsed module can be told by their places.
-/

namespace RouteMigration.Proofs
open Syntax Route

/-! ### Nodes of a stretch of the source -/

/-- A node has no place, or one within the stretch. -/
def PlacedIn (outer : Span) (node : Node) : Prop :=
  ∀ span ∈ node.span, Within span outer

/-- A statement comes from the stretch, and so does the declaration that it exports. -/
structure Confined (outer : Span) (statement : Node) : Prop where
  own : PlacedIn outer statement
  part : ∀ part ∈ exportedPart? statement.form, PlacedIn outer part

variable {outer : Span} {statement : Node}

lemma placedIn_of_span {a b : Node} (h : a.span = b.span) (hb : PlacedIn outer b) : PlacedIn outer a := by
  unfold PlacedIn
  rwa [h]

lemma ReadStatement.confined {source : List Char} (h : ReadStatement source outer statement) :
    Confined outer statement where
  own := by
    intro span hspan
    rw [h.place] at hspan
    cases hspan
    exact ⟨Nat.le_refl _, Nat.le_refl _⟩
  part := by
    intro part hpart span hspan
    obtain ⟨inner, hinner, hwithin⟩ := h.part part hpart
    rw [hinner] at hspan
    cases hspan
    exact hwithin

lemma confined_unlist (names : List String) (h : Confined outer statement) : Confined outer (unlist names statement) := by
  rcases unlist_cases names statement with hsame | ⟨form, -, hnone, -, hunlist⟩
  · rwa [hsame]
  · rw [hunlist]
    refine ⟨h.own, fun part hpart => ?_⟩
    have hpart : part ∈ form.declaration := hpart
    rw [hnone] at hpart
    cases hpart

lemma confined_eraseSpecifier (index : Nat) (h : Confined outer statement) :
    Confined outer (eraseSpecifier index statement) := by
  rcases eraseSpecifier_cases index statement with hsame | ⟨form, hform, herase⟩
  · rwa [hsame]
  · have hpart := h.part
    rw [hform] at hpart
    rw [herase]
    exact ⟨h.own, hpart⟩

lemma exportedPart?_of_value {form : Form Node} (h : isValueDeclaration form = true) : exportedPart? form = none := by
  cases form <;> first | rfl | cases h

/-- The declaration of a value exports nothing more once its export is gone. -/
lemma confined_withoutExport (hvalues : DeclaresValues statement) (h : Confined outer statement) :
    Confined outer (withoutExport statement) := by
  rcases exportNamed_or_other statement with ⟨form, hform⟩ | hother
  · cases hinner : form.declaration with
    | none =>
      have hsame : withoutExport statement = statement := by
        rw [withoutExport, Draft.unexported, hform]
        dsimp only
        rw [hinner]
        rfl
      rwa [hsame]
    | some inner =>
      have hbare : withoutExport statement =
          inner.withInfo { inner.info with gap := statement.info.gap, comments := statement.info.comments } := by
        rw [withoutExport, Draft.unexported, hform]
        dsimp only
        rw [hinner]
        rfl
      obtain ⟨value, hvalue, hisValue⟩ := hvalues
      rw [declared?_exportNamed hform, hinner, Option.map_some, Option.some.injEq] at hvalue
      have hplaced : PlacedIn outer inner := h.part inner (by rw [hform]; exact hinner)
      have hnone : exportedPart? inner.form = none := by
        rw [hvalue]
        exact exportedPart?_of_value hisValue
      rw [hbare]
      refine ⟨hplaced, fun part hpart => ?_⟩
      have hpart : part ∈ exportedPart? inner.form := hpart
      rw [hnone] at hpart
      cases hpart
  · have hsame : withoutExport statement = statement := by
      rw [withoutExport, Draft.unexported]
      split
      · next form hform => exact absurd hform (hother form)
      · rfl
    rwa [hsame]

lemma span_eraseDeclarator_declaration (index : Nat) (declaration : Node) :
    (match declaration.form with
      | .variableDeclaration kind declarators =>
        declaration.withForm (.variableDeclaration kind (declarators.eraseIdx index))
      | _ => declaration).span = declaration.span := by
  split <;> rfl

lemma confined_eraseDeclarator (index : Nat) (h : Confined outer statement) :
    Confined outer (Draft.eraseDeclarator index statement) := by
  unfold Draft.eraseDeclarator Draft.mapDeclaration
  split
  · next form hform =>
    refine ⟨h.own, fun part hpart => ?_⟩
    obtain ⟨inner, hinner, rfl⟩ := Option.map_eq_some_iff.mp (Option.mem_def.mp hpart)
    have hplaced : PlacedIn outer inner := h.part inner (by rw [hform]; exact hinner)
    exact placedIn_of_span (span_eraseDeclarator_declaration index inner) hplaced
  · dsimp only
    split
    · exact ⟨h.own, nofun⟩
    · exact h

lemma span_inlineComponent (fresh : String) (declaration : Node) :
    (inlineComponent fresh declaration).1.span = declaration.span ∨
      (inlineComponent fresh declaration).1.span = none := by
  unfold inlineComponent inlineComponent.named
  split
  · split <;> exact .inl rfl
  · split <;> exact .inl rfl
  · exact .inr rfl

/-- The plain statement for a default export comes from what that exported, unless it is a new constant. -/
lemma confined_inlineStatement (fresh : String) (h : Confined outer statement) :
    Confined outer (inlineStatement fresh statement).1 := by
  rcases exportDefault_or_other statement with ⟨declaration, hform⟩ | hother
  · have hplaced : PlacedIn outer declaration := h.part declaration (by rw [hform]; rfl)
    obtain ⟨hinline, -⟩ := inlineStatement_default fresh hform
    have hspan : (inlineStatement fresh statement).1.span = (inlineComponent fresh declaration).1.span := by
      rw [inlineStatement, hform]
      rfl
    have hnone : exportedPart? (inlineStatement fresh statement).1.form = none := by
      rw [hinline]
      rcases inlineComponent_cases fresh declaration with ⟨form, -, hcomponent, -⟩ | ⟨name, tail, -, hcomponent, -⟩ |
        ⟨-, -, hcomponent⟩
      · rw [hcomponent]
        rfl
      · rw [hcomponent]
        rfl
      · rw [hcomponent]
        rfl
    refine ⟨?_, fun part hpart => ?_⟩
    · rcases span_inlineComponent fresh declaration with hsame | hnew
      · exact placedIn_of_span (hspan.trans hsame) hplaced
      · intro span hmem
        rw [hspan, hnew] at hmem
        cases hmem
    · rw [hnone] at hpart
      cases hpart
  · rwa [inlineStatement_other fresh hother]

/-! ### Entries -/

/-- An entry for a statement of the body comes from its stretch of the source; any other one is new. -/
structure Rooted (body : List Node) (entry : Entry) : Prop where
  statement : ∀ index, entry.origin = .statement index → ∃ statement span, body[index]? = some statement ∧
    statement.span = some span ∧ Confined span entry.node
  new : (∀ index, entry.origin ≠ .statement index) → entry.node.span = none

section Rooted

variable {body : List Node} {entry : Entry}

/-- A statement that is rewritten within its stretch of the source stays rooted. -/
lemma Rooted.rework {index : Nat} {f : Node → Node} (h : Rooted body entry) (horigin : entry.origin = .statement index)
    (hf : ∀ span, Confined span entry.node → Confined span (f entry.node)) : Rooted body (reworked f entry) where
  statement i hi := by
    obtain ⟨statement, span, hget, hspan, hconfined⟩ := h.statement i hi
    exact ⟨statement, span, hget, hspan, hf span hconfined⟩
  new hnew := absurd horigin (hnew index)

lemma Rooted.commented (h : Rooted body entry) (comment : String) :
    Rooted body (reworked (withComment comment) entry) where
  statement i hi := by
    obtain ⟨statement, span, hget, hspan, hconfined⟩ := h.statement i hi
    exact ⟨statement, span, hget, hspan, hconfined.own, hconfined.part⟩
  new hnew := h.new hnew

lemma span_unlist (names : List String) (statement : Node) : (unlist names statement).span = statement.span := by
  rcases unlist_cases names statement with hsame | ⟨form, -, -, -, hunlist⟩
  · rw [hsame]
  · rw [hunlist]
    rfl

lemma stable_rooted (located : Located) (body : List Node) : Stable located (Rooted body) where
  unlisted entry h :=
    { statement := fun i hi => by
        obtain ⟨statement, span, hget, hspan, hconfined⟩ := h.statement i hi
        exact ⟨statement, span, hget, hspan, confined_unlist _ hconfined⟩
      new := fun hnew => (span_unlist ..).trans (h.new hnew) }
  unexported _ horigin hvalues h := h.rework horigin fun _ => confined_withoutExport hvalues
  trimmed _ index horigin _ h := h.rework horigin fun _ => confined_eraseDeclarator index

lemma DetachStep.rooted {fresh : String} {default : DefaultExport} {entry' : Entry}
    (h : DetachStep fresh default entry (some entry')) (hentry : Rooted body entry) : Rooted body entry' := by
  cases h with
  | other _ => exact hentry
  | unlisted _ horigin => exact hentry.rework horigin fun _ => confined_eraseSpecifier _
  | inlined _ horigin => exact hentry.rework horigin fun _ => confined_inlineStatement fresh

lemma rooted_descriptor {node : Node} (h : node.span = none) : Rooted body ⟨.descriptor, node⟩ :=
  ⟨nofun, fun _ => h⟩

end Rooted

/-! ### Drafts of parsed modules -/

variable {settings : Settings} {module : Module} {routePath : String} {source : List Char} {spans : List Span}

lemma ReadStatements.rooted {body : List Node} (h : ReadStatements source spans body) :
    ∀ entry ∈ (Draft.ofBody body).entries, Rooted body entry := by
  intro entry hentry
  obtain ⟨index, horigin, hget⟩ := mem_ofBody.mp hentry
  refine ⟨fun i hi => ?_, fun hnew => absurd horigin (hnew index)⟩
  obtain rfl : index = i := Origin.statement.inj (horigin.symm.trans hi)
  obtain ⟨span, -, hread⟩ := h.get hget
  exact ⟨entry.node, span, hget, hread.place, hread.confined⟩

lemma Detachment.rooted {default : DefaultExport} {body : List Node} {result : Draft × String}
    {before after : List Entry} {component? : Option Entry}
    (h : Detachment settings default (.ofBody body) result before after component?)
    (hread : ReadStatements source spans body) : ∀ entry ∈ result.1.entries, Rooted body entry := by
  intro entry hentry
  rcases h.mem.mp hentry with hentry | hentry
  · obtain ⟨origin, horigin, hstep⟩ := h.edited.origin hentry
    exact hstep.rooted (hread.rooted origin horigin)
  · obtain ⟨imported, _, _, _, _, -, rfl, -⟩ := h.component entry hentry
    exact ⟨nofun, fun _ => rfl⟩

lemma page_rooted {default : DefaultExport} {loader : Located} {action : Option Located} {draft : Draft}
    (hread : ReadStatements source spans module.body) (hloader : locate module.body "loader" = some loader)
    (h : migratePage settings module routePath default loader action = .ok draft) :
    ∀ entry ∈ draft.entries, Rooted module.body entry := by
  obtain ⟨attached, entries, hattach, hadvised, hdraft⟩ := migratePage_advised h
  obtain ⟨before, after, component?, hdetach⟩ := detachDefault_eq settings (.ofBody module.body) default
  have hattached := hattach.forall (hdetach.running "loader" hloader).own (stable_rooted loader module.body)
    (hdetach.rooted hread)
  intro entry hentry
  rw [hdraft, List.mem_append, List.mem_singleton] at hentry
  rcases hentry with hentry | rfl
  · obtain ⟨origin, horigin, hstep⟩ := hadvised.origin hentry
    have hrooted := hattached origin horigin
    cases hstep with
    | same => exact hrooted
    | commented _ => exact hrooted.commented _
  · exact rooted_descriptor rfl

lemma resource_rooted {handlers : List (String × Located)} {draft : Draft} (hne : handlers ≠ [])
    (hread : ReadStatements source spans module.body)
    (hhandlers : ∀ handler ∈ handlers, ∃ name, locate module.body name = some handler.2)
    (h : migrateResource settings module routePath handlers = .ok draft) :
    ∀ entry ∈ draft.entries, Rooted module.body entry := by
  obtain ⟨first, gap, attached, hrun, rfl⟩ := migrateResource_eq_ok hne h
  have hstart : ∀ entry ∈ ((Draft.ofBody module.body).insertBefore (.statement first)
      ⟨.descriptor, withGap gap (resourceDescriptor settings routePath [])⟩).entries, Rooted module.body entry := by
    intro entry hentry
    rcases mem_insertBefore.mp hentry with hentry | rfl
    · exact hread.rooted entry hentry
    · exact rooted_descriptor rfl
  obtain ⟨properties, hrunning, hrooted⟩ := attachAll_run
    (P := fun draft _ rest => Running (resourceOrigins handlers) draft rest ∧
      ∀ entry ∈ draft.entries, Rooted module.body entry)
    (fun _ _ _ located _ _ gap ⟨hrunning, hrooted⟩ hattach => ⟨hrunning.step hattach gap _, by
      intro entry hentry
      rcases mem_withDescriptor hentry with rfl | ⟨hentry, -⟩
      · exact rooted_descriptor rfl
      · exact hattach.forall hrunning.own (stable_rooted located module.body) hrooted entry hentry⟩)
    ⟨running_start hhandlers first gap, hstart⟩ hrun
  exact fun entry hentry => hrooted entry ((settleDescriptor_perm hrunning.distinct).subset hentry)

/-- Every entry of a draft keeps to the place of its statement. -/
theorem Drafting.rooted {kind : Kind} {draft : Draft} (h : Drafting settings module routePath kind draft)
    (hread : ReadStatements source spans module.body) : ∀ entry ∈ draft.entries, Rooted module.body entry := by
  cases h with
  | page _ _ hloader hpage => exact page_rooted hread hloader hpage
  | resource _ _ hhandlers hresource =>
    exact resource_rooted hhandlers hread (fun _ => exists_locate_of_mem_methodsOf) hresource

/-! ### Bystanders by their places -/

lemma mem_bystanders {statement : Node} : statement ∈ bystanders module ↔
    ∃ index, module.body[index]? = some statement ∧ isBystander statement = true ∧ index ∉ sitesOf module := by
  rw [bystanders, List.mem_map]
  constructor
  · rintro ⟨⟨node, index⟩, hmem, rfl⟩
    obtain ⟨hzip, hbystander⟩ := List.mem_filter.mp hmem
    rw [Bool.and_eq_true] at hbystander
    exact ⟨index, List.mk_mem_zipIdx_iff_getElem?.mp hzip, hbystander.1, by simpa using hbystander.2⟩
  · rintro ⟨index, hget, hbystander, hsite⟩
    refine ⟨(statement, index), List.mem_filter.mpr ⟨List.mk_mem_zipIdx_iff_getElem?.mpr hget, ?_⟩, rfl⟩
    rw [Bool.and_eq_true]
    exact ⟨hbystander, by simpa using hsite⟩

/-- The nodes that are bystanders by their places. -/
def atPlaces (places : List (Option Span)) (node : Node) : Bool :=
  isBystander node && places.contains node.span

/-- Stretches that are apart do not lie in each other. -/
lemma ReadStatements.eq_of_within {body : List Node} (h : ReadStatements source spans body) {i j : Nat}
    {first second : Node} {inner outer : Span} (hi : body[i]? = some first) (hj : body[j]? = some second)
    (hinner : first.span = some inner) (houter : second.span = some outer) (hwithin : Within inner outer) : i = j := by
  obtain ⟨span, hspan, hread⟩ := h.get hi
  obtain ⟨span', hspan', hread'⟩ := h.get hj
  obtain rfl : inner = span := Option.some.inj (hinner.symm.trans hread.place)
  obtain rfl : outer = span' := Option.some.inj (houter.symm.trans hread'.place)
  obtain ⟨hlt, hget⟩ := List.getElem?_eq_some_iff.mp hspan
  obtain ⟨hlt', hget'⟩ := List.getElem?_eq_some_iff.mp hspan'
  have hapart := List.pairwise_iff_getElem.mp h.apart
  have hnonempty := hread.nonempty
  have hstart := hwithin.start
  have hstop := hwithin.stop
  rcases Nat.lt_trichotomy i j with hlt'' | heq | hlt''
  · have hbefore := hapart i j hlt hlt' hlt''
    rw [hget, hget'] at hbefore
    omega
  · exact heq
  · have hafter := hapart j i hlt' hlt hlt''
    rw [hget, hget'] at hafter
    omega

/-- Different statements of a parsed module have different places. -/
lemma ReadStatements.nodup {body : List Node} (h : ReadStatements source spans body) : (body.map Node.span).Nodup := by
  rw [List.nodup_iff_injective_get]
  rintro ⟨i, hi⟩ ⟨j, hj⟩ hsame
  simp only [List.get_eq_getElem, List.getElem_map] at hsame
  rw [List.length_map] at hi hj
  obtain ⟨span, -, hread⟩ := h.get (List.getElem?_eq_getElem hi)
  have heq : i = j := h.eq_of_within (List.getElem?_eq_getElem hi) (List.getElem?_eq_getElem hj) hread.place
    (hsame.symm.trans hread.place) ⟨Nat.le_refl _, Nat.le_refl _⟩
  exact Fin.ext heq

lemma bystanders_sublist (module : Module) : (bystanders module).Sublist module.body := by
  have hsublist : (bystanders module).Sublist (module.body.zipIdx.map Prod.fst) := List.filter_sublist.map Prod.fst
  rwa [List.zipIdx_map_fst] at hsublist

/-- An entry of a draft has the place of a bystander only if it stands for that. -/
lemma atPlaces_eq (hread : ReadStatements source spans module.body) {draft : Draft}
    (hstanding : standingIn (sitesOf module) draft = bystanders module) {entry : Entry} (hentry : entry ∈ draft.entries)
    (hrooted : Rooted module.body entry) :
    atPlaces ((bystanders module).map Node.span) entry.node =
      (isBystander entry.node && isOffSite (sitesOf module) entry.origin) := by
  rw [atPlaces]
  cases hbystander : isBystander entry.node with
  | false => rfl
  | true =>
    rw [Bool.true_and, Bool.true_and, Bool.eq_iff_iff, List.contains_iff_mem]
    constructor
    · intro hplace
      obtain ⟨bystander, hmem, hspan⟩ := List.mem_map.mp hplace
      obtain ⟨index, hget, -, hsite⟩ := mem_bystanders.mp hmem
      obtain ⟨span, -, hat⟩ := hread.get hget
      have hown : entry.node.span = some span := hspan.symm.trans hat.place
      by_cases horigin : ∃ i, entry.origin = .statement i
      · obtain ⟨i, hi⟩ := horigin
        obtain ⟨statement, outer, hgetᵢ, houter, hconfined⟩ := hrooted.statement i hi
        have hsame := hread.eq_of_within hget hgetᵢ hat.place houter (hconfined.own span hown)
        rw [hi, ← hsame]
        simpa [isOffSite] using hsite
      · have hnew := hrooted.new fun i hi => horigin ⟨i, hi⟩
        rw [hnew] at hown
        cases hown
    · intro hoff
      have hmem : entry.node ∈ standingIn (sitesOf module) draft := by
        refine List.mem_flatMap.mpr ⟨entry, hentry, ?_⟩
        rw [standing, hbystander, hoff]
        exact List.mem_singleton_self _
      rw [hstanding] at hmem
      exact List.mem_map_of_mem hmem

lemma filter_eq_flatMap {α : Type} (p : α → Bool) (l : List α) :
    l.filter p = l.flatMap fun a => if p a then [a] else [] := by
  have h := flatMap_singleton_of p id l
  rw [List.map_id] at h
  exact h.symm

/-- The statements of a draft at the places of bystanders are the bystanders. -/
lemma filter_draft (hread : ReadStatements source spans module.body) {draft : Draft}
    (hstanding : standingIn (sitesOf module) draft = bystanders module)
    (hrooted : ∀ entry ∈ draft.entries, Rooted module.body entry) :
    draft.body.filter (atPlaces ((bystanders module).map Node.span)) = bystanders module := by
  rw [filter_eq_flatMap, Draft.body, List.flatMap_map]
  refine Eq.trans (List.flatMap_congr fun entry hentry => ?_) hstanding
  rw [standing, atPlaces_eq hread hstanding hentry (hrooted entry hentry)]

/-- The statements of a finished body at the places of bystanders are the bystanders, in their order. -/
theorem filter_finish (hread : ReadStatements source spans module.body) {kind : Kind} {draft : Draft}
    (hdraft : Drafting settings module routePath kind draft) (used : List String) :
    (finish settings kind used draft.body).filter (atPlaces ((bystanders module).map Node.span)) =
      bystanders module := by
  let view := fun node => if atPlaces ((bystanders module).map Node.span) node then [node] else []
  have hview {node : Node} (hmover : isBystander node = false) : view node = [] := by
    simp [view, atPlaces, hmover]
  have hfinish := finish_flatMap view (fun _ himport => hview (isBystander_of_import himport))
    (fun _ hemptied => hview (isBystander_of_isEmptied hemptied)) settings kind used draft.body
  rw [filter_eq_flatMap]
  refine hfinish.trans ?_
  exact (filter_eq_flatMap ..).symm.trans (filter_draft hread hdraft.standingIn_eq (hdraft.rooted hread))

end RouteMigration.Proofs
