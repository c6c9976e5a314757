import Mathlib.Data.List.Nodup
import RouteMigration.Proofs.DraftRuns

/-!
# Detaching default exports

The default export of a page turns into a plain declaration. Only the statement that makes it changes, and
an import comes in when the export passes on what another module exports. Names that come in are fresh.
-/

namespace RouteMigration.Proofs
open Syntax Route

/-! ### Fresh names -/

lemma toString_inj {m n : Nat} (h : toString m = toString n) : m = n := by
  have hdigits : Nat.toDigits 10 m = Nat.toDigits 10 n := String.ofList_inj.mp h
  rw [← Nat.ofDigitChars_toDigits (n := m) (b := 10) (by decide) (by decide), hdigits,
    Nat.ofDigitChars_toDigits (by decide) (by decide)]

lemma candidate_injective (base : String) : Function.Injective (candidate base) := by
  intro m n h
  cases m with
  | zero =>
    cases n with
    | zero => rfl
    | succ n => exact absurd h.symm (by simp [candidate])
  | succ m =>
    cases n with
    | zero => exact absurd h (by simp [candidate])
    | succ n =>
      rw [candidate, candidate, String.append_right_inj] at h
      have := toString_inj h
      omega

lemma freshName_eq_candidate (taken : List String) (base : String) :
    ∃ n, freshName taken base = candidate base n := by
  rw [freshName]
  cases h : (((List.range (taken.length + 1)).map (candidate base)).find? fun name =>
      !taken.contains name) with
  | none => exact ⟨0, rfl⟩
  | some name =>
    obtain ⟨n, -, hn⟩ := List.mem_map.mp (List.mem_of_find?_eq_some h)
    exact ⟨n, hn.symm⟩

/-- One of the candidates is not taken, since there are more of them than taken names. -/
theorem freshName_not_mem (taken : List String) (base : String) : freshName taken base ∉ taken := by
  rw [freshName]
  cases h : (((List.range (taken.length + 1)).map (candidate base)).find? fun name =>
      !taken.contains name) with
  | some name => simpa using List.find?_some h
  | none =>
    exfalso
    rw [List.find?_eq_none] at h
    have hsubset : (List.range (taken.length + 1)).map (candidate base) ⊆ taken := by
      intro name hname
      simpa using h name hname
    have hnodup : ((List.range (taken.length + 1)).map (candidate base)).Nodup :=
      List.nodup_range.map (candidate_injective base)
    have hlength := (List.subperm_of_subset hnodup hsubset).length_le
    rw [List.length_map, List.length_range] at hlength
    omega

/-! ### Where default exports are made -/

/-- The default exports of a module, in order. -/
def defaultExports (module : Module) : List DefaultExport :=
  module.body.zipIdx.flatMap fun (statement, index) => defaultsOf module.declaredNames statement index

lemma findDefaultExport_eq (module : Module) : findDefaultExport module = (defaultExports module).getLast? :=
  rfl

/-- The statement makes a default export. -/
def makesDefault (statement : Node) : Bool :=
  match statement.form with
  | .exportDefault _ => true
  | .exportNamed form =>
    form.declaration.isNone && !form.typeOnly && form.specifiers.any (·.exported = "default")
  | _ => false

lemma makesDefault_congr {a b : Node} (h : a.form = b.form) : makesDefault a = makesDefault b := by
  rw [makesDefault, makesDefault, h]

/-- The ways in which a statement makes a default export. -/
inductive DefaultAt (declared : List String) (statement : Node) (index : Nat) : DefaultExport → Prop where
  | inline {declaration : Node} : statement.form = .exportDefault declaration →
      declaration.identifier? = none → DefaultAt declared statement index (.inline index)
  | named {declaration : Node} {name : String} : statement.form = .exportDefault declaration →
      declaration.identifier? = some name →
      DefaultAt declared statement index (.referenced name index none (declared.contains name))
  | listed {form : ExportForm Node} {place : Nat} {specifier : ExportSpecifier} :
      statement.form = .exportNamed form → form.declaration = none → form.typeOnly = false →
      form.specifiers[place]? = some specifier → specifier.exported = "default" → form.source = none →
      DefaultAt declared statement index
        (.referenced specifier.localName index (some place) (declared.contains specifier.localName))
  | forwarded {form : ExportForm Node} {place : Nat} {specifier : ExportSpecifier} {source : String} :
      statement.form = .exportNamed form → form.declaration = none → form.typeOnly = false →
      form.specifiers[place]? = some specifier → specifier.exported = "default" → form.source = some source →
      DefaultAt declared statement index (.forwarded specifier.localName source index place)

lemma mem_listedDefaults {declared : List String} {form : ExportForm Node} {index : Nat}
    {default : DefaultExport} : default ∈ listedDefaults declared form index ↔
      form.declaration = none ∧ form.typeOnly = false ∧ ∃ place specifier,
        form.specifiers[place]? = some specifier ∧ specifier.exported = "default" ∧
        default = match form.source with
          | some source => .forwarded specifier.localName source index place
          | none => .referenced specifier.localName index (some place)
              (declared.contains specifier.localName) := by
  unfold listedDefaults
  by_cases hc : (form.declaration.isSome || form.typeOnly) = true
  · rw [if_pos hc]
    constructor
    · intro h
      cases h
    · rintro ⟨hdeclaration, htype, -⟩
      rw [hdeclaration, htype] at hc
      cases hc
  · rw [if_neg hc]
    simp only [Bool.or_eq_true, Option.isSome_iff_ne_none, not_or, not_not, Bool.not_eq_true] at hc
    rw [List.mem_filterMap]
    constructor
    · rintro ⟨⟨specifier, place⟩, hmem, hdefault⟩
      dsimp only at hdefault
      split at hdefault
      · cases hdefault
      · next hexported =>
        refine ⟨hc.1, hc.2, place, specifier, List.mk_mem_zipIdx_iff_getElem?.mp hmem, by simpa using hexported, ?_⟩
        cases hs : form.source <;> simp_all
    · rintro ⟨-, -, place, specifier, hget, hexported, rfl⟩
      refine ⟨(specifier, place), List.mk_mem_zipIdx_iff_getElem?.mpr hget, ?_⟩
      cases hs : form.source <;> simp [hexported]

lemma mem_defaultsOf {declared : List String} {statement : Node} {index : Nat} {default : DefaultExport} :
    default ∈ defaultsOf declared statement index ↔ DefaultAt declared statement index default := by
  unfold defaultsOf
  constructor
  · intro h
    split at h
    · next declaration hform =>
      split at h
      · next name hname =>
        rw [List.mem_singleton.mp h]
        exact .named hform hname
      · next hname =>
        rw [List.mem_singleton.mp h]
        exact .inline hform hname
    · next form hform =>
      obtain ⟨hdeclaration, htype, place, specifier, hget, hexported, hdefault⟩ := mem_listedDefaults.mp h
      rw [hdefault]
      cases hsource : form.source with
      | some source => exact .forwarded hform hdeclaration htype hget hexported hsource
      | none => exact .listed hform hdeclaration htype hget hexported hsource
    · cases h
  · rintro (⟨hform, hname⟩ | ⟨hform, hname⟩ | ⟨hform, hdeclaration, htype, hget, hexported, hsource⟩ |
      ⟨hform, hdeclaration, htype, hget, hexported, hsource⟩)
    · simp [hform, hname]
    · simp [hform, hname]
    · simp only [hform]
      exact mem_listedDefaults.mpr ⟨hdeclaration, htype, _, _, hget, hexported, by rw [hsource]⟩
    · simp only [hform]
      exact mem_listedDefaults.mpr ⟨hdeclaration, htype, _, _, hget, hexported, by rw [hsource]⟩

lemma defaultsOf_eq_nil {declared : List String} {statement : Node} {index : Nat} :
    defaultsOf declared statement index = [] ↔ makesDefault statement = false := by
  rw [List.eq_nil_iff_forall_not_mem]
  simp only [mem_defaultsOf]
  constructor
  · intro h
    rw [makesDefault]
    split
    · next declaration hform =>
      cases hname : declaration.identifier? with
      | none => exact absurd (.inline hform hname) (h _)
      | some name => exact absurd (.named hform hname) (h _)
    · next form hform =>
      by_contra hc
      simp only [Bool.not_eq_false, Bool.and_eq_true, Option.isNone_iff_eq_none, Bool.not_eq_true',
        List.any_eq_true, decide_eq_true_eq] at hc
      obtain ⟨⟨hdeclaration, htype⟩, specifier, hspecifier, hexported⟩ := hc
      obtain ⟨place, hget⟩ := List.mem_iff_getElem?.mp hspecifier
      cases hsource : form.source with
      | none => exact absurd (.listed hform hdeclaration htype hget hexported hsource) (h _)
      | some source => exact absurd (.forwarded hform hdeclaration htype hget hexported hsource) (h _)
    · rfl
  · rintro h default (⟨hform, -⟩ | ⟨hform, -⟩ | ⟨hform, hdeclaration, htype, hget, hexported, -⟩ |
      ⟨hform, hdeclaration, htype, hget, hexported, -⟩)
    · simp [makesDefault, hform] at h
    · simp [makesDefault, hform] at h
    all_goals
      simp only [makesDefault, hform, hdeclaration, htype, Option.isNone_none, Bool.not_false, Bool.and_true,
        Bool.true_and, List.any_eq_false, decide_eq_true_eq] at h
      exact h _ (List.mem_of_getElem? hget) hexported

/-- A module has no default export when no statement makes one. -/
lemma findDefaultExport_eq_none {module : Module} (h : ∀ statement ∈ module.body, makesDefault statement = false) :
    findDefaultExport module = none := by
  rw [findDefaultExport_eq, List.getLast?_eq_none_iff, defaultExports, List.flatMap_eq_nil_iff]
  rintro ⟨statement, index⟩ hmem
  exact defaultsOf_eq_nil.mpr (h statement (List.fst_mem_of_mem_zipIdx hmem))

/-- The statement that makes a default export. -/
def siteOf : DefaultExport → Nat
  | .inline statement | .referenced _ statement _ _ | .forwarded _ _ statement _ => statement

/-- The place of a default export in a list of exports. -/
def listedAt? : DefaultExport → Option Nat
  | .inline _ => none
  | .referenced _ _ specifier _ => specifier
  | .forwarded _ _ _ specifier => some specifier

lemma DefaultAt.site {declared : List String} {statement : Node} {index : Nat} {default : DefaultExport}
    (h : DefaultAt declared statement index default) : siteOf default = index := by
  cases h <;> rfl

lemma mem_defaultExports {module : Module} {default : DefaultExport} : default ∈ defaultExports module ↔
    ∃ statement, module.body[siteOf default]? = some statement ∧
      DefaultAt module.declaredNames statement (siteOf default) default := by
  rw [defaultExports, List.mem_flatMap]
  constructor
  · rintro ⟨⟨statement, index⟩, hmem, hdefault⟩
    have hat := mem_defaultsOf.mp hdefault
    have hget := List.mk_mem_zipIdx_iff_getElem?.mp hmem
    rw [hat.site]
    exact ⟨statement, hget, hat⟩
  · rintro ⟨statement, hget, hat⟩
    exact ⟨(statement, siteOf default), List.mk_mem_zipIdx_iff_getElem?.mpr hget, mem_defaultsOf.mpr hat⟩

/-! ### The statement for a default export -/

/-- A function or a class gets a name if it has none; everything else becomes a constant. -/
lemma inlineComponent_cases (fresh : String) (declaration : Node) :
    (∃ form, declaration.form = .functionDeclaration form ∧
      (inlineComponent fresh declaration).1.form =
        .functionDeclaration { form with name := some (form.name.getD fresh) } ∧
      (inlineComponent fresh declaration).2 = form.name.getD fresh) ∨
    (∃ name tail, declaration.form = .classDeclaration name tail ∧
      (inlineComponent fresh declaration).1.form = .classDeclaration (some (name.getD fresh)) tail ∧
      (inlineComponent fresh declaration).2 = name.getD fresh) ∨
    ((∀ form, declaration.form ≠ .functionDeclaration form) ∧
      (∀ name tail, declaration.form ≠ .classDeclaration name tail) ∧
      inlineComponent fresh declaration = (constant fresh declaration, fresh)) := by
  unfold inlineComponent
  split
  · next form hform =>
    refine .inl ⟨form, hform, ?_⟩
    obtain ⟨name, params, body, isAsync, isGenerator, typeParameters, returnType⟩ := form
    cases name with
    | none => exact ⟨rfl, rfl⟩
    | some name => exact ⟨hform, rfl⟩
  · next name tail hform =>
    refine .inr (.inl ⟨name, tail, hform, ?_⟩)
    cases name with
    | none => exact ⟨rfl, rfl⟩
    | some name => exact ⟨hform, rfl⟩
  · next hfunction hclass => exact .inr (.inr ⟨hfunction, hclass, rfl⟩)

lemma inlineStatement_other (fresh : String) {statement : Node}
    (h : ∀ declaration, statement.form ≠ .exportDefault declaration) :
    inlineStatement fresh statement = (statement, fresh) := by
  unfold inlineStatement
  split
  · next declaration hform => exact absurd hform (h declaration)
  · rfl

lemma inlineStatement_default (fresh : String) {statement declaration : Node}
    (h : statement.form = .exportDefault declaration) :
    (inlineStatement fresh statement).1.form = (inlineComponent fresh declaration).1.form ∧
      (inlineStatement fresh statement).2 = (inlineComponent fresh declaration).2 := by
  rw [inlineStatement, h]
  exact ⟨rfl, rfl⟩

lemma exportDefault_or_other (statement : Node) : (∃ declaration, statement.form = .exportDefault declaration) ∨
    ∀ declaration, statement.form ≠ .exportDefault declaration := by
  cases h : statement.form <;> simp

lemma inlineStatement_of_declaresValues (fresh : String) {statement : Node} (h : DeclaresValues statement) :
    (inlineStatement fresh statement).1 = statement := by
  rcases exportDefault_or_other statement with ⟨declaration, hform⟩ | hform
  · obtain ⟨form, hdeclared, hvalue⟩ := h
    rw [declared?_other (by simp [hform]), hform] at hdeclared
    obtain rfl := Option.some.inj hdeclared
    cases hvalue
  · rw [inlineStatement_other fresh hform]

lemma variableNames_inlineStatement (fresh : String) (statement : Node) :
    variableNames (inlineStatement fresh statement).1 ⊆ fresh :: variableNames statement := by
  rcases exportDefault_or_other statement with ⟨declaration, hform⟩ | hform
  · obtain ⟨hinline, -⟩ := inlineStatement_default fresh hform
    rcases inlineComponent_cases fresh declaration with ⟨form, -, hcomponent, -⟩ | ⟨name, tail, -, hcomponent, -⟩ |
      ⟨-, -, hcomponent⟩
    · rw [variableNames_eq_nil]
      · simp
      · rw [declared?_other (by simp [hinline, hcomponent]), hinline, hcomponent]
        simp
    · rw [variableNames_eq_nil]
      · simp
      · rw [declared?_other (by simp [hinline, hcomponent]), hinline, hcomponent]
        simp
    · have hdeclared : declared? (inlineStatement fresh statement).1 = declared? (constant fresh declaration) :=
        declared?_congr (hinline.trans (by rw [hcomponent]))
      rw [variableNames_congr hdeclared]
      exact List.cons_subset_cons _ (List.nil_subset _)
  · rw [inlineStatement_other fresh hform]
    exact List.subset_cons_self ..

lemma makesDefault_of_import {statement : Node} (h : (import? statement).isSome) :
    makesDefault statement = false := by
  obtain ⟨form, hform⟩ := import?_isSome h
  rw [makesDefault, hform]

lemma makesDefault_of_isEmptied {statement : Node} (h : isEmptied statement = true) :
    makesDefault statement = false := by
  obtain ⟨form, hform, -, hspecifiers⟩ := isEmptied_eq_true h
  rw [makesDefault, hform]
  simp [hspecifiers]

lemma makesDefault_inlineStatement (fresh : String) {statement declaration : Node}
    (h : statement.form = .exportDefault declaration) : makesDefault (inlineStatement fresh statement).1 = false := by
  obtain ⟨hinline, -⟩ := inlineStatement_default fresh h
  rw [makesDefault, hinline]
  rcases inlineComponent_cases fresh declaration with ⟨form, -, hcomponent, -⟩ | ⟨name, tail, -, hcomponent, -⟩ |
    ⟨-, -, hcomponent⟩
  · rw [hcomponent]
  · rw [hcomponent]
  · rw [hcomponent]
    rfl

/-- Without the only default in it, a list of exports has none. -/
lemma makesDefault_eraseSpecifier {declared : List String} {statement : Node} {index place : Nat}
    {default : DefaultExport} (hat : DefaultAt declared statement index default)
    (hlisted : listedAt? default = some place)
    (honly : ∀ other, DefaultAt declared statement index other → other = default) :
    makesDefault (eraseSpecifier place statement) = false := by
  have herase (form : ExportForm Node) (hform : statement.form = .exportNamed form)
      (hdeclaration : form.declaration = none) (htype : form.typeOnly = false) :
      makesDefault (eraseSpecifier place statement) = false := by
    rw [eraseSpecifier, hform, makesDefault, form_withForm]
    simp only [hdeclaration, htype, Option.isNone_none, Bool.not_false, Bool.true_and, List.any_eq_false,
      decide_eq_true_eq]
    intro specifier hspecifier hexported
    obtain ⟨other, hne, hother⟩ := List.mem_eraseIdx_iff_getElem?.mp hspecifier
    cases hsource : form.source with
    | none =>
      have hsecond := honly _ (.listed hform hdeclaration htype hother hexported hsource)
      rw [← hsecond] at hlisted
      exact hne (Option.some.inj hlisted)
    | some source =>
      have hsecond := honly _ (.forwarded hform hdeclaration htype hother hexported hsource)
      rw [← hsecond] at hlisted
      exact hne (Option.some.inj hlisted)
  cases hat with
  | inline _ _ => cases hlisted
  | named _ _ => cases hlisted
  | listed hform hdeclaration htype _ _ _ => exact herase _ hform hdeclaration htype
  | forwarded hform hdeclaration htype _ _ _ => exact herase _ hform hdeclaration htype

/-! ### Detaching -/

lemma import?_componentImport (gap : Option String) (imported source name : String) :
    (import? (withGap gap (componentImport imported source name))).isSome := by
  rw [import?_congr (form_withGap ..), componentImport]
  split <;> rfl

/-- What detaching a default export makes of an entry. -/
inductive DetachStep (fresh : String) (default : DefaultExport) (entry : Entry) : Option Entry → Prop where
  | other : entry.origin ≠ .statement (siteOf default) → DetachStep fresh default entry (some entry)
  | erased {name : String} {index : Nat} {resolved : Bool} : default = .referenced name index none resolved →
      entry.origin = .statement index → DetachStep fresh default entry none
  | unlisted {place : Nat} : listedAt? default = some place → entry.origin = .statement (siteOf default) →
      DetachStep fresh default entry (some (reworked (eraseSpecifier place) entry))
  | inlined {index : Nat} : default = .inline index → entry.origin = .statement index →
      DetachStep fresh default entry (some (reworked (fun node => (inlineStatement fresh node).1) entry))

lemma edited_modify {R : Entry → Option Entry → Prop} (draft : Draft) (origin : Origin) (f : Node → Node)
    (hother : ∀ entry ∈ draft.entries, entry.origin ≠ origin → R entry (some entry))
    (hown : ∀ entry ∈ draft.entries, entry.origin = origin → R entry (some (reworked f entry))) :
    Edited R draft.entries (draft.modify origin f).entries := by
  rw [entries_modify]
  refine edited_map _ _ fun entry hentry => ?_
  by_cases horigin : entry.origin = origin
  · rw [if_pos horigin]
    exact hown entry hentry horigin
  · rw [if_neg horigin]
    exact hother entry hentry horigin

/-- What detaching the default export comes to: an edit of the draft, and perhaps the import of a component
under a name that is new to it. -/
structure Detachment (settings : Settings) (default : DefaultExport) (draft : Draft) (result : Draft × String)
    (before after : List Entry) (component? : Option Entry) : Prop where
  entries : result.1.entries = before ++ component?.toList ++ after
  edited : Edited (DetachStep (draft.freshName settings.componentName) default) draft.entries (before ++ after)
  removed : result.1.removed = draft.removed
  kept : result.1.kept = draft.kept
  component : ∀ entry ∈ component?, ∃ imported source statement specifier gap,
    default = .forwarded imported source statement specifier ∧
      entry = ⟨.component, withGap gap (componentImport imported source result.2)⟩ ∧
      result.2 ∉ takenNames ((before ++ after).map (·.node)) ∧
      ∃ n, result.2 = candidate (if imported = "default" then settings.componentName else imported) n
  forwarded : ∀ imported source statement specifier, default = .forwarded imported source statement specifier →
    component?.isSome

theorem detachDefault_eq (settings : Settings) (draft : Draft) (default : DefaultExport) :
    ∃ before after component?, Detachment settings default draft (detachDefault settings draft default)
      before after component? := by
  cases default with
  | inline statement =>
    refine ⟨_, [], none, by simp [detachDefault]; rfl, ?_, rfl, rfl, by simp, by simp⟩
    rw [List.append_nil]
    exact edited_modify draft _ _ (fun entry _ h => .other h) fun entry _ h => .inlined rfl h
  | referenced name statement specifier resolved =>
    cases specifier with
    | none =>
      refine ⟨_, [], none, by simp [detachDefault]; rfl, ?_, rfl, rfl, by simp, by simp⟩
      rw [List.append_nil]
      refine edited_filter _ _ (fun entry _ h => .other ?_) fun entry _ h => .erased rfl ?_
      · simpa [siteOf] using h
      · simpa using h
    | some place =>
      refine ⟨_, [], none, by simp [detachDefault]; rfl, ?_, rfl, rfl, by simp, by simp⟩
      rw [List.append_nil]
      exact edited_modify draft _ _ (fun entry _ h => .other h) fun entry _ h => .unlisted rfl h
  | forwarded imported source statement place =>
    let unlisted := draft.modify (.statement statement) (eraseSpecifier place)
    let name := unlisted.freshName (if imported = "default" then settings.componentName else imported)
    let gap := (unlisted.find? (.statement statement)).bind (·.info.gap)
    obtain ⟨before, after, hsplit, hinsert⟩ := entries_insertBefore unlisted (.statement statement)
      ⟨.component, withGap gap (componentImport imported source name)⟩
    have hbody : (before ++ after).map (·.node) = unlisted.body := by rw [← hsplit]; rfl
    refine ⟨before, after, some ⟨.component, withGap gap (componentImport imported source name)⟩,
      by rw [Option.toList_some, List.append_assoc, List.singleton_append]; exact hinsert, ?_, rfl, rfl, ?_, by simp⟩
    · rw [← hsplit]
      exact edited_modify draft _ _ (fun entry _ h => .other h) fun entry _ h => .unlisted rfl h
    · intro entry hentry
      refine ⟨imported, source, statement, place, gap, rfl, (Option.some.inj hentry).symm, ?_,
        freshName_eq_candidate _ _⟩
      rw [hbody]
      exact freshName_not_mem _ _

section Detachment

variable {settings : Settings} {default : DefaultExport} {body : List Node} {result : Draft × String}
  {before after : List Entry} {component? : Option Entry}

lemma DetachStep.origin {fresh : String} {entry entry' : Entry} (h : DetachStep fresh default entry (some entry')) :
    entry'.origin = entry.origin := by
  cases h <;> rfl

lemma Detachment.mem (h : Detachment settings default (.ofBody body) result before after component?)
    {entry : Entry} : entry ∈ result.1.entries ↔ entry ∈ before ++ after ∨ entry ∈ component? := by
  rw [h.entries, List.mem_append, List.mem_append, List.mem_append, Option.mem_toList]
  tauto

/-- A statement of the detached draft stands for one of the body. -/
lemma Detachment.origin (h : Detachment settings default (.ofBody body) result before after component?)
    {entry : Entry} (hentry : entry ∈ before ++ after) : ∃ index statement,
      entry.origin = .statement index ∧ body[index]? = some statement ∧
      DetachStep ((Draft.ofBody body).freshName settings.componentName) default ⟨.statement index, statement⟩
        (some entry) := by
  obtain ⟨source, hsource, hstep⟩ := h.edited.origin hentry
  obtain ⟨index, horigin, hget⟩ := mem_ofBody.mp hsource
  obtain ⟨origin, statement⟩ := source
  cases horigin
  exact ⟨index, statement, hstep.origin, hget, hstep⟩

lemma Detachment.origin_ne (h : Detachment settings default (.ofBody body) result before after component?) :
    ∀ entry ∈ result.1.entries, entry.origin ≠ .descriptor := by
  intro entry hentry
  rcases h.mem.mp hentry with hentry | hentry
  · obtain ⟨index, -, horigin, -⟩ := h.origin hentry
    simp [horigin]
  · obtain ⟨_, _, _, _, _, -, rfl, -⟩ := h.component entry hentry
    simp

lemma Detachment.distinct (h : Detachment settings default (.ofBody body) result before after component?) :
    Distinct result.1 := by
  have hstatements : ((before ++ after).map (·.origin)).Nodup :=
    (distinct_ofBody body).sublist (h.edited.sublist (·.origin) fun _ _ => DetachStep.origin)
  cases hcomponent : component? with
  | none =>
    unfold Distinct
    rwa [h.entries, hcomponent, Option.toList_none, List.append_nil]
  | some entry =>
    obtain ⟨_, _, _, _, _, -, hentry, -⟩ := h.component entry hcomponent
    have hothers : Distinct { entries := before ++ after } := hstatements
    refine distinct_insert hothers rfl
      (by rw [h.entries, hcomponent, Option.toList_some, List.append_assoc, List.singleton_append]) ?_
    intro e he
    obtain ⟨index, -, horigin, -⟩ := h.origin he
    rw [horigin, hentry]
    simp

/-- Detaching leaves declarations of values as they are. -/
lemma Detachment.holdsValues (h : Detachment settings default (.ofBody body) result before after component?)
    {origins : List Origin} (hcomponent : .component ∉ origins)
    (hbody : ∀ entry ∈ (Draft.ofBody body).entries, HoldsValues origins entry) :
    ∀ entry ∈ result.1.entries, HoldsValues origins entry := by
  intro entry hentry
  rcases h.mem.mp hentry with hentry | hentry
  · obtain ⟨source, hsource, hstep⟩ := h.edited.origin hentry
    have hvalues := hbody source hsource
    cases hstep with
    | other _ => exact hvalues
    | unlisted _ _ => exact holdsValues_of_declared hvalues rfl (declared?_eraseSpecifier ..)
    | inlined _ _ =>
      intro hmem
      rw [reworked, inlineStatement_of_declaresValues _ (hvalues hmem)]
      exact hvalues hmem
  · obtain ⟨_, _, _, _, _, -, rfl, -⟩ := h.component entry hentry
    exact fun hmem => absurd hmem hcomponent

lemma Detachment.running (h : Detachment settings default (.ofBody body) result before after component?)
    {name : String} (key : String) {located : Located} (hlocate : locate body name = some located) :
    Running [.statement located.statement] result.1 [(key, located)] where
  distinct := h.distinct
  values := h.holdsValues (by simp)
    (holdsValues_ofBody [located.statement] (by simpa using declaresValues_of_locate hlocate))
  origins := by simp

end Detachment

end RouteMigration.Proofs
