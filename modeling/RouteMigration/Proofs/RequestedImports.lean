import Mathlib.Data.Finset.Card
import RouteMigration.Proofs.KeptImports

/-!
# Requested imports

What the requests for imports come to. They are collected without repetition, those that an import of the body
provides are left out, and every other name joins the first statement that takes names from its source, or a
statement of its own below the directives at the top. Nothing is left to add after that.
-/

namespace RouteMigration.Proofs
open Syntax Route

/-! ### Collecting requests -/

/-- Collects requests one after the other. -/
def collected (requests : List ImportRecord) : PendingImports :=
  requests.foldl (fun pending request => pending.add request.name request.source) {}

lemma eraseDups_concat {α : Type} [DecidableEq α] (l : List α) (a : α) :
    (l ++ [a]).eraseDups = if a ∈ l then l.eraseDups else l.eraseDups ++ [a] := by
  rw [List.eraseDups_append]
  by_cases h : a ∈ l <;> simp [List.removeAll, h, List.eraseDups_cons]

lemma nodup_eraseDups {α : Type} [DecidableEq α] (l : List α) : l.eraseDups.Nodup := by
  induction l using List.reverseRecOn with
  | nil => exact List.nodup_nil
  | append_singleton l a ih =>
    rw [eraseDups_concat]
    by_cases h : a ∈ l
    · rwa [if_pos h]
    · rw [if_neg h, List.nodup_append_comm]
      exact List.nodup_cons.mpr ⟨fun hmem => h (List.mem_eraseDups.mp hmem), ih⟩

/-- What is collected are the distinct requests in the order in which they came first. -/
lemma records_collected (requests : List ImportRecord) : (collected requests).records = requests.eraseDups := by
  induction requests using List.reverseRecOn with
  | nil => rfl
  | append_singleton requests request ih =>
    have hstep : collected (requests ++ [request]) = (collected requests).add request.name request.source := by
      rw [collected, List.foldl_append]
      rfl
    rw [hstep, PendingImports.add, eraseDups_concat, ih]
    simp only [List.mem_eraseDups]
    split
    · exact ih
    · rfl

/-! ### What imports provide -/

/-- The binding provides what is requested: it is the default of the source, or a specifier under its own name that
is not marked as a type. -/
def Binding.Provides (binding : Binding) (request : ImportRecord) : Prop :=
  binding.source = request.source ∧
    (binding.clause = .default request.name ∨ ∃ span, binding.clause = .named { imported := request.name, span })

/-- Whether an import of the body provides what is requested. -/
def isProvided (body : List Node) (request : ImportRecord) : Bool :=
  (importForms body).any fun form => form.source = request.source && bindsAs form request.name

lemma mem_clausesOf_named {form : ImportForm} {specifier : ImportSpecifier} :
    .named specifier ∈ clausesOf form ↔ specifier ∈ form.specifiers := by
  simp [clausesOf]

lemma mem_clausesOf_default {form : ImportForm} {name : String} :
    .default name ∈ clausesOf form ↔ form.defaultName = some name := by
  simp [clausesOf, eq_comm]

lemma bindsAs_iff {form : ImportForm} {name : String} : bindsAs form name = true ↔
    ∃ clause ∈ clausesOf form, clause = .default name ∨ ∃ span, clause = .named { imported := name, span } := by
  rw [bindsAs, Bool.or_eq_true, decide_eq_true_eq, List.any_eq_true]
  constructor
  · rintro (hdefault | ⟨⟨imported, renamed, typeOnly, span⟩, hspecifier, hplain⟩)
    · exact ⟨_, mem_clausesOf_default.mpr hdefault, .inl rfl⟩
    · simp only [Bool.and_eq_true, decide_eq_true_eq, Option.isNone_iff_eq_none, Bool.not_eq_true'] at hplain
      obtain ⟨⟨rfl, rfl⟩, rfl⟩ := hplain
      exact ⟨_, mem_clausesOf_named.mpr hspecifier, .inr ⟨span, rfl⟩⟩
  · rintro ⟨_, hclause, rfl | ⟨span, rfl⟩⟩
    · exact .inl (mem_clausesOf_default.mp hclause)
    · exact .inr ⟨_, mem_clausesOf_named.mp hclause, by simp⟩

lemma isProvided_iff {body : List Node} {request : ImportRecord} :
    isProvided body request = true ↔ ∃ binding ∈ importBindings body, binding.Provides request := by
  rw [isProvided, List.any_eq_true]
  constructor
  · rintro ⟨form, hform, hprovides⟩
    rw [Bool.and_eq_true, decide_eq_true_eq] at hprovides
    obtain ⟨clause, hclause, hplain⟩ := bindsAs_iff.mp hprovides.2
    refine ⟨⟨form.source, form.typeOnly, clause⟩, mem_importBindings_iff.mpr ⟨form, hform, ?_⟩, hprovides.1, hplain⟩
    exact mem_bindingsOf.mpr ⟨rfl, rfl, hclause⟩
  · rintro ⟨binding, hbinding, hsource, hplain⟩
    obtain ⟨form, hform, hmem⟩ := mem_importBindings_iff.mp hbinding
    obtain ⟨hformSource, -, hclause⟩ := mem_bindingsOf.mp hmem
    refine ⟨form, hform, ?_⟩
    rw [Bool.and_eq_true, decide_eq_true_eq, ← hformSource]
    exact ⟨hsource, bindsAs_iff.mpr ⟨binding.clause, hclause, hplain⟩⟩

/-- The names that are requested from a source and that no import of the body provides. -/
def missingNames (body : List Node) (pending : PendingImports) (source : String) : List String :=
  (pending.namesFrom source).filter fun name => !isProvided body ⟨name, source⟩

/-- The sources of requests that no import provides, in the order in which they were requested first. -/
def missingSources (body : List Node) (pending : PendingImports) : List String :=
  pending.sources.filter fun source => !(missingNames body pending source).isEmpty

lemma missingImports_eq (body : List Node) (pending : PendingImports) : missingImports body pending =
    (missingSources body pending).map fun source => (source, missingNames body pending source) := by
  have hnames (source : String) : (pending.namesFrom source).filter (fun name =>
      !((body.filterMap import?).filter (·.source = source)).any (bindsAs · name)) =
        missingNames body pending source := by
    rw [missingNames]
    refine List.filter_congr fun name _ => ?_
    rw [isProvided, importForms, ← List.filterMap_eq_flatMap_toList, List.any_filter]
  rw [missingImports, PendingImports.bySource, List.filterMap_map, missingSources, ← List.filterMap_eq_map,
    List.filterMap_filter]
  refine List.filterMap_congr fun source _ => ?_
  simp only [Function.comp_apply, hnames]
  cases (missingNames body pending source).isEmpty <;> rfl

lemma mem_missingNames {body : List Node} {pending : PendingImports} {name source : String} :
    name ∈ missingNames body pending source ↔
      (⟨name, source⟩ : ImportRecord) ∈ pending.records ∧ isProvided body ⟨name, source⟩ = false := by
  rw [missingNames, List.mem_filter, Bool.not_eq_true', PendingImports.namesFrom, List.mem_map]
  refine and_congr_left fun _ => ⟨?_, fun h => ⟨_, List.mem_filter.mpr ⟨h, by simp⟩, rfl⟩⟩
  rintro ⟨⟨name', source'⟩, hrecord, rfl⟩
  obtain ⟨hmem, hsource⟩ := List.mem_filter.mp hrecord
  obtain rfl := of_decide_eq_true hsource
  exact hmem

lemma missingNames_eq_nil {body : List Node} {pending : PendingImports} {source : String}
    (h : source ∉ missingSources body pending) : missingNames body pending source = [] := by
  by_contra hne
  obtain ⟨name, hname⟩ := List.exists_mem_of_ne_nil _ hne
  refine h (List.mem_filter.mpr ⟨List.mem_eraseDups.mpr ?_, by simpa using hne⟩)
  exact List.mem_map_of_mem (mem_missingNames.mp hname).1

lemma nodup_missingNames {pending : PendingImports} (h : pending.records.Nodup) (body : List Node) (source : String) :
    (missingNames body pending source).Nodup := by
  refine List.Nodup.filter _ (List.Nodup.map_on (fun a ha b hb hname => ?_) (h.filter _))
  have hsource := (of_decide_eq_true (List.mem_filter.mp ha).2).trans (of_decide_eq_true (List.mem_filter.mp hb).2).symm
  obtain ⟨name, source⟩ := a
  obtain ⟨name', source'⟩ := b
  exact ImportRecord.mk.injEq _ _ _ _ ▸ ⟨hname, hsource⟩

/-! ### How many are added -/

/-- The requests that no import provides, source by source. -/
def missingRequests (body : List Node) (pending : PendingImports) : List ImportRecord :=
  (missingSources body pending).flatMap fun source =>
    (missingNames body pending source).map fun name => ⟨name, source⟩

lemma mem_missingRequests {body : List Node} {pending : PendingImports} {request : ImportRecord} :
    request ∈ missingRequests body pending ↔ request ∈ pending.records ∧ isProvided body request = false := by
  rw [missingRequests, List.mem_flatMap]
  constructor
  · rintro ⟨source, -, hrequest⟩
    obtain ⟨name, hname, rfl⟩ := List.mem_map.mp hrequest
    exact mem_missingNames.mp hname
  · intro h
    have hname := mem_missingNames.mpr h
    refine ⟨request.source, ?_, List.mem_map.mpr ⟨request.name, hname, rfl⟩⟩
    by_contra hsource
    rw [missingNames_eq_nil hsource] at hname
    cases hname

lemma nodup_missingRequests {pending : PendingImports} (h : pending.records.Nodup) (body : List Node) :
    (missingRequests body pending).Nodup := by
  refine List.nodup_flatMap.mpr ⟨fun source _ => ?_, ?_⟩
  · refine (nodup_missingNames h body source).map fun a b hab => ?_
    exact congrArg ImportRecord.name hab
  · refine ((nodup_eraseDups _).filter _).imp fun {a b} hne request ha hb => hne ?_
    obtain ⟨name, -, rfl⟩ := List.mem_map.mp ha
    obtain ⟨name', -, hname'⟩ := List.mem_map.mp hb
    exact (congrArg ImportRecord.source hname').symm

lemma importCount_eq (body : List Node) (pending : PendingImports) :
    importCount body pending = (missingRequests body pending).length := by
  rw [importCount, missingImports_eq, missingRequests, List.flatMap_map, List.length_flatMap, List.length_flatMap]
  simp

/-- What is added are the distinct requests that no import provides. -/
lemma importCount_collected (body : List Node) (requests : List ImportRecord) :
    importCount body (collected requests) =
      (requests.toFinset.filter fun request => isProvided body request = false).card := by
  have hrecords : (collected requests).records.Nodup := by
    rw [records_collected]
    exact nodup_eraseDups requests
  rw [importCount_eq, ← List.toFinset_card_of_nodup (nodup_missingRequests hrecords body)]
  congr 1
  ext request
  rw [List.mem_toFinset, mem_missingRequests, records_collected, List.mem_eraseDups, Finset.mem_filter,
    List.mem_toFinset]

/-! ### Where they are added -/

lemma import?_of_isDirective {statement : Node} (h : isDirective statement = true) : import? statement = none := by
  obtain ⟨info, form⟩ := statement
  cases form <;> first | rfl | cases h

lemma isDirective_mapImport (f : ImportForm → ImportForm) (statement : Node) :
    isDirective (mapImport f statement) = isDirective statement := by
  obtain ⟨info, form⟩ := statement
  cases form <;> rfl

lemma takesNamesFrom_addSpecifiers (source : String) (specifiers : List ImportSpecifier) (statement : Node) :
    takesNamesFrom source (mapImport (addSpecifiers specifiers) statement) = takesNamesFrom source statement := by
  obtain ⟨info, form⟩ := statement
  cases form <;> rfl

/-- The statement at an index of a body, with the names that it takes when it is the first to take names from
its source. -/
def withNames (names : String → List String) (body : List Node) (index : Nat) (statement : Node) : Node :=
  match import? statement with
  | some form =>
    if body.findIdx? (takesNamesFrom form.source) = some index then
      mapImport (addSpecifiers (specifiersOf (names form.source))) statement
    else statement
  | none => statement

/-- The body with the missing names in the statements that take them. -/
def withMissing (body : List Node) (pending : PendingImports) : List Node :=
  body.mapIdx (withNames (missingNames body pending) body)

lemma getElem?_mergeNames (body : List Node) (source : String) (names : List String) (index : Nat) :
    (mergeNames body (source, names))[index]? = body[index]?.map fun statement =>
      if body.findIdx? (takesNamesFrom source) = some index then
        mapImport (addSpecifiers (specifiersOf names)) statement
      else statement := by
  rw [mergeNames]
  cases h : body.findIdx? (takesNamesFrom source) with
  | none => simp
  | some first => simp [List.getElem?_modify]

lemma findIdx?_mergeNames (body : List Node) (request : String × List String) (source : String) :
    (mergeNames body request).findIdx? (takesNamesFrom source) = body.findIdx? (takesNamesFrom source) := by
  have hmap : (mergeNames body request).map (takesNamesFrom source) = body.map (takesNamesFrom source) := by
    refine List.ext_getElem? fun index => ?_
    rw [List.getElem?_map, List.getElem?_map, getElem?_mergeNames, Option.map_map]
    congr 1
    funext statement
    rw [Function.comp_apply]
    split
    · exact takesNamesFrom_addSpecifiers ..
    · rfl
  have hid (l : List Node) : l.findIdx? (takesNamesFrom source) = (l.map (takesNamesFrom source)).findIdx? id := by
    rw [List.findIdx?_map]
    rfl
  rw [hid, hmap, ← hid]

lemma addSpecifiers_nil (statement : Node) : mapImport (addSpecifiers (specifiersOf [])) statement = statement := by
  obtain ⟨info, form⟩ := statement
  cases form <;> simp [mapImport, Node.form, Node.withForm, Node.info, addSpecifiers, specifiersOf]

lemma withNames_of_none {names : String → List String} {body : List Node} {index : Nat} {statement : Node}
    (h : import? statement = none) : withNames names body index statement = statement := by
  rw [withNames, h]

lemma withNames_of_import {names : String → List String} {body : List Node} {index : Nat} {statement : Node}
    {form : ImportForm} (h : import? statement = some form) : withNames names body index statement =
      if body.findIdx? (takesNamesFrom form.source) = some index then
        mapImport (addSpecifiers (specifiersOf (names form.source))) statement
      else statement := by
  rw [withNames, h]

lemma mapImport_of_none {statement : Node} (h : import? statement = none) (f : ImportForm → ImportForm) :
    mapImport f statement = statement := by
  obtain ⟨info, form⟩ := statement
  cases form <;> first | rfl | cases h

/-- A statement takes the names of one request and then those of requests for other sources. -/
lemma withNames_cons {source : String} {sources : List String} (hsource : source ∉ sources)
    (names : String → List String) {body : List Node} {index : Nat} {statement : Node}
    (hget : body[index]? = some statement) :
    withNames (fun s => if s ∈ sources then names s else []) (mergeNames body (source, names source)) index
        (if body.findIdx? (takesNamesFrom source) = some index then
          mapImport (addSpecifiers (specifiersOf (names source))) statement
        else statement) =
      withNames (fun s => if s ∈ source :: sources then names s else []) body index statement := by
  cases himport : import? statement with
  | none =>
    rw [mapImport_of_none himport, ite_self, withNames_of_none himport, withNames_of_none himport]
  | some form =>
    rw [withNames_of_import himport]
    by_cases hfirst : body.findIdx? (takesNamesFrom source) = some index
    · obtain ⟨hlt, htakes, -⟩ := List.findIdx?_eq_some_iff_getElem.mp hfirst
      obtain ⟨form', himport', hform, -⟩ := takesNamesFrom_iff.mp htakes
      rw [(List.getElem?_eq_some_iff.mp hget).2, himport] at himport'
      obtain rfl := Option.some.inj himport'
      subst hform
      have hadded : (addSpecifiers (specifiersOf (names form.source)) form).source = form.source := rfl
      rw [if_pos hfirst, withNames_of_import (mapImport_of_import himport _), hadded, findIdx?_mergeNames,
        if_pos hfirst, if_pos hfirst, if_neg hsource, addSpecifiers_nil, if_pos (List.mem_cons_self ..)]
    · rw [if_neg hfirst, withNames_of_import himport, findIdx?_mergeNames]
      by_cases htaken : body.findIdx? (takesNamesFrom form.source) = some index
      · have hne : form.source ≠ source := fun heq => hfirst (heq ▸ htaken)
        simp only [htaken, if_true, List.mem_cons, hne, false_or]
      · rw [if_neg htaken, if_neg htaken]

/-- Merging requests for different sources one after the other gives every statement its names at once. -/
lemma foldl_mergeNames {sources : List String} (hsources : sources.Nodup) (names : String → List String)
    (body : List Node) : (sources.map fun source => (source, names source)).foldl mergeNames body =
      body.mapIdx (withNames (fun source => if source ∈ sources then names source else []) body) := by
  induction sources generalizing body with
  | nil =>
    refine List.ext_getElem? fun index => ?_
    have hnone (statement : Node) : withNames (fun source => if source ∈ ([] : List String) then names source else [])
        body index statement = statement := by
      cases himport : import? statement with
      | none => exact withNames_of_none himport
      | some form => rw [withNames_of_import himport, if_neg List.not_mem_nil, addSpecifiers_nil, ite_self]
    rw [List.map_nil, List.foldl_nil, List.getElem?_mapIdx, funext hnone, Option.map_id']
  | cons source sources ih =>
    obtain ⟨hsource, hrest⟩ := List.nodup_cons.mp hsources
    rw [List.map_cons, List.foldl_cons, ih hrest]
    refine List.ext_getElem? fun index => ?_
    rw [List.getElem?_mapIdx, List.getElem?_mapIdx, getElem?_mergeNames, Option.map_map]
    exact Option.map_congr fun statement hstatement => withNames_cons hsource names hstatement

lemma foldl_missingImports (body : List Node) (pending : PendingImports) :
    (missingImports body pending).foldl mergeNames body = withMissing body pending := by
  have hnames : (fun source => if source ∈ missingSources body pending then missingNames body pending source else []) =
      missingNames body pending := by
    funext source
    by_cases h : source ∈ missingSources body pending
    · rw [if_pos h]
    · rw [if_neg h, missingNames_eq_nil h]
  have hsources : (missingSources body pending).Nodup := (nodup_eraseDups _).filter _
  rw [missingImports_eq, foldl_mergeNames hsources, hnames, withMissing]

/-- The statements of their own that missing names get, one for each source that no statement takes names from. -/
def newImports (body : List Node) (pending : PendingImports) : List Node :=
  ((missingSources body pending).filter fun source => !body.any (takesNamesFrom source)).map fun source =>
    Node.make (.importDeclaration { source, specifiers := specifiersOf (missingNames body pending source) })

/-- The directives that a body starts with. -/
def leadingDirectives (body : List Node) : List Node :=
  body.takeWhile isDirective

lemma isDirective_withNames (names : String → List String) (body : List Node) (index : Nat) (statement : Node) :
    isDirective (withNames names body index statement) = isDirective statement := by
  cases himport : import? statement with
  | none => rw [withNames_of_none himport]
  | some form =>
    rw [withNames_of_import himport]
    split
    · exact isDirective_mapImport _ statement
    · rfl

/-- A map that leaves alone what the predicate holds of, and nothing else comes to satisfy it. -/
lemma takeWhile_mapIdx {α : Type} {p : α → Bool} {f : Nat → α → α} (hp : ∀ i a, p (f i a) = p a)
    (hfix : ∀ i a, p a = true → f i a = a) (l : List α) : (l.mapIdx f).takeWhile p = l.takeWhile p := by
  induction l generalizing f with
  | nil => rfl
  | cons a l ih =>
    rw [List.mapIdx_cons, List.takeWhile_cons, List.takeWhile_cons, hp]
    split
    · next ha => rw [hfix 0 a ha, ih (fun i a => hp (i + 1) a) fun i a => hfix (i + 1) a]
    · rfl

/-- Names that statements take leave the directives at the top as they are. -/
lemma takeWhile_withMissing (body : List Node) (pending : PendingImports) :
    (withMissing body pending).takeWhile isDirective = leadingDirectives body :=
  takeWhile_mapIdx (isDirective_withNames _ body) (fun _ _ h => withNames_of_none (import?_of_isDirective h)) body

lemma take_withMissing (body : List Node) (pending : PendingImports) :
    (withMissing body pending).take (leadingDirectives body).length = leadingDirectives body := by
  have hprefix : leadingDirectives body <+: withMissing body pending := by
    rw [← takeWhile_withMissing body pending]
    exact List.takeWhile_prefix _
  exact (List.prefix_iff_eq_take.mp hprefix).symm

/-- Requested imports join statements that take them or stand below the directives at the top. -/
theorem applyImports_placed (body : List Node) (pending : PendingImports) :
    applyImports body pending = leadingDirectives body ++ newImports body pending ++
      (withMissing body pending).drop (leadingDirectives body).length := by
  have hfresh : ((missingImports body pending).filter fun request => !body.any (takesNamesFrom request.1)).map
      (fun request => Node.make (.importDeclaration
        { source := request.1, specifiers := specifiersOf request.2 })) = newImports body pending := by
    rw [missingImports_eq, List.filter_map, List.map_map]
    rfl
  have hdrop : (withMissing body pending).drop (leadingDirectives body).length =
      (withMissing body pending).dropWhile isDirective := by
    rw [← takeWhile_withMissing body pending]
    nth_rewrite 2 [← @List.takeWhile_append_dropWhile _ isDirective (withMissing body pending)]
    exact List.drop_left
  rw [applyImports, foldl_missingImports, List.span_eq_takeWhile_dropWhile, takeWhile_withMissing, hdrop, ← hfresh]

/-! ### Adding them again -/

/-- What is requested is provided afterwards. -/
lemma isProvided_applyImports (body : List Node) {pending : PendingImports} {request : ImportRecord}
    (h : request ∈ pending.records) : isProvided (applyImports body pending) request = true := by
  have hperm := importBindings_applyImports body pending
  rw [isProvided_iff]
  by_cases hbefore : isProvided body request = true
  · obtain ⟨binding, hbinding, hprovides⟩ := isProvided_iff.mp hbefore
    exact ⟨binding, hperm.symm.subset (List.mem_append_left _ hbinding), hprovides⟩
  · rw [Bool.not_eq_true] at hbefore
    have hname := mem_missingNames.mpr ⟨h, hbefore⟩
    have hsource : request.source ∈ missingSources body pending := by
      by_contra hsource
      rw [missingNames_eq_nil hsource] at hname
      cases hname
    refine ⟨⟨request.source, false, .named { imported := request.name }⟩,
      hperm.symm.subset (List.mem_append_right _ ?_), rfl, .inr ⟨none, rfl⟩⟩
    rw [requestedBindings, missingImports_eq, List.flatMap_map]
    exact List.mem_flatMap.mpr ⟨_, hsource, List.mem_map_of_mem (List.mem_map_of_mem hname)⟩

lemma missingImports_applyImports (body : List Node) (pending : PendingImports) :
    missingImports (applyImports body pending) pending = [] := by
  have hsources : missingSources (applyImports body pending) pending = [] := by
    refine List.filter_eq_nil_iff.mpr fun source _ => ?_
    have hnames : missingNames (applyImports body pending) pending source = [] := by
      rw [List.eq_nil_iff_forall_not_mem]
      intro name hname
      obtain ⟨hrecord, hmissing⟩ := mem_missingNames.mp hname
      rw [isProvided_applyImports body hrecord] at hmissing
      cases hmissing
    simp [hnames]
  rw [missingImports_eq, hsources, List.map_nil]

lemma applyImports_of_missing_nil {body : List Node} {pending : PendingImports}
    (h : missingImports body pending = []) : applyImports body pending = body := by
  rw [applyImports, h, List.foldl_nil, List.span_eq_takeWhile_dropWhile]
  exact (congrArg (· ++ _) (List.append_nil _)).trans List.takeWhile_append_dropWhile

/-! ### The directives at the top -/

/-- A statement that is known by its text and its kind alone. -/
def isOfKind (kind : String) (statement : Node) : Bool :=
  match statement.form with
  | .otherStatement node => node.isVerbatim kind
  | _ => false

lemma isDirective_of_isOfKind {kind : String} (hkind : kind ≠ "expression_statement") {statement : Node}
    (h : isOfKind kind statement = true) : isDirective statement = false := by
  rw [isOfKind] at h
  rw [isDirective]
  split at h
  · next node hform =>
    have hother : node.isVerbatim "expression_statement" = false := by
      rw [Node.isVerbatim, decide_eq_true_eq] at h
      rw [Node.isVerbatim, h, decide_eq_false_iff_not, Option.some.injEq]
      exact hkind
    simp only [hform, hother, Bool.false_and]
  · cases h

/-- A comment that stands between the statements. -/
def isComment (statement : Node) : Bool :=
  isOfKind "comment" statement

/-- One of the comments stands above one of the directives. -/
def CommentAboveDirective (top : List Node) : Prop :=
  ∃ above comment below, top = above ++ comment :: below ∧ isComment comment = true ∧
    ∃ directive ∈ below, isDirective directive = true

lemma isDirective_of_isComment {statement : Node} (h : isComment statement = true) : isDirective statement = false :=
  isDirective_of_isOfKind (by decide) h

/-- Up to the first element that fails a predicate stands everything of a kind that the predicate implies, if and
only if nothing of that kind fails the predicate or stands below something that does. -/
lemma filter_sublist_takeWhile_iff {α : Type} {p q : α → Bool} (hpq : ∀ a, p a = true → q a = true) (l rest : List α) :
    (l.filter q).Sublist ((l ++ rest).takeWhile p) ↔
      ¬ ∃ above a below, l = above ++ a :: below ∧ p a = false ∧ ∃ b ∈ a :: below, q b = true := by
  induction l with
  | nil => simp
  | cons head l ih =>
    rw [List.cons_append]
    by_cases hhead : p head = true
    · rw [List.filter_cons_of_pos (hpq head hhead), List.takeWhile_cons_of_pos hhead, List.cons_sublist_cons, ih]
      refine not_congr ⟨?_, ?_⟩
      · rintro ⟨above, a, below, rfl, ha, hb⟩
        exact ⟨head :: above, a, below, rfl, ha, hb⟩
      · rintro ⟨above, a, below, hsplit, ha, hb⟩
        cases above with
        | nil =>
          obtain ⟨rfl, -⟩ := List.cons.inj hsplit
          rw [hhead] at ha
          cases ha
        | cons _ above => exact ⟨above, a, below, (List.cons.inj hsplit).2, ha, hb⟩
    · rw [List.takeWhile_cons_of_neg hhead, List.sublist_nil, List.filter_eq_nil_iff]
      rw [Bool.not_eq_true] at hhead
      constructor
      · rintro hnone ⟨above, a, below, hsplit, -, b, hb, hq⟩
        refine hnone b ?_ hq
        rw [hsplit]
        exact List.mem_append_right _ hb
      · intro hnone b hb hq
        exact hnone ⟨[], head, l, rfl, hhead, b, hb, hq⟩

/-- Requests are added exactly once. The answer is the number of the distinct requests that no import provided.
Every statement and specifier keeps its place, and every missing name comes in once: in the first statement that
takes names from its source, or in one new statement for the source. The new statements stand together, in the
order in which their sources were requested first, below the directives that the body starts with; these are all
the directives at the top if and only if no comment stands above one of them. Adding the same requests again adds
nothing and changes nothing. -/
theorem applyImports_exact (body : List Node) (requests : List ImportRecord) :
    (collected requests).records = requests.eraseDups ∧
    importCount body (collected requests) =
      (requests.toFinset.filter fun request => isProvided body request = false).card ∧
    applyImports body (collected requests) = leadingDirectives body ++ newImports body (collected requests) ++
      (withMissing body (collected requests)).drop (leadingDirectives body).length ∧
    (withMissing body (collected requests)).take (leadingDirectives body).length = leadingDirectives body ∧
    (∀ source, (missingNames body (collected requests) source).Nodup) ∧
    importCount (applyImports body (collected requests)) (collected requests) = 0 ∧
    applyImports (applyImports body (collected requests)) (collected requests) =
      applyImports body (collected requests) ∧
    ∀ top rest, body = top ++ rest → (∀ statement ∈ top, isDirective statement = true ∨ isComment statement = true) →
      ((top.filter isDirective).Sublist (leadingDirectives body) ↔ ¬ CommentAboveDirective top) := by
  have hrecords : (collected requests).records.Nodup := by
    rw [records_collected]
    exact nodup_eraseDups requests
  have hmissing := missingImports_applyImports body (collected requests)
  refine ⟨records_collected requests, importCount_collected body requests, applyImports_placed body _,
    take_withMissing body _, nodup_missingNames hrecords body, ?_, applyImports_of_missing_nil hmissing, ?_⟩
  · rw [importCount, hmissing]
    rfl
  · rintro top rest rfl htop
    rw [leadingDirectives, filter_sublist_takeWhile_iff fun _ h => h]
    refine not_congr ⟨?_, ?_⟩
    · rintro ⟨above, comment, below, rfl, hother, directive, hmem, hdirective⟩
      have hcomment := (htop comment (List.mem_append_right _ (List.mem_cons_self ..))).resolve_left (by simp [hother])
      refine ⟨above, comment, below, rfl, hcomment, directive, (List.mem_cons.mp hmem).resolve_left ?_, hdirective⟩
      rintro rfl
      rw [hother] at hdirective
      cases hdirective
    · rintro ⟨above, comment, below, rfl, hcomment, directive, hmem, hdirective⟩
      exact ⟨above, comment, below, rfl, isDirective_of_isComment hcomment, directive,
        List.mem_cons_of_mem _ hmem, hdirective⟩

/-- A comment above a directive. -/
def notedDirective : List Node :=
  let line (kind text : String) : Node :=
    ⟨{ raw := some text }, .otherStatement (.make (.verbatim kind [.text text] false))⟩
  [line "comment" "// only in the browser", line "expression_statement" "'use client';"]

/-- The new import of a module that starts with a comment stands above its directive. -/
theorem notedDirective_applied : ∃ comment directive, notedDirective = [comment, directive] ∧
    isComment comment = true ∧ isDirective directive = true ∧
    applyImports notedDirective (collected [⟨"Link", "@tanstack/react-router"⟩]) =
      Node.make (.importDeclaration
        { source := "@tanstack/react-router", specifiers := [{ imported := "Link" }] }) :: [comment, directive] ∧
    ¬ (([comment, directive] : List Node).filter isDirective).Sublist (leadingDirectives [comment, directive]) := by
  obtain ⟨-, -, -, -, -, -, -, hplace⟩ := applyImports_exact notedDirective [⟨"Link", "@tanstack/react-router"⟩]
  have htop : ∀ statement ∈ notedDirective, isDirective statement = true ∨ isComment statement = true :=
    List.forall_mem_cons.mpr ⟨.inr rfl, List.forall_mem_singleton.mpr (.inl rfl)⟩
  refine ⟨_, _, rfl, rfl, rfl, rfl, fun hsublist => ?_⟩
  exact (hplace notedDirective [] (List.append_nil _).symm htop).mp hsublist
    ⟨[], _, _, rfl, rfl, _, List.mem_singleton_self _, rfl⟩

end RouteMigration.Proofs
