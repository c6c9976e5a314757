import RouteMigration.Proofs.LeadingStatements
import RouteMigration.Proofs.RequestedImports

/-!
# Directives at the top

Directives and a hash-bang line take effect only above all imports. A new import comes in below the directives that a
body starts with, and these end at the first comment or hash-bang line. So a hash-bang line, and every directive below
a comment, comes to stand below the import.
-/

namespace RouteMigration.Proofs
open Syntax Route

/-- The line that names the program for a file. -/
def isHashBang (statement : Node) : Bool :=
  isOfKind "hash_bang_line" statement

/-- Whether a statement takes effect only above all imports. -/
def isTopmost (statement : Node) : Bool :=
  isDirective statement || isHashBang statement

/-- The statements stand in this order above every import of the body. -/
def StandAbove (statements body : List Node) : Prop :=
  ∃ above below, body = above ++ below ∧ statements.Sublist above ∧ ∀ statement ∈ above, import? statement = none

/-- There is a hash-bang line at the top, or a comment above a directive. -/
def IsObstructed (top : List Node) : Prop :=
  (∃ line ∈ top, isHashBang line = true) ∨ CommentAboveDirective top

/-- What may stand at the top of a file: directives, a hash-bang line and comments. -/
def IsOpening (top : List Node) : Prop :=
  ∀ statement ∈ top, isDirective statement = true ∨ isHashBang statement = true ∨ isComment statement = true

section Opening

variable {top rest added result : List Node}

lemma IsOpening.other (h : IsOpening top) {statement : Node} (hstatement : statement ∈ top) :
    ∃ node, statement.form = .otherStatement node := by
  have hopening := h statement hstatement
  rw [isDirective, isHashBang, isComment, isOfKind, isOfKind] at hopening
  cases hform : statement.form with
  | otherStatement node => exact ⟨node, rfl⟩
  | _ => simp [hform] at hopening

lemma IsOpening.import_eq_none (h : IsOpening top) : ∀ statement ∈ top, import? statement = none := by
  intro statement hstatement
  obtain ⟨node, hform⟩ := h.other hstatement
  rw [import?, hform]

lemma IsOpening.isEmptied_eq_false (h : IsOpening top) : ∀ statement ∈ top, isEmptied statement = false := by
  intro statement hstatement
  obtain ⟨node, hform⟩ := h.other hstatement
  rw [isEmptied, hform]

lemma isDirective_of_isHashBang {statement : Node} (h : isHashBang statement = true) :
    isDirective statement = false :=
  isDirective_of_isOfKind (by decide) h

/-- What obstructs the top is no directive, and it stands above one or is a hash-bang line or stands above that. -/
lemma IsOpening.isObstructed_iff (h : IsOpening top) : IsObstructed top ↔ ∃ above statement below,
    top = above ++ statement :: below ∧ isDirective statement = false ∧
      ∃ other ∈ statement :: below, isTopmost other = true := by
  constructor
  · rintro (⟨line, hline, hhashBang⟩ | ⟨above, comment, below, rfl, hcomment, directive, hmem, hdirective⟩)
    · obtain ⟨above, below, rfl⟩ := List.append_of_mem hline
      refine ⟨above, line, below, rfl, isDirective_of_isHashBang hhashBang, line, List.mem_cons_self .., ?_⟩
      rw [isTopmost, hhashBang, Bool.or_true]
    · refine ⟨above, comment, below, rfl, isDirective_of_isComment hcomment, directive, List.mem_cons_of_mem _ hmem, ?_⟩
      rw [isTopmost, hdirective, Bool.true_or]
  · rintro ⟨above, statement, below, rfl, hother, topmost, hmem, htopmost⟩
    have htop : topmost ∈ above ++ statement :: below := List.mem_append_right _ hmem
    rw [isTopmost, Bool.or_eq_true] at htopmost
    rcases htopmost with hdirective | hhashBang
    · have hbelow : topmost ∈ below := by
        apply (List.mem_cons.mp hmem).resolve_left
        rintro rfl
        cases hother.symm.trans hdirective
      rcases h statement (List.mem_append_right _ (List.mem_cons_self ..)) with hsame | hhashBang | hcomment
      · cases hother.symm.trans hsame
      · exact .inl ⟨statement, List.mem_append_right _ (List.mem_cons_self ..), hhashBang⟩
      · exact .inr ⟨above, statement, below, rfl, hcomment, topmost, hbelow, hdirective⟩
    · exact .inl ⟨topmost, htop, hhashBang⟩

/-! ### Where new imports stand -/

/-- Above every import stands what is above the first of those that were added. -/
lemma standAbove_iff_of_added {above below statements : List Node} (habove : ∀ statement ∈ above, import? statement = none)
    (hadded : ∀ statement ∈ added, (import? statement).isSome) :
    StandAbove statements (above ++ added ++ below) ↔
      (added = [] ∧ StandAbove statements (above ++ below)) ∨ statements.Sublist above := by
  constructor
  · rintro ⟨first, second, hsplit, hsublist, hfirst⟩
    cases added with
    | nil =>
      rw [List.append_nil] at hsplit
      exact .inl ⟨rfl, first, second, hsplit, hsublist, hfirst⟩
    | cons statement added =>
      rw [List.append_assoc, List.append_eq_append_iff] at hsplit
      rcases hsplit with ⟨more, rfl, hmore⟩ | ⟨more, rfl, -⟩
      · cases more with
        | nil =>
          rw [List.append_nil] at hsublist
          exact .inr hsublist
        | cons other more =>
          obtain ⟨rfl, -⟩ := List.cons.inj hmore
          have hnone := hfirst statement (List.mem_append_right _ (List.mem_cons_self ..))
          have hsome := hadded statement (List.mem_cons_self ..)
          rw [hnone] at hsome
          cases hsome
      · exact .inr (hsublist.trans (List.sublist_append_left ..))
  · rintro (⟨rfl, hstand⟩ | hsublist)
    · rwa [List.append_nil]
    · exact ⟨above, added ++ below, List.append_assoc .., hsublist, habove⟩

/-- The added statements stand below the directives that a body starts with. Apart from them, the result starts with
the top of the body. -/
def BelowDirectives (top rest added result : List Node) : Prop :=
  ∃ below, result = leadingDirectives (top ++ rest) ++ added ++ below ∧
    top <+: leadingDirectives (top ++ rest) ++ below

lemma isOpening_leadingDirectives (body : List Node) : IsOpening (leadingDirectives body) :=
  fun _ hstatement => .inl (List.mem_takeWhile_imp hstatement)

lemma isPrefix_withMissing (h : ∀ statement ∈ top, import? statement = none) (rest : List Node)
    (pending : PendingImports) : top <+: withMissing (top ++ rest) pending := by
  rw [List.prefix_iff_getElem?]
  intro index hindex
  rw [withMissing, List.getElem?_mapIdx, List.getElem?_append_left hindex, List.getElem?_eq_getElem hindex,
    Option.map_some, withNames_of_none (h _ (List.getElem_mem hindex))]

lemma IsOpening.belowDirectives (h : IsOpening top) (rest : List Node) (pending : PendingImports) :
    BelowDirectives top rest (newImports (top ++ rest) pending) (applyImports (top ++ rest) pending) := by
  refine ⟨_, applyImports_placed (top ++ rest) pending, ?_⟩
  nth_rewrite 1 [← take_withMissing (top ++ rest) pending]
  rw [List.take_append_drop]
  exact isPrefix_withMissing h.import_eq_none rest pending

lemma import_of_mem_newImports {body : List Node} {pending : PendingImports} :
    ∀ statement ∈ newImports body pending, (import? statement).isSome := by
  intro statement hstatement
  obtain ⟨source, -, rfl⟩ := List.mem_map.mp hstatement
  rfl

lemma pruneExports_of_none {body : List Node} (h : ∀ statement ∈ body, isEmptied statement = false) :
    pruneExports body = body := by
  apply List.filter_eq_self.mpr
  intro statement hstatement
  rw [h statement hstatement]
  rfl

/-- Pruning lists of exports moves none of these statements. -/
lemma BelowDirectives.prune (h : BelowDirectives top rest added result) (htop : IsOpening top)
    (hadded : ∀ statement ∈ added, (import? statement).isSome) :
    BelowDirectives top rest added (pruneExports result) := by
  obtain ⟨below, rfl, hprefix⟩ := h
  have hdirectives : pruneExports (leadingDirectives (top ++ rest)) = leadingDirectives (top ++ rest) :=
    pruneExports_of_none (isOpening_leadingDirectives _).isEmptied_eq_false
  have himports : pruneExports added = added := by
    apply pruneExports_of_none
    intro statement hstatement
    obtain ⟨form, hform⟩ := import?_isSome (hadded statement hstatement)
    rw [isEmptied, hform]
  have hpruned : pruneExports top <+: pruneExports (leadingDirectives (top ++ rest) ++ below) := hprefix.filter _
  rw [pruneExports_of_none htop.isEmptied_eq_false] at hpruned
  refine ⟨pruneExports below, ?_, ?_⟩
  · nth_rewrite 2 [← hdirectives]
    nth_rewrite 2 [← himports]
    simp only [pruneExports, List.filter_append]
  · nth_rewrite 1 [← hdirectives]
    simpa only [pruneExports, List.filter_append] using hpruned

/-- Directives and a hash-bang line at the top stay above every import if and only if nothing is added among them or
nothing obstructs them. -/
theorem BelowDirectives.standAbove_iff (h : BelowDirectives top rest added result) (htop : IsOpening top)
    (hadded : ∀ statement ∈ added, (import? statement).isSome) :
    StandAbove (top.filter isTopmost) result ↔ added = [] ∨ ¬ IsObstructed top := by
  obtain ⟨below, rfl, others, hothers⟩ := h
  have hstand : StandAbove (top.filter isTopmost) (leadingDirectives (top ++ rest) ++ below) :=
    ⟨top, others, hothers.symm, List.filter_sublist, htop.import_eq_none⟩
  have htopmost (statement : Node) (hdirective : isDirective statement = true) : isTopmost statement = true := by
    rw [isTopmost, hdirective, Bool.true_or]
  rw [standAbove_iff_of_added (isOpening_leadingDirectives _).import_eq_none hadded, and_iff_left hstand,
    leadingDirectives, filter_sublist_takeWhile_iff htopmost, htop.isObstructed_iff]

end Opening

/-! ### Migrated modules -/

/-- Directives and a hash-bang line that a body starts with, comments apart, stand above every import when requested
imports have been added, if and only if no statement was added for them, or there is no hash-bang line and no comment
above a directive. The same holds of a module and the result of its finalized migration. -/
theorem migrate_leadingDirectives (settings : Settings) (module : Module) :
    (∀ top rest pending, IsOpening top → (StandAbove (top.filter isTopmost) (applyImports (top ++ rest) pending) ↔
      newImports (top ++ rest) pending = [] ∨ ¬ IsObstructed top)) ∧
    ∀ migrated kind path advisories, migrate settings module = .ok migrated →
      migrated.outcome = .finalized kind path advisories →
      ∃ draft, draftOf settings module (RoutePath.ofFile module.path settings.routesRoot) = .ok (.ok (kind, draft)) ∧
        ∀ top rest, module.body = top ++ rest → IsOpening top →
          ∃ others, dropLegacy settings module.referencedNames draft.body = top ++ others ∧
            (StandAbove (top.filter isTopmost) migrated.module.body ↔
              newImports (top ++ others) (pendingImports settings kind) = [] ∨ ¬ IsObstructed top) := by
  constructor
  · intro top rest pending htop
    exact (htop.belowDirectives rest pending).standAbove_iff htop import_of_mem_newImports
  · intro migrated kind path advisories h hfinal
    obtain ⟨draft, hdraft, hfinish⟩ := finalized_body h hfinal
    refine ⟨draft, hdraft, fun top rest hbody htop => ?_⟩
    have hleads : Leads module top := leads_of_other ⟨rest, hbody.symm⟩ fun _ => htop.other
    obtain ⟨others, hothers⟩ := isPrefix_dropLegacy ((draftOf_eq_ok hdraft).leads hleads) htop.import_eq_none
      settings module.referencedNames
    refine ⟨others, hothers.symm, ?_⟩
    rw [hfinish, finish, ← hothers]
    have hbelow := (htop.belowDirectives others (pendingImports settings kind)).prune htop import_of_mem_newImports
    exact hbelow.standAbove_iff htop import_of_mem_newImports

/-- A page with a comment above its directive. -/
def notedPage : Module where
  path := "routes/notes.tsx"
  body :=
    let params := .make (.parameters [] none)
    notedDirective ++ [exportedConstant "loader" (.make (.arrowFunction { params, body := .make (.block []) })),
      .make (.exportDefault (.make (.arrowFunction { params, body := .make (.block []) })))]

/-- The import of its factory stands above the directive. -/
theorem notedPage_obstructed : ∃ migrated, migrate defaultSettings notedPage = .ok migrated ∧
    migrated.outcome = .finalized .page "/notes" [] ∧ notedPage.body.take 2 = notedDirective ∧
    ¬ StandAbove (notedDirective.filter isTopmost) migrated.module.body := by
  obtain ⟨migrated, hmigrated, hfinal⟩ : ∃ migrated, migrate defaultSettings notedPage = .ok migrated ∧
      migrated.outcome = .finalized .page "/notes" [] := ⟨_, rfl, rfl⟩
  have htop : IsOpening notedDirective :=
    List.forall_mem_cons.mpr ⟨.inr (.inr rfl), List.forall_mem_singleton.mpr (.inl rfl)⟩
  obtain ⟨-, hfinalized⟩ := migrate_leadingDirectives defaultSettings notedPage
  obtain ⟨draft, hdraft, hleading⟩ := hfinalized migrated .page "/notes" [] hmigrated hfinal
  obtain ⟨others, hothers, hstand⟩ := hleading notedDirective _ rfl htop
  refine ⟨migrated, hmigrated, hfinal, rfl, fun habove => ?_⟩
  rcases hstand.mp habove with hnone | hfree
  · cases hdraft
    rw [← hothers] at hnone
    cases hnone
  · exact hfree (.inr ⟨[], _, _, rfl, rfl, _, List.mem_cons_self .., rfl⟩)

end RouteMigration.Proofs
