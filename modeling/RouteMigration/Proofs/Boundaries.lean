import RouteMigration.Proofs.SourceFidelity

/-!
# Boundaries of statements

The text of a migrated module has its statements one below the other, each set apart by a line break. Between two
statements that follow one another in the source and still do, stands what the source has there, if it breaks the
line. What else comes together in the migrated module is set apart without a look at the source.
-/

namespace RouteMigration.Proofs
open Syntax Route Printer Grammar

/-! ### Gaps of the source -/

/-- Two statements follow one another in a body. -/
def Follows (body : List Node) (previous next : Node) : Prop :=
  ∃ before after, body = before ++ previous :: next :: after

/-- What sets two statements apart that follow one another in the source: the text between them, if it breaks the
line, and a line break or an empty line otherwise. -/
def sourceGap (source : List Char) (previous next : Node) : String :=
  let gap := slice source ((previous.span.map Span.stop).getD 0) ((next.span.map Span.start).getD 0)
  if gap.toList.contains '\n' then gap else gapText.standard previous next

section Gaps

variable {source : List Char}

lemma span_withGap (tree : Tree) (gap : Option String) :
    ((OfTree.statement source tree).withInfo { (OfTree.statement source tree).info with gap }).span = some tree.span :=
  (readsAs_statement source tree).1.span

/-- A statement of a source knows the text between it and the one before. -/
lemma gap_statementsFrom {stop : Nat} {trees : List Tree} {previous next : Node} {before after : List Node}
    (h : OfTree.statementsFrom source stop trees = before ++ previous :: next :: after) :
    ∃ span span', previous.span = some span ∧ next.span = some span' ∧
      next.info.gap = some (slice source span.stop span'.start) := by
  induction trees generalizing stop before with
  | nil => cases before <;> cases h
  | cons tree rest ih =>
    rw [OfTree.statementsFrom] at h
    cases before with
    | cons first before => exact ih (List.cons.inj h).2
    | nil =>
      obtain ⟨rfl, hrest⟩ := List.cons.inj h
      cases rest with
      | nil => cases hrest
      | cons tree' rest =>
        rw [OfTree.statementsFrom] at hrest
        obtain ⟨rfl, -⟩ := List.cons.inj hrest
        exact ⟨tree.span, tree'.span, span_withGap tree _, span_withGap tree' _, rfl⟩

lemma gap_body {trees : List Tree} {previous next : Node} (h : Follows (OfTree.body source trees) previous next) :
    ∃ span span', previous.span = some span ∧ next.span = some span' ∧
      next.info.gap = some (slice source span.stop span'.start) := by
  obtain ⟨before, after, h⟩ := h
  cases trees with
  | nil => cases before <;> cases h
  | cons tree rest =>
    rw [OfTree.body] at h
    cases before with
    | cons first before => exact gap_statementsFrom (List.cons.inj h).2
    | nil =>
      obtain ⟨rfl, hrest⟩ := List.cons.inj h
      cases rest with
      | nil => cases hrest
      | cons tree' rest =>
        rw [OfTree.statementsFrom] at hrest
        obtain ⟨rfl, -⟩ := List.cons.inj hrest
        exact ⟨tree.span, tree'.span, (readsAs_statement source tree).1.span, span_withGap tree' _, rfl⟩

end Gaps

lemma body_of_parse {source path : String} {module : Module} (h : Module.parse source path = .ok module) :
    ∃ trees, module.body = OfTree.body source.toList trees := by
  unfold Module.parse at h
  split at h
  · next root _ =>
    obtain rfl := Except.ok.inj h
    exact ⟨root.namedChildren, rfl⟩
  · cases h

/-- Statements that follow one another in the source are set apart as there. -/
theorem gapText_of_follows {source path : String} {module : Module} (hparse : Module.parse source path = .ok module)
    {previous next : Node} (h : Follows module.body previous next) :
    gapText previous next = sourceGap source.toList previous next := by
  obtain ⟨trees, hbody⟩ := body_of_parse hparse
  rw [hbody] at h
  obtain ⟨span, span', hprevious, hnext, hgap⟩ := gap_body h
  rw [gapText, hgap, sourceGap, hprevious, hnext]
  rfl

/-! ### Migrated texts -/

/-- The migrated module of a source has a text. -/
lemma ofSource_eq_ok {settings : Settings} {source path : String} {module : Module} {migrated : Migrated}
    (hparse : Module.parse source path = .ok module) (h : migrate settings module = .ok migrated) {kind : Kind}
    {routePath : String} {advisories : List String}
    (hfinal : migrated.outcome = .finalized kind routePath advisories) :
    ∃ text, printModule settings.style migrated.module = .ok text ∧
      RouteMigration.Migration.ofSource settings source path =
        .ok { outcome := migrated.outcome, output := some text, messages := migrated.messages } := by
  obtain ⟨text, htext⟩ := printModule_ok settings.style (printable_migrated hparse h hfinal)
  have hchanged : migrated.outcome.isChanged = true := by rw [hfinal, Outcome.isChanged]
  refine ⟨text, htext, ?_⟩
  rw [RouteMigration.Migration.ofSource, hparse]
  change ((migrate settings module).mapError RouteMigration.Migration.Fault.draft >>= _) = _
  rw [h]
  change (if migrated.outcome.isChanged = true then _ else _) = _
  rw [if_pos hchanged, htext]
  rfl

/-- A page that can be run by itself, for as long as its first line is the first. -/
def hashBangPage : String :=
  "#!/bin/x\nexport const loader = () => 1;\nexport default function Page() {}\n"

end RouteMigration.Proofs
