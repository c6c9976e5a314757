import RouteMigration.Proofs.Boundaries
import RouteMigration.Proofs.RoundTrips

/-!
# Neighbours in migrated texts

Two statements that follow one another in a source and that a migration leaves alone, with nothing new between them,
have between them the text they had, if it breaks the line. Where it does not, the printer sets them apart as if the
source had nothing to say: a comment behind a statement moves below it.
-/

namespace RouteMigration.Proofs
open Syntax Route Printer Grammar

/-- In the text of a module, the gap stands between a statement and the next one. -/
def PrintedBetween (style : Style) (module : Module) (text : String) (before : List Node) (previous next : Node)
    (gap own : String) : Prop :=
  ∃ above below, printModule style { module with body := before ++ [previous], trailer := "" } = .ok above ∧
    topLevel { style with semicolons := module.semicolons } next (above ++ gap) = .ok (above ++ gap ++ own) ∧
    text = above ++ gap ++ own ++ below

variable {source path : String} {module : Module}

lemma mem_of_follows {body : List Node} {previous next : Node} (h : Follows body previous next) : next ∈ body := by
  obtain ⟨before, after, rfl⟩ := h
  exact List.mem_append_right _ (List.mem_cons_of_mem _ (List.mem_cons_self ..))

lemma standard_breaks (previous next : Node) : '\n' ∈ (gapText.standard previous next).toList := by
  unfold gapText.standard
  split <;> decide

/-- The gap between neighbours is the text between them exactly if this breaks the line. -/
lemma sourceGap_eq_iff (source : List Char) (previous next : Node) :
    sourceGap source previous next = textBetween source previous.span next.span ↔
      '\n' ∈ (textBetween source previous.span next.span).toList := by
  by_cases hbreak : '\n' ∈ (textBetween source previous.span next.span).toList
  · have hgap : sourceGap source previous next = textBetween source previous.span next.span :=
      if_pos (List.contains_iff_mem.mpr hbreak)
    exact iff_of_true hgap hbreak
  · have hgap : sourceGap source previous next = gapText.standard previous next :=
      if_neg fun hcontains => hbreak (List.contains_iff_mem.mp hcontains)
    refine iff_of_false (fun hsame => hbreak ?_) hbreak
    rw [← hsame, hgap]
    exact standard_breaks previous next

/-- The last statement of a text follows what stands above it. -/
lemma topLevel_of_printModule {style : Style} {above text : String} {before : List Node} {statement : Node}
    (habove : printModule style { module with body := before, trailer := "" } = .ok above)
    (h : printModule style { module with body := before ++ [statement], trailer := "" } = .ok text) :
    topLevel { style with semicolons := module.semicolons } statement (above ++ gapBelow before statement) =
      .ok text := by
  have hall := all_of_printModule h
  rw [all_bodyWriters_append (all_of_printModule habove)] at hall
  obtain ⟨printed, hprinted, hend⟩ := except_bind_eq_ok hall
  rw [hprinted]
  exact hend

/-- A statement of the source that stands in its old column repeats its text, and it does where the gap in front of it
has been kept, or where its line was not indented. -/
lemma column_of_follows (hparse : Module.parse source path = .ok module) {previous next : Node}
    (h : Follows module.body previous next) {span : Span} (hread : ReadStatement source.toList span next)
    (hkept : '\n' ∈ (textBetween source.toList previous.span next.span).toList ∨ indentAt source.toList span.start = 0)
    (above : String) :
    Layout.column (above ++ sourceGap source.toList previous next) = indentAt source.toList span.start := by
  by_cases hbreak : '\n' ∈ (textBetween source.toList previous.span next.span).toList
  · have hgap := (sourceGap_eq_iff source.toList previous next).mpr hbreak
    obtain ⟨trees, hbody⟩ := body_of_parse hparse
    obtain ⟨place, place', hplace, hplace', hknown⟩ := gap_body (hbody ▸ h)
    obtain rfl : place' = span := Option.some.inj (hplace'.symm.trans hread.place)
    obtain ⟨stop, hstop, htext⟩ := hread.gap _ hknown
    rw [hplace, hplace'] at hgap hbreak
    rw [hgap]
    change '\n' ∈ (slice source.toList place.stop place'.start).toList at hbreak
    change Layout.column (above ++ slice source.toList place.stop place'.start) = _
    rw [htext] at hbreak ⊢
    exact column_slice source.toList hstop above hbreak
  · have hgap : sourceGap source.toList previous next = gapText.standard previous next :=
      if_neg fun hcontains => hbreak (List.contains_iff_mem.mp hcontains)
    rw [hgap, column_append (standard_breaks previous next), hkept.resolve_left hbreak]
    unfold gapText.standard
    split <;> decide

/-- Statements that a migration leaves alone and next to each other have between them the text they had in the source
if and only if that breaks the line. Otherwise a line break sets two imports apart and an empty line anything else. -/
theorem ofSource_neighbours {settings : Settings} {migrated : Migrated}
    (hparse : Module.parse source path = .ok module) (h : migrate settings module = .ok migrated) {kind : Kind}
    {routePath : String} {advisories : List String}
    (hfinal : migrated.outcome = .finalized kind routePath advisories) :
    ∃ text, RouteMigration.Migration.ofSource settings source path =
        .ok { outcome := migrated.outcome, output := some text, messages := migrated.messages } ∧
      ∀ before previous next after, migrated.module.body = before ++ previous :: next :: after →
        Follows module.body previous next → ∃ span gap own, next.span = some span ∧
          PrintedBetween settings.style migrated.module text before previous next gap own ∧
          (gap = textBetween source.toList previous.span next.span ↔
            '\n' ∈ (textBetween source.toList previous.span next.span).toList) ∧
          ('\n' ∉ (textBetween source.toList previous.span next.span).toList →
            gap = gapText.standard previous next) ∧
          ('\n' ∈ (textBetween source.toList previous.span next.span).toList ∨
            indentAt source.toList span.start = 0 → own = slice source.toList span.start span.stop) := by
  obtain ⟨text, htext, hsource⟩ := ofSource_eq_ok hparse h hfinal
  refine ⟨text, hsource, fun before previous next after hbody hfollows => ?_⟩
  obtain ⟨spans, hread, -⟩ := parse_eq_ok hparse
  obtain ⟨index, hget⟩ := List.mem_iff_getElem?.mp (mem_of_follows hfollows)
  obtain ⟨span, -, hat⟩ := hread.get hget
  have hsplit : migrated.module.body = (before ++ [previous]) ++ next :: after := by
    rw [hbody, List.append_assoc, List.singleton_append]
  obtain ⟨above, own, below, habove, hown, hwhole, -⟩ :=
    printedApart (printable_migrated hparse h hfinal) htext hsplit
  have hgap : gapBelow (before ++ [previous]) next = sourceGap source.toList previous next := by
    rw [gapBelow, List.getLast?_concat]
    exact gapText_of_follows hparse hfollows
  have hwritten := topLevel_of_printModule habove hown
  rw [hgap] at hwhole hwritten
  refine ⟨span, _, own, hat.place, ⟨above, below, habove, hwritten, hwhole⟩, sourceGap_eq_iff source.toList previous next,
    fun hbreak => ?_, fun hkept => ?_⟩
  · exact if_neg fun hcontains => hbreak (List.contains_iff_mem.mp hcontains)
  · have hcolumn := column_of_follows hparse hfollows hat hkept above
    have hslice := Except.ok.inj (hwritten.symm.trans (topLevel_pristine hat hcolumn))
    exact (String.append_right_inj _).mp hslice

/-- A statement at the place of a bystander is this one. -/
lemma eq_of_place {settings : Settings} {routePath : String} {spans : List Span} {kind : Kind} {draft : Draft}
    {used : List String} (hread : ReadStatements source.toList spans module.body)
    (hdraft : Drafting settings module routePath kind draft) {statement original : Node}
    (hmem : statement ∈ finish settings kind used draft.body) (hbystander : isBystander statement = true)
    (horiginal : original ∈ bystanders module) (hspan : statement.span = original.span) : statement = original := by
  have hstatement : statement ∈ bystanders module := by
    rw [← filter_finish hread hdraft used, List.mem_filter, atPlaces, hbystander, Bool.true_and, List.contains_iff_mem,
      hspan]
    exact ⟨hmem, List.mem_map_of_mem horiginal⟩
  have hsubset := (bystanders_sublist module).subset
  exact List.inj_on_of_nodup_map hread.nodup (hsubset hstatement) (hsubset horiginal) hspan

/-- A page with a comment behind a statement. -/
def limitPage : String :=
  "const limit = 10; // per page\nexport const loader = () => limit;\nexport default function Page() {}\n"

/-- Whether the first two statements of a module are bystanders with a space between them, and stand below an import
in the migrated one. -/
def keepsFirstTwo (module : Module) (body : List Node) : Bool :=
  match module.body, body with
  | first :: second :: _, _ :: previous :: next :: _ =>
    [first, second, previous, next].all isBystander && decide (0 ∉ sitesOf module ∧ 1 ∉ sitesOf module) &&
      decide (previous.span = first.span ∧ next.span = second.span) &&
      decide (textBetween limitPage.toList first.span second.span = " ")
  | _, _ => false

theorem limitPage_neighbours : ∃ module migrated imported previous next rest text own,
    Module.parse limitPage "routes/a.tsx" = .ok module ∧ migrate defaultSettings module = .ok migrated ∧
    RouteMigration.Migration.ofSource defaultSettings limitPage "routes/a.tsx" =
      .ok { outcome := migrated.outcome, output := some text, messages := migrated.messages } ∧
    migrated.module.body = imported :: previous :: next :: rest ∧ Follows module.body previous next ∧
    textBetween limitPage.toList previous.span next.span = " " ∧
    PrintedBetween defaultSettings.style migrated.module text [imported] previous next "\n\n" own := by
  have hrun : ((Module.parse limitPage "routes/a.tsx").toOption.any fun module =>
      (migrate defaultSettings module).toOption.any fun migrated =>
        decide (migrated.outcome = .finalized .page "/a" []) && keepsFirstTwo module migrated.module.body) = true := by
    decide +kernel
  obtain ⟨module, hparse, hrun⟩ := exists_of_any_toOption hrun
  obtain ⟨migrated, hmigrated, hrun⟩ := exists_of_any_toOption hrun
  rw [Bool.and_eq_true, decide_eq_true_eq] at hrun
  obtain ⟨hfinal, hkeeps⟩ := hrun
  obtain ⟨spans, hread, -⟩ := parse_eq_ok hparse
  obtain ⟨draft, hdraft, hbody⟩ := finalized_body hmigrated hfinal
  obtain ⟨text, htext, hneighbours⟩ := ofSource_neighbours hparse hmigrated hfinal
  unfold keepsFirstTwo at hkeeps
  split at hkeeps
  · next first second others imported previous next rest hsource hnew =>
    simp only [Bool.and_eq_true, decide_eq_true_eq, List.all_cons, List.all_nil, and_true] at hkeeps
    obtain ⟨⟨⟨⟨hfirst, hsecond, hprevious, hnext⟩, hzero, hone⟩, hat, hat'⟩, hspace⟩ := hkeeps
    have hmem : previous ∈ migrated.module.body ∧ next ∈ migrated.module.body := by simp [hnew]
    rw [hbody] at hmem
    obtain rfl : previous = first := eq_of_place hread (draftOf_eq_ok hdraft) hmem.1 hprevious
      (mem_bystanders.mpr ⟨0, by rw [hsource]; rfl, hfirst, hzero⟩) hat
    obtain rfl : next = second := eq_of_place hread (draftOf_eq_ok hdraft) hmem.2 hnext
      (mem_bystanders.mpr ⟨1, by rw [hsource]; rfl, hsecond, hone⟩) hat'
    have hfollows : Follows module.body previous next := ⟨[], others, hsource⟩
    obtain ⟨span, gap, own, -, hprinted, -, hgap, -⟩ := hneighbours [imported] previous next rest hnew hfollows
    have hstandard : gap = "\n\n" := by
      rw [hgap (by rw [hspace]; decide), standard_bystander previous hnext]
    rw [hstandard] at hprinted
    exact ⟨module, migrated, imported, previous, next, rest, text, own, hparse, hmigrated, htext, hnew, hfollows,
      hspace, hprinted⟩
  · cases hkeeps

end RouteMigration.Proofs
