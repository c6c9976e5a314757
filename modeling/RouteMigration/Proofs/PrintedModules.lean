import RouteMigration.Proofs.PrintableDrafts
import RouteMigration.Proofs.ShownForms
import RouteMigration.Syntax.Module

/-!
# Printed modules

The text of a module whose statements are printable: the statements one below the other, each set apart by a line
break.
-/

namespace RouteMigration.Proofs
open Syntax Route Printer

variable {style : Style}

/-! ### Statements one below the other -/

lemma all_append (first second : List Writer) (before : String) :
    Writer.all (first ++ second) before = Writer.all first before >>= Writer.all second := by
  rw [Writer.all, List.foldlM_append]
  rfl

lemma appends_topLevel {statement : Node} (h : PrintableStatement statement) : Appends (topLevel style statement) := by
  refine appends_all fun writer hwriter => ?_
  rcases List.mem_append.mp hwriter with hcomment | hown
  · obtain ⟨comment, -, rfl⟩ := List.mem_map.mp hcomment
    exact appends_write _
  · rw [List.mem_singleton.mp hown, Printer.statement, if_pos h.statement]
    exact h.printable.appends style

lemma appends_following (previous : Node) {body : List Node} (h : ∀ statement ∈ body, PrintableStatement statement) :
    ∀ writer ∈ following style previous body, Appends writer := by
  induction body generalizing previous with
  | nil => nofun
  | cons statement body ih =>
    intro writer hwriter
    rcases List.mem_cons.mp hwriter with rfl | hwriter
    · exact appends_write _
    · rcases List.mem_cons.mp hwriter with rfl | hwriter
      · exact appends_topLevel (h statement (List.mem_cons_self ..))
      · exact ih statement (fun s hs => h s (List.mem_cons_of_mem _ hs)) writer hwriter

lemma appends_bodyWriters {body : List Node} (h : ∀ statement ∈ body, PrintableStatement statement) :
    ∀ writer ∈ bodyWriters style body, Appends writer := by
  cases body with
  | nil => nofun
  | cons statement body =>
    intro writer hwriter
    rcases List.mem_cons.mp hwriter with rfl | hwriter
    · exact appends_topLevel (h statement (List.mem_cons_self ..))
    · exact appends_following statement (fun s hs => h s (List.mem_cons_of_mem _ hs)) writer hwriter

/-- A module of printable statements has a text. -/
theorem printModule_ok (style : Style) {module : Module} (h : ∀ statement ∈ module.body, PrintableStatement statement) :
    ∃ text, printModule style module = .ok text := by
  have happends : Appends (Writer.all (Writer.write module.header ::
      bodyWriters { style with semicolons := module.semicolons } module.body ++ [Writer.write module.trailer])) := by
    refine appends_all fun writer hwriter => ?_
    rcases List.mem_append.mp hwriter with hmem | hmem
    · rcases List.mem_cons.mp hmem with rfl | hmem
      · exact appends_write _
      · exact appends_bodyWriters h writer hmem
    · rw [List.mem_singleton.mp hmem]
      exact appends_write _
  obtain ⟨added, hadded⟩ := happends ""
  exact ⟨_, hadded⟩

/-- The text between the statements before and the next one. -/
def gapBelow (before : List Node) (statement : Node) : String :=
  (before.getLast?.map fun previous => gapText previous statement).getD ""

lemma following_append (style : Style) (previous : Node) (before : List Node) (statement : Node) (after : List Node) :
    following style previous (before ++ statement :: after) = following style previous before ++
      Writer.write (gapText (before.getLast?.getD previous) statement) :: topLevel style statement ::
        following style statement after := by
  induction before generalizing previous with
  | nil => rfl
  | cons first before ih =>
    have hlast : (first :: before).getLast?.getD previous = before.getLast?.getD first := by
      cases before <;> simp [List.getLast?_cons]
    rw [List.cons_append, following, following, ih, hlast]
    rfl

/-- Below the statements before, a statement continues the text with what stands between them. -/
lemma all_bodyWriters_append {style : Style} {header above : String} {before : List Node}
    (h : Writer.all (Writer.write header :: bodyWriters style before) "" = .ok above) (statement : Node)
    (after : List Node) :
    Writer.all (Writer.write header :: bodyWriters style (before ++ statement :: after)) "" =
      topLevel style statement (above ++ gapBelow before statement) >>=
        Writer.all (following style statement after) := by
  cases before with
  | nil =>
    have habove : above = "" ++ header := by
      cases h
      rfl
    rw [habove, gapBelow, List.getLast?_nil, Option.map_none, Option.getD_none, String.append_empty]
    exact all_cons ..
  | cons first before =>
    have hgap : gapText (before.getLast?.getD first) statement = gapBelow (first :: before) statement := by
      rw [gapBelow, List.getLast?_cons]
      rfl
    rw [bodyWriters] at h
    rw [List.cons_append, bodyWriters, following_append, hgap, ← List.cons_append, ← List.cons_append, all_append, h]
    exact all_cons ..

/-- Without a trailer, the text of a module ends with its statements. -/
lemma all_of_printModule {style : Style} {module : Module} {above : String} {before : List Node}
    (h : printModule style { module with body := before, trailer := "" } = .ok above) :
    Writer.all (Writer.write module.header :: bodyWriters { style with semicolons := module.semicolons } before) "" =
      .ok above := by
  rw [printModule, all_append] at h
  obtain ⟨text, htext, hend⟩ := except_bind_eq_ok h
  have hsame : text ++ "" = above := Except.ok.inj hend
  rw [String.append_empty] at hsame
  rwa [← hsame]

/-! ### Text in parts -/

/-- The text of a module is that of the statements above, what sets the next statement apart from them, the text of
this statement and that of the others. -/
def PrintedApart (style : Style) (module : Module) (text : String) (before : List Node) (statement : Node) : Prop :=
  ∃ above own below,
    printModule style { module with body := before, trailer := "" } = .ok above ∧
    printModule style { module with body := before ++ [statement], trailer := "" } =
      .ok (above ++ gapBelow before statement ++ own) ∧
    text = above ++ gapBelow before statement ++ own ++ below ∧
    (before ≠ [] → '\n' ∈ (gapBelow before statement).toList)

lemma gapText_breaks (previous next : Node) : '\n' ∈ (gapText previous next).toList := by
  have hstandard : '\n' ∈ (gapText.standard previous next).toList := by
    unfold gapText.standard
    split
    · decide
    · decide
  unfold gapText
  split
  · split
    · next hbreak => exact List.contains_iff_mem.mp hbreak
    · exact hstandard
  · exact hstandard

lemma gapBelow_breaks {before : List Node} (h : before ≠ []) (statement : Node) :
    '\n' ∈ (gapBelow before statement).toList := by
  rw [gapBelow, List.getLast?_eq_some_getLast h]
  exact gapText_breaks _ statement

/-- One more statement continues the text with what sets it apart and its own text. -/
lemma printModule_concat {style : Style} {module : Module} {above text : String} {before : List Node} {statement : Node}
    (habove : printModule style { module with body := before, trailer := "" } = .ok above)
    (h : topLevel { style with semicolons := module.semicolons } statement (above ++ gapBelow before statement) =
      .ok text) :
    printModule style { module with body := before ++ [statement], trailer := "" } = .ok text := by
  rw [printModule, all_append]
  dsimp only
  rw [all_bodyWriters_append (all_of_printModule habove), h]
  exact congrArg Except.ok (String.append_empty ..)

/-- Printable statements are printed one below the other. -/
theorem printedApart {style : Style} {module : Module} {text : String}
    (hprintable : ∀ statement ∈ module.body, PrintableStatement statement)
    (htext : printModule style module = .ok text) {before after : List Node} {statement : Node}
    (hbody : module.body = before ++ statement :: after) : PrintedApart style module text before statement := by
  have hbefore : ∀ s ∈ before, PrintableStatement s := fun s hs =>
    hprintable s (by rw [hbody]; exact List.mem_append_left _ hs)
  have hafter : ∀ s ∈ after, PrintableStatement s := fun s hs =>
    hprintable s (by rw [hbody]; exact List.mem_append_right _ (List.mem_cons_of_mem _ hs))
  have hstatement : PrintableStatement statement :=
    hprintable statement (by rw [hbody]; exact List.mem_append_right _ (List.mem_cons_self ..))
  let style' : Style := { style with semicolons := module.semicolons }
  have hexists : ∃ above, printModule style { module with body := before, trailer := "" } = .ok above :=
    printModule_ok style hbefore
  obtain ⟨above, habove⟩ := hexists
  obtain ⟨own, hown⟩ := @appends_topLevel style' statement hstatement (above ++ gapBelow before statement)
  obtain ⟨below, hbelow⟩ := appends_all (@appends_following style' statement after hafter)
    (above ++ gapBelow before statement ++ own)
  have hwhole : printModule style module =
      .ok (above ++ gapBelow before statement ++ own ++ below ++ module.trailer) := by
    rw [printModule, all_append, hbody, all_bodyWriters_append (all_of_printModule habove), hown]
    exact congrArg (· >>= Writer.all [Writer.write module.trailer]) hbelow
  refine ⟨above, own, below ++ module.trailer, habove, printModule_concat habove hown, ?_,
    fun hne => gapBelow_breaks hne statement⟩
  rw [Except.ok.inj (htext.symm.trans hwhole), ← String.append_assoc]

end RouteMigration.Proofs
