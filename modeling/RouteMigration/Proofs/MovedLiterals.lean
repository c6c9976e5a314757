import RouteMigration.Proofs.GrammarRules
import RouteMigration.Proofs.KeptTexts
import RouteMigration.Proofs.ReferredHandlers
import RouteMigration.Proofs.WrittenComments

/-!
# Literals that are moved

A handler shows the literals in it wherever it is printed: template strings and regular expressions with the characters
that they have in the source, and so every other string on a single line. A string on several lines has them shifted
as all other lines.
-/

namespace RouteMigration.Proofs
open Syntax Route Printer Grammar

variable {source : List Char} {root : Tree}

/-! ### Handlers that keep their texts -/

lemma IsKept.congr {a b : Node} (hinfo : a.info = b.info) (houtline : outline a.form = outline b.form)
    (h : IsKept source a) : IsKept source b := by
  rcases h with hfresh | hkeeps
  · refine .inl ⟨hinfo ▸ hfresh.place, hinfo ▸ hfresh.raw, ?_⟩
    rw [← hasLayout_outline, ← houtline, hasLayout_outline]
    exact hfresh.layout
  · rw [hinfo, houtline] at hkeeps
    exact .inr hkeeps

/-- Nodes keep their texts with other parts in the places of their own. -/
lemma reworkable_kept : Reworkable (Throughout (IsKept source)) where
  part := Throughout.child
  rework {node form} h houtline hparts := by
    have hroot : IsKept source (node.withForm form) := @IsKept.congr source node _ rfl houtline.symm h.root
    exact throughout_iff.mpr ⟨hroot, hparts⟩
  make {form} hform hparts := by
    refine throughout_iff.mpr ⟨.inl ⟨rfl, rfl, ?_⟩, hparts⟩
    cases form with
    | parameters items layout =>
      cases layout with
      | none => trivial
      | some layout => exact absurd rfl (hform items layout)
    | _ => trivial

/-- The handlers of a parsed module are trees of kept nodes. -/
theorem kept_extract {source path name : String} {module : Module} {located : Located} {settings : Settings} {kind : Kind}
    {handler : Handler} (hparse : Module.parse source path = .ok module) (hlocate : locate module.body name = some located)
    (hextract : extract? settings kind located = some handler) : Throughout (IsKept source.toList) handler.value := by
  obtain ⟨root, hroot, hmade⟩ := isMade_of_parse hparse
  refine reworkable_kept.extract hextract (reworkable_kept.hereditary.locate (fun statement hstatement part hpart => ?_) hlocate)
  intro n hn
  obtain ⟨⟨tree, htree, hmadeOf⟩, hparts⟩ := hmade statement hstatement part hpart n hn
  exact .inr (keepsText_made (htree.isNested (grammarParse_eq_ok hroot).1) hmadeOf hparts)

/-! ### Literals in handlers -/

/-- A text shows the literals that stand in the nodes of a tree. -/
structure ShowsLiterals (source : List Char) (root : Tree) (tree : Node) (text : String) : Prop where
  /-- Template strings are shown as they are in the source, between their substitutions. -/
  template : ∀ node ∈ tree.descendants, node.isVerbatim "template_string" = true → ∀ span, StandsIn source node span →
    (sliceOf source span).toList <:+: text.toList
  regex : ∀ node ∈ tree.descendants, ∀ literal, HasConstruct root literal → literal.isNamed = true →
    literal.kind = "regex" → StandsIn source node literal.span → (sliceOf source literal.span).toList <:+: text.toList
  /-- The lines of a string are shifted, unless there is only one. -/
  string : ∀ node ∈ tree.descendants, ∀ literal, HasConstruct root literal → literal.isNamed = true →
    literal.kind = "string" → StandsIn source node literal.span →
      (∃ shift, (Layout.shiftText shift (sliceOf source literal.span)).toList <:+: text.toList) ∧
      ('\n' ∉ (sliceOf source literal.span).toList → (sliceOf source literal.span).toList <:+: text.toList)

lemma ShowsLiterals.mono {tree : Node} {text around : String} (h : ShowsLiterals source root tree text)
    (hinside : text.toList <:+: around.toList) : ShowsLiterals source root tree around where
  template node hnode hkind span hspan := (h.template node hnode hkind span hspan).trans hinside
  regex node hnode literal hliteral hnamed hkind hstands :=
    (h.regex node hnode literal hliteral hnamed hkind hstands).trans hinside
  string node hnode literal hliteral hnamed hkind hstands := by
    obtain ⟨⟨shift, hshift⟩, hline⟩ := h.string node hnode literal hliteral hnamed hkind hstands
    exact ⟨⟨shift, hshift.trans hinside⟩, fun hbreak => (hline hbreak).trans hinside⟩

lemma Occurs.of_line {exact : Prop} {part text : String} (h : Occurs exact part text) (hline : '\n' ∉ part.toList) :
    part.toList <:+: text.toList := by
  obtain ⟨shift, -, hinside⟩ := h
  rwa [shiftText_of_line shift hline] at hinside

lemma Occurs.of_exact {part text : String} (h : Occurs True part text) : part.toList <:+: text.toList := by
  obtain ⟨shift, hshift, hinside⟩ := h
  obtain rfl := hshift trivial
  rwa [show Layout.shiftText 0 part = part from if_pos rfl] at hinside

/-- A tree of kept nodes shows its literals. -/
theorem showsLiterals {tree : Node} {style : Style} {before added : String} (hprintable : Printable tree)
    (hkept : Throughout (IsKept source) tree) (hroot : Built source root) (h : Adds (writeNode style tree) before added) :
    ShowsLiterals source root tree added := by
  have hshown {exact : Prop} {span : Span} {node : Node} (hnode : node ∈ tree.descendants)
      (hown : HasOwn source exact span node) (hsolid : ¬ exact → IsSolid (sliceOf source span).toList) :
      Occurs exact (sliceOf source span) added := by
    by_cases hne : sliceOf source span = ""
    · rw [hne]
      exact occurs_of_infix (List.nil_infix)
    · obtain ⟨text, htext, hoccurs⟩ := shows_kept style hprintable hkept hne hsolid before
      have hsame : before ++ text = before ++ added := Except.ok.inj (htext.symm.trans h)
      rw [← (String.append_right_inj before).mp hsame]
      exact hoccurs ⟨node, hnode, hown⟩
  refine ⟨fun node hnode hkind span hspan => ?_, fun node hnode literal hliteral hnamed hkind hstands => ?_,
    fun node hnode literal hliteral hnamed hkind hstands => ?_⟩
  · exact (hshown hnode ⟨hspan, fun _ => hkind⟩ fun hfalse => absurd trivial hfalse).of_exact
  · obtain ⟨hsolid, hline⟩ := (hliteral.built hroot).shape.regex hnamed hkind
    have hoccurs : Occurs False (sliceOf source literal.span) added := hshown hnode ⟨hstands, False.elim⟩ fun _ => hsolid
    exact hoccurs.of_line hline
  · have hsolid := (hliteral.built hroot).shape.string hnamed hkind
    have hoccurs : Occurs False (sliceOf source literal.span) added := hshown hnode ⟨hstands, False.elim⟩ fun _ => hsolid
    have hline := hoccurs.of_line
    obtain ⟨shift, -, hinside⟩ := hoccurs
    exact ⟨⟨shift, hinside⟩, hline⟩

/-! ### Literals in descriptors -/

lemma infix_append {part text : String} (h : part.toList <:+: text.toList) (below : String) :
    part.toList <:+: (text ++ below).toList := by
  rw [String.toList_append]
  exact h.trans (List.prefix_append ..).isInfix

lemma infix_append_of_below (above : String) {part text : String} (h : part.toList <:+: text.toList) :
    part.toList <:+: (above ++ text).toList := by
  rw [String.toList_append]
  exact h.trans (List.suffix_append ..).isInfix

lemma infix_indentedLines {lines : List String} {line : String} (indent : Nat) (h : line ∈ lines) :
    line.toList <:+: (indentedLines indent lines).toList := by
  induction lines with
  | nil => cases h
  | cons first rest ih =>
    rw [indentedLines, List.map_cons, String.join_cons]
    rcases List.mem_cons.mp h with rfl | h
    · exact infix_append (infix_append_of_below _ List.infix_rfl) _
    · exact infix_append_of_below _ (ih h)

lemma exists_text_of_property {style : Style} {properties : List Node} {texts : List String} {property : Node}
    (indent : Nat) (h : List.Forall₂ (PropertyText style) properties texts) (hproperty : property ∈ properties) :
    ∃ text, PropertyText style property text ∧ text.toList <:+: (propertyLines indent properties texts).toList := by
  induction h with
  | nil => cases hproperty
  | @cons first text properties texts htext hrest ih =>
    have hlines : propertyLines indent (first :: properties) (text :: texts) =
        indentedLines indent (first.info.comments ++ [text ++ ","]) ++ propertyLines indent properties texts := by
      rw [propertyLines, List.zipWith_cons_cons, String.join_cons]
      rfl
    rw [hlines]
    rcases List.mem_cons.mp hproperty with rfl | hproperty
    · have hlast : text ++ "," ∈ property.info.comments ++ [text ++ ","] :=
        List.mem_append_right _ (List.mem_singleton_self _)
      exact ⟨text, htext, infix_append ((infix_append List.infix_rfl ",").trans (infix_indentedLines indent hlast)) _⟩
    · obtain ⟨own, hown, hinside⟩ := ih hproperty
      exact ⟨own, hown, infix_append_of_below _ hinside⟩

lemma infix_descriptorText (style : Style) (name callee : String) (indent : Nat) (properties : List Node)
    (texts : List String) : (propertyLines (indent + style.indent) properties texts).toList <:+:
      (descriptorText style name callee indent properties texts).toList := by
  have hlines : (propertyLines (indent + style.indent) properties texts).toList <:+:
      ("\x7b" ++ propertyLines (indent + style.indent) properties texts ++ lineBreak indent ++ "\x7d").toList :=
    infix_append (infix_append (infix_append_of_below _ List.infix_rfl) _) _
  exact infix_append (infix_append_of_below _ (infix_append (infix_append_of_below _ hlines) _)) _

/-- A handler that was taken out of a parsed module shows its literals in every descriptor that has it as the value of a
property, whatever stands in front of the descriptor and whatever the style is. -/
theorem descriptorOf_showsLiterals {source path name : String} {module : Module} {located : Located}
    {settings : Settings} {kind : Kind} {handler : Handler} {properties : List Node} {property : Node} {key : String}
    (hparse : Module.parse source path = .ok module) (hlocate : locate module.body name = some located)
    (hextract : extract? settings kind located = some handler)
    (hproperties : ∀ property ∈ properties, PrintableProperty property) (hproperty : property ∈ properties)
    (hform : property.form = .property key handler.value) (style : Style) (routePath : String) (gap : Option String)
    (before : String) :
    ∃ root added, Grammar.parse (.ofPath path) source.toList = .ok root ∧
      Adds (writeNode style (withGap gap (descriptorOf settings routePath properties kind))) before added ∧
      ShowsLiterals source.toList root handler.value added := by
  obtain ⟨root, hroot, -⟩ := isMade_of_parse hparse
  obtain ⟨indent, texts, htexts, hadds⟩ :=
    adds_descriptorOf settings routePath (List.ne_nil_of_mem hproperty) hproperties kind gap before
  obtain ⟨text, htext, hinside⟩ := exists_text_of_property (indent + style.indent) htexts hproperty
  refine ⟨root, _, hroot, hadds, ?_⟩
  refine ShowsLiterals.mono ?_ (hinside.trans (infix_descriptorText ..))
  cases htext with
  | @key _ value hshown hidentifier =>
    obtain rfl : handler.value = value := (Form.property.inj (hform.symm.trans hshown)).2
    cases hidentifier.symm.trans (identifier?_of_extract hextract)
  | @value shown above own value hshown _ hown =>
    obtain rfl : handler.value = value := (Form.property.inj (hform.symm.trans hshown)).2
    have hprintable := (printable_extract hextract (printable_located hparse hlocate)).1
    have hshows := showsLiterals hprintable (kept_extract hparse hlocate hextract) (built_of_parse hroot) hown
    exact hshows.mono (infix_append_of_below _ List.infix_rfl)

/-! ### A page with literals -/

/-- The stretch of the source is outside of the parts that the node was read with. -/
def standsBetween (node : Node) (span : Span) : Bool :=
  match node.info.span, node.info.origin, node.form with
  | some whole, some shape, .verbatim .. =>
    whole.start ≤ span.start && span.stop ≤ whole.stop &&
      shape.children.all (·.all fun part => span.stop ≤ part.start || part.stop ≤ span.start)
  | _, _, _ => false

lemma standsIn_of_standsBetween {node : Node} {span : Span} (h : standsBetween node span = true) :
    StandsIn source node span := by
  unfold standsBetween at h
  split at h
  · next whole shape _ _ _ hplace horigin hform =>
    rw [Bool.and_eq_true, Bool.and_eq_true, decide_eq_true_eq, decide_eq_true_eq, List.all_eq_true] at h
    obtain ⟨⟨hstart, hstop⟩, hparts⟩ := h
    refine .between hplace horigin hform ⟨hstart, hstop⟩ fun part hpart => ?_
    have hpart := hparts (some part) hpart
    rwa [Option.all_some, Bool.or_eq_true, decide_eq_true_eq, decide_eq_true_eq] at hpart
  · cases h

variable (source) in
/-- The literal stands in the node, and not as a string on several lines. -/
def holdsLiteral (literal : Tree) (node : Node) : Bool :=
  standsBetween node literal.span &&
    (literal.kind = "regex" || (literal.kind = "template_string" && node.isVerbatim "template_string") ||
      (literal.kind = "string" && '\n' ∉ (sliceOf source literal.span).toList))

lemma ShowsLiterals.of_holdsLiteral {tree node : Node} {literal : Tree} {text : String}
    (h : ShowsLiterals source root tree text) (hnode : node ∈ tree.descendants) (hliteral : HasConstruct root literal)
    (hnamed : literal.isNamed = true) (hholds : holdsLiteral source literal node = true) :
    (sliceOf source literal.span).toList <:+: text.toList := by
  rw [holdsLiteral, Bool.and_eq_true, Bool.or_eq_true, Bool.or_eq_true, Bool.and_eq_true, Bool.and_eq_true,
    decide_eq_true_eq, decide_eq_true_eq, decide_eq_true_eq, decide_eq_true_eq] at hholds
  obtain ⟨hstands, (hregex | ⟨-, htemplate⟩) | ⟨hstring, hline⟩⟩ := hholds
  · exact h.regex node hnode literal hliteral hnamed hregex (standsIn_of_standsBetween hstands)
  · exact h.template node hnode htemplate literal.span (standsIn_of_standsBetween hstands)
  · exact (h.string node hnode literal hliteral hnamed hstring (standsIn_of_standsBetween hstands)).2 hline

/-- The literals of a source. -/
def literals (root : Tree) : List Tree :=
  (constructs root).filter fun tree => tree.isNamed && tree.kind ∈ ["string", "template_string", "regex"]

/-- A page of which the loader moves to the right. -/
def literalPage : String :=
  "export const loader = () => \x7b\n  const text = `one\n  two`;\n  return text.replace(/a\\/b/g, 'c');\n\x7d;\n"

theorem literalPage_shown : ∃ module located handler root added,
    Module.parse literalPage "routes/a.tsx" = .ok module ∧ locate module.body "loader" = some located ∧
    extract? defaultSettings .page located = some handler ∧
    Grammar.parse (.ofPath "routes/a.tsx") literalPage.toList = .ok root ∧
    (literals root).map (fun literal => sliceOf literalPage.toList literal.span) =
      ["`one\n  two`", "/a\\/b/g", "'c'"] ∧
    Adds (writeNode {} (withGap none
      (descriptorOf defaultSettings "/a" [.make (.property "loader" handler.value)] .page))) "" added ∧
    ∀ literal ∈ literals root, (sliceOf literalPage.toList literal.span).toList <:+: added.toList := by
  have hrun : ((Module.parse literalPage "routes/a.tsx").toOption.any fun module =>
      (locate module.body "loader").any fun located =>
        (extract? defaultSettings .page located).any fun handler =>
          (Grammar.parse (.ofPath "routes/a.tsx") literalPage.toList).toOption.any fun root =>
            (literals root).map (fun literal => sliceOf literalPage.toList literal.span) =
              ["`one\n  two`", "/a\\/b/g", "'c'"] &&
            (literals root).all fun literal =>
              handler.value.descendants.any (holdsLiteral literalPage.toList literal)) = true := by decide +kernel
  obtain ⟨module, hparse, hrun⟩ := exists_of_any_toOption hrun
  obtain ⟨located, hlocate, hrun⟩ := (Option.any_eq_true _ _).mp hrun
  obtain ⟨handler, hextract, hrun⟩ := (Option.any_eq_true _ _).mp hrun
  obtain ⟨root, hroot, hrun⟩ := exists_of_any_toOption hrun
  rw [Bool.and_eq_true, decide_eq_true_eq, List.all_eq_true] at hrun
  obtain ⟨htexts, hholds⟩ := hrun
  have hprintable := (printable_extract hextract (printable_located hparse hlocate)).1
  have hproperties : ∀ property ∈ [Node.make (.property "loader" handler.value)], PrintableProperty property :=
    List.forall_mem_singleton.mpr ⟨"loader", handler.value, rfl, hprintable⟩
  obtain ⟨root', added, hroot', hadds, hshows⟩ := descriptorOf_showsLiterals hparse hlocate hextract hproperties
    (List.mem_singleton_self _) rfl {} "/a" none ""
  obtain rfl : root = root' := Except.ok.inj (hroot.symm.trans hroot')
  refine ⟨module, located, handler, root, added, hparse, hlocate, hextract, hroot, htexts, hadds, fun literal hliteral => ?_⟩
  obtain ⟨node, hnode, hnodeHolds⟩ := List.any_eq_true.mp (hholds literal hliteral)
  obtain ⟨hmem, hnamed⟩ := List.mem_filter.mp hliteral
  exact hshows.of_holdsLiteral hnode (mem_constructs.mp hmem) (Bool.and_eq_true_iff.mp hnamed).1 hnodeHolds

end RouteMigration.Proofs
