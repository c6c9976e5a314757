import RouteMigration.Proofs.ConvertedTrees
import RouteMigration.Proofs.ReworkedHandlers
import RouteMigration.Proofs.ShiftedTexts
import RouteMigration.Proofs.ShownTexts

/-!
# Texts between the parts

A node that was read has source text of its own: what is outside of the parts that it had. The text stays with the node
when other parts take their places, and it is shown wherever the node is printed, with its lines shifted or as the
source has it.
-/

namespace RouteMigration.Proofs
open Syntax Grammar OfTree Printer

variable {source : List Char}

/-! ### Stretches of a source -/

/-- One of the two ends before the other begins. -/
def Apart (span other : Span) : Prop :=
  span.stop ≤ other.start ∨ other.stop ≤ span.start

variable (source) in
/-- The text of a stretch of the source. -/
def sliceOf (span : Span) : String :=
  slice source span.start span.stop

lemma infix_sliceOf {inner outer : Span} (h : Within inner outer) :
    (sliceOf source inner).toList <:+: (sliceOf source outer).toList := by
  have hstart : inner.start = outer.start + (inner.start - outer.start) := by
    have hle := h.start
    omega
  have hinner : (source.drop inner.start).take (inner.stop - inner.start) =
      ((source.drop outer.start).take (inner.stop - outer.start)).drop (inner.start - outer.start) := by
    rw [List.drop_take, List.drop_drop, ← hstart]
    congr 1
    omega
  have hstop : inner.stop - outer.start ≤ outer.stop - outer.start := Nat.sub_le_sub_right h.stop _
  rw [sliceOf, sliceOf, slice, slice, String.toList_ofList, String.toList_ofList, hinner]
  refine (List.drop_suffix _ _).isInfix.trans (List.IsPrefix.isInfix ?_)
  exact List.take_prefix_take_left hstop

/-- A stretch with some text lies in a piece of text if it lies between the ends of one. -/
lemma exists_textPart {start stop : Nat} {span : Span} (h : Within span ⟨start, stop⟩) (hne : sliceOf source span ≠ "") :
    ∃ text, .text text ∈ textPart source start stop ∧ (sliceOf source span).toList <:+: text.toList := by
  have hinside := @infix_sliceOf source _ _ h
  have hsome : sliceOf source ⟨start, stop⟩ ≠ "" := by
    intro hempty
    rw [hempty] at hinside
    exact hne (String.toList_inj.mp (List.infix_nil.mp hinside))
  have hpart : textPart source start stop = [.text (sliceOf source ⟨start, stop⟩)] := if_neg hsome
  refine ⟨sliceOf source ⟨start, stop⟩, ?_, hinside⟩
  rw [hpart]
  exact List.mem_singleton_self _

/-- What is outside of the nodes is in the text between them. -/
lemma exists_text {start stop : Nat} {nodes : List (Span × Node)} {span : Span} (hwithin : Within span ⟨start, stop⟩)
    (hapart : ∀ entry ∈ nodes, Apart span entry.1) (hne : sliceOf source span ≠ "") :
    ∃ text, .text text ∈ partsFrom source start stop nodes ∧ (sliceOf source span).toList <:+: text.toList := by
  induction nodes generalizing start with
  | nil => exact exists_textPart hwithin hne
  | cons entry rest ih =>
    obtain ⟨nodeSpan, node⟩ := entry
    obtain ⟨hentry, hrest⟩ := List.forall_mem_cons.mp hapart
    rcases hentry with hbefore | hafter
    · have hfirst : Within span ⟨start, nodeSpan.start⟩ := ⟨hwithin.start, hbefore⟩
      obtain ⟨text, hmem, hinside⟩ := exists_textPart hfirst hne
      exact ⟨text, List.mem_append_left _ hmem, hinside⟩
    · have hlater : Within span ⟨nodeSpan.stop, stop⟩ := ⟨hafter, hwithin.stop⟩
      obtain ⟨text, hmem, hinside⟩ := ih hlater hrest
      exact ⟨text, List.mem_append_right _ (List.mem_cons_of_mem _ hmem), hinside⟩

/-! ### What a node keeps -/

variable (source) in
/-- What stays with a node as it was read from a stretch of the source, whatever parts are in the places of its own. -/
structure KeepsText (whole : Span) (info : Info) (outline : Form Unit) : Prop where
  place : info.span = some whole
  raw : info.raw = some (sliceOf source whole)
  parts : ∀ shape ∈ info.origin, ∀ part ∈ shape.children, ∃ span, part = some span ∧ Within span whole
  layout : HasLayout outline
  /-- What is outside of the parts is in the text between them. -/
  text : ∀ kind parts literal, outline = .verbatim kind parts literal → ∀ shape ∈ info.origin, ∀ span,
    Within span whole → (∀ part, some part ∈ shape.children → Apart span part) → sliceOf source span ≠ "" →
      ∃ text, .text text ∈ parts ∧ (sliceOf source span).toList <:+: text.toList
  literal : ∀ parts literal, outline = .verbatim "template_string" parts literal → literal = true
  items : ∀ items layout, outline = .parameters items layout → ∀ text, .text text ∈ items →
    ∃ span, Within span whole ∧ text = sliceOf source span

lemma text_mem_map {f : Node → Unit} {parts : List (Piece Node)} {text : String} (h : .text text ∈ parts) :
    .text text ∈ parts.map (·.map f) :=
  List.mem_map.mpr ⟨.text text, h, rfl⟩

lemma text_mem_of_map {f : Node → Unit} {parts : List (Piece Node)} {text : String}
    (h : .text text ∈ parts.map (·.map f)) : .text text ∈ parts := by
  obtain ⟨piece, hpiece, heq⟩ := List.mem_map.mp h
  cases piece with
  | text own =>
    cases heq
    exact hpiece
  | node n => cases heq

lemma length_layoutFrom (start stop : Nat) (spans : List Span) :
    (layoutFrom source start stop spans).length = spans.length + 1 := by
  induction spans generalizing start with
  | nil => rfl
  | cons span spans ih => rw [layoutFrom, List.length_cons, List.length_cons, ih]

/-- The parts of a node that was read from a stretch of the source lie in the stretch. -/
lemma parts_within {span : Span} {form : Form Node} (hparts : PartsWithin (read source span form)) :
    ∀ shape ∈ (read source span form).info.origin, ∀ part ∈ shape.children,
      ∃ inner, part = some inner ∧ Within inner span := by
  intro shape hshape part hpart
  cases hshape
  rw [Form.children_map] at hpart
  obtain ⟨node, hnode, rfl⟩ := List.mem_map.mp hpart
  obtain ⟨whole, hwhole, hwithin⟩ := hparts
  cases hwhole
  exact hwithin node hnode

/-- A verbatim of nodes that know their places keeps the text between them. -/
lemma keepsText_verbatim {kind : String} {span : Span} {nodes : List (Span × Node)} {literal : Bool}
    (hplaces : ∀ entry ∈ nodes, entry.2.span = some entry.1)
    (hparts : PartsWithin (read source span (.verbatim kind (partsFrom source span.start span.stop nodes) literal)))
    (hliteral : kind = "template_string" → literal = true) :
    KeepsText source span (read source span (.verbatim kind (partsFrom source span.start span.stop nodes) literal)).info
      (outline (.verbatim kind (partsFrom source span.start span.stop nodes) literal)) where
  place := rfl
  raw := rfl
  layout := trivial
  parts := parts_within hparts
  text := by
    intro kind parts literal houtline shape hshape inner hinner hapart hne
    cases hshape
    cases houtline
    have hnodes : ∀ entry ∈ nodes, Apart inner entry.1 := by
      intro entry hentry
      refine hapart entry.1 ?_
      rw [Form.children_map, Form.children, nodesOf_partsFrom, ← hplaces entry hentry]
      exact List.mem_map_of_mem (List.mem_map_of_mem hentry)
    obtain ⟨text, hmem, hinside⟩ := exists_text hinner hnodes hne
    exact ⟨text, text_mem_map hmem, hinside⟩
  literal := by
    intro parts literal houtline
    cases houtline
    exact hliteral rfl
  items := nofun

/-- The nodes in a verbatim know their places. -/
lemma place_converted {children : List Tree} {p : Child → Bool} {entry : Span × Node}
    (h : entry ∈ converted ((convertAll source children).filter p)) : entry.2.span = some entry.1 := by
  rw [convertAll_eq_map] at h
  obtain ⟨_, hmem, hconverted⟩ := List.mem_filterMap.mp h
  obtain ⟨child, -, rfl⟩ := List.mem_map.mp (List.mem_of_mem_filter hmem)
  dsimp only at hconverted
  split at hconverted
  · obtain ⟨node, hnode, rfl⟩ := Option.map_eq_some_iff.mp hconverted
    have hspan := span_nodeOf source child
    rw [nodeOf, hnode] at hspan
    exact hspan
  · cases hconverted

lemma place_enclosed {children : List Tree} {entry : Span × Node}
    (h : entry ∈ enclosed source (convertAll source children)) : entry.2.span = some entry.1 := by
  rw [convertAll_eq_map] at h
  obtain ⟨_, hmem, rfl⟩ := List.mem_map.mp h
  obtain ⟨child, -, rfl⟩ := List.mem_map.mp (List.mem_of_mem_filter hmem)
  exact span_nodeOf source child

/-- A template string becomes a node in any case. -/
lemma template_converted {tree : Tree} (hkind : tree.kind = "template_string") : (convert source tree).node ≠ none := by
  rw [node_convert, hkind]
  nofun

/-- A construct that is only text. -/
lemma keepsText_text {tree : Tree} (hnone : (convert source tree).node = none) :
    KeepsText source tree.span (read source tree.span (.verbatim tree.kind [.text (textOf source tree)] false)).info
      (outline (.verbatim tree.kind [.text (textOf source tree)] false)) where
  place := rfl
  raw := rfl
  parts := by
    intro shape hshape part hpart
    cases hshape
    cases hpart
  layout := trivial
  text := by
    intro kind parts literal houtline shape _ span hwithin _ _
    cases houtline
    exact ⟨textOf source tree, List.mem_singleton_self _, infix_sliceOf hwithin⟩
  literal := by
    intro parts literal houtline
    exact absurd hnone (template_converted (Form.verbatim.inj houtline).1)
  items := nofun

/-- A list of parameters keeps the items that are only text. -/
lemma keepsText_parameters {tree : Tree} (hnested : tree.isNested = true)
    (hparts : PartsWithin (parameters source tree.span (convertAll source tree.children))) :
    KeepsText source tree.span (parameters source tree.span (convertAll source tree.children)).info
      (outline (parameters source tree.span (convertAll source tree.children)).form) where
  place := rfl
  raw := rfl
  parts := parts_within hparts
  layout := by
    change (layoutFrom ..).length = (List.map _ (List.map _ _)).length + 1
    rw [length_layoutFrom, List.length_map, List.length_map, List.length_map]
  text := nofun
  literal := nofun
  items := by
    intro items layout houtline text htext
    cases houtline
    obtain ⟨_, hentry, heq⟩ := List.mem_map.mp (text_mem_of_map htext)
    rw [convertAll_eq_map] at hentry
    obtain ⟨child, hchild, rfl⟩ := List.mem_map.mp (List.mem_of_mem_filter hentry)
    dsimp only at heq
    cases hnode : (convert source child).node with
    | none =>
      rw [hnode] at heq
      cases heq
      exact ⟨child.span, within_child hnested hchild, rfl⟩
    | some node =>
      rw [hnode] at heq
      cases heq

lemma hasText_outline (form : Form Node) : hasText (outline form) = hasText form := by
  cases form <;> rfl

/-- A form without text of its own has nothing to keep. -/
lemma keepsText_other {span : Span} {form : Form Node} (hform : hasText form = false)
    (hparts : PartsWithin (read source span form)) :
    KeepsText source span (read source span form).info (outline form) := by
  rw [← hasText_outline] at hform
  refine { place := rfl, raw := rfl, parts := parts_within hparts, layout := ?_, text := ?_, literal := ?_, items := ?_ }
  · generalize outline form = shape at hform
    cases shape with
    | parameters items layout => cases hform
    | _ => trivial
  · intro kind parts literal houtline
    rw [houtline] at hform
    cases hform
  · intro parts literal houtline
    rw [houtline] at hform
    cases hform
  · intro items layout houtline
    rw [houtline] at hform
    cases hform

/-- A node that was made of a construct keeps its text. -/
theorem keepsText_made {tree : Tree} {node : Node} (hnested : tree.isNested = true) (hmade : MadeOf source tree node)
    (hparts : PartsWithin node) : ∃ whole, KeepsText source whole node.info (outline node.form) := by
  cases hmade with
  | text hnone => exact ⟨tree.span, keepsText_text hnone⟩
  | verbatim hliteral _ =>
    have hplaces : ∀ entry ∈ converted (convertAll source tree.children), entry.2.span = some entry.1 := by
      intro entry hentry
      rw [← List.filter_true (convertAll source tree.children)] at hentry
      exact place_converted hentry
    exact ⟨tree.span, keepsText_verbatim hplaces hparts fun hkind => hliteral.trans (decide_eq_true hkind)⟩
  | enclosing hkind =>
    refine ⟨tree.span, keepsText_verbatim (fun _ => place_enclosed) hparts fun htemplate => ?_⟩
    rw [htemplate] at hkind
    exact absurd hkind (by decide)
  | tail _ _ => exact ⟨_, keepsText_verbatim (fun _ => place_converted) hparts nofun⟩
  | parameters _ => exact ⟨tree.span, keepsText_parameters hnested hparts⟩
  | @parameter child _ _ _ =>
    refine ⟨child.span, { place := rfl, raw := rfl, parts := parts_within hparts, layout := trivial, text := nofun,
                          literal := nofun, items := ?_ }⟩
    intro items layout houtline text htext
    cases houtline
    cases List.mem_singleton.mp htext
  | other hform _ => exact ⟨tree.span, keepsText_other hform hparts⟩

/-! ### Kept trees -/

/-- A node that does not come from the source. -/
structure IsFresh (node : Node) : Prop where
  place : node.info.span = none
  raw : node.info.raw = none
  layout : HasLayout node.form

variable (source) in
/-- A node that keeps the text that it was read with, or that was not read. -/
def IsKept (node : Node) : Prop :=
  IsFresh node ∨ ∃ whole, KeepsText source whole node.info (outline node.form)

variable (source) in
/-- The stretch of the source is part of the text of the node: outside of the parts that a verbatim was read with, or in
a parameter that is only text. -/
inductive StandsIn (node : Node) (span : Span) : Prop where
  | between {whole : Span} {shape : Form (Option Span)} {kind : String} {parts : List (Piece Node)} {literal : Bool} :
      node.info.span = some whole → node.info.origin = some shape → node.form = .verbatim kind parts literal →
      Within span whole → (∀ part, some part ∈ shape.children → Apart span part) → StandsIn node span
  | item {whole entry : Span} {items : List (Piece Node)} {layout : Option (List String)} :
      node.info.span = some whole → node.form = .parameters items layout → .text (sliceOf source entry) ∈ items →
      Within span entry → StandsIn node span

lemma StandsIn.exists_place {node : Node} {span : Span} (h : StandsIn source node span) :
    ∃ whole, node.info.span = some whole := by
  cases h with
  | between hplace => exact ⟨_, hplace⟩
  | item hplace => exact ⟨_, hplace⟩

lemma StandsIn.keeps {node : Node} {span : Span} (h : StandsIn source node span) (hkept : IsKept source node) :
    ∃ whole, KeepsText source whole node.info (outline node.form) := by
  rcases hkept with hfresh | hkeeps
  · obtain ⟨whole, hplace⟩ := h.exists_place
    rw [hfresh.place] at hplace
    cases hplace
  · exact hkeeps

/-- What stands in a node is in the source text of the node. -/
lemma StandsIn.infix_place {node : Node} {span whole : Span} (h : StandsIn source node span)
    (hkeeps : KeepsText source whole node.info (outline node.form)) :
    (sliceOf source span).toList <:+: (sliceOf source whole).toList := by
  cases h with
  | between hplace _ _ hwithin _ =>
    obtain rfl := Option.some.inj (hplace.symm.trans hkeeps.place)
    exact infix_sliceOf hwithin
  | item _ hform hitem hwithin =>
    have houtline := congrArg outline hform
    obtain ⟨inner, hinner, heq⟩ := hkeeps.items _ _ houtline _ (text_mem_map hitem)
    have hpart := @infix_sliceOf source _ _ hwithin
    rw [heq] at hpart
    exact hpart.trans (infix_sliceOf hinner)

/-- The nodes of a tree that is as it was read lie in its stretch of the source. -/
lemma within_of_pristine {node : Node} {whole : Span} (hpristine : node.isPristine = true)
    (hkept : Throughout (IsKept source) node) (hplace : node.span = some whole) :
    ∀ n ∈ node.descendants, ∃ span, n.span = some span ∧ Within span whole := by
  induction node using node_induction generalizing whole with
  | h info form ih =>
    intro n hn
    rcases mem_descendants.mp hn with rfl | ⟨child, hchild, hn⟩
    · exact ⟨whole, hplace, Within.refl whole⟩
    · rw [isPristine_eq, Bool.and_eq_true, Bool.and_eq_true, List.all_eq_true] at hpristine
      obtain ⟨⟨-, horigin⟩, hchildren⟩ := hpristine
      rcases hkept.root with hfresh | ⟨place, hkeeps⟩
      · rw [Node.span, hfresh.place] at hplace
        cases hplace
      · obtain rfl := Option.some.inj (hplace.symm.trans hkeeps.place)
        have hmem : child.span ∈ (Node.shape ⟨info, form⟩).children := by
          rw [Node.shape, Form.children_map]
          exact List.mem_map_of_mem hchild
        obtain ⟨inner, hinner, hwithin⟩ := hkeeps.parts _ (of_decide_eq_true horigin) _ hmem
        obtain ⟨span, hspan, hdeep⟩ := ih child hchild (hchildren child hchild) (hkept.child hchild) hinner n hn
        exact ⟨span, hspan, hdeep.trans hwithin⟩

/-! ### Occurrences -/

/-- The part occurs in the text, with its lines shifted unless it has to stay exact. -/
def Occurs (exact : Prop) (part text : String) : Prop :=
  ∃ shift : Int, (exact → shift = 0) ∧ (Layout.shiftText shift part).toList <:+: text.toList

lemma isUpward_occurs (exact : Prop) (part : String) : IsUpward (Occurs exact part) := by
  rintro inner text hinner ⟨shift, hexact, hinside⟩
  exact ⟨shift, hexact, hinside.trans hinner⟩

lemma occurs_of_infix {exact : Prop} {part text : String} (h : part.toList <:+: text.toList) : Occurs exact part text :=
  ⟨0, fun _ => rfl, h⟩

lemma occurs_shiftText {exact : Prop} {part text : String} {shift : Int} (hsolid : IsSolid part.toList)
    (h : part.toList <:+: text.toList) (hexact : exact → shift = 0) : Occurs exact part (Layout.shiftText shift text) :=
  ⟨shift, hexact, infix_shiftText shift hsolid h⟩

variable (source) in
/-- The node has the stretch of the source in its text; if this has to stay exact, the node is a template string. -/
def HasOwn (exact : Prop) (span : Span) (node : Node) : Prop :=
  StandsIn source node span ∧ (exact → node.isVerbatim "template_string" = true)

/-- What stands in a kept node is shown. -/
lemma showsText_of_standsIn {exact : Prop} {span : Span} {node : Node} (hkept : IsKept source node)
    (hne : sliceOf source span ≠ "") (hsolid : ¬ exact → IsSolid (sliceOf source span).toList)
    (h : HasOwn source exact span node) (shift : Int) : ShowsText (Occurs exact (sliceOf source span)) shift node.form := by
  obtain ⟨hstands, htemplate⟩ := h
  obtain ⟨whole, hkeeps⟩ := hstands.keeps hkept
  cases hstands with
  | @between _ shape kind parts literal hplace horigin hform hwithin hapart =>
    obtain rfl := Option.some.inj (hplace.symm.trans hkeeps.place)
    have houtline : outline node.form = .verbatim kind (parts.map (·.map fun _ => ())) literal := congrArg outline hform
    obtain ⟨text, htext, hinside⟩ := hkeeps.text _ _ _ houtline shape horigin span hwithin hapart hne
    rw [hform]
    refine ⟨text, text_mem_of_map htext, ?_⟩
    by_cases hexact : exact
    · have hkind : node.kind? = some kind := by
        obtain ⟨info, form⟩ := node
        obtain rfl : form = _ := hform
        rfl
      obtain rfl : kind = "template_string" := Option.some.inj (hkind.symm.trans (of_decide_eq_true (htemplate hexact)))
      rw [hkeeps.literal _ _ houtline, if_pos rfl, show Layout.shiftText 0 text = text from if_pos rfl]
      exact occurs_of_infix hinside
    · exact occurs_shiftText (hsolid hexact) hinside fun h => absurd h hexact
  | @item _ entry items layout hplace hform hitem hwithin =>
    rw [hform]
    exact ⟨_, hitem, occurs_of_infix (infix_sliceOf hwithin)⟩

lemma hasLayout_outline {form : Form Node} : HasLayout (outline form) ↔ HasLayout form := by
  cases form with
  | parameters items layout =>
    cases layout with
    | none => exact Iff.rfl
    | some layout =>
      change layout.length = (items.map _).length + 1 ↔ layout.length = items.length + 1
      rw [List.length_map]
  | _ => exact Iff.rfl

lemma IsKept.layout {node : Node} (h : IsKept source node) : HasLayout node.form := by
  rcases h with hfresh | ⟨whole, hkeeps⟩
  · exact hfresh.layout
  · exact hasLayout_outline.mp hkeeps.layout

lemma Throughout.below {P : Node → Prop} {node n : Node} (h : Throughout P node) (hn : n ∈ node.descendants) :
    Throughout P n :=
  fun _ hinner => h _ (mem_descendants_trans hn hinner)

/-- Wherever a tree of kept nodes is printed, the text shows what stands in them. -/
theorem shows_kept {exact : Prop} {span : Span} {node : Node} (style : Style) (hprintable : Printable node)
    (hkept : Throughout (IsKept source) node) (hne : sliceOf source span ≠ "")
    (hsolid : ¬ exact → IsSolid (sliceOf source span).toList) :
    Shows (Occurs exact (sliceOf source span)) (writeNode style node) (∃ n ∈ node.descendants, HasOwn source exact span n) := by
  have hshows : Throughout (ShowsOwn (Occurs exact (sliceOf source span)) (HasOwn source exact span)) node := by
    intro n hn
    have hbelow : Throughout (IsKept source) n := hkept.below hn
    refine { fits := hprintable.fits n hn, layout := hbelow.root.layout, text := ?_, raw := ?_ }
    · exact fun hown => showsText_of_standsIn hbelow.root hne hsolid hown
    · rintro hpristine raw hraw ⟨m, hm, hstands, -⟩
      rcases hbelow.root with hfresh | ⟨whole, hkeeps⟩
      · rw [hfresh.raw] at hraw
        cases hraw
      · obtain ⟨inner, hinner, hwithin⟩ := within_of_pristine hpristine hbelow hkeeps.place m hm
        obtain ⟨place, hkeepsInner⟩ := hstands.keeps (hbelow m hm)
        obtain rfl := Option.some.inj (hinner.symm.trans hkeepsInner.place)
        obtain rfl := Option.some.inj (hraw.symm.trans hkeeps.raw)
        exact occurs_of_infix ((hstands.infix_place hkeepsInner).trans (infix_sliceOf hwithin))
  exact (shows_writersOf (isUpward_occurs _ _) style hshows).1 hprintable.free

end RouteMigration.Proofs
