import RouteMigration.Proofs.Conversions
import RouteMigration.Proofs.ShiftedTexts
import RouteMigration.Proofs.SpelledTexts

/-!
# What the printer writes for a node

A node that is printed by its form comes out piece by piece: texts, and the nodes that are its parts. Most texts are
shifted on the way. Those that are not would stay as they are anyhow if they are on one line.
-/

namespace RouteMigration.Proofs
open Syntax Printer

/-! ### Pieces -/

/-- A part that may be missing. -/
def optionalPiece (part : Option Node) : List (Piece Node) :=
  (part.map Piece.node).toList

/-- What is written for a construct in a declaration, in order. -/
def piecesOf (style : Style) : Form Node → List (Piece Node)
  | .verbatim _ parts _ => parts
  | .identifier name _ => [.text name]
  | .parameters items (some layout) => interleaved layout items
  | .parameters items none => .text "(" :: items.intersperse (.text ", ") ++ [.text ")"]
  | .arrowFunction arrow =>
    .text (if arrow.isAsync then "async " else "") :: (optionalPiece arrow.typeParameters ++ .node arrow.params ::
      (optionalPiece arrow.returnType ++ [.text " => ", .node arrow.body]))
  | .functionExpression function =>
    .text (if function.isAsync then "async " else "") ::
      .text (if function.isGenerator then "function*" else "function") ::
      .text ((given function.name).elim "" (" " ++ ·)) ::
      (optionalPiece function.typeParameters ++ .node function.params :: (optionalPiece function.returnType ++
        function.body.elim [.text (semicolon style)] fun body => [.text " ", .node body]))
  | .call callee arguments typeArguments => .node callee :: (optionalPiece typeArguments ++ [.node arguments])
  | _ => []

/-- The texts between nodes. -/
def textsOf : List (Piece Node) → List String
  | [] => []
  | .text text :: rest => text :: textsOf rest
  | .node _ :: rest => textsOf rest

lemma mem_textsOf {parts : List (Piece Node)} {text : String} : text ∈ textsOf parts ↔ .text text ∈ parts := by
  induction parts with
  | nil => simp [textsOf]
  | cons part rest ih => cases part <;> simp [textsOf, ih]

/-- The texts of a template literal, around what is inserted in it. -/
def literalTexts : Form Node → List String
  | .verbatim _ parts true => textsOf parts
  | _ => []

/-- The parameters that are only text. -/
def itemTexts : Form Node → List String
  | .parameters items _ => textsOf items
  | _ => []

def nameTexts : Form Node → List String
  | .identifier name _ => [name]
  | .functionExpression function => function.name.toList
  | _ => []

/-- A form that is written with texts of the printer's own: a call, a function, or a parameter without parentheses. Other
lists of parameters repeat the texts around their items. -/
def isFixed : Form Node → Bool
  | .parameters _ none | .arrowFunction _ | .functionExpression _ | .call .. => true
  | _ => false

/-- The form of a construct in a declaration, with texts around each item of a list of parameters, and with one line for
each text that is not shifted. -/
structure IsWritable (form : Form Node) : Prop where
  inner : isInner form = true
  layout : ∀ items layout, form = .parameters items (some layout) → layout.length = items.length + 1
  literals : ∀ text ∈ literalTexts form, '\n' ∉ text.toList
  items : ∀ text ∈ itemTexts form, '\n' ∉ text.toList
  names : ∀ text ∈ nameTexts form, '\n' ∉ text.toList

lemma text_mem_optionalPiece {part : Option Node} {text : String} : .text text ∉ optionalPiece part := by
  cases part <;> simp [optionalPiece]

/-- The printer's own texts are on one line. -/
lemma line_of_fixed {style : Style} {form : Form Node} (h : IsWritable form) (hfixed : isFixed form = true) {text : String}
    (htext : .text text ∈ piecesOf style form) : '\n' ∉ text.toList := by
  cases form with
  | parameters items layout =>
    cases layout with
    | some layout => cases hfixed
    | none =>
      simp only [piecesOf, List.cons_append, List.mem_cons, List.mem_append, List.not_mem_nil, or_false,
        Piece.text.injEq] at htext
      rcases htext with rfl | hitem | rfl
      · decide
      · rcases mem_intersperse hitem with hitem | hseparator
        · exact h.items text (mem_textsOf.mpr hitem)
        · cases hseparator
          decide
      · decide
  | arrowFunction arrow =>
    simp only [piecesOf, List.mem_cons, List.mem_append, List.not_mem_nil, or_false, Piece.text.injEq,
      text_mem_optionalPiece, reduceCtorEq, false_or] at htext
    rcases htext with rfl | rfl
    · split <;> decide
    · decide
  | functionExpression function =>
    simp only [piecesOf, List.mem_cons, List.mem_append, Piece.text.injEq, text_mem_optionalPiece, reduceCtorEq,
      false_or] at htext
    rcases htext with rfl | rfl | rfl | htext
    · split <;> decide
    · split <;> decide
    · cases hname : given function.name with
      | none => decide
      | some name =>
        have hline := h.names name (Option.mem_toList.mpr (Option.filter_eq_some_iff.mp hname).1)
        rw [Option.elim_some, String.toList_append, List.mem_append, not_or]
        exact ⟨by decide, hline⟩
    · cases hbody : function.body with
      | none =>
        rw [hbody, Option.elim_none, List.mem_singleton] at htext
        cases htext
        unfold semicolon
        split <;> decide
      | some body =>
        simp only [hbody, Option.elim_some, List.mem_cons, List.not_mem_nil, or_false, reduceCtorEq,
          Piece.text.injEq] at htext
        rw [htext]
        decide
  | call callee arguments typeArguments =>
    simp [piecesOf, text_mem_optionalPiece] at htext
  | _ => cases hfixed

/-! ### Writers one after the other -/

lemma all_cons_congr {writer : Writer} {writers others : List Writer} (h : Writer.all writers = Writer.all others) :
    Writer.all (writer :: writers) = Writer.all (writer :: others) := by
  funext before
  rw [all_cons, all_cons, h]

/-- Writers in a row that are part of another row. -/
lemma all_nest (inner : List Writer) {writers others : List Writer} (h : Writer.all writers = Writer.all others) :
    Writer.all (Writer.all inner :: writers) = Writer.all (inner ++ others) := by
  funext before
  rw [all_cons, h]
  exact List.foldlM_append.symm

lemma all_singleton (writer : Writer) : Writer.all [writer] = writer := by
  funext before
  rw [all_cons]
  exact bind_pure _

/-! ### Pieces that are written -/

section Written

variable {style : Style} {shift : Int} {form : Form Node}

variable (style shift) in
/-- A piece is written, with the lines of a text shifted. -/
def writtenPiece (piece : Piece Node) : Writer :=
  shiftedPart shift (piece.map (printed style))

/-- On one line, there is nothing to shift. -/
lemma written_of_line {piece : Piece Node} (h : ∀ text, piece = .text text → '\n' ∉ text.toList) :
    writtenPiece style shift piece = part (piece.map (printed style)) := by
  cases piece with
  | text text => rw [writtenPiece, Piece.map, shiftedPart, shiftText_of_line shift (h text rfl), part]
  | node node => rfl

lemma written_of_lines {parts : List (Piece Node)} (h : ∀ text ∈ textsOf parts, '\n' ∉ text.toList) :
    parts.map (writtenPiece style shift) = parts.map fun piece => part (piece.map (printed style)) := by
  refine List.map_congr_left fun piece hpiece => written_of_line fun text htext => h text ?_
  exact mem_textsOf.mpr (htext ▸ hpiece)

lemma written_verbatim {kind : String} {parts : List (Piece Node)} {literal : Bool}
    (hlines : ∀ text ∈ literalTexts (.verbatim kind parts literal), '\n' ∉ text.toList) (isRead : Bool) :
    byForm style shift isRead ((Form.verbatim kind parts literal).map (printed style)) =
      Writer.all (parts.map (writtenPiece style shift)) := by
  rw [Form.map, byForm, List.map_map]
  cases literal with
  | false => rfl
  | true =>
    rw [written_of_lines hlines]
    refine congrArg Writer.all (List.map_congr_left fun piece _ => ?_)
    cases piece <;> rfl

lemma written_laidOut {items : List (Piece Node)} {layout : List String} (hlength : layout.length = items.length + 1)
    (hlines : ∀ text ∈ textsOf items, '\n' ∉ text.toList) :
    laidOut shift (items.map (·.map (printed style))) layout =
      Writer.all ((interleaved layout items).map (writtenPiece style shift)) := by
  induction items generalizing layout with
  | nil =>
    obtain ⟨text, rfl⟩ := List.length_eq_one_iff.mp hlength
    exact (all_singleton _).symm
  | cons item items ih =>
    cases layout with
    | nil => cases hlength
    | cons text layout =>
      have hitem : writtenPiece style shift item = part (item.map (printed style)) :=
        written_of_line fun text htext => hlines text (mem_textsOf.mpr (htext ▸ List.mem_cons_self))
      have hrest := ih (Nat.succ.inj hlength) fun text htext =>
        hlines text (mem_textsOf.mpr (List.mem_cons_of_mem _ (mem_textsOf.mp htext)))
      rw [List.map_cons, laidOut, interleaved, List.map_cons, List.map_cons, hitem, hrest]
      exact all_cons_congr (all_cons_congr (all_singleton _))

lemma map_intersperse {α β : Type} (f : α → β) (separator : α) (l : List α) :
    (l.intersperse separator).map f = (l.map f).intersperse (f separator) := by
  induction l with
  | nil => rfl
  | cons first rest ih =>
    cases rest with
    | nil => rfl
    | cons second rest =>
      rw [List.intersperse_cons_cons, List.map_cons, List.map_cons, ih]
      rfl

lemma part_optional (node : Option Node) :
    (optionalPiece node).map (fun piece => part (piece.map (printed style))) =
      ((node.map (printed style)).map alone).toList := by
  cases node <;> rfl

/-- With texts of its own, the printer writes one piece after the other. -/
lemma written_fixed (hfixed : isFixed form = true) : byForm style shift true (form.map (printed style)) =
    Writer.all ((piecesOf style form).map fun piece => part (piece.map (printed style))) := by
  cases form with
  | parameters items layout =>
    cases layout with
    | some layout => cases hfixed
    | none =>
      have hitems : (items.map (·.map (printed style))).map part = items.map fun piece => part (piece.map (printed style)) :=
        List.map_map
      rw [piecesOf, List.cons_append, List.map_cons, List.map_append, map_intersperse, ← hitems]
      exact all_cons_congr (all_nest _ rfl)
  | arrowFunction arrow =>
    simp only [piecesOf, List.map_cons, List.map_append, part_optional]
    exact all_cons_congr (all_nest _ (all_cons_congr (all_nest _ rfl)))
  | functionExpression function =>
    obtain ⟨name, params, body, isAsync, isGenerator, typeParameters, returnType⟩ := function
    simp only [piecesOf, List.map_cons, List.map_append, part_optional]
    refine all_cons_congr (all_cons_congr (all_cons_congr (all_nest _ (all_cons_congr (all_nest _ ?_)))))
    cases body with
    | none => rfl
    | some body => exact all_singleton _
  | call callee arguments typeArguments =>
    simp only [piecesOf, List.map_cons, List.map_append, part_optional]
    exact all_cons_congr (all_nest _ rfl)
  | _ => cases hfixed

/-- What is printed by its form is written piece by piece. -/
theorem byForm_pieces (h : IsWritable form) : byForm style shift true (form.map (printed style)) =
    Writer.all ((piecesOf style form).map (writtenPiece style shift)) := by
  cases hfixed : isFixed form with
  | true =>
    have hlines : ∀ text ∈ textsOf (piecesOf style form), '\n' ∉ text.toList := fun text htext =>
      line_of_fixed h hfixed (mem_textsOf.mp htext)
    rw [written_fixed hfixed, written_of_lines hlines]
  | false =>
    cases form with
    | verbatim kind parts literal => exact written_verbatim h.literals true
    | identifier name isType =>
      have hline : writtenPiece style shift (.text name) = Writer.write name := written_of_line fun text htext => by
        cases htext
        exact h.names name List.mem_cons_self
      rw [piecesOf, List.map_singleton, hline, all_singleton]
      rfl
    | parameters items layout =>
      cases layout with
      | none => cases hfixed
      | some layout => exact written_laidOut (h.layout items layout rfl) h.items
    | arrowFunction | functionExpression | call => cases hfixed
    | _ => cases h.inner

lemma node_of_interleaved {items : List (Piece Node)} {layout : List String} {node : Node}
    (h : .node node ∈ interleaved layout items) : .node node ∈ items := by
  have htexts {layout : List String} : .node node ∉ layout.map Piece.text := by
    simp
  induction items generalizing layout with
  | nil =>
    cases layout with
    | nil => exact h
    | cons text layout =>
      have h : Piece.node node ∈ (text :: layout).map Piece.text ++ [] := h
      rw [List.append_nil] at h
      exact absurd h htexts
  | cons item items ih =>
    cases layout with
    | nil => exact h
    | cons text layout =>
      rw [interleaved, List.mem_cons, List.mem_cons] at h
      rcases h with h | rfl | h
      · cases h
      · exact List.mem_cons_self
      · exact List.mem_cons_of_mem _ (ih h)

/-- The nodes that are written are the parts. -/
lemma mem_children_of_pieces {node : Node} (h : .node node ∈ piecesOf style form) : node ∈ form.children := by
  have hoptional {part : Option Node} (h : .node node ∈ optionalPiece part) : part = some node := by
    cases part <;> simp_all [optionalPiece]
  have hparts {parts : List (Piece Node)} (h : .node node ∈ parts) : node ∈ nodesOf parts :=
    List.mem_filterMap.mpr ⟨_, h, rfl⟩
  cases form with
  | verbatim kind parts literal => exact hparts h
  | parameters items layout =>
    cases layout with
    | none =>
      simp only [piecesOf, List.cons_append, List.mem_cons, List.mem_append, List.not_mem_nil, or_false, reduceCtorEq,
        false_or] at h
      rcases mem_intersperse h with hitem | hseparator
      · exact hparts hitem
      · cases hseparator
    | some layout => exact hparts (node_of_interleaved h)
  | arrowFunction arrow =>
    simp only [piecesOf, List.mem_cons, List.mem_append, List.not_mem_nil, or_false, reduceCtorEq, false_or,
      Piece.node.injEq] at h
    simp only [Form.children, ArrowForm.children, List.mem_cons, List.mem_append, Option.mem_toList]
    rcases h with h | rfl | h | rfl
    · exact .inr (.inr (.inl (hoptional h)))
    · exact .inl rfl
    · exact .inr (.inr (.inr (hoptional h)))
    · exact .inr (.inl rfl)
  | functionExpression function =>
    simp only [piecesOf, List.mem_cons, List.mem_append, reduceCtorEq, false_or, Piece.node.injEq] at h
    simp only [Form.children, FunctionForm.children, List.cons_append, List.mem_cons, List.mem_append, Option.mem_toList]
    rcases h with h | rfl | h | h
    · exact .inr (.inl (.inr (hoptional h)))
    · exact .inl rfl
    · exact .inr (.inr (hoptional h))
    · cases hbody : function.body with
      | none => simp [hbody] at h
      | some body =>
        simp only [hbody, Option.elim_some, List.mem_cons, List.not_mem_nil, or_false, reduceCtorEq, false_or,
          Piece.node.injEq] at h
        exact .inr (.inl (.inl (congrArg some h.symm)))
  | call callee arguments typeArguments =>
    simp only [piecesOf, List.mem_cons, List.mem_append, List.not_mem_nil, or_false, Piece.node.injEq] at h
    simp only [Form.children, List.mem_cons, Option.mem_toList]
    rcases h with rfl | h | rfl
    · exact .inl rfl
    · exact .inr (.inr (hoptional h))
    · exact .inr (.inl rfl)
  | identifier => simp [piecesOf] at h
  | _ => cases h

end Written

end RouteMigration.Proofs
