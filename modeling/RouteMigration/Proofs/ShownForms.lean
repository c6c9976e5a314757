import RouteMigration.Proofs.Printing

/-!
# What forms show

The writer of a form adds to the text before it, and what it adds shows what the parts of the form show. A property of
texts that passes from a part to the whole holds of the text of a form if it holds of the text of a part, or of a text
that the form has itself. Of no property, this says that every tree prints in which each part fits into its place.
-/

namespace RouteMigration.Proofs
open Syntax Printer

/-! ### Writers that show something -/

/-- A property that holds of a text because it holds of a part of it. -/
def IsUpward (occurs : String → Prop) : Prop :=
  ∀ part text : String, part.toList <:+: text.toList → occurs part → occurs text

/-- The writer adds to every text, and what it adds has the property under the condition. -/
def Shows (occurs : String → Prop) (writer : Writer) (condition : Prop) : Prop :=
  ∀ before, ∃ added, writer before = .ok (before ++ added) ∧ (condition → occurs added)

section Writers

variable {occurs : String → Prop} {writer : Writer} {writers : List Writer} {p q : Prop}

lemma Shows.appends (h : Shows occurs writer p) : Appends writer := by
  intro before
  obtain ⟨added, hadded, -⟩ := h before
  exact ⟨added, hadded⟩

lemma Shows.mono (h : Shows occurs writer p) (hqp : q → p) : Shows occurs writer q := by
  intro before
  obtain ⟨added, hadded, hoccurs⟩ := h before
  exact ⟨added, hadded, fun hq => hoccurs (hqp hq)⟩

lemma Appends.shows (h : Appends writer) : Shows occurs writer False := by
  intro before
  obtain ⟨added, hadded⟩ := h before
  exact ⟨added, hadded, False.elim⟩

/-- A writer that adds in any case, and shows something if the condition holds. -/
lemma Appends.shows_of (h : Appends writer) (hp : p → Shows occurs writer True) : Shows occurs writer p := by
  by_cases hcondition : p
  · exact (hp hcondition).mono fun _ => trivial
  · exact h.shows.mono hcondition

lemma shows_write (text : String) : Shows occurs (Writer.write text) (occurs text) :=
  fun _ => ⟨text, rfl, id⟩

lemma shows_nil : Shows occurs (Writer.all []) False :=
  appends_nil.shows

lemma shows_after {writer : String → Writer} (h : ∀ before, Shows occurs (writer before) p) :
    Shows occurs (Writer.after writer) p :=
  fun before => h before before

lemma subset_intersperse {α : Type} {separator a : α} {l : List α} (h : a ∈ l) : a ∈ l.intersperse separator := by
  induction l with
  | nil => cases h
  | cons b l ih =>
    cases l with
    | nil => exact h
    | cons c l =>
      rw [List.intersperse_cons_cons]
      rcases List.mem_cons.mp h with rfl | h
      · exact List.mem_cons_self ..
      · exact List.mem_cons_of_mem _ (List.mem_cons_of_mem _ (ih h))

variable (hup : IsUpward occurs)
include hup

lemma shows_cons (h : Shows occurs writer p) (hs : Shows occurs (Writer.all writers) q) :
    Shows occurs (Writer.all (writer :: writers)) (p ∨ q) := by
  intro before
  obtain ⟨first, hfirst, hp⟩ := h before
  obtain ⟨rest, hrest, hq⟩ := hs (before ++ first)
  refine ⟨first ++ rest, ?_, fun hpq => ?_⟩
  · rw [all_cons, hfirst, ← String.append_assoc]
    exact hrest
  · rcases hpq with h | h
    · refine hup first _ ?_ (hp h)
      rw [String.toList_append]
      exact List.infix_append_left
    · refine hup rest _ ?_ (hq h)
      rw [String.toList_append]
      exact List.infix_append_right

lemma shows_pair {other : Writer} (h : Shows occurs writer p) (h' : Shows occurs other q) :
    Shows occurs (Writer.all [writer, other]) (p ∨ q) :=
  (shows_cons hup h (shows_cons hup h' shows_nil)).mono fun hpq => hpq.imp_right .inl

/-- One of the writers shows something. -/
lemma shows_of_mem (happ : ∀ w ∈ writers, Appends w) (hmem : writer ∈ writers) (h : Shows occurs writer True) :
    Shows occurs (Writer.all writers) True := by
  induction writers with
  | nil => cases hmem
  | cons first writers ih =>
    obtain ⟨hfirst, hrest⟩ := List.forall_mem_cons.mp happ
    rcases List.mem_cons.mp hmem with rfl | hmem
    · exact (shows_cons hup h (appends_all hrest).shows).mono .inl
    · exact (shows_cons hup hfirst.shows (ih hrest hmem)).mono .inr

variable (occurs) in
omit hup in
/-- The writer that is made of others shows what any of them shows. -/
def Gathers (combine : List Writer → Writer) : Prop :=
  ∀ writers, (∀ w ∈ writers, Appends w) →
    Appends (combine writers) ∧ ∀ w ∈ writers, Shows occurs w True → Shows occurs (combine writers) True

lemma gathers_all : Gathers occurs Writer.all :=
  fun _ happ => ⟨appends_all happ, fun _ hmem h => shows_of_mem hup happ hmem h⟩

lemma gathers_separated (separator : String) : Gathers occurs (Writer.separated separator) := by
  refine fun writers happ => ⟨appends_separated separator happ, fun w hmem h => ?_⟩
  refine shows_of_mem hup (fun w hw => ?_) (subset_intersperse hmem) h
  rcases mem_intersperse hw with hw | rfl
  · exact happ w hw
  · exact appends_write separator

omit hup in
/-- What any of the writers for a list shows. -/
lemma shows_gathered {α : Type} {combine : List Writer → Writer} {l : List α} {f : α → Writer} {q : α → Prop}
    (hcombine : Gathers occurs combine) (h : ∀ a ∈ l, Shows occurs (f a) (q a)) :
    Shows occurs (combine (l.map f)) (∃ a ∈ l, q a) := by
  obtain ⟨happ, hshows⟩ := hcombine (l.map f) fun w hw => by
    obtain ⟨a, ha, rfl⟩ := List.mem_map.mp hw
    exact (h a ha).appends
  refine happ.shows_of ?_
  rintro ⟨a, ha, hq⟩
  exact hshows (f a) (List.mem_map_of_mem ha) ((h a ha).mono fun _ => hq)

/-- One of the entries between braces shows something. -/
lemma shows_bracedLines (style : Style) {entries : List (List String × Writer)} {entry : List String × Writer}
    (happ : ∀ e ∈ entries, Appends e.2) (hmem : entry ∈ entries) (h : Shows occurs entry.2 True) :
    Shows occurs (bracedLines style entries) True := by
  have hline (indent : Nat) : Shows occurs (entryWriter indent entry) True := by
    refine shows_of_mem hup (fun w hw => ?_) (List.mem_append_right _ (List.mem_cons_of_mem _
      (List.mem_singleton_self _))) h
    rcases List.mem_append.mp hw with hcomment | hown
    · obtain ⟨comment, -, rfl⟩ := List.mem_map.mp hcomment
      exact appends_pair (appends_write _) (appends_write _)
    · rcases List.mem_pair.mp hown with rfl | rfl
      · exact appends_write _
      · exact happ entry hmem
  intro before
  rw [bracedLines_of_ne (List.ne_nil_of_mem hmem)]
  refine shows_of_mem hup (fun w hw => ?_) (List.mem_append_left _ (List.mem_cons_of_mem _
    (List.mem_map_of_mem hmem))) (hline _) before
  rcases List.mem_append.mp hw with hw | hw
  · rcases List.mem_cons.mp hw with rfl | hw
    · exact appends_write _
    · obtain ⟨e, he, rfl⟩ := List.mem_map.mp hw
      exact appends_entryWriter _ (happ e he)
  · rcases List.mem_pair.mp hw with rfl | rfl
    · exact appends_write _
    · exact appends_write _

/-- What any of the entries between braces shows. -/
lemma shows_braced {α : Type} (style : Style) {l : List α} {f : α → List String × Writer} {q : α → Prop}
    (h : ∀ a ∈ l, Shows occurs (f a).2 (q a)) : Shows occurs (bracedLines style (l.map f)) (∃ a ∈ l, q a) := by
  have happ : ∀ entry ∈ l.map f, Appends entry.2 := by
    intro entry hentry
    obtain ⟨a, ha, rfl⟩ := List.mem_map.mp hentry
    exact (h a ha).appends
  refine (appends_bracedLines style happ).shows_of ?_
  rintro ⟨a, ha, hq⟩
  exact shows_bracedLines hup style happ (List.mem_map_of_mem ha) ((h a ha).mono fun _ => hq)

end Writers

/-! ### Forms -/

/-- The layout of a list of parameters has a text around each of the items. -/
def HasLayout {α : Type} : Form α → Prop
  | .parameters items (some layout) => layout.length = items.length + 1
  | _ => True

/-- Something is in the plain text of a form as it is shown, which is shifted unless it is a literal or an item of a
list of parameters. -/
def ShowsText {α : Type} (occurs : String → Prop) (shift : Int) : Form α → Prop
  | .verbatim _ parts literal => ∃ text, .text text ∈ parts ∧ occurs (Layout.shiftText (if literal then 0 else shift) text)
  | .parameters items _ => ∃ text, .text text ∈ items ∧ occurs text
  | _ => False

section Forms

variable {occurs : String → Prop} (hup : IsUpward occurs) {style : Style} {p : Node → Prop}
include hup

lemma shows_optional_part {node : Option Node} (h : ∀ n ∈ node, Shows occurs (writersOf style n).alone (p n)) :
    Shows occurs (Writer.optional ((node.map (printed style)).map Printer.alone)) (∃ n ∈ node, p n) := by
  cases node with
  | none => exact shows_nil.mono fun ⟨_, hn, _⟩ => nomatch hn
  | some n =>
    refine (shows_cons hup (h n rfl) shows_nil).mono ?_
    rintro ⟨_, hn, hp⟩
    cases hn
    exact .inl hp

/-- A part behind a text. -/
lemma shows_behind {node : Node} (text : String) (h : Shows occurs (writersOf style node).alone (p node)) :
    Shows occurs (Writer.all [Writer.write text, Printer.alone (printed style node)]) (p node) :=
  (shows_pair hup (shows_write text) h).mono .inr

/-- A part that may be missing behind a text. -/
lemma shows_optional_behind {node : Option Node} (text : String)
    (h : ∀ n ∈ node, Shows occurs (writersOf style n).alone (p n)) :
    Shows occurs (Writer.optional ((node.map (printed style)).map fun value =>
      Writer.all [Writer.write text, Printer.alone value])) (∃ n ∈ node, p n) := by
  cases node with
  | none => exact shows_nil.mono fun ⟨_, hn, _⟩ => nomatch hn
  | some n =>
    refine (shows_cons hup (shows_behind hup text (h n rfl)) shows_nil).mono ?_
    rintro ⟨_, hn, hp⟩
    cases hn
    exact .inl hp

omit hup in
lemma shows_statement {node : Node} (hstatement : node.form.isStatement = true)
    (h : Shows occurs (writersOf style node).alone (p node)) :
    Shows occurs (Printer.statement (printed style node)) (p node) := by
  unfold Printer.statement
  rw [if_pos hstatement]
  exact h

lemma shows_function {form : FunctionForm Node} (h : ∀ n ∈ form.children, Shows occurs (writersOf style n).alone (p n)) :
    Shows occurs (function style (form.map (printed style))) (∃ n ∈ form.children, p n) := by
  obtain ⟨name, params, body, isAsync, isGenerator, typeParameters, returnType⟩ := form
  have hparams : Shows occurs (writersOf style params).alone (p params) := h _ (List.mem_cons_self ..)
  have htypes : Shows occurs (Writer.optional ((typeParameters.map (printed style)).map Printer.alone))
      (∃ n ∈ typeParameters, p n) :=
    shows_optional_part hup fun n hn => h n (by simp [FunctionForm.children, Option.mem_def.mp hn])
  have hreturn : Shows occurs (Writer.optional ((returnType.map (printed style)).map Printer.alone))
      (∃ n ∈ returnType, p n) :=
    shows_optional_part hup fun n hn => h n (by simp [FunctionForm.children, Option.mem_def.mp hn])
  refine (shows_cons hup (shows_write _) <| shows_cons hup (shows_write _) <| shows_cons hup (shows_write _) <|
    shows_cons hup htypes <| shows_cons hup hparams <| shows_pair hup hreturn
      (?hbody : Shows occurs _ (∃ n ∈ body, p n))).mono ?_
  case hbody =>
    cases body with
    | none =>
      refine (appends_write _).shows.mono ?_
      rintro ⟨_, hn, -⟩
      cases hn
    | some body =>
      refine (shows_behind hup " " (h body (by simp [FunctionForm.children]))).mono ?_
      rintro ⟨_, hn, hp⟩
      cases hn
      exact hp
  rintro ⟨n, hn, hp⟩
  simp only [FunctionForm.children, List.cons_append, List.mem_cons, List.mem_append, Option.mem_toList] at hn
  rcases hn with rfl | (hn | hn) | hn
  · exact .inr (.inr (.inr (.inr (.inl hp))))
  · exact .inr (.inr (.inr (.inr (.inr (.inr ⟨n, hn, hp⟩)))))
  · exact .inr (.inr (.inr (.inl ⟨n, hn, hp⟩)))
  · exact .inr (.inr (.inr (.inr (.inr (.inl ⟨n, hn, hp⟩)))))

lemma shows_arrow {form : ArrowForm Node} (h : ∀ n ∈ form.children, Shows occurs (writersOf style n).alone (p n)) :
    Shows occurs (arrow (form.map (printed style))) (∃ n ∈ form.children, p n) := by
  obtain ⟨params, body, isAsync, typeParameters, returnType⟩ := form
  have hparams : Shows occurs (writersOf style params).alone (p params) := h _ (by simp [ArrowForm.children])
  have hbody : Shows occurs (writersOf style body).alone (p body) := h _ (by simp [ArrowForm.children])
  have htypes : Shows occurs (Writer.optional ((typeParameters.map (printed style)).map Printer.alone))
      (∃ n ∈ typeParameters, p n) :=
    shows_optional_part hup fun n hn => h n (by simp [ArrowForm.children, Option.mem_def.mp hn])
  have hreturn : Shows occurs (Writer.optional ((returnType.map (printed style)).map Printer.alone))
      (∃ n ∈ returnType, p n) :=
    shows_optional_part hup fun n hn => h n (by simp [ArrowForm.children, Option.mem_def.mp hn])
  refine (shows_cons hup (shows_write _) <| shows_cons hup htypes <| shows_cons hup hparams <|
    shows_cons hup hreturn <| shows_behind hup " => " hbody).mono ?_
  rintro ⟨n, hn, hp⟩
  simp only [ArrowForm.children, List.mem_cons, List.mem_append, Option.mem_toList] at hn
  rcases hn with rfl | rfl | hn | hn
  · exact .inr (.inr (.inl hp))
  · exact .inr (.inr (.inr (.inr hp)))
  · exact .inr (.inl ⟨n, hn, hp⟩)
  · exact .inr (.inr (.inr (.inl ⟨n, hn, hp⟩)))

/-- The items of a list of parameters are all shown if there is a text around each of them. -/
lemma shows_laidOut (shift : Int) {items : List (Piece Node)} {layout : List String}
    (h : ∀ n ∈ nodesOf items, Shows occurs (writersOf style n).alone (p n)) :
    Shows occurs (laidOut shift (items.map (·.map (printed style))) layout)
      (layout.length = items.length + 1 ∧
        ((∃ n ∈ nodesOf items, p n) ∨ ∃ text, .text text ∈ items ∧ occurs text)) := by
  induction items generalizing layout with
  | nil =>
    have happends : Appends (laidOut shift ([] : List (Piece Printed)) layout) := by
      cases layout <;> exact appends_write _
    refine happends.shows.mono ?_
    rintro ⟨-, ⟨n, hn, -⟩ | ⟨text, htext, -⟩⟩
    · cases hn
    · cases htext
  | cons item items ih =>
    cases layout with
    | nil => exact (appends_write _).shows.mono fun hcondition => nomatch hcondition.1
    | cons text layout =>
      have hrest := @ih layout fun n hn => by
        obtain ⟨piece, hpiece, hn⟩ := List.mem_filterMap.mp hn
        exact h n (List.mem_filterMap.mpr ⟨piece, List.mem_cons_of_mem _ hpiece, hn⟩)
      cases item with
      | text own =>
        refine (shows_cons hup (shows_write _) (shows_pair hup (shows_write own) hrest)).mono ?_
        rintro ⟨hlength, hnode | ⟨other, hother, hoccurs⟩⟩
        · exact .inr (.inr ⟨Nat.succ.inj hlength, .inl hnode⟩)
        · rcases List.mem_cons.mp hother with heq | hother
          · cases heq
            exact .inr (.inl hoccurs)
          · exact .inr (.inr ⟨Nat.succ.inj hlength, .inr ⟨other, hother, hoccurs⟩⟩)
      | node n =>
        have hown : Shows occurs (writersOf style n).alone (p n) := h n (List.mem_cons_self ..)
        refine (shows_cons hup (shows_write _) (shows_pair hup hown hrest)).mono ?_
        rintro ⟨hlength, ⟨m, hm, hp⟩ | ⟨other, hother, hoccurs⟩⟩
        · rcases List.mem_cons.mp hm with rfl | hm
          · exact .inr (.inl hp)
          · exact .inr (.inr ⟨Nat.succ.inj hlength, .inl ⟨m, hm, hp⟩⟩)
        · rcases List.mem_cons.mp hother with heq | hother
          · cases heq
          · exact .inr (.inr ⟨Nat.succ.inj hlength, .inr ⟨other, hother, hoccurs⟩⟩)

omit hup in
/-- The pieces of a form show their nodes and their texts. -/
lemma shows_pieces {combine : List Writer → Writer} {f : Piece Printed → Writer} {parts : List (Piece Node)}
    {q : String → Prop} (hcombine : Gathers occurs combine) (hnode : ∀ n, f (.node n) = Printer.alone n)
    (htext : ∀ text, Shows occurs (f (.text text)) (q text))
    (h : ∀ n ∈ nodesOf parts, Shows occurs (writersOf style n).alone (p n)) :
    Shows occurs (combine ((parts.map (·.map (printed style))).map f))
      ((∃ n ∈ nodesOf parts, p n) ∨ ∃ text, .text text ∈ parts ∧ q text) := by
  have hpiece : ∀ piece ∈ parts, Shows occurs (f (piece.map (printed style)))
      (match piece with | .text text => q text | .node n => p n) := by
    intro piece hpiece
    cases piece with
    | text text => exact htext text
    | node n =>
      rw [Piece.map, hnode]
      exact h n (List.mem_filterMap.mpr ⟨.node n, hpiece, rfl⟩)
  rw [List.map_map]
  refine (shows_gathered hcombine hpiece).mono ?_
  rintro (⟨n, hn, hp⟩ | ⟨text, hmem, hq⟩)
  · obtain ⟨piece, hpiece, hnodes⟩ := List.mem_filterMap.mp hn
    cases piece with
    | text text => cases hnodes
    | node m =>
      cases hnodes
      exact ⟨.node n, hpiece, hp⟩
  · exact ⟨.text text, hmem, hq⟩

/-- A list of parameters without the text around them. -/
lemma shows_parameters {items : List (Piece Node)} (h : ∀ n ∈ nodesOf items, Shows occurs (writersOf style n).alone (p n)) :
    Shows occurs (Writer.all [Writer.write "(",
        Writer.separated ", " ((items.map (·.map (printed style))).map part), Writer.write ")"])
      ((∃ n ∈ nodesOf items, p n) ∨ ∃ text, .text text ∈ items ∧ occurs text) := by
  have hitems : Shows occurs (Writer.separated ", " ((items.map (·.map (printed style))).map part))
      ((∃ n ∈ nodesOf items, p n) ∨ ∃ text, .text text ∈ items ∧ occurs text) :=
    shows_pieces (gathers_separated hup ", ") (fun _ => rfl) (fun _ => shows_write _) h
  exact (shows_cons hup (shows_write _) (shows_pair hup hitems (shows_write _))).mono fun h => .inr (.inl h)

lemma shows_call {callee arguments : Node} {typeArguments : Option Node}
    (h : ∀ n ∈ callee :: arguments :: typeArguments.toList, Shows occurs (writersOf style n).alone (p n)) :
    Shows occurs (Writer.all [Printer.alone (printed style callee),
        Writer.optional ((typeArguments.map (printed style)).map Printer.alone), Printer.alone (printed style arguments)])
      (∃ n ∈ callee :: arguments :: typeArguments.toList, p n) := by
  have hcallee : Shows occurs (writersOf style callee).alone (p callee) := h _ (List.mem_cons_self ..)
  have harguments : Shows occurs (writersOf style arguments).alone (p arguments) := h _ (by simp)
  have htypes : Shows occurs (Writer.optional ((typeArguments.map (printed style)).map Printer.alone))
      (∃ n ∈ typeArguments, p n) :=
    shows_optional_part hup fun n hn => h n (by simp [Option.mem_def.mp hn])
  refine (shows_cons hup hcallee (shows_pair hup htypes harguments)).mono ?_
  rintro ⟨n, hn, hp⟩
  simp only [List.mem_cons, Option.mem_toList] at hn
  rcases hn with rfl | rfl | hn
  · exact .inl hp
  · exact .inr (.inr hp)
  · exact .inr (.inl ⟨n, hn, hp⟩)

lemma shows_declarator {name : Node} {init declaredType : Option Node}
    (h : ∀ n ∈ name :: (init.toList ++ declaredType.toList), Shows occurs (writersOf style n).alone (p n)) :
    Shows occurs (Writer.all [Printer.alone (printed style name),
        Writer.optional ((declaredType.map (printed style)).map Printer.alone),
        Writer.optional ((init.map (printed style)).map fun value => Writer.all [Writer.write " = ", Printer.alone value])])
      (∃ n ∈ name :: (init.toList ++ declaredType.toList), p n) := by
  have hname : Shows occurs (writersOf style name).alone (p name) := h _ (List.mem_cons_self ..)
  have htype : Shows occurs (Writer.optional ((declaredType.map (printed style)).map Printer.alone))
      (∃ n ∈ declaredType, p n) :=
    shows_optional_part hup fun n hn => h n (by simp [Option.mem_def.mp hn])
  have hvalue : Shows occurs (Writer.optional ((init.map (printed style)).map fun value =>
      Writer.all [Writer.write " = ", Printer.alone value])) (∃ n ∈ init, p n) :=
    shows_optional_behind hup " = " fun n hn => h n (by simp [Option.mem_def.mp hn])
  refine (shows_cons hup hname (shows_pair hup htype hvalue)).mono ?_
  rintro ⟨n, hn, hp⟩
  simp only [List.mem_cons, List.mem_append, Option.mem_toList] at hn
  rcases hn with rfl | hn | hn
  · exact .inl hp
  · exact .inr (.inr ⟨n, hn, hp⟩)
  · exact .inr (.inl ⟨n, hn, hp⟩)

/-- A form with its parts in their places shows the parts of it that show something, and its own text. -/
theorem shows_byForm {form : Form Node} (hfits : Fits form) (hproperty : isProperty form = false)
    (hfree : ∀ n ∈ freeParts form, Shows occurs (writersOf style n).alone (p n))
    (hentry : ∀ n ∈ form.children, Shows occurs (writersOf style n).entry (p n)) (shift : Int) (isRead : Bool) :
    Shows occurs (byForm style shift isRead (form.map (printed style)))
      (HasLayout form ∧ ((∃ n ∈ form.children, p n) ∨ ShowsText occurs shift form)) := by
  have hnone {writer : Writer} (h : Appends writer) (hchildren : form.children = [])
      (htext : ¬ ShowsText occurs shift form) :
      Shows occurs writer (HasLayout form ∧ ((∃ n ∈ form.children, p n) ∨ ShowsText occurs shift form)) := by
    refine h.shows.mono ?_
    rintro ⟨-, ⟨n, hn, -⟩ | hshown⟩
    · rw [hchildren] at hn
      cases hn
    · exact htext hshown
  have hparts {writer : Writer} (h : Shows occurs writer (∃ n ∈ form.children, p n))
      (htext : ¬ ShowsText occurs shift form) :
      Shows occurs writer (HasLayout form ∧ ((∃ n ∈ form.children, p n) ∨ ShowsText occurs shift form)) :=
    h.mono fun hcondition => hcondition.2.resolve_right htext
  have hsingle {writer : Writer} {n : Node} (hchildren : form.children = [n]) {condition : Prop}
      (h : Shows occurs writer condition) (hcondition : p n → condition) :
      Shows occurs writer (∃ n ∈ form.children, p n) := by
    refine h.mono ?_
    rintro ⟨m, hm, hp⟩
    rw [hchildren, List.mem_singleton] at hm
    exact hcondition (hm ▸ hp)
  cases form with
  | bare => cases hfits.construct
  | bareStatement => cases hfits.construct
  | property key value => cases hproperty
  | verbatim kind parts literal =>
    exact (shows_pieces (gathers_all hup) (fun _ => rfl) (fun _ => shows_write _) hfree).mono And.right
  | identifier | stringLiteral | objectPattern | importSpecifier | exportSpecifier | importDeclaration =>
    exact hnone (appends_write _) rfl id
  | parameters items layout =>
    cases layout with
    | none => exact (shows_parameters hup hfree).mono And.right
    | some layout =>
      cases isRead with
      | true => exact shows_laidOut hup shift hfree
      | false => exact (shows_parameters hup hfree).mono And.right
  | arrowFunction form => exact hparts (shows_arrow hup hfree) id
  | functionExpression form => exact hparts (shows_function hup hfree) id
  | functionDeclaration form => exact hparts (shows_function hup hfree) id
  | call callee arguments typeArguments => exact hparts (shows_call hup hfree) id
  | member object attributeName =>
    have hobject := shows_pair hup (hfree object (List.mem_singleton_self _)) (shows_write ("." ++ attributeName))
    exact hparts (hsingle rfl hobject .inl) id
  | objectExpression properties =>
    have hlines : ∀ n ∈ properties, Shows occurs (Writer.all [(writersOf style n).entry, Writer.write ","]) (p n) :=
      fun n hn => (shows_pair hup (hentry n hn) (shows_write _)).mono .inl
    change Shows occurs (bracedLines style ((properties.map (printed style)).map _)) _
    rw [List.map_map]
    exact hparts (shows_braced hup style hlines) id
  | block statements =>
    have hlines : ∀ n ∈ statements, Shows occurs (Printer.statement (printed style n)) (p n) :=
      fun n hn => shows_statement (hfits.statements n hn) (hfree n hn)
    change Shows occurs (bracedLines style ((statements.map (printed style)).map _)) _
    rw [List.map_map]
    exact hparts (shows_braced hup style hlines) id
  | declarator name init declaredType => exact hparts (shows_declarator hup hfree) id
  | otherStatement node => exact hparts (hsingle rfl (hfree node (List.mem_singleton_self _)) id) id
  | returnStatement argument =>
    have hvalue : Shows occurs (Writer.optional ((argument.map (printed style)).map fun value =>
        Writer.all [Writer.write " ", Printer.alone value])) (∃ n ∈ argument, p n) :=
      shows_optional_behind hup " " fun n hn => hfree n (by simp [freeParts, Form.children, Option.mem_def.mp hn])
    refine hparts ((shows_cons hup (shows_write _) (shows_pair hup hvalue (shows_write _))).mono ?_) id
    rintro ⟨n, hn, hp⟩
    exact .inr (.inl ⟨n, Option.mem_toList.mp hn, hp⟩)
  | classDeclaration name tail =>
    have htail := shows_cons hup (shows_write "class") (shows_pair hup (shows_write ((given name).elim "" (" " ++ ·)))
      (hfree tail (List.mem_singleton_self _)))
    exact hparts (hsingle rfl htail fun hp => .inr (.inr hp)) id
  | variableDeclaration kind declarators =>
    have hentries : Shows occurs (Writer.separated ", " ((declarators.map (printed style)).map fun printed =>
        printed.2.entry)) (∃ n ∈ declarators, p n) := by
      rw [List.map_map]
      exact shows_gathered (gathers_separated hup ", ") hentry
    refine hparts ((shows_cons hup (shows_write _) (shows_pair hup hentries (shows_write _))).mono ?_) id
    exact fun hcondition => .inr (.inl hcondition)
  | exportNamed form =>
    obtain ⟨declaration, specifiers, source, typeOnly⟩ := form
    cases declaration with
    | none => exact hnone (appends_pair (appends_write _) (appends_write _)) rfl id
    | some inner =>
      have hstatement := shows_statement (hfits.statements inner (by simp [statementParts]))
        (hfree inner (by simp [freeParts, Form.children]))
      exact hparts (hsingle rfl (shows_pair hup (shows_write _) hstatement) .inr) id
  | exportDefault inner =>
    have hinner := shows_cons hup (shows_write "export default ") (shows_pair hup
      (hfree inner (List.mem_singleton_self _)) (shows_write (if isDeclaration inner then "" else semicolon style)))
    exact hparts (hsingle rfl hinner fun hp => .inr (.inl hp)) id

end Forms

/-! ### Trees that print -/

/-- A form prints when its parts do, those of an object literal in their places. -/
theorem appends_byForm {style : Style} {form : Form Node} (hfits : Fits form) (hproperty : isProperty form = false)
    (hfree : ∀ n ∈ freeParts form, Appends (writersOf style n).alone)
    (hentry : ∀ n ∈ form.children, Appends (writersOf style n).entry) (shift : Int) (isRead : Bool) :
    Appends (byForm style shift isRead (form.map (printed style))) := by
  have hnothing : IsUpward fun _ => False := fun _ _ _ => id
  exact (shows_byForm hnothing hfits hproperty (fun n hn => (hfree n hn).shows) (fun n hn => (hentry n hn).shows) shift
    isRead).appends

/-- A tree in which every part fits into its place prints, by itself unless it is a property. -/
theorem appends_writersOf (style : Style) {node : Node} (h : Throughout (fun n => Fits n.form) node) :
    (isProperty node.form = false → Appends (writersOf style node).alone) ∧ Appends (writersOf style node).entry := by
  induction node using node_induction with
  | h info form ih =>
    have hfits : Fits form := h.root
    have hfree : ∀ n ∈ freeParts form, Appends (writersOf style n).alone := by
      intro n hn
      have hchild := freeParts_subset hn
      exact (ih n hchild (h.child hchild)).1 (hfits.free n hn)
    have hentry : ∀ n ∈ form.children, Appends (writersOf style n).entry := fun n hn => (ih n hn (h.child hn)).2
    have hform (hproperty : isProperty form = false) (shift : Int) (isRead : Bool) :=
      appends_byForm hfits hproperty hfree hentry shift isRead
    rw [writersOf_mk]
    dsimp only [writers]
    constructor
    · intro hproperty
      refine appends_after fun before => ?_
      cases info.raw with
      | none => exact hform hproperty _ _
      | some raw =>
        dsimp only
        split
        · exact appends_write raw
        · exact hform hproperty _ _
    · cases form with
      | property key value =>
        have hvalue : Appends (writersOf style value).alone := hfree value (List.mem_singleton_self value)
        dsimp only [Form.map, property]
        split
        · exact appends_write key
        · exact appends_pair (appends_write _) hvalue
      | _ => exact appends_after fun before => hform rfl _ _

theorem Printable.appends {node : Node} (h : Printable node) (style : Style) : Appends (writeNode style node) :=
  (appends_writersOf style h.fits).1 h.free

end RouteMigration.Proofs
