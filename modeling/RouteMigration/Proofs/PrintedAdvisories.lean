import RouteMigration.Proofs.AdvisedDrafts
import RouteMigration.Proofs.WrittenComments

/-!
# Advisories in the text

The advisories of a migration stand in the text of the migrated module, each of them as a comment directly above what it
is about: a property of the descriptor, or the statement of the action that a page keeps. No other comment is added to
the tree.
-/

namespace RouteMigration.Proofs
open Syntax Route Printer

variable {settings : Settings} {module : Module} {routePath : String} {kind : Kind}

/-! ### Finished bodies -/

/-- No import has comments. -/
def CommentFreeImports (body : List Node) : Prop :=
  ∀ statement ∈ body, (import? statement).isSome → CommentFree statement

lemma commentFree_of_import {statement : Node} (h : (import? statement).isSome)
    (hcomments : statement.info.comments = []) : CommentFree statement := by
  obtain ⟨form, hform⟩ := import?_isSome h
  refine commentFree_iff.mpr ⟨hcomments, ?_⟩
  rw [Node.children, hform]
  exact List.forall_mem_nil _

/-- Editing imports writes no comments. -/
lemma CommentFreeImports.edited {body body' : List Node} (h : CommentFreeImports body)
    (hedited : Edited ImportEdit body body') : CommentFreeImports body' := by
  intro statement' hstatement' himport
  obtain ⟨statement, hstatement, hedit⟩ := hedited.origin hstatement'
  cases hedit with
  | other _ => exact h statement' hstatement himport
  | changed hsome hplace =>
    apply commentFree_of_import himport
    rw [(hplace statement' rfl).2]
    exact (commentFree_iff.mp (h statement hstatement hsome)).1

/-- Finishing a draft writes no comments above imports. -/
lemma CommentFreeImports.finished {body : List Node} (h : CommentFreeImports body) (kind : Kind) (used : List String) :
    CommentFreeImports (finish settings kind used body) := by
  intro statement hstatement himport
  obtain ⟨prologue, rest, hedited, -, -, happly⟩ :=
    applyImports_eq (dropLegacy settings used body) (pendingImports settings kind)
  have hkept := (h.edited (dropLegacy_edited settings used body)).edited hedited
  have hmem := List.mem_of_mem_filter hstatement
  rw [happly, List.mem_append, List.mem_append] at hmem
  rcases hmem with (hmem | hmem) | hmem
  · exact hkept statement (List.mem_append_left _ hmem) himport
  · obtain ⟨request, -, rfl⟩ := List.mem_map.mp hmem
    exact commentFree_of_import himport rfl
  · exact hkept statement (List.mem_append_right _ hmem) himport

/-- Finishing a draft leaves the statements that are no imports and no lists of exports as they are. -/
lemma filter_isBystander_finish (settings : Settings) (kind : Kind) (used : List String) (body : List Node) :
    (finish settings kind used body).filter isBystander = body.filter isBystander := by
  rw [filter_eq_flatMap, filter_eq_flatMap]
  apply finish_flatMap
  · intro statement himport
    rw [isBystander_of_import himport]
    rfl
  · intro statement hempty
    rw [isBystander_of_isEmptied hempty]
    rfl

lemma flatMap_commentsOf_filter {p : Node → Bool} {body : List Node}
    (h : ∀ statement ∈ body, p statement = false → CommentFree statement) :
    (body.filter p).flatMap commentsOf = body.flatMap commentsOf := by
  induction body with
  | nil => rfl
  | cons statement body ih =>
    have hrest := ih fun s hs => h s (List.mem_cons_of_mem _ hs)
    cases hp : p statement with
    | true => rw [List.filter_cons_of_pos hp, List.flatMap_cons, List.flatMap_cons, hrest]
    | false =>
      have hfree : commentsOf statement = [] := h statement (List.mem_cons_self ..) hp
      rw [List.filter_cons_of_neg (Bool.eq_false_iff.mp hp), List.flatMap_cons, hfree, hrest, List.nil_append]

/-- Lists of which the same members satisfy a predicate can be split in the same way at one that does. -/
lemma exists_split_of_filter {α : Type} {p : α → Bool} {l before after : List α} {a : α} (ha : p a = true)
    (h : l.filter p = (before ++ a :: after).filter p) :
    ∃ before' after', l = before' ++ a :: after' ∧ (before' ++ after').filter p = (before ++ after).filter p := by
  rw [List.filter_append, List.filter_cons_of_pos ha, List.filter_eq_append_iff] at h
  obtain ⟨front, back, rfl, hfront, hback⟩ := h
  obtain ⟨skipped, after', rfl, hskipped, -, hafter⟩ := List.filter_eq_cons_iff.mp hback
  refine ⟨front ++ skipped, after', (List.append_assoc ..).symm, ?_⟩
  rw [List.filter_append, List.filter_append, List.filter_append, hfront, hafter,
    List.filter_eq_nil_iff.mpr hskipped, List.append_nil]

section Advised

variable {advisories : List String} {body before after : List Node} {descriptor : Node} {notes : List Note}
  {component : String}

lemma AdvisedBody.isBystander_descriptor
    (h : AdvisedBody settings module routePath kind advisories body before descriptor after notes component) :
    isBystander descriptor = true := by
  obtain ⟨gap, rfl⟩ := h.descriptor
  obtain ⟨value, hvalue⟩ := descriptorOf_eq settings routePath
    (notes.map Note.property ++ componentProperties component kind) kind
  rw [hvalue]
  exact isBystander_of_declaresValues (declaresValues_exportedConstant (form_withGap ..))

/-- Beside the descriptor, what has comments is the statement of an action. -/
lemma AdvisedBody.commentFree
    (h : AdvisedBody settings module routePath kind advisories body before descriptor after notes component)
    {statement : Node} (hstatement : statement ∈ body) (hmover : isBystander statement = false) :
    CommentFree statement := by
  rw [h.body, List.mem_append, List.mem_cons] at hstatement
  by_contra hsome
  have hother (hmem : statement ∈ before ++ after) : False := by
    obtain ⟨-, action, -, hstands⟩ := h.above statement hmem hsome
    rw [isBystander_of_declaresValues hstands.declares.declaresValues] at hmover
    cases hmover
  rcases hstatement with hmem | rfl | hmem
  · exact hother (List.mem_append_left _ hmem)
  · rw [h.isBystander_descriptor] at hmover
    cases hmover
  · exact hother (List.mem_append_right _ hmem)

/-- The finished body shows the advisories that the draft shows. -/
theorem AdvisedBody.finished
    (h : AdvisedBody settings module routePath kind advisories body before descriptor after notes component)
    (used : List String) :
    ∃ before' after', AdvisedBody settings module routePath kind advisories (finish settings kind used body) before'
      descriptor after' notes component := by
  have himports : CommentFreeImports (finish settings kind used body) :=
    CommentFreeImports.finished (fun _ hmem himport => h.commentFree hmem (isBystander_of_import himport)) kind used
  have hfree : ∀ statement ∈ finish settings kind used body, isBystander statement = false →
      CommentFree statement := by
    intro statement hstatement hmover
    rcases mem_finish hstatement with hmem | himport
    · exact h.commentFree hmem hmover
    · exact himports statement hstatement himport
  have hfilter := filter_isBystander_finish settings kind used body
  nth_rewrite 2 [h.body] at hfilter
  obtain ⟨before', after', hbody, hsame⟩ := exists_split_of_filter h.isBystander_descriptor hfilter
  have hmem {statement : Node} (hstatement : statement ∈ before' ++ after') :
      statement ∈ finish settings kind used body := by
    rw [hbody]
    exact ((List.sublist_cons_self descriptor after').append_left before').subset hstatement
  have hold : ∀ statement ∈ before ++ after, isBystander statement = false → CommentFree statement := by
    intro statement hstatement
    apply h.commentFree
    rw [h.body]
    exact ((List.sublist_cons_self descriptor after).append_left before).subset hstatement
  refine ⟨before', after', hbody, h.descriptor, h.annotated, h.advisories, ?_, ?_⟩
  · rw [← flatMap_commentsOf_filter fun statement hstatement => hfree statement (hmem hstatement), hsame,
      flatMap_commentsOf_filter hold]
    exact h.comments
  · intro statement hstatement hsome
    apply h.above statement _ hsome
    have hbystander : isBystander statement = true := by
      by_contra hmover
      exact hsome (hfree statement (hmem hstatement) (Bool.eq_false_iff.mpr hmover))
    have hkept : statement ∈ (before' ++ after').filter isBystander :=
      List.mem_filter.mpr ⟨hstatement, hbystander⟩
    rw [hsame] at hkept
    exact List.mem_of_mem_filter hkept

end Advised

/-! ### Properties of the descriptor -/

section Properties

variable {properties : List Node}

lemma throughout_exportedConstant {P : Node → Prop} {gap : Option String} {name : String} {value : Node}
    (h : Throughout P (withGap gap (exportedConstant name value))) : Throughout P value := by
  have hconstant : Throughout P (constant name value) := h.child (List.mem_singleton_self _)
  have hdeclarator : Throughout P (.make (.declarator (variableOf name) (some value) none)) :=
    hconstant.child (List.mem_singleton_self _)
  exact hdeclarator.child (List.mem_cons_of_mem _ (List.mem_cons_self ..))

lemma throughout_callOf {P : Node → Prop} {callee argument : Node}
    (h : Throughout P (Route.callOf callee [argument])) : Throughout P argument := by
  have hlist : Throughout P (.join "arguments" [argument] "(" ")") :=
    h.child (List.mem_cons_of_mem _ (List.mem_cons_self ..))
  apply hlist.child
  rw [children_join]
  exact List.mem_singleton_self argument

lemma throughout_descriptorOf {P : Node → Prop} {gap : Option String}
    (h : Throughout P (withGap gap (descriptorOf settings routePath properties kind))) :
    ∀ property ∈ properties, Throughout P property := by
  have hobject : Throughout P (.make (.objectExpression properties)) := by
    cases kind with
    | page => exact throughout_callOf (throughout_exportedConstant h)
    | resource => exact throughout_callOf (throughout_exportedConstant h)
  exact fun property hproperty => hobject.child hproperty

lemma SaidOf.isProperty {key : String} {located : Located} {form : Form Node} {texts : List String}
    (h : SaidOf settings kind key located form texts) : ∃ value, form = .property key value := by
  cases h with
  | kept => exact ⟨_, rfl⟩
  | moved _ => exact ⟨_, rfl⟩

/-- Each note is one on a handler. -/
lemma exists_handler {handlers : List (String × Located)} {notes : List Note}
    (h : List.Forall₂ (Annotated settings kind) handlers notes) :
    ∀ note ∈ notes, ∃ handler ∈ handlers, Annotated settings kind handler note := by
  induction h with
  | nil => exact List.forall_mem_nil _
  | @cons handler note handlers notes hnote _ ih =>
    intro other hother
    rcases List.mem_cons.mp hother with rfl | hother
    · exact ⟨handler, List.mem_cons_self .., hnote⟩
    · obtain ⟨found, hfound, hannotated⟩ := ih other hother
      exact ⟨found, List.mem_cons_of_mem _ hfound, hannotated⟩

lemma form_of_annotated {handlers : List (String × Located)} {notes : List Note} (component : String)
    (h : List.Forall₂ (Annotated settings kind) handlers notes) :
    ∀ property ∈ notes.map Note.property ++ componentProperties component kind, ∃ key value,
      property.form = .property key value := by
  intro property hproperty
  rcases List.mem_append.mp hproperty with hmem | hmem
  · obtain ⟨note, hnote, rfl⟩ := List.mem_map.mp hmem
    obtain ⟨handler, -, hannotated⟩ := exists_handler h note hnote
    exact ⟨handler.1, hannotated.said.isProperty⟩
  · cases kind with
    | page =>
      obtain rfl := List.mem_singleton.mp hmem
      exact ⟨"component", _, rfl⟩
    | resource => cases hmem

/-- The properties in a printable descriptor are printable. -/
lemma printableProperty_descriptorOf {gap : Option String}
    (h : PrintableStatement (withGap gap (descriptorOf settings routePath properties kind)))
    (hforms : ∀ property ∈ properties, ∃ key value, property.form = .property key value) :
    ∀ property ∈ properties, PrintableProperty property := by
  intro property hproperty
  obtain ⟨key, value, hform⟩ := hforms property hproperty
  have hfits := throughout_descriptorOf h.printable.fits property hproperty
  have hpart : value ∈ freeParts property.form := by
    rw [hform]
    exact List.mem_singleton_self value
  exact ⟨key, value, hform, hfits.child (freeParts_subset hpart), hfits.root.free value hpart⟩

end Properties

/-! ### Advisories on one line -/

def OneLine (text : String) : Prop :=
  '\n' ∉ text.toList

instance (text : String) : Decidable (OneLine text) :=
  inferInstanceAs (Decidable (¬ _))

lemma oneLine_append {text text' : String} : OneLine (text ++ text') ↔ OneLine text ∧ OneLine text' := by
  simp [OneLine]

lemma oneLine_intercalate {separator : String} {texts : List String} (hseparator : OneLine separator)
    (h : ∀ text ∈ texts, OneLine text) : OneLine (String.intercalate separator texts) := by
  intro hbreak
  rw [String.toList_intercalate, List.intercalate, List.mem_flatten] at hbreak
  obtain ⟨chars, hchars, hbreak⟩ := hbreak
  rcases mem_intersperse hchars with hchars | rfl
  · obtain ⟨text, htext, rfl⟩ := List.mem_map.mp hchars
    exact h text htext hbreak
  · exact hseparator hbreak

lemma oneLine_toString (n : Nat) : OneLine (toString n) := by
  intro hbreak
  have hdigit := Nat.isDigit_of_mem_toDigits (by decide) (by decide) (Nat.toList_repr ▸ hbreak)
  revert hdigit
  decide

lemma oneLine_of_isIdentifier {name : String} (h : Text.isIdentifier name = true) : OneLine name := by
  have hstart : Text.inRanges Text.identifierStartRanges '\n' = false := by decide +kernel
  have hcontinue : Text.inRanges Text.identifierContinueRanges '\n' = false := by decide +kernel
  unfold Text.isIdentifier at h
  intro hbreak
  cases hchars : name.toList with
  | nil =>
    rw [hchars] at hbreak
    cases hbreak
  | cons first rest =>
    rw [hchars, Bool.and_eq_true, List.all_eq_true] at h
    rw [hchars] at hbreak
    rcases List.mem_cons.mp hbreak with rfl | hbreak
    · rw [hstart] at h
      cases h.1
    · rw [h.2 _ hbreak] at hcontinue
      cases hcontinue

/-- The names of the source that advisories on a handler may mention: its own, and those of its parameters. -/
def mentioned (located : Located) : List String :=
  located.localName :: ((Signature.ofNode? located.function).map fun signature => boundNames signature.params).getD []

lemma dropped_mentioned {located : Located} {handler : Handler} (h : extract? settings kind located = some handler) :
    handler.name = located.name ∧ ∀ name ∈ handler.dropped, name ∈ mentioned located := by
  obtain ⟨signature, hsignature, hrest⟩ := Option.bind_eq_some_iff.mp h
  obtain ⟨body, -, hhandler⟩ := Option.bind_eq_some_iff.mp hrest
  obtain rfl := Option.some.inj hhandler
  refine ⟨rfl, fun name hname => ?_⟩
  cases kind with
  | page =>
    rw [mentioned, hsignature]
    exact List.mem_cons_of_mem _ (List.mem_of_mem_filter hname)
  | resource => cases hname

/-- What there is to say about a handler is one line, if the names in it are. -/
lemma SaidOf.oneLine {key : String} {located : Located} {form : Form Node} {texts : List String}
    (h : SaidOf settings kind key located form texts) (hname : OneLine located.name)
    (hmentioned : ∀ name ∈ mentioned located, OneLine name) : ∀ text ∈ texts, OneLine text := by
  have henvelope : OneLine settings.envelope := oneLine_of_isIdentifier settings.isIdentifier_envelope
  have hlocal : OneLine located.localName := hmentioned _ (List.mem_cons_self ..)
  cases h with
  | kept =>
    intro text htext
    obtain rfl := List.mem_singleton.mp htext
    have hcalls : OneLine (s!"its {settings.envelope}() calls were not unwrapped") := by
      rw [oneLine_append, oneLine_append]
      exact ⟨⟨by decide, henvelope⟩, by decide⟩
    unfold keptAdvisory
    dsimp only
    split
    · rw [oneLine_append, oneLine_append]
      exact ⟨⟨hlocal, by decide⟩, hcalls⟩
    · rw [oneLine_append, oneLine_append, oneLine_append, oneLine_append]
      exact ⟨⟨⟨⟨hname, by decide⟩, hlocal⟩, by decide⟩, hcalls⟩
  | @moved handler hextract =>
    obtain ⟨hsame, hdropped⟩ := dropped_mentioned hextract
    have hnames : OneLine (String.intercalate ", " handler.dropped) :=
      oneLine_intercalate (by decide) fun name hmem => hmentioned name (hdropped name hmem)
    intro text htext
    unfold handlerAdvisories at htext
    rcases List.mem_append.mp htext with htext | htext
    · split at htext
      · cases htext
      · obtain rfl := List.mem_singleton.mp htext
        rw [oneLine_append, oneLine_append, oneLine_append, hsame]
        exact ⟨⟨⟨hname, by decide⟩, hnames⟩, by decide⟩
    · split at htext
      · cases htext
      · obtain rfl := List.mem_singleton.mp htext
        rw [oneLine_append, oneLine_append, oneLine_append]
        exact ⟨⟨⟨oneLine_toString handler.retained, by decide⟩, henvelope⟩, by decide⟩

lemma name_of_described {handler : String × Located} (h : handler ∈ describedHandlers module kind) :
    handler.2.name = "loader" ∨ handler.2.name = "action" := by
  have hnames (name : String) (located : Located) (hlocated : located ∈ (locate module.body name).toList) :
      located.name = name :=
    (locate_eq_some (Option.mem_toList.mp hlocated)).1
  cases kind with
  | page =>
    obtain ⟨located, hlocated, rfl⟩ := List.mem_map.mp h
    exact .inl (hnames _ _ hlocated)
  | resource =>
    rcases List.mem_append.mp h with h | h
    · obtain ⟨located, hlocated, rfl⟩ := List.mem_map.mp h
      exact .inl (hnames _ _ hlocated)
    · obtain ⟨located, hlocated, rfl⟩ := List.mem_map.mp h
      exact .inr (hnames _ _ hlocated)

/-- With a prefix of one line, every advisory is a comment of one line, if the names in it are. -/
lemma AdvisedBody.oneLine {advisories : List String} {body before after : List Node} {descriptor : Node}
    {notes : List Note} {component : String}
    (h : AdvisedBody settings module routePath kind advisories body before descriptor after notes component)
    (hone : OneLine settings.advisoryPrefix)
    (hmentioned : ∀ handler ∈ describedHandlers module kind, ∀ name ∈ mentioned handler.2, OneLine name) :
    ∀ advisory ∈ advisories, OneLine (advisoryComment settings advisory) := by
  intro advisory hadvisory
  suffices hadvisory : OneLine advisory by
    rw [advisoryComment, oneLine_append, oneLine_append, oneLine_append]
    exact ⟨⟨⟨by decide, hone⟩, by decide⟩, hadvisory⟩
  rw [h.advisories, List.mem_append] at hadvisory
  rcases hadvisory with hnoted | haction
  · obtain ⟨note, hnote, hadvisory⟩ := List.mem_flatMap.mp hnoted
    obtain ⟨handler, hhandler, hannotated⟩ := exists_handler h.annotated note hnote
    have hname : OneLine handler.2.name := by
      rcases name_of_described hhandler with hname | hname
      · rw [hname]
        decide
      · rw [hname]
        decide
    exact hannotated.said.oneLine hname (hmentioned handler hhandler) advisory hadvisory
  · obtain ⟨_, -, rfl⟩ := List.mem_map.mp haction
    decide

/-! ### Migrated texts -/

/-- The text of a module has its descriptor below the statements before, with each property directly below its
comments. -/
def PrintedDescriptor (settings : Settings) (module : Module) (routePath : String) (kind : Kind) (text : String)
    (before : List Node) (descriptor : Node) (properties : List Node) : Prop :=
  let style : Style := { settings.style with semicolons := module.semicolons }
  ∃ indent texts above below, List.Forall₂ (PropertyText style) properties texts ∧
    printModule settings.style { module with body := before, trailer := "" } = .ok above ∧
    text = above ++ gapBelow before descriptor ++
      descriptorText style (descriptorName settings kind) (descriptorCallee style settings routePath kind) indent
        properties texts ++ below

lemma AdvisedBody.printedDescriptor {printed : Module} {text : String} {advisories : List String}
    {before after : List Node} {descriptor : Node} {notes : List Note} {component : String}
    (h : AdvisedBody settings module routePath kind advisories printed.body before descriptor after notes component)
    (hne : describedHandlers module kind ≠ []) (hprintable : ∀ statement ∈ printed.body, PrintableStatement statement)
    (htext : printModule settings.style printed = .ok text) :
    PrintedDescriptor settings printed routePath kind text before descriptor
      (notes.map Note.property ++ componentProperties component kind) := by
  obtain ⟨gap, hdescriptor⟩ := h.descriptor
  obtain ⟨above, own, below, habove, hown, htext, -⟩ := printedBelowComments hprintable htext h.body
  have hstatement : PrintableStatement descriptor :=
    hprintable descriptor (by rw [h.body]; exact List.mem_append_right _ (List.mem_cons_self ..))
  have hcomments : descriptor.info.comments = [] := by
    rw [hdescriptor]
    cases kind <;> rfl
  have hproperties :=
    printableProperty_descriptorOf (hdescriptor ▸ hstatement) (form_of_annotated component h.annotated)
  have hsome : notes.map Note.property ++ componentProperties component kind ≠ [] := by
    cases hnotes : notes with
    | nil =>
      have hlength := h.annotated.length_eq
      rw [hnotes, List.length_nil, List.length_eq_zero_iff] at hlength
      exact absurd hlength hne
    | cons note notes => exact List.cons_ne_nil _ _
  have hempty : commentLines descriptor.info.comments = "" := by
    rw [hcomments]
    rfl
  rw [hempty, String.append_empty] at hown htext
  obtain ⟨indent, texts, htexts, hadds⟩ := @adds_descriptorOf
    { settings.style with semicolons := printed.semicolons } settings routePath _ hsome hproperties kind gap
    (above ++ gapBelow before descriptor)
  rw [← hdescriptor] at hadds
  have hsame := Except.ok.inj (hown.symm.trans hadds)
  refine ⟨indent, texts, above, below, htexts, habove, ?_⟩
  rw [htext, hsame]

/-- The advisories of a migration are comments in the text of the migrated module, and as a tree that module has no
others. There is one for each of them: those on a handler stand directly above its property in the descriptor, that on
the action of a page directly above its statement, on lines of their own if the prefix and the names are. -/
theorem ofSource_advisories {source path : String} {migrated : Migrated} {advisories : List String}
    (hparse : Module.parse source path = .ok module) (h : migrate settings module = .ok migrated)
    (hfinal : migrated.outcome = .finalized kind routePath advisories)
    (hdiffer : ∀ loader ∈ locate module.body "loader", ∀ action ∈ locate module.body "action",
      ¬ SameDeclaration loader action) :
    ∃ text before descriptor after notes component,
      RouteMigration.Migration.ofSource settings source path =
        .ok { outcome := migrated.outcome, output := some text, messages := migrated.messages } ∧
      AdvisedBody settings module routePath kind advisories migrated.module.body before descriptor after notes
        component ∧
      PrintedDescriptor settings migrated.module routePath kind text before descriptor
        (notes.map Note.property ++ componentProperties component kind) ∧
      (∀ above statement below, migrated.module.body = above ++ statement :: below →
        PrintedBelowComments settings.style migrated.module text above statement) ∧
      (OneLine settings.advisoryPrefix →
        (∀ handler ∈ describedHandlers module kind, ∀ name ∈ mentioned handler.2, OneLine name) →
        ∀ advisory ∈ advisories, OneLine (advisoryComment settings advisory)) := by
  obtain ⟨text, htext, hsource⟩ := ofSource_eq_ok hparse h hfinal
  have hprintable := printable_migrated hparse h hfinal
  obtain ⟨spans, hread, -⟩ := parse_eq_ok hparse
  cases migrate_eq_ok h with
  | skipped houtcome _ =>
    rw [houtcome] at hfinal
    cases hfinal
  | @finalized kind draft hdraft houtcome hmodule =>
    rw [houtcome] at hfinal
    cases hfinal
    have hdrafting := draftOf_eq_ok hdraft
    obtain ⟨_, _, _, notes, component, hdrafted⟩ := hdrafting.advised hread (commentFree_of_parse hparse) hdiffer
    obtain ⟨before, after, hadvised⟩ := hdrafted.finished module.referencedNames
    have hbody : migrated.module.body = finish settings kind module.referencedNames draft.body := by
      rw [hmodule]
      rfl
    rw [← hbody] at hadvised
    refine ⟨text, before, _, after, notes, component, hsource, hadvised,
      hadvised.printedDescriptor ?_ hprintable htext,
      fun above statement below => printedBelowComments hprintable htext, hadvised.oneLine⟩
    cases hdrafting with
    | page _ _ hloader _ =>
      rw [describedHandlers, hloader]
      exact List.cons_ne_nil _ _
    | resource _ _ hhandlers _ => exact hhandlers

/-- A page whose action and loader share one statement. -/
def sharedStatementPage : String :=
  "export const action = (args) => save(args), loader = (args) => json(args, rest);\nexport default () => null;\n"

def sharedStatementAdvisories : List String :=
  ["loader no longer receives args; get them from the route context",
    "1 json() call(s) with status or headers kept as is", pageActionAdvisory]

theorem sharedStatementPage_advisories : ∃ module migrated text before descriptor after notes component,
    Module.parse sharedStatementPage "routes/a.tsx" = .ok module ∧ migrate defaultSettings module = .ok migrated ∧
    RouteMigration.Migration.ofSource defaultSettings sharedStatementPage "routes/a.tsx" =
      .ok { outcome := .finalized .page "/a" sharedStatementAdvisories, output := some text,
            messages := migrated.messages } ∧
    AdvisedBody defaultSettings module "/a" .page sharedStatementAdvisories migrated.module.body before descriptor after
      notes component ∧
    PrintedDescriptor defaultSettings migrated.module "/a" .page text before descriptor
      (notes.map Note.property ++ [propertyOf "component" (variableOf component)]) ∧
    ∀ advisory ∈ sharedStatementAdvisories, OneLine (advisoryComment defaultSettings advisory) := by
  have hrun : ((Module.parse sharedStatementPage "routes/a.tsx").toOption.any fun module =>
      (migrate defaultSettings module).toOption.any fun migrated =>
        decide (migrated.outcome = .finalized .page "/a" sharedStatementAdvisories) &&
          decide (∀ loader ∈ (locate module.body "loader").toList, ∀ action ∈ (locate module.body "action").toList,
            ¬ SameDeclaration loader action) &&
          decide (∀ handler ∈ describedHandlers module .page, ∀ name ∈ mentioned handler.2, OneLine name)) = true := by
    decide +kernel
  obtain ⟨module, hparse, hrun⟩ := exists_of_any_toOption hrun
  obtain ⟨migrated, hmigrated, hrun⟩ := exists_of_any_toOption hrun
  rw [Bool.and_eq_true, Bool.and_eq_true, decide_eq_true_eq, decide_eq_true_eq, decide_eq_true_eq] at hrun
  obtain ⟨⟨hfinal, hdiffer⟩, hmentioned⟩ := hrun
  obtain ⟨text, before, descriptor, after, notes, component, hsource, hadvised, hdescriptor, -, honeLine⟩ :=
    ofSource_advisories hparse hmigrated hfinal fun loader hloader action haction =>
      hdiffer loader (Option.mem_toList.mpr hloader) action (Option.mem_toList.mpr haction)
  rw [hfinal] at hsource
  exact ⟨module, migrated, text, before, descriptor, after, notes, component, hparse, hmigrated, hsource, hadvised,
    hdescriptor, honeLine (by decide +kernel) hmentioned⟩

/-- A page whose loader divides by the payload of an envelope. -/
def quotientPage : String :=
  "export const loader = () => 4 /json(/a/.lastIndex);\n"

-- What the tree does not have, the text may still have: a payload begins a comment after the operator.
example : hasLoader quotientPage "(\x7b params, search \x7d) => \x7b\n  return 4 //a/.lastIndex;\n\x7d"
    ["binary_expression", "member_expression"] = true := by decide +kernel

end RouteMigration.Proofs
