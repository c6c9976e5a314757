import RouteMigration.Proofs.SourceFidelity
import RouteMigration.Proofs.SpelledTexts

/-!
# Texts at a greater depth

A text that moves to a deeper line gets spaces in front of the lines that begin in it, except for blank ones. Where the
lines of a text are shifted by as many columns, it comes to the same, whatever stretch of a source the text is, as long
as the stretch does not end on a blank line.
-/

namespace RouteMigration.Proofs
open Syntax

/-! ### Deeper lines -/

/-- The text begins with an empty line or one of spaces only, and another line follows. -/
def isBlankLine (text : List Char) : Bool :=
  (text.dropWhile Text.isIndentation).head? = some '\n'

/-- The text with spaces in front of every line that begins in it and is not blank. What follows the text tells whether
its last line is. -/
def deepen (depth : Nat) (rest : List Char) : List Char → List Char
  | [] => []
  | c :: text =>
    if c = '\n' ∧ isBlankLine (text ++ rest) = false then c :: (List.replicate depth ' ' ++ deepen depth rest text)
    else c :: deepen depth rest text

/-- The text with spaces in front of every line after the first that is not blank. The last line does not count as blank. -/
def deepened (depth : Nat) (text : String) : String :=
  String.ofList (deepen depth [] text.toList)

variable {depth : Nat} {rest text : List Char}

lemma deepen_append (front text : List Char) :
    deepen depth rest (front ++ text) = deepen depth (text ++ rest) front ++ deepen depth rest text := by
  induction front with
  | nil => rfl
  | cons c front ih =>
    rw [List.cons_append, deepen, deepen, List.append_assoc, ih]
    split
    · rw [List.cons_append, List.append_assoc]
    · rfl

lemma deepen_of_line (h : '\n' ∉ text) : deepen depth rest text = text := by
  induction text with
  | nil => rfl
  | cons c text ih =>
    obtain ⟨hc, htext⟩ := not_or.mp (List.mem_cons.not.mp h)
    rw [deepen, if_neg (fun hbreak => hc hbreak.1.symm), ih htext]

lemma deepen_zero (rest text : List Char) : deepen 0 rest text = text := by
  induction text with
  | nil => rfl
  | cons c text ih =>
    rw [deepen, ih]
    split <;> rfl

/-! ### Shifted lines -/

/-- The text does not end on a blank line that began in it. -/
def ClosesLine (text rest : List Char) : Prop :=
  '\n' ∈ text → EndsVisible text ∨ isBlankLine rest = false

lemma EndsVisible.of_cons {c : Char} (h : EndsVisible (c :: text)) (hbreak : '\n' ∈ text) : EndsVisible text := by
  obtain ⟨visible, hmem, hvisible⟩ := h
  rw [← List.singleton_append, lastLine_append hbreak] at hmem
  exact ⟨visible, hmem, hvisible⟩

lemma ClosesLine.of_cons {c : Char} (h : ClosesLine (c :: text) rest) : ClosesLine text rest :=
  fun hbreak => (h (List.mem_cons_of_mem _ hbreak)).imp_left fun hvisible => hvisible.of_cons hbreak

/-- Whether a line that begins behind the text is blank can be seen in the text, if the text closes it. -/
lemma isBlankLine_append (h : ClosesLine ('\n' :: text) rest) : isBlankLine (text ++ rest) = isBlankLine text := by
  unfold isBlankLine
  by_cases hall : ∀ c ∈ text, Text.isIndentation c = true
  · have hline : '\n' ∉ text := fun hbreak => absurd (hall _ hbreak) (by decide)
    have hrest : isBlankLine rest = false := by
      refine (h List.mem_cons_self).resolve_left ?_
      rintro ⟨c, hc, hvisible⟩
      rw [lastLine_of_break hline] at hc
      rw [hall c hc] at hvisible
      cases hvisible
    rw [List.dropWhile_append_of_pos hall, List.dropWhile_eq_nil_iff.mpr hall]
    exact hrest
  · have hne : text.dropWhile Text.isIndentation ≠ [] := fun hnil => hall (List.dropWhile_eq_nil_iff.mp hnil)
    rw [List.dropWhile_append, if_neg (by rwa [List.isEmpty_iff]), List.head?_append_of_ne_nil _ hne]

/-- Without tabs, an indentation is as wide as it has characters. -/
lemma indentation_eq_replicate {run : List Char} (hrun : ∀ c ∈ run, Text.isIndentation c = true) (htabs : '\t' ∉ run) :
    run = List.replicate run.length ' ' ∧ Text.expandedWidth run = run.length := by
  have hspaces : ∀ c ∈ run, c = ' ' := by
    intro c hc
    have hindentation := hrun c hc
    rw [Text.isIndentation, Bool.or_eq_true, decide_eq_true_eq, decide_eq_true_eq] at hindentation
    exact hindentation.resolve_right fun htab => htabs (htab ▸ hc)
  have hreplicate := List.eq_replicate_of_mem hspaces
  refine ⟨hreplicate, ?_⟩
  have hfold (n column : Nat) : (List.replicate n ' ').foldl
      (fun column c => if c = '\t' then (column / 4 + 1) * 4 else column + 1) column = column + n := by
    induction n generalizing column with
    | zero => rfl
    | succ n ih =>
      rw [List.replicate_succ, List.foldl_cons, if_neg (by decide), ih]
      omega
  rw [hreplicate, Text.expandedWidth, hfold, Nat.zero_add, List.length_replicate]

lemma shifted_of_spaces {run : List Char} (hrun : ∀ c ∈ run, Text.isIndentation c = true) (htabs : '\t' ∉ run) :
    Layout.shifted depth (Text.expandedWidth run) = List.replicate depth ' ' ++ run := by
  obtain ⟨hspaces, hwidth⟩ := indentation_eq_replicate hrun htabs
  have hsum : ((run.length : Int) + depth).toNat = depth + run.length := by omega
  rw [Layout.shifted, hwidth, hsum, List.replicate_add, ← hspaces]

lemma isIndentation_takeWhile (text : List Char) : ∀ c ∈ text.takeWhile Text.isIndentation, Text.isIndentation c = true :=
  List.all_eq_true.mp List.all_takeWhile

/-- The indentation at the beginning of a text stays as it is. -/
lemma deepen_indentation (text : List Char) : deepen depth rest text =
    text.takeWhile Text.isIndentation ++ deepen depth rest (text.dropWhile Text.isIndentation) := by
  have hline : '\n' ∉ text.takeWhile Text.isIndentation := fun hbreak =>
    absurd (isIndentation_takeWhile text _ hbreak) (by decide)
  conv_lhs => rw [← List.takeWhile_append_dropWhile (p := Text.isIndentation) (l := text)]
  rw [deepen_append, deepen_of_line hline]

/-- What becomes of a line break is settled by the line behind it. -/
lemma shiftLines_break (htabs : '\t' ∉ text) (h : ClosesLine ('\n' :: text) rest)
    (hfalse : Layout.shiftLines depth false text = deepen depth rest text)
    (htrue : Layout.shiftLines depth true text = deepen depth rest (text.dropWhile Text.isIndentation)) :
    (if (text.drop (text.takeWhile Text.isIndentation).length).head? = some '\n' then
        '\n' :: Layout.shiftLines depth false text
      else '\n' :: Layout.shifted depth (Text.expandedWidth (text.takeWhile Text.isIndentation)) ++
        Layout.shiftLines depth true text) = deepen depth rest ('\n' :: text) := by
  have hdrop : text.drop (text.takeWhile Text.isIndentation).length = text.dropWhile Text.isIndentation := by
    have hall := @List.drop_left _ (text.takeWhile Text.isIndentation) (text.dropWhile Text.isIndentation)
    rwa [List.takeWhile_append_dropWhile] at hall
  have hblank := isBlankLine_append h
  rw [hdrop, deepen]
  by_cases hline : (text.dropWhile Text.isIndentation).head? = some '\n'
  · have hcondition : isBlankLine (text ++ rest) = true := hblank.trans (decide_eq_true hline)
    rw [if_pos hline, if_neg (by simp [hcondition]), hfalse]
  · have hcondition : isBlankLine (text ++ rest) = false := hblank.trans (decide_eq_false hline)
    have hrun := @shifted_of_spaces depth _ (isIndentation_takeWhile text)
      fun htab => htabs ((List.takeWhile_prefix _).subset htab)
    rw [if_neg hline, if_pos ⟨rfl, hcondition⟩, htrue, deepen_indentation text, hrun, List.cons_append, List.append_assoc]

/-- In a text without tabs, shifting the lines by a number of columns puts as many spaces in front of them. -/
lemma shiftLines_eq_deepen (htabs : '\t' ∉ text) (h : ClosesLine text rest) :
    Layout.shiftLines depth false text = deepen depth rest text ∧
      Layout.shiftLines depth true text = deepen depth rest (text.dropWhile Text.isIndentation) := by
  induction text with
  | nil => exact ⟨rfl, rfl⟩
  | cons c text ih =>
    have htail : '\t' ∉ text := (not_or.mp (List.mem_cons.not.mp htabs)).2
    obtain ⟨hfalse, htrue⟩ := ih htail h.of_cons
    have hfront : Layout.shiftLines depth false (c :: text) = deepen depth rest (c :: text) := by
      rw [Layout.shiftLines, Bool.false_and, if_neg (by decide)]
      by_cases hbreak : c = '\n'
      · subst hbreak
        rw [if_pos rfl]
        exact shiftLines_break htail h hfalse htrue
      · rw [if_neg hbreak, deepen, if_neg (fun hboth => hbreak hboth.1), hfalse]
    refine ⟨hfront, ?_⟩
    by_cases hindentation : Text.isIndentation c = true
    · rw [Layout.shiftLines, hindentation, Bool.true_and, if_pos rfl, List.dropWhile_cons_of_pos hindentation, htrue]
    · have hvisible : Text.isIndentation c = false := eq_false_of_ne_true hindentation
      rw [List.dropWhile_cons_of_neg hindentation, ← hfront, Layout.shiftLines, Layout.shiftLines, hvisible, Bool.and_false,
        Bool.and_false]

/-! ### Stretches of a source -/

variable {source : List Char} {start middle stop : Nat}

variable (source depth) in
/-- A stretch of the source with spaces in front of the lines that begin in it and are not blank. -/
def deepenedSlice (start stop : Nat) : String :=
  String.ofList (deepen depth (source.drop stop) (slice source start stop).toList)

lemma drop_eq_slice (h : start ≤ stop) : source.drop start = (slice source start stop).toList ++ source.drop stop := by
  rw [slice, String.toList_ofList]
  conv_lhs => rw [← List.take_append_drop (stop - start) (source.drop start)]
  rw [List.drop_drop, Nat.add_sub_cancel' h]

lemma deepenedSlice_append (hfront : start ≤ middle) (hrest : middle ≤ stop) :
    deepenedSlice depth source start middle ++ deepenedSlice depth source middle stop =
      deepenedSlice depth source start stop := by
  rw [deepenedSlice, deepenedSlice, deepenedSlice, ← slice_append hfront hrest, String.toList_append, deepen_append,
    ← drop_eq_slice hrest, String.ofList_append]

lemma deepenedSlice_of_line (h : '\n' ∉ (slice source start stop).toList) :
    deepenedSlice depth source start stop = slice source start stop := by
  rw [deepenedSlice, deepen_of_line h, String.ofList_toList]

lemma deepenedSlice_self : deepenedSlice depth source start start = "" := by
  have hempty : slice source start start = "" := by
    rw [slice, Nat.sub_self, List.take_zero]
  rw [deepenedSlice_of_line (by rw [hempty]; exact List.not_mem_nil), hempty]

lemma deepenedSlice_zero : deepenedSlice 0 source start stop = slice source start stop := by
  rw [deepenedSlice, deepen_zero, String.ofList_toList]

/-- A stretch that ends at a seam does not end on a blank line that began in it. -/
lemma closesLine_slice (hle : start ≤ stop) (hseam : IsSeam source stop) :
    ClosesLine (slice source start stop).toList (source.drop stop) := by
  intro hbreak
  have htake := take_eq_slice source hle
  refine (hseam (htake ▸ List.mem_append_right _ hbreak)).imp ?_ decide_eq_false
  rintro ⟨c, hc, hvisible⟩
  rw [htake, lastLine_append hbreak] at hc
  exact ⟨c, hc, hvisible⟩

lemma not_mem_slice {c : Char} (h : c ∉ source) : c ∉ (slice source start stop).toList := by
  rw [slice, String.toList_ofList]
  exact fun hmem => h (List.mem_of_mem_drop (List.mem_of_mem_take hmem))

/-- Up to a seam, a shifted stretch of a source without tabs is the stretch at a greater depth. -/
lemma shiftText_slice (htabs : '\t' ∉ source) (hle : start ≤ stop) (hseam : IsSeam source stop) :
    Layout.shiftText depth (slice source start stop) = deepenedSlice depth source start stop := by
  have hlines := (@shiftLines_eq_deepen depth _ _ (not_mem_slice htabs) (closesLine_slice hle hseam)).1
  unfold Layout.shiftText
  split
  · next hzero =>
    obtain rfl : depth = 0 := by omega
    exact deepenedSlice_zero.symm
  · rw [hlines]
    rfl

/-- So it is told by the text of the stretch alone. -/
lemma deepened_slice (htabs : '\t' ∉ source) (hle : start ≤ stop) (hseam : IsSeam source stop) :
    deepened depth (slice source start stop) = deepenedSlice depth source start stop := by
  have htext : '\t' ∉ (slice source start stop).toList := not_mem_slice htabs
  have hlines := (@shiftLines_eq_deepen depth _ _ htext (closesLine_slice hle hseam)).1
  have halone := (@shiftLines_eq_deepen depth [] _ htext fun _ => .inr rfl).1
  rw [deepened, deepenedSlice, ← hlines, halone]

/-! ### Columns -/

lemma indentation_append_visible {c : Char} (hc : IsVisible c) (front more : List Char) :
    Text.indentation (front ++ c :: more) = Text.indentation front := by
  rw [Text.indentation, Text.indentation, List.takeWhile_append]
  split
  · next hall => rw [List.takeWhile_cons_of_neg (by rw [hc.2]; decide), List.append_nil, hall]
  · rfl

/-- A visible character and more on the same line leave the indentation as it is. -/
lemma indentation_lastLine {line : List Char} (hline : '\n' ∉ line) (hvisible : ∀ c ∈ line.head?, IsVisible c)
    (front : List Char) :
    Text.indentation (Text.lastLine (front ++ line)) = Text.indentation (Text.lastLine front) := by
  rw [lastLine_append_line hline]
  cases line with
  | nil => rw [List.append_nil]
  | cons c line => exact indentation_append_visible (hvisible c rfl) _ _

lemma exists_last_break {text : List Char} (h : '\n' ∈ text) :
    ∃ front line, text = front ++ '\n' :: line ∧ '\n' ∉ line := by
  obtain ⟨line, front, hreverse, hline⟩ := List.eq_append_cons_of_mem (List.mem_reverse.mpr h)
  refine ⟨front.reverse, line.reverse, ?_, fun hmem => hline (List.mem_reverse.mp hmem)⟩
  rw [← List.reverse_reverse text, hreverse, List.reverse_append, List.reverse_cons, List.append_assoc,
    List.singleton_append]

/-- Where a text ends in a stretch at a greater depth, its last line has as many columns more than the line in the source.
The stretch begins with a visible character and ends at a seam. -/
theorem column_deepenedSlice {before : String} (hle : start ≤ stop) (hvisible : IsVisibleAt source start)
    (hseam : IsSeam source stop) (hcolumn : Layout.column before = indentAt source start + depth) :
    Layout.column (before ++ deepenedSlice depth source start stop) = indentAt source stop + depth := by
  have htake := take_eq_slice source hle
  by_cases hbreak : '\n' ∈ (slice source start stop).toList
  · obtain ⟨front, line, hsplit, hline⟩ := exists_last_break hbreak
    have hlast : Text.lastLine (slice source start stop).toList = line := by
      rw [hsplit, lastLine_append List.mem_cons_self, lastLine_of_break hline]
    have hcloses : ClosesLine ('\n' :: line) (source.drop stop) := by
      refine fun _ => (closesLine_slice hle hseam hbreak).imp_left ?_
      rintro ⟨c, hc, hvisible⟩
      exact ⟨c, by rwa [hlast, ← lastLine_of_break hline] at hc, hvisible⟩
    have hblank : isBlankLine (line ++ source.drop stop) = false := by
      rw [isBlankLine_append hcloses]
      refine decide_eq_false fun hhead => hline ?_
      exact (List.dropWhile_suffix _).subset (List.mem_of_mem_head? hhead)
    have hdeep : (deepenedSlice depth source start stop).toList =
        deepen depth ('\n' :: line ++ source.drop stop) front ++ '\n' :: (List.replicate depth ' ' ++ line) := by
      rw [deepenedSlice, String.toList_ofList, hsplit, deepen_append, deepen, if_pos ⟨rfl, hblank⟩, deepen_of_line hline]
    have hspaces : '\n' ∉ List.replicate depth ' ' ++ line := by
      rw [List.mem_append, not_or]
      exact ⟨fun hmem => absurd (List.eq_of_mem_replicate hmem) (by decide), hline⟩
    have hindentation : Text.indentation (List.replicate depth ' ' ++ line) = depth + Text.indentation line := by
      have hall : ∀ c ∈ List.replicate depth ' ', Text.isIndentation c = true := fun c hc =>
        List.eq_of_mem_replicate hc ▸ rfl
      rw [Text.indentation, Text.indentation, List.takeWhile_append_of_pos hall, List.length_append,
        List.length_replicate]
    rw [Layout.column, String.toList_append, hdeep, ← List.append_assoc, lastLine_append List.mem_cons_self,
      lastLine_of_break hspaces, hindentation, indentAt, htake, lastLine_append hbreak, hlast, Nat.add_comm]
  · have hhead : ∀ c ∈ (slice source start stop).toList.head?, IsVisible c := by
      intro c hc
      refine hvisible c ?_
      rw [drop_eq_slice hle, List.head?_append, Option.mem_def.mp hc]
      rfl
    rw [deepenedSlice_of_line hbreak, Layout.column, String.toList_append, indentation_lastLine hbreak hhead, indentAt,
      htake, indentation_lastLine hbreak hhead]
    exact hcolumn

end RouteMigration.Proofs
