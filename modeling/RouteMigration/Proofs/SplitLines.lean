import Mathlib.Data.List.Basic
import Mathlib.Tactic.Common
import RouteMigration.Text.Lines

/-!
# Lines of a text

The lines of a text are the text, cut where a line ends. What follows a line that has its end begins a line of its
own, whereas what follows the last line of a text that has none goes on with that line.
-/

namespace RouteMigration.Proofs
open Text

/-- Whether a line ends after the character; a carriage return and a line feed end one line together. -/
def endsAfter (c : Char) (rest : List Char) : Bool :=
  isLineEnd c && !(decide (c = '\r') && decide (rest.head? = some '\n'))

/-- Puts text in front of the first of the lines. -/
def continueLines (front : List Char) : List (List Char) → List (List Char)
  | [] => [front]
  | line :: more => (front ++ line) :: more

lemma lines_cons (c : Char) (rest : List Char) :
    lines (c :: rest) = if endsAfter c rest then [c] :: lines rest else continueLines [c] (lines rest) := by
  have hcontinue : (match lines rest with
      | [] => [[c]]
      | line :: more => (c :: line) :: more) = continueLines [c] (lines rest) := by
    cases lines rest <;> rfl
  unfold endsAfter
  by_cases hpair : c = '\r' ∧ rest.head? = some '\n'
  · obtain ⟨rfl, hhead⟩ := hpair
    obtain ⟨more, rfl⟩ : ∃ more, rest = '\n' :: more := by
      cases rest with
      | nil => cases hhead
      | cons d more => exact ⟨more, by rw [Option.some.inj hhead]⟩
    have hfeed : lines ('\n' :: more) = ['\n'] :: lines more := by
      rw [lines]
      · rfl
      · nofun
    rw [lines, hfeed]
    rfl
  · have hother : lines (c :: rest) = if isLineEnd c then [c] :: lines rest else continueLines [c] (lines rest) := by
      rw [← hcontinue]
      refine lines.eq_3 c rest ?_
      rintro more rfl rfl
      exact hpair ⟨rfl, rfl⟩
    have hsingle : (decide (c = '\r') && decide (rest.head? = some '\n')) = false := by
      rw [← Bool.decide_and, decide_eq_false_iff_not]
      exact hpair
    rw [hother, hsingle, Bool.not_false, Bool.and_true]

lemma flatten_continueLines (front : List Char) (lines : List (List Char)) :
    (continueLines front lines).flatten = front ++ lines.flatten := by
  cases lines <;> simp [continueLines]

/-- The lines of a text make up the text. -/
theorem flatten_lines (text : List Char) : (lines text).flatten = text := by
  induction text with
  | nil => rfl
  | cons c rest ih =>
    rw [lines_cons]
    split
    · rw [List.flatten_cons, ih]
      rfl
    · rw [flatten_continueLines, ih]
      rfl

lemma lines_eq_nil {text : List Char} (h : lines text = []) : text = [] := by
  rw [← flatten_lines text, h]
  rfl

/-- A stretch of text that is one line. -/
def IsLine (line : List Char) : Prop :=
  lines line = [line]

/-- The line has its end. -/
def HasEnd (line : List Char) : Prop :=
  ∃ c ∈ line.getLast?, isLineEnd c = true

instance (line : List Char) : Decidable (IsLine line) :=
  inferInstanceAs (Decidable (_ = _))

instance (line : List Char) : Decidable (HasEnd line) :=
  decidable_of_iff (line.getLast?.any isLineEnd = true) (by rw [HasEnd, Option.any_eq_true]; rfl)

lemma IsLine.ne_nil {line : List Char} (h : IsLine line) : line ≠ [] := by
  rintro rfl
  cases h

lemma isLine_singleton (c : Char) : IsLine [c] := by
  rw [IsLine, lines_cons]
  split <;> rfl

lemma isLine_cons_iff {c : Char} {line : List Char} (hline : line ≠ []) :
    IsLine (c :: line) ↔ endsAfter c line = false ∧ IsLine line := by
  rw [IsLine, lines_cons]
  cases hends : endsAfter c line with
  | true =>
    rw [if_pos rfl]
    exact ⟨fun h => absurd (List.cons.inj h).1 (by simpa using hline.symm), nofun⟩
  | false =>
    rw [if_neg Bool.false_ne_true, IsLine]
    simp only [true_and]
    cases hlines : lines line with
    | nil => exact absurd (lines_eq_nil hlines) hline
    | cons first more => simp [continueLines]

lemma hasEnd_append_iff (front : List Char) {line : List Char} (hline : line ≠ []) :
    HasEnd (front ++ line) ↔ HasEnd line := by
  rw [HasEnd, HasEnd, List.getLast?_append_of_ne_nil front hline]

lemma endsAfter_congr {c : Char} {a b : List Char} (h : a.head? = b.head?) : endsAfter c a = endsAfter c b := by
  rw [endsAfter, endsAfter, h]

lemma endsAfter_append {c : Char} {line : List Char} (hline : line ≠ []) (rest : List Char) :
    endsAfter c (line ++ rest) = endsAfter c line :=
  endsAfter_congr (List.head?_append_of_ne_nil line hline)

/-- Characters in front of a line that do not end one belong to it. -/
lemma IsLine.append_left {line : List Char} (h : IsLine line) {front : List Char}
    (hfront : ∀ c ∈ front, isLineEnd c = false) : IsLine (front ++ line) := by
  induction front with
  | nil => exact h
  | cons c front ih =>
    obtain ⟨hc, hfront⟩ := List.forall_mem_cons.mp hfront
    have hrest : IsLine (front ++ line) := ih hfront
    rw [List.cons_append, isLine_cons_iff hrest.ne_nil, endsAfter, hc]
    exact ⟨rfl, hrest⟩

lemma IsLine.of_append {front line : List Char} (h : IsLine (front ++ line)) (hline : line ≠ []) : IsLine line := by
  induction front with
  | nil => exact h
  | cons c front ih => exact ih ((isLine_cons_iff (List.append_ne_nil_of_right_ne_nil front hline)).mp h).2

/-- What follows a line with its end is cut into lines by itself, unless it goes on with the end. -/
theorem IsLine.lines_append {line : List Char} (h : IsLine line) (hend : HasEnd line) {rest : List Char}
    (hrest : rest.head? ≠ some '\n') : lines (line ++ rest) = line :: lines rest := by
  induction line with
  | nil => exact absurd rfl h.ne_nil
  | cons c line ih =>
    rw [List.cons_append, lines_cons]
    by_cases hline : line = []
    · subst hline
      obtain ⟨d, hd, hd'⟩ := hend
      obtain rfl : c = d := Option.some.inj hd
      rw [List.nil_append, endsAfter, hd', decide_eq_false hrest, Bool.and_false, Bool.not_false, Bool.and_true,
        if_pos rfl]
    · obtain ⟨hends, htail⟩ := (isLine_cons_iff hline).mp h
      rw [endsAfter_append hline, hends, if_neg Bool.false_ne_true, ih htail ((hasEnd_append_iff [c] hline).mp hend)]
      rfl

/-- What follows a line without an end goes on with it. -/
theorem IsLine.lines_append_of_not_hasEnd {line : List Char} (h : IsLine line) (hend : ¬ HasEnd line)
    (rest : List Char) : lines (line ++ rest) = continueLines line (lines rest) := by
  have hcontinue (c : Char) (line : List Char) (lines : List (List Char)) :
      continueLines [c] (continueLines line lines) = continueLines (c :: line) lines := by
    cases lines <;> rfl
  induction line with
  | nil => exact absurd rfl h.ne_nil
  | cons c line ih =>
    rw [List.cons_append, lines_cons]
    by_cases hline : line = []
    · subst hline
      have hc : isLineEnd c = false := by
        rw [← Bool.not_eq_true]
        exact fun hc => hend ⟨c, rfl, hc⟩
      rw [List.nil_append, endsAfter, hc, Bool.false_and, if_neg Bool.false_ne_true]
    · obtain ⟨hends, htail⟩ := (isLine_cons_iff hline).mp h
      have hend' : ¬ HasEnd line := fun h' => hend ((hasEnd_append_iff [c] hline).mpr h')
      rw [endsAfter_append hline, hends, if_neg Bool.false_ne_true, ih htail hend', hcontinue]

/-- Lines one after the other, each but the last with its end. -/
structure AreLines (all : List (List Char)) : Prop where
  isLine : ∀ line ∈ all, IsLine line
  hasEnd : all.Pairwise fun line _ => HasEnd line

lemma head?_lines {text first : List Char} {more : List (List Char)} (h : lines text = first :: more) :
    first.head? = text.head? := by
  have hfirst : first ≠ [] := by
    rintro rfl
    cases text with
    | nil => cases h
    | cons c rest =>
      rw [lines_cons] at h
      split at h
      · exact absurd (List.cons.inj h).1 (List.cons_ne_nil _ _)
      · cases hlines : lines rest <;> rw [hlines] at h <;> exact absurd (List.cons.inj h).1 (by simp)
  rw [← flatten_lines text, h, List.flatten_cons, List.head?_append_of_ne_nil first hfirst]

theorem areLines_lines (text : List Char) : AreLines (lines text) := by
  have hsingle (c : Char) : AreLines [[c]] :=
    ⟨List.forall_mem_singleton.mpr (isLine_singleton c), List.pairwise_singleton _ _⟩
  induction text with
  | nil => exact ⟨List.forall_mem_nil _, .nil⟩
  | cons c rest ih =>
    rw [lines_cons]
    cases hlines : lines rest with
    | nil =>
      split
      · exact hsingle c
      · exact hsingle c
    | cons first more =>
      rw [hlines] at ih
      obtain ⟨hfirst, hmore⟩ := List.forall_mem_cons.mp ih.isLine
      obtain ⟨hend, hends⟩ := List.pairwise_cons.mp ih.hasEnd
      split
      · rename_i hc
        have hsingle : HasEnd [c] := ⟨c, rfl, (Bool.and_eq_true_iff.mp hc).1⟩
        exact ⟨List.forall_mem_cons.mpr ⟨isLine_singleton c, ih.isLine⟩,
          List.pairwise_cons.mpr ⟨fun _ _ => hsingle, ih.hasEnd⟩⟩
      · rename_i hc
        have hline : IsLine (c :: first) := by
          rw [isLine_cons_iff hfirst.ne_nil, endsAfter_congr (head?_lines hlines)]
          exact ⟨Bool.eq_false_iff.mpr hc, hfirst⟩
        refine ⟨List.forall_mem_cons.mpr ⟨hline, hmore⟩, List.pairwise_cons.mpr ⟨fun next hnext => ?_, hends⟩⟩
        exact (hasEnd_append_iff [c] hfirst.ne_nil).mpr (hend next hnext)

/-- Lines that do not begin with a line feed are the lines of the text that they make up. -/
theorem AreLines.lines_flatten {all : List (List Char)} (h : AreLines all)
    (hheads : ∀ line ∈ all, line.head? ≠ some '\n') : lines all.flatten = all := by
  obtain ⟨hlines, hends⟩ := h
  induction all with
  | nil => rfl
  | cons line rest ih =>
    obtain ⟨hline, hlines⟩ := List.forall_mem_cons.mp hlines
    obtain ⟨-, hheads⟩ := List.forall_mem_cons.mp hheads
    obtain ⟨hend, hends⟩ := List.pairwise_cons.mp hends
    rw [List.flatten_cons]
    cases rest with
    | nil => rw [List.flatten_nil, List.append_nil]; exact hline
    | cons next more =>
      have hnext : IsLine next := hlines next (List.mem_cons_self ..)
      have hhead : (next :: more).flatten.head? ≠ some '\n' := by
        rw [List.flatten_cons, List.head?_append_of_ne_nil next hnext.ne_nil]
        exact hheads next (List.mem_cons_self ..)
      rw [hline.lines_append (hend next (List.mem_cons_self ..)) hhead, ih hheads hlines hends]

end RouteMigration.Proofs
