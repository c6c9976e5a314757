import RouteMigration.Proofs.Readers
import RouteMigration.Syntax.Layout

/-!
# Texts with shifted lines

Shifting the lines of a text changes the indentation of the lines that begin in it. A text without spaces and line
breaks at its ends is shifted by itself in whatever text it stands, and nothing changes in it if it is on one line.
-/

namespace RouteMigration.Proofs
open Syntax

variable (shift : Int)

lemma shiftLines_visible {c : Char} (h : IsVisible c) (dropping : Bool) (rest : List Char) :
    Layout.shiftLines shift dropping (c :: rest) = c :: Layout.shiftLines shift false rest := by
  rw [Layout.shiftLines, h.2, Bool.and_false, if_neg h.1]
  rfl

/-- Behind whatever comes before it, a text that begins with a visible character is shifted as at the beginning. -/
lemma shiftLines_append_right (front : List Char) {text : List Char} (h : ∃ c ∈ text.head?, IsVisible c) (dropping : Bool) :
    ∃ shifted, Layout.shiftLines shift dropping (front ++ text) = shifted ++ Layout.shiftLines shift false text := by
  induction front generalizing dropping with
  | nil =>
    obtain ⟨c, hc, hvisible⟩ := h
    obtain ⟨rest, rfl⟩ := List.head?_eq_some_iff.mp hc
    refine ⟨[], ?_⟩
    rw [List.nil_append, List.nil_append, shiftLines_visible shift hvisible, shiftLines_visible shift hvisible]
  | cons c front ih =>
    rw [List.cons_append, Layout.shiftLines]
    dsimp only
    split
    · exact ih true
    · split
      · split
        · obtain ⟨shifted, heq⟩ := ih false
          exact ⟨c :: shifted, congrArg (c :: ·) heq⟩
        · obtain ⟨shifted, heq⟩ := ih true
          rw [heq, ← List.append_assoc]
          exact ⟨_, rfl⟩
      · obtain ⟨shifted, heq⟩ := ih false
        exact ⟨c :: shifted, congrArg (c :: ·) heq⟩

/-- The indentation at the beginning of a text that ends with a visible character ends in the text. -/
lemma takeWhile_append_visible {text : List Char} (h : ∃ c ∈ text.getLast?, IsVisible c) (rest : List Char) :
    (text ++ rest).takeWhile Text.isIndentation = text.takeWhile Text.isIndentation ∧
      (text.takeWhile Text.isIndentation).length < text.length := by
  obtain ⟨c, hc, hvisible⟩ := h
  have hmem := List.mem_of_getLast? hc
  have hlt : (text.takeWhile Text.isIndentation).length < text.length := by
    refine Nat.lt_of_le_of_ne (List.takeWhile_prefix _).length_le fun heq => ?_
    have hall : text.takeWhile Text.isIndentation = text := (List.takeWhile_prefix _).eq_of_length heq
    rw [← hall] at hmem
    have hindentation : Text.isIndentation c = true := List.all_eq_true.mp List.all_takeWhile c hmem
    rw [hvisible.2] at hindentation
    cases hindentation
  refine ⟨?_, hlt⟩
  rw [List.takeWhile_append, if_neg (Nat.ne_of_lt hlt)]

/-- A text that ends with a visible character is shifted as if nothing followed. -/
lemma shiftLines_append_left {text : List Char} (h : ∃ c ∈ text.getLast?, IsVisible c) (dropping : Bool) (rest : List Char) :
    Layout.shiftLines shift dropping (text ++ rest) =
      Layout.shiftLines shift dropping text ++ Layout.shiftLines shift false rest := by
  induction text generalizing dropping with
  | nil =>
    obtain ⟨c, hc, -⟩ := h
    cases hc
  | cons c text ih =>
    cases text with
    | nil =>
      obtain ⟨last, hlast, hvisible⟩ := h
      obtain rfl : c = last := Option.some.inj hlast
      rw [List.singleton_append, shiftLines_visible shift hvisible, shiftLines_visible shift hvisible]
      rfl
    | cons next text =>
      have hlast : ∃ c ∈ (next :: text).getLast?, IsVisible c := by
        rwa [List.getLast?_cons_cons] at h
      obtain ⟨hrun, hlt⟩ := takeWhile_append_visible hlast rest
      have hhead : (((next :: text) ++ rest).drop ((next :: text).takeWhile Text.isIndentation).length).head? =
          ((next :: text).drop ((next :: text).takeWhile Text.isIndentation).length).head? := by
        rw [List.drop_append_of_le_length (Nat.le_of_lt hlt), List.head?_append_of_ne_nil]
        exact fun hnil => Nat.not_le_of_lt hlt (List.drop_eq_nil_iff.mp hnil)
      rw [List.cons_append, Layout.shiftLines, Layout.shiftLines]
      dsimp only
      rw [hrun, hhead, ih hlast true, ih hlast false]
      split
      · rfl
      · split
        · split
          · rfl
          · rw [← List.append_assoc, List.cons_append]
        · rfl

/-- In a text with shifted lines stands what a solid part of the text comes to by itself. -/
theorem infix_shiftText {text part : String} (hsolid : IsSolid part.toList) (h : part.toList <:+: text.toList) :
    (Layout.shiftText shift part).toList <:+: (Layout.shiftText shift text).toList := by
  unfold Layout.shiftText
  split
  · exact h
  · obtain ⟨front, rest, htext⟩ := h
    have hhead : ∃ c ∈ (part.toList ++ rest).head?, IsVisible c := by
      obtain ⟨c, hc, hvisible⟩ := hsolid.head
      refine ⟨c, ?_, hvisible⟩
      rw [List.head?_append, Option.mem_def.mp hc]
      rfl
    obtain ⟨shifted, hshifted⟩ := shiftLines_append_right shift front hhead false
    rw [String.toList_ofList, String.toList_ofList, ← htext, List.append_assoc, hshifted,
      shiftLines_append_left shift hsolid.last]
    exact ⟨shifted, Layout.shiftLines shift false rest, List.append_assoc ..⟩

/-- On a single line there is nothing to shift. -/
lemma shiftText_of_line {text : String} (h : '\n' ∉ text.toList) : Layout.shiftText shift text = text := by
  have hlines (l : List Char) (hl : '\n' ∉ l) : Layout.shiftLines shift false l = l := by
    induction l with
    | nil => rfl
    | cons c l ih =>
      obtain ⟨hc, hl⟩ := not_or.mp (List.mem_cons.not.mp hl)
      rw [Layout.shiftLines, Bool.false_and, if_neg (Ne.symm hc), ih hl]
      rfl
  unfold Layout.shiftText
  split
  · rfl
  · rw [hlines _ h, String.ofList_toList]

end RouteMigration.Proofs
