import Mathlib.Data.List.Chain
import Mathlib.Data.List.TakeDrop
import Mathlib.Tactic.Common
import RouteMigration.Diff.Unified

/-!
# Matched lines

Every match that is found is a stretch of lines that the two texts share. So the edits from one text to another have the
lines of the one text and those of the other, both in their order; and where lines of either text stand next to
each other, those of the old text come first.
-/

namespace RouteMigration.Proofs
open Diff

section Edits

variable {α : Type}

/-- The line of an edit that the old text has. -/
def oldLine? : Edit α → Option α
  | .keep line | .delete line => some line
  | .insert _ => none

/-- The line of an edit that the new text has. -/
def newLine? : Edit α → Option α
  | .keep line | .insert line => some line
  | .delete _ => none

def oldLines (edits : List (Edit α)) : List α :=
  edits.filterMap oldLine?

def newLines (edits : List (Edit α)) : List α :=
  edits.filterMap newLine?

lemma oldLines_append (first second : List (Edit α)) : oldLines (first ++ second) = oldLines first ++ oldLines second :=
  List.filterMap_append

lemma newLines_append (first second : List (Edit α)) : newLines (first ++ second) = newLines first ++ newLines second :=
  List.filterMap_append

lemma oldLines_keep (lines : List α) : oldLines (lines.map .keep) = lines := by
  rw [oldLines, List.filterMap_map]
  exact List.filterMap_some

lemma newLines_keep (lines : List α) : newLines (lines.map .keep) = lines := by
  rw [newLines, List.filterMap_map]
  exact List.filterMap_some

lemma oldLines_replaceAll (old new : List α) : oldLines (replaceAll old new) = old := by
  have hold : oldLines (old.map Edit.delete) = old := by
    rw [oldLines, List.filterMap_map]
    exact List.filterMap_some
  have hnew : oldLines (new.map Edit.insert) = [] := by
    rw [oldLines, List.filterMap_map]
    exact List.filterMap_eq_nil_iff.mpr fun _ _ => rfl
  rw [replaceAll, oldLines_append, hold, hnew, List.append_nil]

lemma newLines_replaceAll (old new : List α) : newLines (replaceAll old new) = new := by
  have hold : newLines (old.map Edit.delete) = [] := by
    rw [newLines, List.filterMap_map]
    exact List.filterMap_eq_nil_iff.mpr fun _ _ => rfl
  have hnew : newLines (new.map Edit.insert) = new := by
    rw [newLines, List.filterMap_map]
    exact List.filterMap_some
  rw [replaceAll, newLines_append, hold, hnew, List.nil_append]

/-- The second edit may follow the first: an old line does not come after a new one that is put in its place. -/
def MayFollow : Edit α → Edit α → Prop
  | .insert _, .delete _ => False
  | _, _ => True

lemma isChain_replaceAll (old new : List α) : (replaceAll old new).IsChain MayFollow := by
  have hpairs : (replaceAll old new).Pairwise MayFollow := by
    rw [replaceAll, List.pairwise_append, List.pairwise_map, List.pairwise_map]
    refine ⟨List.pairwise_of_forall fun _ _ => trivial, List.pairwise_of_forall fun _ _ => trivial, ?_⟩
    intro first hfirst second hsecond
    obtain ⟨_, -, rfl⟩ := List.mem_map.mp hfirst
    obtain ⟨_, -, rfl⟩ := List.mem_map.mp hsecond
    trivial
  exact hpairs.isChain

/-- Anything may stand before and after lines that are kept. -/
lemma isChain_around_keep {before after : List (Edit α)} {lines : List α} (hbefore : before.IsChain MayFollow)
    (hafter : after.IsChain MayFollow) (hlines : lines ≠ []) :
    (before ++ lines.map Edit.keep ++ after).IsChain MayFollow := by
  have hkeep : (lines.map Edit.keep).IsChain MayFollow := by
    have hpairs : (lines.map Edit.keep).Pairwise MayFollow :=
      List.pairwise_map.mpr (List.pairwise_of_forall fun _ _ => trivial)
    exact hpairs.isChain
  rw [List.isChain_append, List.isChain_append]
  refine ⟨⟨hbefore, hkeep, fun first _ second hsecond => ?_⟩, hafter, fun first hfirst second _ => ?_⟩
  · obtain ⟨line, -, rfl⟩ := List.mem_map.mp (List.mem_of_mem_head? hsecond)
    cases first <;> trivial
  · rw [List.getLast?_append_of_ne_nil _ (by simpa using hlines)] at hfirst
    obtain ⟨line, -, rfl⟩ := List.mem_map.mp (List.mem_of_mem_getLast? hfirst)
    trivial

end Edits

/-! ### Matches -/

variable {α : Type}

/-- A stretch of lines that the two texts share. -/
structure IsMatch (old new : List α) (found : Match) : Prop where
  old_le : found.old + found.size ≤ old.length
  new_le : found.new + found.size ≤ new.length
  same : ∀ k < found.size, old[found.old + k]? = new[found.new + k]?

/-- The last `size` of the first `i` lines of the old text are those that end with line `j` of the new one. -/
structure IsRun (old new : List α) (i j size : Nat) : Prop where
  old_le : size ≤ i
  new_le : size ≤ j + 1
  same : ∀ k < size, old[i - 1 - k]? = new[j - k]?

lemma IsRun.isMatch {old new : List α} {i j size : Nat} (h : IsRun old new i j size) (hi : i ≤ old.length)
    (hj : j < new.length) : IsMatch old new ⟨i - size, j + 1 - size, size⟩ where
  old_le := by have := h.old_le; dsimp only; omega
  new_le := by have := h.new_le; dsimp only; omega
  same k hk := by
    change k < size at hk
    have hsame := h.same (size - 1 - k) (by omega)
    have hold := h.old_le
    have hnew := h.new_le
    rw [show i - 1 - (size - 1 - k) = i - size + k by omega, show j - (size - 1 - k) = j + 1 - size + k by omega] at hsame
    exact hsame

/-- A row of counts: how many lines match up to the first `i` of the old text and each line of the new one. -/
structure IsRow (old new : List α) (i : Nat) (row : List Nat) : Prop where
  length : row.length = new.length
  run : ∀ j size, row[j]? = some size → IsRun old new i j size

lemma isRow_start (old new : List α) : IsRow old new 0 (List.replicate new.length 0) where
  length := List.length_replicate
  run j size hsize := by
    obtain rfl : 0 = size := by
      rw [List.getElem?_replicate] at hsize
      split at hsize
      · exact Option.some.inj hsize
      · cases hsize
    exact ⟨Nat.le_refl 0, Nat.zero_le _, fun k hk => absurd hk (Nat.not_lt_zero k)⟩

/-- The counts grow by one where the next line of the old text matches. -/
lemma IsRow.extend [DecidableEq α] {old new : List α} {i : Nat} {row : List Nat} (h : IsRow old new i row) {line : α}
    (hline : old[i]? = some line) (popular : α → Bool) :
    IsRow old new (i + 1) (extendRow popular line new row) where
  length := by
    rw [extendRow, List.length_zipWith, List.length_cons, h.length]
    omega
  run j size hsize := by
    rw [extendRow, List.getElem?_zipWith_eq_some] at hsize
    obtain ⟨other, before, hother, hbefore, hsize⟩ := hsize
    split at hsize
    · rename_i hmatch
      rw [Bool.and_eq_true, decide_eq_true_eq] at hmatch
      obtain ⟨rfl, -⟩ := hmatch
      have hfirst : old[i]? = new[j]? := hline.trans hother.symm
      cases j with
      | zero =>
        obtain rfl : 0 = before := Option.some.inj hbefore
        subst hsize
        refine ⟨by omega, by omega, fun k hk => ?_⟩
        obtain rfl : k = 0 := by omega
        exact hfirst
      | succ j =>
        rw [List.getElem?_cons_succ] at hbefore
        obtain ⟨hold, hnew, hsame⟩ := h.run j before hbefore
        subst hsize
        refine ⟨by omega, by omega, fun k hk => ?_⟩
        cases k with
        | zero => exact hfirst
        | succ k =>
          have hk := hsame k (by omega)
          rw [show i + 1 - 1 - (k + 1) = i - 1 - k by omega, show j + 1 - (k + 1) = j - k by omega]
          exact hk
    · subst hsize
      exact ⟨by omega, by omega, fun k hk => absurd hk (Nat.not_lt_zero k)⟩

/-- The best of a row is what has been found before or the end of a run in the row. -/
lemma bestOf_cases (index : Nat) (row : List Nat) (best : Match) : bestOf index row best = best ∨
    ∃ j size, row[j]? = some size ∧ bestOf index row best = ⟨index + 1 - size, j + 1 - size, size⟩ := by
  have hfold (entries : List (Nat × Nat)) (best : Match) :
      let last := entries.foldl (fun best entry =>
        if best.size < entry.1 then ⟨index + 1 - entry.1, entry.2 + 1 - entry.1, entry.1⟩ else best) best
      last = best ∨ ∃ entry ∈ entries, last = ⟨index + 1 - entry.1, entry.2 + 1 - entry.1, entry.1⟩ := by
    induction entries generalizing best with
    | nil => exact .inl rfl
    | cons entry entries ih =>
      dsimp only [List.foldl_cons] at ih ⊢
      rcases ih (if best.size < entry.1 then ⟨index + 1 - entry.1, entry.2 + 1 - entry.1, entry.1⟩ else best) with
        hlast | ⟨other, hother, hlast⟩
      · rw [hlast]
        split
        · exact .inr ⟨entry, List.mem_cons_self .., rfl⟩
        · exact .inl rfl
      · exact .inr ⟨other, List.mem_cons_of_mem _ hother, hlast⟩
  rcases hfold row.zipIdx best with hbest | ⟨⟨size, j⟩, hentry, hbest⟩
  · exact .inl hbest
  · exact .inr ⟨j, size, List.mem_zipIdx_iff_getElem?.mp hentry, hbest⟩

lemma IsRow.bestOf {old new : List α} {i : Nat} {row : List Nat} (h : IsRow old new (i + 1) row) (hi : i < old.length)
    {best : Match} (hbest : IsMatch old new best) : IsMatch old new (bestOf i row best) := by
  rcases bestOf_cases i row best with hlast | ⟨j, size, hsize, hlast⟩
  · rw [hlast]
    exact hbest
  · rw [hlast]
    have hj : j < new.length := by
      rw [← h.length]
      exact (List.getElem?_eq_some_iff.mp hsize).1
    exact (h.run j size hsize).isMatch hi hj

/-- Row by row: the counts are those of the lines of the old text that have been read. -/
lemma isMatch_longestRun [DecidableEq α] (popular : α → Bool) (old new : List α) : IsMatch old new (longestRun popular old new) := by
  have hfold (before rest : List α) (hsplit : old = before ++ rest) (row : List Nat) (best : Match)
      (hrow : IsRow old new before.length row) (hbest : IsMatch old new best) :
      IsMatch old new ((rest.zipIdx before.length).foldl (fun found entry =>
        let row := extendRow popular entry.1 new found.1
        (row, Diff.bestOf entry.2 row found.2)) (row, best)).2 := by
    induction rest generalizing before row best with
    | nil => exact hbest
    | cons line rest ih =>
      have hline : old[before.length]? = some line := by
        rw [hsplit, List.getElem?_append_right (Nat.le_refl _), Nat.sub_self]
        rfl
      have hnext := hrow.extend hline popular
      have hlt : before.length < old.length := (List.getElem?_eq_some_iff.mp hline).1
      have hlast := ih (before ++ [line]) (by rw [hsplit, List.append_assoc]; rfl) (extendRow popular line new row)
        (Diff.bestOf before.length (extendRow popular line new row) best)
        (by rw [List.length_append]; exact hnext) (hnext.bestOf hlt hbest)
      rw [List.length_append] at hlast
      exact hlast
  refine hfold [] old rfl _ _ (isRow_start old new) ?_
  exact ⟨Nat.zero_le _, Nat.zero_le _, fun k hk => absurd hk (Nat.not_lt_zero k)⟩

lemma commonLength_spec [DecidableEq α] (a b : List α) : commonLength a b ≤ a.length ∧ commonLength a b ≤ b.length ∧
    ∀ k < commonLength a b, a[k]? = b[k]? := by
  fun_induction commonLength a b with
  | case1 first as _ ih =>
    obtain ⟨ha, hb, hsame⟩ := ih
    refine ⟨Nat.succ_le_succ ha, Nat.succ_le_succ hb, fun k hk => ?_⟩
    cases k with
    | zero => rfl
    | succ k => exact hsame k (by omega)
  | case2 => exact ⟨Nat.zero_le _, Nat.zero_le _, fun k hk => absurd hk (Nat.not_lt_zero k)⟩
  | case3 => exact ⟨Nat.zero_le _, Nat.zero_le _, fun k hk => absurd hk (Nat.not_lt_zero k)⟩

/-- A run is shared, and so are the equal lines before and after it. -/
theorem isMatch_longestMatch [DecidableEq α] (popular : α → Bool) (old new : List α) :
    IsMatch old new (longestMatch popular old new) := by
  obtain ⟨hold, hnew, hsame⟩ := isMatch_longestRun popular old new
  unfold longestMatch
  dsimp only
  generalize longestRun popular old new = run at hold hnew hsame ⊢
  obtain ⟨hbefore, hbefore', hsameBefore⟩ := commonLength_spec (old.take run.old).reverse (new.take run.new).reverse
  obtain ⟨hafter, hafter', hsameAfter⟩ :=
    commonLength_spec (old.drop (run.old + run.size)) (new.drop (run.new + run.size))
  generalize commonLength (old.take run.old).reverse (new.take run.new).reverse = before at *
  generalize commonLength (old.drop (run.old + run.size)) (new.drop (run.new + run.size)) = after at *
  rw [List.length_reverse, List.length_take] at hbefore hbefore'
  rw [List.length_drop] at hafter hafter'
  refine ⟨by dsimp only; omega, by dsimp only; omega, fun k hk => ?_⟩
  dsimp only at hk ⊢
  by_cases hfirst : k < before
  · have hk' := hsameBefore (before - 1 - k) (by omega)
    rw [List.getElem?_reverse (by rw [List.length_take]; omega), List.getElem?_reverse (by rw [List.length_take]; omega),
      List.length_take, List.length_take, List.getElem?_take_of_lt (by omega), List.getElem?_take_of_lt (by omega)] at hk'
    rw [show min run.old old.length - 1 - (before - 1 - k) = run.old - before + k by omega,
      show min run.new new.length - 1 - (before - 1 - k) = run.new - before + k by omega] at hk'
    exact hk'
  · by_cases hmiddle : k < before + run.size
    · have hk' := hsame (k - before) (by omega)
      rw [show run.old + (k - before) = run.old - before + k by omega,
        show run.new + (k - before) = run.new - before + k by omega] at hk'
      exact hk'
    · have hk' := hsameAfter (k - before - run.size) (by omega)
      rw [List.getElem?_drop, List.getElem?_drop,
        show run.old + run.size + (k - before - run.size) = run.old - before + k by omega,
        show run.new + run.size + (k - before - run.size) = run.new - before + k by omega] at hk'
      exact hk'

/-! ### Edits -/

lemma IsMatch.take_drop {old new : List α} {found : Match} (h : IsMatch old new found) :
    (old.drop found.old).take found.size = (new.drop found.new).take found.size := by
  apply List.ext_getElem?
  intro k
  by_cases hk : k < found.size
  · rw [List.getElem?_take_of_lt hk, List.getElem?_take_of_lt hk, List.getElem?_drop, List.getElem?_drop, h.same k hk]
  · rw [List.getElem?_take_eq_none (by omega), List.getElem?_take_eq_none (by omega)]

lemma take_append_take_append_drop (l : List α) (i n : Nat) : l.take i ++ (l.drop i).take n ++ l.drop (i + n) = l := by
  rw [List.append_assoc, ← List.drop_drop, List.take_append_drop, List.take_append_drop]

variable [DecidableEq α]

/-- The edits have the lines of both texts, and no old line directly after a new one that is put in its place. The
induction follows the recursion: before and after a match the texts are matched in the same way. -/
theorem editsWithin_spec (popular : α → Bool) (steps : Nat) (old new : List α) :
    oldLines (editsWithin popular steps old new) = old ∧ newLines (editsWithin popular steps old new) = new ∧
      (editsWithin popular steps old new).IsChain MayFollow := by
  have hreplace (old new : List α) : oldLines (replaceAll old new) = old ∧ newLines (replaceAll old new) = new ∧
      (replaceAll old new).IsChain MayFollow :=
    ⟨oldLines_replaceAll old new, newLines_replaceAll old new, isChain_replaceAll old new⟩
  induction steps generalizing old new with
  | zero => exact hreplace old new
  | succ steps ih =>
    rw [editsWithin]
    have hmatch := isMatch_longestMatch popular old new
    generalize longestMatch popular old new = found at hmatch ⊢
    split
    · exact hreplace old new
    · rename_i hsize
      obtain ⟨hold, hnew, hchain⟩ := ih (old.take found.old) (new.take found.new)
      obtain ⟨hold', hnew', hchain'⟩ := ih (old.drop (found.old + found.size)) (new.drop (found.new + found.size))
      refine ⟨?_, ?_, isChain_around_keep hchain hchain' ?_⟩
      · rw [oldLines_append, oldLines_append, hold, oldLines_keep, hold', take_append_take_append_drop]
      · rw [newLines_append, newLines_append, hnew, newLines_keep, hnew', hmatch.take_drop,
          take_append_take_append_drop]
      · apply List.ne_nil_of_length_pos
        have hle := hmatch.old_le
        rw [List.length_take, List.length_drop]
        omega

theorem oldLines_edits (old new : List α) : oldLines (edits old new) = old :=
  (editsWithin_spec _ _ old new).1

theorem newLines_edits (old new : List α) : newLines (edits old new) = new :=
  (editsWithin_spec _ _ old new).2.1

theorem isChain_edits (old new : List α) : (edits old new).IsChain MayFollow :=
  (editsWithin_spec _ _ old new).2.2

end RouteMigration.Proofs
