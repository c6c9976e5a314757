import RouteMigration.Proofs.Utf8Texts
import RouteMigration.Text.Lines

/-!
# Line ends

A text with unified line ends is the text that was given but for its carriage returns: each of them is a line feed
now, or it is gone before one. So every stretch of the unified text comes from one stretch of the given text.
-/

namespace RouteMigration.Proofs
open Text Syntax

lemma unifyLineEnds_cons {c : Char} {rest : List Char} (h : ∀ more, c = '\r' → rest = '\n' :: more → False) :
    unifyLineEnds (c :: rest) = (if c = '\r' then '\n' else c) :: unifyLineEnds rest :=
  unifyLineEnds.eq_3 c rest h

/-- No carriage return is left. -/
lemma carriageReturn_notMem_unifyLineEnds (text : List Char) : '\r' ∉ unifyLineEnds text := by
  fun_induction unifyLineEnds text with
  | case1 => exact List.not_mem_nil
  | case2 rest ih => simpa using ih
  | case3 c rest _ ih =>
    rw [List.mem_cons, not_or]
    refine ⟨?_, ih⟩
    split
    · decide
    · next hc => exact fun h => hc h.symm

/-- A text has unified line ends unless it has a carriage return. -/
theorem unifyLineEnds_eq_self_iff (text : List Char) : unifyLineEnds text = text ↔ '\r' ∉ text := by
  refine ⟨fun h => h ▸ carriageReturn_notMem_unifyLineEnds text, fun h => ?_⟩
  fun_induction unifyLineEnds text with
  | case1 => rfl
  | case2 rest ih => simp at h
  | case3 c rest _ ih =>
    rw [List.mem_cons, not_or] at h
    rw [if_neg (Ne.symm h.1), ih h.2]

/-- The offset in the given text that an offset in the unified text stands for. -/
def givenOffset : List Char → Nat → Nat
  | _, 0 => 0
  | [], _ + 1 => 0
  | '\r' :: '\n' :: rest, offset + 1 => givenOffset rest offset + 2
  | _ :: rest, offset + 1 => givenOffset rest offset + 1

/-- Up to an offset, the unified text is what was given up to the offset that it stands for. -/
lemma unifyLineEnds_take (text : List Char) (offset : Nat) :
    unifyLineEnds (text.take (givenOffset text offset)) = (unifyLineEnds text).take offset := by
  fun_induction givenOffset text offset with
  | case1 => rfl
  | case2 => rfl
  | case3 rest offset ih =>
    rw [List.take_succ_cons, List.take_succ_cons, unifyLineEnds, unifyLineEnds, List.take_succ_cons, ih]
  | case4 c rest offset hother ih =>
    have hcut : ∀ more, c = '\r' → rest.take (givenOffset rest offset) = '\n' :: more → False := by
      intro more hc htake
      have hrest : rest = '\n' :: (more ++ rest.drop (givenOffset rest offset)) := by
        rw [← List.cons_append, ← htake, List.take_append_drop]
      exact hother _ hc hrest
    rw [List.take_succ_cons, unifyLineEnds_cons hcut, unifyLineEnds_cons hother, List.take_succ_cons, ih]

lemma unifyLineEnds_drop (text : List Char) (offset : Nat) :
    unifyLineEnds (text.drop (givenOffset text offset)) = (unifyLineEnds text).drop offset := by
  fun_induction givenOffset text offset with
  | case1 => rfl
  | case2 => rfl
  | case3 rest offset ih => rw [List.drop_succ_cons, List.drop_succ_cons, unifyLineEnds, List.drop_succ_cons, ih]
  | case4 c rest offset hother ih =>
    rw [List.drop_succ_cons, unifyLineEnds_cons hother, List.drop_succ_cons, ih]

lemma givenOffset_add (text : List Char) (offset more : Nat) : givenOffset text (offset + more) =
    givenOffset text offset + givenOffset (text.drop (givenOffset text offset)) more := by
  fun_induction givenOffset text offset with
  | case1 => rw [Nat.zero_add, Nat.zero_add, List.drop_zero]
  | case2 offset => cases more <;> rw [Nat.succ_add] <;> rfl
  | case3 rest offset ih =>
    rw [Nat.succ_add, givenOffset, ih, List.drop_succ_cons, List.drop_succ_cons]
    omega
  | case4 c rest offset hother ih =>
    rw [Nat.succ_add, givenOffset.eq_4 c rest (offset + more) hother, ih, List.drop_succ_cons]
    omega

/-- The stretch of the given text that a stretch of the unified text comes from. -/
def givenSlice (text : List Char) (span : Span) : List Char :=
  (slice text (givenOffset text span.start) (givenOffset text span.stop)).toList

/-- A stretch of the unified text is what was given there, with its line ends unified. -/
theorem slice_unifyLineEnds (text : List Char) {span : Span} (h : span.start ≤ span.stop) :
    (slice (unifyLineEnds text) span.start span.stop).toList = unifyLineEnds (givenSlice text span) := by
  obtain ⟨length, hstop⟩ := Nat.exists_eq_add_of_le h
  rw [givenSlice, slice, slice, String.toList_ofList, String.toList_ofList, hstop, givenOffset_add,
    Nat.add_sub_cancel_left, Nat.add_sub_cancel_left, unifyLineEnds_take, unifyLineEnds_drop]

end RouteMigration.Proofs
