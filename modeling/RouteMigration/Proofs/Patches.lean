import Mathlib.Tactic.Common
import RouteMigration.Proofs.MatchedLines
import RouteMigration.Proofs.SplitLines

/-!
# Patches

A unified diff is read line by line: two lines name the texts, and hunks follow. The header of a hunk tells where it
starts in either text and how many lines it has of each, and so where it ends. A patch applies to a text whose lines
are, at the places that the headers tell, those that the hunks keep or delete.
-/

namespace RouteMigration.Proofs
open Diff

/-- A stretch of lines, as the header of a hunk tells it. -/
structure Range where
  start : Nat
  length : Nat

/-- The number of lines before it. -/
def Range.before (range : Range) : Nat :=
  if range.length = 0 then range.start else range.start - 1

structure Hunk where
  old : Range
  new : Range
  edits : List (Edit String)

structure Patch where
  old : String
  new : String
  hunks : List Hunk

/-! ### Reading -/

def readNumber (digits : List Char) : Option Nat :=
  if digits ≠ [] ∧ digits.all Char.isDigit then some (Nat.ofDigitChars 10 digits 0) else none

/-- A range that has lines starts at one of them, and lines are numbered from one. -/
def rangeAt (start length : Nat) : Option Range :=
  if length = 0 ∨ 0 < start then some ⟨start, length⟩ else none

def readRange (text : List Char) : Option Range :=
  match text.splitOn ',' with
  | [start] => (readNumber start).bind fun start => rangeAt start 1
  | [start, length] =>
    (readNumber start).bind fun start => (readNumber length).bind fun length => rangeAt start length
  | _ => none

def readHeader (line : String) : Option (Range × Range) :=
  match line.toList.splitOn ' ' with
  | [['@', '@'], '-' :: old, '+' :: new, ['@', '@', '\n']] =>
    (readRange old).bind fun old => (readRange new).map fun new => (old, new)
  | _ => none

def readEdit (line : String) : Option (Edit String) :=
  match line.toList with
  | ' ' :: rest => some (.keep (.ofList rest))
  | '-' :: rest => some (.delete (.ofList rest))
  | '+' :: rest => some (.insert (.ofList rest))
  | _ => none

/-- Reads edits until they have `old` lines of the old text and `new` lines of the new one. -/
def readEdits : Nat → Nat → List String → Option (List (Edit String) × List String)
  | 0, 0, lines => some ([], lines)
  | _, _, [] => none
  | old, new, line :: lines =>
    (readEdit line).bind fun edit =>
      if edit.isOld.toNat ≤ old ∧ edit.isNew.toNat ≤ new then
        (readEdits (old - edit.isOld.toNat) (new - edit.isNew.toNat) lines).map fun (edits, rest) =>
          (edit :: edits, rest)
      else none

/-- Reads hunks up to the last line; there are at most as many as there are lines. -/
def readHunks : Nat → List String → Option (List Hunk)
  | _, [] => some []
  | 0, _ :: _ => none
  | fuel + 1, header :: lines =>
    (readHeader header).bind fun (old, new) =>
      (readEdits old.length new.length lines).bind fun (edits, rest) =>
        (readHunks fuel rest).map (⟨old, new, edits⟩ :: ·)

/-- The name in a line that begins with a mark. -/
def readName (mark : List Char) (line : String) : Option String :=
  let rest := line.toList.drop mark.length
  if mark <+: line.toList ∧ rest.getLast? = some '\n' then some (.ofList rest.dropLast) else none

def readPatch (text : String) : Option Patch :=
  match textLines text with
  | old :: new :: lines =>
    (readName ['-', '-', '-', ' '] old).bind fun old =>
      (readName ['+', '+', '+', ' '] new).bind fun new =>
        (readHunks lines.length lines).map fun hunks => ⟨old, new, hunks⟩
  | _ => none

/-! ### Application -/

/-- The new lines, and the old ones that are left. -/
def editLines : List (Edit String) → List String → Option (List String × List String)
  | [], lines => some ([], lines)
  | .insert line :: edits, lines => (editLines edits lines).map fun (done, rest) => (line :: done, rest)
  | .keep line :: edits, first :: lines =>
    if line = first then (editLines edits lines).map fun (done, rest) => (line :: done, rest) else none
  | .delete line :: edits, first :: lines => if line = first then editLines edits lines else none
  | _ :: _, [] => none

/-- Applies hunks below the first `old` and `new` lines of the two texts. -/
def patchLines (old new : Nat) : List Hunk → List String → Option (List String)
  | [], lines => some lines
  | hunk :: hunks, lines =>
    let passed := hunk.old.before - old
    if hunk.old.before = old + passed ∧ hunk.new.before = new + passed ∧ passed ≤ lines.length then
      (editLines hunk.edits (lines.drop passed)).bind fun (done, rest) =>
        (patchLines (hunk.old.before + hunk.old.length) (hunk.new.before + hunk.new.length) hunks rest).map fun below =>
          lines.take passed ++ done ++ below
    else none

def Patch.apply (patch : Patch) (text : String) : Option String :=
  (patchLines 0 0 patch.hunks (textLines text)).map String.join

/-! ### Reading what was written -/

lemma isDigit_of_mem_digits {n : Nat} {c : Char} (hc : c ∈ Nat.toDigits 10 n) : c.isDigit :=
  Nat.isDigit_of_mem_toDigits (by decide) (by decide) hc

lemma readNumber_digits (n : Nat) : readNumber (Nat.toDigits 10 n) = some n := by
  rw [readNumber, if_pos ⟨Nat.toDigits_ne_nil, List.all_eq_true.mpr fun _ hc => isDigit_of_mem_digits hc⟩, Nat.ofDigitChars_ten_toDigits]

/-- The stretch of `length` lines below the first `start` ones. -/
def rangeBelow (start length : Nat) : Range :=
  ⟨if length = 0 then start else start + 1, length⟩

lemma before_rangeBelow (start length : Nat) : (rangeBelow start length).before = start := by
  unfold Range.before rangeBelow
  dsimp only
  split <;> omega

/-- The numbers of a range, the second one left out if it is one. -/
lemma toList_range (start length : Nat) : (range start length).toList = if length = 1 then Nat.toDigits 10 (start + 1)
    else [','].intercalate [Nat.toDigits 10 (rangeBelow start length).start, Nat.toDigits 10 length] := by
  have htext (text : String) : toString text = text := rfl
  unfold range rangeBelow
  by_cases hone : length = 1
  · rw [if_pos hone, if_pos hone]
    simp
  · rw [if_neg hone, if_neg hone]
    by_cases hzero : length = 0
    · subst hzero
      simp [List.intercalate, htext]
    · rw [if_neg hzero, if_neg hzero]
      simp [List.intercalate, htext]

lemma mem_range {start length : Nat} {c : Char} (hc : c ∈ (range start length).toList) : c.isDigit ∨ c = ',' := by
  rw [toList_range] at hc
  split at hc
  · exact .inl (isDigit_of_mem_digits hc)
  · rw [List.intercalate_cons_cons, List.intercalate_singleton, List.mem_append, List.mem_append,
      List.mem_singleton] at hc
    rcases hc with (hc | hc) | hc
    · exact .inl (isDigit_of_mem_digits hc)
    · exact .inr hc
    · exact .inl (isDigit_of_mem_digits hc)

lemma readRange_range (start length : Nat) : readRange (range start length).toList = some (rangeBelow start length) := by
  have hcomma (n : Nat) : ',' ∉ Nat.toDigits 10 n := fun hc => absurd (isDigit_of_mem_digits hc) (by decide)
  unfold readRange
  rw [toList_range]
  by_cases hone : length = 1
  · subst hone
    have hsplit : (Nat.toDigits 10 (start + 1)).splitOn ',' = [Nat.toDigits 10 (start + 1)] := by
      have hlist := List.splitOn_intercalate ',' (List.forall_mem_singleton.mpr (hcomma (start + 1))) (by simp)
      rwa [List.intercalate_singleton] at hlist
    rw [if_pos rfl, hsplit]
    dsimp only
    rw [readNumber_digits, Option.bind_some, rangeAt, if_pos (.inr (Nat.succ_pos start))]
    rfl
  · rw [if_neg hone, List.splitOn_intercalate ',' (by simpa using ⟨hcomma _, hcomma _⟩) (by simp)]
    dsimp only
    have hvalid : length = 0 ∨ 0 < (rangeBelow start length).start := by
      unfold rangeBelow
      dsimp only
      split <;> omega
    rw [readNumber_digits, readNumber_digits, Option.bind_some, Option.bind_some, rangeAt, if_pos hvalid]
    rfl

/-- The header of a hunk. -/
def headerOf (old new : String) : String :=
  s!"@@ -{old} +{new} @@\n"

lemma toList_headerOf (old new : String) : (headerOf old new).toList =
    [' '].intercalate [['@', '@'], '-' :: old.toList, '+' :: new.toList, ['@', '@', '\n']] := by
  have htext (text : String) : toString text = text := rfl
  simp [headerOf, List.intercalate, htext]

lemma readHeader_headerOf (oldStart oldLength newStart newLength : Nat) :
    readHeader (headerOf (range oldStart oldLength) (range newStart newLength)) =
      some (rangeBelow oldStart oldLength, rangeBelow newStart newLength) := by
  have hspace (start length : Nat) : ' ' ∉ (range start length).toList := fun hc =>
    absurd (mem_range hc) (by decide)
  unfold readHeader
  rw [toList_headerOf, List.splitOn_intercalate ' ' (by simpa using ⟨hspace _ _, hspace _ _⟩) (by simp)]
  change (readRange (range oldStart oldLength).toList).bind (fun old =>
    (readRange (range newStart newLength).toList).map fun new => (old, new)) = _
  rw [readRange_range, readRange_range]
  rfl

lemma readEdit_lineText (edit : Edit String) : readEdit (lineText edit) = some edit := by
  cases edit <;> simp [readEdit, lineText]

lemma length_oldLines_cons (edit : Edit String) (edits : List (Edit String)) :
    (oldLines (edit :: edits)).length = (oldLines edits).length + edit.isOld.toNat := by
  cases edit <;> rfl

lemma length_newLines_cons (edit : Edit String) (edits : List (Edit String)) :
    (newLines (edit :: edits)).length = (newLines edits).length + edit.isNew.toNat := by
  cases edit <;> rfl

/-- Edits are read in front of whatever is read after them. -/
lemma readEdits_append (edits : List (Edit String)) (old new : Nat) (lines : List String) :
    readEdits (old + (oldLines edits).length) (new + (newLines edits).length) (edits.map lineText ++ lines) =
      (readEdits old new lines).map fun (more, rest) => (edits ++ more, rest) := by
  have hstep (edit : Edit String) (old new : Nat) (lines : List String) :
      readEdits (old + edit.isOld.toNat) (new + edit.isNew.toNat) (lineText edit :: lines) =
        (readEdits old new lines).map fun (edits, rest) => (edit :: edits, rest) := by
    rw [readEdits, readEdit_lineText, Option.bind_some, if_pos ⟨Nat.le_add_left .., Nat.le_add_left ..⟩,
      Nat.add_sub_cancel, Nat.add_sub_cancel]
    cases edit <;> simp [Edit.isOld, Edit.isNew]
  induction edits with
  | nil => exact (Option.map_id' ..).symm
  | cons edit edits ih =>
    rw [length_oldLines_cons, length_newLines_cons, List.map_cons, List.cons_append, ← Nat.add_assoc, ← Nat.add_assoc,
      hstep, ih, Option.map_map]
    rfl

/-- The lines of a hunk. -/
def hunkLines (hunk : List Numbered) : List String :=
  hunkHeader hunk :: (hunk.map Numbered.edit).map lineText

/-- The hunk with edits that start below some lines of either text. -/
def hunkBelow (old new : Nat) (edits : List (Edit String)) : Hunk :=
  ⟨rangeBelow old (oldLines edits).length, rangeBelow new (newLines edits).length, edits⟩

/-- What is read from the lines of a hunk. -/
def hunkOf : List Numbered → Hunk
  | [] => hunkBelow 0 0 []
  | first :: more => hunkBelow first.old first.new ((first :: more).map Numbered.edit)

lemma hunkHeader_cons (first : Numbered) (more : List Numbered) : hunkHeader (first :: more) =
    headerOf (range first.old (oldLines ((first :: more).map Numbered.edit)).length)
      (range first.new (newLines ((first :: more).map Numbered.edit)).length) := by
  have hold (edit : Edit String) : edit.isOld = (oldLine? edit).isSome := by cases edit <;> rfl
  have hnew (edit : Edit String) : edit.isNew = (newLine? edit).isSome := by cases edit <;> rfl
  rw [oldLines, newLines, List.length_filterMap_eq_countP, List.length_filterMap_eq_countP, List.countP_map,
    List.countP_map, hunkHeader]
  simp only [hold, hnew]
  rfl

/-- The header of a hunk tells how many lines of either text are read next. -/
lemma readHunks_header {hunk : List Numbered} (hhunk : hunk ≠ []) (fuel : Nat) (lines : List String) :
    readHunks (fuel + 1) (hunkHeader hunk :: lines) =
      (readEdits (oldLines (hunk.map Numbered.edit)).length (newLines (hunk.map Numbered.edit)).length lines).bind
        fun (edits, rest) => (readHunks fuel rest).map (⟨(hunkOf hunk).old, (hunkOf hunk).new, edits⟩ :: ·) := by
  obtain ⟨first, more, rfl⟩ := List.exists_cons_of_ne_nil hhunk
  rw [readHunks, hunkHeader_cons, readHeader_headerOf]
  rfl

/-- Hunks are read in front of whatever is read after them. -/
lemma readHunks_append {hunks : List (List Numbered)} (hhunks : ∀ hunk ∈ hunks, hunk ≠ []) (fuel : Nat)
    (lines : List String) : readHunks (fuel + hunks.length) (hunks.flatMap hunkLines ++ lines) =
      (readHunks fuel lines).map (hunks.map hunkOf ++ ·) := by
  induction hunks with
  | nil => exact (Option.map_id' ..).symm
  | cons hunk hunks ih =>
    obtain ⟨hhunk, hhunks⟩ := List.forall_mem_cons.mp hhunks
    have hedits := readEdits_append (hunk.map Numbered.edit) 0 0 (hunks.flatMap hunkLines ++ lines)
    have hend : readEdits 0 0 (hunks.flatMap hunkLines ++ lines) = some ([], hunks.flatMap hunkLines ++ lines) := by
      unfold readEdits
      rfl
    have hself : ⟨(hunkOf hunk).old, (hunkOf hunk).new, hunk.map Numbered.edit⟩ = hunkOf hunk := by
      cases hunk <;> rfl
    rw [Nat.zero_add, Nat.zero_add, hend, Option.map_some] at hedits
    dsimp only at hedits
    rw [List.flatMap_cons, List.length_cons, ← Nat.add_assoc, List.append_assoc, hunkLines, List.cons_append,
      readHunks_header hhunk, hedits, Option.bind_some]
    dsimp only
    rw [List.append_nil, ih hhunks, Option.map_map, hself]
    rfl

/-- Edits apply to a text that begins with their old lines. -/
lemma editLines_append (edits : List (Edit String)) (rest : List String) :
    editLines edits (oldLines edits ++ rest) = some (newLines edits, rest) := by
  induction edits with
  | nil => rfl
  | cons edit edits ih =>
    cases edit with
    | keep line =>
      change editLines (.keep line :: edits) (line :: (oldLines edits ++ rest)) = _
      rw [editLines, if_pos rfl, ih]
      rfl
    | delete line =>
      change editLines (.delete line :: edits) (line :: (oldLines edits ++ rest)) = _
      rw [editLines, if_pos rfl, ih]
      rfl
    | insert line =>
      change editLines (.insert line :: edits) (oldLines edits ++ rest) = _
      rw [editLines, ih]
      rfl

/-- A hunk applies below lines that both texts have. -/
lemma patchLines_hunkBelow (old new : Nat) (kept : List String) (edits : List (Edit String)) (hunks : List Hunk)
    (rest : List String) :
    patchLines old new (hunkBelow (old + kept.length) (new + kept.length) edits :: hunks)
        (kept ++ (oldLines edits ++ rest)) =
      (patchLines (old + kept.length + (oldLines edits).length) (new + kept.length + (newLines edits).length) hunks
        rest).map fun below => kept ++ newLines edits ++ below := by
  have hold : (hunkBelow (old + kept.length) (new + kept.length) edits).old.before = old + kept.length :=
    before_rangeBelow ..
  have hnew : (hunkBelow (old + kept.length) (new + kept.length) edits).new.before = new + kept.length :=
    before_rangeBelow ..
  have hpassed : old + kept.length - old = kept.length := Nat.add_sub_cancel_left ..
  have hle : kept.length ≤ (kept ++ (oldLines edits ++ rest)).length := by
    rw [List.length_append]
    exact Nat.le_add_right ..
  rw [patchLines, if_pos (by rw [hold, hnew, hpassed]; exact ⟨rfl, rfl, hle⟩), hold, hnew, hpassed, List.drop_left,
    List.take_left, hunkBelow, editLines_append]
  rfl

/-! ### Names -/

/-- A line that names a text. -/
def nameLine (mark : List Char) (name : String) : String :=
  .ofList (mark ++ (name.toList ++ ['\n']))

lemma toList_nameLine (mark : List Char) (name : String) :
    (nameLine mark name).toList = mark ++ (name.toList ++ ['\n']) :=
  String.toList_ofList

lemma readName_nameLine (mark : List Char) (name : String) : readName mark (nameLine mark name) = some name := by
  unfold readName
  rw [toList_nameLine, List.drop_left]
  dsimp only
  rw [if_pos ⟨List.prefix_append .., List.getLast?_concat⟩, List.dropLast_concat, String.ofList_toList]

lemma eq_nameLine_of_readName {mark : List Char} {line name : String} (h : readName mark line = some name) :
    line = nameLine mark name := by
  unfold readName at h
  dsimp only at h
  split at h
  · rename_i hline
    obtain ⟨⟨rest, hrest⟩, hlast⟩ := hline
    rw [← hrest, List.drop_left] at h hlast
    rw [← Option.some.inj h, nameLine, String.toList_ofList, List.dropLast_append_getLast? _ hlast, hrest,
      String.ofList_toList]
  · cases h

end RouteMigration.Proofs
