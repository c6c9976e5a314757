import Mathlib.Tactic.Common
import RouteMigration.CommandLine.Run
import RouteMigration.Proofs.Hunks

/-!
# Printed diffs

The diff that is printed for a migrated file is read line by line as a patch, and the patch turns the source into the
output. There are two exceptions. A deleted line that has no end runs together with the line that is put in its place,
as the diff does not say that the end is missing; and the name of a file may be more than one line.
-/

namespace RouteMigration.Proofs
open Diff Text

/-! ### Lines of strings -/

lemma textLines_ofLines (text : String) : (textLines text).map String.toList = lines text.toList := by
  simp [textLines, Function.comp_def]

lemma areLines_textLines (text : String) : AreLines ((textLines text).map String.toList) := by
  rw [textLines_ofLines]
  exact areLines_lines text.toList

lemma isLine_of_mem_textLines {text line : String} (h : line ∈ textLines text) : IsLine line.toList :=
  (areLines_textLines text).isLine _ (List.mem_map_of_mem h)

/-- Only the last of the lines can be without an end. -/
lemma hasEnd_textLines (text : String) : (textLines text).Pairwise fun line _ => HasEnd line.toList :=
  List.pairwise_map.mp (areLines_textLines text).hasEnd

lemma join_textLines (text : String) : String.join (textLines text) = text := by
  apply String.toList_inj.mp
  rw [String.toList_join, List.flatMap_def, textLines_ofLines, flatten_lines]

lemma textLines_join {all : List String} (hlines : ∀ line ∈ all, IsLine line.toList ∧ line.toList.head? ≠ some '\n')
    (hends : all.Pairwise fun line _ => HasEnd line.toList) : textLines (String.join all) = all := by
  have hall : AreLines (all.map String.toList) :=
    ⟨List.forall_mem_map.mpr fun line hline => (hlines line hline).1, List.pairwise_map.mpr hends⟩
  have hheads : ∀ line ∈ all.map String.toList, line.head? ≠ some '\n' :=
    List.forall_mem_map.mpr fun line hline => (hlines line hline).2
  rw [textLines, String.toList_join, List.flatMap_def, hall.lines_flatten hheads, List.map_map]
  simp [Function.comp_def]

/-! ### Edits of lines -/

def lineOf : Edit String → String
  | .keep line | .delete line | .insert line => line

lemma exists_mark (edit : Edit String) : ∃ mark, isLineEnd mark = false ∧
    (lineText edit).toList = [mark] ++ (lineOf edit).toList := by
  cases edit with
  | keep line => exact ⟨' ', by decide, String.toList_append⟩
  | delete line => exact ⟨'-', by decide, String.toList_append⟩
  | insert line => exact ⟨'+', by decide, String.toList_append⟩

lemma isLine_lineText {edit : Edit String} (h : IsLine (lineOf edit).toList) :
    IsLine (lineText edit).toList ∧ (lineText edit).toList.head? ≠ some '\n' := by
  obtain ⟨mark, hmark, hedit⟩ := exists_mark edit
  rw [hedit]
  refine ⟨h.append_left (List.forall_mem_singleton.mpr hmark), ?_⟩
  intro hhead
  obtain rfl : mark = '\n' := Option.some.inj hhead
  cases hmark

lemma hasEnd_lineText {edit : Edit String} (hline : IsLine (lineOf edit).toList) (hend : HasEnd (lineOf edit).toList) :
    HasEnd (lineText edit).toList := by
  obtain ⟨mark, -, hedit⟩ := exists_mark edit
  rw [hedit, hasEnd_append_iff _ hline.ne_nil]
  exact hend

lemma isLineEnd_of_isDigit {c : Char} (h : c.isDigit = true) : isLineEnd c = false := by
  simp only [Char.isDigit, Bool.and_eq_true, decide_eq_true_eq, ge_iff_le, UInt32.le_iff_toNat_le] at h
  have hlow : 48 ≤ c.toNat := h.1
  have hhigh : c.toNat ≤ 57 := h.2
  simp only [isLineEnd, Bool.or_eq_false_iff, Bool.and_eq_false_iff, decide_eq_false_iff_not]
  omega

/-- No character of a text ends a line. -/
lemma isLineEnd_of_all {chars : List Char} (h : chars.all (!isLineEnd ·) = true) : ∀ c ∈ chars, isLineEnd c = false := by
  intro c hc
  rw [← Bool.not_eq_true']
  exact List.all_eq_true.mp h c hc

lemma isLine_hunkHeader {hunk : List Numbered} (h : hunk ≠ []) : (IsLine (hunkHeader hunk).toList ∧
    (hunkHeader hunk).toList.head? ≠ some '\n') ∧ HasEnd (hunkHeader hunk).toList := by
  obtain ⟨first, more, rfl⟩ := List.exists_cons_of_ne_nil h
  have hrange {start length : Nat} : ∀ c ∈ (range start length).toList, isLineEnd c = false := by
    intro c hc
    rcases mem_range hc with hc | rfl
    · exact isLineEnd_of_isDigit hc
    · decide
  have hfront (old new : String) : (headerOf old new).toList =
      (['@', '@', ' ', '-'] ++ old.toList ++ [' ', '+'] ++ new.toList ++ [' ', '@', '@']) ++ ['\n'] := by
    rw [toList_headerOf]
    simp [List.intercalate]
  rw [hunkHeader_cons, hfront]
  refine ⟨⟨(isLine_singleton '\n').append_left fun c hc => ?_, by simp⟩, '\n', List.getLast?_concat, by decide⟩
  simp only [List.mem_append] at hc
  rcases hc with (((hc | hc) | hc) | hc) | hc
  · exact isLineEnd_of_all (by decide) c hc
  · exact hrange c hc
  · exact isLineEnd_of_all (by decide) c hc
  · exact hrange c hc
  · exact isLineEnd_of_all (by decide) c hc

lemma isLine_nameLine {mark : List Char} {name : String} (hmark : ∀ c ∈ mark, isLineEnd c = false) (hne : mark ≠ [])
    (hname : IsLine (name.toList ++ ['\n'])) : (IsLine (nameLine mark name).toList ∧
      (nameLine mark name).toList.head? ≠ some '\n') ∧ HasEnd (nameLine mark name).toList := by
  rw [toList_nameLine]
  refine ⟨⟨hname.append_left hmark, ?_⟩, '\n', ?_, by decide⟩
  · obtain ⟨c, rest, rfl⟩ := List.exists_cons_of_ne_nil hne
    intro hhead
    obtain rfl : c = '\n' := Option.some.inj hhead
    cases hmark _ (List.mem_cons_self ..)
  · rw [← List.append_assoc]
    exact List.getLast?_concat

/-! ### Edits between two texts -/

/-- Edits of lines, each but the last with its end. -/
structure AreLineEdits (edits : List (Edit String)) : Prop where
  isLine : ∀ edit ∈ edits, IsLine (lineOf edit).toList
  hasEnd : edits.Pairwise fun edit _ => HasEnd (lineOf edit).toList

lemma AreLineEdits.sublist {part edits : List (Edit String)} (h : AreLineEdits edits) (hpart : part.Sublist edits) :
    AreLineEdits part :=
  ⟨fun edit hedit => h.isLine edit (hpart.subset hedit), h.hasEnd.sublist hpart⟩

lemma mem_oldLines_or_mem_newLines {edit : Edit String} {edits : List (Edit String)} (h : edit ∈ edits) :
    lineOf edit ∈ oldLines edits ∨ lineOf edit ∈ newLines edits := by
  cases edit with
  | keep line => exact .inl (List.mem_filterMap.mpr ⟨_, h, rfl⟩)
  | delete line => exact .inl (List.mem_filterMap.mpr ⟨_, h, rfl⟩)
  | insert line => exact .inr (List.mem_filterMap.mpr ⟨_, h, rfl⟩)

/-- The edits from one text to the other. -/
def editsBetween (old new : String) : List (Edit String) :=
  edits (textLines old) (textLines new)

variable {old new : String}

lemma isLine_of_mem_editsBetween {edit : Edit String} (h : edit ∈ editsBetween old new) :
    IsLine (lineOf edit).toList := by
  rcases mem_oldLines_or_mem_newLines h with h | h
  · rw [editsBetween, oldLines_edits] at h
    exact isLine_of_mem_textLines h
  · rw [editsBetween, newLines_edits] at h
    exact isLine_of_mem_textLines h

/-- A line that is followed by lines of its text has its end. -/
lemma hasEnd_of_followed {front back : List (Edit String)} (hedits : editsBetween old new = front ++ back)
    {edit : Edit String} (hedit : edit ∈ front)
    (hback : (edit.isOld = true ∧ oldLines back ≠ []) ∨ (edit.isNew = true ∧ newLines back ≠ [])) :
    HasEnd (lineOf edit).toList := by
  have hlast {lines front back : List String} (hends : lines.Pairwise fun line _ => HasEnd line.toList)
      (hlines : lines = front ++ back) (hback : back ≠ []) {line : String} (hline : line ∈ front) : HasEnd line.toList := by
    obtain ⟨next, more, rfl⟩ := List.exists_cons_of_ne_nil hback
    rw [hlines, List.pairwise_append] at hends
    exact hends.2.2 line hline next (List.mem_cons_self ..)
  rcases hback with ⟨hold, hback⟩ | ⟨hnew, hback⟩
  · have hlines : textLines old = oldLines front ++ oldLines back := by
      rw [← oldLines_append, ← hedits, editsBetween, oldLines_edits]
    refine hlast (hasEnd_textLines old) hlines hback (List.mem_filterMap.mpr ⟨edit, hedit, ?_⟩)
    cases edit <;> first | rfl | cases hold
  · have hlines : textLines new = newLines front ++ newLines back := by
      rw [← newLines_append, ← hedits, editsBetween, newLines_edits]
    refine hlast (hasEnd_textLines new) hlines hback (List.mem_filterMap.mpr ⟨edit, hedit, ?_⟩)
    cases edit <;> first | rfl | cases hnew

/-- A deleted line that has no end is followed by the line that is put in its place. -/
def RunsTogether (old new : String) : Prop :=
  ∃ front line other back, editsBetween old new = front ++ .delete line :: .insert other :: back ∧ ¬ HasEnd line.toList

lemma pairwise_of_splits {α : Type} {p : α → Prop} {l : List α}
    (h : ∀ front a next back, l = front ++ a :: next :: back → p a) : l.Pairwise fun a _ => p a := by
  induction l with
  | nil => exact .nil
  | cons a l ih =>
    refine List.pairwise_cons.mpr ⟨fun next hnext => ?_, ih fun front b next back hl => ?_⟩
    · obtain ⟨first, more, rfl⟩ := List.exists_cons_of_ne_nil (List.ne_nil_of_mem hnext)
      exact h [] a first more rfl
    · exact h (a :: front) b next back (by rw [hl, List.cons_append])

lemma areLineEdits_editsBetween (h : ¬ RunsTogether old new) : AreLineEdits (editsBetween old new) := by
  refine ⟨fun edit hedit => isLine_of_mem_editsBetween hedit, pairwise_of_splits fun front edit next back hedits => ?_⟩
  have hsplit : editsBetween old new = (front ++ [edit]) ++ next :: back := by
    rw [hedits, List.append_assoc, List.singleton_append]
  have hmem : edit ∈ front ++ [edit] := List.mem_append_right _ (List.mem_singleton_self _)
  have hchain : (front ++ edit :: next :: back).IsChain MayFollow := by
    rw [← hedits]
    exact isChain_edits _ _
  have hold (hedit : edit.isOld = true) (hnext : next.isOld = true) : HasEnd (lineOf edit).toList := by
    refine hasEnd_of_followed hsplit hmem (.inl ⟨hedit, ?_⟩)
    cases next <;> first | exact List.cons_ne_nil _ _ | cases hnext
  have hnew (hedit : edit.isNew = true) (hnext : next.isNew = true) : HasEnd (lineOf edit).toList := by
    refine hasEnd_of_followed hsplit hmem (.inr ⟨hedit, ?_⟩)
    cases next <;> first | exact List.cons_ne_nil _ _ | cases hnext
  cases edit with
  | keep line =>
    cases next with
    | keep _ => exact hold rfl rfl
    | delete _ => exact hold rfl rfl
    | insert _ => exact hnew rfl rfl
  | delete line =>
    cases next with
    | keep _ => exact hold rfl rfl
    | delete _ => exact hold rfl rfl
    | insert other =>
      by_contra hend
      exact h ⟨front, line, other, back, hedits, hend⟩
  | insert line =>
    cases next with
    | keep _ => exact hnew rfl rfl
    | insert _ => exact hnew rfl rfl
    | delete other =>
      rw [List.isChain_append, List.isChain_cons_cons] at hchain
      cases hchain.2.1.1

lemma isNew_of_oldLines_eq_nil {edits : List (Edit String)} (h : oldLines edits = []) {edit : Edit String}
    (hedit : edit ∈ edits) : edit.isNew = true := by
  have hold := List.filterMap_eq_nil_iff.mp h edit hedit
  cases edit <;> first | rfl | cases hold

/-- A line without an end makes one line with what is printed after it. -/
lemma isLine_joined {line other : String} (hline : IsLine line.toList) (hend : ¬ HasEnd line.toList)
    (hother : IsLine other.toList) : IsLine (line ++ lineText (.insert other)).toList ∧
      (HasEnd other.toList → HasEnd (line ++ lineText (.insert other)).toList) := by
  have hinserted : IsLine ('+' :: other.toList) :=
    hother.append_left (List.forall_mem_singleton.mpr (by decide : isLineEnd '+' = false))
  have hjoined : (line ++ lineText (.insert other)).toList = line.toList ++ '+' :: other.toList := by
    rw [String.toList_append, lineText, String.toList_append]
    rfl
  rw [hjoined]
  constructor
  · rw [IsLine, hline.lines_append_of_not_hasEnd hend, hinserted]
    rfl
  · rw [List.append_cons, hasEnd_append_iff _ hother.ne_nil]
    exact id

/-- The line without an end is the last one of the old text. -/
lemma oldLines_eq_nil_of_not_hasEnd {front back : List (Edit String)} {line other : String}
    (hedits : editsBetween old new = front ++ .delete line :: .insert other :: back) (hend : ¬ HasEnd line.toList) :
    oldLines back = [] := by
  by_contra hback
  have hsplit : editsBetween old new = (front ++ [.delete line]) ++ .insert other :: back := by
    rw [hedits, List.append_assoc, List.singleton_append]
  exact hend (hasEnd_of_followed hsplit (List.mem_append_right _ (List.mem_singleton_self _)) (.inl ⟨rfl, hback⟩))

lemma areLineEdits_joined {front back : List (Edit String)} {line other : String}
    (hedits : editsBetween old new = front ++ .delete line :: .insert other :: back) (hend : ¬ HasEnd line.toList) :
    AreLineEdits (front ++ .delete (line ++ lineText (.insert other)) :: back) := by
  have hback : oldLines back = [] := oldLines_eq_nil_of_not_hasEnd hedits hend
  have hlines {edit : Edit String} (hedit : edit ∈ front ++ .delete line :: .insert other :: back) :
      IsLine (lineOf edit).toList := isLine_of_mem_editsBetween (hedits ▸ hedit)
  have hline : IsLine (lineOf (.delete line)).toList := hlines (by simp)
  have hother : IsLine (lineOf (.insert other)).toList := hlines (by simp)
  obtain ⟨hjoined, hjoinedEnd⟩ := isLine_joined hline hend hother
  have hnewLines {next : Edit String} {more : List (Edit String)} (hnext : next.isNew = true) :
      newLines (next :: more) ≠ [] := by
    cases next <;> first | exact List.cons_ne_nil _ _ | cases hnext
  have hfront : ∀ edit ∈ front, HasEnd (lineOf edit).toList := fun edit hedit => by
    refine hasEnd_of_followed hedits hedit ?_
    cases edit with
    | keep _ => exact .inl ⟨rfl, List.cons_ne_nil _ _⟩
    | delete _ => exact .inl ⟨rfl, List.cons_ne_nil _ _⟩
    | insert _ => exact .inr ⟨rfl, List.cons_ne_nil _ _⟩
  refine ⟨fun edit hedit => ?_, List.pairwise_append.mpr ⟨?_, List.pairwise_cons.mpr ⟨?_, ?_⟩, ?_⟩⟩
  · rcases List.mem_append.mp hedit with hedit | hedit
    · exact hlines (List.mem_append_left _ hedit)
    · rcases List.mem_cons.mp hedit with rfl | hedit
      · exact hjoined
      · exact hlines (List.mem_append_right _ (List.mem_cons_of_mem _ (List.mem_cons_of_mem _ hedit)))
  · exact List.pairwise_of_forall_mem_list fun edit hedit _ _ => hfront edit hedit
  · intro next hnext
    obtain ⟨first, more, rfl⟩ := List.exists_cons_of_ne_nil (List.ne_nil_of_mem hnext)
    have hmore : newLines (first :: more) ≠ [] := hnewLines (isNew_of_oldLines_eq_nil hback (List.mem_cons_self ..))
    have hsplit : editsBetween old new = (front ++ [.delete line, .insert other]) ++ first :: more := by
      rw [hedits, List.append_assoc]
      rfl
    have hmem : Edit.insert other ∈ front ++ [.delete line, .insert other] := by simp
    exact hjoinedEnd (hasEnd_of_followed hsplit hmem (.inr ⟨rfl, hmore⟩))
  · refine pairwise_of_splits fun before edit next after hsplit => ?_
    have hsplit' : editsBetween old new =
        (front ++ .delete line :: .insert other :: (before ++ [edit])) ++ next :: after := by
      rw [hedits, hsplit]
      simp
    have hnew {e : Edit String} (he : e ∈ before ++ edit :: next :: after) : e.isNew = true :=
      isNew_of_oldLines_eq_nil hback (hsplit ▸ he)
    exact hasEnd_of_followed hsplit' (by simp) (.inr ⟨hnew (by simp), hnewLines (hnew (by simp))⟩)
  · exact fun edit hedit _ _ => hfront edit hedit

/-! ### The lines of a diff -/

/-- The lines that name the two texts. -/
def nameLines (name : String) : List String :=
  [nameLine ['-', '-', '-', ' '] ("a/" ++ name), nameLine ['+', '+', '+', ' '] ("b/" ++ name)]

lemma unified_eq (name old new : String) : unified name old new = if hunks (editsBetween old new) = [] then "" else
    String.join (nameLines name ++ (hunks (editsBetween old new)).flatMap hunkLines) := by
  have htext (text : String) : toString text = text := rfl
  have hlines (hunk : List Numbered) : (hunkText hunk).toList = (hunkLines hunk).flatMap String.toList := by
    simp [hunkText, hunkLines, Function.comp_def]
  unfold unified
  rw [← editsBetween]
  cases hunks (editsBetween old new) with
  | nil => rfl
  | cons hunk more =>
    rw [if_neg (List.cons_ne_nil _ _)]
    apply String.toList_inj.mp
    simp [nameLines, nameLine, htext, hlines, List.flatMap_assoc, List.flatMap_map]

/-- The text that names and hunks make up is cut into the same lines again. -/
lemma textLines_diff {name : String} (hname : IsLine (name.toList ++ ['\n'])) {others : List (List Numbered)}
    {hunk : List Numbered} {edits : List (Edit String)} (hothers : ∀ other ∈ others, other ≠ []) (hhunk : hunk ≠ [])
    (hedits : AreLineEdits (others.flatten.map Numbered.edit ++ edits)) (hne : edits ≠ []) :
    textLines (String.join (nameLines name ++ (others.flatMap hunkLines ++ hunkHeader hunk :: edits.map lineText))) =
      nameLines name ++ (others.flatMap hunkLines ++ hunkHeader hunk :: edits.map lineText) := by
  have hends := List.pairwise_append.mp hedits.hasEnd
  have hlines {edit : Edit String} (hedit : edit ∈ edits) : IsLine (lineOf edit).toList :=
    hedits.isLine edit (List.mem_append_right _ hedit)
  have hnames : ∀ line ∈ nameLines name, (IsLine line.toList ∧ line.toList.head? ≠ some '\n') ∧ HasEnd line.toList := by
    have hversion {version : String} (h : ∀ c ∈ version.toList, isLineEnd c = false) :
        IsLine ((version ++ name).toList ++ ['\n']) := by
      rw [String.toList_append, List.append_assoc]
      exact hname.append_left h
    refine List.forall_mem_cons.mpr ⟨?_, List.forall_mem_singleton.mpr ?_⟩
    · exact isLine_nameLine (isLineEnd_of_all (by decide)) (List.cons_ne_nil _ _) (hversion (isLineEnd_of_all (by decide)))
    · exact isLine_nameLine (isLineEnd_of_all (by decide)) (List.cons_ne_nil _ _) (hversion (isLineEnd_of_all (by decide)))
  have hfront : ∀ line ∈ nameLines name ++ (others.flatMap hunkLines ++ [hunkHeader hunk]),
      (IsLine line.toList ∧ line.toList.head? ≠ some '\n') ∧ HasEnd line.toList := by
    intro line hline
    rcases List.mem_append.mp hline with hline | hline
    · exact hnames line hline
    · rcases List.mem_append.mp hline with hline | hline
      · obtain ⟨other, hother, hline⟩ := List.mem_flatMap.mp hline
        rcases List.mem_cons.mp hline with rfl | hline
        · exact isLine_hunkHeader (hothers other hother)
        · obtain ⟨edit, hedit, rfl⟩ := List.mem_map.mp hline
          obtain ⟨next, more, rfl⟩ := List.exists_cons_of_ne_nil hne
          have hmem : edit ∈ others.flatten.map Numbered.edit := by
            obtain ⟨numbered, hnumbered, rfl⟩ := List.mem_map.mp hedit
            exact List.mem_map_of_mem (List.mem_flatten.mpr ⟨other, hother, hnumbered⟩)
          have hisLine := hedits.isLine edit (List.mem_append_left _ hmem)
          exact ⟨isLine_lineText hisLine, hasEnd_lineText hisLine (hends.2.2 edit hmem next (List.mem_cons_self ..))⟩
      · obtain rfl := List.mem_singleton.mp hline
        exact isLine_hunkHeader hhunk
  have hsplit : nameLines name ++ (others.flatMap hunkLines ++ hunkHeader hunk :: edits.map lineText) =
      (nameLines name ++ (others.flatMap hunkLines ++ [hunkHeader hunk])) ++ edits.map lineText := by
    simp
  rw [hsplit]
  refine textLines_join (fun line hline => ?_) (List.pairwise_append.mpr ⟨?_, List.pairwise_map.mpr ?_, ?_⟩)
  · rcases List.mem_append.mp hline with hline | hline
    · exact (hfront line hline).1
    · obtain ⟨edit, hedit, rfl⟩ := List.mem_map.mp hline
      exact isLine_lineText (hlines hedit)
  · exact List.pairwise_of_forall_mem_list fun line hline _ _ => (hfront line hline).2
  · exact hends.2.1.imp_of_mem fun hedit _ hend => hasEnd_lineText (hlines hedit) hend
  · exact fun line hline _ _ => (hfront line hline).2

/-! ### Reading a diff -/

/-- The text is a diff of the two versions of a file: nothing at all if they are the same, and otherwise a patch that
turns the old version into the new one. -/
def Describes (name old new text : String) : Prop :=
  text = "" ∧ old = new ∨ ∃ patch, readPatch text = some patch ∧ patch.old = "a/" ++ name ∧ patch.new = "b/" ++ name ∧
    patch.apply old = some new

lemma readPatch_of_textLines {text name : String} {lines : List String} (h : textLines text = nameLines name ++ lines) :
    readPatch text = (readHunks lines.length lines).map fun hunks => ⟨"a/" ++ name, "b/" ++ name, hunks⟩ := by
  rw [readPatch, h]
  change ((readName _ (nameLine _ _)).bind fun _ => (readName _ (nameLine _ _)).bind _) = _
  rw [readName_nameLine, readName_nameLine]
  rfl

/-- The line that names the old text is one line. -/
lemma isLine_of_readPatch {text : String} {patch : Patch} (h : readPatch text = some patch) :
    IsLine (patch.old.toList ++ ['\n']) := by
  unfold readPatch at h
  split at h
  · rename_i oldLine newLine lines hlines
    obtain ⟨oldName, hold, h⟩ := Option.bind_eq_some_iff.mp h
    obtain ⟨newName, -, h⟩ := Option.bind_eq_some_iff.mp h
    obtain ⟨hunks, -, rfl⟩ := Option.map_eq_some_iff.mp h
    have hline : IsLine oldLine.toList := isLine_of_mem_textLines (hlines ▸ List.mem_cons_self ..)
    rw [eq_nameLine_of_readName hold, toList_nameLine] at hline
    exact hline.of_append (List.append_ne_nil_of_right_ne_nil _ (List.cons_ne_nil _ _))
  · cases h

lemma length_le_length_flatMap (hunks : List (List Numbered)) : hunks.length ≤ (hunks.flatMap hunkLines).length := by
  induction hunks with
  | nil => exact Nat.le_refl 0
  | cons hunk hunks ih =>
    rw [List.flatMap_cons, List.length_append, List.length_cons, hunkLines, List.length_cons]
    omega

/-- Without lines that run together, the hunks are read back. -/
lemma readPatch_unified {name : String} (hname : IsLine (name.toList ++ ['\n'])) (h : ¬ RunsTogether old new)
    (hsome : hunks (editsBetween old new) ≠ []) : readPatch (unified name old new) =
      some ⟨"a/" ++ name, "b/" ++ name, (hunks (editsBetween old new)).map hunkOf⟩ := by
  have hne : ∀ hunk ∈ hunks (editsBetween old new), hunk ≠ [] := fun hunk hhunk => ne_nil_of_mem_stretches hhunk
  have hsub := sublist_hunks (editsBetween old new)
  have hlines : textLines (unified name old new) =
      nameLines name ++ (hunks (editsBetween old new)).flatMap hunkLines := by
    rw [unified_eq, if_neg hsome]
    obtain ⟨others, hunk, hhunks⟩ := (hunks (editsBetween old new)).eq_nil_or_concat.resolve_left hsome
    rw [List.concat_eq_append] at hhunks
    rw [hhunks] at hsub hne ⊢
    rw [List.flatten_append, List.flatten_singleton, List.map_append] at hsub
    rw [List.forall_mem_append, List.forall_mem_singleton] at hne
    rw [List.flatMap_append, List.flatMap_singleton]
    exact textLines_diff hname hne.1 hne.2 ((areLineEdits_editsBetween h).sublist hsub)
      fun hnone => hne.2 (List.map_eq_nil_iff.mp hnone)
  obtain ⟨fuel, hfuel⟩ := Nat.exists_eq_add_of_le' (length_le_length_flatMap (hunks (editsBetween old new)))
  have hread := readHunks_append hne fuel []
  have hend : readHunks fuel [] = some [] := by cases fuel <;> rfl
  rw [List.append_nil, hend, Option.map_some, List.append_nil] at hread
  rw [readPatch_of_textLines hlines, hfuel, hread]
  rfl

/-- A line without an end is at the end of the last hunk, with the lines that are put in its place. -/
lemma exists_last_hunk {front back : List (Edit String)} {line other : String}
    (hedits : editsBetween old new = front ++ .delete line :: .insert other :: back) (hend : ¬ HasEnd line.toList) :
    ∃ others last tail, hunks (editsBetween old new) = others ++ [last ++ tail] ∧
      tail.map Numbered.edit = .delete line :: .insert other :: back ∧
      ((others.flatten ++ last).map Numbered.edit).Sublist front := by
  have hback : oldLines back = [] := oldLines_eq_nil_of_not_hasEnd hedits hend
  have hchanges : ∀ edit ∈ .delete line :: .insert other :: back, Edit.isChange edit = true := by
    refine List.forall_mem_cons.mpr ⟨rfl, List.forall_mem_cons.mpr ⟨rfl, fun edit hedit => ?_⟩⟩
    have hold := List.filterMap_eq_nil_iff.mp hback edit hedit
    cases edit <;> first | rfl | cases hold
  rw [hedits]
  exact hunks_append_changes front hchanges (List.cons_ne_nil _ _)

/-- Where lines run together, the last hunk has one line less than its header tells. -/
lemma readPatch_unified_of_runsTogether {name : String} (hname : IsLine (name.toList ++ ['\n']))
    (h : RunsTogether old new) : readPatch (unified name old new) = none := by
  obtain ⟨front, line, other, back, hedits, hend⟩ := h
  obtain ⟨others, last, tail, hhunks, htail, hsub⟩ := exists_last_hunk hedits hend
  have hne : ∀ hunk ∈ hunks (editsBetween old new), hunk ≠ [] := fun hunk hhunk => ne_nil_of_mem_stretches hhunk
  rw [hhunks, List.forall_mem_append, List.forall_mem_singleton] at hne
  -- the edits of the last hunk as they are printed, and as they are read
  have hprinted : (last ++ tail).map Numbered.edit = last.map Numbered.edit ++ .delete line :: .insert other :: back := by
    rw [List.map_append, htail]
  let seen := last.map Numbered.edit ++ .delete (line ++ lineText (.insert other)) :: back
  have htext : unified name old new =
      String.join (nameLines name ++ (others.flatMap hunkLines ++ hunkHeader (last ++ tail) :: seen.map lineText)) := by
    rw [unified_eq, if_neg (by rw [hhunks]; simp), hhunks]
    apply String.toList_inj.mp
    simp [seen, hunkLines, htail, lineText]
  have hlines : textLines (unified name old new) =
      nameLines name ++ (others.flatMap hunkLines ++ hunkHeader (last ++ tail) :: seen.map lineText) := by
    rw [htext]
    refine textLines_diff hname hne.1 hne.2 ?_ (by simp [seen])
    have hjoined := hsub.append (List.Sublist.refl (.delete (line ++ lineText (.insert other)) :: back))
    rw [List.map_append, List.append_assoc] at hjoined
    exact (areLineEdits_joined hedits hend).sublist hjoined
  have hold : (oldLines ((last ++ tail).map Numbered.edit)).length = 0 + (oldLines seen).length := by
    rw [hprinted, oldLines_append, oldLines_append, List.length_append, List.length_append, Nat.zero_add]
    rfl
  have hnew : (newLines ((last ++ tail).map Numbered.edit)).length = 1 + (newLines seen).length := by
    rw [hprinted, newLines_append, newLines_append, List.length_append, List.length_append, Nat.add_comm 1, Nat.add_assoc]
    rfl
  have hread : readEdits (oldLines ((last ++ tail).map Numbered.edit)).length
      (newLines ((last ++ tail).map Numbered.edit)).length (seen.map lineText) = none := by
    have hseen := readEdits_append seen 0 1 []
    rw [List.append_nil] at hseen
    rw [hold, hnew, hseen]
    rfl
  obtain ⟨fuel, hfuel⟩ := Nat.exists_eq_add_of_le' (length_le_length_flatMap others)
  have hlength : (others.flatMap hunkLines ++ hunkHeader (last ++ tail) :: seen.map lineText).length =
      fuel + seen.length + 1 + others.length := by
    rw [List.length_append, hfuel, List.length_cons, List.length_map]
    omega
  rw [readPatch_of_textLines hlines, hlength, readHunks_append hne.1, readHunks_header hne.2, hread]
  rfl

/-- The diff of two versions of a file describes their difference, unless lines of it run together or the name of the
file is more than one line. -/
theorem describes_unified_iff (name old new : String) : Describes name old new (unified name old new) ↔
    ¬ RunsTogether old new ∧ (unified name old new = "" ∨ IsLine (name.toList ++ ['\n'])) := by
  have happly := patchLines_hunks (editsBetween old new)
  rw [editsBetween, oldLines_edits, newLines_edits, ← editsBetween] at happly
  by_cases hnone : hunks (editsBetween old new) = []
  · have hempty : unified name old new = "" := by rw [unified_eq, if_pos hnone]
    have hsame : old = new := by
      rw [hnone] at happly
      rw [← join_textLines old, Option.some.inj happly, join_textLines]
    have hapart : ¬ RunsTogether old new := by
      rintro ⟨front, line, other, back, hedits, hend⟩
      obtain ⟨others, last, tail, hhunks, -⟩ := exists_last_hunk hedits hend
      rw [hnone] at hhunks
      exact List.append_ne_nil_of_right_ne_nil others (List.cons_ne_nil _ _) hhunks.symm
    exact ⟨fun _ => ⟨hapart, .inl hempty⟩, fun _ => .inl ⟨hempty, hsame⟩⟩
  · have hsome : unified name old new ≠ "" := by
      intro hempty
      rw [unified_eq, if_neg hnone] at hempty
      have hlist := congrArg String.toList hempty
      rw [String.toList_join, nameLines, List.cons_append, List.flatMap_cons, toList_nameLine] at hlist
      cases hlist
    rw [or_iff_right hsome]
    constructor
    · rintro (⟨hempty, -⟩ | ⟨patch, hread, hold, -, -⟩)
      · exact absurd hempty hsome
      · have hname : IsLine (name.toList ++ ['\n']) := by
          have hline := isLine_of_readPatch hread
          rw [hold, String.toList_append, List.append_assoc] at hline
          exact hline.of_append (List.append_ne_nil_of_right_ne_nil _ (List.cons_ne_nil _ _))
        refine ⟨fun h => ?_, hname⟩
        rw [readPatch_unified_of_runsTogether hname h] at hread
        cases hread
    · rintro ⟨hapart, hname⟩
      refine .inr ⟨_, readPatch_unified hname hapart hnone, rfl, rfl, ?_⟩
      rw [Patch.apply, happly, Option.map_some, join_textLines]

/-- Asked for diffs, the program shows after a migrated file what turns its source into the output, unless lines of the
diff run together or the path of the file is more than one line. -/
theorem printedDiff_describes {result : FileResult} {output : String} (h : result.output? = some output) :
    ∃ diff, CommandLine.resultText true result = CommandLine.resultText false result ++ diff ∧
      (Describes result.path.toString result.source output diff ↔ ¬ RunsTogether result.source output ∧
        (diff = "" ∨ IsLine (result.path.toString.toList ++ ['\n']))) := by
  refine ⟨unified result.path.toString result.source output, ?_, describes_unified_iff _ _ _⟩
  unfold CommandLine.resultText
  rw [h]
  simp

/-- A file with one line that is replaced, its last one. -/
def replacedLine (line : String) : FileResult where
  path := .ofString "routes/a.tsx"
  source := "a\n" ++ line
  fate := .migrated (.finalized .page "/a" []) "a\nc\n"

/-- The diff describes what became of the file if the last line of its source has an end, and does not if it has none. -/
theorem replacedLine_described :
    ((replacedLine "b\n").output? = some "a\nc\n" ∧
      ∃ diff, CommandLine.resultText true (replacedLine "b\n") = CommandLine.resultText false (replacedLine "b\n") ++ diff ∧
        Describes "routes/a.tsx" "a\nb\n" "a\nc\n" diff) ∧
    (replacedLine "b").output? = some "a\nc\n" ∧
      ∃ diff, CommandLine.resultText true (replacedLine "b") = CommandLine.resultText false (replacedLine "b") ++ diff ∧
        ¬ Describes "routes/a.tsx" "a\nb" "a\nc\n" diff := by
  have hended : (replacedLine "b\n").output? = some "a\nc\n" := rfl
  have hunended : (replacedLine "b").output? = some "a\nc\n" := rfl
  obtain ⟨diff, htext, hdiff⟩ := printedDiff_describes hended
  obtain ⟨diff', htext', hdiff'⟩ := printedDiff_describes hunended
  refine ⟨⟨hended, diff, htext, hdiff.mpr ⟨?_, .inr (by decide +kernel)⟩⟩, hunended, diff', htext', fun h => ?_⟩
  · rintro ⟨front, line, other, back, hedits, hend⟩
    have hbetween : editsBetween "a\nb\n" "a\nc\n" = [.keep "a\n", .delete "b\n", .insert "c\n"] := by decide +kernel
    have hmem : Edit.delete line ∈ editsBetween "a\nb\n" "a\nc\n" := by
      change Edit.delete line ∈ editsBetween (replacedLine "b\n").source "a\nc\n"
      rw [hedits]
      exact List.mem_append_right _ (List.mem_cons_self ..)
    rw [hbetween] at hmem
    obtain rfl : line = "b\n" := by simpa using hmem
    exact hend (by decide)
  · exact (hdiff'.mp h).1 ⟨[.keep "a\n"], "b", "c\n", [], by decide +kernel, by decide⟩

end RouteMigration.Proofs
