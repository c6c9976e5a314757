import Mathlib.Tactic.Common
import RouteMigration.Proofs.Patches

/-!
# Hunks

Every edit that is no kept line belongs to a hunk, and a hunk tells how many lines of either text lie before it. So a
patch with the hunks between two texts turns the one into the other.
-/

namespace RouteMigration.Proofs
open Diff

/-! ### Stretches -/

section Stretches

variable {α : Type}

/-- What is marked begins a stretch of its own, or belongs to the one that begins next. -/
lemma stretches_marked (a : α) (rest : List (α × Bool)) :
    ((∀ b more, rest ≠ (b, true) :: more) ∧ stretches ((a, true) :: rest) = [a] :: stretches rest) ∨
      ∃ b more stretch others, rest = (b, true) :: more ∧ stretches rest = stretch :: others ∧
        stretches ((a, true) :: rest) = (a :: stretch) :: others := by
  induction rest generalizing a with
  | nil => exact .inl ⟨nofun, by simp [stretches]⟩
  | cons next rest ih =>
    obtain ⟨b, mark⟩ := next
    cases mark with
    | false => exact .inl ⟨nofun, by rw [stretches]; rfl⟩
    | true =>
      obtain ⟨stretch, others, hrest⟩ : ∃ stretch others, stretches ((b, true) :: rest) = stretch :: others := by
        rcases ih b with ⟨-, hrest⟩ | ⟨_, _, stretch, others, -, -, hrest⟩
        · exact ⟨_, _, hrest⟩
        · exact ⟨_, _, hrest⟩
      refine .inr ⟨b, rest, stretch, others, rfl, hrest, ?_⟩
      rw [stretches.eq_def]
      dsimp only
      rw [hrest]

lemma ne_nil_of_mem_stretches {items : List (α × Bool)} {stretch : List α} (h : stretch ∈ stretches items) :
    stretch ≠ [] := by
  induction items with
  | nil => cases h
  | cons item items ih =>
    obtain ⟨a, mark⟩ := item
    cases mark with
    | false => exact ih h
    | true =>
      rcases stretches_marked a items with ⟨-, hitems⟩ | ⟨_, _, next, others, -, hnext, hitems⟩
      · rw [hitems] at h
        rcases List.mem_cons.mp h with rfl | h
        · exact List.cons_ne_nil _ _
        · exact ih h
      · rw [hitems] at h
        rcases List.mem_cons.mp h with rfl | h
        · exact List.cons_ne_nil _ _
        · exact ih (hnext ▸ List.mem_cons_of_mem _ h)

lemma sublist_stretches (items : List (α × Bool)) : (stretches items).flatten.Sublist (items.map Prod.fst) := by
  induction items with
  | nil => exact List.Sublist.refl _
  | cons item items ih =>
    obtain ⟨a, mark⟩ := item
    cases mark with
    | false => exact ih.cons a
    | true =>
      rcases stretches_marked a items with ⟨-, hitems⟩ | ⟨_, _, next, others, -, hnext, hitems⟩
      · rw [hitems]
        exact ih.cons_cons a
      · rw [hnext] at ih
        rw [hitems]
        exact ih.cons_cons a

/-- The first stretch lies below what is not marked; the others are those of what follows it. -/
lemma stretches_cases (items : List (α × Bool)) : (stretches items = [] ∧ ∀ item ∈ items, item.2 = false) ∨
    ∃ skipped run rest, items = skipped ++ (run ++ rest) ∧ (∀ item ∈ skipped, item.2 = false) ∧ run ≠ [] ∧
      stretches items = run.map Prod.fst :: stretches rest := by
  induction items with
  | nil => exact .inl ⟨rfl, List.forall_mem_nil _⟩
  | cons item items ih =>
    obtain ⟨a, mark⟩ := item
    cases mark with
    | false =>
      rcases ih with ⟨hitems, hall⟩ | ⟨skipped, run, rest, rfl, hskipped, hrun, hitems⟩
      · exact .inl ⟨hitems, List.forall_mem_cons.mpr ⟨rfl, hall⟩⟩
      · exact .inr ⟨(a, false) :: skipped, run, rest, rfl, List.forall_mem_cons.mpr ⟨rfl, hskipped⟩, hrun, hitems⟩
    | true =>
      rcases stretches_marked a items with ⟨-, hitems⟩ | ⟨b, more, next, others, rfl, hnext, hitems⟩
      · exact .inr ⟨[], [(a, true)], items, rfl, List.forall_mem_nil _, List.cons_ne_nil _ _, hitems⟩
      · rcases ih with ⟨hnone, -⟩ | ⟨skipped, run, rest, hsplit, hskipped, hrun, hfirst⟩
        · rw [hnone] at hnext
          cases hnext
        · -- the next item is marked, so that nothing is skipped before it
          cases skipped with
          | nil =>
            rw [hnext] at hfirst
            obtain ⟨rfl, rfl⟩ := List.cons.inj hfirst
            refine .inr ⟨[], (a, true) :: run, rest, ?_, List.forall_mem_nil _, List.cons_ne_nil _ _, hitems⟩
            rw [hsplit]
            rfl
          | cons item skipped =>
            obtain ⟨rfl, -⟩ := List.cons.inj hsplit
            cases hskipped _ (List.mem_cons_self ..)

/-- What is marked at the end belongs to the last stretch. -/
lemma stretches_append_marked (front : List (α × Bool)) {run : List (α × Bool)} (hrun : ∀ item ∈ run, item.2 = true)
    (hne : run ≠ []) : ∃ others last, stretches (front ++ run) = others ++ [last ++ run.map Prod.fst] ∧
      (others.flatten ++ last).Sublist (front.map Prod.fst) := by
  have hrun' : stretches run = [run.map Prod.fst] := by
    induction run with
    | nil => exact absurd rfl hne
    | cons item run ih =>
      obtain ⟨a, mark⟩ := item
      obtain ⟨hmark, hmarks⟩ := List.forall_mem_cons.mp hrun
      obtain rfl : mark = true := hmark
      rcases stretches_marked a run with ⟨hnext, hitems⟩ | ⟨b, more, next, others, rfl, hnext, hitems⟩
      · cases run with
        | nil => rw [hitems]; rfl
        | cons item run =>
          obtain ⟨b, mark⟩ := item
          obtain ⟨hmark, -⟩ := List.forall_mem_cons.mp hmarks
          obtain rfl : mark = true := hmark
          exact absurd rfl (hnext b run)
      · obtain ⟨rfl, rfl⟩ := List.cons.inj (hnext.symm.trans (ih hmarks (List.cons_ne_nil _ _)))
        exact hitems
  induction front with
  | nil => exact ⟨[], [], hrun', List.Sublist.refl _⟩
  | cons item front ih =>
    obtain ⟨others, last, hfront, hsub⟩ := ih
    obtain ⟨a, mark⟩ := item
    cases mark with
    | false => exact ⟨others, last, hfront, hsub.cons a⟩
    | true =>
      rcases stretches_marked a (front ++ run) with ⟨-, hitems⟩ | ⟨b, more, next, others', -, hnext, hitems⟩
      · refine ⟨[a] :: others, last, ?_, hsub.cons_cons a⟩
        rw [List.cons_append, hitems, hfront]
        rfl
      · rw [hnext] at hfront
        rw [List.cons_append, hitems]
        cases others with
        | nil =>
          obtain ⟨rfl, rfl⟩ := List.cons.inj hfront
          exact ⟨[], a :: last, rfl, hsub.cons_cons a⟩
        | cons first others =>
          obtain ⟨rfl, rfl⟩ := List.cons.inj hfront
          exact ⟨(a :: next) :: others, last, rfl, hsub.cons_cons a⟩

end Stretches

/-! ### Numbers -/

/-- The edits have the numbers of lines before them, where so many lines of either text lie before the first. -/
def IsNumbered (old new : Nat) (items : List Numbered) : Prop :=
  numberedFrom old new (items.map Numbered.edit) = items

lemma numberedFrom_cons (old new : Nat) (edit : Edit String) (edits : List (Edit String)) :
    numberedFrom old new (edit :: edits) =
      ⟨edit, old, new⟩ :: numberedFrom (old + edit.isOld.toNat) (new + edit.isNew.toNat) edits := by
  cases edit <;> rfl

lemma length_numberedFrom (old new : Nat) (edits : List (Edit String)) :
    (numberedFrom old new edits).length = edits.length := by
  induction edits generalizing old new with
  | nil => rfl
  | cons edit edits ih => rw [numberedFrom_cons, List.length_cons, ih, List.length_cons]

lemma edit_numberedFrom (old new : Nat) (edits : List (Edit String)) :
    (numberedFrom old new edits).map Numbered.edit = edits := by
  induction edits generalizing old new with
  | nil => rfl
  | cons edit edits ih => rw [numberedFrom_cons, List.map_cons, ih]

lemma numberedFrom_append (old new : Nat) (front back : List (Edit String)) : numberedFrom old new (front ++ back) =
    numberedFrom old new front ++
      numberedFrom (old + (oldLines front).length) (new + (newLines front).length) back := by
  induction front generalizing old new with
  | nil => rfl
  | cons edit front ih =>
    rw [List.cons_append, numberedFrom_cons, numberedFrom_cons, ih, length_oldLines_cons, length_newLines_cons,
      Nat.add_assoc, Nat.add_assoc, Nat.add_comm edit.isOld.toNat, Nat.add_comm edit.isNew.toNat]
    rfl

lemma isNumbered_numberedFrom (old new : Nat) (edits : List (Edit String)) :
    IsNumbered old new (numberedFrom old new edits) := by
  rw [IsNumbered, edit_numberedFrom]

lemma isNumbered_append {old new : Nat} {front back : List Numbered} (h : IsNumbered old new (front ++ back)) :
    IsNumbered old new front ∧ IsNumbered (old + (oldLines (front.map Numbered.edit)).length)
      (new + (newLines (front.map Numbered.edit)).length) back := by
  rw [IsNumbered, List.map_append, numberedFrom_append] at h
  refine List.append_inj h ?_
  rw [length_numberedFrom, List.length_map]

lemma IsNumbered.hunkOf {old new : Nat} {hunk : List Numbered} (h : IsNumbered old new hunk) (hhunk : hunk ≠ []) :
    hunkOf hunk = hunkBelow old new (hunk.map Numbered.edit) := by
  obtain ⟨first, more, rfl⟩ := List.exists_cons_of_ne_nil hhunk
  rw [IsNumbered, List.map_cons, numberedFrom_cons] at h
  rw [← (List.cons.inj h).1]
  rfl

/-! ### Application -/

lemma oldLines_eq_newLines {edits : List (Edit String)} (h : ∀ edit ∈ edits, edit.isChange = false) :
    oldLines edits = newLines edits := by
  have hkept : ∀ edit ∈ edits, oldLine? edit = newLine? edit := fun edit hedit => by
    cases edit with
    | keep line => rfl
    | delete line => cases h _ hedit
    | insert line => cases h _ hedit
  rw [oldLines, newLines, List.filterMap_congr hkept]

/-- The stretches of numbered edits, with every edit marked that is no kept line, make hunks that turn the old lines
into the new ones. The induction is on the edits: the first hunk applies below kept lines, and the others apply to
what follows it. -/
theorem patchLines_stretches {items : List (Numbered × Bool)} {old new : Nat}
    (hnumbers : IsNumbered old new (items.map Prod.fst))
    (hkept : ∀ item ∈ items, item.2 = false → item.1.edit.isChange = false) :
    patchLines old new ((stretches items).map hunkOf) (oldLines ((items.map Prod.fst).map Numbered.edit)) =
      some (newLines ((items.map Prod.fst).map Numbered.edit)) := by
  induction hlength : items.length using Nat.strong_induction_on generalizing items old new with
  | h length ih =>
    have hlines {skipped : List (Numbered × Bool)} (hskipped : ∀ item ∈ skipped, item.2 = false)
        (hsub : ∀ item ∈ skipped, item ∈ items) :
        oldLines ((skipped.map Prod.fst).map Numbered.edit) = newLines ((skipped.map Prod.fst).map Numbered.edit) := by
      refine oldLines_eq_newLines fun edit hedit => ?_
      rw [List.map_map, List.mem_map] at hedit
      obtain ⟨item, hitem, rfl⟩ := hedit
      exact hkept item (hsub item hitem) (hskipped item hitem)
    rcases stretches_cases items with ⟨hnone, hall⟩ | ⟨skipped, run, rest, rfl, hskipped, hrun, hfirst⟩
    · rw [hnone, hlines hall fun _ => id]
      rfl
    · rw [hfirst]
      simp only [List.map_append] at hnumbers ⊢
      obtain ⟨-, hbelow⟩ := isNumbered_append hnumbers
      obtain ⟨hhunk, hrest⟩ := isNumbered_append hbelow
      have hsame := hlines hskipped fun item hitem => List.mem_append_left _ hitem
      have hshorter : rest.length < length := by
        have hpos := List.length_pos_iff.mpr hrun
        rw [← hlength, List.length_append, List.length_append]
        omega
      have hlast := ih rest.length hshorter hrest
        (fun item hitem => hkept item (List.mem_append_right _ (List.mem_append_right _ hitem))) rfl
      have hne : run.map Prod.fst ≠ [] := fun h => hrun (List.map_eq_nil_iff.mp h)
      rw [List.map_cons, hhunk.hunkOf hne, oldLines_append, oldLines_append, newLines_append, newLines_append, ← hsame,
        patchLines_hunkBelow]
      rw [← hsame] at hlast
      rw [hlast, Option.map_some, List.append_assoc]

/-! ### Marks -/

lemma length_spread (marks : List Bool) : (spread marks).length = marks.length := by
  simp only [spread, List.length_zipWith, List.length_cons, List.length_append, List.length_drop, List.length_nil]
  omega

lemma spread_of_marked {marks : List Bool} {i : Nat} (h : marks[i]? = some true) : (spread marks)[i]? = some true := by
  have hlt : i < (spread marks).length := by
    rw [length_spread]
    exact (List.getElem?_eq_some_iff.mp h).1
  obtain ⟨_, hmark⟩ := List.getElem?_eq_some_iff.mp h
  rw [List.getElem?_eq_getElem hlt]
  simp [spread, hmark]

lemma length_spreadBy (n : Nat) (marks : List Bool) : (spreadBy n marks).length = marks.length := by
  induction n generalizing marks with
  | zero => rfl
  | succ n ih => rw [spreadBy, ih, length_spread]

lemma spreadBy_of_marked (n : Nat) {marks : List Bool} {i : Nat} (h : marks[i]? = some true) :
    (spreadBy n marks)[i]? = some true := by
  induction n generalizing marks with
  | zero => exact h
  | succ n ih => exact ih (spread_of_marked h)

/-- The edits with their numbers, each marked if it belongs to a hunk. -/
def markedEdits (edits : List (Edit String)) : List (Numbered × Bool) :=
  (numberedFrom 0 0 edits).zip (spreadBy context (edits.map Edit.isChange))

lemma numbered_markedEdits (edits : List (Edit String)) : (markedEdits edits).map Prod.fst = numberedFrom 0 0 edits := by
  refine List.map_fst_zip ?_
  rw [length_spreadBy, length_numberedFrom, List.length_map]

lemma edit_markedEdits (edits : List (Edit String)) : ((markedEdits edits).map Prod.fst).map Numbered.edit = edits := by
  rw [numbered_markedEdits, edit_numberedFrom]

/-- Whatever is not marked is a kept line. -/
lemma kept_of_unmarked {edits : List (Edit String)} {item : Numbered × Bool} (hitem : item ∈ markedEdits edits)
    (hmark : item.2 = false) : item.1.edit.isChange = false := by
  obtain ⟨i, hi⟩ := List.mem_iff_getElem?.mp hitem
  obtain ⟨hnumber, hspread⟩ := List.getElem?_zip_eq_some.mp hi
  have hedit : edits[i]? = some item.1.edit := by
    conv_lhs => rw [← edit_numberedFrom 0 0 edits]
    rw [List.getElem?_map, hnumber]
    rfl
  rw [← Bool.not_eq_true]
  intro hchange
  have hmarked : (edits.map Edit.isChange)[i]? = some true := by
    rw [List.getElem?_map, hedit, Option.map_some, hchange]
  rw [spreadBy_of_marked context hmarked] at hspread
  rw [← Option.some.inj hspread] at hmark
  cases hmark

/-- The hunks of edits turn their old lines into the new ones. -/
theorem patchLines_hunks (edits : List (Edit String)) :
    patchLines 0 0 ((hunks edits).map hunkOf) (oldLines edits) = some (newLines edits) := by
  have hnumbers : IsNumbered 0 0 ((markedEdits edits).map Prod.fst) := by
    rw [numbered_markedEdits]
    exact isNumbered_numberedFrom 0 0 edits
  have happly := patchLines_stretches hnumbers fun item hitem hmark => kept_of_unmarked hitem hmark
  rw [edit_markedEdits] at happly
  exact happly

/-- What the hunks hold is part of the edits. -/
lemma sublist_hunks (edits : List (Edit String)) : ((hunks edits).flatten.map Numbered.edit).Sublist edits := by
  have hsub := (sublist_stretches (markedEdits edits)).map Numbered.edit
  rwa [edit_markedEdits] at hsub

/-- Changes after the last kept line are the end of the last hunk. -/
lemma hunks_append_changes (front : List (Edit String)) {changes : List (Edit String)}
    (hchanges : ∀ edit ∈ changes, edit.isChange = true) (hne : changes ≠ []) :
    ∃ others last tail, hunks (front ++ changes) = others ++ [last ++ tail] ∧ tail.map Numbered.edit = changes ∧
      ((others.flatten ++ last).map Numbered.edit).Sublist front := by
  have hedits := edit_markedEdits (front ++ changes)
  rw [← List.take_append_drop front.length (markedEdits (front ++ changes)), List.map_append, List.map_append] at hedits
  have hlength : (((markedEdits (front ++ changes)).take front.length).map Prod.fst |>.map Numbered.edit).length =
      front.length := by
    have hall := congrArg List.length (edit_markedEdits (front ++ changes))
    rw [List.length_map, List.length_map, List.length_append] at hall
    rw [List.length_map, List.length_map, List.length_take]
    omega
  obtain ⟨hfront, htail⟩ := List.append_inj hedits hlength
  have hmarked : ∀ item ∈ (markedEdits (front ++ changes)).drop front.length, item.2 = true := by
    intro item hitem
    rw [← Bool.not_eq_false]
    intro hmark
    have hkept := kept_of_unmarked (List.mem_of_mem_drop hitem) hmark
    rw [hchanges] at hkept
    · cases hkept
    · rw [← htail]
      exact List.mem_map_of_mem (List.mem_map_of_mem hitem)
  have hsome : (markedEdits (front ++ changes)).drop front.length ≠ [] := by
    intro hnone
    rw [hnone] at htail
    exact hne htail.symm
  obtain ⟨others, last, hhunks, hsub⟩ := stretches_append_marked ((markedEdits (front ++ changes)).take front.length)
    hmarked hsome
  rw [List.take_append_drop] at hhunks
  refine ⟨others, last, _, hhunks, htail, ?_⟩
  have hsub := hsub.map Numbered.edit
  rwa [hfront] at hsub

end RouteMigration.Proofs
