import RouteMigration.Proofs.BatchRuns
import RouteMigration.Proofs.Migrations
import RouteMigration.Proofs.Schedules

/-!
# Batches under any schedule

However the steps of the workers are interleaved, each file is where its own migration would be by now: the others do
not touch it, and what it hands in goes under its own index. So every schedule ends with the same results in the same
order and the same files, those of a run that migrates one file after the other.
-/

namespace RouteMigration.Proofs
open Batch

variable {settings : Settings} {write : Bool} {workers : Int} {start tree after : FileTree} {path : FilePath}
variable {paths : List FilePath} {place : Place} {progress next : Progress} {index : Nat}

/-! ### One file among others -/

/-- The file that a path leads to holds what its migration, begun at `start`, leaves in it. -/
def Finished (settings : Settings) (write : Bool) (start tree : FileTree) (path : FilePath) : Prop :=
  ∀ place, start.resolve path = .ok place →
    tree.content? place = (start.content? place).map (leftIn write (processFile settings write start path).1)

/-- How a file stands at a stage of its migration, and what it has handed in. -/
inductive Stands (settings : Settings) (write : Bool) (start tree : FileTree) (path : FilePath) :
    Stage → Option FileResult → Prop where
  | waiting (hagree : AgreeAt start tree path) : Stands settings write start tree path .waiting none
  | taken (hagree : AgreeAt start tree path) : Stands settings write start tree path .taken none
  | examined (hagree : AgreeAt start tree path) :
    Stands settings write start tree path (.examined (migrateFile settings start path).1) none
  | emptied {place : Place} (hwrite : write = true) (houtput : (migrateFile settings start path).1.output?.isSome)
      (hplace : Writable start path place) :
    Stands settings write start tree path (.emptied (migrateFile settings start path).1) none
  | settled (hfinished : Finished settings write start tree path) :
    Stands settings write start tree path (.settled (processFile settings write start path).1) none
  | collected (hfinished : Finished settings write start tree path) :
    Stands settings write start tree path .collected (some (processFile settings write start path).1)

/-- A file stands where it stood while its content does not change. -/
lemma Stands.frame {stage : Stage} {handed : Option FileResult}
    (h : Stands settings write start tree path stage handed)
    (hsame : ∀ place, start.resolve path = .ok place → after.content? place = tree.content? place) :
    Stands settings write start after path stage handed := by
  have hagrees (hagree : AgreeAt start tree path) : AgreeAt start after path :=
    fun place hplace => (hsame place hplace).trans (hagree place hplace)
  have hfinishes (hfinished : Finished settings write start tree path) : Finished settings write start after path :=
    fun place hplace => (hsame place hplace).trans (hfinished place hplace)
  cases h with
  | waiting hagree => exact .waiting (hagrees hagree)
  | taken hagree => exact .taken (hagrees hagree)
  | examined hagree => exact .examined (hagrees hagree)
  | emptied hwrite houtput hplace => exact .emptied hwrite houtput hplace
  | settled hfinished => exact .settled (hfinishes hfinished)
  | collected hfinished => exact .collected (hfinishes hfinished)

/-! ### How a migration settles -/

lemma Finished.of_kept (hkept : (processFile settings write start path).2.2 = start)
    (hagree : AgreeAt start tree path) : Finished settings write start tree path := by
  intro place hplace
  rw [hagree place hplace, ← content?_processFile hplace, hkept]

lemma processFile_of_idle (hidle : write = false ∨ (migrateFile settings start path).1.output? = none) :
    (processFile settings write start path).1 = (migrateFile settings start path).1 ∧
      (processFile settings write start path).2.2 = start := by
  rw [fst_processFile, tree_processFile]
  rcases hidle with rfl | houtput
  · exact ⟨rfl, rfl⟩
  · have hother (outcome : Route.Outcome) (output : String) :
        (migrateFile settings start path).1.fate ≠ .migrated outcome output := by
      intro hfate
      rw [FileResult.output?, hfate] at houtput
      cases houtput
    rw [saveResult_of_other hother, ite_self, ite_self]
    exact ⟨rfl, rfl⟩

/-- A file that cannot be opened for writing is refused wherever the others are. -/
lemma settles_of_refused {fault : FileTree.Fault} (hshape : SameShape start tree) (hwrite : write = true)
    (houtput : (migrateFile settings start path).1.output?.isSome) (hfault : tree.write path [] = .error fault) :
    (saveResult tree (migrateFile settings start path).1).1 = (processFile settings write start path).1 ∧
      (processFile settings write start path).2.2 = start := by
  obtain ⟨outcome, output, hfate⟩ := exists_fate_of_output houtput
  have halone : start.write (migrateFile settings start path).1.path [] = .error fault := by
    rw [path_migrateFile]
    exact hshape.symm.write_eq_error hfault []
  have hsave := saveResult_of_error hfate halone
  rw [saveResult_congr hshape, fst_processFile, tree_processFile, if_pos hwrite, if_pos hwrite, hsave]
  exact ⟨rfl, rfl⟩

/-- The new text replaces whatever the file holds when it is saved. -/
lemma settles_of_saved (hshape : SameShape start tree) (hwrite : write = true)
    (houtput : (migrateFile settings start path).1.output?.isSome) (hplace : Writable start path place) :
    (saveResult tree (migrateFile settings start path).1).1 = (processFile settings write start path).1 ∧
      Finished settings write start (saveResult tree (migrateFile settings start path).1).2 path := by
  obtain ⟨outcome, output, hfate⟩ := exists_fate_of_output houtput
  have hhere : Writable tree (migrateFile settings start path).1.path place := by
    rw [path_migrateFile]
    exact hplace.transfer hshape
  refine ⟨?_, fun other hother => ?_⟩
  · rw [saveResult_congr hshape, fst_processFile, if_pos hwrite]
  · obtain rfl : place = other := Except.ok.inj (hplace.resolve.symm.trans hother)
    have halone : saveResult start (migrateFile settings start path).1 =
        ((migrateFile settings start path).1, start.put place (Text.Utf8.encode output.toList)) :=
      saveResult_of_writable hfate (by rwa [path_migrateFile])
    obtain ⟨now, hnow⟩ := Option.isSome_iff_exists.mp hhere.isSome
    obtain ⟨once, honce⟩ := Option.isSome_iff_exists.mp hplace.isSome
    rw [← content?_processFile hother, tree_processFile, if_pos hwrite, halone, saveResult_of_writable hfate hhere,
      content?_put, content?_put, if_pos rfl, if_pos rfl, hnow, honce]
    rfl

/-! ### A step among others -/

/-- A step of a file goes on with its own migration. -/
lemma Stands.step {stage stage' : Stage} {handed given : Option FileResult}
    (h : Stands settings write start tree path stage handed) (hshape : SameShape start tree)
    (hstep : Step settings write tree path stage stage' after given) :
    Stands settings write start after path stage' (given <|> handed) := by
  cases h with
  | waiting hagree =>
    cases hstep
    exact .taken hagree
  | taken hagree =>
    cases hstep
    rw [migrateFile_congr hshape hagree]
    exact .examined hagree
  | examined hagree =>
    cases hstep with
    | keep hidle =>
      obtain ⟨hresult, hkept⟩ := processFile_of_idle hidle
      rw [← hresult]
      exact .settled (.of_kept hkept hagree)
    | refuse hwrite houtput hfault =>
      rw [path_migrateFile] at hfault
      obtain ⟨hresult, hkept⟩ := settles_of_refused hshape hwrite houtput hfault
      rw [hresult]
      exact .settled (.of_kept hkept hagree)
    | empty hwrite houtput hafter =>
      rw [path_migrateFile] at hafter
      obtain ⟨place, hplace, -⟩ := write_eq_ok_iff.mp hafter
      exact .emptied hwrite houtput (hplace.transfer hshape.symm)
  | emptied hwrite houtput hplace =>
    cases hstep
    obtain ⟨hresult, hfinished⟩ := settles_of_saved hshape hwrite houtput hplace
    rw [hresult]
    exact .settled hfinished
  | settled hfinished =>
    cases hstep
    exact .collected hfinished
  | collected hfinished => cases hstep

/-- A step leaves every other file as it is. -/
lemma Stands.others {stage stage' : Stage} {handed given : Option FileResult}
    (h : Stands settings write start tree path stage handed) (hshape : SameShape start tree)
    (hstep : Step settings write tree path stage stage' after given) :
    SameShape tree after ∧ ∀ place, start.resolve path ≠ .ok place → after.content? place = tree.content? place := by
  cases hstep with
  | empty _ _ hafter =>
    cases h
    rw [path_migrateFile] at hafter
    obtain ⟨own, hown, rfl⟩ := write_eq_ok_iff.mp hafter
    refine ⟨sameShape_put .., fun place hplace => (content?_put ..).trans (if_neg fun hsame => hplace ?_)⟩
    rw [hsame, ← hshape.resolve]
    exact hown.resolve
  | save =>
    cases h
    refine ⟨sameShape_saveResult .., fun place hplace => content?_saveResult_other ?_⟩
    rwa [path_migrateFile, hshape.resolve]
  | _ => exact ⟨.refl tree, fun _ _ => rfl⟩

/-! ### All files -/

/-- Where a batch is that was begun at `start`: every file stands at its stage, and nothing else has changed. -/
structure Underway (settings : Settings) (write : Bool) (start : FileTree) (paths : List FilePath)
    (progress : Progress) : Prop where
  shape : SameShape start progress.tree
  tasks : progress.tasks.map Task.path = paths
  stands : ∀ index task, progress.tasks[index]? = some task →
    Stands settings write start progress.tree task.path task.stage (progress.results.lookup index)
  others : ∀ place, (∀ path ∈ paths, start.resolve path ≠ .ok place) →
    progress.tree.content? place = start.content? place

lemma underway_start (settings : Settings) (write : Bool) (start : FileTree) (paths : List FilePath) :
    Underway settings write start paths (.start start paths) where
  shape := .refl start
  tasks := by rw [Progress.start, List.map_map]; exact List.map_id _
  stands := by
    intro index task hfound
    rw [Progress.start, List.getElem?_map, Option.map_eq_some_iff] at hfound
    obtain ⟨path, -, rfl⟩ := hfound
    exact .waiting fun _ _ => rfl
  others _ _ := rfl

/-- Two files of a batch are not the same file. -/
lemma resolve_ne_of_nodup (hdistinct : (placesOf start paths).Nodup) {i j : Nat} {own other : FilePath}
    (hown : paths[i]? = some own) (hother : paths[j]? = some other) (hne : i ≠ j)
    (hplace : start.resolve other = .ok place) : start.resolve own ≠ .ok place := by
  induction paths generalizing i j with
  | nil => cases hown
  | cons path rest ih =>
    obtain ⟨hrest, hapart⟩ := nodup_placesOf_cons hdistinct
    cases i with
    | zero =>
      obtain rfl := Option.some.inj hown
      cases j with
      | zero => exact absurd rfl hne
      | succ j => exact hapart other (List.mem_of_getElem? hother) place hplace
    | succ i =>
      cases j with
      | zero =>
        obtain rfl := Option.some.inj hother
        exact fun hsame => hapart own (List.mem_of_getElem? hown) place hsame hplace
      | succ j => exact ih hrest hown hother fun h => hne (congrArg (· + 1) h)

lemma lookup_given_self (given : Option FileResult) (results : List (Nat × FileResult)) (index : Nat) :
    ((given.map (index, ·)).toList ++ results).lookup index = (given <|> results.lookup index) := by
  cases given with
  | none => rfl
  | some result => exact List.lookup_cons_self

lemma lookup_given_of_ne {given : Option FileResult} {results : List (Nat × FileResult)} {other : Nat}
    (h : other ≠ index) : ((given.map (index, ·)).toList ++ results).lookup other = results.lookup other := by
  cases given with
  | none => rfl
  | some result =>
    change List.lookup other ((index, result) :: results) = _
    rw [List.lookup_cons, beq_false_of_ne h]

lemma Underway.getElem? (h : Underway settings write start paths progress) (i : Nat) :
    paths[i]? = progress.tasks[i]?.map Task.path := by
  rw [← h.tasks, List.getElem?_map]

lemma Underway.advance (hdistinct : (placesOf start paths).Nodup) (h : Underway settings write start paths progress)
    (hadvance : progress.advance settings write workers index = some next) :
    Underway settings write start paths next := by
  obtain ⟨task, stage, given, hturn⟩ := advance_eq_some hadvance
  have hstands := h.stands index task hturn.found
  obtain ⟨hshape, hothers⟩ := hstands.others h.shape hturn.step
  have hpath : paths[index]? = some task.path := by rw [h.getElem?, hturn.found, Option.map_some]
  refine ⟨h.shape.trans hshape, ?_, fun i other hfound => ?_, fun place hnone => ?_⟩
  · refine List.ext_getElem? fun i => ?_
    rw [hturn.tasks, h.getElem?, List.getElem?_map, List.getElem?_modify, Option.map_eq_map, Option.map_map]
    congr 1
    funext other
    rw [Function.comp_apply]
    split <;> rfl
  · rw [hturn.tasks, List.getElem?_modify] at hfound
    obtain ⟨before, hbefore, rfl⟩ := Option.map_eq_some_iff.mp hfound
    rw [hturn.results]
    by_cases hi : index = i
    · subst hi
      obtain rfl := Option.some.inj (hturn.found.symm.trans hbefore)
      rw [if_pos rfl, lookup_given_self]
      exact hstands.step h.shape hturn.step
    · rw [if_neg hi, lookup_given_of_ne fun hsame => hi hsame.symm]
      have hother : paths[i]? = some before.path := by rw [h.getElem?, hbefore, Option.map_some]
      exact (h.stands i before hbefore).frame fun place hplace =>
        hothers place (resolve_ne_of_nodup hdistinct hpath hother hi hplace)
  · rw [hothers place (hnone task.path (List.mem_of_getElem? hpath)), h.others place hnone]

/-! ### The end of a batch -/

lemma mapM_range' {α : Type} {f : Nat → Option α} {l : List α} {first : Nat}
    (h : ∀ i a, l[i]? = some a → f (first + i) = some a) : (List.range' first l.length).mapM f = some l := by
  induction l generalizing first with
  | nil => rfl
  | cons a rest ih =>
    have hfirst : f first = some a := h 0 a rfl
    have hrest : (List.range' (first + 1) rest.length).mapM f = some rest := ih fun i b hb => by
      rw [Nat.add_assoc, Nat.add_comm 1]
      exact h (i + 1) b hb
    rw [List.length_cons, List.range'_succ, List.mapM_cons, hfirst, hrest]
    rfl

lemma Underway.collected (h : Underway settings write start paths progress) (hdone : progress.isDone = true) {i : Nat}
    (hpath : paths[i]? = some path) :
    progress.results.lookup i = some (processFile settings write start path).1 ∧
      Finished settings write start progress.tree path := by
  rw [h.getElem?] at hpath
  obtain ⟨task, hfound, rfl⟩ := Option.map_eq_some_iff.mp hpath
  have hcollected : task.stage = .collected :=
    of_decide_eq_true (List.all_eq_true.mp hdone task (List.mem_of_getElem? hfound))
  have hstands := h.stands i task hfound
  rw [hcollected] at hstands
  generalize progress.results.lookup i = handed at hstands
  cases hstands with
  | collected hfinished => exact ⟨rfl, hfinished⟩

lemma Underway.batch?_eq (h : Underway settings write start paths progress) (hdone : progress.isDone = true) :
    progress.batch? = some ⟨paths.map fun path => (processFile settings write start path).1⟩ := by
  have hlength : progress.tasks.length = (paths.map fun path => (processFile settings write start path).1).length := by
    rw [← h.tasks, List.length_map, List.length_map]
  rw [Progress.batch?, hlength, List.range_eq_range', mapM_range', Option.map_some]
  intro i result hresult
  rw [List.getElem?_map, Option.map_eq_some_iff] at hresult
  obtain ⟨path, hpath, rfl⟩ := hresult
  rw [Nat.zero_add]
  exact (h.collected hdone hpath).1

lemma Underway.eachMigrated (h : Underway settings write start paths progress) (hdone : progress.isDone = true) :
    EachMigrated settings write paths start progress.tree where
  shape := h.shape
  files path hpath := by
    obtain ⟨i, hi⟩ := List.mem_iff_getElem?.mp hpath
    exact (h.collected hdone hi).2
  others := h.others

/-- A folder with a page and a file that is no text. -/
def mixedTree : FileTree where
  files := [
    (["a.tsx"], Text.Utf8.encode "export const loader = () => 1;\nexport default x;\n".toList),
    (["b.tsx"], [255])]

lemma discover_mixedTree : discover defaultSettings mixedTree [{}] = [⟨"", ["a.tsx"]⟩, ⟨"", ["b.tsx"]⟩] := by
  have hfound : [({} : FilePath)].flatMap (fun path => (filesAt defaultSettings mixedTree path).getD []) =
      [⟨"", ["a.tsx"]⟩, ⟨"", ["b.tsx"]⟩] := by decide +kernel
  rw [discover, hfound, sorted, List.mergeSort_of_pairwise (by decide)]
  rfl

end RouteMigration.Proofs
