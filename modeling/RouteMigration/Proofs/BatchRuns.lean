import RouteMigration.Proofs.FileTrees

/-!
# Batches of files

What becomes of a file is decided by its own content and by whether it can be written. When its migration is done it
holds its new text or what it held before, and no other file has changed. So the files of a batch may be migrated one
after the other: each comes out as if it were the only one, as long as no two paths lead to the same file.
-/

namespace RouteMigration.Proofs
open Batch

variable {settings : Settings} {write : Bool} {tree tree' : FileTree} {path : FilePath} {paths : List FilePath}
variable {place : Place} {result : FileResult}

/-- What a file holds in the end that held `bytes` before: its new text if it has been migrated. -/
def leftIn (write : Bool) (result : FileResult) (bytes : List UInt8) : List UInt8 :=
  if write && result.status = .migrated then Text.Utf8.encode (result.output?.getD "").toList else bytes

/-! ### A single file -/

lemma path_migrateFile : (migrateFile settings tree path).1.path = path := by
  unfold migrateFile
  split
  · rfl
  · split
    · rfl
    · split <;> rfl

lemma fate_migrateFile {outcome : Route.Outcome} {output error : String} :
    (migrateFile settings tree path).1.fate ≠ .unwritten outcome output error := by
  unfold migrateFile
  split
  · nofun
  · split
    · nofun
    · split
      · nofun
      · nofun

lemma exists_fate_of_output (h : (migrateFile settings tree path).1.output?.isSome) :
    ∃ outcome output, (migrateFile settings tree path).1.fate = .migrated outcome output := by
  rw [FileResult.output?] at h
  split at h
  · rename_i hfate
    exact ⟨_, _, hfate⟩
  · rename_i hfate
    exact absurd hfate fate_migrateFile
  · cases h

lemma migrateFile_congr (hshape : SameShape tree tree') (h : AgreeAt tree tree' path) :
    migrateFile settings tree' path = migrateFile settings tree path := by
  unfold migrateFile readText
  rw [h.read hshape]

lemma leftIn_false : leftIn false result = id :=
  rfl

/-- A file that is not migrated keeps its content. -/
lemma leftIn_of_other (h : ∀ outcome output, result.fate ≠ .migrated outcome output) : leftIn write result = id := by
  funext bytes
  refine if_neg fun hmigrated => ?_
  have hstatus : result.status = .migrated := of_decide_eq_true (Bool.and_eq_true_iff.mp hmigrated).2
  rw [FileResult.status] at hstatus
  split at hstatus
  · cases hstatus
  · cases hstatus
  · cases hstatus
  · rename_i hfate
    exact h _ _ hfate

/-! ### Saving a result -/

section Saving

variable {outcome : Route.Outcome} {output : String}

lemma saveResult_of_writable (hfate : result.fate = .migrated outcome output) (h : Writable tree result.path place) :
    saveResult tree result = (result, tree.put place (Text.Utf8.encode output.toList)) := by
  rw [saveResult, hfate]
  dsimp only
  rw [h.write_eq]

lemma saveResult_of_error {bytes : List UInt8} {fault : FileTree.Fault} (hfate : result.fate = .migrated outcome output)
    (h : tree.write result.path bytes = .error fault) :
    saveResult tree result = ({ result with fate := .unwritten outcome output fault.message }, tree) := by
  rw [saveResult, hfate]
  dsimp only
  rw [(SameShape.refl tree).write_eq_error h]

lemma saveResult_of_other (h : ∀ outcome output, result.fate ≠ .migrated outcome output) :
    saveResult tree result = (result, tree) := by
  rw [saveResult]
  split
  · rename_i hfate
    exact absurd hfate (h _ _)
  · rfl

lemma leftIn_of_migrated (hfate : result.fate = .migrated outcome output) (bytes : List UInt8) :
    leftIn true result bytes = Text.Utf8.encode output.toList := by
  rw [leftIn, FileResult.status, FileResult.output?, hfate]
  rfl

/-- How the result of a file is saved. -/
inductive Saved (tree : FileTree) (result : FileResult) : FileResult × FileTree → Prop where
  | written {outcome : Route.Outcome} {output : String} {place : Place} (hfate : result.fate = .migrated outcome output)
    (hplace : Writable tree result.path place) :
    Saved tree result (result, tree.put place (Text.Utf8.encode output.toList))
  | refused {outcome : Route.Outcome} {output : String} {fault : FileTree.Fault}
    (hfate : result.fate = .migrated outcome output) (hfault : tree.write result.path [] = .error fault) :
    Saved tree result ({ result with fate := .unwritten outcome output fault.message }, tree)
  | kept (hother : ∀ outcome output, result.fate ≠ .migrated outcome output) : Saved tree result (result, tree)

lemma saved_saveResult (tree : FileTree) (result : FileResult) : Saved tree result (saveResult tree result) := by
  by_cases hmigrated : ∃ outcome output, result.fate = .migrated outcome output
  · obtain ⟨outcome, output, hfate⟩ := hmigrated
    cases hwrite : tree.write result.path [] with
    | ok after =>
      obtain ⟨place, hplace, -⟩ := write_eq_ok_iff.mp hwrite
      rw [saveResult_of_writable hfate hplace]
      exact .written hfate hplace
    | error fault =>
      rw [saveResult_of_error hfate hwrite]
      exact .refused hfate hwrite
  · have hother : ∀ outcome output, result.fate ≠ .migrated outcome output :=
      fun outcome output hfate => hmigrated ⟨outcome, output, hfate⟩
    rw [saveResult_of_other hother]
    exact .kept hother

end Saving

lemma saveResult_congr (hshape : SameShape tree tree') : (saveResult tree' result).1 = (saveResult tree result).1 := by
  have hsaved := saved_saveResult tree result
  generalize saveResult tree result = saved at hsaved ⊢
  cases hsaved with
  | written hfate hplace => rw [saveResult_of_writable hfate (hplace.transfer hshape)]
  | refused hfate hfault => rw [saveResult_of_error hfate (hshape.write_eq_error hfault [])]
  | kept hother => rw [saveResult_of_other hother]

lemma sameShape_saveResult (tree : FileTree) (result : FileResult) : SameShape tree (saveResult tree result).2 := by
  have hsaved := saved_saveResult tree result
  generalize saveResult tree result = saved at hsaved ⊢
  cases hsaved with
  | written _ _ => exact sameShape_put ..
  | refused _ _ => rfl
  | kept _ => rfl

lemma content?_saveResult_other (h : tree.resolve result.path ≠ .ok place) :
    (saveResult tree result).2.content? place = tree.content? place := by
  have hsaved := saved_saveResult tree result
  generalize saveResult tree result = saved at hsaved ⊢
  cases hsaved with
  | written _ hplace =>
    refine (content?_put ..).trans (if_neg fun hsame => h ?_)
    rw [hsame]
    exact hplace.resolve
  | refused _ _ => rfl
  | kept _ => rfl

lemma content?_saveResult (h : tree.resolve result.path = .ok place) :
    (saveResult tree result).2.content? place = (tree.content? place).map (leftIn true (saveResult tree result).1) := by
  have hsaved := saved_saveResult tree result
  generalize saveResult tree result = saved at hsaved ⊢
  cases hsaved with
  | @written _ _ own hfate hplace =>
    obtain rfl : own = place := Except.ok.inj (hplace.resolve.symm.trans h)
    refine (content?_put ..).trans ((if_pos rfl).trans ?_)
    exact Option.map_congr fun bytes _ => (leftIn_of_migrated hfate bytes).symm
  | refused _ _ => exact (congrFun Option.map_id _).symm
  | kept hother =>
    rw [leftIn_of_other hother]
    exact (congrFun Option.map_id _).symm

/-! ### Processing a file -/

lemma fst_processFile (settings : Settings) (write : Bool) (tree : FileTree) (path : FilePath) :
    (processFile settings write tree path).1 =
      if write then (saveResult tree (migrateFile settings tree path).1).1 else (migrateFile settings tree path).1 := by
  cases write <;> rfl

lemma tree_processFile (settings : Settings) (write : Bool) (tree : FileTree) (path : FilePath) :
    (processFile settings write tree path).2.2 =
      if write then (saveResult tree (migrateFile settings tree path).1).2 else tree := by
  cases write <;> rfl

/-- The result for a file depends on what is in this file only. -/
lemma fst_processFile_congr (hshape : SameShape tree tree') (h : AgreeAt tree tree' path) :
    (processFile settings write tree' path).1 = (processFile settings write tree path).1 := by
  rw [fst_processFile, fst_processFile, migrateFile_congr hshape h, saveResult_congr hshape]

lemma sameShape_processFile : SameShape tree (processFile settings write tree path).2.2 := by
  rw [tree_processFile]
  split
  · exact sameShape_saveResult ..
  · rfl

lemma content?_processFile_other (h : tree.resolve path ≠ .ok place) :
    (processFile settings write tree path).2.2.content? place = tree.content? place := by
  rw [tree_processFile]
  split
  · exact content?_saveResult_other (by rwa [path_migrateFile])
  · rfl

lemma content?_processFile (h : tree.resolve path = .ok place) :
    (processFile settings write tree path).2.2.content? place =
      (tree.content? place).map (leftIn write (processFile settings write tree path).1) := by
  rw [tree_processFile, fst_processFile]
  cases write with
  | true => exact content?_saveResult (by rwa [path_migrateFile])
  | false => rw [leftIn_false, Option.map_id]; rfl

/-! ### One file after the other -/

/-- The files that paths lead to. -/
def placesOf (tree : FileTree) (paths : List FilePath) : List Place :=
  paths.filterMap fun path => (tree.resolve path).toOption

lemma mem_placesOf : place ∈ placesOf tree paths ↔ ∃ path ∈ paths, tree.resolve path = .ok place := by
  rw [placesOf, List.mem_filterMap]
  refine exists_congr fun path => and_congr_right fun _ => ?_
  cases tree.resolve path with
  | error cause => simp [Except.toOption]
  | ok own => simp [Except.toOption]

lemma placesOf_cons_of_ok (h : tree.resolve path = .ok place) :
    placesOf tree (path :: paths) = place :: placesOf tree paths :=
  List.filterMap_cons_some (by rw [h]; rfl)

lemma placesOf_cons_of_error {cause : FileTree.Cause} (h : tree.resolve path = .error cause) :
    placesOf tree (path :: paths) = placesOf tree paths :=
  List.filterMap_cons_none (by rw [h]; rfl)

lemma SameShape.placesOf (h : SameShape tree tree') (paths : List FilePath) :
    placesOf tree' paths = placesOf tree paths := by
  rw [Proofs.placesOf, Proofs.placesOf]
  exact List.filterMap_congr fun path _ => congrArg _ (h.resolve path)

lemma nodup_placesOf_cons (h : (placesOf tree (path :: paths)).Nodup) :
    (placesOf tree paths).Nodup ∧ ∀ other ∈ paths, ∀ place, tree.resolve other = .ok place →
      tree.resolve path ≠ .ok place := by
  cases hresolve : tree.resolve path with
  | error cause =>
    rw [placesOf_cons_of_error hresolve] at h
    exact ⟨h, fun _ _ _ _ => nofun⟩
  | ok own =>
    rw [placesOf_cons_of_ok hresolve, List.nodup_cons] at h
    refine ⟨h.2, fun other hother place hplace hsame => h.1 ?_⟩
    rw [Except.ok.inj hsame]
    exact mem_placesOf.mpr ⟨other, hother, hplace⟩

/-- Each file holds what its own migration leaves in it, and what no path leads to is as it was. -/
structure EachMigrated (settings : Settings) (write : Bool) (paths : List FilePath) (tree after : FileTree) : Prop where
  shape : SameShape tree after
  files : ∀ path ∈ paths, ∀ place, tree.resolve path = .ok place →
    after.content? place = (tree.content? place).map (leftIn write (processFile settings write tree path).1)
  others : ∀ place, (∀ path ∈ paths, tree.resolve path ≠ .ok place) → after.content? place = tree.content? place

/-- A file is migrated, and the rest after it. -/
lemma EachMigrated.cons {last : FileTree} (hdistinct : (placesOf tree (path :: paths)).Nodup)
    (h : EachMigrated settings write paths (processFile settings write tree path).2.2 last) :
    EachMigrated settings write (path :: paths) tree last := by
  have hshape := @sameShape_processFile settings write tree path
  obtain ⟨-, hapart⟩ := nodup_placesOf_cons hdistinct
  refine ⟨hshape.trans h.shape, fun other hother place hplace => ?_, fun place hnone => ?_⟩
  · have hplace' := (hshape.resolve other).trans hplace
    rcases List.mem_cons.mp hother with rfl | hrest
    · -- the other files leave this one alone
      have hkept := h.others place fun other hother hsame =>
        hapart other hother place ((hshape.resolve other).symm.trans hsame) hplace
      rw [hkept, content?_processFile hplace]
    · have hagree : AgreeAt tree (processFile settings write tree path).2.2 other :=
        fun place hplace => content?_processFile_other (hapart other hrest place hplace)
      rw [h.files other hrest place hplace', fst_processFile_congr hshape hagree, hagree place hplace]
  · rw [h.others place fun other hother hsame => hnone other (List.mem_cons_of_mem _ hother)
      ((hshape.resolve other).symm.trans hsame)]
    exact content?_processFile_other (hnone path List.mem_cons_self)

/-- Files that are migrated one after the other come out as they would alone. -/
theorem migrateFiles_eq (hdistinct : (placesOf tree paths).Nodup) :
    (migrateFiles settings write tree paths).1 = paths.map (fun path => (processFile settings write tree path).1) ∧
      EachMigrated settings write paths tree (migrateFiles settings write tree paths).2.2 := by
  induction paths generalizing tree with
  | nil => exact ⟨rfl, .refl tree, fun _ hmem => absurd hmem List.not_mem_nil, fun _ _ => rfl⟩
  | cons path rest ih =>
    have hshape := @sameShape_processFile settings write tree path
    obtain ⟨hrest, hapart⟩ := nodup_placesOf_cons hdistinct
    obtain ⟨hresults, htree⟩ := @ih (processFile settings write tree path).2.2 (by rwa [hshape.placesOf])
    refine ⟨?_, htree.cons hdistinct⟩
    have hsame : ∀ other ∈ rest, (processFile settings write (processFile settings write tree path).2.2 other).1 =
        (processFile settings write tree other).1 := fun other hother =>
      fst_processFile_congr hshape fun place hplace => content?_processFile_other (hapart other hother place hplace)
    rw [migrateFiles, List.map_cons, ← List.map_congr_left hsame, ← hresults]

end RouteMigration.Proofs
