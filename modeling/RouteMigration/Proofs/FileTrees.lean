import Mathlib.Data.List.Basic
import Mathlib.Tactic.Common
import RouteMigration.Batch.Migrate

/-!
# Files that change

Writing a file leaves everything about a tree as it was but the content of that one file. So the same paths lead to
the same places afterwards, and the migration of a file sees nothing of what happens to the others.
-/

namespace RouteMigration.Proofs

variable {tree tree' tree'' : FileTree} {path : FilePath} {place other : Place} {bytes : List UInt8}

/-! ### Places -/

/-- Trees that differ in the contents of their files only. -/
structure SameShape (tree tree' : FileTree) : Prop where
  places : tree'.files.map Prod.fst = tree.files.map Prod.fst
  folders : tree'.folders = tree.folders
  here : tree'.here = tree.here
  unreadable : tree'.unreadable = tree.unreadable
  unwritable : tree'.unwritable = tree.unwritable

@[refl] lemma SameShape.refl (tree : FileTree) : SameShape tree tree :=
  ⟨rfl, rfl, rfl, rfl, rfl⟩

lemma SameShape.trans (h : SameShape tree tree') (h' : SameShape tree' tree'') : SameShape tree tree'' :=
  ⟨h'.places.trans h.places, h'.folders.trans h.folders, h'.here.trans h.here, h'.unreadable.trans h.unreadable,
    h'.unwritable.trans h.unwritable⟩

lemma SameShape.symm (h : SameShape tree tree') : SameShape tree' tree :=
  ⟨h.places.symm, h.folders.symm, h.here.symm, h.unreadable.symm, h.unwritable.symm⟩

lemma isSome_content? (tree : FileTree) (place : Place) :
    (tree.content? place).isSome = (tree.files.map Prod.fst).any (· = place) := by
  rw [FileTree.content?, Option.isSome_map, List.isSome_find?, List.any_map]
  rfl

lemma isFolder_eq (tree : FileTree) (place : Place) : tree.isFolder place =
    (tree.folders.any (place.isPrefixOf ·) || place.isPrefixOf tree.here ||
      (tree.files.map Prod.fst).any fun file => place.isPrefixOf file && place ≠ file) := by
  rw [FileTree.isFolder, List.any_map]
  rfl

namespace SameShape

lemma isSome_content? (h : SameShape tree tree') (place : Place) :
    (tree'.content? place).isSome = (tree.content? place).isSome := by
  rw [Proofs.isSome_content?, Proofs.isSome_content?, h.places]

lemma isFolder (h : SameShape tree tree') (place : Place) : tree'.isFolder place = tree.isFolder place := by
  rw [isFolder_eq, isFolder_eq, h.places, h.folders, h.here]

lemma follow (h : SameShape tree tree') (segments : List String) (place : Place) :
    tree'.follow place segments = tree.follow place segments := by
  induction segments generalizing place with
  | nil => rfl
  | cons segment rest ih => simp only [FileTree.follow, h.isSome_content?, h.isFolder, ih]

lemma resolve (h : SameShape tree tree') (path : FilePath) : tree'.resolve path = tree.resolve path := by
  rw [FileTree.resolve, FileTree.resolve, h.follow, h.here]

end SameShape

/-! ### Writing -/

lemma sameShape_put (tree : FileTree) (place : Place) (bytes : List UInt8) : SameShape tree (tree.put place bytes) where
  places := by
    rw [FileTree.put, List.map_map]
    refine List.map_congr_left fun file _ => ?_
    rw [Function.comp_apply]
    split
    · rename_i hplace
      exact hplace.symm
    · rfl
  folders := rfl
  here := rfl
  unreadable := rfl
  unwritable := rfl

lemma content?_put (tree : FileTree) (place other : Place) (bytes : List UInt8) :
    (tree.put place bytes).content? other =
      if other = place then (tree.content? place).map fun _ => bytes else tree.content? other := by
  have hfind : (tree.put place bytes).content? other =
      (tree.files.find? fun file => file.1 = other).map fun file => if file.1 = place then bytes else file.2 := by
    rw [FileTree.content?, FileTree.put, List.find?_map, Option.map_map]
    congr 1
    · funext file
      rw [Function.comp_apply]
      split <;> rfl
    · congr 1
      funext file
      rw [Function.comp_apply]
      split
      · rename_i hplace
        rw [hplace]
      · rfl
  rw [hfind]
  split
  · rename_i hother
    subst hother
    rw [FileTree.content?, Option.map_map]
    refine Option.map_congr fun file hfile => ?_
    have hplace : file.1 = other := by simpa using List.find?_some hfile
    rw [if_pos hplace, Function.comp_apply]
  · rename_i hother
    refine Option.map_congr fun file hfile => ?_
    have hplace : file.1 = other := by simpa using List.find?_some hfile
    rw [if_neg fun h => hother (hplace.symm.trans h)]

/-- The file that a path leads to can be opened for writing. -/
structure Writable (tree : FileTree) (path : FilePath) (place : Place) : Prop where
  resolve : tree.resolve path = .ok place
  isSome : (tree.content? place).isSome
  permitted : place ∉ tree.unwritable

lemma Writable.write_eq (h : Writable tree path place) (bytes : List UInt8) :
    tree.write path bytes = .ok (tree.put place bytes) := by
  have hfile : ¬(tree.content? place).isNone := by
    rw [← Option.not_isSome, h.isSome]
    exact Bool.false_ne_true
  rw [FileTree.write, h.resolve]
  exact (if_neg hfile).trans (if_neg h.permitted)

lemma write_eq_ok_iff : tree.write path bytes = .ok tree' ↔
    ∃ place, Writable tree path place ∧ tree' = tree.put place bytes := by
  refine ⟨fun h => ?_, fun ⟨place, hplace, hput⟩ => hput ▸ hplace.write_eq bytes⟩
  rw [FileTree.write] at h
  split at h
  · cases h
  · rename_i place hresolve
    split at h
    · cases h
    · rename_i hfile
      split at h
      · cases h
      · rename_i hpermitted
        exact ⟨place, ⟨hresolve, by simpa [Option.isSome_iff_ne_none] using hfile, hpermitted⟩, (Except.ok.inj h).symm⟩

lemma Writable.transfer (hwrite : Writable tree path place) (h : SameShape tree tree') : Writable tree' path place where
  resolve := (h.resolve path).trans hwrite.resolve
  isSome := (h.isSome_content? place).trans hwrite.isSome
  permitted := h.unwritable ▸ hwrite.permitted

/-- Whether a file can be written does not depend on what is in the files. -/
lemma SameShape.write_eq_error {fault : FileTree.Fault} (h : SameShape tree tree')
    (hwrite : tree.write path bytes = .error fault) (bytes' : List UInt8) : tree'.write path bytes' = .error fault := by
  rw [FileTree.write] at hwrite ⊢
  rw [h.resolve]
  cases hresolve : tree.resolve path with
  | error cause =>
    rw [hresolve] at hwrite
    exact hwrite
  | ok place =>
    rw [hresolve] at hwrite
    dsimp only at hwrite ⊢
    rw [← Option.not_isSome, h.isSome_content?, Option.not_isSome, h.unwritable]
    split at hwrite
    · rename_i hfile
      rw [if_pos hfile]
      exact hwrite
    · rename_i hfile
      split at hwrite
      · rename_i hdenied
        rw [if_neg hfile, if_pos hdenied]
        exact hwrite
      · cases hwrite

/-! ### Reading -/

/-- A path leads to the same content in both trees. -/
def AgreeAt (tree tree' : FileTree) (path : FilePath) : Prop :=
  ∀ place, tree.resolve path = .ok place → tree'.content? place = tree.content? place

lemma AgreeAt.read (h : AgreeAt tree tree' path) (hshape : SameShape tree tree') :
    tree'.read path = tree.read path := by
  rw [FileTree.read, FileTree.read, hshape.resolve]
  cases hresolve : tree.resolve path with
  | error cause => rfl
  | ok place =>
    dsimp only
    rw [h place hresolve, hshape.unreadable]

end RouteMigration.Proofs
