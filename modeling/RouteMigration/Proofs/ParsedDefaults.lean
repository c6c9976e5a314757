import RouteMigration.Proofs.Conversions
import RouteMigration.Proofs.StatementNames

/-!
# Default exports of parsed modules

A module that was read from source text exports by default a function, a class or an expression. None of
these declares variables or imports anything.
-/

namespace RouteMigration.Proofs
open Syntax Route Grammar

variable (source : List Char)

lemma isPlain_nodeOf (tree : Tree) : IsPlain (OfTree.nodeOf source (tree, OfTree.convert source tree)).form := by
  obtain ⟨form, hread, hstatement⟩ := reads_nodeOf source tree
  rw [hread]
  constructor
  · rintro kind declarators rfl
    cases hstatement
  · rintro declaration rfl
    cases hstatement

lemma isPlain_class {tree : Tree} {node : Node} (h : OfTree.classDeclaration source tree = some node) :
    IsPlain node.form := by
  unfold OfTree.classDeclaration at h
  dsimp only at h
  obtain ⟨start, -, h⟩ := Option.bind_eq_some_iff.mp h
  cases h
  exact ⟨nofun, nofun⟩

lemma isPlain_defaultExport {tree : Tree} {node : Node} (h : OfTree.defaultExport source tree = some node) :
    IsPlain node.form := by
  unfold OfTree.defaultExport at h
  dsimp only at h
  obtain ⟨target, -, h⟩ := Option.bind_eq_some_iff.mp h
  split_ifs at h with hfunction hclass hdeclared
  · obtain ⟨form, -, rfl⟩ := Option.map_eq_some_iff.mp h
    exact ⟨nofun, nofun⟩
  · exact isPlain_class source h
  · cases h
    exact isPlain_nodeOf source target

/-- A statement that is no export is no default export. -/
lemma declaration_ne_exportDefault (tree : Tree) (node : Node) :
    (OfTree.declaration source tree).form ≠ .exportDefault node := by
  intro h
  have hnone := (readsAs_declaration source tree).2
  rw [h] at hnone
  cases hnone

lemma plainDefault_statement (tree : Tree) : PlainDefault (OfTree.statement source tree) := by
  intro declaration h
  unfold OfTree.statement at h
  split_ifs at h with hexport
  · cases hform : OfTree.exportForm source tree with
    | none =>
      rw [hform] at h
      cases h
    | some form =>
      rw [hform] at h
      obtain rfl : form = .exportDefault declaration := h
      unfold OfTree.exportForm at hform
      split at hform
      · obtain ⟨found, hfound, heq⟩ := Option.map_eq_some_iff.mp hform
        cases heq
        exact isPlain_defaultExport source hfound
      · split at hform
        · cases hform
        · obtain ⟨found, -, heq⟩ := Option.map_eq_some_iff.mp hform
          cases heq
  · exact absurd h (declaration_ne_exportDefault source tree declaration)

/-- The default exports of a parsed module declare no variables and import nothing. -/
theorem plainDefault_ofTree (path : String) (root : Tree) :
    ∀ statement ∈ (Module.ofTree path source root).body, PlainDefault statement := by
  intro statement hstatement declaration hdeclaration
  obtain ⟨tree, -, hform⟩ := form_of_mem_body hstatement
  exact plainDefault_statement source tree declaration (hform ▸ hdeclaration)

end RouteMigration.Proofs
