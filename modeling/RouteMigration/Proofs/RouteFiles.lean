import Mathlib.Data.List.Sort
import RouteMigration.Proofs.FileTrees
import RouteMigration.Proofs.Migrations

/-!
# Route files

The files that a batch works on are told without a walk through the tree: they are what the paths lead to, and below
a folder what has the name of a route module and lies in no folder that is skipped. Each of them is found once, and
they come in the order of their components, so that nothing depends on how often or in which order the paths are
given, or on which of them lies below another.
-/

namespace RouteMigration.Proofs
open Batch

/-! ### Paths -/

/-- The root is made of slashes and no segment has any, as in a path that was written as a text. -/
structure IsNormal (path : FilePath) : Prop where
  root : path.root = "" ∨ path.root = "/" ∨ path.root = "//"
  segments : ∀ name ∈ path.segments, '/' ∉ name.toList

lemma not_mem_split {text piece : List Char} (h : piece ∈ FilePath.split text) : '/' ∉ piece := by
  induction text generalizing piece with
  | nil =>
    rw [FilePath.split, List.mem_singleton] at h
    rw [h]
    exact List.not_mem_nil
  | cons c rest ih =>
    rw [FilePath.split] at h
    split at h
    · rcases List.mem_cons.mp h with rfl | h
      · exact List.not_mem_nil
      · exact ih h
    · rename_i hslash
      split at h
      · rw [List.mem_singleton.mp h, List.mem_singleton]
        exact fun heq => hslash heq.symm
      · rename_i first more hsplit
        rcases List.mem_cons.mp h with rfl | h
        · have hfirst : '/' ∉ first := ih (by rw [hsplit]; exact List.mem_cons_self ..)
          rw [List.mem_cons]
          exact fun hmem => hmem.elim (fun heq => hslash heq.symm) hfirst
        · exact ih (by rw [hsplit]; exact List.mem_cons_of_mem _ h)

lemma isNormal_ofString (text : String) : IsNormal (.ofString text) where
  root := by
    unfold FilePath.ofString FilePath.rootLength
    dsimp only
    split
    · exact .inl rfl
    · exact .inr (.inr rfl)
    · exact .inr (.inl rfl)
  segments := by
    intro name hname
    obtain ⟨piece, hpiece, rfl⟩ := List.mem_map.mp hname
    rw [String.toList_ofList]
    exact not_mem_split (List.mem_of_mem_filter hpiece)

lemma IsNormal.descendant {path : FilePath} (h : IsNormal path) {names : List String}
    (hnames : ∀ name ∈ names, '/' ∉ name.toList) : IsNormal (path.descendant names) where
  root := h.root
  segments name hname := (List.mem_append.mp hname).elim (h.segments name) (hnames name)

/-- The components of a path in normal form tell the path: a root is no name. -/
lemma IsNormal.eq_of_components {a b : FilePath} (ha : IsNormal a) (hb : IsNormal b)
    (h : a.components = b.components) : a = b := by
  obtain ⟨root, segments⟩ := a
  obtain ⟨root', segments'⟩ := b
  have hrooted {path : FilePath} (hpath : IsNormal path) {root : String} {rest : List String} (hroot : '/' ∈ root.toList) :
      path.segments ≠ root :: rest :=
    fun heq => hpath.segments root (by rw [heq]; exact List.mem_cons_self ..) hroot
  unfold FilePath.components at h
  dsimp only at h
  split at h <;> split at h
  · rename_i hroot hroot'
    rw [hroot, hroot', h]
  · rename_i hroot'
    refine absurd h (hrooted ha ?_)
    rcases hb.root with hempty | hslash | hslash
    · exact absurd hempty hroot'
    · rw [show root' = "/" from hslash]; decide
    · rw [show root' = "//" from hslash]; decide
  · rename_i hroot _
    refine absurd h.symm (hrooted hb ?_)
    rcases ha.root with hempty | hslash | hslash
    · exact absurd hempty hroot
    · rw [show root = "/" from hslash]; decide
    · rw [show root = "//" from hslash]; decide
  · obtain ⟨rfl, rfl⟩ := List.cons.inj h
    rfl

/-! ### Order -/

instance : Std.Irrefl (α := FilePath) (· < ·) := ⟨fun path => List.lt_irrefl path.components⟩

instance : Std.Antisymm (α := FilePath) (· < ·) :=
  ⟨fun a _ hab hba => absurd (List.lt_trans hab hba) (List.lt_irrefl a.components)⟩

section Repetitions

variable {α : Type} [BEq α]

/-- Of two neighbours that are the same, the first stays. -/
lemma eraseReps_cons_cons (a b : α) (l : List α) :
    (a :: b :: l).eraseReps = if a == b then (a :: l).eraseReps else a :: (b :: l).eraseReps := by
  have hloop (l : List α) (a : α) (acc : List α) : List.eraseRepsBy.loop (· == ·) a l acc =
      acc.reverse ++ List.eraseRepsBy.loop (· == ·) a l [] := by
    induction l generalizing a acc with
    | nil => simp [List.eraseRepsBy.loop]
    | cons b l ih =>
      simp only [List.eraseRepsBy.loop]
      split
      · exact ih a acc
      · rw [ih b (a :: acc), ih b [a], List.reverse_cons, List.append_assoc]
        rfl
  simp only [List.eraseReps, List.eraseRepsBy, List.eraseRepsBy.loop]
  split
  · rename_i heq
    rw [if_pos heq]
  · rename_i heq
    rw [if_neg (by simp [heq]), hloop l b [a]]
    rfl

variable [LawfulBEq α]

lemma mem_eraseReps {a : α} {l : List α} : a ∈ l.eraseReps ↔ a ∈ l := by
  have hcons (l : List α) (b : α) : a ∈ (b :: l).eraseReps ↔ a ∈ b :: l := by
    induction l generalizing b with
    | nil => exact Iff.rfl
    | cons c l ih =>
      rw [eraseReps_cons_cons]
      split
      · rename_i heq
        obtain rfl := beq_iff_eq.mp heq
        rw [ih, List.mem_cons, List.mem_cons, List.mem_cons, or_self_left]
      · rw [List.mem_cons, ih, List.mem_cons (l := c :: l)]
  cases l with
  | nil => exact Iff.rfl
  | cons b l => exact hcons l b

/-- In an ordered list what is the same stands together, so that all repetitions go. -/
lemma pairwise_eraseReps {lt : α → α → Prop} {l : List α} (h : l.Pairwise fun a b => lt a b ∨ a = b)
    (htrans : ∀ a b c, lt a b → lt b c → lt a c) : l.eraseReps.Pairwise lt := by
  have hcons (l : List α) (a : α) (h : (a :: l).Pairwise fun a b => lt a b ∨ a = b) : (a :: l).eraseReps.Pairwise lt := by
    induction l generalizing a with
    | nil => exact List.pairwise_singleton ..
    | cons b l ih =>
      obtain ⟨hfirst, hrest⟩ := List.pairwise_cons.mp h
      rw [eraseReps_cons_cons]
      split
      · exact ih a (h.sublist (List.cons_sublist_cons.mpr (List.sublist_cons_self ..)))
      · rename_i hne
        have hab : lt a b := (hfirst b (List.mem_cons_self ..)).resolve_right fun heq => hne (beq_iff_eq.mpr heq)
        refine List.pairwise_cons.mpr ⟨fun c hc => ?_, ih b hrest⟩
        rcases List.mem_cons.mp (mem_eraseReps.mp hc) with rfl | hc
        · exact hab
        · rcases (List.pairwise_cons.mp hrest).1 c hc with hbc | rfl
          · exact htrans a b c hab hbc
          · exact hab
  cases l with
  | nil => exact .nil
  | cons a l => exact hcons l a h

end Repetitions

lemma mem_sorted {paths : List FilePath} {path : FilePath} : path ∈ sorted paths ↔ path ∈ paths := by
  rw [sorted, mem_eraseReps, List.mem_mergeSort]

/-- Plain paths are sorted strictly. -/
lemma pairwise_sorted {paths : List FilePath} (h : ∀ path ∈ paths, IsNormal path) : (sorted paths).Pairwise (· < ·) := by
  have hordered : (paths.mergeSort fun a b => !decide (b < a)).Pairwise fun a b => (!decide (b < a)) = true := by
    apply List.pairwise_mergeSort
    · intro a b c hab hbc
      rw [Bool.not_eq_true', decide_eq_false_iff_not] at hab hbc ⊢
      exact List.le_trans hab hbc
    · intro a b
      rw [Bool.or_eq_true, Bool.not_eq_true', Bool.not_eq_true', decide_eq_false_iff_not, decide_eq_false_iff_not]
      exact List.le_total a.components b.components
  refine pairwise_eraseReps ?_ fun _ _ _ => List.lt_trans
  refine hordered.imp_of_mem fun {a b} ha hb hab => ?_
  rw [Bool.not_eq_true', decide_eq_false_iff_not] at hab
  by_cases hlt : a < b
  · exact .inl hlt
  · right
    exact (h a (List.mem_mergeSort.mp ha)).eq_of_components (h b (List.mem_mergeSort.mp hb)) (List.le_antisymm hab hlt)

/-! ### Folders -/

section Folders

variable {tree : FileTree} {folder : Place} {name : String}

lemma dropLast_getLast?_iff {place : Place} :
    (place.dropLast = folder ∧ place.getLast? = some name) ↔ place = folder ++ [name] := by
  constructor
  · rintro ⟨rfl, hlast⟩
    exact (List.dropLast_append_getLast? name hlast).symm
  · rintro rfl
    simp

lemma isSome_content?_iff {place : Place} : (tree.content? place).isSome ↔ ∃ file ∈ tree.files, file.1 = place := by
  rw [isSome_content?, List.any_map, List.any_eq_true]
  exact exists_congr fun file => and_congr_right fun _ => decide_eq_true_iff

lemma mem_filesIn : name ∈ tree.filesIn folder ↔ (tree.content? (folder ++ [name])).isSome := by
  rw [isSome_content?_iff, FileTree.filesIn, List.mem_filterMap]
  refine exists_congr fun file => and_congr_right fun _ => ?_
  rw [← dropLast_getLast?_iff]
  dsimp only
  split
  · rename_i hfolder
    exact ⟨fun hlast => ⟨hfolder, hlast⟩, And.right⟩
  · rename_i hfolder
    exact ⟨nofun, fun h => absurd h.1 hfolder⟩

lemma prefix_concat_iff {place : Place} :
    folder ++ [name] <+: place ↔ folder <+: place ∧ place[folder.length]? = some name := by
  constructor
  · rintro ⟨rest, rfl⟩
    simp
  · rintro ⟨⟨rest, rfl⟩, hname⟩
    rw [List.getElem?_append_right (Nat.le_refl _), Nat.sub_self] at hname
    cases rest with
    | nil => cases hname
    | cons first rest =>
      obtain rfl : first = name := Option.some.inj hname
      exact ⟨rest, by simp⟩

lemma mem_foldersIn : name ∈ tree.foldersIn folder ↔ tree.isFolder (folder ++ [name]) := by
  have hfile {file : Place} : folder ++ [name] <+: file.dropLast ↔
      folder ++ [name] <+: file ∧ folder ++ [name] ≠ file := by
    constructor
    · intro h
      refine ⟨h.trans (List.dropLast_prefix _), ?_⟩
      rintro rfl
      have hlength := h.length_le
      rw [List.dropLast_concat, List.length_append, List.length_singleton] at hlength
      omega
    · rintro ⟨⟨rest, rfl⟩, hne⟩
      have hrest : rest ≠ [] := fun hnil => hne (by rw [hnil, List.append_nil])
      rw [List.dropLast_append_of_ne_nil hrest]
      exact List.prefix_append ..
  have hplaces : name ∈ tree.foldersIn folder ↔
      ∃ place, (place ∈ tree.files.map (·.1.dropLast) ++ tree.folders ++ [tree.here]) ∧ folder ++ [name] <+: place := by
    rw [FileTree.foldersIn, List.mem_eraseDups, List.mem_filterMap]
    refine exists_congr fun place => and_congr_right fun _ => ?_
    rw [prefix_concat_iff, ← List.isPrefixOf_iff_prefix]
    split
    · rename_i hfront
      exact ⟨fun h => ⟨hfront, h⟩, And.right⟩
    · rename_i hfront
      exact ⟨nofun, fun h => absurd h.1 hfront⟩
  rw [hplaces, FileTree.isFolder]
  simp only [List.mem_append, List.mem_map, List.mem_singleton, Bool.or_eq_true, List.any_eq_true, Bool.and_eq_true,
    List.isPrefixOf_iff_prefix, decide_eq_true_eq]
  constructor
  · rintro ⟨place, (⟨file, hmem, rfl⟩ | hmem) | rfl, hfront⟩
    · exact .inr ⟨file, hmem, hfile.mp hfront⟩
    · exact .inl (.inl ⟨place, hmem, hfront⟩)
    · exact .inl (.inr hfront)
  · rintro ((⟨place, hmem, hfront⟩ | hfront) | ⟨file, hmem, hfront⟩)
    · exact ⟨place, .inl (.inr hmem), hfront⟩
    · exact ⟨tree.here, .inr rfl, hfront⟩
    · exact ⟨file.1.dropLast, .inl (.inl ⟨file, hmem, rfl⟩), hfile.mpr hfront⟩

/-- What lies on the way to a file is a folder. -/
lemma isFolder_of_content? {first second : String} {rest : List String}
    (h : (tree.content? (folder ++ first :: second :: rest)).isSome) : tree.isFolder (folder ++ [first]) := by
  obtain ⟨file, hmem, hplace⟩ := isSome_content?_iff.mp h
  rw [FileTree.isFolder, Bool.or_eq_true]
  right
  rw [List.any_eq_true]
  refine ⟨file, hmem, ?_⟩
  change ((folder ++ [first]).isPrefixOf file.1 && decide (folder ++ [first] ≠ file.1)) = true
  rw [hplace]
  simp

lemma length_le_depth {place : Place} (h : (tree.content? place).isSome) : place.length ≤ tree.depth := by
  have hmax (lengths : List Nat) {n : Nat} (hn : n ∈ lengths) : n ≤ lengths.foldr max 0 := by
    induction lengths with
    | nil => cases hn
    | cons m lengths ih =>
      rw [List.foldr_cons]
      rcases List.mem_cons.mp hn with rfl | hn
      · omega
      · have := ih hn
        omega
  obtain ⟨file, hmem, rfl⟩ := isSome_content?_iff.mp h
  exact hmax _ (List.mem_map.mpr ⟨file, hmem, rfl⟩)

end Folders

/-! ### Walks -/

/-- The name of a folder that is neither hidden nor holds what was installed or built. -/
def IsEntered (name : String) : Prop :=
  name.toList.head? ≠ some '.' ∧ name ≠ "node_modules" ∧ name ≠ "build" ∧ name ≠ "dist"

lemma isSkippedFolder_eq_false_iff {name : String} : isSkippedFolder name = false ↔ IsEntered name := by
  rw [isSkippedFolder, Bool.or_eq_false_iff, decide_eq_false_iff_not, decide_eq_false_iff_not, skippedFolders,
    List.mem_cons, List.mem_cons, List.mem_singleton, not_or, not_or, IsEntered]
  tauto

/-- A file below a folder that has the name of a route module and lies in no folder that is skipped. -/
def IsRouteFile (settings : Settings) (tree : FileTree) (folder rest : Place) : Prop :=
  ∃ folders name, rest = folders ++ [name] ∧ (tree.content? (folder ++ rest)).isSome ∧
    (∃ extension ∈ settings.extensions, extension.toList <:+ name.toList) ∧ ∀ name ∈ folders, IsEntered name

variable {settings : Settings} {tree : FileTree}

lemma hasExtension_iff {extensions : List String} {name : String} :
    hasExtension extensions name = true ↔ ∃ extension ∈ extensions, extension.toList <:+ name.toList := by
  rw [hasExtension, List.any_eq_true]
  exact exists_congr fun _ => and_congr_right fun _ => List.isSuffixOf_iff_suffix

lemma not_isRouteFile_nil {folder : Place} : ¬ IsRouteFile settings tree folder [] := by
  rintro ⟨folders, name, hrest, -⟩
  exact absurd hrest.symm (List.append_ne_nil_of_right_ne_nil _ (List.cons_ne_nil _ _))

lemma isRouteFile_singleton {folder : Place} {name : String} : IsRouteFile settings tree folder [name] ↔
    (tree.content? (folder ++ [name])).isSome ∧ ∃ extension ∈ settings.extensions, extension.toList <:+ name.toList := by
  constructor
  · rintro ⟨folders, last, hrest, hfile, hname, -⟩
    obtain ⟨-, rfl⟩ := List.append_singleton_inj.mp ((List.nil_append [name]).trans hrest)
    exact ⟨hfile, hname⟩
  · rintro ⟨hfile, hname⟩
    exact ⟨[], name, rfl, hfile, hname, List.forall_mem_nil _⟩

/-- A file further down is below a folder that is entered. -/
lemma isRouteFile_cons {folder : Place} {first second : String} {rest : List String} :
    IsRouteFile settings tree folder (first :: second :: rest) ↔
      IsEntered first ∧ IsRouteFile settings tree (folder ++ [first]) (second :: rest) := by
  constructor
  · rintro ⟨folders, name, hrest, hfile, hname, hfolders⟩
    cases folders with
    | nil => cases hrest
    | cons other folders =>
      rw [List.cons_append, List.cons_eq_cons] at hrest
      obtain ⟨rfl, hrest⟩ := hrest
      obtain ⟨hfirst, hmore⟩ := List.forall_mem_cons.mp hfolders
      exact ⟨hfirst, folders, name, hrest, by rw [List.append_assoc]; exact hfile, hname, hmore⟩
  · rintro ⟨hfirst, folders, name, hrest, hfile, hname, hfolders⟩
    refine ⟨first :: folders, name, by rw [hrest, List.cons_append], ?_, hname, List.forall_mem_cons.mpr ⟨hfirst, hfolders⟩⟩
    rw [List.append_assoc] at hfile
    exact hfile

/-- A walk finds the route files that lie at most as many levels down as it goes. The induction follows the walk: a file
is in the folder itself or in one of the folders there. -/
theorem mem_routeFilesBelow {depth : Nat} {folder rest : Place} :
    rest ∈ routeFilesBelow settings tree depth folder ↔ rest.length ≤ depth ∧ IsRouteFile settings tree folder rest := by
  induction depth generalizing folder rest with
  | zero =>
    rw [routeFilesBelow, Nat.le_zero, List.length_eq_zero_iff]
    constructor
    · intro h
      cases h
    · rintro ⟨rfl, h⟩
      exact absurd h not_isRouteFile_nil
  | succ depth ih =>
    simp only [routeFilesBelow, List.mem_append, List.mem_map, List.mem_flatMap, List.mem_filter, mem_filesIn, mem_foldersIn,
      hasExtension_iff, Bool.not_eq_true', isSkippedFolder_eq_false_iff]
    constructor
    · rintro (⟨name, hname, rfl⟩ | ⟨name, ⟨-, hentered⟩, inner, hinner, rfl⟩)
      · exact ⟨by simp, isRouteFile_singleton.mpr hname⟩
      · obtain ⟨hlength, hfile⟩ := ih.mp hinner
        cases inner with
        | nil => exact absurd hfile not_isRouteFile_nil
        | cons second inner => exact ⟨Nat.succ_le_succ hlength, isRouteFile_cons.mpr ⟨hentered, hfile⟩⟩
    · rintro ⟨hlength, hfile⟩
      cases rest with
      | nil => exact absurd hfile not_isRouteFile_nil
      | cons first rest =>
        cases rest with
        | nil => exact .inl ⟨first, isRouteFile_singleton.mp hfile, rfl⟩
        | cons second rest =>
          obtain ⟨hentered, hinner⟩ := isRouteFile_cons.mp hfile
          obtain ⟨_, _, _, hcontent, -⟩ := hfile
          have hlength' : (second :: rest).length ≤ depth := Nat.le_of_succ_le_succ hlength
          exact .inr ⟨first, ⟨isFolder_of_content? hcontent, hentered⟩, _, ih.mpr ⟨hlength', hinner⟩, rfl⟩

/-- A path leads to its file, or to the route files below its folder. -/
def LeadsTo (settings : Settings) (tree : FileTree) (path found : FilePath) : Prop :=
  ∃ place, tree.resolve path = .ok place ∧
    ((tree.content? place).isSome ∧ found = path ∨
      (tree.content? place).isNone ∧ ∃ rest, found = path.descendant rest ∧ IsRouteFile settings tree place rest)

lemma mem_filesAt {path found : FilePath} :
    found ∈ (filesAt settings tree path).getD [] ↔ LeadsTo settings tree path found := by
  unfold filesAt LeadsTo
  cases hresolve : tree.resolve path with
  | error cause => simp
  | ok place =>
    simp only [Except.ok.injEq, exists_eq_left']
    by_cases hfile : (tree.content? place).isSome
    · rw [if_pos hfile, Option.getD_some, List.mem_singleton]
      have hsome : ¬ (tree.content? place).isNone := by rw [← Option.not_isSome, hfile]; exact Bool.false_ne_true
      simp [hfile, hsome]
    · have hnone : (tree.content? place).isNone := by rw [← Option.not_isSome]; simpa using hfile
      rw [if_neg hfile, Option.getD_some, List.mem_map]
      simp only [hfile, false_and, false_or, hnone, true_and, Bool.false_eq_true]
      refine exists_congr fun rest => ?_
      rw [mem_routeFilesBelow, and_comm, eq_comm]
      refine and_congr_right fun _ => and_iff_right_of_imp fun hrest => ?_
      obtain ⟨_, _, _, hcontent, -⟩ := hrest
      have hlength := length_le_depth hcontent
      rw [List.length_append] at hlength
      omega

lemma mem_discover {paths : List FilePath} {found : FilePath} :
    found ∈ discover settings tree paths ↔ ∃ path ∈ paths, LeadsTo settings tree path found := by
  rw [discover, mem_sorted, List.mem_flatMap]
  exact exists_congr fun path => and_congr_right fun _ => mem_filesAt

/-! ### Overlapping paths -/

/-- Following names that do not lead up. -/
lemma follow_names {place : Place} {names : List String} (hnames : ∀ name ∈ names, name ≠ "..") {last : Place}
    (h : tree.follow place names = .ok last) : last = place ++ names := by
  induction names generalizing place with
  | nil =>
    rw [FileTree.follow] at h
    rw [List.append_nil]
    exact (Except.ok.inj h).symm
  | cons name names ih =>
    obtain ⟨hname, hmore⟩ := List.forall_mem_cons.mp hnames
    rw [FileTree.follow] at h
    dsimp only at h
    rw [if_neg hname] at h
    split_ifs at h
    rw [ih hmore h, List.append_assoc]
    rfl

lemma follow_append {place middle last : Place} {names more : List String} (hnames : tree.follow place names = .ok middle)
    (h : tree.follow place (names ++ more) = .ok last) : tree.follow middle more = .ok last := by
  induction names generalizing place with
  | nil =>
    rw [FileTree.follow] at hnames
    rw [← Except.ok.inj hnames]
    exact h
  | cons name names ih =>
    rw [FileTree.follow] at hnames
    rw [List.cons_append, FileTree.follow] at h
    dsimp only at hnames h
    split_ifs at hnames h
    · exact ih hnames h
    · exact ih hnames h

lemma IsEntered.ne_up {name : String} (h : IsEntered name) : name ≠ ".." := by
  rintro rfl
  exact h.1 rfl

/-- A folder below another one, in none that is skipped, leads to nothing that the other does not lead to. -/
lemma leadsTo_descendant {path found : FilePath} {place : Place} {folders : List String}
    (hpath : tree.resolve path = .ok place) (hfolder : (tree.content? place).isNone)
    (hentered : ∀ name ∈ folders, IsEntered name)
    (hnested : ∀ inner, tree.resolve (path.descendant folders) = .ok inner → (tree.content? inner).isNone)
    (h : LeadsTo settings tree (path.descendant folders) found) : LeadsTo settings tree path found := by
  obtain ⟨inner, hinner, ⟨hfile, -⟩ | ⟨-, rest, rfl, hrest⟩⟩ := h
  · have hnone := hnested inner hinner
    rw [← Option.not_isSome, hfile] at hnone
    cases hnone
  · have hplace : inner = place ++ folders :=
      follow_names (fun name hname => (hentered name hname).ne_up) (follow_append hpath hinner)
    obtain ⟨more, name, rfl, hcontent, hname, hmore⟩ := hrest
    refine ⟨place, hpath, .inr ⟨hfolder, folders ++ (more ++ [name]), ?_, folders ++ more, name, ?_, ?_, hname, ?_⟩⟩
    · rw [FilePath.descendant, FilePath.descendant, FilePath.descendant, List.append_assoc]
    · rw [List.append_assoc]
    · rw [hplace, List.append_assoc] at hcontent
      exact hcontent
    · exact fun folder hmem => (List.mem_append.mp hmem).elim (hentered folder) (hmore folder)

/-! ### Discovery -/

/-- The names in a tree are those of single files and folders. -/
def HasNames (tree : FileTree) : Prop :=
  ∀ file ∈ tree.files, ∀ name ∈ file.1, '/' ∉ name.toList

lemma HasNames.isNormal (h : HasNames tree) {path found : FilePath} (hpath : IsNormal path)
    (hfound : LeadsTo settings tree path found) : IsNormal found := by
  obtain ⟨place, -, ⟨-, rfl⟩ | ⟨-, rest, rfl, _, _, -, hcontent, -⟩⟩ := hfound
  · exact hpath
  · obtain ⟨file, hmem, hplace⟩ := isSome_content?_iff.mp hcontent
    refine hpath.descendant fun name hname => h file hmem name ?_
    rw [hplace]
    exact List.mem_append_right _ hname

lemma pairwise_discover (h : HasNames tree) {paths : List FilePath} (hpaths : ∀ path ∈ paths, IsNormal path) :
    (discover settings tree paths).Pairwise (· < ·) := by
  refine pairwise_sorted fun found hfound => ?_
  obtain ⟨path, hpath, hfound⟩ := mem_discover.mp (mem_sorted.mpr hfound)
  exact h.isNormal (hpaths path hpath) hfound

/-- What is found does not depend on more than the files that the paths lead to. -/
lemma discover_congr (h : HasNames tree) {paths paths' : List FilePath} (hpaths : ∀ path ∈ paths, IsNormal path)
    (hpaths' : ∀ path ∈ paths', IsNormal path)
    (hsame : ∀ found, (∃ path ∈ paths', LeadsTo settings tree path found) ↔
      ∃ path ∈ paths, LeadsTo settings tree path found) :
    discover settings tree paths' = discover settings tree paths :=
  (pairwise_discover h hpaths').eq_of_mem_iff (pairwise_discover h hpaths) fun found => by
    rw [mem_discover, mem_discover, hsame]

/-- Routes beside a note, a folder that is hidden and one that holds packages. -/
def nestedTree : FileTree where
  files := [
    (["app", "routes", "notes.md"], []),
    (["app", "routes", "b", "index.ts"], []),
    (["app", "routes", ".cache", "x.tsx"], []),
    (["app", "routes", "b", "node_modules", "y.tsx"], []),
    (["app.d", "c.js"], []),
    (["app", "routes", "a.tsx"], [])]

/-- A folder, the one around it, and files by themselves, some of them twice. -/
def nestedPaths : List FilePath :=
  ["app/routes/b", "app.d", "app/routes/notes.md", "app/", "./app//routes/a.tsx", "lost", "app"].map .ofString

/-- What there is to be found, in order. -/
def nestedRoutes : List FilePath :=
  ["app/routes/a.tsx", "app/routes/b/index.ts", "app/routes/notes.md", "app.d/c.js"].map .ofString

end RouteMigration.Proofs
