import Mathlib.Data.List.Basic
import Mathlib.Tactic.Common
import RouteMigration.Batch.Schedule

/-!
# Schedules

Every turn of a schedule takes one file one stage further. A file has five stages before it, so a schedule ends; and
until the batch is done there is always a file whose turn it may be, since a file that waits only waits for a worker.
-/

namespace RouteMigration.Proofs
open Batch

variable {settings : Settings} {write : Bool} {workers : Int} {progress next : Progress} {index : Nat}

/-! ### The step of a file -/

/-- A step of one file: the stage before and after, the tree after, and the result that is handed in. -/
inductive Step (settings : Settings) (write : Bool) (tree : FileTree) (path : FilePath) :
    Stage → Stage → FileTree → Option FileResult → Prop where
  | take : Step settings write tree path .waiting .taken tree none
  | examine : Step settings write tree path .taken (.examined (migrateFile settings tree path).1) tree none
  | keep {result : FileResult} (hidle : write = false ∨ result.output? = none) :
    Step settings write tree path (.examined result) (.settled result) tree none
  | refuse {result : FileResult} {fault : FileTree.Fault} (hwrite : write = true) (houtput : result.output?.isSome)
      (hfault : tree.write result.path [] = .error fault) :
    Step settings write tree path (.examined result) (.settled (saveResult tree result).1) tree none
  | empty {result : FileResult} {after : FileTree} (hwrite : write = true) (houtput : result.output?.isSome)
      (hafter : tree.write result.path [] = .ok after) :
    Step settings write tree path (.examined result) (.emptied result) after none
  | save {result : FileResult} :
    Step settings write tree path (.emptied result) (.settled (saveResult tree result).1) (saveResult tree result).2
      none
  | collect {result : FileResult} : Step settings write tree path (.settled result) .collected tree (some result)

/-- A turn of a file: what it changes, and that only a free worker takes a file. -/
structure Turn (settings : Settings) (write : Bool) (workers : Int) (progress next : Progress) (index : Nat)
    (task : Task) (stage : Stage) (given : Option FileResult) : Prop where
  found : progress.tasks[index]? = some task
  free : task.stage = .waiting → progress.busy < max 1 workers
  step : Step settings write progress.tree task.path task.stage stage next.tree given
  tasks : next.tasks = progress.tasks.modify index fun task => { task with stage }
  results : next.results = (given.map (index, ·)).toList ++ progress.results

lemma advance_eq_some (h : progress.advance settings write workers index = some next) :
    ∃ task stage given, Turn settings write workers progress next index task stage given := by
  rw [Progress.advance, Option.bind_eq_bind, Option.bind_eq_some_iff] at h
  obtain ⟨task, hfound, h⟩ := h
  obtain ⟨path, stage⟩ := task
  cases stage with
  | waiting =>
    dsimp only at h
    split at h
    · rename_i hfree
      obtain rfl := Option.some.inj h
      exact ⟨_, _, _, ⟨hfound, fun _ => hfree, .take, rfl, rfl⟩⟩
    · cases h
  | taken =>
    obtain rfl := Option.some.inj h
    exact ⟨_, _, _, ⟨hfound, nofun, .examine, rfl, rfl⟩⟩
  | examined result =>
    dsimp only at h
    split at h
    · rename_i hsave
      obtain ⟨hwrite, houtput⟩ := Bool.and_eq_true_iff.mp hsave
      split at h
      · rename_i after hafter
        obtain rfl := Option.some.inj h
        exact ⟨_, _, _, ⟨hfound, nofun, .empty hwrite houtput hafter, rfl, rfl⟩⟩
      · rename_i fault hfault
        obtain rfl := Option.some.inj h
        exact ⟨_, _, _, ⟨hfound, nofun, .refuse hwrite houtput hfault, rfl, rfl⟩⟩
    · rename_i hidle
      obtain rfl := Option.some.inj h
      have hidle : write = false ∨ result.output? = none := by simpa [imp_iff_not_or] using hidle
      exact ⟨_, _, _, ⟨hfound, nofun, .keep hidle, rfl, rfl⟩⟩
  | emptied result =>
    obtain rfl := Option.some.inj h
    exact ⟨_, _, _, ⟨hfound, nofun, .save, rfl, rfl⟩⟩
  | settled result =>
    obtain rfl := Option.some.inj h
    exact ⟨_, _, _, ⟨hfound, nofun, .collect, rfl, rfl⟩⟩
  | collected => cases h

/-- A file that has not handed in its result can take a step, once it has a worker. -/
lemma exists_advance {task : Task} (hfound : progress.tasks[index]? = some task) (hopen : task.stage ≠ .collected)
    (hfree : task.stage = .waiting → progress.busy < max 1 workers) :
    ∃ next, progress.advance settings write workers index = some next := by
  rw [Progress.advance, Option.bind_eq_bind, hfound, Option.bind_some]
  obtain ⟨path, stage⟩ := task
  cases stage with
  | waiting => exact ⟨_, if_pos (hfree rfl)⟩
  | taken => exact ⟨_, rfl⟩
  | examined result =>
    dsimp only
    split
    · split
      · exact ⟨_, rfl⟩
      · exact ⟨_, rfl⟩
    · exact ⟨_, rfl⟩
  | emptied result => exact ⟨_, rfl⟩
  | settled result => exact ⟨_, rfl⟩
  | collected => exact absurd rfl hopen

/-! ### The stages before a file -/

/-- The number of steps that a file may still take. -/
def stepsLeft : Stage → Nat
  | .waiting => 5
  | .taken => 4
  | .examined _ => 3
  | .emptied _ => 2
  | .settled _ => 1
  | .collected => 0

lemma Step.stepsLeft_lt {tree after : FileTree} {path : FilePath} {before stage : Stage} {given : Option FileResult}
    (h : Step settings write tree path before stage after given) : stepsLeft stage < stepsLeft before := by
  cases h <;> simp [stepsLeft]

/-- The sum of a measure over a list. -/
def total {α : Type} (measure : α → Nat) : List α → Nat
  | [] => 0
  | a :: rest => measure a + total measure rest

lemma total_modify {α : Type} {l : List α} {i : Nat} {a : α} (hfound : l[i]? = some a) (f : α → α) (measure : α → Nat) :
    total measure (l.modify i f) + measure a = total measure l + measure (f a) := by
  induction l generalizing i with
  | nil => cases hfound
  | cons b rest ih =>
    cases i with
    | zero =>
      obtain rfl := Option.some.inj hfound
      simp only [List.modify_zero_cons, total]
      omega
    | succ i =>
      have hrest := ih hfound
      simp only [List.modify_succ_cons, total]
      omega

/-- The number of turns that a batch may still take. -/
def turnsLeft (progress : Progress) : Nat :=
  total (fun task => stepsLeft task.stage) progress.tasks

lemma advance_turnsLeft (h : progress.advance settings write workers index = some next) :
    turnsLeft next < turnsLeft progress := by
  obtain ⟨task, stage, given, hturn⟩ := advance_eq_some h
  have htotal := total_modify hturn.found (fun task => { task with stage }) fun task => stepsLeft task.stage
  dsimp only at htotal
  have hstep := hturn.step.stepsLeft_lt
  rw [turnsLeft, turnsLeft, hturn.tasks]
  omega

/-- A property that no turn breaks holds after every schedule. -/
lemma follow_induction {P : Progress → Prop} {schedule : List Nat}
    (hstep : ∀ progress next index, P progress → progress.advance settings write workers index = some next → P next)
    (hstart : P progress) (h : progress.follow settings write workers schedule = some next) : P next := by
  induction schedule generalizing progress with
  | nil => exact Option.some.inj h ▸ hstart
  | cons index rest ih =>
    obtain ⟨first, hfirst, hrest⟩ := Option.bind_eq_some_iff.mp h
    exact ih (hstep _ _ _ hstart hfirst) hrest

theorem follow_turnsLeft {schedule : List Nat} (h : progress.follow settings write workers schedule = some next) :
    schedule.length + turnsLeft next ≤ turnsLeft progress := by
  induction schedule generalizing progress with
  | nil =>
    obtain rfl := Option.some.inj h
    exact Nat.le_of_eq (Nat.zero_add _)
  | cons index rest ih =>
    obtain ⟨first, hfirst, hrest⟩ := Option.bind_eq_some_iff.mp h
    have hturn := advance_turnsLeft hfirst
    have hlater := ih hrest
    rw [List.length_cons]
    omega

lemma turnsLeft_start (tree : FileTree) (paths : List FilePath) : turnsLeft (.start tree paths) = 5 * paths.length := by
  rw [turnsLeft, Progress.start]
  induction paths with
  | nil => rfl
  | cons path rest ih =>
    rw [List.map_cons, total, ih, List.length_cons, stepsLeft]
    omega

/-- While a batch is not done, some file can take a step. -/
theorem exists_next (settings : Settings) (write : Bool) (workers : Int) (hopen : progress.isDone = false) :
    ∃ index next, progress.advance settings write workers index = some next := by
  by_cases hactive : ∃ task ∈ progress.tasks, task.stage ≠ .collected ∧ task.stage ≠ .waiting
  · obtain ⟨task, htask, hcollected, hwaiting⟩ := hactive
    obtain ⟨index, hfound⟩ := List.mem_iff_getElem?.mp htask
    obtain ⟨next, hnext⟩ := exists_advance hfound hcollected fun h => absurd h hwaiting
    exact ⟨index, next, hnext⟩
  · -- nobody has a worker, so there is one for a file that waits
    have hidle : ∀ task ∈ progress.tasks, task.stage = .collected ∨ task.stage = .waiting := by
      intro task htask
      by_contra hneither
      exact hactive ⟨task, htask, not_or.mp hneither⟩
    have hbusy : progress.busy = 0 := by
      rw [Progress.busy, List.countP_eq_zero]
      intro task htask
      rcases hidle task htask with h | h
      · rw [h]
        exact Bool.false_ne_true
      · rw [h]
        exact Bool.false_ne_true
    obtain ⟨task, htask, hcollected⟩ : ∃ task ∈ progress.tasks, task.stage ≠ .collected := by
      simpa [Progress.isDone] using hopen
    obtain ⟨index, hfound⟩ := List.mem_iff_getElem?.mp htask
    have hfree : progress.busy < max 1 workers := by
      rw [hbusy]
      exact Int.lt_of_lt_of_le Int.zero_lt_one (Int.le_max_left ..)
    obtain ⟨next, hnext⟩ := exists_advance hfound hcollected fun _ => hfree
    exact ⟨index, next, hnext⟩

/-- Every schedule can be continued to the end of the batch. -/
theorem exists_follow_done (settings : Settings) (write : Bool) (workers : Int) (progress : Progress) :
    ∃ schedule last, progress.follow settings write workers schedule = some last ∧ last.isDone = true := by
  induction hleft : turnsLeft progress using Nat.strongRecOn generalizing progress with
  | ind left ih =>
    cases hdone : progress.isDone with
    | true => exact ⟨[], progress, rfl, hdone⟩
    | false =>
      obtain ⟨index, next, hnext⟩ := exists_next settings write workers hdone
      obtain ⟨rest, last, hrest, hlast⟩ := ih _ (hleft ▸ advance_turnsLeft hnext) next rfl
      refine ⟨index :: rest, last, ?_, hlast⟩
      rw [Progress.follow, hnext]
      exact hrest

/-! ### The workers -/

lemma total_toNat {α : Type} (p : α → Bool) (l : List α) : total (fun a => (p a).toNat) l = l.countP p := by
  induction l with
  | nil => rfl
  | cons a rest ih =>
    rw [total, ih, List.countP_cons]
    cases p a with
    | true => exact Nat.add_comm ..
    | false => exact Nat.zero_add _

/-- A file that has a worker after a step had one before, or has just got it. -/
lemma Step.isBusy {tree after : FileTree} {path : FilePath} {before stage : Stage} {given : Option FileResult}
    (h : Step settings write tree path before stage after given) (hwaiting : before ≠ .waiting) :
    stage.isBusy.toNat ≤ before.isBusy.toNat := by
  cases h with
  | take => exact absurd rfl hwaiting
  | examine => exact Nat.le_refl _
  | keep _ => exact Nat.zero_le _
  | refuse _ _ _ => exact Nat.zero_le _
  | empty _ _ _ => exact Nat.le_refl _
  | save => exact Nat.zero_le _
  | collect => exact Nat.le_refl _

lemma advance_busy (hbusy : progress.busy ≤ max 1 workers)
    (h : progress.advance settings write workers index = some next) : next.busy ≤ max 1 workers := by
  obtain ⟨task, stage, given, hturn⟩ := advance_eq_some h
  have htotal := total_modify hturn.found (fun task => { task with stage }) fun task => task.stage.isBusy.toNat
  rw [total_toNat fun task : Task => task.stage.isBusy, total_toNat fun task : Task => task.stage.isBusy,
    ← hturn.tasks] at htotal
  dsimp only at htotal
  rw [Progress.busy] at hbusy ⊢
  by_cases hwaiting : task.stage = .waiting
  · have hfree := hturn.free hwaiting
    have hone := Bool.toNat_le stage.isBusy
    rw [Progress.busy] at hfree
    omega
  · have hstep := hturn.step.isBusy hwaiting
    omega

lemma busy_start (tree : FileTree) (paths : List FilePath) : (Progress.start tree paths).busy = 0 := by
  rw [Progress.busy, Progress.start, List.countP_eq_zero]
  intro task htask
  obtain ⟨path, -, rfl⟩ := List.mem_map.mp htask
  exact Bool.false_ne_true

/-- No more files are worked on at a time than there are workers. -/
theorem follow_busy {tree : FileTree} {paths : List FilePath} {schedule : List Nat}
    (h : (Progress.start tree paths).follow settings write workers schedule = some progress) :
    progress.busy ≤ max 1 workers := by
  refine follow_induction (fun _ _ _ => advance_busy) ?_ h
  rw [busy_start]
  exact Int.le_trans (Int.le_of_lt Int.zero_lt_one) (Int.le_max_left ..)

end RouteMigration.Proofs
