import RouteMigration.Batch.Migrate

/-!
# Schedules

The files of a batch are migrated by workers, some of them at the same time. Every file goes through stages
of its own: it waits for a worker, is read, perhaps emptied and written, and hands its result in. A schedule
says whose turn it is. Results come in as files are done and are put in the order of discovery at the end.
-/

namespace RouteMigration.Batch

/-- How far the migration of a file is. -/
inductive Stage where
  | waiting
  /-- A worker has the file. -/
  | taken
  /-- The file has been read, and nothing has been written. -/
  | examined (result : FileResult)
  /-- The file is open for writing, and empty. -/
  | emptied (result : FileResult)
  /-- The worker is done with the file. -/
  | settled (result : FileResult)
  /-- The result has been handed in. -/
  | collected
  deriving DecidableEq, Repr

def Stage.isBusy : Stage → Bool
  | .taken | .examined _ | .emptied _ => true
  | _ => false

structure Task where
  path : FilePath
  stage : Stage := .waiting
  deriving DecidableEq, Repr

/-- A batch while its files are being migrated. -/
structure Progress where
  tree : FileTree
  tasks : List Task
  /-- The results that have been handed in, by the indexes of their files. -/
  results : List (Nat × FileResult) := []
  deriving DecidableEq, Repr

namespace Progress

def start (tree : FileTree) (paths : List FilePath) : Progress where
  tree
  tasks := paths.map fun path => { path }

/-- The number of workers that have a file. -/
def busy (progress : Progress) : Nat :=
  progress.tasks.countP (·.stage.isBusy)

/-- Brings a task to another stage. -/
def enter (progress : Progress) (index : Nat) (stage : Stage) : Progress :=
  { progress with tasks := progress.tasks.modify index fun task => { task with stage } }

/-- The next step for a file, if it can take one. No more than `workers` files have a worker at a time. -/
def advance (settings : Settings) (write : Bool) (workers : Int) (progress : Progress) (index : Nat) :
    Option Progress := do
  let task ← progress.tasks[index]?
  match task.stage with
  | .waiting => if progress.busy < max 1 workers then some (progress.enter index .taken) else none
  | .taken =>
    let (result, _) := migrateFile settings progress.tree task.path
    some (progress.enter index (.examined result))
  | .examined result =>
    if write && result.output?.isSome then
      match progress.tree.write result.path [] with
      | .ok tree => some ({ progress with tree }.enter index (.emptied result))
      | .error _ =>
        let (result, _) := saveResult progress.tree result
        some (progress.enter index (.settled result))
    else some (progress.enter index (.settled result))
  | .emptied result =>
    let (result, tree) := saveResult progress.tree result
    some ({ progress with tree }.enter index (.settled result))
  | .settled result =>
    some ({ progress with results := (index, result) :: progress.results }.enter index .collected)
  | .collected => none

/-- Lets the files take steps in turn. -/
def follow (settings : Settings) (write : Bool) (workers : Int) (progress : Progress) :
    List Nat → Option Progress
  | [] => some progress
  | index :: schedule =>
    (progress.advance settings write workers index).bind fun next =>
      next.follow settings write workers schedule

def isDone (progress : Progress) : Bool :=
  progress.tasks.all (·.stage = .collected)

/-- The batch of the results, if all of them have been handed in. -/
def batch? (progress : Progress) : Option Batch :=
  ((List.range progress.tasks.length).mapM fun index => progress.results.lookup index).map fun results => { results }

end Progress

end RouteMigration.Batch
