import RouteMigration.Batch.Migrate

/-!
# Reports

A report lists the files of a batch with their routes, and below that the advisories and the failures.
-/

namespace RouteMigration

/-- A file in a report. -/
structure ReportEntry where
  path : FilePath
  status : FileStatus
  routePath : Option String := none
  advisories : List String := []
  error : Option String := none
  deriving DecidableEq, Repr

def FileResult.reportEntry (result : FileResult) : ReportEntry where
  path := result.path
  status := result.status
  routePath := result.routePath?
  advisories := result.advisories
  error := result.error?

structure ReportRow where
  path : String
  route : String
  status : String
  deriving DecidableEq, Repr

/-- A remark about a file. -/
structure ReportNote where
  path : String
  text : String
  deriving DecidableEq, Repr

structure Report where
  summary : String
  rows : List ReportRow
  advisories : List ReportNote
  failures : List ReportNote
  deriving DecidableEq, Repr

namespace Report

/-- Text that is there and not empty. -/
def nonempty (text : Option String) : Option String :=
  text.filter (· ≠ "")

/-- A path as seen from `base`, when it lies below. -/
def shown (base : Option FilePath) (path : FilePath) : String :=
  ((base.bind path.relativeTo).getD path).toString

def row (base : Option FilePath) (entry : ReportEntry) : ReportRow where
  path := shown base entry.path
  route := (nonempty entry.routePath).elim "" fun route => s!"\x60{route}\x60"
  status := entry.status.name

def count (status : FileStatus) (entries : List ReportEntry) : Nat :=
  entries.countP (·.status = status)

def summaryOf (entries : List ReportEntry) : String :=
  s!"{entries.length} file(s): {count .migrated entries} migrated, " ++
    s!"{count .unchanged entries} unchanged, {count .failed entries} failed."

/-- The report on some files; paths are shown as seen from `base`. -/
def ofEntries (base : Option FilePath) (entries : List ReportEntry) : Report where
  summary := summaryOf entries
  rows := entries.map (row base)
  advisories := entries.flatMap fun entry =>
    entry.advisories.map fun text => ⟨shown base entry.path, text⟩
  failures := (entries.filter (·.status = .failed)).map fun entry =>
    ⟨shown base entry.path, (nonempty entry.error).getD "unknown error"⟩

/-- The report on a batch. -/
def ofBatch (base : Option FilePath) (batch : Batch) : Report :=
  ofEntries base (batch.results.map FileResult.reportEntry)

end Report

end RouteMigration
